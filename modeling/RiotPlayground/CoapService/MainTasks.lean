import RiotPlayground.CoapService.MainCalls

/-!
# The main tasks of the service

The service keeps the arguments of `main` as the parameters they bind to. Each of its steps is one
or more steps of the main tasks with the arguments as they are passed, or none.
-/

namespace RiotPlayground

namespace CoapService

/-- A main task of the service, with its arguments. -/
inductive Task.Is : Task → Main → Prop
  | spawned {c : Arguments} {a : MainArgs} (h : c.Binds a) : Is (.spawned c) (.spawned a)
  | request {l : Locals} {a : MainArgs} (h : l.Is a) (o : ℕ) (p : Progress) :
      Is (.running l) (.request a o p)
  | shutdown {l : Locals} {a : MainArgs} (h : l.Is a) (ctx : ℕ) : Is (.running l) (.shutdown a ctx)
  | ended : Is .ended .ended

/-- The service has these main tasks. -/
structure Mirrors (s : Service) (t : Tasks) : Prop where
  count : t.count = s.mains
  mainArgs : Option.Rel Locals.Is t.mainArgs s.mainArgs
  json : Option.Rel (fun l j => ∃ a, l.Is a ∧ j = ⟨corerd a, corerdAnchor a, a.httpPort⟩)
    t.json s.json
  task : ∀ i, Task.Is (t.task i) (s.main i)

/-- The main tasks, their arguments and the file are those of `s`. -/
structure SameMains (s s' : Service) : Prop where
  mains : s'.mains = s.mains
  mainArgs : s'.mainArgs = s.mainArgs
  json : s'.json = s.json
  main : s'.main = s.main

namespace SameMains

open Service

lemma restartNodes (s : Service) (r : ℕ) : SameMains s (s.restartNodes r) := by
  unfold Service.restartNodes cancelMainObserver
  dsimp only
  split <;> exact ⟨rfl, rfl, rfl, rfl⟩

lemma postReboots (s : Service) (r : ℕ) : SameMains s (s.postReboots r) := by
  unfold Service.postReboots
  split
  · exact restartNodes s r
  · exact ⟨rfl, rfl, rfl, rfl⟩

lemma callClient (s : Service) : SameMains s s.callClient := by
  unfold Service.callClient
  split <;> exact ⟨rfl, rfl, rfl, rfl⟩

end SameMains

namespace Mirrors

open Service

variable {s : Service} {t : Tasks}

/-- Reached in any number of steps. -/
def Follows (t : Tasks) (s : Service) : Prop :=
  ∃ t', Tasks.system.Reach (fun _ _ => True) t t' ∧ Mirrors s t'

lemma frame (h : Mirrors s t) {s' : Service} (hsame : SameMains s s') : Mirrors s' t :=
  ⟨hsame.mains ▸ h.count, hsame.mainArgs ▸ h.mainArgs, hsame.json ▸ h.json, hsame.main ▸ h.task⟩

lemma update (h : Mirrors s t) (i : ℕ) {k : Task} {m : Main} (hk : k.Is m) :
    ∀ j, Task.Is (Function.update t.task i k j) (Function.update s.main i m j) := by
  intro j
  by_cases hj : j = i
  · rw [hj, Function.update_self, Function.update_self]
    exact hk
  · rw [Function.update_of_ne hj, Function.update_of_ne hj]
    exact h.task j

lemma setTask (h : Mirrors s t) (i : ℕ) {k : Task} {m : Main} (hk : k.Is m) :
    Mirrors (s.setMain i m) (t.setTask i k) :=
  ⟨h.count, h.mainArgs, h.json, h.update i hk⟩

lemma spawn (h : Mirrors s t) {c : Arguments} {a : MainArgs} (hc : c.Binds a) :
    Mirrors (s.spawnMain a) (t.spawn c) := by
  refine ⟨congrArg (· + 1) h.count, h.mainArgs, h.json, ?_⟩
  have hcount := h.count
  unfold Tasks.spawn
  rw [hcount]
  exact h.update s.mains (.spawned hc)

/-- A task that is what it was, as seen from its arguments. -/
lemma setMain (h : Mirrors s t) {i : ℕ} {m : Main} (hm : (t.task i).Is m) :
    Mirrors (s.setMain i m) t := by
  have hset := h.setTask i hm
  unfold Tasks.setTask at hset
  rwa [Function.update_eq_self] at hset

lemma follows_restart (h : Mirrors s t) {i : ℕ} {l : Locals} {a : MainArgs}
    (htask : t.task i = .running l) (hl : l.Is a) : Follows t (s.restart i a) := by
  have hstep : Tasks.system.step t (.restart i) =
      some ((t.setTask i .ended).spawn (.ofRestart l)) := by
    simp only [Tasks.system, Tasks.step, htask]
  have hended : Mirrors (s.setMain i .ended) (t.setTask i .ended) := h.setTask i .ended
  exact ⟨_, .step .refl trivial hstep, hended.spawn (Arguments.binds_ofRestart hl)⟩

lemma follows_mainAfter (h : Mirrors s t) {i o : ℕ} {l : Locals} {a : MainArgs} {p : Progress}
    (htask : t.task i = .running l) (hl : l.Is a) : Follows t (s.mainAfter i a o p) := by
  have hkept {m : Main} (hm : (Task.running l).Is m) : Follows t (s.setMain i m) :=
    ⟨t, .refl, h.setMain (htask ▸ hm)⟩
  unfold mainAfter
  split
  · split
    · exact hkept (.shutdown hl _)
    · exact h.follows_restart htask hl
  · have hstep : Tasks.system.step t (.raised i) = some (t.setTask i .ended) := by
      simp only [Tasks.system, Tasks.step, htask]
    exact ⟨_, .step .refl trivial hstep, h.setTask i .ended⟩
  · exact hkept (.request hl o _)

/-- What `main` does up to its request. -/
lemma prepareMain_frame (s : Service) (a : MainArgs) : (s.prepareMain a).1.mains = s.mains ∧
    (s.prepareMain a).1.main = s.main ∧ (s.prepareMain a).1.mainArgs = some a ∧
    (s.prepareMain a).1.json = some ⟨corerd a, corerdAnchor a, a.httpPort⟩ := by
  unfold prepareMain
  dsimp only
  split <;> exact ⟨rfl, rfl, rfl, rfl⟩

lemma mainAfter_setMain (s : Service) (i : ℕ) (m : Main) (a : MainArgs) (o : ℕ) (p : Progress) :
    (s.setMain i m).mainAfter i a o p = s.mainAfter i a o p := by
  have hset (m' : Main) : (s.setMain i m).setMain i m' = s.setMain i m' := by
    simp only [Service.setMain, Function.update_idem]
  unfold mainAfter restart
  simp only [hset]
  rfl

lemma Follows.trans {t' : Tasks} (hreach : Tasks.system.Reach (fun _ _ => True) t t')
    (h : Follows t' s) : Follows t s := by
  obtain ⟨u, hu, hmirrors⟩ := h
  exact ⟨u, hreach.trans hu, hmirrors⟩

lemma binds_of_spawned (h : Mirrors s t) {i : ℕ} {a : MainArgs} (hmain : s.main i = .spawned a) :
    ∃ c l, t.task i = .spawned c ∧ c.bindMain = some l ∧ l.Is a := by
  have htask := h.task i
  rw [hmain] at htask
  generalize t.task i = k at htask
  cases htask with
  | spawned hc =>
    obtain ⟨l, hbind, hl⟩ := hc
    exact ⟨_, l, rfl, hbind, hl⟩

lemma follows_beginMain (h : Mirrors s t) {i : ℕ} {a : MainArgs} (hmain : s.main i = .spawned a) :
    Follows t (s.beginMain i a) := by
  obtain ⟨c, l, htask, hbind, hl⟩ := h.binds_of_spawned hmain
  have hstep : Tasks.system.step t (.begin i) =
      some ({ t with mainArgs := some l, json := some l }.setTask i (.running l)) := by
    simp only [Tasks.system, Tasks.step, htask, hbind]
  apply Follows.trans (.step .refl trivial hstep)
  obtain ⟨hmains, hmain', hargs, hjson⟩ := prepareMain_frame s a
  obtain ⟨u, hu⟩ : ∃ u, u = (s.prepareMain a).1.setGlobals
    ((s.prepareMain a).1.globals.request (s.prepareMain a).2).1 := ⟨_, rfl⟩
  have hbegun : Mirrors (u.setMain i (.request a (s.prepareMain a).2 .client))
      ({ t with mainArgs := some l, json := some l }.setTask i (.running l)) := by
    have hmain' : u.main = s.main := hu ▸ hmain'
    refine ⟨h.count.trans (hu ▸ hmains.symm), ?_, ?_, ?_⟩
    · have hargs : u.mainArgs = some a := hu ▸ hargs
      exact hargs.symm ▸ .some hl
    · have hjson : u.json = some ⟨corerd a, corerdAnchor a, a.httpPort⟩ := hu ▸ hjson
      exact hjson.symm ▸ .some ⟨a, hl, rfl⟩
    · change ∀ j, Task.Is (Function.update t.task i _ j) (Function.update u.main i _ j)
      rw [hmain']
      exact h.update i (.request hl _ _)
  have htask' : ({ t with mainArgs := some l, json := some l }.setTask i (.running l)).task i =
      .running l := Function.update_self ..
  have hbegin : s.beginMain i a = u.mainAfter i a (s.prepareMain a).2
      ((s.prepareMain a).1.globals.request (s.prepareMain a).2).2 := by
    rw [hu]
    rfl
  rw [hbegin, ← mainAfter_setMain]
  exact hbegun.follows_mainAfter htask' hl

lemma follows_respawn (h : Mirrors s t) : Follows t s.respawn := by
  have hargs := h.mainArgs
  unfold respawn
  split
  · rename_i a hsome
    rw [hsome] at hargs
    obtain ⟨l, hl, his⟩ : ∃ l, t.mainArgs = some l ∧ l.Is a := by
      cases hk : t.mainArgs with
      | none =>
        rw [hk] at hargs
        cases hargs
      | some l =>
        rw [hk] at hargs
        cases hargs with
        | some hl => exact ⟨l, rfl, hl⟩
    have hstep : Tasks.system.step t .reboot = some (t.spawn (.ofLocals l)) := by
      simp only [Tasks.system, Tasks.step, hl]
    exact ⟨_, .step .refl trivial hstep, h.spawn (Arguments.binds_ofLocals his)⟩
  · exact ⟨t, .refl, h⟩

theorem follows_step {L : Libs} {s' : Service} {e : Service.Event} (h : Mirrors s t)
    (hs : Service.step L s e = some s') : Follows t s' := by
  have hframe {u : Service} (hsame : SameMains s u) : Follows t u := ⟨t, .refl, h.frame hsame⟩
  have hglobals (g : Globals) : Mirrors (s.setGlobals g) t := h.frame ⟨rfl, rfl, rfl, rfl⟩
  cases does_of_step L hs with
  | begin hmain => exact h.follows_beginMain hmain
  | @openRaised i a hmain =>
    obtain ⟨c, l, htask, hbind, hl⟩ := h.binds_of_spawned hmain
    have hstep : Tasks.system.step t (.openRaised i) =
        some ({ t with mainArgs := some l }.setTask i .ended) := by
      simp only [Tasks.system, Tasks.step, htask, hbind]
    exact ⟨_, .step .refl trivial hstep, h.count, .some hl, h.json, h.update i .ended⟩
  | @main i o r a p p' g hmain hres =>
    have his := h.task i
    rw [hmain] at his
    generalize htask : t.task i = k at his
    cases his with
    | request hl => exact (hglobals g).follows_mainAfter htask hl
  | @shutDown i ctx a hmain =>
    have his := h.task i
    rw [hmain] at his
    generalize htask : t.task i = k at his
    cases his with
    | shutdown hl => exact (hglobals _).follows_restart htask hl
  | @rebootSlept r hreboot =>
    have hended : Mirrors (s.setReboot r .ended) t := h.frame ⟨rfl, rfl, rfl, rfl⟩
    exact hended.follows_respawn
  | reboot hreboot hclient => exact hframe (.postReboots s _)
  | rebootCreated hreboot =>
    have hassigned : Mirrors s.assign t := h.frame ⟨rfl, rfl, rfl, rfl⟩
    exact ⟨t, .refl, hassigned.frame (.postReboots s.assign _)⟩
  | rebootPosted hreboot => exact hframe (.restartNodes s _)
  | call => exact hframe (.callClient s)
  | register hregisters => exact ⟨t, .refl, (hglobals _).frame (.callClient _)⟩
  | _ => exact hframe ⟨rfl, rfl, rfl, rfl⟩

lemma init_mirrors (a : MainArgs) : Mirrors (Service.init a) (Tasks.init a) := by
  refine ⟨rfl, .none, .none, ?_⟩
  intro i
  by_cases hi : i = 0
  · subst hi
    exact .spawned (Arguments.binds_ofCommandLine a)
  · rw [init_main_of_ne a hi]
    have htask : (Tasks.init a).task i = .ended := by simp [Tasks.init, hi]
    rw [htask]
    exact .ended

/-- In every state of the service the main tasks and their arguments are ones that the calls of
`main` lead to. -/
theorem follows_reach {L : Libs} {a : MainArgs} {C : Service → Service.Event → Prop}
    (h : (Service.system L).Reach C (Service.init a) s) : Follows (Tasks.init a) s := by
  apply h.invariant (P := Follows (Tasks.init a))
  · exact ⟨_, .refl, init_mirrors a⟩
  · intro u e u' hu _ hs
    obtain ⟨t, ht, hmirrors⟩ := hu
    exact (hmirrors.follows_step hs).trans ht

/-- With the default port, the service names the port it listens on. -/
theorem json_port_of_default {L : Libs} {a : MainArgs} {C : Service → Service.Event → Prop}
    (hport : a.httpPort = 5656) (h : (Service.system L).Reach C (Service.init a) s)
    {j : ServiceJson} (hj : s.json = some j) : j.port = a.httpPort := by
  obtain ⟨t, ht, hmirrors⟩ := follows_reach h
  have hserved : Tasks.Served a.httpPort t :=
    ht.invariant (Tasks.served_init a) fun u e _ hu _ hs =>
      Tasks.served_step hu (Tasks.passesPort_default hport u e) hs
  have hjson := hmirrors.json
  rw [hj] at hjson
  generalize hl : t.json = written at hjson
  cases hjson with
  | some hwritten =>
    obtain ⟨a', his, rfl⟩ := hwritten
    have hnamed := hserved.namesPort _ hl
    rw [his.httpPort] at hnamed
    exact Value.int.inj hnamed

end Mirrors

end CoapService

end RiotPlayground
