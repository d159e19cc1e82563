import RiotPlayground.CoapService.Wiring

/-!
# Restarts of `main`

`main` restarts itself, and so does every reboot after its `sleep(10)`. What keeps a second main
task away from the observer of the first is that a reboot cancels the observation `main` waits
for, so that it waits forever.
-/

namespace RiotPlayground

namespace CoapService

open Service

/-- A main task is about to call `main_observer.request()` on an observer that is observing. -/
def Collides (s : Service) : Event → Prop
  | .begin i =>
    match s.main i with
    | .spawned _ => ∃ o, s.mainObserver = some o ∧ (s.globals.observer o).pr ≠ none
    | _ => False
  | _ => False

/-- The request of a main task returns in this step, so that it calls `shutdown_coap_client`. -/
def callsShutdown (L : Libs) (s : Service) : Event → Bool
  | .begin i =>
    match s.main i with
    | .spawned args =>
      let (s, o) := s.prepareMain args
      (s.globals.request o).2 = .returned
    | _ => false
  | .main i r =>
    match s.main i with
    | .request _ o p => (s.globals.resume L o p r).map Prod.snd = some .returned
    | _ => false
  | _ => false

/-- An observation registered by a main task is active. -/
def MainActive (g : Globals) (n : ℕ) : Prop :=
  n < g.observations ∧ (g.observation n).status = .active ∧
    (g.observer (g.observation n).observer).websocket = none

/-- The collisions: with an observing observer, and of a shutdown with an active observation. -/
def Clashes (L : Libs) (s : Service) (e : Event) : Prop :=
  Collides s e ∨ callsShutdown L s e ∧ ∃ n, MainActive s.globals n

/-- The step is the one in which a reboot cancels the main observer. -/
def restartsNodes (s : Service) : Event → Bool
  | .reboot _ => (getCoapClient s.globals.ctxs).isSome ∧ s.globals.rebootResources = []
  | .rebootCreated r => s.reboot r = .client ∧ s.globals.rebootResources = []
  | .rebootPosted r => s.reboot r = .posts
  | _ => false

/-- The main task awaits a response or the end of observation `n`. -/
def Main.Holds (m : Main) (o n : ℕ) : Prop :=
  ∃ args, m = .request args o (.response n) ∨ m = .request args o (.isOver n)

/-- The main task will go on by itself; once its observation is cancelled it no longer does. -/
def Main.Drives (g : Globals) : Main → Prop
  | .spawned _ => True
  | .request _ _ (.response n) => (g.observation n).status ≠ .cancelled
  | .request _ _ (.isOver n) => (g.observation n).status ≠ .cancelled
  | .request _ _ _ => True
  | .shutdown _ _ => True
  | .ended => False

/-- No reboot sleeps, the main task is observing if there is one, and no main task that died has
left an active observation behind. -/
structure Calm (s : Service) : Prop where
  awake : ∀ r, s.reboot r ≠ .sleep
  observing : ∀ i, (s.main i).Drives s.globals →
    ∃ o n, (s.main i).Holds o n ∧ (s.globals.observation n).status = .active
  registered : ∀ n, MainActive s.globals n →
    ∃ o, s.mainObserver = some o ∧ (s.globals.observer o).pr = some n

def RebootsCalmly (s : Service) (e : Event) : Prop := restartsNodes s e → Calm s

/-- Two reboots within ten seconds. -/
def twoReboots : List Event :=
  [.begin 0, .main 0 .created, .main 0 (.response ⟨true, some 0, []⟩), .reboot 0, .reboot 1,
    .rebootSlept 0, .begin 1, .main 1 (.response ⟨true, some 0, []⟩), .rebootSlept 1]

/-- The second restart calls `request()` on the observer of the first, which returns at once, and
shuts the client down under its observation. -/
theorem twoReboots_clash : ∃ s t, (system plainText).run (Service.init mainArgs) twoReboots =
    some s ∧ step plainText s (.begin 2) = some t ∧ Collides s (.begin 2) ∧
      callsShutdown plainText s (.begin 2) = true ∧ (s.main 1).Holds 1 1 ∧
        MainActive s.globals 1 := by
  refine ⟨_, _, rfl, rfl, ⟨1, rfl, by decide⟩, rfl, ⟨mainArgs, .inr rfl⟩, ?_⟩
  exact ⟨by decide, rfl, rfl⟩

/-- What may restart `main`: main tasks, and reboots in their sleep. -/
def Drives (s : Service) : ℕ ⊕ ℕ → Prop
  | .inl i => (s.main i).Drives s.globals
  | .inr r => s.reboot r = .sleep

/-- Nothing or one thing may restart `main`. -/
inductive Phase (s : Service) : Prop
  | idle (none : ∀ a, ¬ Drives s a)
  | starting (i : ℕ) (only : ∀ a, Drives s a → a = .inl i)
      (main : (∃ args, s.main i = .spawned args) ∨ (∃ args ctx, s.main i = .shutdown args ctx) ∨
        ∃ args o, s.main i = .request args o .client ∧ s.mainObserver = some o)
      (pr : ∀ o, s.mainObserver = some o → (s.globals.observer o).pr = none)
      (quiet : ∀ n, ¬ MainActive s.globals n)
  | observing (i o n : ℕ) (only : ∀ a, Drives s a → a = .inl i) (main : (s.main i).Holds o n)
      (status : (s.globals.observation n).status ≠ .cancelled)
      (obs : s.mainObserver = some o) (pr : (s.globals.observer o).pr = some n)
      (active : ∀ m, MainActive s.globals m → m = n)
  | sleeping (r : ℕ) (only : ∀ a, Drives s a → a = .inr r) (sleep : s.reboot r = .sleep)
      (obs : s.mainObserver = none) (quiet : ∀ n, ¬ MainActive s.globals n)

/-- The observation of a call of `request` on `o`, which has not ended and has not got to its
last await. -/
def Globals.Owns (g : Globals) (o : ℕ) : Progress → Prop
  | .client => True
  | .response n => n < g.observations ∧ (g.observation n).observer = o
  | .isOver n => n < g.observations ∧ (g.observation n).observer = o
  | _ => False

structure OneMain (s : Service) : Prop where
  wired : Wired s
  owns : ∀ i args o p, s.main i = .request args o p → s.globals.Owns o p
  hung : ∀ i o n, (s.main i).Holds o n → (s.globals.observation n).status = .cancelled →
    s.mainObserver ≠ some o
  phase : Phase s

lemma Main.Holds.drives {m : Main} {o n : ℕ} (h : m.Holds o n) {g : Globals} :
    m.Drives g ↔ (g.observation n).status ≠ .cancelled := by
  obtain ⟨args, rfl | rfl⟩ := h <;> exact Iff.rfl

lemma OneMain.held {s : Service} (h : OneMain s) {i o n : ℕ} (hm : (s.main i).Holds o n) :
    n < s.globals.observations ∧ (s.globals.observation n).observer = o ∧
      (s.globals.observer o).websocket = none := by
  obtain ⟨args, hm | hm⟩ := hm
  · exact ⟨(h.owns i args o _ hm).1, (h.owns i args o _ hm).2, (h.wired.main i args o _ hm).2⟩
  · exact ⟨(h.owns i args o _ hm).1, (h.owns i args o _ hm).2, (h.wired.main i args o _ hm).2⟩

lemma oneMain_init (args : MainArgs) : OneMain (Service.init args) := by
  refine ⟨wired_init args, fun _ _ _ _ h => absurd h init_request, fun i o n h => ?_,
    .starting 0 (fun a ha => ?_) (.inl ⟨args, rfl⟩) nofun fun n h => absurd h.1 (Nat.not_lt_zero n)⟩
  · obtain ⟨args', h | h⟩ := h <;> exact absurd h init_request
  · cases a with
    | inl i =>
      by_cases hi : i = 0
      · rw [hi]
      · rw [Drives, init_main_of_ne args hi] at ha
        cases ha
    | inr r => cases ha

/-- From `s` to `t` nothing happened that concerns the main tasks that may go on. -/
structure Frame (s t : Service) : Prop where
  main : ∀ j, t.main j = s.main j ∨ ¬ Drives t (.inl j) ∧ ¬ Drives s (.inl j)
  sleep : ∀ r, t.reboot r = .sleep ↔ s.reboot r = .sleep
  obs : t.mainObserver = s.mainObserver
  pr : ∀ o, s.mainObserver = some o → (t.globals.observer o).pr = (s.globals.observer o).pr
  status : ∀ n < s.globals.observations,
    (s.globals.observer (s.globals.observation n).observer).websocket = none →
      ((t.globals.observation n).status = .cancelled ↔
        (s.globals.observation n).status = .cancelled)
  active : ∀ n, MainActive t.globals n → MainActive s.globals n

lemma Frame.held {s t : Service} (hf : Frame s t) (h : OneMain s) {i o n : ℕ}
    (hm : (s.main i).Holds o n) : (t.globals.observation n).status = .cancelled ↔
      (s.globals.observation n).status = .cancelled := by
  obtain ⟨hn, ho, hws⟩ := h.held hm
  exact hf.status n hn (ho ▸ hws)

lemma Frame.drives {s t : Service} (hf : Frame s t) (h : OneMain s) (a : ℕ ⊕ ℕ) :
    Drives t a ↔ Drives s a := by
  cases a with
  | inl j =>
    rcases hf.main j with hj | hj
    · rw [Drives, Drives, hj]
      cases hm : s.main j with
      | request args o p =>
        cases p with
        | response n =>
          exact not_congr (hf.held h (i := j) (o := o) ⟨args, .inl hm⟩)
        | isOver n =>
          exact not_congr (hf.held h (i := j) (o := o) ⟨args, .inr hm⟩)
        | _ => exact Iff.rfl
      | _ => exact Iff.rfl
    · exact iff_of_false hj.1 hj.2
  | inr r => exact hf.sleep r

lemma Frame.phase {s t : Service} (hf : Frame s t) (h : OneMain s) : Phase t := by
  have hmain : ∀ {j}, Drives s (.inl j) → t.main j = s.main j := fun {j} hj =>
    (hf.main j).resolve_right fun hn => hn.2 hj
  have hpr : ∀ {o}, t.mainObserver = some o →
      s.mainObserver = some o ∧ (t.globals.observer o).pr = (s.globals.observer o).pr :=
    fun {o} ho => ⟨hf.obs ▸ ho, hf.pr o (hf.obs ▸ ho)⟩
  cases h.phase with
  | idle none => exact .idle fun a ha => none a ((hf.drives h a).mp ha)
  | starting i only main pr quiet =>
    have hi : Drives s (.inl i) := by
      rcases main with ⟨args, hm⟩ | ⟨args, ctx, hm⟩ | ⟨args, o, hm, -⟩ <;>
        simp only [Drives, hm, Main.Drives]
    refine .starting i (fun a ha => only a ((hf.drives h a).mp ha)) ?_ (fun o ho => ?_)
      fun n hn => quiet n (hf.active n hn)
    · rw [hmain hi, hf.obs]
      exact main
    · rw [(hpr ho).2]
      exact pr o (hpr ho).1
  | observing i o n only main status obs pr active =>
    have hi : Drives s (.inl i) := main.drives.mpr status
    refine .observing i o n (fun a ha => only a ((hf.drives h a).mp ha)) ((hmain hi).symm ▸ main)
      (fun hc => status ((hf.held h main).mp hc)) (hf.obs.trans obs) ?_
      fun m hm => active m (hf.active m hm)
    rw [hf.pr o obs, pr]
  | sleeping r only sleep obs quiet =>
    exact .sleeping r (fun a ha => only a ((hf.drives h a).mp ha)) ((hf.sleep r).mpr sleep)
      (hf.obs.trans obs) fun n hn => quiet n (hf.active n hn)

lemma Globals.Owns.mono {g g' : Globals} {o : ℕ} {p : Progress} (h : g.Owns o p)
    (hkeep : ∀ n < g.observations, n < g'.observations ∧
      (g'.observation n).observer = (g.observation n).observer) : g'.Owns o p := by
  cases p with
  | response n => exact ⟨(hkeep n h.1).1, (hkeep n h.1).2.trans h.2⟩
  | isOver n => exact ⟨(hkeep n h.1).1, (hkeep n h.1).2.trans h.2⟩
  | client => trivial
  | sleep n raised => exact h
  | returned => exact h
  | raised => exact h

lemma OneMain.frame {s t : Service} (h : OneMain s) (hw : Wired t) (hmain : t.main = s.main)
    (hkeep : ∀ n < s.globals.observations, n < t.globals.observations ∧
      (t.globals.observation n).observer = (s.globals.observation n).observer)
    (hf : Frame s t) : OneMain t where
  wired := hw
  owns i args o p hm := (h.owns i args o p (hmain ▸ hm)).mono hkeep
  hung i o n hm hc := by
    rw [hmain] at hm
    rw [hf.obs]
    exact h.hung i o n hm ((hf.held h hm).mp hc)
  phase := hf.phase h

/-- A step of the callback of a websocket. -/
lemma OneMain.touch {s t : Service} (h : OneMain s) (hw : Wired t) {o : ℕ}
    (ht : Globals.Touches s.globals t.globals o) (ho : (s.globals.observer o).websocket ≠ none)
    (hmain : t.main = s.main) (hobs : t.mainObserver = s.mainObserver)
    (hsleep : t.reboot = s.reboot) : OneMain t := by
  have hne : ∀ {o'}, (s.globals.observer o').websocket = none → o' ≠ o := by
    rintro o' hws rfl
    exact ho hws
  refine h.frame hw hmain (fun n hn => ⟨hn.trans_le ht.observations, ht.observer n hn⟩)
    ⟨fun j => .inl (by rw [hmain]), fun r => by rw [hsleep], hobs, fun o' ho' => ?_,
      fun n hn hws => ?_, fun n hn => ?_⟩
  · exact ht.pr o' (hne (h.wired.mainObserver o' ho').2)
  · rw [ht.status n hn (hne hws)]
  · obtain ⟨hlt, hact, hws⟩ := hn
    rw [ht.websocket] at hws
    by_cases hold : n < s.globals.observations
    · rw [ht.observer n hold] at hws
      rw [ht.status n hold (hne hws)] at hact
      exact ⟨hold, hact, hws⟩
    · rw [ht.fresh n (not_lt.mp hold) hlt] at hws
      exact absurd hws ho

/-- A step that changes nothing of the observers and observations that matters here. -/
lemma OneMain.still {s t : Service} (h : OneMain s) (hw : Wired t)
    (hcount : t.globals.observations = s.globals.observations)
    (hobservation : t.globals.observation = s.globals.observation)
    (hpr : ∀ o, (t.globals.observer o).pr = (s.globals.observer o).pr)
    (hws : ∀ o, (t.globals.observer o).websocket = none ↔
      (s.globals.observer o).websocket = none)
    (hmain : t.main = s.main) (hobs : t.mainObserver = s.mainObserver)
    (hsleep : ∀ r, t.reboot r = .sleep ↔ s.reboot r = .sleep) : OneMain t := by
  refine h.frame hw hmain (fun n hn => ⟨hcount ▸ hn, by rw [hobservation]⟩)
    ⟨fun j => .inl (by rw [hmain]), hsleep, hobs, fun o _ => hpr o,
      fun n _ _ => by rw [hobservation], fun n hn => ?_⟩
  obtain ⟨hlt, hact, hn⟩ := hn
  rw [hobservation, hws] at hn
  exact ⟨hcount ▸ hlt, hobservation ▸ hact, hn⟩

/-- A new websocket. -/
lemma OneMain.connect {s : Service} (h : OneMain s) (resource : List Char)
    (hw : Wired (s.connect resource)) : OneMain (s.connect resource) := by
  have hold : ∀ o < s.globals.observers,
      (s.connect resource).globals.observer o = s.globals.observer o := fun o ho =>
    Globals.newObserver_observer_of_ne _ _ _ ho.ne
  refine h.frame hw rfl (fun n hn => ⟨hn, rfl⟩) ⟨fun j => .inl rfl, fun r => Iff.rfl, rfl,
    fun o ho => by rw [hold o (h.wired.mainObserver o ho).1], fun n _ _ => Iff.rfl, fun n hn => ?_⟩
  obtain ⟨hlt, hact, hws⟩ := hn
  exact ⟨hlt, hact, hold _ (h.wired.observation n hlt) ▸ hws⟩

/-- The end of an observation, which a main task may await. -/
lemma OneMain.isOver {s : Service} (h : OneMain s) {n : ℕ}
    (hact : (s.globals.observation n).status = .active)
    (hw : Wired (s.setGlobals (s.globals.setStatus n .isOver))) :
    OneMain (s.setGlobals (s.globals.setStatus n .isOver)) := by
  have ht := Globals.touches_setStatus s.globals n .isOver
  refine h.frame hw rfl (fun m hm => ⟨hm, ht.observer m hm⟩) ⟨fun j => .inl rfl, fun r => Iff.rfl,
    rfl, fun o _ => rfl, fun m hm _ => ?_, fun m hm => ?_⟩
  · by_cases hmn : m = n
    · subst hmn
      rw [setGlobals, Globals.setStatus_observation_self, hact]
      exact iff_of_false nofun nofun
    · rw [setGlobals, Globals.setStatus_observation_of_ne _ _ hmn]
  · obtain ⟨hlt, hact', hws⟩ := hm
    by_cases hmn : m = n
    · subst hmn
      rw [setGlobals, Globals.setStatus_observation_self] at hact'
      cases hact'
    · rw [setGlobals, Globals.setStatus_observation_of_ne _ _ hmn] at hact' hws
      exact ⟨hlt, hact', hws⟩

/-- The same observers and observations. -/
structure Globals.Alike (g g' : Globals) : Prop where
  observer : g'.observer = g.observer
  observations : g'.observations = g.observations
  observation : g'.observation = g.observation

lemma Globals.leave_main {g : Globals} {o : ℕ} (h : (g.observer o).websocket = none) (n : ℕ)
    (raised : Bool) : (g.setPr o none).Alike (g.finallyBlock o n raised).1 := by
  have hclose : (g.setPr o none).closeWebsocket o = g.setPr o none := by
    rw [closeWebsocket, setPr_observer_self, h]
  rw [finallyBlock_eq, leave, hclose]
  exact ⟨rfl, rfl, rfl⟩

/-- So the request ends at once. -/
lemma Globals.ends_main {g g' : Globals} {o n : ℕ} {raised : Bool} {p' : Progress}
    (hws : (g.observer o).websocket = none) (h : g.finallyBlock o n raised = (g', p')) :
    (g.setPr o none).Alike g' ∧ p' = if raised then .raised else .returned := by
  have halike := leave_main hws n raised
  have hprogress : (g.finallyBlock o n raised).2 = if raised then .raised else .returned := by
    rw [finallyBlock_eq, leave]
  rw [h] at halike hprogress
  exact ⟨halike, hprogress⟩

/-- What running the request of a main task to its next await does. -/
lemma Globals.resume_main {L : Libs} {g g' : Globals} {o : ℕ} {p p' : Progress} {r : Resume}
    (hws : (g.observer o).websocket = none) (hp : g.Owns o p)
    (h : g.resume L o p r = some (g', p')) :
    (p = .client ∧ p' = .response g.observations ∧ (g.register o).1.Alike g') ∨
    (p = .client ∧ p' = .raised ∧ g.Alike g') ∨
    (∃ n, p = .response n ∧ p' = .isOver n ∧ g.Alike g') ∨
    (∃ n, p = .response n ∧ p' = .raised ∧ (g.setPr o none).Alike g') ∨
    ∃ n, p = .isOver n ∧ p' = .returned ∧ (g.observation n).status = .isOver ∧
      (g.setPr o none).Alike g' := by
  cases p with
  | client =>
    cases r with
    | created =>
      have hgot : (g.setCtxs (assignClient g.ctxs).1).gotClient o =
          (g.setCtxs (assignClient g.ctxs).1).register o := by
        rw [gotClient]
        split
        · rename_i w hw
          cases hws.symm.trans hw
        · rfl
      have h := Option.some.inj h
      rw [hgot] at h
      obtain ⟨rfl, rfl⟩ := Prod.mk.inj h
      exact .inl ⟨rfl, rfl, rfl, rfl, rfl⟩
    | createRaised =>
      obtain ⟨rfl, rfl⟩ := Prod.mk.inj (Option.some.inj h)
      exact .inr (.inl ⟨rfl, rfl, rfl, rfl, rfl⟩)
    | _ => cases h
  | response n =>
    cases r with
    | response resp =>
      have h := Option.some.inj h
      split at h
      · obtain ⟨halike, hraised⟩ := ends_main (g := (g.incoming L o resp).1) hws h
        exact .inr (.inr (.inr (.inl ⟨n, rfl, hraised, halike.1, halike.2, halike.3⟩)))
      · obtain ⟨rfl, rfl⟩ := Prod.mk.inj h
        exact .inr (.inr (.inl ⟨n, rfl, rfl, rfl, rfl, rfl⟩))
    | responseRaised =>
      obtain ⟨halike, hraised⟩ := ends_main hws (Option.some.inj h)
      exact .inr (.inr (.inr (.inl ⟨n, rfl, hraised, halike⟩)))
    | _ => cases h
  | isOver n =>
    cases r with
    | isOver =>
      obtain ⟨hover, h⟩ := Option.ite_none_right_eq_some.mp h
      obtain ⟨halike, hreturned⟩ := ends_main hws (Option.some.inj h)
      exact .inr (.inr (.inr (.inr ⟨n, rfl, hreturned, hover, halike⟩)))
    | _ => cases h
  | sleep n raised => exact hp.elim
  | returned => exact hp.elim
  | raised => exact hp.elim

/-- The main task will go on by itself, and holds no observation. -/
def Main.Starts (m : Main) : Prop :=
  (∃ args, m = .spawned args) ∨ (∃ args ctx, m = .shutdown args ctx) ∨
    ∃ args o, m = .request args o .client

lemma Main.Starts.drives {m : Main} (h : m.Starts) {g : Globals} : m.Drives g := by
  rcases h with ⟨args, rfl⟩ | ⟨args, ctx, rfl⟩ | ⟨args, o, rfl⟩ <;> trivial

lemma Main.Starts.not_holds {m : Main} (h : m.Starts) (o n : ℕ) : ¬ m.Holds o n := by
  rcases h with ⟨args, rfl⟩ | ⟨args, ctx, rfl⟩ | ⟨args, o, rfl⟩ <;>
    rintro ⟨args', hm | hm⟩ <;> cases hm

/-- Such a main task is the only one, and no observation of a main task is active. -/
lemma OneMain.starting {s : Service} (h : OneMain s) {i : ℕ} (hm : (s.main i).Starts) :
    (∀ a, Drives s a → a = .inl i) ∧
      (∀ o, s.mainObserver = some o → (s.globals.observer o).pr = none) ∧
      (∀ args o, s.main i = .request args o .client → s.mainObserver = some o) ∧
      ∀ n, ¬ MainActive s.globals n := by
  have hd : Drives s (.inl i) := hm.drives
  cases h.phase with
  | idle none => exact absurd hd (none _)
  | starting j only main pr quiet =>
    obtain rfl := Sum.inl.inj (only _ hd)
    refine ⟨only, pr, fun args o hm => ?_, quiet⟩
    rcases main with ⟨args', hm'⟩ | ⟨args', ctx, hm'⟩ | ⟨args', o', hm', ho⟩
    · cases hm.symm.trans hm'
    · cases hm.symm.trans hm'
    · cases hm.symm.trans hm'
      exact ho
  | observing j o n only main _ _ _ _ =>
    obtain rfl := Sum.inl.inj (only _ hd)
    exact absurd main (hm.not_holds o n)
  | sleeping r only => cases only _ hd

/-- A main task that holds an observation which is not cancelled is the only one, and
`main_observer` is observing for it. -/
lemma OneMain.observing {s : Service} (h : OneMain s) {i o n : ℕ} (hm : (s.main i).Holds o n)
    (hst : (s.globals.observation n).status ≠ .cancelled) : (∀ a, Drives s a → a = .inl i) ∧
      s.mainObserver = some o ∧ (s.globals.observer o).pr = some n ∧
      ∀ m, MainActive s.globals m → m = n := by
  have hd : Drives s (.inl i) := hm.drives.mpr hst
  cases h.phase with
  | idle none => exact absurd hd (none _)
  | starting j only main =>
    obtain rfl := Sum.inl.inj (only _ hd)
    obtain ⟨args, hm | hm⟩ := hm <;>
      rcases main with ⟨args', hm'⟩ | ⟨args', ctx, hm'⟩ | ⟨args', o', hm', -⟩ <;>
      cases hm.symm.trans hm'
  | observing j o' n' only main status obs pr active =>
    obtain rfl := Sum.inl.inj (only _ hd)
    obtain ⟨rfl, rfl⟩ : o' = o ∧ n' = n := by
      obtain ⟨args, hm | hm⟩ := hm <;> obtain ⟨args', hm' | hm'⟩ := main <;>
        cases hm.symm.trans hm' <;> exact ⟨rfl, rfl⟩
    exact ⟨only, obs, pr, active⟩
  | sleeping r only => cases only _ hd

lemma Main.Drives.mono {g g' : Globals} {m : Main} (h : m.Drives g')
    (hst : ∀ o n, m.Holds o n → (g'.observation n).status ≠ .cancelled →
      (g.observation n).status ≠ .cancelled) : m.Drives g := by
  cases m with
  | request args o p =>
    cases p with
    | response n => exact hst o n ⟨args, .inl rfl⟩ h
    | isOver n => exact hst o n ⟨args, .inr rfl⟩ h
    | _ => exact h
  | _ => exact h

/-- When the only thing that may restart `main` is main task `i`, and task `k` takes its place. -/
lemma OneMain.only {s t : Service} (h : OneMain s) {i k : ℕ}
    (honly : ∀ a, Drives s a → a = .inl i)
    (hmain : ∀ j, j ≠ k → t.main j = s.main j ∧ j ≠ i ∨ t.main j = .ended)
    (hsleep : t.reboot = s.reboot)
    (hobservation : ∀ n < s.globals.observations,
      t.globals.observation n = s.globals.observation n) : ∀ a, Drives t a → a = .inl k := by
  intro a ha
  cases a with
  | inl j =>
    by_contra hne
    rcases hmain j (fun hj => hne (congrArg Sum.inl hj)) with ⟨hj, hji⟩ | hj
    · rw [Drives, hj] at ha
      have hd : Drives s (.inl j) := ha.mono fun o n hm hne => by
        rwa [hobservation n (h.held hm).1] at hne
      exact hji (Sum.inl.inj (honly _ hd))
    · rw [Drives, hj] at ha
      exact ha
  | inr r =>
    have hr : s.reboot r = .sleep := by
      rw [← hsleep]
      exact ha
    cases honly (.inr r) hr

/-- A step in which observations may be registered, and none ends. -/
lemma OneMain.of_phase {s t : Service} (h : OneMain s) (hw : Wired t)
    (hcount : s.globals.observations ≤ t.globals.observations)
    (hobservation : ∀ n < s.globals.observations,
      t.globals.observation n = s.globals.observation n)
    (hmain : ∀ j args o p, t.main j = .request args o p → s.main j = .request args o p ∨
      t.globals.Owns o p ∧ ∀ n, p = .response n ∨ p = .isOver n →
        (t.globals.observation n).status = .cancelled → t.mainObserver ≠ some o)
    (hobs : ∀ o < s.globals.observers, t.mainObserver = some o → s.mainObserver = some o)
    (hphase : Phase t) : OneMain t := by
  have hkeep : ∀ n < s.globals.observations, n < t.globals.observations ∧
      (t.globals.observation n).observer = (s.globals.observation n).observer := fun n hn =>
    ⟨hn.trans_le hcount, by rw [hobservation n hn]⟩
  refine ⟨hw, fun j args o p hm => ?_, fun j o n hm hc => ?_, hphase⟩
  · rcases hmain j args o p hm with hm | ⟨hp, -⟩
    · exact (h.owns j args o p hm).mono hkeep
    · exact hp
  · obtain ⟨args, p, hp, hm⟩ : ∃ args p, (p = .response n ∨ p = .isOver n) ∧
        t.main j = .request args o p := by
      obtain ⟨args, hm | hm⟩ := hm
      · exact ⟨args, _, .inl rfl, hm⟩
      · exact ⟨args, _, .inr rfl, hm⟩
    rcases hmain j args o p hm with hm | ⟨-, hnew⟩
    · have hold : (s.main j).Holds o n := by
        rcases hp with rfl | rfl
        · exact ⟨args, .inl hm⟩
        · exact ⟨args, .inr hm⟩
      have hlt := (h.wired.main j args o p hm).1
      rw [hobservation n (h.held hold).1] at hc
      exact fun ho => h.hung j o n hold hc (hobs o hlt ho)
    · exact hnew n hp hc

lemma setMain_other {s t : Service} {i : ℕ} {m : Main} (h : t.main = (s.setMain i m).main) (j : ℕ)
    (hj : j ≠ i) : t.main j = s.main j ∧ j ≠ i ∨ t.main j = .ended :=
  .inl ⟨by rw [h, setMain_main_of_ne s m hj], hj⟩

lemma restart_other (s : Service) (i : ℕ) (args : MainArgs) {j : ℕ} (hj : j ≠ s.mains) :
    (s.restart i args).main j = s.main j ∧ j ≠ i ∨ (s.restart i args).main j = .ended := by
  rw [restart, spawnMain_main_of_ne (s.setMain i .ended) _ hj]
  by_cases hji : j = i
  · subst hji
    exact .inr (setMain_main_self s j .ended)
  · exact .inl ⟨setMain_main_of_ne s .ended hji, hji⟩

/-- The request of the main task registers its observation. -/
lemma OneMain.registered {s t : Service} (h : OneMain s) (hw : Wired t) {i o : ℕ}
    {args : MainArgs} (hm : (s.main i).Starts) (hobs : s.mainObserver = some o)
    (hg : (s.globals.register o).1.Alike t.globals)
    (hmain : t.main = (s.setMain i (.request args o (.response s.globals.observations))).main)
    (hobs' : t.mainObserver = s.mainObserver) (hsleep : t.reboot = s.reboot) : OneMain t := by
  obtain ⟨honly, -, -, hquiet⟩ := h.starting hm
  have hold : ∀ n < s.globals.observations,
      t.globals.observation n = s.globals.observation n := by
    intro n hn
    rw [hg.observation, Globals.register_observation_of_ne _ _ hn.ne]
  have hnew : t.globals.observation s.globals.observations = ⟨o, .active⟩ := by
    rw [hg.observation, Globals.register_observation_self]
  have hcount : t.globals.observations = s.globals.observations + 1 := hg.observations
  have hti : t.main i = .request args o (.response s.globals.observations) := by
    rw [hmain, setMain_main_self]
  have hpr : (t.globals.observer o).pr = some s.globals.observations := by
    rw [hg.observer]
    simp [Globals.register]
  refine h.of_phase hw (hcount ▸ Nat.le_succ _) hold (fun j args' o' p hm => ?_)
    (fun o' _ ho' => hobs' ▸ ho') (.observing i o s.globals.observations
      (h.only honly (setMain_other hmain) hsleep hold) ⟨args, .inl hti⟩ (by simp [hnew])
      (hobs'.trans hobs) hpr fun m hm => ?_)
  · rw [hmain] at hm
    apply (setMain_request hm).imp id
    intro hm
    obtain ⟨-, rfl, rfl⟩ := Main.request.inj hm.2
    refine ⟨⟨hcount ▸ Nat.lt_succ_self _, by rw [hnew]⟩, fun n hn hc => ?_⟩
    obtain rfl := Progress.response.inj (hn.resolve_right (by simp))
    rw [hnew] at hc
    cases hc
  · obtain ⟨hlt, hact, hws⟩ := hm
    rcases Nat.lt_succ_iff_lt_or_eq.mp (hcount ▸ hlt) with hlt | rfl
    · rw [hold m hlt, hg.observer] at hws
      rw [hold m hlt] at hact
      exact absurd ⟨hlt, hact, ((Globals.touches_register _ o).websocket _).mp hws⟩ (hquiet m)
    · rfl

/-- The main task ends. -/
lemma OneMain.died {s t : Service} (h : OneMain s) (hw : Wired t) {i : ℕ}
    (hcount : t.globals.observations = s.globals.observations)
    (hobservation : t.globals.observation = s.globals.observation)
    (hws : ∀ o, (t.globals.observer o).websocket = none ↔
      (s.globals.observer o).websocket = none)
    (hpr : ¬ Drives s (.inl i) → ∀ o, s.mainObserver = some o →
      (t.globals.observer o).pr = (s.globals.observer o).pr)
    (hmain : t.main = (s.setMain i .ended).main) (hobs : t.mainObserver = s.mainObserver)
    (hsleep : t.reboot = s.reboot) : OneMain t := by
  have hti : ¬ Drives t (.inl i) := by
    rw [Drives, hmain, setMain_main_self]
    exact id
  refine h.of_phase hw hcount.ge (fun n _ => by rw [hobservation]) (fun j args o p hm => ?_)
    (fun o _ ho => hobs ▸ ho) ?_
  · rw [hmain] at hm
    exact .inl ((setMain_request hm).resolve_right (nomatch ·.2))
  · by_cases hd : Drives s (.inl i)
    · have honly : ∀ a, Drives s a → a = .inl i := by
        cases h.phase with
        | idle none => exact absurd hd (none _)
        | starting j only => exact Sum.inl.inj (only _ hd) ▸ only
        | observing j _ _ only => exact Sum.inl.inj (only _ hd) ▸ only
        | sleeping r only => cases only _ hd
      have hall := h.only honly (setMain_other hmain) hsleep fun n _ => by rw [hobservation]
      exact .idle fun a ha => hti (hall a ha ▸ ha)
    · refine Frame.phase ⟨fun j => ?_, fun r => by rw [hsleep], hobs, hpr hd,
        fun n _ _ => by rw [hobservation], fun n hn => ?_⟩ h
      · by_cases hj : j = i
        · exact .inr ⟨hj ▸ hti, hj ▸ hd⟩
        · exact .inl (by rw [hmain, setMain_main_of_ne s _ hj])
      · obtain ⟨hlt, hact, hn⟩ := hn
        rw [hobservation, hws] at hn
        exact ⟨hcount ▸ hlt, hobservation ▸ hact, hn⟩

/-- The response to a main task has come. -/
lemma OneMain.answered {s t : Service} (h : OneMain s) (hw : Wired t) {i o n : ℕ}
    {args : MainArgs} (hm : s.main i = .request args o (.response n))
    (hg : s.globals.Alike t.globals)
    (hmain : t.main = (s.setMain i (.request args o (.isOver n))).main)
    (hobs : t.mainObserver = s.mainObserver) (hsleep : t.reboot = s.reboot) : OneMain t := by
  have hheld : (s.main i).Holds o n := ⟨args, .inl hm⟩
  have hti : t.main i = .request args o (.isOver n) := by rw [hmain, setMain_main_self]
  have hold : ∀ m < s.globals.observations,
      t.globals.observation m = s.globals.observation m := fun m _ => by rw [hg.observation]
  refine h.of_phase hw hg.observations.ge hold (fun j args' o' p hj => ?_)
    (fun o' _ ho' => hobs ▸ ho') ?_
  · rw [hmain] at hj
    refine (setMain_request hj).imp id fun ⟨_, hj⟩ => ?_
    obtain ⟨-, rfl, rfl⟩ := Main.request.inj hj
    refine ⟨(h.owns i args o _ hm).mono fun m hlt => ⟨hg.observations ▸ hlt, by
      rw [hold m hlt]⟩, fun m hp hc => ?_⟩
    obtain rfl := Progress.isOver.inj (hp.resolve_left nofun)
    rw [hg.observation] at hc
    exact hobs ▸ h.hung i o n hheld hc
  · by_cases hst : (s.globals.observation n).status = .cancelled
    · refine Frame.phase ⟨fun j => ?_, fun r => by rw [hsleep], hobs,
        fun o' _ => by rw [hg.observer], fun m hlt _ => by rw [hold m hlt], fun m hact => ?_⟩ h
      · by_cases hj : j = i
        · subst hj
          refine .inr ⟨?_, ?_⟩
          · rw [Drives, hti, Main.Drives, hg.observation]
            exact not_not_intro hst
          · rw [Drives, hm, Main.Drives]
            exact not_not_intro hst
        · exact .inl (by rw [hmain, setMain_main_of_ne s _ hj])
      · rw [MainActive, hg.observation, hg.observations, hg.observer] at hact
        exact hact
    · obtain ⟨honly, ho, hpr, hactive⟩ := h.observing hheld hst
      refine .observing i o n (h.only honly (setMain_other hmain) hsleep hold) ⟨args, .inr hti⟩
        (by rw [hg.observation]; exact hst) (hobs.trans ho) (by rw [hg.observer]; exact hpr)
        fun m hact => hactive m ?_
      rw [MainActive, hg.observation, hg.observations, hg.observer] at hact
      exact hact

/-- The main task goes on to a place where it holds no observation and `main_observer` does not
observe, or spawns another one that begins there. -/
lemma OneMain.moved {s t : Service} (h : OneMain s) (hw : Wired t) {i k : ℕ}
    (honly : ∀ a, Drives s a → a = .inl i)
    (hcount : t.globals.observations = s.globals.observations)
    (hobservation : t.globals.observation = s.globals.observation)
    (hquiet : ∀ n, ¬ MainActive t.globals n)
    (hpr : ∀ o, t.mainObserver = some o → (t.globals.observer o).pr = none)
    (hmain : ∀ j, j ≠ k → t.main j = s.main j ∧ j ≠ i ∨ t.main j = .ended)
    (hk : (∃ args, t.main k = .spawned args) ∨ (∃ args ctx, t.main k = .shutdown args ctx) ∨
      ∃ args o, t.main k = .request args o .client ∧ t.mainObserver = some o)
    (hobs : ∀ o < s.globals.observers, t.mainObserver = some o → s.mainObserver = some o)
    (hsleep : t.reboot = s.reboot) : OneMain t := by
  refine h.of_phase hw hcount.ge (fun n _ => by rw [hobservation]) (fun j args o p hm => ?_) hobs
    (.starting k (h.only honly hmain hsleep fun n _ => by rw [hobservation]) hk hpr hquiet)
  by_cases hj : j = k
  · subst hj
    rcases hk with ⟨args', hk⟩ | ⟨args', ctx, hk⟩ | ⟨args', o', hk, -⟩
    · cases hm.symm.trans hk
    · cases hm.symm.trans hk
    · cases hm.symm.trans hk
      exact .inr ⟨trivial, nofun⟩
  · rcases hmain j hj with ⟨hold, -⟩ | hend
    · exact .inl (hold ▸ hm)
    · cases hm.symm.trans hend

/-- `main` up to its call of `request()`. -/
lemma OneMain.prepare {s : Service} (h : OneMain s) {i : ℕ} {args : MainArgs}
    (hm : s.main i = .spawned args) : OneMain (s.prepareMain args).1 := by
  obtain ⟨honly, hpr, -, hquiet⟩ := h.starting (.inl ⟨args, hm⟩)
  have hw := (prepareMain_spec h.wired args).1
  unfold prepareMain at hw ⊢
  dsimp only at hw ⊢
  revert hw
  split
  · rename_i o ho
    intro hw
    exact h.moved hw honly rfl rfl hquiet hpr (fun j hj => .inl ⟨rfl, hj⟩) (.inl ⟨args, hm⟩)
      (fun _ _ => id) rfl
  · intro hw
    have hold : ∀ o < s.globals.observers, (s.globals.newObserver (corerd args) none).observer o =
        s.globals.observer o := fun o hlt => Globals.newObserver_observer_of_ne _ _ _ hlt.ne
    refine h.moved hw honly rfl rfl (fun n hn => hquiet n ⟨hn.1, hn.2.1, ?_⟩) (fun o ho' => ?_)
      (fun j hj => .inl ⟨rfl, hj⟩) (.inl ⟨args, hm⟩) (fun o hlt ho' => ?_) rfl
    · rw [← hold _ (h.wired.observation n hn.1)]
      exact hn.2.2
    · obtain rfl := Option.some.inj ho'
      rw [Globals.newObserver_observer_self]
    · obtain rfl := Option.some.inj ho'
      exact absurd hlt (lt_irrefl _)

lemma prepareMain_main (s : Service) (args : MainArgs) :
    (s.prepareMain args).1.main = s.main := (prepareMain_frame s args).1

/-- A main task whose request returns goes on to the shutdown or restarts. -/
lemma OneMain.returned {s t : Service} (h : OneMain s) {i o : ℕ} {args : MainArgs}
    (hw : Wired (t.mainAfter i args o .returned)) (honly : ∀ a, Drives s a → a = .inl i)
    (hcount : t.globals.observations = s.globals.observations)
    (hobservation : t.globals.observation = s.globals.observation)
    (hquiet : ∀ n, ¬ MainActive t.globals n)
    (hpr : ∀ o, t.mainObserver = some o → (t.globals.observer o).pr = none)
    (hmain : t.main = s.main) (hobs : t.mainObserver = s.mainObserver)
    (hsleep : t.reboot = s.reboot) : OneMain (t.mainAfter i args o .returned) := by
  unfold mainAfter at hw ⊢
  dsimp only at hw ⊢
  split
  · rename_i ctx hctx
    simp only [hctx] at hw
    refine h.moved (k := i) hw honly hcount hobservation hquiet hpr
      (setMain_other (m := .shutdown args ctx) (by rw [setMain, setMain, hmain]))
      (.inr (.inl ⟨args, ctx, setMain_main_self t i _⟩)) (fun _ _ ho => hobs ▸ ho) hsleep
  · rename_i hctx
    simp only [hctx] at hw
    exact h.moved (k := t.mains) hw honly hcount hobservation hquiet hpr
      (fun j hj => hmain ▸ restart_other t i args hj) (.inl ⟨_, spawnMain_main_self _ _⟩)
      (fun _ _ ho => hobs ▸ ho) hsleep

lemma OneMain.begin {s : Service} (h : OneMain s) {i : ℕ} {args : MainArgs}
    (hm : s.main i = .spawned args) : OneMain (s.beginMain i args) := by
  have hw := wired_beginMain h.wired i args
  have hs := h.prepare hm
  obtain ⟨hsw, hobs⟩ := prepareMain_spec h.wired args
  have hm' : (s.prepareMain args).1.main i = .spawned args := by rw [prepareMain_main, hm]
  unfold beginMain at hw ⊢
  generalize s.prepareMain args = prepared at *
  obtain ⟨u, o⟩ := prepared
  dsimp only at *
  obtain ⟨honly, hpr, -, hquiet⟩ := hs.starting (.inl ⟨args, hm'⟩)
  have hws := (hsw.mainObserver o hobs).2
  have hreq : u.globals.request o = if getCoapClient u.globals.ctxs = none then
      (u.globals, .client) else u.globals.register o := by
    rw [Globals.request, if_pos (hpr o hobs)]
    split
    · rename_i c hc
      rw [if_neg (by rw [hc]; nofun), Globals.gotClient]
      split
      · rename_i w hw'
        cases hws.symm.trans hw'
      · rfl
    · rename_i hc
      rw [if_pos hc]
  rw [hreq] at hw ⊢
  split
  · rename_i hc
    rw [if_pos hc] at hw
    exact hs.moved hw honly rfl rfl hquiet hpr
      (setMain_other (m := .request args o .client) rfl)
      (.inr (.inr ⟨args, o, setMain_main_self _ i _, hobs⟩)) (fun _ _ => id) rfl
  · rename_i hc
    rw [if_neg hc] at hw
    exact hs.registered hw (.inl ⟨args, hm'⟩) hobs ⟨rfl, rfl, rfl⟩ rfl rfl rfl

lemma OneMain.main {L : Libs} {s : Service} (h : OneMain s) {i o : ℕ} {r : Resume}
    {args : MainArgs} {p p' : Progress} {g : Globals} (hm : s.main i = .request args o p)
    (hres : s.globals.resume L o p r = some (g, p'))
    (hw : Wired ((s.setGlobals g).mainAfter i args o p')) :
    OneMain ((s.setGlobals g).mainAfter i args o p') := by
  have hws := (h.wired.main i args o p hm).2
  rcases Globals.resume_main hws (h.owns i args o p hm) hres with ⟨rfl, rfl, hg⟩ |
    ⟨rfl, rfl, hg⟩ | ⟨n, rfl, rfl, hg⟩ | ⟨n, rfl, rfl, hg⟩ | ⟨n, rfl, rfl, hover, hg⟩
  · have hstarts : (s.main i).Starts := .inr (.inr ⟨args, o, hm⟩)
    obtain ⟨-, -, hobs, -⟩ := h.starting hstarts
    exact h.registered hw hstarts (hobs args o hm) hg rfl rfl rfl
  · exact h.died hw hg.observations hg.observation
      (fun o' => iff_of_eq (congrArg (fun f => (f o').websocket = none) hg.observer))
      (fun _ o' _ => congrArg (fun f => (f o').pr) hg.observer) rfl rfl rfl
  · exact h.answered hw hm hg rfl rfl rfl
  · have hheld : (s.main i).Holds o n := ⟨args, .inl hm⟩
    refine h.died hw hg.observations hg.observation (fun o' => ?_) (fun hd o' ho' => ?_) rfl rfl
      rfl
    · exact (iff_of_eq (congrArg (fun f => (f o').websocket = none) hg.observer)).trans
        ((Globals.touches_setPr_none s.globals o).websocket o')
    · have hst := not_not.mp (mt hheld.drives.mpr hd)
      have hne : o' ≠ o := by
        rintro rfl
        exact h.hung i o' n hheld hst ho'
      exact (congrArg (fun f => (f o').pr) hg.observer).trans
        ((Globals.touches_setPr_none s.globals o).pr o' hne)
  · have hheld : (s.main i).Holds o n := ⟨args, .inr hm⟩
    obtain ⟨honly, hobs, -, hactive⟩ := h.observing hheld (by simp [hover])
    have ht := Globals.touches_setPr_none s.globals o
    refine h.returned hw honly hg.observations hg.observation (fun m hact => ?_)
      (fun o' ho' => ?_) rfl rfl rfl
    · rw [MainActive, setGlobals, hg.observation, hg.observations, hg.observer,
        ht.websocket] at hact
      obtain rfl := hactive m hact
      cases hover.symm.trans hact.2.1
    · obtain rfl := Option.some.inj (hobs.symm.trans ho')
      rw [setGlobals, hg.observer, Globals.setPr_observer_self]

lemma OneMain.shutDown {s : Service} (h : OneMain s) {i ctx : ℕ} {args : MainArgs}
    (hm : s.main i = .shutdown args ctx) (ctxs : Contexts)
    (hw : Wired ((s.setGlobals (s.globals.setCtxs ctxs)).restart i args)) :
    OneMain ((s.setGlobals (s.globals.setCtxs ctxs)).restart i args) := by
  obtain ⟨honly, hpr, -, hquiet⟩ := h.starting (.inr (.inl ⟨args, ctx, hm⟩))
  exact h.moved (k := s.mains) hw honly rfl rfl hquiet hpr
    (fun j hj => restart_other (s.setGlobals (s.globals.setCtxs ctxs)) i args hj)
    (.inl ⟨_, spawnMain_main_self _ _⟩) (fun _ _ => id) rfl

/-! ### Reboots -/

lemma cancel_status {g : Globals} {o n : ℕ} (h : (g.observer o).pr = some n)
    (hact : (g.observation n).status = .active) :
    ((g.cancel o).1.observation n).status = .cancelled := by
  rw [Globals.cancel, h]
  dsimp only
  rw [if_pos hact, Globals.setStatus_observation_self]

/-- Cancelling turns observations from active to cancelled only. -/
lemma cancel_observation (g : Globals) (o n : ℕ) :
    ((g.cancel o).1.observation n).observer = (g.observation n).observer ∧
      (((g.cancel o).1.observation n).status = (g.observation n).status ∨
        ((g.cancel o).1.observation n).status = .cancelled) := by
  unfold Globals.cancel
  split
  · rename_i m _
    split
    · by_cases hnm : n = m
      · subst hnm
        rw [Globals.setStatus_observation_self]
        exact ⟨rfl, .inr rfl⟩
      · rw [Globals.setStatus_observation_of_ne _ _ hnm]
        exact ⟨rfl, .inl rfl⟩
    · exact ⟨rfl, .inl rfl⟩
  · exact ⟨rfl, .inl rfl⟩

lemma restartNodes_frame (s : Service) (r : ℕ) :
    (s.restartNodes r).main = s.main ∧ (s.restartNodes r).mainObserver = none ∧
      (s.restartNodes r).reboot = Function.update s.reboot r .sleep ∧
      (s.restartNodes r).globals.observation = s.cancelMainObserver.globals.observation := by
  unfold Service.restartNodes cancelMainObserver
  dsimp only
  split
  · exact ⟨rfl, rfl, rfl, rfl⟩
  · rename_i h
    exact ⟨rfl, h, rfl, rfl⟩

lemma cancelMainObserver_observation (s : Service) (n : ℕ) :
    (s.cancelMainObserver.globals.observation n).observer = (s.globals.observation n).observer ∧
      ((s.cancelMainObserver.globals.observation n).status = (s.globals.observation n).status ∨
        (s.cancelMainObserver.globals.observation n).status = .cancelled) := by
  unfold cancelMainObserver
  split
  · exact cancel_observation _ _ n
  · exact ⟨rfl, .inl rfl⟩

lemma restartNodes_touches {s : Service} (h : Wired s) (r : ℕ) :
    ∃ o, Globals.Touches s.globals (s.restartNodes r).globals o := by
  unfold Service.restartNodes cancelMainObserver
  dsimp only
  split
  · rename_i o _
    exact ⟨o, (Globals.touches_cancel h.owned o).trans (touches_closeWebsockets _ o)⟩
  · exact ⟨0, touches_closeWebsockets _ 0⟩

lemma restartNodes_observations (s : Service) (r : ℕ) :
    (s.restartNodes r).globals.observations = s.globals.observations := by
  unfold Service.restartNodes cancelMainObserver
  dsimp only
  split
  · exact cancel_observations _ _
  · rfl

/-- `main_observer.cancel()` in a calm state stops the main task, and nothing of it is left
active. -/
lemma OneMain.restartNodes {s : Service} (h : OneMain s) (hC : Calm s) (r : ℕ) :
    OneMain (s.restartNodes r) := by
  obtain ⟨hmain, hobs, hreboot, hobservation⟩ := restartNodes_frame s r
  obtain ⟨o, ht⟩ := restartNodes_touches h.wired r
  have hcancelled : ∀ o n, s.mainObserver = some o → (s.globals.observer o).pr = some n →
      (s.globals.observation n).status = .active →
        ((s.restartNodes r).globals.observation n).status = .cancelled := by
    intro o n ho hpr hact
    rw [hobservation, cancelMainObserver, ho]
    exact cancel_status hpr hact
  have hstatus : ∀ n, ((s.restartNodes r).globals.observation n).status ≠ .cancelled →
      ((s.restartNodes r).globals.observation n).status = (s.globals.observation n).status := by
    intro n hn
    rw [hobservation] at hn ⊢
    exact (cancelMainObserver_observation s n).2.resolve_right hn
  have hstop : ∀ j, ¬ Drives (s.restartNodes r) (.inl j) := by
    intro j hj
    rw [Drives, hmain] at hj
    have hd : (s.main j).Drives s.globals := hj.mono fun o n _ hne => hstatus n hne ▸ hne
    obtain ⟨o, n, hheld, hact⟩ := hC.observing j hd
    obtain ⟨-, ho, hpr, -⟩ := h.observing hheld (by rw [hact]; nofun)
    exact hheld.drives.mp hj (hcancelled o n ho hpr hact)
  refine ⟨wired_restartNodes h.wired r, fun i args o p hm => ?_, fun i o n _ _ ho => ?_,
    .sleeping r (fun a ha => ?_) ?_ hobs fun n hn => ?_⟩
  · exact (h.owns i args o p (hmain ▸ hm)).mono fun n hn =>
      ⟨restartNodes_observations s r ▸ hn, ht.observer n hn⟩
  · cases hobs.symm.trans ho
  · cases a with
    | inl j => exact absurd ha (hstop j)
    | inr r' =>
      by_cases hr : r' = r
      · rw [hr]
      · rw [Drives, hreboot, Function.update_of_ne hr] at ha
        exact absurd ha (hC.awake r')
  · rw [hreboot, Function.update_self]
  · obtain ⟨hlt, hact, hws⟩ := hn
    rw [restartNodes_observations] at hlt
    rw [ht.websocket, ht.observer n hlt] at hws
    have hold : (s.globals.observation n).status = .active := by
      rw [← hstatus n (by rw [hact]; nofun), hact]
    obtain ⟨o', ho, hpr⟩ := hC.registered n ⟨hlt, hold, hws⟩
    cases hact.symm.trans (hcancelled o' n ho hpr hold)

lemma Calm.of_globals {s t : Service} (h : Calm s) (hreboot : t.reboot = s.reboot)
    (hmain : t.main = s.main) (hobs : t.mainObserver = s.mainObserver)
    (hg : s.globals.Alike t.globals) : Calm t := by
  obtain ⟨hawake, hobserving, hregistered⟩ := h
  refine ⟨fun r => hreboot ▸ hawake r, fun i hd => ?_, fun n hn => ?_⟩
  · rw [hmain] at hd
    obtain ⟨o, n, hheld, hact⟩ := hobserving i (hd.mono fun _ _ _ hne => hg.observation ▸ hne)
    exact ⟨o, n, hmain ▸ hheld, by rw [hg.observation]; exact hact⟩
  · rw [MainActive, hg.observation, hg.observations, hg.observer] at hn
    rw [hobs, hg.observer]
    exact hregistered n hn

lemma OneMain.setReboot {s : Service} (h : OneMain s) {r : ℕ} {m : Reboot}
    (hr : s.reboot r ≠ .sleep) (hm : m ≠ .sleep) : OneMain (s.setReboot r m) := by
  refine h.still (h.wired.still (.refl _ 0) rfl rfl rfl rfl rfl) rfl rfl (fun _ => rfl)
    (fun _ => Iff.rfl) rfl rfl fun r' => ?_
  by_cases hr' : r' = r
  · subst hr'
    rw [setReboot_reboot_self]
    exact iff_of_false hm hr
  · rw [setReboot_reboot_of_ne s m hr']

lemma OneMain.postReboots {s : Service} (h : OneMain s) {r : ℕ} (hr : s.reboot r ≠ .sleep)
    (hC : s.globals.rebootResources = [] → Calm s) : OneMain (s.postReboots r) := by
  unfold Service.postReboots
  split
  · rename_i hnone
    exact h.restartNodes (hC hnone) r
  · exact h.setReboot hr nofun

/-- After its sleep the reboot hands over to a new main task. -/
lemma OneMain.respawn {s : Service} (h : OneMain s) {r : ℕ} (hr : s.reboot r = .sleep) :
    OneMain ((s.setReboot r .ended).respawn) := by
  have hdr : Drives s (.inr r) := hr
  have hw : Wired ((s.setReboot r .ended).respawn) :=
    wired_respawn (h.wired.still (t := s.setReboot r .ended) (.refl _ 0) rfl rfl rfl rfl rfl)
  obtain ⟨honly, hobs, hquiet⟩ : (∀ a, Drives s a → a = .inr r) ∧ s.mainObserver = none ∧
      ∀ n, ¬ MainActive s.globals n := by
    cases h.phase with
    | idle none => exact absurd hdr (none _)
    | starting i only => cases only _ hdr
    | observing i o n only => cases only _ hdr
    | sleeping r' only sleep obs quiet =>
      obtain rfl := Sum.inr.inj (only _ hdr)
      exact ⟨only, obs, quiet⟩
  have hnone : ∀ j, ¬ (s.main j).Drives s.globals := fun j hj => by cases honly (.inl j) hj
  have hawake : ∀ r', (s.setReboot r .ended).reboot r' ≠ .sleep := by
    intro r' hr'
    by_cases hrr : r' = r
    · subst hrr
      rw [setReboot_reboot_self] at hr'
      cases hr'
    · rw [setReboot_reboot_of_ne s _ hrr] at hr'
      cases honly (.inr r') hr'
      exact hrr rfl
  unfold Service.respawn at hw ⊢
  revert hw
  split
  · rename_i args hargs
    intro hw
    refine ⟨hw, fun i args' o p hm => h.owns i args' o p (spawnMain_request hm),
      fun i o n _ _ ho => ?_, .starting s.mains (fun a ha => ?_)
        (.inl ⟨args, spawnMain_main_self _ args⟩) (fun o ho => ?_) hquiet⟩
    · cases hobs.symm.trans ho
    · cases a with
      | inl j =>
        by_cases hj : j = s.mains
        · rw [hj]
        · rw [Drives, spawnMain_main_of_ne (s.setReboot r .ended) args hj] at ha
          exact absurd ha (hnone j)
      | inr r' => exact absurd ha (hawake r')
    · cases hobs.symm.trans ho
  · intro hw
    refine ⟨hw, h.owns, h.hung, .idle fun a ha => ?_⟩
    cases a with
    | inl j => exact hnone j ha
    | inr r' => exact hawake r' ha

lemma OneMain.callClient {s : Service} (h : OneMain s) : OneMain s.callClient := by
  unfold Service.callClient
  split
  · exact h
  · exact h.still (h.wired.still (.refl _ 0) rfl rfl rfl rfl rfl) rfl rfl (fun _ => rfl)
      (fun _ => Iff.rfl) rfl rfl fun _ => Iff.rfl

lemma OneMain.assign {s : Service} (h : OneMain s) : OneMain s.assign :=
  h.still (wired_assign h.wired) rfl rfl (fun _ => rfl) (fun _ => Iff.rfl) rfl rfl fun _ => Iff.rfl

lemma oneMain_step {L : Libs} {s t : Service} {e : Event} (h : OneMain s)
    (hC : RebootsCalmly s e) (hs : step L s e = some t) : OneMain t := by
  have hw := wired_step h.wired hs
  cases does_of_step L hs with
  | begin hmain => exact h.begin hmain
  | openRaised _ => exact h.died hw rfl rfl (fun _ => Iff.rfl) (fun _ _ _ => rfl) rfl rfl rfl
  | main hmain hres => exact h.main hmain hres hw
  | shutDown hmain => exact h.shutDown hmain _ hw
  | connect resource => exact h.connect resource hw
  | @request o hcall =>
    have hcalled := h.wired.callback o (.inl (by simp [hcall]))
    exact h.touch hw (Globals.touches_request _ o) hcalled rfl rfl rfl
  | @socket o r p p' g hcall hres =>
    have hcalled := h.wired.callback o (.inl (by simp [hcall]))
    exact h.touch hw (Globals.touches_resume hres) hcalled rfl rfl rfl
  | @closed o w hwebsocket _ =>
    have hws : (s.globals.observer o).websocket ≠ none := by simp [hwebsocket]
    exact h.touch hw (Globals.touches_setWebsocket _ o ⟨false, false⟩ hws) hws rfl rfl rfl
  | @cancelObservation o hcancels =>
    exact h.touch hw (Globals.touches_cancel h.wired.owned o)
      (h.wired.callback o (.inr hcancels)) rfl rfl rfl
  | reboot hreboot hclient =>
    exact h.postReboots (by simp [hreboot]) fun hnone =>
      hC (by simp [restartsNodes, hclient, hnone])
  | rebootAwaits hreboot _ => exact h.setReboot (by simp [hreboot]) (by simp)
  | rebootCreated hreboot =>
    apply h.assign.postReboots (by simp [Service.assign, setGlobals, hreboot])
    intro hnone
    have hnone : s.globals.rebootResources = [] := hnone
    exact (hC (by simp [restartsNodes, hreboot, hnone])).of_globals rfl rfl rfl ⟨rfl, rfl, rfl⟩
  | rebootRaised hreboot => exact h.setReboot (by simp [hreboot]) (by simp)
  | rebootPosted hreboot => exact h.restartNodes (hC (by simpa [restartsNodes] using hreboot)) _
  | rebootSlept hreboot => exact h.respawn hreboot
  | call => exact h.callClient
  | callCreated _ =>
    exact h.assign.still hw rfl rfl (fun _ => rfl) (fun _ => Iff.rfl) rfl rfl fun _ => Iff.rfl
  | callRaised _ =>
    exact h.still hw rfl rfl (fun _ => rfl) (fun _ => Iff.rfl) rfl rfl fun _ => Iff.rfl
  | @register _ rest _ =>
    have hrest : Wired (s.setGlobals { s.globals with registers := rest }) :=
      h.wired.still (Globals.touches_of_eq 0 rfl (fun _ => Iff.rfl) (fun _ => rfl) rfl rfl)
        rfl rfl rfl rfl rfl
    exact (h.still hrest rfl rfl (fun _ => rfl) (fun _ => Iff.rfl) rfl rfl
      fun _ => Iff.rfl).callClient
  | notify _ _ _ =>
    exact h.still hw rfl rfl (fun _ => rfl) (fun _ => Iff.rfl) rfl rfl fun _ => Iff.rfl
  | isOver _ hactive => exact h.isOver hactive hw

/-- The first main task of a phase meets an observer that is not observing. -/
lemma OneMain.noClash {L : Libs} {s : Service} (h : OneMain s) (e : Event) : ¬ Clashes L s e := by
  rintro (hcol | ⟨hcalls, n, hact⟩)
  · unfold Collides at hcol
    split at hcol
    · split at hcol
      · rename_i args hm
        obtain ⟨o, ho, hpr⟩ := hcol
        exact hpr ((h.starting (.inl ⟨args, hm⟩)).2.1 o ho)
      · exact hcol
    · exact hcol
  · unfold callsShutdown at hcalls
    split at hcalls
    · split at hcalls
      · rename_i args hm
        exact (h.starting (.inl ⟨args, hm⟩)).2.2.2 n hact
      · cases hcalls
    · rename_i i r
      split at hcalls
      · rename_i args o p hm
        obtain ⟨⟨g, p'⟩, hres, hp'⟩ := Option.map_eq_some_iff.mp (of_decide_eq_true hcalls)
        obtain rfl : p' = .returned := hp'
        rcases Globals.resume_main (h.wired.main i args o p hm).2 (h.owns i args o p hm) hres with
          ⟨-, hp, -⟩ | ⟨-, hp, -⟩ | ⟨m, -, hp, -⟩ | ⟨m, -, hp, -⟩ | ⟨m, rfl, -, hover, -⟩
        · cases hp
        · cases hp
        · cases hp
        · cases hp
        · obtain ⟨-, -, -, hactive⟩ := h.observing (i := i) (o := o) (n := m) ⟨args, .inr hm⟩
            (by simp [hover])
          obtain rfl := hactive n hact
          cases hover.symm.trans hact.2.1
      · cases hcalls
    · cases hcalls

/-- Along a run whose reboots come calmly, main tasks never collide. -/
theorem noClash_of_rebootsCalmly {L : Libs} {args : MainArgs} {es : List Event}
    (hC : (system L).Meets RebootsCalmly (Service.init args) es) :
    (system L).Meets (fun s e => ¬ Clashes L s e) (Service.init args) es :=
  hC.of_invariant (I := OneMain) (fun _ _ _ => oneMain_step) (fun _ e h _ => h.noClash e)
    (oneMain_init args)

/-- A main task that observes, a reboot, and the main task of the reboot. -/
def oneReboot : List Event :=
  [.begin 0, .main 0 .created, .main 0 (.response ⟨true, some 0, []⟩), .reboot 0, .rebootSlept 0,
    .begin 1]

theorem noClash_oneReboot : ∃ s, (system plainText).run (Service.init mainArgs) oneReboot =
    some s ∧ (s.main 1).Holds 1 1 ∧ (system plainText).Meets (fun s e => ¬ Clashes plainText s e)
      (Service.init mainArgs) oneReboot := by
  refine ⟨_, rfl, ⟨mainArgs, .inl rfl⟩, noClash_of_rebootsCalmly ?_⟩
  have hquiet : ∀ {s : Service} {e : Event}, restartsNodes s e = false → RebootsCalmly s e := by
    intro s e h hr
    rw [h] at hr
    cases hr
  refine (TransitionSystem.meets_cons rfl).mpr ⟨hquiet rfl, ?_⟩
  refine (TransitionSystem.meets_cons rfl).mpr ⟨hquiet rfl, ?_⟩
  refine (TransitionSystem.meets_cons rfl).mpr ⟨hquiet rfl, ?_⟩
  refine (TransitionSystem.meets_cons rfl).mpr
    ⟨fun _ => ⟨nofun, fun i hi => ?_, fun n hn => ?_⟩, ?_⟩
  · cases i with
    | zero => exact ⟨0, 0, ⟨mainArgs, .inr rfl⟩, rfl⟩
    | succ i => exact False.elim hi
  · obtain rfl : n = 0 := Nat.lt_one_iff.mp hn.1
    exact ⟨0, rfl, rfl⟩
  · refine (TransitionSystem.meets_cons rfl).mpr ⟨hquiet rfl, ?_⟩
    exact (TransitionSystem.meets_cons rfl).mpr ⟨hquiet rfl, trivial⟩

end CoapService

end RiotPlayground
