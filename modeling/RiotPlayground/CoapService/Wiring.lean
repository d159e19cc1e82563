import RiotPlayground.CoapService.Balanced

/-!
# Which call of `request` belongs to which observer

A call of `request` changes its own observer and the observations of that observer only. Main
tasks have the observers without a websocket, the callbacks of websockets the others.
-/

namespace RiotPlayground

namespace CoapService

open Service

namespace Globals

/-- From `g` to `g'` only the observer `o` and its observations have changed. -/
structure Touches (g g' : Globals) (o : ℕ) : Prop where
  observers : g'.observers = g.observers
  websocket : ∀ o', (g'.observer o').websocket = none ↔ (g.observer o').websocket = none
  pr : ∀ o', o' ≠ o → (g'.observer o').pr = (g.observer o').pr
  observations : g.observations ≤ g'.observations
  observer : ∀ n < g.observations, (g'.observation n).observer = (g.observation n).observer
  status : ∀ n < g.observations, (g.observation n).observer ≠ o →
    (g'.observation n).status = (g.observation n).status
  fresh : ∀ n, g.observations ≤ n → n < g'.observations → (g'.observation n).observer = o
  own : ∀ n, (g'.observer o).pr = some n →
    (g.observer o).pr = some n ∨ g.observations ≤ n ∧ n < g'.observations

lemma Touches.trans {g g' g'' : Globals} {o : ℕ} (h : Touches g g' o) (h' : Touches g' g'' o) :
    Touches g g'' o where
  observers := h'.observers.trans h.observers
  websocket o' := (h'.websocket o').trans (h.websocket o')
  pr o' ho := (h'.pr o' ho).trans (h.pr o' ho)
  observations := h.observations.trans h'.observations
  observer n hn := (h'.observer n (hn.trans_le h.observations)).trans (h.observer n hn)
  status n hn hne := by
    have hne' : (g'.observation n).observer ≠ o := by rwa [h.observer n hn]
    exact (h'.status n (hn.trans_le h.observations) hne').trans (h.status n hn hne)
  fresh n hn hn' := by
    by_cases hlt : n < g'.observations
    · exact (h'.observer n hlt).trans (h.fresh n hn hlt)
    · exact h'.fresh n (not_lt.mp hlt) hn'
  own n hn := by
    rcases h'.own n hn with hn | ⟨hle, hlt⟩
    · rcases h.own n hn with hn | ⟨hle, hlt⟩
      · exact .inl hn
      · exact .inr ⟨hle, hlt.trans_le h'.observations⟩
    · exact .inr ⟨h.observations.trans hle, hlt⟩

/-- Nothing of any observer or observation has changed but whether websockets are connected. -/
lemma touches_of_eq {g g' : Globals} (o : ℕ) (hcount : g'.observers = g.observers)
    (hws : ∀ o', (g'.observer o').websocket = none ↔ (g.observer o').websocket = none)
    (hpr : ∀ o', (g'.observer o').pr = (g.observer o').pr)
    (hcount' : g'.observations = g.observations) (hobs : g'.observation = g.observation) :
    Touches g g' o where
  observers := hcount
  websocket := hws
  pr o' _ := hpr o'
  observations := hcount'.ge
  observer n _ := by rw [hobs]
  status n _ _ := by rw [hobs]
  fresh n hn hn' := absurd (hcount' ▸ hn') (not_lt.mpr hn)
  own n hn := .inl (hpr o ▸ hn)

lemma Touches.refl (g : Globals) (o : ℕ) : Touches g g o :=
  touches_of_eq o rfl (fun _ => Iff.rfl) (fun _ => rfl) rfl rfl

lemma touches_setPr_none (g : Globals) (o : ℕ) : Touches g (g.setPr o none) o where
  observers := rfl
  websocket o' := by
    by_cases h : o' = o
    · subst h
      rw [setPr_observer_self]
    · rw [setPr_observer_of_ne g none h]
  pr o' h := by rw [setPr_observer_of_ne g none h]
  observations := le_rfl
  observer _ _ := rfl
  status _ _ _ := rfl
  fresh n hn hn' := absurd hn' (not_lt.mpr hn)
  own n hn := by
    rw [setPr_observer_self] at hn
    cases hn

lemma touches_setStatus (g : Globals) (n : ℕ) (status : ObservationStatus) :
    Touches g (g.setStatus n status) (g.observation n).observer where
  observers := rfl
  websocket _ := Iff.rfl
  pr _ _ := rfl
  observations := le_rfl
  observer m _ := by
    by_cases h : m = n
    · subst h
      rw [setStatus_observation_self]
    · rw [setStatus_observation_of_ne g status h]
  status m _ hne := by
    have h : m ≠ n := by
      rintro rfl
      exact hne rfl
    rw [setStatus_observation_of_ne g status h]
  fresh m hm hm' := absurd hm' (not_lt.mpr hm)
  own _ hm := .inl hm

lemma touches_setWebsocket (g : Globals) (o : ℕ) (w : Socket)
    (h : (g.observer o).websocket ≠ none) :
    Touches g (g.setObserver o { g.observer o with websocket := some w }) o := by
  refine touches_of_eq o rfl (fun o' => ?_) (fun o' => ?_) rfl rfl
  · by_cases ho : o' = o
    · subst ho
      simpa [setObserver] using h
    · simp [setObserver, ho]
  · by_cases ho : o' = o
    · subst ho
      simp [setObserver]
    · simp [setObserver, ho]

lemma touches_closeWebsocket (g : Globals) (o : ℕ) : Touches g (g.closeWebsocket o) o := by
  unfold closeWebsocket
  split
  · rename_i w hw
    exact touches_setWebsocket g o _ (by rw [hw]; nofun)
  · exact .refl g o

/-- Every `_pr` is of an observation of its observer. -/
def Owned (g : Globals) : Prop :=
  ∀ o n, (g.observer o).pr = some n → n < g.observations ∧ (g.observation n).observer = o

lemma touches_cancel {g : Globals} (h : g.Owned) (o : ℕ) : Touches g (g.cancel o).1 o := by
  unfold cancel
  split
  · rename_i n hn
    split
    · have ht := touches_setStatus g n .cancelled
      rwa [(h o n hn).2] at ht
    · exact .refl g o
  · exact .refl g o

lemma touches_register (g : Globals) (o : ℕ) : Touches g (g.register o).1 o where
  observers := rfl
  websocket o' := by
    by_cases h : o' = o
    · subst h
      simp [register]
    · simp [register, h]
  pr o' h := by simp [register, h]
  observations := Nat.le_succ _
  observer n hn := by rw [register_observation_of_ne g o hn.ne]
  status n hn _ := by rw [register_observation_of_ne g o hn.ne]
  fresh n hn hn' := by
    obtain rfl : n = g.observations := Nat.le_antisymm (Nat.lt_succ_iff.mp hn') hn
    rw [register_observation_self]
  own n hn := by
    have hpr : ((g.register o).1.observer o).pr = some g.observations := by simp [register]
    obtain rfl := Option.some.inj (hpr.symm.trans hn)
    exact .inr ⟨le_rfl, Nat.lt_succ_self _⟩

lemma touches_gotClient (g : Globals) (o : ℕ) : Touches g (g.gotClient o).1 o := by
  unfold gotClient
  split
  · split
    · exact .refl g o
    · exact touches_register g o
  · exact touches_register g o

lemma touches_request (g : Globals) (o : ℕ) : Touches g (g.request o).1 o := by
  unfold request
  split
  · split
    · exact touches_gotClient g o
    · exact .refl g o
  · exact .refl g o

lemma touches_setCtxs (g : Globals) (ctxs : Contexts) (o : ℕ) : Touches g (g.setCtxs ctxs) o :=
  touches_of_eq o rfl (fun _ => Iff.rfl) (fun _ => rfl) rfl rfl

lemma touches_incoming (L : Libs) (g : Globals) (o : ℕ) (resp : Response) (o' : ℕ) :
    Touches g (g.incoming L o resp).1 o' :=
  touches_of_eq o' rfl (fun _ => Iff.rfl) (fun _ => rfl) rfl rfl

lemma touches_leave (g : Globals) (o n : ℕ) (raised : Bool) :
    Touches g (g.leave o n raised).1 o :=
  (touches_closeWebsocket g o).trans (touches_of_eq o rfl (fun _ => Iff.rfl) (fun _ => rfl) rfl rfl)

lemma touches_finallyBlock (g : Globals) (o n : ℕ) (raised : Bool) :
    Touches g (g.finallyBlock o n raised).1 o := by
  rw [finallyBlock_eq]
  exact (touches_setPr_none g o).trans (touches_leave _ o n raised)

lemma touches_resume {L : Libs} {g g' : Globals} {o : ℕ} {p p' : Progress} {r : Resume}
    (h : g.resume L o p r = some (g', p')) : Touches g g' o := by
  cases p with
  | client =>
    cases r with
    | created =>
      obtain ⟨rfl, -⟩ := Prod.mk.inj (Option.some.inj h)
      exact (touches_setCtxs g _ o).trans (touches_gotClient _ o)
    | createRaised =>
      obtain ⟨rfl, -⟩ := Prod.mk.inj (Option.some.inj h)
      exact .refl g o
    | _ => cases h
  | response n =>
    cases r with
    | response resp =>
      have h := Option.some.inj h
      split at h
      · obtain ⟨rfl, -⟩ := Prod.mk.inj h
        exact (touches_incoming L g o resp o).trans (touches_finallyBlock _ o n true)
      · obtain ⟨rfl, -⟩ := Prod.mk.inj h
        exact touches_incoming L g o resp o
    | responseRaised =>
      obtain ⟨rfl, -⟩ := Prod.mk.inj (Option.some.inj h)
      exact touches_finallyBlock g o n true
    | _ => cases h
  | isOver n =>
    cases r with
    | isOver =>
      obtain ⟨-, h⟩ := Option.ite_none_right_eq_some.mp h
      obtain ⟨rfl, -⟩ := Prod.mk.inj (Option.some.inj h)
      exact touches_finallyBlock g o n false
    | _ => cases h
  | sleep n raised =>
    cases r with
    | slept =>
      obtain ⟨rfl, -⟩ := Prod.mk.inj (Option.some.inj h)
      exact touches_leave g o n raised
    | _ => cases h
  | returned => cases r <;> cases h
  | raised => cases r <;> cases h

end Globals

/-- The callbacks `request` and `cancel_observation` of the websocket of an observer. -/
def HasCallback (s : Service) (o : ℕ) : Prop := s.calls o ≠ .none ∨ s.cancels o ≠ 0

structure Wired (s : Service) : Prop where
  owned : s.globals.Owned
  observation : ∀ n < s.globals.observations,
    (s.globals.observation n).observer < s.globals.observers
  websocket : ∀ o, (s.globals.observer o).websocket ≠ none → o < s.globals.observers
  callback : ∀ o, HasCallback s o → (s.globals.observer o).websocket ≠ none
  main : ∀ i args o p, s.main i = .request args o p →
    o < s.globals.observers ∧ (s.globals.observer o).websocket = none
  mainObserver : ∀ o, s.mainObserver = some o →
    o < s.globals.observers ∧ (s.globals.observer o).websocket = none

lemma wired_init (args : MainArgs) : Wired (Service.init args) :=
  ⟨nofun, nofun, fun _ h => absurd rfl h, fun _ h => h.elim (absurd rfl) (absurd rfl),
    fun _ _ _ _ h => absurd h init_request, nofun⟩

/-- A step that touches one observer, and calls `request` on no other one than `mainObserver`. -/
lemma Wired.touch {s t : Service} (h : Wired s) {o : ℕ}
    (ht : Globals.Touches s.globals t.globals o)
    (ho : s.globals.observations < t.globals.observations → o < s.globals.observers)
    (hcall : ∀ o', HasCallback t o' →
      HasCallback s o' ∨ (s.globals.observer o').websocket ≠ none)
    (hmain : ∀ i args o' p, t.main i = .request args o' p →
      (∃ j args' p', s.main j = .request args' o' p') ∨ s.mainObserver = some o')
    (hobs : ∀ o', t.mainObserver = some o' → s.mainObserver = some o') : Wired t := by
  refine ⟨fun o' n hn => ?_, fun n hn => ?_, fun o' hws => ?_, fun o' hc => ?_,
    fun i args o' p hm => ?_, fun o' hm => ?_⟩
  · by_cases hoo : o' = o
    · subst hoo
      rcases ht.own n hn with hn | ⟨hle, hlt⟩
      · obtain ⟨hlt, hobs⟩ := h.owned o' n hn
        exact ⟨hlt.trans_le ht.observations, (ht.observer n hlt).trans hobs⟩
      · exact ⟨hlt, ht.fresh n hle hlt⟩
    · rw [ht.pr o' hoo] at hn
      obtain ⟨hlt, hobs⟩ := h.owned o' n hn
      exact ⟨hlt.trans_le ht.observations, (ht.observer n hlt).trans hobs⟩
  · rw [ht.observers]
    by_cases hlt : n < s.globals.observations
    · exact (ht.observer n hlt).trans_lt (h.observation n hlt)
    · have hle := not_lt.mp hlt
      exact (ht.fresh n hle hn).trans_lt (ho (hle.trans_lt hn))
  · exact ht.observers ▸ h.websocket o' (mt (ht.websocket o').mpr hws)
  · exact mt (ht.websocket o').mp ((hcall o' hc).elim (h.callback o') id)
  · have hold : o' < s.globals.observers ∧ (s.globals.observer o').websocket = none := by
      rcases hmain i args o' p hm with ⟨j, args', p', hj⟩ | hj
      · exact h.main j args' o' p' hj
      · exact h.mainObserver o' hj
    exact ⟨ht.observers ▸ hold.1, (ht.websocket o').mpr hold.2⟩
  · obtain ⟨hlt, hws⟩ := h.mainObserver o' (hobs o' hm)
    exact ⟨ht.observers ▸ hlt, (ht.websocket o').mpr hws⟩

/-- A step that neither registers an observation nor begins a request. -/
lemma Wired.same {s t : Service} (h : Wired s) {o : ℕ}
    (ht : Globals.Touches s.globals t.globals o)
    (hcount : t.globals.observations = s.globals.observations)
    (hcall : ∀ o', HasCallback t o' →
      HasCallback s o' ∨ (s.globals.observer o').websocket ≠ none)
    (hmain : ∀ i args o' p, t.main i = .request args o' p → s.main i = .request args o' p)
    (hobs : ∀ o', t.mainObserver = some o' → s.mainObserver = some o') : Wired t :=
  h.touch ht (fun hlt => absurd hlt (hcount ▸ lt_irrefl _)) hcall
    (fun i args o' p hm => .inl ⟨i, args, p, hmain i args o' p hm⟩) hobs

/-- A step that leaves the calls of `request` and the main observer alone. -/
lemma Wired.still {s t : Service} (h : Wired s) {o : ℕ}
    (ht : Globals.Touches s.globals t.globals o)
    (hcount : t.globals.observations = s.globals.observations) (hcall : t.calls = s.calls)
    (hcancel : t.cancels = s.cancels) (hmain : t.main = s.main)
    (hobs : t.mainObserver = s.mainObserver) : Wired t :=
  h.same ht hcount (fun _ hc => .inl (hc.imp (fun hn => hcall ▸ hn) fun hn => hcancel ▸ hn))
    (fun _ _ _ _ hm => hmain ▸ hm) fun _ hm => hobs ▸ hm

/-- A new observer, for `main` or for a websocket. -/
lemma Wired.newObserver {s t : Service} (h : Wired s) {resource : List Char}
    {websocket : Option Socket} (hg : t.globals = s.globals.newObserver resource websocket)
    (hcall : ∀ o, HasCallback t o →
      HasCallback s o ∨ o = s.globals.observers ∧ websocket ≠ none)
    (hmain : t.main = s.main)
    (hobs : ∀ o, t.mainObserver = some o → s.mainObserver = some o ∨
      o = s.globals.observers ∧ websocket = none) : Wired t := by
  have hold : ∀ o < s.globals.observers, t.globals.observer o = s.globals.observer o := by
    intro o ho
    rw [hg, Globals.newObserver_observer_of_ne _ _ _ ho.ne]
  have hnew : (t.globals.observer s.globals.observers).websocket = websocket := by
    rw [hg, Globals.newObserver_observer_self]
  have hcount : t.globals.observers = s.globals.observers + 1 := by rw [hg]; rfl
  have hn : t.globals.observations = s.globals.observations := by rw [hg]; rfl
  have hobservation : t.globals.observation = s.globals.observation := by rw [hg]; rfl
  refine ⟨fun o n ho => ?_, fun n hlt => ?_, fun o hws => ?_, fun o hc => ?_,
    fun i args o p hm => ?_, fun o hm => ?_⟩
  · rw [hn, hobservation]
    by_cases hne : o = s.globals.observers
    · subst hne
      rw [hg, Globals.newObserver_observer_self] at ho
      cases ho
    · rw [hg, Globals.newObserver_observer_of_ne _ _ _ hne] at ho
      exact h.owned o n ho
  · rw [hcount, hobservation]
    exact Nat.lt_succ_of_lt (h.observation n (hn ▸ hlt))
  · by_cases hne : o = s.globals.observers
    · exact hcount ▸ hne ▸ Nat.lt_succ_self _
    · rw [hg, Globals.newObserver_observer_of_ne _ _ _ hne] at hws
      exact hcount ▸ Nat.lt_succ_of_lt (h.websocket o hws)
  · rcases hcall o hc with hc | ⟨rfl, hws⟩
    · have hws := h.callback o hc
      exact hold o (h.websocket o hws) ▸ hws
    · exact hnew ▸ hws
  · obtain ⟨hlt, hws⟩ := h.main i args o p (hmain ▸ hm)
    exact ⟨hcount ▸ Nat.lt_succ_of_lt hlt, hold o hlt ▸ hws⟩
  · rcases hobs o hm with hm | ⟨rfl, hws⟩
    · obtain ⟨hlt, hws⟩ := h.mainObserver o hm
      exact ⟨hcount ▸ Nat.lt_succ_of_lt hlt, hold o hlt ▸ hws⟩
    · exact ⟨hcount ▸ Nat.lt_succ_self _, hnew.trans hws⟩

lemma prepareMain_spec {s : Service} (h : Wired s) (args : MainArgs) :
    Wired (s.prepareMain args).1 ∧
      (s.prepareMain args).1.mainObserver = some (s.prepareMain args).2 := by
  unfold prepareMain
  dsimp only
  split
  · rename_i o ho
    exact ⟨h.still (.refl _ 0) rfl rfl rfl rfl rfl, ho⟩
  · refine ⟨h.newObserver rfl (fun _ => .inl) rfl fun o ho => .inr ⟨?_, rfl⟩, rfl⟩
    exact (Option.some.inj ho).symm

/-- A main task's request, begun or run on. -/
lemma Wired.mainAfter {s t : Service} (h : Wired s) {i : ℕ} {args : MainArgs} {o : ℕ}
    {p : Progress} (ht : Globals.Touches s.globals t.globals o)
    (ho : o < s.globals.observers) (hmain : t.main = s.main) (hcalls : t.calls = s.calls)
    (hcancels : t.cancels = s.cancels) (hobs : t.mainObserver = s.mainObserver)
    (hown : (∃ j args' p', s.main j = .request args' o p') ∨ s.mainObserver = some o) :
    Wired (t.mainAfter i args o p) := by
  obtain ⟨hg, hc, hcc, hm⟩ := mainAfter_frame t i args o p
  refine h.touch (hg ▸ ht) (fun _ => ho) (fun o' hn => .inl ?_) (fun j args' o' p' hj => ?_)
    fun o' hn => hobs ▸ hm ▸ hn
  · rwa [HasCallback, hc, hcc, hcalls, hcancels] at hn
  rcases mainAfter_request hj with hj | ⟨-, rfl, -⟩
  · exact .inl ⟨j, args', p', hmain ▸ hj⟩
  · exact hown

lemma wired_beginMain {s : Service} (h : Wired s) (i : ℕ) (args : MainArgs) :
    Wired (s.beginMain i args) := by
  obtain ⟨hw, hobs⟩ := prepareMain_spec h args
  exact hw.mainAfter (Globals.touches_request _ _) (hw.mainObserver _ hobs).1 rfl rfl rfl rfl
    (.inr hobs)

lemma touches_closeWebsockets (g : Globals) (o : ℕ) :
    Globals.Touches g (closeWebsockets g) o := by
  refine Globals.touches_of_eq o rfl (fun o' => ?_) (fun _ => rfl) rfl rfl
  rw [closeWebsockets, Option.map_eq_none_iff]

lemma cancel_observations (g : Globals) (o : ℕ) : (g.cancel o).1.observations = g.observations := by
  unfold Globals.cancel
  split
  · split <;> rfl
  · rfl

lemma wired_restartNodes {s : Service} (h : Wired s) (r : ℕ) : Wired (s.restartNodes r) := by
  have hc : Wired s.cancelMainObserver := by
    unfold cancelMainObserver
    split
    · exact h.same (Globals.touches_cancel h.owned _) (cancel_observations _ _) (fun _ => .inl)
        (fun _ _ _ _ => id) nofun
    · exact h
  exact hc.still (touches_closeWebsockets _ 0) rfl rfl rfl rfl rfl

lemma wired_postReboots {s : Service} (h : Wired s) (r : ℕ) : Wired (s.postReboots r) := by
  unfold postReboots
  split
  · exact wired_restartNodes h r
  · exact h.still (.refl _ 0) rfl rfl rfl rfl rfl

lemma wired_respawn {s : Service} (h : Wired s) : Wired s.respawn := by
  unfold respawn
  split
  · exact h.same (.refl _ 0) rfl (fun _ => .inl) (fun _ _ _ _ => spawnMain_request) fun _ => id
  · exact h

lemma wired_callClient {s : Service} (h : Wired s) : Wired s.callClient := by
  unfold callClient
  split
  · exact h
  · exact h.still (.refl _ 0) rfl rfl rfl rfl rfl

lemma wired_assign {s : Service} (h : Wired s) : Wired s.assign :=
  h.still (Globals.touches_setCtxs _ _ 0) rfl rfl rfl rfl rfl

/-- The callback of a websocket runs on. -/
lemma hasCallback_setCall {s : Service} {o o' : ℕ} {c : Callback} (ho : s.calls o ≠ .none)
    (h : HasCallback (s.setCall o c) o') : HasCallback s o' := by
  by_cases hoo : o' = o
  · exact hoo ▸ .inl ho
  · rwa [HasCallback, setCall_calls_of_ne s c hoo] at h

lemma wired_step {L : Libs} {s t : Service} {e : Event} (h : Wired s)
    (hs : step L s e = some t) : Wired t := by
  cases does_of_step L hs with
  | begin _ => exact wired_beginMain h _ _
  | openRaised _ =>
    exact h.same (.refl _ 0) rfl (fun _ => .inl)
      (fun _ _ _ _ hm => (setMain_request hm).resolve_right (by simp)) fun _ => id
  | @main i o r args p p' g hmain hres =>
    exact h.mainAfter (t := s.setGlobals g) (Globals.touches_resume hres)
      (h.main i args o p hmain).1 rfl rfl rfl rfl (.inl ⟨i, args, p, hmain⟩)
  | shutDown _ =>
    exact h.same (Globals.touches_setCtxs _ _ 0) rfl (fun _ => .inl) (fun _ _ _ _ hm =>
      (setMain_request (spawnMain_request hm)).resolve_right (by simp)) fun _ => id
  | connect resource =>
    refine h.newObserver rfl (fun o hc => ?_) rfl fun _ => .inl
    by_cases ho : o = s.globals.observers
    · exact .inr ⟨ho, by simp⟩
    · rw [HasCallback, Service.connect, setCall_calls_of_ne _ _ ho] at hc
      exact .inl hc
  | @request o hcall =>
    have hne : s.calls o ≠ .none := by simp [hcall]
    exact h.touch (Globals.touches_request _ o)
      (fun _ => h.websocket o (h.callback o (.inl hne)))
      (fun _ hc => .inl (hasCallback_setCall (s := s.setGlobals _) hne hc))
      (fun i args o' p hm => .inl ⟨i, args, p, hm⟩) fun _ => id
  | @socket o r p p' g hcall hres =>
    have hne : s.calls o ≠ .none := by simp [hcall]
    exact h.touch (Globals.touches_resume hres)
      (fun _ => h.websocket o (h.callback o (.inl hne)))
      (fun _ hc => .inl (hasCallback_setCall (s := s.setGlobals g) hne hc))
      (fun i args o' p hm => .inl ⟨i, args, p, hm⟩) fun _ => id
  | @closed o w hwebsocket _ =>
    have hws : (s.globals.observer o).websocket ≠ none := by simp [hwebsocket]
    refine h.same (Globals.touches_setWebsocket _ o ⟨false, false⟩ hws) rfl (fun o' hc => ?_)
      (fun _ _ _ _ => id) fun _ => id
    by_cases ho : o' = o
    · exact .inr (ho ▸ hws)
    · exact .inl (hc.imp id fun hc => by simpa [Function.update_of_ne ho] using hc)
  | @cancelObservation o hcancels =>
    refine h.same (Globals.touches_cancel h.owned o) (cancel_observations _ o)
      (fun o' hc => .inl ?_) (fun _ _ _ _ => id) fun _ => id
    by_cases ho : o' = o
    · exact ho ▸ .inr hcancels
    · exact hc.imp id fun hc => by simpa [Function.update_of_ne ho] using hc
  | reboot _ _ => exact wired_postReboots h _
  | rebootAwaits _ _ => exact h.still (.refl _ 0) rfl rfl rfl rfl rfl
  | rebootCreated _ => exact wired_postReboots (wired_assign h) _
  | rebootRaised _ => exact h.still (.refl _ 0) rfl rfl rfl rfl rfl
  | rebootPosted _ => exact wired_restartNodes h _
  | @rebootSlept r _ =>
    exact wired_respawn (h.still (t := s.setReboot r .ended) (.refl _ 0) rfl rfl rfl rfl rfl)
  | call => exact wired_callClient h
  | callCreated _ => exact (wired_assign h).still (.refl _ 0) rfl rfl rfl rfl rfl
  | callRaised _ => exact h.still (.refl _ 0) rfl rfl rfl rfl rfl
  | @register _ rest _ =>
    exact wired_callClient (h.still (t := s.setGlobals { s.globals with registers := rest })
      (Globals.touches_of_eq 0 rfl (fun _ => Iff.rfl) (fun _ => rfl) rfl rfl) rfl rfl rfl rfl rfl)
  | notify resp _ _ => exact h.still (Globals.touches_incoming L _ _ resp 0) rfl rfl rfl rfl rfl
  | @isOver n _ _ => exact h.still (Globals.touches_setStatus _ n _) rfl rfl rfl rfl rfl

end CoapService

end RiotPlayground
