import RiotPlayground.CoapService.Service

/-!
# Observations that outlive their request

The finally block of `request` forgets `_pr` before it calls `cancel()`, which so finds nothing to
cancel. An observation is closed at the end of its request only if it was over or cancelled
before.
-/

namespace RiotPlayground

namespace CoapService

open Service

/-- Every observation whose `request` has returned or raised is over or cancelled, and its
callback is not called. -/
def Balanced (L : Libs) (s : Service) : Prop :=
  ∀ n ∈ s.globals.left, (s.globals.observation n).status ≠ .active ∧
    ∀ resp, step L s (.notify n resp) = none

/-- The payload is in link-format, and does not decode or has a reference that `urlparse`
refuses. -/
def Unreadable (L : Libs) (resp : Response) : Prop :=
  mimeType L resp = "application/link-format".toList ∧
    ∀ hrefs ∈ L.linkformat resp.payload, ∃ href ∈ hrefs, L.urlparse href = none

/-- `incoming_observation` raises: the links of a successful response cannot be read, or the
client of the websocket it goes to is gone. -/
def ObservationRaises (L : Libs) (websocket : Option Socket) (resp : Response) : Prop :=
  resp.successful = true ∧
    (Unreadable L resp ∨ ∃ w ∈ websocket, w.listed = true ∧ w.connected = false)

instance (L : Libs) (resp : Response) : Decidable (Unreadable L resp) :=
  inferInstanceAs (Decidable (_ ∧ _))

instance (L : Libs) (websocket : Option Socket) (resp : Response) :
    Decidable (ObservationRaises L websocket resp) :=
  inferInstanceAs (Decidable (_ ∧ _))

/-- The await of the response, or the call of `incoming_observation` after it, raises. -/
def raises (L : Libs) (g : Globals) (o : ℕ) : Resume → Bool
  | .responseRaised => true
  | .response resp => ObservationRaises L (g.observer o).websocket resp
  | _ => false

/-- A request that leaves by an exception finds its observation over or cancelled. -/
def LeavesClosed (L : Libs) (g : Globals) (o : ℕ) (p : Progress) (r : Resume) : Prop :=
  match p with
  | .response n => raises L g o r → (g.observation n).status ≠ .active
  | _ => True

def RaisesClosed (L : Libs) (s : Service) : Event → Prop
  | .main i r =>
    match s.main i with
    | .request _ o p => LeavesClosed L s.globals o p r
    | _ => True
  | .socket o r =>
    match s.calls o with
    | .running p => LeavesClosed L s.globals o p r
    | _ => True
  | _ => True

instance (L : Libs) (g : Globals) (o : ℕ) (p : Progress) (r : Resume) :
    Decidable (LeavesClosed L g o p r) := by
  unfold LeavesClosed
  split <;> infer_instance

instance (L : Libs) (s : Service) (e : Event) : Decidable (RaisesClosed L s e) := by
  unfold RaisesClosed
  split <;> first | infer_instance | (split <;> infer_instance)

/-- Every payload is link-format, and none of them parses. -/
def noLinks : Libs := ⟨fun _ => "application/link-format".toList, fun _ => none, fun _ => none⟩

def mainArgs : MainArgs := ⟨"2001:db8::1".toList, "www".toList, 5656⟩

def garbled : Response := ⟨true, some 40, [0xff]⟩

/-- The first response to the main observer is not UTF-8. -/
def garbledResponse : List Event := [.begin 0, .main 0 .created, .main 0 (.response garbled)]

/-- `request` has raised, and aiocoap goes on calling `incoming_observation`. -/
theorem garbledResponse_not_balanced : ∃ s t, (system noLinks).run (init mainArgs)
    garbledResponse = some s ∧ s.globals.left = [0] ∧
      (s.globals.observation 0).status = .active ∧
      step noLinks s (.notify 0 garbled) = some t ∧ ¬ Balanced noLinks s := by
  refine ⟨_, _, rfl, rfl, rfl, rfl, fun h => ?_⟩
  exact (h 0 (List.mem_singleton.mpr rfl)).1 rfl

lemma readLinks_eq_none_iff {L : Libs} {hrefs reboots : List (List Char)} {links : List Link} :
    (readLinks L hrefs reboots links).2 = none ↔ ∃ href ∈ hrefs, L.urlparse href = none := by
  induction hrefs generalizing reboots links with
  | nil => exact iff_of_false nofun nofun
  | cons href hrefs ih =>
    cases hparse : L.urlparse href with
    | none =>
      rw [readLinks, hparse]
      exact iff_of_true rfl ⟨href, List.mem_cons_self, hparse⟩
    | some parts =>
      rw [readLinks, hparse]
      dsimp only
      have hne : L.urlparse href ≠ none := by
        rw [hparse]
        exact nofun
      rw [ih, List.exists_mem_cons_iff, or_iff_right hne]

lemma responseLinks_eq_none_iff {L : Libs} {reboots : List (List Char)} {resp : Response} :
    (responseLinks L reboots resp).2 = none ↔ Unreadable L resp := by
  unfold responseLinks Unreadable
  split
  · rename_i htype
    rw [and_iff_right htype]
    cases L.linkformat resp.payload with
    | none => exact iff_of_true rfl nofun
    | some hrefs =>
      dsimp only
      rw [readLinks_eq_none_iff]
      constructor
      · rintro h hrefs' hmem
        exact Option.some.inj hmem ▸ h
      · exact fun h => h hrefs rfl
  · rename_i htype
    exact iff_of_false nofun fun h => htype h.1

lemma raised_incomingObservation {L : Libs} {websocket : Option Socket}
    {reboots : List (List Char)} {resp : Response} :
    (incomingObservation L websocket reboots resp).raised = true ↔
      ObservationRaises L websocket resp := by
  unfold incomingObservation ObservationRaises
  rw [← @responseLinks_eq_none_iff L reboots resp]
  cases resp.successful with
  | false => exact iff_of_false nofun fun h => nomatch h.1
  | true =>
    rw [if_pos rfl, and_iff_right rfl]
    obtain ⟨reboots', _ | links⟩ := responseLinks L reboots resp
    · exact iff_of_true rfl (.inl rfl)
    · obtain _ | ⟨listed, connected⟩ := websocket
      · exact iff_of_false nofun fun h => h.elim nofun nofun
      · cases listed <;> cases connected <;> simp [Socket.isClosed]

namespace Globals

/-- From `g` to `g'` observations may be added and end, and no request leaves. -/
structure Evolves (g g' : Globals) : Prop where
  le : g.observations ≤ g'.observations
  closed : ∀ n < g.observations, (g.observation n).status ≠ .active →
    (g'.observation n).status ≠ .active
  left : g'.left = g.left

lemma Evolves.refl (g : Globals) : Evolves g g := ⟨le_rfl, fun _ _ h => h, rfl⟩

lemma Evolves.trans {g g' g'' : Globals} (h : Evolves g g') (h' : Evolves g' g'') :
    Evolves g g'' :=
  ⟨h.le.trans h'.le, fun n hn hs => h'.closed n (hn.trans_le h.le) (h.closed n hn hs),
    h'.left.trans h.left⟩

lemma evolves_setCtxs (g : Globals) (ctxs : Contexts) : Evolves g (g.setCtxs ctxs) :=
  ⟨le_rfl, fun _ _ h => h, rfl⟩

lemma evolves_setStatus (g : Globals) (n : ℕ) {status : ObservationStatus}
    (h : status ≠ .active) : Evolves g (g.setStatus n status) := by
  refine ⟨le_rfl, fun m _ hm => ?_, rfl⟩
  by_cases hmn : m = n
  · subst hmn
    rw [setStatus_observation_self]
    exact h
  · rw [setStatus_observation_of_ne g status hmn]
    exact hm

lemma evolves_cancel (g : Globals) (o : ℕ) : Evolves g (g.cancel o).1 := by
  unfold cancel
  split
  · split
    · exact evolves_setStatus g _ nofun
    · exact .refl g
  · exact .refl g

lemma evolves_register (g : Globals) (o : ℕ) : Evolves g (g.register o).1 := by
  refine ⟨Nat.le_succ _, fun n hn hs => ?_, rfl⟩
  rw [register_observation_of_ne g o hn.ne]
  exact hs

lemma evolves_gotClient (g : Globals) (o : ℕ) : Evolves g (g.gotClient o).1 := by
  unfold gotClient
  split
  · split
    · exact .refl g
    · exact evolves_register g o
  · exact evolves_register g o

lemma evolves_request (g : Globals) (o : ℕ) : Evolves g (g.request o).1 := by
  unfold request
  split
  · split
    · exact evolves_gotClient g o
    · exact .refl g
  · exact .refl g

lemma closeWebsocket_frame (g : Globals) (o : ℕ) :
    (g.closeWebsocket o).observations = g.observations ∧
      (g.closeWebsocket o).observation = g.observation := by
  unfold closeWebsocket
  split <;> exact ⟨rfl, rfl⟩

/-- The observations of a call of `request` exist, and it never gets to its last await. -/
def Valid (g : Globals) : Progress → Prop
  | .response n | .isOver n => n < g.observations
  | .sleep _ _ => False
  | _ => True

lemma Valid.mono {g g' : Globals} {p : Progress} (h : g.Valid p) (hg : Evolves g g') :
    g'.Valid p := by
  cases p with
  | response n => exact lt_of_lt_of_le h hg.le
  | isOver n => exact lt_of_lt_of_le h hg.le
  | sleep n raised => exact h
  | client => trivial
  | returned => trivial
  | raised => trivial

lemma valid_gotClient (g : Globals) (o : ℕ) : (g.gotClient o).1.Valid (g.gotClient o).2 := by
  unfold gotClient
  split
  · split
    · trivial
    · exact Nat.lt_succ_self _
  · exact Nat.lt_succ_self _

lemma valid_request (g : Globals) (o : ℕ) : (g.request o).1.Valid (g.request o).2 := by
  unfold request
  split
  · split
    · exact valid_gotClient g o
    · trivial
  · trivial

/-- The request of observation `n` leaves, which changes nothing about any observation. -/
structure Leaves (g g' : Globals) (n : ℕ) : Prop where
  exist : n < g.observations
  observations : g'.observations = g.observations
  observation : g'.observation = g.observation
  left : g'.left = n :: g.left

lemma leaves_finallyBlock (g : Globals) (o : ℕ) {n : ℕ} (raised : Bool) (h : n < g.observations) :
    Leaves g (g.finallyBlock o n raised).1 n := by
  rw [finallyBlock_eq]
  obtain ⟨hcount, hobs⟩ := closeWebsocket_frame (g.setPr o none) o
  exact ⟨h, hcount, hobs, rfl⟩

lemma valid_finallyBlock (g g' : Globals) (o n : ℕ) (raised : Bool) :
    g'.Valid (g.finallyBlock o n raised).2 := by
  rw [finallyBlock_eq]
  cases raised <;> trivial

/-- What running `request` to its next await can do. -/
lemma resume_cases {L : Libs} {g g' : Globals} {o : ℕ} {p p' : Progress} {r : Resume}
    (hp : g.Valid p) (h : g.resume L o p r = some (g', p')) :
    g'.Valid p' ∧ (Evolves g g' ∧ (∀ n, p = .response n → raises L g o r = false) ∨
      (∃ n, p = .response n ∧ raises L g o r = true ∧ Leaves g g' n) ∨
      ∃ n, p = .isOver n ∧ (g.observation n).status = .isOver ∧ Leaves g g' n) := by
  cases p with
  | client =>
    cases r with
    | created =>
      obtain ⟨rfl, rfl⟩ := Prod.mk.inj (Option.some.inj h)
      exact ⟨valid_gotClient _ o,
        .inl ⟨(evolves_setCtxs g _).trans (evolves_gotClient _ o), nofun⟩⟩
    | createRaised =>
      obtain ⟨rfl, rfl⟩ := Prod.mk.inj (Option.some.inj h)
      exact ⟨trivial, .inl ⟨.refl g, nofun⟩⟩
    | _ => cases h
  | response n =>
    cases r with
    | response resp =>
      have h := Option.some.inj h
      split at h
      · rename_i hraised
        obtain ⟨rfl, rfl⟩ := Prod.mk.inj h
        have hraises : raises L g o (.response resp) = true :=
          decide_eq_true (raised_incomingObservation.mp hraised)
        refine ⟨valid_finallyBlock _ _ o n true, .inr (.inl ⟨n, rfl, hraises, ?_⟩)⟩
        have hl := leaves_finallyBlock (g.incoming L o resp).1 o true hp
        exact ⟨hl.exist, hl.observations, hl.observation, hl.left⟩
      · rename_i hraised
        obtain ⟨rfl, rfl⟩ := Prod.mk.inj h
        have hraises : raises L g o (.response resp) = false :=
          decide_eq_false fun h => hraised (raised_incomingObservation.mpr h)
        exact ⟨hp, .inl ⟨⟨le_rfl, fun _ _ hn => hn, rfl⟩, fun _ _ => hraises⟩⟩
    | responseRaised =>
      obtain ⟨rfl, rfl⟩ := Prod.mk.inj (Option.some.inj h)
      exact ⟨valid_finallyBlock _ _ o n true,
        .inr (.inl ⟨n, rfl, rfl, leaves_finallyBlock g o true hp⟩)⟩
    | _ => cases h
  | isOver n =>
    cases r with
    | isOver =>
      obtain ⟨hover, h⟩ := Option.ite_none_right_eq_some.mp h
      obtain ⟨rfl, rfl⟩ := Prod.mk.inj (Option.some.inj h)
      exact ⟨valid_finallyBlock _ _ o n false,
        .inr (.inr ⟨n, rfl, hover, leaves_finallyBlock g o false hp⟩)⟩
    | _ => cases h
  | sleep n raised => cases hp
  | returned => cases r <;> cases h
  | raised => cases r <;> cases h

end Globals

open Globals

structure Tracked (s : Service) : Prop where
  left : ∀ n ∈ s.globals.left, n < s.globals.observations ∧
    (s.globals.observation n).status ≠ .active
  main : ∀ i args o p, s.main i = .request args o p → s.globals.Valid p
  call : ∀ o p, s.calls o = .running p → s.globals.Valid p

lemma Tracked.balanced {s : Service} (h : Tracked s) (L : Libs) : Balanced L s := by
  intro n hn
  refine ⟨(h.left n hn).2, fun resp => ?_⟩
  rw [step, notify, if_neg fun hc => (h.left n hn).2 hc.2, Option.map_none]

lemma tracked_init (args : MainArgs) : Tracked (Service.init args) :=
  ⟨nofun, fun _ _ _ _ h => absurd h init_request, nofun⟩

/-- Calls of `request` that a step begins or runs are valid, the others are where they were. -/
structure Runs (s t : Service) : Prop where
  main : ∀ i args o p, t.main i = .request args o p →
    s.main i = .request args o p ∨ t.globals.Valid p
  call : ∀ o p, t.calls o = .running p → s.calls o = .running p ∨ t.globals.Valid p

lemma Tracked.evolves {s t : Service} (h : Tracked s) (hg : Evolves s.globals t.globals)
    (hr : Runs s t) : Tracked t := by
  refine ⟨fun n hn => ?_, fun i args o p hm => ?_, fun o p hc => ?_⟩
  · obtain ⟨hlt, hs⟩ := h.left n (hg.left ▸ hn)
    exact ⟨hlt.trans_le hg.le, hg.closed n hlt hs⟩
  · exact (hr.main i args o p hm).elim (fun hm => (h.main i args o p hm).mono hg) id
  · exact (hr.call o p hc).elim (fun hc => (h.call o p hc).mono hg) id

lemma Tracked.leaves {s t : Service} (h : Tracked s) {n : ℕ} (hg : Leaves s.globals t.globals n)
    (hs : (s.globals.observation n).status ≠ .active) (hr : Runs s t) : Tracked t := by
  have hmono : ∀ p, s.globals.Valid p → t.globals.Valid p := by
    intro p hp
    cases p with
    | response m => exact lt_of_lt_of_eq hp hg.observations.symm
    | isOver m => exact lt_of_lt_of_eq hp hg.observations.symm
    | sleep m raised => exact hp
    | client => trivial
    | returned => trivial
    | raised => trivial
  refine ⟨fun m hm => ?_, fun i args o p hm => ?_, fun o p hc => ?_⟩
  · rw [hg.left] at hm
    rw [hg.observations, hg.observation]
    rcases List.mem_cons.mp hm with rfl | hm
    · exact ⟨hg.exist, hs⟩
    · exact h.left m hm
  · exact (hr.main i args o p hm).elim (fun hm => hmono p (h.main i args o p hm)) id
  · exact (hr.call o p hc).elim (fun hc => hmono p (h.call o p hc)) id

lemma runs_setMain {s t : Service} {i : ℕ} {m : Main} (hmain : t.main = s.main)
    (hcalls : t.calls = s.calls) (hm : ∀ args o p, m ≠ .request args o p) :
    Runs s (t.setMain i m) := by
  refine ⟨fun j args o p hj => .inl ?_, fun o p hc => .inl (hcalls ▸ hc)⟩
  exact hmain ▸ (setMain_request hj).resolve_right fun h => hm args o p h.2

lemma Runs.spawnMain {s t : Service} (h : Runs s t) (args : MainArgs) :
    Runs s (t.spawnMain args) :=
  ⟨fun j args' o p hj => h.main j args' o p (spawnMain_request hj), h.call⟩

lemma runs_mainAfter {s t : Service} {i : ℕ} {args : MainArgs} {o : ℕ} {p : Progress}
    (hmain : t.main = s.main) (hcalls : t.calls = s.calls) (hp : t.globals.Valid p) :
    Runs s (t.mainAfter i args o p) := by
  obtain ⟨hg, hc, -⟩ := mainAfter_frame t i args o p
  refine ⟨fun j args' o' p' hj => ?_, fun o' p' ho => .inl (hcalls ▸ hc ▸ ho)⟩
  rcases mainAfter_request hj with hj | ⟨rfl, rfl, rfl⟩
  · exact .inl (hmain ▸ hj)
  · exact .inr (hg ▸ hp)

lemma runs_setCall {s t : Service} {o : ℕ} {c : Callback} (hmain : t.main = s.main)
    (hcalls : t.calls = s.calls) (hc : ∀ p, c = .running p → t.globals.Valid p) :
    Runs s (t.setCall o c) := by
  refine ⟨fun i args o p hm => .inl (hmain ▸ hm), fun o' p ho => ?_⟩
  by_cases hoo : o' = o
  · subst hoo
    rw [setCall_calls_self] at ho
    exact .inr (hc p ho)
  · rw [setCall_calls_of_ne t c hoo, hcalls] at ho
    exact .inl ho

/-- The step runs no call of `request`. -/
lemma runs_of_eq {s t : Service} (hmain : t.main = s.main) (hcalls : t.calls = s.calls) :
    Runs s t :=
  ⟨fun _ _ _ _ hm => .inl (hmain ▸ hm), fun _ _ hc => .inl (hcalls ▸ hc)⟩

lemma evolves_newObserver (g : Globals) (resource : List Char) (websocket : Option Socket) :
    Globals.Evolves g (g.newObserver resource websocket) := ⟨le_rfl, fun _ _ h => h, rfl⟩

lemma evolves_prepareMain (s : Service) (args : MainArgs) :
    Globals.Evolves s.globals (s.prepareMain args).1.globals := by
  unfold prepareMain
  dsimp only
  split
  · exact .refl _
  · exact evolves_newObserver _ _ _

lemma prepareMain_frame (s : Service) (args : MainArgs) :
    (s.prepareMain args).1.main = s.main ∧ (s.prepareMain args).1.calls = s.calls := by
  unfold prepareMain
  dsimp only
  split <;> exact ⟨rfl, rfl⟩

lemma tracked_beginMain {s : Service} (h : Tracked s) (i : ℕ) (args : MainArgs) :
    Tracked (s.beginMain i args) := by
  obtain ⟨hmain, hcalls⟩ := prepareMain_frame s args
  refine h.evolves ?_ (runs_mainAfter hmain hcalls (Globals.valid_request _ _))
  rw [beginMain, (mainAfter_frame _ i args _ _).1]
  exact (evolves_prepareMain s args).trans (Globals.evolves_request _ _)

/-- What the cancellation of the main observer and the closing of the websockets change. -/
lemma tracked_restartNodes {s : Service} (h : Tracked s) (r : ℕ) : Tracked (s.restartNodes r) := by
  have hframe : (s.restartNodes r).main = s.main ∧ (s.restartNodes r).calls = s.calls := by
    unfold restartNodes cancelMainObserver
    dsimp only
    split <;> exact ⟨rfl, rfl⟩
  refine h.evolves ?_ (runs_of_eq hframe.1 hframe.2)
  unfold restartNodes cancelMainObserver
  dsimp only
  split
  · rename_i o ho
    have hc := Globals.evolves_cancel s.globals o
    exact ⟨hc.le, hc.closed, hc.left⟩
  · exact ⟨le_rfl, fun _ _ hn => hn, rfl⟩

lemma tracked_postReboots {s : Service} (h : Tracked s) (r : ℕ) : Tracked (s.postReboots r) := by
  unfold postReboots
  split
  · exact tracked_restartNodes h r
  · exact h.evolves (.refl _) (runs_of_eq rfl rfl)

lemma tracked_respawn {s : Service} (h : Tracked s) : Tracked s.respawn := by
  unfold respawn
  split
  · exact h.evolves (.refl _) ((runs_of_eq rfl rfl).spawnMain _)
  · exact h

lemma tracked_callClient {s : Service} (h : Tracked s) : Tracked s.callClient := by
  unfold callClient
  split
  · exact h
  · exact h.evolves (.refl _) (runs_of_eq rfl rfl)

lemma tracked_assign {s : Service} (h : Tracked s) : Tracked s.assign :=
  h.evolves (Globals.evolves_setCtxs _ _) (runs_of_eq rfl rfl)

/-- A call of `request` that runs on, for a main task or a websocket. -/
lemma tracked_resume {L : Libs} {s t : Service} (h : Tracked s) {g : Globals} {o : ℕ}
    {p p' : Progress} {r : Resume} (hp : s.globals.Valid p)
    (hC : LeavesClosed L s.globals o p r) (hs : s.globals.resume L o p r = some (g, p'))
    (ht : t.globals = g) (hr : g.Valid p' → Runs s t) : Tracked t := by
  subst ht
  obtain ⟨hp', hcase⟩ := Globals.resume_cases hp hs
  rcases hcase with ⟨hg, -⟩ | ⟨n, rfl, hraises, hl⟩ | ⟨n, rfl, hover, hl⟩
  · exact h.evolves hg (hr hp')
  · exact h.leaves hl (hC hraises) (hr hp')
  · exact h.leaves hl (by rw [hover]; nofun) (hr hp')

lemma tracked_step {L : Libs} {s t : Service} {e : Event} (h : Tracked s) (hC : RaisesClosed L s e)
    (hs : step L s e = some t) : Tracked t := by
  cases does_of_step L hs with
  | begin _ => exact tracked_beginMain h _ _
  | openRaised _ => exact h.evolves (.refl _) (runs_setMain rfl rfl (by simp))
  | @main i o r args p p' g hmain hres =>
    simp only [RaisesClosed, hmain] at hC
    exact tracked_resume h (h.main i args o p hmain) hC hres (mainAfter_frame _ i args o p').1
      (runs_mainAfter (s := s) (t := s.setGlobals g) rfl rfl)
  | @shutDown i ctx args _ =>
    let t := s.setGlobals (s.globals.setCtxs (clearClient s.globals.ctxs ctx))
    exact h.evolves (Globals.evolves_setCtxs _ _)
      ((runs_setMain (s := s) (t := t) (i := i) (m := .ended) rfl rfl (by simp)).spawnMain _)
  | connect resource => exact h.evolves (evolves_newObserver _ _ _) (runs_setCall rfl rfl (by simp))
  | request _ =>
    refine h.evolves (Globals.evolves_request _ _) (runs_setCall rfl rfl fun p hp => ?_)
    obtain rfl := Callback.running.inj hp
    exact Globals.valid_request _ _
  | @socket o r p p' g hcall hres =>
    simp only [RaisesClosed, hcall] at hC
    refine tracked_resume h (h.call o p hcall) hC hres rfl fun hv =>
      runs_setCall rfl rfl fun q hq => ?_
    obtain rfl := Callback.running.inj hq
    exact hv
  | closed _ _ => exact h.evolves ⟨le_rfl, fun _ _ hn => hn, rfl⟩ (runs_of_eq rfl rfl)
  | cancelObservation _ => exact h.evolves (Globals.evolves_cancel _ _) (runs_of_eq rfl rfl)
  | reboot _ _ => exact tracked_postReboots h _
  | rebootAwaits _ _ => exact h.evolves (.refl _) (runs_of_eq rfl rfl)
  | rebootCreated _ => exact tracked_postReboots (tracked_assign h) _
  | rebootRaised _ => exact h.evolves (.refl _) (runs_of_eq rfl rfl)
  | rebootPosted _ => exact tracked_restartNodes h _
  | @rebootSlept r _ =>
    exact tracked_respawn (h.evolves (t := s.setReboot r .ended) (.refl _) (runs_of_eq rfl rfl))
  | call => exact tracked_callClient h
  | callCreated _ => exact (tracked_assign h).evolves (.refl _) (runs_of_eq rfl rfl)
  | callRaised _ => exact h.evolves (.refl _) (runs_of_eq rfl rfl)
  | register _ =>
    exact tracked_callClient (h.evolves ⟨le_rfl, fun _ _ hn => hn, rfl⟩ (runs_of_eq rfl rfl))
  | notify resp _ _ => exact h.evolves ⟨le_rfl, fun _ _ hn => hn, rfl⟩ (runs_of_eq rfl rfl)
  | isOver _ _ => exact h.evolves (Globals.evolves_setStatus _ _ (by simp)) (runs_of_eq rfl rfl)

lemma leavesClosed_of_balanced {L : Libs} {s t : Service} {g : Globals} {o : ℕ}
    {p p' : Progress} {r : Resume} (hp : s.globals.Valid p)
    (hs : s.globals.resume L o p r = some (g, p')) (hg : t.globals = g) (ht : Balanced L t) :
    LeavesClosed L s.globals o p r := by
  subst hg
  obtain ⟨-, hcase⟩ := Globals.resume_cases hp hs
  unfold LeavesClosed
  split
  · rename_i n
    intro hraises
    rcases hcase with ⟨-, hno⟩ | ⟨m, hm, -, hl⟩ | ⟨m, hm, -, -⟩
    · rw [hno n rfl] at hraises
      cases hraises
    · obtain rfl := Progress.response.inj hm
      have := (ht n (by rw [hl.left]; exact List.mem_cons_self)).1
      rwa [hl.observation] at this
    · cases hm
  · trivial

/-- An exception that leaves an observation open violates the balance at once. -/
lemma raisesClosed_of_balanced {L : Libs} {s t : Service} {e : Event} (h : Tracked s)
    (hs : step L s e = some t) (ht : Balanced L t) : RaisesClosed L s e := by
  unfold RaisesClosed
  split
  · rename_i i r
    split
    · rename_i args o p hm
      simp only [step, stepMain, hm] at hs
      obtain ⟨⟨g, p'⟩, hres, rfl⟩ := Option.map_eq_some_iff.mp hs
      exact leavesClosed_of_balanced (h.main i args o p hm) hres
        (mainAfter_frame _ i args o p').1 ht
    · trivial
  · rename_i o r
    split
    · rename_i p hc
      simp only [step, stepSocket, hc] at hs
      obtain ⟨⟨g, p'⟩, hres, rfl⟩ := Option.map_eq_some_iff.mp hs
      exact leavesClosed_of_balanced (h.call o p hc) hres rfl ht
    · trivial
  · trivial

/-- Requests and observations are balanced along a run exactly when no request leaves by an
exception while its observation is open. -/
theorem balanced_iff_raisesClosed {L : Libs} {args : MainArgs} {es : List Event} {s : Service}
    (h : (system L).run (Service.init args) es = some s) :
    (system L).Holds (Balanced L) (Service.init args) es ↔
      (system L).Meets (RaisesClosed L) (Service.init args) es :=
  TransitionSystem.holds_iff_meets_of_invariant (I := Tracked) (fun _ h => h.balanced L)
    (fun _ _ _ => tracked_step) (fun _ _ _ => raisesClosed_of_balanced) (tracked_init args) h

/-- The resource directory ends the observation, and `main` restarts itself. -/
def directoryRestarts : List Event :=
  [.begin 0, .main 0 .created, .main 0 (.response ⟨true, some 0, []⟩), .isOver 0, .main 0 .isOver,
    .shutDown 0]

def plainText : Libs := ⟨fun _ => "text/plain".toList, fun _ => none, fun _ => none⟩

theorem balanced_directoryRestarts : ∃ s, (system plainText).run (Service.init mainArgs)
    directoryRestarts = some s ∧ s.globals.left = [0] ∧
      (system plainText).Holds (Balanced plainText) (Service.init mainArgs) directoryRestarts :=
  ⟨_, rfl, rfl, (balanced_iff_raisesClosed rfl).mpr (by decide +kernel)⟩

end CoapService

end RiotPlayground
