import RiotPlayground.Lib.TransitionSystem

/-!
# `coap_service.py`: the shared CoAP client

`get_coap_client` looks at the module variable `coap_client` and assigns it after an await, and
so does `shutdown_coap_client`. Callers are coroutines of one event loop, so a call is a step up
to its await and one from there on. Contexts are numbered in the order they are created in.
-/

namespace RiotPlayground

namespace CoapService

/-- `coap_client`, with the contexts created and those whose `shutdown()` has ended. -/
structure Contexts where
  coapClient : Option ℕ
  created : ℕ
  down : List ℕ
deriving DecidableEq, Repr

def Contexts.init : Contexts := ⟨none, 0, []⟩

/-- `get_coap_client`; `none` where it awaits `create_client_context`. -/
def getCoapClient (c : Contexts) : Option ℕ := c.coapClient

/-- `get_coap_client` from the await on. -/
def assignClient (c : Contexts) : Contexts × ℕ :=
  ({ c with coapClient := some c.created, created := c.created + 1 }, c.created)

/-- `shutdown_coap_client`: the context it awaits the `shutdown()` of. Without one the
`AttributeError` is dropped and the call ends, `coap_client` still being `None`. -/
def shutdownCoapClient (c : Contexts) : Option ℕ := c.coapClient

/-- `shutdown_coap_client` from the await on. -/
def clearClient (c : Contexts) (ctx : ℕ) : Contexts :=
  { c with coapClient := none, down := ctx :: c.down }

/-- The same if `shutdown()` raised: the exception is dropped. -/
def dropClient (c : Contexts) : Contexts := { c with coapClient := none }

/-- Where a call is; a client is returned together with the number of shutdowns before. -/
inductive Call
  | creating
  | got (shutdowns ctx : ℕ)
  | raised
  | shutting (ctx : ℕ)
  | ended
deriving DecidableEq, Repr

structure Callers where
  ctxs : Contexts
  calls : List Call
  shutdowns : ℕ
deriving DecidableEq, Repr

namespace Callers

def init : Callers := ⟨.init, [], 0⟩

inductive Event
  | get
  | created (i : ℕ)
  | createRaised (i : ℕ)
  | shutdown
  | shutDown (i : ℕ)
  | shutDownRaised (i : ℕ)
deriving DecidableEq, Repr

def step (s : Callers) : Event → Option Callers
  | .get =>
    match getCoapClient s.ctxs with
    | some c => some { s with calls := s.calls ++ [.got s.shutdowns c] }
    | none => some { s with calls := s.calls ++ [.creating] }
  | .created i =>
    if s.calls[i]? = some .creating then
      let (ctxs, c) := assignClient s.ctxs
      some { s with ctxs := ctxs, calls := s.calls.set i (.got s.shutdowns c) }
    else none
  | .createRaised i =>
    if s.calls[i]? = some .creating then some { s with calls := s.calls.set i .raised } else none
  | .shutdown =>
    match shutdownCoapClient s.ctxs with
    | some c => some { s with calls := s.calls ++ [.shutting c] }
    | none => some { s with calls := s.calls ++ [.ended], shutdowns := s.shutdowns + 1 }
  | .shutDown i =>
    match s.calls[i]? with
    | some (.shutting c) =>
      some ⟨clearClient s.ctxs c, s.calls.set i .ended, s.shutdowns + 1⟩
    | _ => none
  | .shutDownRaised i =>
    match s.calls[i]? with
    | some (.shutting _) => some ⟨dropClient s.ctxs, s.calls.set i .ended, s.shutdowns + 1⟩
    | _ => none

def system : TransitionSystem Callers Event := ⟨step⟩

/-- Callers that get a client between the same two shutdowns get the same one. -/
def SameClient (s : Callers) : Prop :=
  ∀ n c c', .got n c ∈ s.calls → .got n c' ∈ s.calls → c = c'

/-- Every context created is the current one or has been shut down. -/
def NoneLeaked (s : Callers) : Prop :=
  ∀ c < s.ctxs.created, s.ctxs.coapClient = some c ∨ c ∈ s.ctxs.down

def Shared (s : Callers) : Prop := SameClient s ∧ NoneLeaked s

/-- What the awaits rely on: `coap_client` is still `None` when a context has been created, it has
not become another context when one has been shut down, and it is `None` when that raised. -/
def Undisturbed (s : Callers) : Event → Prop
  | .created _ => s.ctxs.coapClient = none
  | .shutDown i => ∀ c ∈ s.ctxs.coapClient, s.calls[i]? = some (.shutting c)
  | .shutDownRaised _ => s.ctxs.coapClient = none
  | _ => True

instance (s : Callers) : ∀ e, Decidable (Undisturbed s e)
  | .created _ | .shutDownRaised _ => inferInstanceAs (Decidable (_ = _))
  | .shutDown _ => inferInstanceAs (Decidable (∀ c ∈ s.ctxs.coapClient, _ = _))
  | .get | .createRaised _ | .shutdown => inferInstanceAs (Decidable True)

/-- Two handlers ask for the client while there is none. -/
def bothCreate : List Event := [.get, .get, .created 0, .created 1]

/-- Each of the two gets a context of its own, and the first one is leaked. -/
theorem bothCreate_not_shared :
    ∃ s, system.run init bothCreate = some s ∧ ¬ SameClient s ∧ ¬ NoneLeaked s := by
  refine ⟨_, rfl, fun h => ?_, fun h => ?_⟩
  · exact absurd (h 0 0 1 (by decide) (by decide)) (by decide)
  · exact absurd (h 0 (by decide)) (by decide)

/-- The current context is running, it is the one that was got since the last shutdown, and
only contexts that were created are shut down. -/
structure Consistent (s : Callers) : Prop where
  shared : Shared s
  current : ∀ c, s.ctxs.coapClient = some c → c < s.ctxs.created ∧ c ∉ s.ctxs.down
  latest : ∀ n c, .got n c ∈ s.calls → n < s.shutdowns ∨
    n = s.shutdowns ∧ s.ctxs.coapClient = some c
  shutting : ∀ c, .shutting c ∈ s.calls → c < s.ctxs.created
  down : ∀ c ∈ s.ctxs.down, c < s.ctxs.created

lemma consistent_init : Consistent init :=
  ⟨⟨nofun, nofun⟩, nofun, nofun, nofun, nofun⟩

/-- A call that is under way neither returned a client nor holds a context to shut down. -/
lemma Consistent.calls {s : Callers} (h : Consistent s) {calls : List Call}
    (hgot : ∀ n c, .got n c ∈ calls → .got n c ∈ s.calls ∨
      n = s.shutdowns ∧ s.ctxs.coapClient = some c)
    (hshut : ∀ c, .shutting c ∈ calls → .shutting c ∈ s.calls ∨ s.ctxs.coapClient = some c) :
    Consistent { s with calls := calls } := by
  have hlatest : ∀ n c, .got n c ∈ calls →
      n < s.shutdowns ∨ n = s.shutdowns ∧ s.ctxs.coapClient = some c := fun n c hc =>
    (hgot n c hc).elim (h.latest n c) .inr
  refine ⟨⟨fun n c c' hc hc' => ?_, h.shared.2⟩, h.current, hlatest, fun c hc => ?_, h.down⟩
  · rcases hgot n c hc with hold | ⟨rfl, hcur⟩
    · rcases hgot n c' hc' with hold' | ⟨rfl, hcur'⟩
      · exact h.shared.1 n c c' hold hold'
      · rcases h.latest _ _ hold with hlt | ⟨-, hcur⟩
        · exact absurd hlt (Nat.lt_irrefl _)
        · exact Option.some.inj (hcur.symm.trans hcur')
    · rcases hlatest _ _ hc' with hlt | ⟨-, hcur'⟩
      · exact absurd hlt (Nat.lt_irrefl _)
      · exact Option.some.inj (hcur.symm.trans hcur')
  · rcases hshut c hc with hold | hcur
    · exact h.shutting c hold
    · exact (h.current c hcur).1

lemma Consistent.created {s : Callers} (h : Consistent s) (hnone : s.ctxs.coapClient = none)
    (i : ℕ) : Consistent { s with
      ctxs := (assignClient s.ctxs).1, calls := s.calls.set i (.got s.shutdowns s.ctxs.created) }
      := by
  have hgot : ∀ n c, .got n c ∈ s.calls.set i (.got s.shutdowns s.ctxs.created) →
      n < s.shutdowns ∧ .got n c ∈ s.calls ∨ n = s.shutdowns ∧ c = s.ctxs.created := by
    intro n c hc
    rcases List.mem_or_eq_of_mem_set hc with hc | hc
    · rcases h.latest n c hc with hlt | ⟨-, hcur⟩
      · exact .inl ⟨hlt, hc⟩
      · rw [hnone] at hcur
        cases hcur
    · obtain ⟨rfl, rfl⟩ := Call.got.inj hc
      exact .inr ⟨rfl, rfl⟩
  refine ⟨⟨fun n c c' hc hc' => ?_, fun c hc => ?_⟩, fun c hc => ?_, fun n c hc => ?_,
    fun c hc => ?_, fun c hc => Nat.lt_succ_of_lt (h.down c hc)⟩
  · rcases hgot n c hc with ⟨hlt, hold⟩ | ⟨rfl, rfl⟩
    · rcases hgot n c' hc' with ⟨-, hold'⟩ | ⟨rfl, -⟩
      · exact h.shared.1 n c c' hold hold'
      · exact absurd hlt (Nat.lt_irrefl _)
    · rcases hgot _ c' hc' with ⟨hlt, -⟩ | ⟨-, rfl⟩
      · exact absurd hlt (Nat.lt_irrefl _)
      · rfl
  · rcases Nat.lt_succ_iff_lt_or_eq.mp hc with hlt | rfl
    · rcases h.shared.2 c hlt with hcur | hdown
      · rw [hnone] at hcur
        cases hcur
      · exact .inr hdown
    · exact .inl rfl
  · obtain rfl := Option.some.inj hc
    exact ⟨Nat.lt_succ_self _, fun hd => Nat.lt_irrefl _ (h.down _ hd)⟩
  · rcases hgot n c hc with ⟨hlt, -⟩ | ⟨rfl, rfl⟩
    · exact .inl hlt
    · exact .inr ⟨rfl, rfl⟩
  · rcases List.mem_or_eq_of_mem_set hc with hc | hc
    · exact Nat.lt_succ_of_lt (h.shutting c hc)
    · cases hc

/-- The end of a shutdown, whether it found a client or not. -/
lemma Consistent.shutDown {s : Callers} (h : Consistent s) {ctxs : Contexts} {calls : List Call}
    (hcreated : ctxs.created = s.ctxs.created) (hclient : ctxs.coapClient = none)
    (hdown : ∀ c ∈ ctxs.down, c < s.ctxs.created)
    (hkept : ∀ c, s.ctxs.coapClient = some c ∨ c ∈ s.ctxs.down → c ∈ ctxs.down)
    (hcalls : ∀ a ∈ calls, a ∈ s.calls ∨ a = .ended) :
    Consistent ⟨ctxs, calls, s.shutdowns + 1⟩ := by
  have hgot : ∀ n c, .got n c ∈ calls → .got n c ∈ s.calls := fun n c hc =>
    (hcalls _ hc).resolve_right (nomatch ·)
  refine ⟨⟨fun n c c' hc hc' => h.shared.1 n c c' (hgot n c hc) (hgot n c' hc'), fun c hc => ?_⟩,
    fun c hc => ?_, fun n c hc => .inl ?_, fun c hc => ?_, fun c hc => ?_⟩
  · exact .inr (hkept c (h.shared.2 c (hcreated ▸ hc)))
  · rw [hclient] at hc
    cases hc
  · rcases h.latest n c (hgot n c hc) with hlt | ⟨rfl, -⟩
    · exact Nat.lt_succ_of_lt hlt
    · exact Nat.lt_succ_self _
  · rw [hcreated]
    exact h.shutting c ((hcalls _ hc).resolve_right (nomatch ·))
  · rw [hcreated]
    exact hdown c hc

lemma mem_append_of_ne {calls : List Call} {a b : Call} (h : a ∈ calls ++ [b]) :
    a ∈ calls ∨ a = b := by
  simpa using h

lemma consistent_get {s t : Callers} (h : Consistent s) (hs : step s .get = some t) :
    Consistent t := by
  simp only [step, getCoapClient] at hs
  split at hs
  · rename_i c hc
    obtain rfl := Option.some.inj hs
    refine h.calls (fun n c' hm => ?_) fun c' hm => ?_
    · rcases mem_append_of_ne hm with hm | hm
      · exact .inl hm
      · obtain ⟨rfl, rfl⟩ := Call.got.inj hm
        exact .inr ⟨rfl, hc⟩
    · exact .inl ((mem_append_of_ne hm).resolve_right (nomatch ·))
  · obtain rfl := Option.some.inj hs
    exact h.calls (fun n c hm => .inl ((mem_append_of_ne hm).resolve_right (nomatch ·)))
      fun c hm => .inl ((mem_append_of_ne hm).resolve_right (nomatch ·))

/-- The shutdown begins, or finds no client. -/
lemma consistent_shutdown {s t : Callers} (h : Consistent s) (hs : step s .shutdown = some t) :
    Consistent t := by
  simp only [step, shutdownCoapClient] at hs
  split at hs
  · rename_i c hc
    obtain rfl := Option.some.inj hs
    refine h.calls (fun n c' hm => .inl ((mem_append_of_ne hm).resolve_right (nomatch ·)))
      fun c' hm => ?_
    rcases mem_append_of_ne hm with hm | hm
    · exact .inl hm
    · obtain rfl := Call.shutting.inj hm
      exact .inr hc
  · rename_i hnone
    obtain rfl := Option.some.inj hs
    refine h.shutDown rfl hnone h.down (fun c hc => ?_) fun a => mem_append_of_ne
    rw [hnone] at hc
    exact hc.resolve_left (nomatch ·)

/-- The shutdown ends: the context that is down is that of the client. -/
lemma consistent_shutDown {s t : Callers} {i : ℕ} (h : Consistent s)
    (hC : Undisturbed s (.shutDown i)) (hs : step s (.shutDown i) = some t) : Consistent t := by
  simp only [step] at hs
  split at hs
  · rename_i c hc
    obtain rfl := Option.some.inj hs
    have hcreated := h.shutting c (List.mem_of_getElem? hc)
    refine h.shutDown rfl rfl (fun d hd => ?_) (fun d hd => ?_)
      fun a ha => List.mem_or_eq_of_mem_set ha
    · rcases List.mem_cons.mp hd with rfl | hd
      · exact hcreated
      · exact h.down d hd
    · rcases hd with hcur | hd
      · obtain rfl := Call.shutting.inj (Option.some.inj (hc.symm.trans (hC d hcur)))
        exact List.mem_cons_self
      · exact List.mem_cons_of_mem c hd
  · cases hs

/-- A context whose `shutdown()` raised had been shut down before, by another call. -/
lemma consistent_shutDownRaised {s t : Callers} {i : ℕ} (h : Consistent s)
    (hC : Undisturbed s (.shutDownRaised i)) (hs : step s (.shutDownRaised i) = some t) :
    Consistent t := by
  simp only [step] at hs
  split at hs
  · obtain rfl := Option.some.inj hs
    refine h.shutDown rfl rfl h.down (fun d hd => ?_) fun a ha => List.mem_or_eq_of_mem_set ha
    have hnone : s.ctxs.coapClient = none := hC
    rw [hnone] at hd
    exact hd.resolve_left (nomatch ·)
  · cases hs

lemma consistent_step {s t : Callers} {e : Event} (h : Consistent s) (hC : Undisturbed s e)
    (hs : step s e = some t) : Consistent t := by
  cases e with
  | get => exact consistent_get h hs
  | created i =>
    obtain ⟨-, hs⟩ := Option.ite_none_right_eq_some.mp hs
    obtain rfl := Option.some.inj hs
    exact h.created hC i
  | createRaised i =>
    obtain ⟨-, hs⟩ := Option.ite_none_right_eq_some.mp hs
    obtain rfl := Option.some.inj hs
    exact h.calls (fun n c hm => .inl ((List.mem_or_eq_of_mem_set hm).resolve_right (nomatch ·)))
      fun c hm => .inl ((List.mem_or_eq_of_mem_set hm).resolve_right (nomatch ·))
  | shutdown => exact consistent_shutdown h hs
  | shutDown i => exact consistent_shutDown h hC hs
  | shutDownRaised i => exact consistent_shutDownRaised h hC hs

/-- A disturbed await leaks the context that was there. -/
lemma undisturbed_of_noneLeaked {s t : Callers} {e : Event} (h : Consistent s)
    (hs : step s e = some t) (ht : NoneLeaked t) : Undisturbed s e := by
  cases e with
  | get => trivial
  | createRaised i => trivial
  | shutdown => trivial
  | created i =>
    obtain ⟨-, hs⟩ := Option.ite_none_right_eq_some.mp hs
    obtain rfl := Option.some.inj hs
    rw [Undisturbed, Option.eq_none_iff_forall_ne_some]
    intro d hd
    obtain ⟨hlt, hnot⟩ := h.current d hd
    rcases ht d (Nat.lt_succ_of_lt hlt) with heq | hdown
    · exact Nat.lt_irrefl _ (Option.some.inj heq ▸ hlt)
    · exact hnot hdown
  | shutDown i =>
    intro d hd
    obtain ⟨hlt, hnot⟩ := h.current d hd
    simp only [step] at hs
    split at hs
    · rename_i c hc
      obtain rfl := Option.some.inj hs
      rcases ht d hlt with heq | hdown
      · cases heq
      · rw [hc, (List.mem_cons.mp hdown).resolve_right hnot]
    · cases hs
  | shutDownRaised i =>
    rw [Undisturbed, Option.eq_none_iff_forall_ne_some]
    intro d hd
    obtain ⟨hlt, hnot⟩ := h.current d hd
    simp only [step] at hs
    split at hs
    · obtain rfl := Option.some.inj hs
      rcases ht d hlt with heq | hdown
      · cases heq
      · exact hnot hdown
    · cases hs

/-- One client is shared along a run exactly when none of its awaits is disturbed. -/
theorem shared_iff_undisturbed {es : List Event} {s : Callers} (h : system.run init es = some s) :
    system.Holds Shared init es ↔ system.Meets Undisturbed init es :=
  TransitionSystem.holds_iff_meets_of_invariant (I := Consistent) (fun _ h => h.shared)
    (fun _ _ _ => consistent_step) (fun _ _ _ h hs ht => undisturbed_of_noneLeaked h hs ht.2)
    consistent_init h

/-- A client for two callers, a third call while it is shut down by two others, the second of which
raises, and a new one afterwards. -/
def inTurn : List Event :=
  [.get, .created 0, .get, .shutdown, .shutdown, .get, .shutDown 2, .shutDownRaised 3, .get,
    .created 5]

theorem shared_inTurn : ∃ s, system.run init inTurn = some s ∧ s.ctxs.coapClient = some 1 ∧
    system.Holds Shared init inTurn :=
  ⟨_, rfl, rfl, (shared_iff_undisturbed rfl).mpr (by decide)⟩

end Callers

end CoapService

end RiotPlayground
