import RiotPlayground.Lib.TransitionSystem
import Mathlib.Algebra.Ring.Nat

/-!
# Limiting how often something is sent

The time is a number that only grows. What a node can see of it is a counter of 32 bits, and all it
keeps of its last request is the reading at that time.
-/

namespace Clock

/-- What a free-running counter of 32 bits shows at a time. -/
def reading (time : ℕ) : UInt32 := .ofNat time

lemma toNat_reading (time : ℕ) : (reading time).toNat = time % 2 ^ 32 :=
  UInt32.toNat_ofNat'

/-- The reading at the last request, `0` before the first one. -/
def lastReading (last : Option ℕ) : UInt32 := (last.map reading).getD 0

variable {sent now : ℕ} {period : UInt32}

lemma toNat_reading_sub (a b : ℕ) :
    (reading a - reading b).toNat = (2 ^ 32 - b % 2 ^ 32 + a % 2 ^ 32) % 2 ^ 32 := by
  rw [UInt32.toNat_sub, toNat_reading, toNat_reading]

/-- The difference taken the wrong way round is small at once and after almost a turn. -/
theorem reading_sub_lt_iff (hle : sent ≤ now) (hturn : now - sent < 2 ^ 32)
    (hperiod : period ≠ 0) :
    reading sent - reading now < period ↔ now = sent ∨ 2 ^ 32 - period.toNat < now - sent := by
  have hpos : 0 < period.toNat := Nat.pos_of_ne_zero fun h => hperiod (UInt32.toNat_inj.mp h)
  have hlt := period.toNat_lt
  rw [UInt32.lt_iff_toNat_lt, toNat_reading_sub]
  omega

/-- The difference with the period is compared with a reading: right only where neither wraps. -/
theorem sub_period_lt_iff (hle : sent ≤ now) (hturn : now - sent < 2 ^ 32) :
    (reading now - period < reading sent ↔ now - sent < period.toNat) ↔
      period.toNat ≤ sent % 2 ^ 32 + (now - sent) ∧
        sent % 2 ^ 32 + (now - sent) < 2 ^ 32 + period.toNat := by
  have hlt := period.toNat_lt
  rw [UInt32.lt_iff_toNat_lt, UInt32.toNat_sub, toNat_reading, toNat_reading]
  omega

end Clock

open Clock

/-- What a node keeps for its limiter. `call` is given the reading when it is called and the one
when its request is sent, `other` is what else happens to the node. -/
structure Sender (S C D R : Type*) where
  call : S → UInt32 → UInt32 → C → Option R × S
  other : S → D → S
  ready : S → Bool
  lastSent : S → UInt32
  /-- Whether a request is held back, by the readings at the last request and now. -/
  holdsBack : UInt32 → UInt32 → Bool
  isSome_call (s : S) (now later : UInt32) (c : C) :
    ready s = true → (call s now later c).1.isSome = !holdsBack (lastSent s) now
  lastSent_call (s : S) (now later : UInt32) (c : C) :
    lastSent (call s now later c).2 =
      if (call s now later c).1.isSome then later else lastSent s
  lastSent_other (s : S) (d : D) : lastSent (other s d) = lastSent s

/-- A node, the time, and the time of its last request. -/
structure Timed (S : Type*) where
  node : S
  time : ℕ
  lastRequest : Option ℕ

namespace Timed

variable {S : Type*}

def start (node : S) : Timed S := ⟨node, 0, none⟩

/-- Less than a turn of the counter has passed since the last request. -/
def InTurn (s : Timed S) (now : ℕ) : Prop := ∀ sent ∈ s.lastRequest, now - sent < 2 ^ 32

end Timed

namespace Sender

variable {S C D R : Type*}

/-- A call comes some time after what happened before it, and takes some time. -/
inductive Event (C D : Type*)
  | call (wait busy : ℕ) (arg : C)
  | other (arg : D)

variable (sender : Sender S C D R)

/-- What a call at a time gives. -/
def callAt (s : Timed S) (wait busy : ℕ) (c : C) : Option R × S :=
  sender.call s.node (reading (s.time + wait)) (reading (s.time + wait + busy)) c

/-- The node in the course of time. -/
def timed : TransitionSystem (Timed S) (Event C D) where
  step s e :=
    match e with
    | .call wait busy c =>
      let res := sender.callAt s wait busy c
      some
        { node := res.2
          time := s.time + wait + busy
          lastRequest := if res.1.isSome then some (s.time + wait + busy) else s.lastRequest }
    | .other d => some { s with node := sender.other s.node d }

/-- A call sends exactly if the last request was sent at least `period` ago. -/
def Limits (period : ℕ) (s : Timed S) : Event C D → Prop
  | .call wait busy c =>
    sender.ready s.node = true → s.InTurn (s.time + wait) →
      ((sender.callAt s wait busy c).1.isSome = true ↔
        ∀ sent ∈ s.lastRequest, period ≤ s.time + wait - sent)
  | .other _ => True

/-- The times of a call and of the last request before it meet `right`. -/
def Timing (right : Option ℕ → ℕ → Prop) (s : Timed S) : Event C D → Prop
  | .call wait _ _ =>
    sender.ready s.node = true → s.InTurn (s.time + wait) → right s.lastRequest (s.time + wait)
  | .other _ => True

/-- What the node keeps is the reading at its last request. -/
structure Kept (s : Timed S) : Prop where
  lastSent : sender.lastSent s.node = lastReading s.lastRequest
  past : ∀ sent ∈ s.lastRequest, sent ≤ s.time

variable {sender}

lemma kept_start {node : S} (h : sender.lastSent node = 0) : sender.Kept (.start node) :=
  ⟨h, by simp [Timed.start]⟩

lemma kept_step {s t : Timed S} {e : Event C D} (h : sender.Kept s)
    (hs : sender.timed.step s e = some t) : sender.Kept t := by
  cases e with
  | other d =>
    obtain rfl := Option.some.inj hs
    exact ⟨(sender.lastSent_other _ _).trans h.lastSent, h.past⟩
  | call wait busy c =>
    obtain rfl := Option.some.inj hs
    have hlastSent : sender.lastSent (sender.callAt s wait busy c).2 =
        if (sender.callAt s wait busy c).1.isSome then reading (s.time + wait + busy)
        else sender.lastSent s.node := sender.lastSent_call _ _ _ _
    constructor
    · rw [hlastSent, h.lastSent]
      dsimp only
      split
      · rfl
      · rfl
    · intro sent hlast
      dsimp only at hlast ⊢
      split at hlast
      · exact Nat.le_of_eq (Option.some.inj hlast).symm
      · rw [Nat.add_assoc]
        exact Nat.le_trans (h.past sent hlast) (Nat.le_add_right _ _)

/-- If `right` says of which times the limiter is right, then along a run it limits exactly where
the times of all calls are right. -/
theorem limits_iff_timing {period : ℕ} {right : Option ℕ → ℕ → Prop}
    (hright : ∀ (last : Option ℕ) (now : ℕ), (∀ sent ∈ last, sent ≤ now ∧ now - sent < 2 ^ 32) →
      ((sender.holdsBack (lastReading last) (reading now) = false ↔
        ∀ sent ∈ last, period ≤ now - sent) ↔ right last now))
    {node : S} (hnode : sender.lastSent node = 0) (es : List (Event C D)) :
    sender.timed.Meets (sender.Limits period) (.start node) es ↔
      sender.timed.Meets (sender.Timing right) (.start node) es := by
  have hcall (s : Timed S) (e : Event C D) (h : sender.Kept s) :
      sender.Limits period s e ↔ sender.Timing right s e := by
    cases e with
    | other d => exact Iff.rfl
    | call wait busy c =>
      apply forall_congr'
      intro hready
      apply forall_congr'
      intro hturn
      have hsome := sender.isSome_call s.node (reading (s.time + wait))
        (reading (s.time + wait + busy)) c hready
      unfold callAt
      rw [hsome, h.lastSent, Bool.not_eq_true']
      refine hright s.lastRequest (s.time + wait) fun sent hlast => ⟨?_, hturn sent hlast⟩
      exact Nat.le_trans (h.past sent hlast) (Nat.le_add_right _ _)
  constructor
  · exact TransitionSystem.Meets.of_invariant (fun s e t h _ hs => kept_step h hs)
      (fun s e h => (hcall s e h).mp) (kept_start hnode)
  · exact TransitionSystem.Meets.of_invariant (fun s e t h _ hs => kept_step h hs)
      (fun s e h => (hcall s e h).mpr) (kept_start hnode)

end Sender
