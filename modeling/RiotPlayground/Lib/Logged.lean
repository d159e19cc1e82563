import Mathlib.Logic.Basic

/-!
# Programs that log what they access

A program takes a state to a value and a state, and logs its accesses on the way. The judgement
`Spec` bounds the accesses and describes the end; its rules are equivalences, so they compute the
exact condition under which a program meets it.
-/

/-- What a run comes to. -/
structure Logged.Ran (S A α : Type*) where
  value : α
  state : S
  log : List A

def Logged (S A α : Type*) := S → Logged.Ran S A α

namespace Logged

universe u

variable {S A : Type*} {α β : Type u}

instance : Monad (Logged S A) where
  pure a s := ⟨a, s, []⟩
  bind m f s :=
    let r := m s
    let t := f r.value r.state
    ⟨t.value, t.state, r.log ++ t.log⟩

def read : Logged S A S := fun s => ⟨s, s, []⟩

def modify (f : S → S) : Logged S A Unit := fun s => ⟨(), f s, []⟩

def note (accesses : List A) : Logged S A Unit := fun s => ⟨(), s, accesses⟩

/-- `c && m` -/
def provided (c : Prop) [Decidable c] (m : Logged S A Bool) : Logged S A Bool :=
  if c then m else pure false

/-- `m || m'` -/
def or (m m' : Logged S A Bool) : Logged S A Bool := do
  if ← m then pure true else m'

/-- Every access is in `P`, and the value and the state at the end are in `Q`. -/
def Spec (P : A → Prop) (m : Logged S A α) (Q : α → S → Prop) (s : S) : Prop :=
  (∀ a ∈ (m s).log, P a) ∧ Q (m s).value (m s).state

/-- Every access is in `P`. -/
def Within (P : A → Prop) (m : Logged S A α) (s : S) : Prop := ∀ a ∈ (m s).log, P a

/-- The value and the state at the end are in `Q`. -/
def Ends (m : Logged S A α) (Q : α → S → Prop) (s : S) : Prop := Q (m s).value (m s).state

variable {P : A → Prop} {s : S}

lemma within_iff {m : Logged S A α} : Within P m s ↔ Spec P m (fun _ _ => True) s :=
  (and_iff_left trivial).symm

lemma ends_iff {m : Logged S A α} {Q : α → S → Prop} :
    Ends m Q s ↔ Spec (fun _ => True) m Q s :=
  (and_iff_right fun _ _ => trivial).symm

lemma Spec.imp {m : Logged S A α} {Q Q' : α → S → Prop} (himp : ∀ a t, Q a t → Q' a t)
    (h : Spec P m Q s) : Spec P m Q' s := ⟨h.1, himp _ _ h.2⟩

@[simp] lemma spec_pure {Q : α → S → Prop} (a : α) :
    Spec P (pure a : Logged S A α) Q s ↔ Q a s := by
  apply and_iff_right
  intro b hb
  cases hb

@[simp] lemma spec_bind {Q : β → S → Prop} (m : Logged S A α) (f : α → Logged S A β) :
    Spec P (m >>= f) Q s ↔ Spec P m (fun a t => Spec P (f a) Q t) s := by
  apply Iff.trans (and_congr_left' List.forall_mem_append)
  exact and_assoc

@[simp] lemma spec_read {Q : S → S → Prop} : Spec P (read : Logged S A S) Q s ↔ Q s s := by
  apply and_iff_right
  intro b hb
  cases hb

@[simp] lemma spec_modify {Q : Unit → S → Prop} (f : S → S) :
    Spec P (modify f : Logged S A Unit) Q s ↔ Q () (f s) := by
  apply and_iff_right
  intro b hb
  cases hb

@[simp] lemma spec_note {Q : Unit → S → Prop} (accesses : List A) :
    Spec P (note accesses) Q s ↔ (∀ a ∈ accesses, P a) ∧ Q () s :=
  Iff.rfl

@[simp] lemma spec_ite {Q : α → S → Prop} (c : Prop) [Decidable c] (m m' : Logged S A α) :
    Spec P (if c then m else m') Q s ↔ if c then Spec P m Q s else Spec P m' Q s := by
  by_cases hc : c
  · rw [if_pos hc, if_pos hc]
  · rw [if_neg hc, if_neg hc]

@[simp] lemma spec_provided {Q : Bool → S → Prop} (c : Prop) [Decidable c] (m : Logged S A Bool) :
    Spec P (provided c m) Q s ↔ if c then Spec P m Q s else Q false s := by
  rw [provided, spec_ite, spec_pure]

@[simp] lemma spec_or {Q : Bool → S → Prop} (m m' : Logged S A Bool) :
    Spec P (or m m') Q s ↔
      Spec P m (fun b t => if b = true then Q true t else Spec P m' Q t) s := by
  rw [or, spec_bind]
  simp only [spec_ite, spec_pure]

end Logged
