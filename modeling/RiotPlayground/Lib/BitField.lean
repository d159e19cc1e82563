import Mathlib.Data.List.Induction
import Mathlib.Logic.Function.Basic
import Mathlib.Algebra.Ring.Nat

/-!
# Fields packed in a word

A field is a mask with the position and the width of its bits. It is written by clearing its bits
and or-ing the value shifted and masked, and read by masking and shifting back. What packed fields
are to implement is a record of independent fields.
-/

/-- The bits from `pos` on, `width` of them, with a mask that has just these. -/
structure BitField (w : ℕ) where
  mask : BitVec w
  pos : ℕ
  width : ℕ
  getLsbD_mask : ∀ i < w, mask.getLsbD i = decide (pos ≤ i ∧ i < pos + width)
  fits : pos + width ≤ w

namespace BitField

variable {w k : ℕ}

/-- The value may have a wider type than the word. -/
def write (f : BitField w) (word : BitVec w) (v : BitVec (w + k)) : BitVec w :=
  word &&& ~~~f.mask ||| ((v <<< f.pos) &&& f.mask.setWidth (w + k)).setWidth w

def read (f : BitField w) (word : BitVec w) : BitVec w := (word &&& f.mask) >>> f.pos

/-- Whether any bit of the field is set. -/
def readFlag (f : BitField w) (word : BitVec w) : Bool := word &&& f.mask ≠ 0#w

variable {f g : BitField w} {word : BitVec w}

lemma getLsbD_write (v : BitVec (w + k)) {i : ℕ} (hi : i < w) :
    (f.write word v).getLsbD i =
      if f.pos ≤ i ∧ i < f.pos + f.width then v.getLsbD (i - f.pos) else word.getLsbD i := by
  have hmask := f.getLsbD_mask i hi
  have hk : i < w + k := by omega
  simp only [write, BitVec.getLsbD_or, BitVec.getLsbD_and, BitVec.getLsbD_not,
    BitVec.getLsbD_setWidth, BitVec.getLsbD_shiftLeft, hmask, hi, hk, decide_true, Bool.true_and]
  by_cases hin : f.pos ≤ i ∧ i < f.pos + f.width
  · have hpos : ¬ i < f.pos := by omega
    simp [hin, hpos]
  · simp [hin]

lemma getLsbD_read {i : ℕ} :
    (f.read word).getLsbD i = (decide (i < f.width) && word.getLsbD (f.pos + i)) := by
  simp only [read, BitVec.getLsbD_ushiftRight, BitVec.getLsbD_and]
  by_cases hi : f.pos + i < w
  · rw [f.getLsbD_mask _ hi, Bool.and_comm]
    congr 1
    simp
  · have hfits := f.fits
    have hwidth : ¬ i < f.width := by omega
    simp [hwidth, BitVec.getLsbD_of_ge _ _ (Nat.not_lt.mp hi)]

/-- A field reads as what was written, cut to its width. -/
theorem toNat_read_write (v : BitVec (w + k)) :
    (f.read (f.write word v)).toNat = v.toNat % 2 ^ f.width := by
  have hfits := f.fits
  apply Nat.eq_of_testBit_eq
  intro i
  rw [Nat.testBit_mod_two_pow, ← BitVec.getLsbD, ← BitVec.getLsbD, getLsbD_read]
  by_cases hi : i < f.width
  · rw [getLsbD_write v (by omega), if_pos (by omega), Nat.add_sub_cancel_left]
  · simp [hi]

/-- What a field reads as is decided by its own bits. -/
lemma read_congr {word' : BitVec w} (h : word &&& f.mask = word' &&& f.mask) :
    f.read word = f.read word' := by
  rw [read, h, read]

/-- A bit of the word under the mask is one that is read. -/
lemma readFlag_eq : f.readFlag word = decide ((f.read word).toNat ≠ 0) := by
  have hzero : word &&& f.mask = 0#w ↔ (f.read word).toNat = 0 := by
    constructor
    · intro h
      rw [read, h]
      simp
    · intro h
      have hread : f.read word = 0#w := BitVec.eq_of_toNat_eq (by simpa using h)
      ext i hi
      rw [← BitVec.getLsbD_eq_getElem, BitVec.getLsbD_and, f.getLsbD_mask i hi]
      by_cases hin : f.pos ≤ i ∧ i < f.pos + f.width
      · have hbit := congrArg (fun word => word.getLsbD (i - f.pos)) hread
        have hwidth : i - f.pos < f.width := by omega
        have hpos : f.pos + (i - f.pos) = i := by omega
        simp only [getLsbD_read, hwidth, hpos, decide_true, Bool.true_and] at hbit
        rw [hbit]
        simp
      · simp [hin]
  unfold readFlag
  exact decide_eq_decide.mpr (not_congr hzero)

lemma mask_disjoint (h : f.mask &&& g.mask = 0#w) {i : ℕ} (hg : g.mask.getLsbD i = true) :
    f.mask.getLsbD i = false := by
  have hbit := congrArg (fun m => m.getLsbD i) h
  simpa [hg] using hbit

/-- A write leaves the bits of the other fields as they are. -/
theorem write_and_mask (h : f.mask &&& g.mask = 0#w) (v : BitVec (w + k)) :
    f.write word v &&& g.mask = word &&& g.mask := by
  ext i hi
  simp only [← BitVec.getLsbD_eq_getElem, BitVec.getLsbD_and]
  cases hg : g.mask.getLsbD i with
  | false => simp
  | true =>
    have hf := mask_disjoint h hg
    rw [f.getLsbD_mask i hi, decide_eq_false_iff_not] at hf
    rw [getLsbD_write v hi, if_neg hf]

end BitField

section Implements

variable {ι S V A : Type*} [DecidableEq ι]

/-- Reading and writing are those of a record: a write sets the field to what is stored of the
value and leaves the other fields as they are. -/
def Implements (read : S → ι → A) (write : S → ι → V → S) (stored : ι → V → A) : Prop :=
  ∀ s i v, read (write s i v) = Function.update (read s) i (stored i v)

/-- The writes one after the other. -/
def writes (write : S → ι → V → S) (s : S) (vs : List (ι × V)) : S :=
  vs.foldl (fun s p => write s p.1 p.2) s

/-- The last value that is written to a field. -/
def lastWritten (vs : List (ι × V)) (i : ι) : Option V :=
  (vs.filter fun p => p.1 = i).getLast?.map Prod.snd

variable {read : S → ι → A} {write : S → ι → V → S} {stored : ι → V → A}

lemma Implements.read_of_ne (h : Implements read write stored) {i j : ι} (hij : i ≠ j) (s : S)
    (v : V) : read (write s i v) j = read s j := by
  rw [h, Function.update_of_ne hij.symm]

/-- A field holds what was stored of the last value. -/
theorem Implements.read_writes (h : Implements read write stored) (s : S) (vs : List (ι × V))
    (i : ι) :
    read (writes write s vs) i = ((lastWritten vs i).map (stored i)).getD (read s i) := by
  induction vs using List.reverseRecOn with
  | nil => rfl
  | append_singleton vs p ih =>
    have hwrites : writes write s (vs ++ [p]) = write (writes write s vs) p.1 p.2 := by
      unfold writes
      rw [List.foldl_append, List.foldl_cons, List.foldl_nil]
    unfold lastWritten at ih ⊢
    rw [hwrites, List.filter_append]
    by_cases hp : p.1 = i
    · have hlast : [p].filter (fun p => decide (p.1 = i)) = [p] := by simp [hp]
      rw [hlast, List.getLast?_concat, ← hp, h, Function.update_self]
      rfl
    · have hlast : [p].filter (fun p => decide (p.1 = i)) = [] := by simp [hp]
      rw [hlast, List.append_nil, h.read_of_ne hp, ih]

end Implements
