import Mathlib.Data.List.Basic
import Mathlib.Logic.Function.Basic

/-!
# Arrays as functions of the index

Writing a run of elements and reading one back.
-/

namespace Buffer

variable {α : Type*}

/-- Writes `xs` from position `pos` on. -/
def poke (m : ℕ → α) (pos : ℕ) (xs : List α) : ℕ → α :=
  fun i => if pos ≤ i then xs[i - pos]?.getD (m i) else m i

/-- The `n` elements from position `pos` on. -/
def slice (m : ℕ → α) (pos n : ℕ) : List α := (List.range n).map fun k => m (pos + k)

@[simp] lemma length_slice (m : ℕ → α) (pos n : ℕ) : (slice m pos n).length = n := by
  rw [slice, List.length_map, List.length_range]

@[simp] lemma slice_zero (m : ℕ → α) (pos : ℕ) : slice m pos 0 = [] := rfl

lemma slice_add (m : ℕ → α) (pos a b : ℕ) :
    slice m pos (a + b) = slice m pos a ++ slice m (pos + a) b := by
  simp only [slice, List.range_add, List.map_append, List.map_map, Function.comp_def, Nat.add_assoc]

lemma take_drop_slice (m : ℕ → α) {pos len n : ℕ} (h : pos + len ≤ n) :
    ((slice m 0 n).drop pos).take len = slice m pos len := by
  obtain ⟨k, rfl⟩ := Nat.exists_eq_add_of_le h
  rw [slice_add, slice_add, List.append_assoc, List.drop_left' (length_slice m 0 pos), Nat.zero_add,
    List.take_left' (length_slice m pos len)]

lemma slice_one (m : ℕ → α) (pos : ℕ) : slice m pos 1 = [m pos] := rfl

lemma slice_congr {m m' : ℕ → α} {pos n : ℕ} (h : ∀ i, pos ≤ i → i < pos + n → m i = m' i) :
    slice m pos n = slice m' pos n := by
  apply List.map_congr_left
  intro k hk
  exact h _ (Nat.le_add_right _ _) (Nat.add_lt_add_left (List.mem_range.mp hk) _)

lemma poke_of_lt {m : ℕ → α} {pos : ℕ} {xs : List α} {i : ℕ} (h : i < pos) :
    poke m pos xs i = m i :=
  if_neg (Nat.not_le.mpr h)

lemma poke_of_le {m : ℕ → α} {pos : ℕ} {xs : List α} {i : ℕ} (h : pos + xs.length ≤ i) :
    poke m pos xs i = m i := by
  rw [poke, if_pos (by omega), List.getElem?_eq_none (by omega), Option.getD_none]

@[simp] lemma poke_nil (m : ℕ → α) (pos : ℕ) : poke m pos [] = m := by
  ext i
  rw [poke, List.getElem?_nil, Option.getD_none, ite_self]

lemma slice_poke_before {m : ℕ → α} {pos n q : ℕ} {xs : List α} (h : pos + n ≤ q) :
    slice (poke m q xs) pos n = slice m pos n :=
  slice_congr fun _ _ hi => poke_of_lt (by omega)

lemma slice_poke_after {m : ℕ → α} {pos n q : ℕ} {xs : List α} (h : q + xs.length ≤ pos) :
    slice (poke m q xs) pos n = slice m pos n :=
  slice_congr fun _ hi _ => poke_of_le (by omega)

lemma slice_poke_self (m : ℕ → α) (pos : ℕ) (xs : List α) :
    slice (poke m pos xs) pos xs.length = xs := by
  apply List.ext_getElem
  · rw [length_slice]
  · intro k hk _
    have hlt : k < xs.length := by rwa [length_slice] at hk
    simp only [slice, List.getElem_map, List.getElem_range, poke, Nat.le_add_right, if_true,
      Nat.add_sub_cancel_left, List.getElem?_eq_getElem hlt, Option.getD_some]

lemma slice_poke_append (m : ℕ → α) (n : ℕ) (xs : List α) :
    slice (poke m n xs) 0 (n + xs.length) = slice m 0 n ++ xs := by
  rw [slice_add, slice_poke_before (by omega), Nat.zero_add, slice_poke_self]

lemma update_eq_poke (m : ℕ → α) (pos : ℕ) (x : α) : Function.update m pos x = poke m pos [x] := by
  ext i
  rcases Nat.lt_trichotomy i pos with h | rfl | h
  · rw [poke_of_lt h, Function.update_of_ne (Nat.ne_of_lt h)]
  · rw [Function.update_self, poke, if_pos (Nat.le_refl i), Nat.sub_self]
    rfl
  · rw [poke_of_le h, Function.update_of_ne (Nat.ne_of_gt h)]

lemma poke_append (m : ℕ → α) (pos : ℕ) (xs ys : List α) :
    poke (poke m pos xs) (pos + xs.length) ys = poke m pos (xs ++ ys) := by
  ext i
  by_cases h₁ : pos + xs.length ≤ i
  · have h₂ : pos ≤ i := by omega
    have h₃ : xs.length ≤ i - pos := by omega
    rw [poke, if_pos h₁, poke_of_le h₁, poke, if_pos h₂, List.getElem?_append_right h₃, Nat.sub_sub]
  · rw [poke_of_lt (by omega)]
    by_cases h₂ : pos ≤ i
    · rw [poke, poke, if_pos h₂, if_pos h₂, List.getElem?_append_left (by omega)]
    · rw [poke_of_lt (by omega), poke_of_lt (by omega)]

lemma slice_poke_left (m : ℕ → α) (pos : ℕ) (xs ys : List α) :
    slice (poke m pos (xs ++ ys)) pos xs.length = xs := by
  rw [← poke_append, slice_poke_before (Nat.le_refl _), slice_poke_self]

lemma slice_poke_right (m : ℕ → α) (pos : ℕ) (xs ys : List α) :
    slice (poke m pos (xs ++ ys)) (pos + xs.length) ys.length = ys := by
  rw [← poke_append, slice_poke_self]

end Buffer
