import Mathlib.Data.Nat.Notation

/-!
# One's complement sums of 16-bit words

A sum with end-around carry is the sum of the words modulo 65535. Zero has two
representations, and only an empty sum of zeros gives the first one.
-/

namespace OnesComplement

/-- Addition with end-around carry. -/
def add (a b : UInt16) : UInt16 :=
  let t := a.toNat + b.toNat
  UInt16.ofNat (t % 65536 + t / 65536)

def sum (seed : UInt16) (ws : List UInt16) : UInt16 := ws.foldl add seed

/-- Bytes as words in network byte order. A single last byte is the high byte of its word. -/
def words : List UInt8 → List UInt16
  | [] => []
  | [hi] => [UInt16.ofNat (256 * hi.toNat)]
  | hi :: lo :: bs => UInt16.ofNat (256 * hi.toNat + lo.toNat) :: words bs

def total : List UInt16 → ℕ
  | [] => 0
  | w :: ws => w.toNat + total ws

/-- The 16-bit representation of a sum. -/
def fold (n : ℕ) : ℕ := if n = 0 then 0 else (n - 1) % 65535 + 1

lemma fold_le (n : ℕ) : fold n ≤ 65535 := by
  unfold fold
  split <;> omega

lemma fold_of_le {n : ℕ} (h : n ≤ 65535) : fold n = n := by
  unfold fold
  split <;> omega

lemma fold_fold_add (n m : ℕ) : fold (fold n + m) = fold (n + m) := by
  unfold fold
  by_cases hn : n = 0
  · rw [if_pos hn, hn]
  · rw [if_neg hn, if_neg (by omega), if_neg (by omega)]
    omega

/-- A sum that is not empty has the second representation of zero. -/
lemma fold_eq_max_iff {n : ℕ} (h : n ≠ 0) : fold n = 65535 ↔ n % 65535 = 0 := by
  rw [fold, if_neg h]
  omega

lemma toNat_add (a b : UInt16) : (add a b).toNat = fold (a.toNat + b.toNat) := by
  have ha := a.toNat_lt
  have hb := b.toNat_lt
  rw [add, fold, UInt16.toNat_ofNat']
  by_cases hcarry : a.toNat + b.toNat < 65536
  · rw [Nat.div_eq_of_lt hcarry]
    split <;> omega
  · rw [show (a.toNat + b.toNat) / 65536 = 1 by omega]
    split <;> omega

lemma toNat_sum (seed : UInt16) (ws : List UInt16) :
    (sum seed ws).toNat = fold (seed.toNat + total ws) := by
  induction ws generalizing seed with
  | nil => exact (fold_of_le (Nat.le_of_lt_succ seed.toNat_lt)).symm
  | cons w ws ih =>
    have hsum : sum seed (w :: ws) = sum (add seed w) ws := rfl
    rw [hsum, ih, toNat_add, fold_fold_add, total, Nat.add_assoc]

lemma total_append (ws vs : List UInt16) : total (ws ++ vs) = total ws + total vs := by
  induction ws with
  | nil => exact (Nat.zero_add _).symm
  | cons w ws ih => rw [List.cons_append, total, total, ih, Nat.add_assoc]

lemma words_append {bs : List UInt8} (h : bs.length % 2 = 0) (cs : List UInt8) :
    words (bs ++ cs) = words bs ++ words cs := by
  induction bs using words.induct with
  | case1 => rfl
  | case2 hi => cases h
  | case3 hi lo bs ih =>
    simp only [List.length_cons] at h
    rw [List.cons_append, List.cons_append, words, words, ih (by omega), List.cons_append]

lemma total_words_append {bs : List UInt8} (h : bs.length % 2 = 0) (cs : List UInt8) :
    total (words (bs ++ cs)) = total (words bs) + total (words cs) := by
  rw [words_append h, total_append]

/-- A sum and its complement make up all ones. -/
lemma fold_add_complement {n : ℕ} (h : n ≠ 0) : fold (n + (65535 - fold n)) = 65535 := by
  have hle := fold_le n
  rw [fold_eq_max_iff (by omega)]
  rw [fold, if_neg h] at hle ⊢
  omega

end OnesComplement
