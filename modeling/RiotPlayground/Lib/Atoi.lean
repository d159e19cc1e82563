import RiotPlayground.Lib.Scanf
import Mathlib.Order.Lattice

/-!
# `strtoll` and `atoi`

The number a text starts with, and what `%02d` prints.
-/

namespace Directive

abbrev INT64_MIN : ℤ := -9223372036854775808
abbrev INT64_MAX : ℤ := 9223372036854775807

/-- `strtoll` with base 10: the number, and where it ends. What is too large saturates. -/
def strtoll (input : List Char) : ℤ × List Char :=
  let digits := unsignedPart input
  if digits.head?.any Char.isDigit then
    let n : ℕ := Nat.ofDigitChars 10 (digits.takeWhile Char.isDigit) 0
    let value : ℤ := if (input.dropWhile isSpace).head? = some '-' then -n else n
    (max INT64_MIN (min INT64_MAX value), digits.dropWhile Char.isDigit)
  else (0, input)

/-- What is too large for an `int` saturates, as `strtol` does. -/
def atoi (input : List Char) : Int32 :=
  Int32.ofInt (max (-2147483648) (min 2147483647 (strtoll input).1))

/-- `%02d` -/
def twoDigits (n : ℕ) : List Char :=
  if n < 10 then '0' :: Nat.toDigits 10 n else Nat.toDigits 10 n

lemma atoi_digits {digits rest : List Char} (hne : digits ≠ [])
    (hdigits : ∀ c ∈ digits, c.isDigit = true) (hrest : rest.head?.any Char.isDigit = false)
    (hfits : Nat.ofDigitChars 10 digits 0 < 2147483648) :
    atoi (digits ++ rest) = Int32.ofNat (Nat.ofDigitChars 10 digits 0) := by
  obtain ⟨d, ds, hd⟩ : ∃ d ds, digits = d :: ds := List.exists_cons_of_ne_nil hne
  have hdigit : d.isDigit = true := hdigits d (hd ▸ List.mem_cons_self)
  obtain ⟨hspace, hminus, hplus⟩ := isSpace_of_isDigit hdigit
  have hdrop : (digits ++ rest).dropWhile isSpace = digits ++ rest := by
    rw [hd, List.cons_append, List.dropWhile_cons_of_neg (by rw [hspace]; exact Bool.false_ne_true)]
  have hhead : (digits ++ rest).head? = some d := by
    rw [hd]
    rfl
  have hsign : ¬ some d = some '-' := fun h => hminus (Option.some.inj h)
  have hpart : unsignedPart (digits ++ rest) = digits ++ rest := by
    unfold unsignedPart
    dsimp only
    rw [hdrop, hhead, if_neg]
    rintro (h | h)
    · exact hsign h
    · exact hplus (Option.some.inj h)
  unfold atoi strtoll INT64_MIN INT64_MAX
  dsimp only
  rw [hpart, hdrop, hhead, if_neg hsign, Option.any_some, if_pos hdigit,
    (takeWhile_append_of_head hdigits hrest).1]
  dsimp only
  rw [min_eq_right (by omega), max_eq_right (by omega), min_eq_right (by omega),
    max_eq_right (by omega), Int32.ofInt_eq_ofNat]

lemma twoDigits_ne_nil (n : ℕ) : twoDigits n ≠ [] := by
  unfold twoDigits
  split
  · exact List.cons_ne_nil _ _
  · exact Nat.toDigits_ne_nil

lemma isDigit_of_mem_twoDigits {n : ℕ} {c : Char} (h : c ∈ twoDigits n) : c.isDigit = true := by
  have hdigits : ∀ c ∈ Nat.toDigits 10 n, c.isDigit = true := fun c hc =>
    Nat.isDigit_of_mem_toDigits (by omega) (by omega) hc
  unfold twoDigits at h
  split at h
  · cases List.mem_cons.mp h with
    | inl hc =>
      rw [hc]
      rfl
    | inr hc => exact hdigits c hc
  · exact hdigits c h

lemma ofDigitChars_twoDigits (n : ℕ) : Nat.ofDigitChars 10 (twoDigits n) 0 = n := by
  unfold twoDigits
  split
  · rw [Nat.ofDigitChars_cons]
    exact Nat.ofDigitChars_ten_toDigits
  · exact Nat.ofDigitChars_ten_toDigits

/-- What was printed with `%02d` in front of what is no digit is read again. -/
lemma atoi_twoDigits {n : ℕ} (hn : n < 2147483648) {rest : List Char}
    (hrest : rest.head?.any Char.isDigit = false) :
    atoi (twoDigits n ++ rest) = Int32.ofNat n := by
  have hvalue := ofDigitChars_twoDigits n
  rw [atoi_digits (twoDigits_ne_nil n) (fun _ => isDigit_of_mem_twoDigits) hrest (by omega), hvalue]

lemma ofNat_eq_ofNat_iff {m n : ℕ} (hm : m < 2147483648) (hn : n < 2147483648) :
    Int32.ofNat m = Int32.ofNat n ↔ m = n := by
  constructor
  · intro h
    have hint := congrArg Int32.toInt h
    rw [Int32.toInt_ofNat_of_lt (by omega), Int32.toInt_ofNat_of_lt (by omega)] at hint
    omega
  · intro h
    rw [h]

end Directive
