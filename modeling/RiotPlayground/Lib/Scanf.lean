import Mathlib.Algebra.Ring.Nat
import Mathlib.Data.List.Basic

/-!
# `sprintf` and `sscanf` with unsigned conversions

Formats made of ordinary characters and of `%u`. What is printed is scanned again if no `%u` runs
into a digit.
-/

inductive Directive
  | lit (c : Char)
  | unsigned
  deriving DecidableEq

namespace Directive

def sprintf : List Directive → List UInt32 → List Char
  | [], _ => []
  | .lit c :: format, args => c :: sprintf format args
  | .unsigned :: format, n :: args => Nat.toDigits 10 n.toNat ++ sprintf format args
  | .unsigned :: format, [] => sprintf format []

def isSpace (c : Char) : Bool := c = ' ' || '\t' ≤ c && c ≤ '\r'

/-- `strtoul` with base 10. A sign negates modulo the word size, and what is too large saturates. -/
def scanUnsigned (input : List Char) : Option (UInt32 × List Char) :=
  let cs := input.dropWhile isSpace
  let digits := if cs.head? = some '-' ∨ cs.head? = some '+' then cs.tail else cs
  if digits.head?.any Char.isDigit then
    let n := Nat.ofDigitChars 10 (digits.takeWhile Char.isDigit) 0
    let value :=
      if 4294967295 < n then 4294967295
      else if cs.head? = some '-' then -UInt32.ofNat n else UInt32.ofNat n
    some (value, digits.dropWhile Char.isDigit)
  else none

/-- White space, perhaps a sign, and a digit. -/
def StartsNumber (input : List Char) : Prop :=
  ∃ spaces sign d tail, input = spaces ++ sign ++ d :: tail ∧ (∀ c ∈ spaces, isSpace c = true) ∧
    (sign = [] ∨ sign = ['-'] ∨ sign = ['+']) ∧ d.isDigit = true

/-- The values that are assigned; the return value counts them. -/
def sscanf : List Directive → List Char → List UInt32
  | [], _ => []
  | .lit c :: format, input =>
    if isSpace c then sscanf format (input.dropWhile isSpace)
    else if input.head? = some c then sscanf format input.tail else []
  | .unsigned :: format, input =>
    match scanUnsigned input with
    | some (n, rest) => n :: sscanf format rest
    | none => []

/-- No white space, and behind every `%u` a character that is no digit. -/
def Scannable : List Directive → Prop
  | [] => True
  | .lit c :: format => isSpace c = false ∧ Scannable format
  | .unsigned :: format =>
    (∃ c rest, format = .lit c :: rest ∧ c.isDigit = false) ∧ Scannable format

def conversions : List Directive → ℕ
  | [] => 0
  | .lit _ :: format => conversions format
  | .unsigned :: format => conversions format + 1

lemma isSpace_of_isDigit {c : Char} (h : c.isDigit = true) :
    isSpace c = false ∧ c ≠ '-' ∧ c ≠ '+' := by
  have hc : '0' ≤ c ∧ c ≤ '9' := by
    simpa [Char.isDigit, Char.le_def, UInt32.le_iff_toNat_le] using h
  have hlow : '0'.toNat ≤ c.toNat := hc.1
  refine ⟨?_, ?_, ?_⟩
  · have hspace : c ≠ ' ' := by
      rintro rfl
      exact absurd hlow (by decide)
    have hcr : ¬ c ≤ '\r' := fun h => absurd (Nat.le_trans hlow h) (by decide)
    simp [isSpace, hspace, hcr]
  · rintro rfl
    exact absurd hlow (by decide)
  · rintro rfl
    exact absurd hlow (by decide)

lemma takeWhile_append_of_head {α : Type*} {p : α → Bool} {l rest : List α}
    (hl : ∀ a ∈ l, p a = true) (hrest : rest.head?.any p = false) :
    (l ++ rest).takeWhile p = l ∧ (l ++ rest).dropWhile p = rest := by
  rw [List.takeWhile_append_of_pos hl, List.dropWhile_append_of_pos hl]
  cases rest with
  | nil => exact ⟨List.append_nil l, rfl⟩
  | cons a rest =>
    have ha : p a = false := hrest
    rw [List.takeWhile_cons_of_neg (by rw [ha]; exact Bool.false_ne_true),
      List.dropWhile_cons_of_neg (by rw [ha]; exact Bool.false_ne_true)]
    exact ⟨List.append_nil l, rfl⟩

/-- A number without white space and sign, read in front of what is no digit. -/
lemma scanUnsigned_digits {digits rest : List Char} (hne : digits ≠ [])
    (hdigits : ∀ c ∈ digits, c.isDigit = true) (hrest : rest.head?.any Char.isDigit = false) :
    scanUnsigned (digits ++ rest) = some
      (if 4294967295 < Nat.ofDigitChars 10 digits 0 then 4294967295
        else UInt32.ofNat (Nat.ofDigitChars 10 digits 0), rest) := by
  obtain ⟨d, ds, hd⟩ : ∃ d ds, digits = d :: ds := List.exists_cons_of_ne_nil hne
  have hdigit : d.isDigit = true := hdigits d (hd ▸ List.mem_cons_self)
  obtain ⟨hspace, hminus, hplus⟩ := isSpace_of_isDigit hdigit
  have hdrop : (digits ++ rest).dropWhile isSpace = digits ++ rest := by
    rw [hd, List.cons_append, List.dropWhile_cons_of_neg (by rw [hspace]; exact Bool.false_ne_true)]
  have hhead : (digits ++ rest).head? = some d := by rw [hd]; rfl
  obtain ⟨htake, hafter⟩ := takeWhile_append_of_head hdigits hrest
  have hsign : ¬ (some d = some '-' ∨ some d = some '+') := by
    rintro (h | h)
    · exact hminus (Option.some.inj h)
    · exact hplus (Option.some.inj h)
  have hneg : ¬ some d = some '-' := fun h => hsign (.inl h)
  unfold scanUnsigned
  dsimp only
  rw [hdrop, hhead, if_neg hsign, hhead, if_neg hneg, htake, hafter]
  exact if_pos hdigit

lemma scanUnsigned_toDigits (n : UInt32) {rest : List Char}
    (hrest : rest.head?.any Char.isDigit = false) :
    scanUnsigned (Nat.toDigits 10 n.toNat ++ rest) = some (n, rest) := by
  have hdigits : ∀ c ∈ Nat.toDigits 10 n.toNat, c.isDigit = true := fun c hc =>
    Nat.isDigit_of_mem_toDigits (by omega) (by omega) hc
  have hfits : ¬ 4294967295 < n.toNat := by
    have := n.toNat_lt
    omega
  rw [scanUnsigned_digits Nat.toDigits_ne_nil hdigits hrest, Nat.ofDigitChars_ten_toDigits,
    if_neg hfits, UInt32.ofNat_toNat]

/-- The input behind white space and a sign. -/
def unsignedPart (input : List Char) : List Char :=
  let cs := input.dropWhile isSpace
  if cs.head? = some '-' ∨ cs.head? = some '+' then cs.tail else cs

lemma isSome_scanUnsigned (input : List Char) :
    (scanUnsigned input).isSome = (unsignedPart input).head?.any Char.isDigit := by
  unfold scanUnsigned
  change (if (unsignedPart input).head?.any Char.isDigit = true then some _ else none).isSome = _
  cases (unsignedPart input).head?.any Char.isDigit <;> rfl

lemma isSome_scanUnsigned_iff (input : List Char) :
    (scanUnsigned input).isSome = true ↔ StartsNumber input := by
  rw [isSome_scanUnsigned]
  constructor
  · intro hdigit
    have hsplit : input.takeWhile isSpace ++ input.dropWhile isSpace = input :=
      List.takeWhile_append_dropWhile
    have hspaces : ∀ c ∈ input.takeWhile isSpace, isSpace c = true :=
      List.all_eq_true.mp List.all_takeWhile
    obtain ⟨d, hhead, hd⟩ := (Option.any_eq_true _ _).mp hdigit
    obtain ⟨tail, htail⟩ := List.head?_eq_some_iff.mp hhead
    refine ⟨input.takeWhile isSpace, ?_⟩
    unfold unsignedPart at htail
    dsimp only at htail
    split at htail
    · rename_i hsign
      have hcons {c : Char} (hc : (input.dropWhile isSpace).head? = some c) :
          input = input.takeWhile isSpace ++ [c] ++ d :: tail := by
        obtain ⟨rest, hrest⟩ := List.head?_eq_some_iff.mp hc
        rw [hrest] at htail
        rw [← htail, List.append_assoc]
        exact hsplit.symm.trans (congrArg _ hrest)
      rcases hsign with hsign | hsign
      · exact ⟨['-'], d, tail, hcons hsign, hspaces, .inr (.inl rfl), hd⟩
      · exact ⟨['+'], d, tail, hcons hsign, hspaces, .inr (.inr rfl), hd⟩
    · refine ⟨[], d, tail, ?_, hspaces, .inl rfl, hd⟩
      rw [List.append_nil, ← htail, hsplit]
  · rintro ⟨spaces, sign, d, tail, rfl, hspaces, hsign, hd⟩
    obtain ⟨hspace, hminus, hplus⟩ := isSpace_of_isDigit hd
    have hfirst : (sign ++ d :: tail).head?.any isSpace = false := by
      rcases hsign with rfl | rfl | rfl
      · exact hspace
      · rfl
      · rfl
    unfold unsignedPart
    rw [List.append_assoc, (takeWhile_append_of_head hspaces hfirst).2]
    rcases hsign with rfl | rfl | rfl
    · simp [hminus, hplus, hd]
    · simp [hd]
    · simp [hd]

/-- A character that no number contains ends the text that is scanned. -/
lemma startsNumber_append_iff {cs rest : List Char} {x : Char} (hspace : isSpace x = false)
    (hdigit : x.isDigit = false) (hsign : x ≠ '-' ∧ x ≠ '+') :
    StartsNumber (cs ++ x :: rest) ↔ StartsNumber cs := by
  constructor
  · rintro ⟨spaces, sign, d, tail, heq, hspaces, hsigns, hd⟩
    have hmem : x ∉ spaces ++ sign ++ [d] := by
      intro hx
      rcases List.mem_append.mp hx with hx | hx
      · rcases List.mem_append.mp hx with hx | hx
        · exact absurd (hspace.symm.trans (hspaces x hx)) Bool.false_ne_true
        · rcases hsigns with rfl | rfl | rfl
          · cases hx
          · exact hsign.1 (List.mem_singleton.mp hx)
          · exact hsign.2 (List.mem_singleton.mp hx)
      · obtain rfl := List.mem_singleton.mp hx
        exact absurd (hdigit.symm.trans hd) Bool.false_ne_true
    have hnumber : spaces ++ sign ++ [d] <+: cs ++ x :: rest := ⟨tail, by simp [heq]⟩
    rcases List.prefix_or_prefix_of_prefix hnumber (List.prefix_append cs _) with h | ⟨more, h⟩
    · obtain ⟨tail', rfl⟩ := h
      exact ⟨spaces, sign, d, tail', by simp, hspaces, hsigns, hd⟩
    · cases more with
      | nil =>
        rw [List.append_nil] at h
        exact ⟨spaces, sign, d, [], h, hspaces, hsigns, hd⟩
      | cons y more =>
        rw [← h, List.prefix_append_right_inj] at hnumber
        obtain ⟨_, hmore⟩ := hnumber
        rw [← h, (List.cons.inj hmore).1] at hmem
        exact absurd (List.mem_append_right cs List.mem_cons_self) hmem
  · rintro ⟨spaces, sign, d, tail, rfl, h⟩
    exact ⟨spaces, sign, d, tail ++ x :: rest, by simp, h⟩

/-- Ordinary characters have to stand in the input. -/
lemma sscanf_lits_iff {lits : List Char} (hlits : ∀ c ∈ lits, isSpace c = false)
    {format : List Directive} {input : List Char} {values : List UInt32} (hvalues : values ≠ []) :
    sscanf (lits.map .lit ++ format) input = values ↔
      ∃ rest, input = lits ++ rest ∧ sscanf format rest = values := by
  induction lits generalizing input with
  | nil => simp
  | cons c lits ih =>
    have hspace := hlits c List.mem_cons_self
    rw [List.map_cons, List.cons_append, sscanf, if_neg (by rw [hspace]; exact Bool.false_ne_true)]
    split
    · rename_i hhead
      obtain ⟨tail, rfl⟩ := List.head?_eq_some_iff.mp hhead
      rw [List.tail_cons, ih fun d hd => hlits d (List.mem_cons_of_mem c hd)]
      simp
    · rename_i hhead
      apply iff_of_false hvalues.symm
      rintro ⟨rest, rfl, -⟩
      exact hhead rfl

lemma ofDigitChars_lt {digits : List Char} (hdigits : ∀ c ∈ digits, c.isDigit = true) :
    Nat.ofDigitChars 10 digits 0 < 10 ^ digits.length := by
  induction digits with
  | nil => simp
  | cons c digits ih =>
    have hc : c.toNat - '0'.toNat ≤ 9 := by
      have hdigit := hdigits c List.mem_cons_self
      have hle : '0' ≤ c ∧ c ≤ '9' := by
        simpa [Char.isDigit, Char.le_def, UInt32.le_iff_toNat_le] using hdigit
      have hhigh : c.toNat ≤ '9'.toNat := hle.2
      exact Nat.sub_le_sub_right hhigh _
    have hrest := ih fun d hd => hdigits d (List.mem_cons_of_mem c hd)
    rw [Nat.ofDigitChars_cons, Nat.ofDigitChars_eq_ofDigitChars_zero, List.length_cons,
      Nat.pow_succ, Nat.mul_zero, Nat.zero_add]
    have hmul := Nat.mul_le_mul_left (10 ^ digits.length) hc
    omega

/-- What `sprintf` prints, `sscanf` reads back, whatever follows in the buffer. -/
theorem sscanf_sprintf {format : List Directive} (h : Scannable format) {args : List UInt32}
    (hargs : args.length = conversions format) (rest : List Char) :
    sscanf format (sprintf format args ++ rest) = args := by
  induction format generalizing args with
  | nil => exact (List.length_eq_zero_iff.mp hargs).symm
  | cons directive format ih =>
    cases directive with
    | lit c =>
      unfold sscanf sprintf
      rw [h.1, if_neg Bool.false_ne_true]
      exact (if_pos rfl).trans (ih h.2 hargs)
    | unsigned =>
      obtain ⟨⟨c, tail, rfl, hc⟩, hformat⟩ := h
      cases args with
      | nil => cases hargs
      | cons n args =>
        have hrest : (sprintf (.lit c :: tail) args ++ rest).head?.any Char.isDigit = false := hc
        unfold sscanf sprintf
        rw [List.append_assoc, scanUnsigned_toDigits n hrest]
        exact congrArg (n :: ·) (ih hformat (Nat.succ.inj hargs))

end Directive
