import Mathlib.Data.List.DropRight

/-!
# Text as Python handles it

Byte strings are lists of bytes and strings lists of characters. What `\w`, `\d` and `int` make
of characters beyond ASCII is left open in `Unicode`.
-/

abbrev Text := List Char

namespace PyText

/-- Unicode properties of the characters beyond ASCII: those `\w` matches, and the values of
the decimal digits. -/
structure Unicode where
  alnum : Char → Bool
  decimal : Char → Option ℕ

/-- ASCII whitespace, which `bytes.rstrip` removes. -/
def isSpace (b : UInt8) : Bool :=
  b.toNat = 32 || 9 ≤ b.toNat && b.toNat ≤ 13

def rstrip (bs : List UInt8) : List UInt8 := bs.rdropWhile isSpace

def encode (cs : List Char) : List UInt8 := cs.map fun c => UInt8.ofNat c.toNat

def isTail (b : UInt8) : Bool := b.toNat / 64 = 2

/-- The character at the start of a byte string, with the number of its continuation bytes. -/
def decodeChar (b : UInt8) (rest : List UInt8) : Option (Char × ℕ) :=
  let b := b.toNat
  if b < 0x80 then some (Char.ofNat b, 0)
  else
    match rest with
    | b1 :: rest =>
      if 0xc2 ≤ b ∧ b ≤ 0xdf ∧ isTail b1 then
        some (Char.ofNat (b % 32 * 64 + b1.toNat % 64), 1)
      else
        match rest with
        | b2 :: rest =>
          if 0xe0 ≤ b ∧ b ≤ 0xef ∧ isTail b1 ∧ isTail b2 ∧ (b = 0xe0 → 0xa0 ≤ b1.toNat) ∧
              (b = 0xed → b1.toNat ≤ 0x9f) then
            some (Char.ofNat ((b % 16 * 64 + b1.toNat % 64) * 64 + b2.toNat % 64), 2)
          else
            match rest with
            | b3 :: _ =>
              if 0xf0 ≤ b ∧ b ≤ 0xf4 ∧ isTail b1 ∧ isTail b2 ∧ isTail b3 ∧
                  (b = 0xf0 → 0x90 ≤ b1.toNat) ∧ (b = 0xf4 → b1.toNat ≤ 0x8f) then
                some (Char.ofNat (((b % 8 * 64 + b1.toNat % 64) * 64 + b2.toNat % 64) * 64 +
                  b3.toNat % 64), 3)
              else none
            | [] => none
        | [] => none
    | [] => none

/-- `decode(errors="ignore")` after the first `skip` bytes: bytes that start no character are
dropped one by one. -/
def decodeFrom : ℕ → List UInt8 → List Char
  | _, [] => []
  | skip + 1, _ :: rest => decodeFrom skip rest
  | 0, b :: rest =>
    match decodeChar b rest with
    | some (c, n) => c :: decodeFrom n rest
    | none => decodeFrom 0 rest

def decode (bs : List UInt8) : List Char := decodeFrom 0 bs

/-- `decode()` after the first `skip` bytes; `none` is the `UnicodeDecodeError`. -/
def decodeStrictFrom : ℕ → List UInt8 → Option (List Char)
  | _, [] => some []
  | skip + 1, _ :: rest => decodeStrictFrom skip rest
  | 0, b :: rest =>
    match decodeChar b rest with
    | some (c, n) => (decodeStrictFrom n rest).map (c :: ·)
    | none => none

def decodeStrict (bs : List UInt8) : Option (List Char) := decodeStrictFrom 0 bs

/-- The characters `\w` matches. -/
def isWord (U : Unicode) (c : Char) : Bool :=
  let n := c.toNat
  if n < 128 then 48 ≤ n && n ≤ 57 || 65 ≤ n && n ≤ 90 || n = 95 || 97 ≤ n && n ≤ 122
  else U.alnum c

def digitValue (U : Unicode) (c : Char) : Option ℕ :=
  let n := c.toNat
  if n < 128 then if 48 ≤ n ∧ n ≤ 57 then some (n - 48) else none
  else U.decimal c

def isDecimal (U : Unicode) (c : Char) : Bool := (digitValue U c).isSome

def hexValue (c : Char) : Option ℕ :=
  let n := c.toNat
  if 48 ≤ n ∧ n ≤ 57 then some (n - 48)
  else if 65 ≤ n ∧ n ≤ 70 then some (n - 55)
  else if 97 ≤ n ∧ n ≤ 102 then some (n - 87)
  else none

/-- `int` replaces decimal digits beyond ASCII before it parses. -/
def asciiDigit (U : Unicode) (c : Char) : Char :=
  if c.toNat < 128 then c
  else
    match U.decimal c with
    | some d => Nat.digitChar d
    | none => '?'

/-- Hexadecimal digits with single underscores between them. -/
def hexDigits : Bool → ℕ → List Char → Option ℕ
  | underscore, acc, [] => if underscore then none else some acc
  | underscore, acc, c :: cs =>
    if c = '_' then if underscore then none else hexDigits true acc cs
    else
      match hexValue c with
      | some d => hexDigits false (acc * 16 + d) cs
      | none => none

def hexNat (s : List Char) : ℕ :=
  s.foldl (fun acc c => acc * 16 + (hexValue c).getD 0) 0

/-- `int(s, 16)` of a string of word characters; `none` is the `ValueError`. -/
def intBase16 (U : Unicode) (s : List Char) : Option ℕ :=
  match s.map (asciiDigit U) with
  | '0' :: x :: rest =>
    if x = 'x' ∨ x = 'X' then
      match rest with
      | '_' :: rest => hexDigits true 0 rest
      | rest => hexDigits true 0 rest
    else hexDigits true 0 ('0' :: x :: rest)
  | s => hexDigits true 0 s

/-- `int(s)` of a string of decimal digits. -/
def intBase10 (U : Unicode) (s : List Char) : ℕ :=
  s.foldl (fun acc c => acc * 10 + (digitValue U c).getD 0) 0

/-- Python converts between `int` and `str` only up to a number of decimal digits, if the
interpreter sets one; longer numbers raise a `ValueError`. -/
def tooManyDigits (maxDigits : Option ℕ) (digits : List Char) : Bool :=
  maxDigits.any (· < digits.length)

/-- `bytes.fromhex` of a string without whitespace; `none` is the `ValueError`. -/
def fromHex : List Char → Option (List UInt8)
  | [] => some []
  | hi :: lo :: rest =>
    match hexValue hi, hexValue lo, fromHex rest with
    | some h, some l, some bs => some (UInt8.ofNat (h * 16 + l) :: bs)
    | _, _, _ => none
  | [_] => none

/-- The lines of a text file, each with its newline if it has one. -/
def fileLines : List Char → List (List Char)
  | [] => []
  | c :: cs =>
    if c = '\n' then [c] :: fileLines cs
    else
      match fileLines cs with
      | [] => [[c]]
      | l :: ls => (c :: l) :: ls

lemma decode_encode {cs : List Char} (h : ∀ c ∈ cs, c.toNat < 128) : decode (encode cs) = cs := by
  induction cs with
  | nil => rfl
  | cons c cs ih =>
    have hc : c.toNat < 128 := h c List.mem_cons_self
    have hn : (UInt8.ofNat c.toNat).toNat = c.toNat := by
      rw [UInt8.toNat_ofNat']
      omega
    have hdec : decodeChar (UInt8.ofNat c.toNat) (encode cs) = some (c, 0) := by
      simp only [decodeChar, hn, hc, if_true, Char.ofNat_toNat]
    have ih := ih fun d hd => h d (List.mem_cons_of_mem _ hd)
    rw [decode] at ih ⊢
    rw [encode, List.map_cons, ← encode, decodeFrom, hdec]
    simp only [ih]

lemma rdropWhile_append_of_all {α : Type*} {p : α → Bool} {l ws : List α}
    (hws : ∀ a ∈ ws, p a) : (l ++ ws).rdropWhile p = l.rdropWhile p := by
  induction ws using List.reverseRecOn with
  | nil => simp
  | append_singleton ws a ih =>
    rw [← List.append_assoc, List.rdropWhile_concat_pos p _ _ (hws a (by simp))]
    exact ih fun b hb => hws b (List.mem_append_left _ hb)

lemma rstrip_append {l ws : List UInt8} (hws : ∀ b ∈ ws, isSpace b)
    (hl : ∀ b, l.getLast? = some b → isSpace b = false) : rstrip (l ++ ws) = l := by
  rw [rstrip, rdropWhile_append_of_all hws, List.rdropWhile_eq_self_iff]
  intro hne
  rw [hl _ (List.getLast?_eq_some_getLast hne)]
  exact Bool.false_ne_true

lemma hexValue_cases {c : Char} {d : ℕ} (h : hexValue c = some d) :
    d < 16 ∧ (48 ≤ c.toNat ∧ c.toNat ≤ 57 ∨ 65 ≤ c.toNat ∧ c.toNat ≤ 70 ∨
      97 ≤ c.toNat ∧ c.toNat ≤ 102) := by
  unfold hexValue at h
  dsimp only at h
  split at h
  · obtain rfl := Option.some.inj h
    omega
  · split at h
    · obtain rfl := Option.some.inj h
      omega
    · split at h
      · obtain rfl := Option.some.inj h
        omega
      · cases h

lemma hexDigits_hex {s : List Char} (h : ∀ c ∈ s, (hexValue c).isSome) (hne : s ≠ [])
    (underscore : Bool) (acc : ℕ) :
    hexDigits underscore acc s =
      some (s.foldl (fun acc c => acc * 16 + (hexValue c).getD 0) acc) := by
  induction s generalizing underscore acc with
  | nil => exact absurd rfl hne
  | cons c s ih =>
    obtain ⟨d, hd⟩ := Option.isSome_iff_exists.mp (h c List.mem_cons_self)
    have hc : c ≠ '_' := by
      rintro rfl
      cases hd
    rw [hexDigits, if_neg hc, hd, List.foldl_cons, hd]
    by_cases hs : s = []
    · subst hs
      rfl
    · exact ih (fun e he => h e (List.mem_cons_of_mem _ he)) hs false _

lemma intBase16_hex {U : Unicode} {s : List Char} (h : ∀ c ∈ s, (hexValue c).isSome)
    (hne : s ≠ []) : intBase16 U s = some (hexNat s) := by
  have hascii : s.map (asciiDigit U) = s := by
    refine (List.map_congr_left ?_).trans (List.map_id s)
    intro c hc
    obtain ⟨d, hd⟩ := Option.isSome_iff_exists.mp (h c hc)
    have := (hexValue_cases hd).2
    exact if_pos (by omega)
  have hx : ∀ c ∈ s, ¬ (c = 'x' ∨ c = 'X') := by
    rintro c hc (rfl | rfl) <;> cases h _ hc
  rw [intBase16, hascii]
  split
  · rw [if_neg (hx _ (by simp))]
    exact hexDigits_hex h hne true 0
  · exact hexDigits_hex h hne true 0

lemma fileLines_append_newline {l : List Char} (hl : '\n' ∉ l) (rest : List Char) :
    fileLines (l ++ '\n' :: rest) = (l ++ ['\n']) :: fileLines rest := by
  induction l with
  | nil => simp [fileLines]
  | cons c l ih =>
    have hc : c ≠ '\n' := fun h => hl (h ▸ List.mem_cons_self)
    rw [List.cons_append, fileLines, if_neg hc, ih fun h => hl (List.mem_cons_of_mem _ h)]
    rfl

lemma fileLines_of_notMem {l : List Char} (hl : '\n' ∉ l) (hne : l ≠ []) :
    fileLines l = [l] := by
  induction l with
  | nil => exact absurd rfl hne
  | cons c l ih =>
    have hc : c ≠ '\n' := fun h => hl (h ▸ List.mem_cons_self)
    rw [fileLines, if_neg hc]
    by_cases hnil : l = []
    · subst hnil
      rfl
    · rw [ih (fun h => hl (List.mem_cons_of_mem _ h)) hnil]

/-- Text that is empty or ends with a newline, so that what follows starts a line. -/
def AtLineStart (text : List Char) : Prop := text = [] ∨ text.getLast? = some '\n'

instance (text : List Char) : Decidable (AtLineStart text) :=
  inferInstanceAs (Decidable (_ ∨ _))

lemma atLineStart_cons {text : List Char} (hne : text ≠ []) (c : Char) :
    AtLineStart (c :: text) ↔ AtLineStart text := by
  simp [AtLineStart, List.getLast?_cons_of_ne_nil hne, hne]

lemma flatten_fileLines (text : List Char) : (fileLines text).flatten = text := by
  induction text with
  | nil => rfl
  | cons c text ih =>
    rw [fileLines]
    split
    · rw [List.flatten_cons, ih]
      rfl
    · cases hlines : fileLines text with
      | nil =>
        rw [hlines] at ih
        rw [← ih]
        rfl
      | cons l ls =>
        rw [hlines] at ih
        rw [← ih]
        rfl

lemma fileLines_ne_nil {text : List Char} (hne : text ≠ []) : fileLines text ≠ [] := by
  obtain ⟨c, text, rfl⟩ := List.exists_cons_of_ne_nil hne
  rw [fileLines]
  split
  · exact List.cons_ne_nil _ _
  · split <;> exact List.cons_ne_nil _ _

lemma fileLines_append {text : List Char} (h : AtLineStart text) (rest : List Char) :
    fileLines (text ++ rest) = fileLines text ++ fileLines rest := by
  induction text with
  | nil => rfl
  | cons c text ih =>
    by_cases hnil : text = []
    · subst hnil
      have hc : c = '\n' := by simpa [AtLineStart] using h
      simp [fileLines, hc]
    · obtain ⟨l, ls, hl⟩ := List.exists_cons_of_ne_nil (fileLines_ne_nil hnil)
      rw [List.cons_append, fileLines, fileLines, ih ((atLineStart_cons hnil c).mp h), hl]
      by_cases hc : c = '\n'
      · rw [if_pos hc, if_pos hc]
        rfl
      · rw [if_neg hc, if_neg hc]
        rfl

lemma getLast?_of_mem_fileLines {text : List Char} (h : AtLineStart text) :
    ∀ l ∈ fileLines text, l.getLast? = some '\n' := by
  induction text with
  | nil => exact fun l hl => absurd hl List.not_mem_nil
  | cons c text ih =>
    by_cases hnil : text = []
    · subst hnil
      have hc : c = '\n' := by simpa [AtLineStart] using h
      simp [fileLines, hc]
    · have ih := ih ((atLineStart_cons hnil c).mp h)
      obtain ⟨l, ls, hl⟩ := List.exists_cons_of_ne_nil (fileLines_ne_nil hnil)
      rw [hl] at ih
      rw [fileLines, hl]
      by_cases hc : c = '\n'
      · rw [if_pos hc, List.forall_mem_cons, hc]
        exact ⟨rfl, ih⟩
      · have hlast := ih l List.mem_cons_self
        have hne : l ≠ [] := by
          rintro rfl
          cases hlast
        rw [if_neg hc, List.forall_mem_cons, List.getLast?_cons_of_ne_nil hne]
        exact ⟨hlast, fun l' hl' => ih l' (List.mem_cons_of_mem _ hl')⟩

/-- One line for each newline, and one for what follows the last. -/
lemma length_fileLines (text : List Char) :
    (fileLines text).length = text.count '\n' + if AtLineStart text then 0 else 1 := by
  induction text with
  | nil => rfl
  | cons c text ih =>
    by_cases hnil : text = []
    · subst hnil
      by_cases hc : c = '\n' <;> simp [fileLines, AtLineStart, hc]
    · have hif := if_congr (atLineStart_cons hnil c) (rfl : 0 = 0) (rfl : 1 = 1)
      obtain ⟨l, ls, hl⟩ := List.exists_cons_of_ne_nil (fileLines_ne_nil hnil)
      rw [hif, fileLines, List.count_cons]
      by_cases hc : c = '\n'
      · rw [if_pos hc, List.length_cons, ih, hc, beq_self_eq_true, if_pos rfl]
        omega
      · rw [if_neg hc, hl, List.length_cons]
        rw [hl, List.length_cons] at ih
        simpa [hc] using ih

end PyText
