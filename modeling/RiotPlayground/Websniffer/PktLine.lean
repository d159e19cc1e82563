import RiotPlayground.Websniffer.Dump

/-!
# Reading a line of the capture file back

What the line regex of `send_pkts` and `bytes.fromhex` make of a line `time:length:hex`.
-/

namespace RiotPlayground

open PyText

/-- What `time.time()` is assumed to print: digits, a dot and digits. -/
def IsTime (now : List Char) : Prop :=
  ∃ seconds fraction, seconds ≠ [] ∧ fraction ≠ [] ∧ (∀ c ∈ seconds, c.isDigit) ∧
    (∀ c ∈ fraction, c.isDigit) ∧ now = seconds ++ '.' :: fraction

section

variable {U : Unicode}

lemma isDigit_range {c : Char} (h : c.isDigit) : 48 ≤ c.toNat ∧ c.toNat ≤ 57 := by
  simp only [Char.isDigit, Bool.and_eq_true, decide_eq_true_eq] at h
  exact ⟨h.1, h.2⟩

lemma digitValue_of_isDigit {c : Char} (h : c.isDigit) : digitValue U c = some (c.toNat - 48) := by
  obtain ⟨h₁, h₂⟩ := isDigit_range h
  have hlt : c.toNat < 128 := by omega
  simp only [digitValue, hlt, h₁, h₂, and_self, if_true]

lemma isDecimal_of_isDigit {c : Char} (h : c.isDigit) : isDecimal U c := by
  rw [isDecimal, digitValue_of_isDigit h]
  rfl

lemma scanDigits_append {digits : List Char} (hne : digits ≠ []) (h : ∀ c ∈ digits, c.isDigit)
    {c : Char} (hc : isDecimal U c = false) (rest : List Char) :
    scanDigits U (digits ++ c :: rest) = some (digits, c :: rest) := by
  have hall : ∀ d ∈ digits, isDecimal U d := fun d hd => isDecimal_of_isDigit (h d hd)
  have htake : (digits ++ c :: rest).takeWhile (isDecimal U) = digits := by
    rw [List.takeWhile_append_of_pos hall, List.takeWhile_cons_of_neg (by simp [hc])]
    exact List.append_nil _
  have hdrop : (digits ++ c :: rest).dropWhile (isDecimal U) = c :: rest := by
    rw [List.dropWhile_append_of_pos hall, List.dropWhile_cons_of_neg (by simp [hc])]
  rw [scanDigits, htake, hdrop, if_neg hne]

lemma intBase10_toDigits (n : ℕ) : intBase10 U (Nat.toDigits 10 n) = n := by
  have h : ∀ cs : List Char, (∀ c ∈ cs, c.isDigit) → ∀ acc,
      cs.foldl (fun acc c => acc * 10 + (digitValue U c).getD 0) acc =
        Nat.ofDigitChars 10 cs acc := by
    intro cs hcs
    induction cs with
    | nil => exact fun _ => rfl
    | cons c cs ih =>
      intro acc
      rw [List.foldl_cons, digitValue_of_isDigit (hcs c List.mem_cons_self),
        ih fun d hd => hcs d (List.mem_cons_of_mem _ hd), Nat.ofDigitChars_cons]
      simp [Nat.mul_comm]
  rw [intBase10, h _ (fun c hc => Nat.isDigit_of_mem_toDigits (by omega) (by omega) hc),
    Nat.ofDigitChars_ten_toDigits]

lemma hexText_ne_nil {bs : List HexByte} (h : bs ≠ []) : hexText bs ≠ [] := by
  obtain ⟨b, bs, rfl⟩ := List.exists_cons_of_ne_nil h
  exact List.cons_ne_nil _ _

lemma isWord_hexText (bs : List HexByte) : (hexText bs).all (isWord U) :=
  List.all_eq_true.mpr fun _ hc => isWord_of_hex (mem_hexText hc)

lemma newline_notMem_pktLine {now : List Char} (h : IsTime now) (n : ℕ) (bs : List HexByte) :
    '\n' ∉ pktLine now n bs := by
  have hdigit : ∀ {cs : List Char}, (∀ c ∈ cs, c.isDigit) → '\n' ∉ cs := fun hcs hmem =>
    absurd (hcs _ hmem) (by decide)
  obtain ⟨seconds, fraction, -, -, hs, hf, rfl⟩ := h
  have hn : '\n' ∉ Nat.toDigits 10 n := hdigit fun c hc =>
    Nat.isDigit_of_mem_toDigits (by omega) (by omega) hc
  have hb : '\n' ∉ hexText bs := fun hmem => ne_of_hex (mem_hexText hmem) (by decide) rfl
  simp [pktLine, hdigit hs, hdigit hf, hn, hb]

/-- A line of the capture file matches, with or without its newline, if it has any data. -/
lemma matchPktLine_pktLine {now : List Char} (h : IsTime now) (n : ℕ) (bs : List HexByte)
    {eol : List Char} (heol : eol = [] ∨ eol = ['\n']) :
    matchPktLine U (pktLine now n bs ++ eol) =
      if bs = [] then none else some (now, Nat.toDigits 10 n, hexText bs) := by
  have hnl := newline_notMem_pktLine h n bs
  have hdrop : dropNewline (pktLine now n bs ++ eol) = pktLine now n bs := by
    rcases heol with rfl | rfl
    · rw [List.append_nil, dropNewline, if_neg]
      exact fun hlast => hnl (List.mem_of_getLast? hlast)
    · rw [dropNewline, if_pos List.getLast?_concat, List.dropLast_concat]
  obtain ⟨seconds, fraction, hs, hf, hsd, hfd, rfl⟩ := h
  have hcolon : isDecimal U ':' = false := rfl
  have hlen : scanDigits U (Nat.toDigits 10 n ++ ':' :: hexText bs) =
      some (Nat.toDigits 10 n, ':' :: hexText bs) :=
    scanDigits_append Nat.toDigits_ne_nil
      (fun c hc => Nat.isDigit_of_mem_toDigits (by omega) (by omega) hc) hcolon _
  have htext : pktLine (seconds ++ '.' :: fraction) n bs =
      seconds ++ '.' :: (fraction ++ ':' :: (Nat.toDigits 10 n ++ ':' :: hexText bs)) := by
    simp [pktLine]
  rw [matchPktLine, hdrop, htext, scanDigits_append hs hsd rfl]
  simp only [Option.bind_eq_bind, Option.bind_some, scanChar, if_true,
    scanDigits_append hf hfd hcolon, hlen]
  by_cases hbs : bs = []
  · subst hbs
    rfl
  · rw [if_pos ⟨hexText_ne_nil hbs, isWord_hexText bs⟩, if_neg hbs]

lemma parsePktLine_pktLine {now : List Char} (h : IsTime now) (n : ℕ) (bs : List HexByte)
    {eol : List Char} (heol : eol = [] ∨ eol = ['\n']) :
    parsePktLine U (pktLine now n bs ++ eol) =
      if bs = [] then none else some ((bs.map HexByte.value).take n) := by
  rw [parsePktLine, matchPktLine_pktLine h n bs heol]
  by_cases hbs : bs = []
  · rw [if_pos hbs, if_pos hbs]
    rfl
  · rw [if_neg hbs, if_neg hbs]
    simp [fromHex_hexText, intBase10_toDigits]

lemma sendPkts_append {text : List Char} (h : AtLineStart text) (rest : List Char) :
    sendPkts U (text ++ rest) = sendPkts U text ++ sendPkts U rest := by
  rw [sendPkts, fileLines_append h, List.filterMap_append]
  rfl

/-- A line of its own gives the first bytes of its data, as many as its length says. -/
lemma sendPkts_pktLine {now : List Char} (h : IsTime now) (n : ℕ) {bs : List HexByte}
    (hbs : bs ≠ []) (rest : List Char) :
    sendPkts U (pktLine now n bs ++ '\n' :: rest) =
      (bs.map HexByte.value).take n :: sendPkts U rest := by
  rw [sendPkts, fileLines_append_newline (newline_notMem_pktLine h n bs),
    List.filterMap_cons_some ((parsePktLine_pktLine h n bs (.inr rfl)).trans (if_neg hbs))]
  rfl

lemma sendPkts_unfinished {now : List Char} (h : IsTime now) (n : ℕ) (bs : List HexByte) :
    sendPkts U (pktLine now n bs) = if bs = [] then [] else [(bs.map HexByte.value).take n] := by
  have hne : pktLine now n bs ≠ [] := by simp [pktLine]
  have hparse := parsePktLine_pktLine (U := U) h n bs (.inl rfl)
  rw [List.append_nil] at hparse
  rw [sendPkts, fileLines_of_notMem (newline_notMem_pktLine h n bs) hne, List.filterMap_cons,
    hparse]
  by_cases hbs : bs = []
  · simp [hbs]
  · simp [hbs]

end

end RiotPlayground
