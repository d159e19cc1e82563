import RiotPlayground.Lib.PyText

/-!
# The capture file: `websniffer/sniffer.py` and the reader in `websniffer/main.py`

`generate_outfile` turns the serial output of the node into lines `time:length:hex` of the
capture file; `send_pkts` reads them back. Both work on text, the writer behind the buffer of
its file object.
-/

namespace RiotPlayground

open PyText

/-- The state of `generate_outfile`: its two counters, and its output file, split into the
text that has been flushed and the text still in the buffer. -/
structure Outfile where
  count : ℕ
  length : ℤ
  flushed : List Char
  buffer : List Char
deriving DecidableEq, Repr

namespace Outfile

def init : Outfile := ⟨0, 0, [], []⟩

def text (w : Outfile) : List Char := w.flushed ++ w.buffer

def write (w : Outfile) (cs : List Char) : Outfile := { w with buffer := w.buffer ++ cs }

def flush (w : Outfile) : Outfile := { w with flushed := w.flushed ++ w.buffer, buffer := [] }

end Outfile

def rftestHeader : List Char := "rftest-rx --- len ".toList

/-- Group 1 of `>? *rftest-rx --- len (\w+).*` at the start of the line. -/
def pktHeader (U : Unicode) (line : List Char) : Option (List Char) :=
  let line := if line.head? = some '>' then line.tail else line
  let line := line.dropWhile (· = ' ')
  if rftestHeader <+: line then
    let word := (line.drop rftestHeader.length).takeWhile (isWord U)
    if word = [] then none else some word
  else none

/-- `(\w\w )+` at the start of the line. -/
def pktData (U : Unicode) : List Char → Bool
  | a :: b :: ' ' :: _ => isWord U a && isWord U b
  | _ => false

/-- `(\w\w)` at the start of a part of the line. -/
def partByte (U : Unicode) : List Char → Option (List Char)
  | a :: b :: _ => if isWord U a && isWord U b then some [a, b] else none
  | _ => none

/-- What is written for the parts of a data line, one element a byte. -/
def dataBytes (U : Unicode) (line : List Char) : List (List Char) :=
  (line.splitOn ' ').filterMap (partByte U)

/-- One pass of the loop of `generate_outfile` over what `readline` returned; `none` when it
raises. `clock k` is what `time.time()` prints as for header number `k`, and `maxDigits` the
interpreter's limit, which the length meets when the f-string prints it. -/
def generateLine (U : Unicode) (maxDigits : Option ℕ) (clock : ℕ → List Char) (w : Outfile)
    (raw : List UInt8) : Option Outfile :=
  let line := decode (rstrip raw)
  match pktHeader U line with
  | some word =>
    match intBase16 U word with
    | some length =>
      let digits := Nat.toDigits 10 length
      if tooManyDigits maxDigits digits then none
      else
        some { w.write (clock w.count ++ ':' :: digits ++ [':']) with
          count := w.count + 1
          length := length }
    | none => none
  | none =>
    if pktData U line then
      let bytes := dataBytes U line
      let w : Outfile := { w.write bytes.flatten with length := w.length - bytes.length }
      if w.length ≤ 0 then some (Outfile.flush { w.write ['\n'] with length := 0 })
      else some w.flush
    else some w.flush

def generateOutfile (U : Unicode) (maxDigits : Option ℕ) (clock : ℕ → List Char) :
    Outfile → List (List UInt8) → Option Outfile
  | w, [] => some w
  | w, raw :: lines =>
    (generateLine U maxDigits clock w raw).bind fun w => generateOutfile U maxDigits clock w lines

/-! ### `send_pkts` -/

/-- A non-empty run of `\d` at the start, and what follows it. -/
def scanDigits (U : Unicode) (s : List Char) : Option (List Char × List Char) :=
  let digits := s.takeWhile (isDecimal U)
  if digits = [] then none else some (digits, s.dropWhile (isDecimal U))

def scanChar (c : Char) : List Char → Option (List Char)
  | d :: rest => if d = c then some rest else none
  | [] => none

/-- `$` also matches before a newline at the end. -/
def dropNewline (line : List Char) : List Char :=
  if line.getLast? = some '\n' then line.dropLast else line

/-- The groups of `^(?P<time>\d+\.\d+):(?P<length>\d+):(?P<data>\w+)$`. -/
def matchPktLine (U : Unicode) (line : List Char) :
    Option (List Char × List Char × List Char) := do
  let (seconds, rest) ← scanDigits U (dropNewline line)
  let rest ← scanChar '.' rest
  let (fraction, rest) ← scanDigits U rest
  let rest ← scanChar ':' rest
  let (length, rest) ← scanDigits U rest
  let data ← scanChar ':' rest
  if data ≠ [] ∧ data.all (isWord U) then some (seconds ++ '.' :: fraction, length, data)
  else none

/-- The bytes `send_pkts` hands to `Dot15d4` for a line; `none` when the line does not match
or `fromhex` raises, which `send_pkts` logs before it goes on. A length that `int` refuses does
not get into the file. -/
def parsePktLine (U : Unicode) (line : List Char) : Option (List UInt8) := do
  let (_, length, data) ← matchPktLine U line
  let bytes ← fromHex data
  return bytes.take (intBase10 U length)

/-- The packets `send_pkts` reads from a finished file. -/
def sendPkts (U : Unicode) (file : List Char) : List (List UInt8) :=
  (fileLines file).filterMap (parsePktLine U)

section Lines

variable {U : Unicode} {maxDigits : Option ℕ} {clock : ℕ → List Char}

lemma generateOutfile_append (w : Outfile) (l₁ l₂ : List (List UInt8)) :
    generateOutfile U maxDigits clock w (l₁ ++ l₂) =
      (generateOutfile U maxDigits clock w l₁).bind fun w =>
        generateOutfile U maxDigits clock w l₂ := by
  induction l₁ generalizing w with
  | nil => rfl
  | cons raw l₁ ih =>
    simp only [List.cons_append, generateOutfile]
    cases generateLine U maxDigits clock w raw with
    | none => rfl
    | some w' => exact ih w'

/-- Nothing that was written or flushed has changed. -/
def Outfile.Grows (w w' : Outfile) : Prop := w.text <+: w'.text ∧ w.flushed <+: w'.flushed

lemma Outfile.Grows.trans {w₁ w₂ w₃ : Outfile} (h : w₁.Grows w₂) (h' : w₂.Grows w₃) :
    w₁.Grows w₃ :=
  ⟨h.1.trans h'.1, h.2.trans h'.2⟩

lemma Outfile.grows_write (w : Outfile) (cs : List Char) : w.Grows (w.write cs) :=
  ⟨by simp [text, write], List.prefix_rfl⟩

lemma Outfile.grows_flush (w : Outfile) : w.Grows w.flush :=
  ⟨by simp [text, flush], List.prefix_append _ _⟩

lemma generateLine_grows {w w' : Outfile} {raw : List UInt8}
    (h : generateLine U maxDigits clock w raw = some w') : w.Grows w' := by
  unfold generateLine at h
  dsimp only at h
  split at h
  · split at h
    · split at h
      · cases h
      · obtain rfl := Option.some.inj h
        exact w.grows_write _
    · cases h
  · split at h
    · have hdata := w.grows_write (dataBytes U (decode (rstrip raw))).flatten
      split at h
      · obtain rfl := Option.some.inj h
        exact hdata.trans ((Outfile.grows_write _ ['\n']).trans (Outfile.grows_flush _))
      · obtain rfl := Option.some.inj h
        exact hdata.trans (Outfile.grows_flush _)
    · obtain rfl := Option.some.inj h
      exact w.grows_flush

lemma generateOutfile_grows {w w' : Outfile} {lines : List (List UInt8)}
    (h : generateOutfile U maxDigits clock w lines = some w') : w.text <+: w'.text := by
  induction lines generalizing w with
  | nil =>
    obtain rfl := Option.some.inj h
    exact List.prefix_rfl
  | cons raw lines ih =>
    obtain ⟨w₁, hw₁, hrest⟩ := Option.bind_eq_some_iff.mp h
    exact (generateLine_grows hw₁).1.trans (ih hrest)

/-- From `w` the lines hold `headers` headers, append `text` and leave the countdown at
`length`. -/
def Writes (U : Unicode) (maxDigits : Option ℕ) (clock : ℕ → List Char) (w : Outfile)
    (lines : List (List UInt8)) (headers : ℕ) (length : ℤ) (text : List Char) : Prop :=
  ∃ w', generateOutfile U maxDigits clock w lines = some w' ∧ w'.count = w.count + headers ∧
    w'.length = length ∧ w'.text = w.text ++ text

lemma Writes.nil (w : Outfile) : Writes U maxDigits clock w [] 0 w.length [] :=
  ⟨w, rfl, rfl, rfl, (List.append_nil _).symm⟩

lemma Writes.append {w : Outfile} {l₁ l₂ : List (List UInt8)} {k₁ k₂ : ℕ} {n₁ n₂ : ℤ}
    {t₁ t₂ : List Char} (h₁ : Writes U maxDigits clock w l₁ k₁ n₁ t₁)
    (h₂ : ∀ w', w'.count = w.count + k₁ → w'.length = n₁ →
      Writes U maxDigits clock w' l₂ k₂ n₂ t₂) :
    Writes U maxDigits clock w (l₁ ++ l₂) (k₁ + k₂) n₂ (t₁ ++ t₂) := by
  obtain ⟨w₁, hw₁, hc₁, hn₁, ht₁⟩ := h₁
  obtain ⟨w₂, hw₂, hc₂, hn₂, ht₂⟩ := h₂ w₁ hc₁ hn₁
  refine ⟨w₂, ?_, ?_, hn₂, ?_⟩
  · rw [generateOutfile_append, hw₁]
    exact hw₂
  · omega
  · rw [ht₂, ht₁, List.append_assoc]

lemma Writes.cons {w : Outfile} {raw : List UInt8} {lines : List (List UInt8)} {k : ℕ}
    {n₁ n₂ : ℤ} {t₁ t₂ : List Char} (h₁ : Writes U maxDigits clock w [raw] 0 n₁ t₁)
    (h₂ : ∀ w', w'.count = w.count → w'.length = n₁ → Writes U maxDigits clock w' lines k n₂ t₂) :
    Writes U maxDigits clock w (raw :: lines) k n₂ (t₁ ++ t₂) := by
  have h := h₁.append h₂
  rwa [Nat.zero_add] at h

variable (clock)

lemma writes_header (w : Outfile) {raw : List UInt8} {word : List Char} {n : ℕ}
    (h : pktHeader U (decode (rstrip raw)) = some word) (hn : intBase16 U word = some n)
    (hfit : tooManyDigits maxDigits (Nat.toDigits 10 n) = false) :
    Writes U maxDigits clock w [raw] 1 n (clock w.count ++ ':' :: Nat.toDigits 10 n ++ [':']) := by
  simp only [Writes, generateOutfile, generateLine, h, hn, hfit, Bool.false_eq_true, if_false,
    Option.bind_some]
  exact ⟨_, rfl, rfl, rfl, by simp [Outfile.text, Outfile.write]⟩

lemma writes_other (w : Outfile) {raw : List UInt8}
    (h : pktHeader U (decode (rstrip raw)) = none) (hd : pktData U (decode (rstrip raw)) = false) :
    Writes U maxDigits clock w [raw] 0 w.length [] := by
  simp only [Writes, generateOutfile, generateLine, h, hd, Bool.false_eq_true, if_false,
    Option.bind_some]
  exact ⟨_, rfl, rfl, rfl, by simp [Outfile.text, Outfile.flush]⟩

lemma writes_data (w : Outfile) {raw : List UInt8}
    (h : pktHeader U (decode (rstrip raw)) = none) (hd : pktData U (decode (rstrip raw)) = true)
    (hlt : (dataBytes U (decode (rstrip raw))).length < w.length) :
    Writes U maxDigits clock w [raw] 0 (w.length - (dataBytes U (decode (rstrip raw))).length)
      (dataBytes U (decode (rstrip raw))).flatten := by
  have hsub : ¬ w.length - (dataBytes U (decode (rstrip raw))).length ≤ 0 := by omega
  simp only [Writes, generateOutfile, generateLine, h, hd, if_true, hsub, if_false,
    Option.bind_some]
  exact ⟨_, rfl, rfl, rfl, by simp [Outfile.text, Outfile.flush, Outfile.write]⟩

lemma writes_data_last (w : Outfile) {raw : List UInt8}
    (h : pktHeader U (decode (rstrip raw)) = none) (hd : pktData U (decode (rstrip raw)) = true)
    (hle : w.length ≤ (dataBytes U (decode (rstrip raw))).length) :
    Writes U maxDigits clock w [raw] 0 0
      ((dataBytes U (decode (rstrip raw))).flatten ++ ['\n']) := by
  have hsub : w.length - (dataBytes U (decode (rstrip raw))).length ≤ 0 := by omega
  simp only [Writes, generateOutfile, generateLine, h, hd, if_true, hsub, Option.bind_some]
  exact ⟨_, rfl, rfl, rfl, by simp [Outfile.text, Outfile.flush, Outfile.write]⟩

lemma dataBytes_ne_nil {line : List Char} (h : pktData U line = true) : dataBytes U line ≠ [] := by
  unfold pktData at h
  split at h
  · rename_i a b rest
    have hspace : isWord U ' ' = false := rfl
    have hab : ' ' ∉ [a, b] := by
      intro hmem
      rcases List.mem_pair.mp hmem with rfl | rfl <;> simp [hspace] at h
    have hsplit : (a :: b :: ' ' :: rest).splitOn ' ' = [a, b] :: rest.splitOn ' ' :=
      List.splitOn_append_cons_self_of_not_mem hab rest
    simp [dataBytes, hsplit, partByte, h]
  · cases h

end Lines

end RiotPlayground
