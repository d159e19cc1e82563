import RiotPlayground.Websniffer.Sniffer

/-!
# Packet dumps on the serial line

A `Dump` is a header line the sniffer recognises, blank lines, and rows of hexadecimal bytes
that add up to the announced length. The lemmas say what `generate_outfile` writes for one.
-/

namespace RiotPlayground

open PyText

/-- A byte printed as two hexadecimal digits, of either case. -/
structure HexByte where
  hi : Char
  lo : Char
  hi_hex : (hexValue hi).isSome
  lo_hex : (hexValue lo).isSome

namespace HexByte

def text (b : HexByte) : List Char := [b.hi, b.lo]

def value (b : HexByte) : UInt8 :=
  UInt8.ofNat ((hexValue b.hi).getD 0 * 16 + (hexValue b.lo).getD 0)

end HexByte

def hexText (bs : List HexByte) : List Char := bs.flatMap HexByte.text

/-- A line of bytes separated by spaces, up to the whitespace at its end. -/
structure Row where
  bytes : List HexByte
  eol : List UInt8
  nonempty : bytes ≠ []
  eol_space : ∀ b ∈ eol, isSpace b

namespace Row

def text (r : Row) : List Char := [' '].intercalate (r.bytes.map HexByte.text)

def raw (r : Row) : List UInt8 := encode r.text ++ r.eol

end Row

/-- The bytes of those rows that the sniffer takes as data. -/
def copied (rows : List Row) : List HexByte :=
  (rows.filter fun r => 2 ≤ r.bytes.length).flatMap Row.bytes

/-- A line of the capture file without its newline. -/
def pktLine (now : List Char) (length : ℕ) (bytes : List HexByte) : List Char :=
  now ++ ':' :: Nat.toDigits 10 length ++ ':' :: hexText bytes

/-- A packet as the node dumps it: `length` is what the sniffer reads from the header. -/
structure Dump (U : Unicode) where
  header : List UInt8
  word : List Char
  length : ℕ
  blanks : List (List UInt8)
  rows : List Row
  header_word : pktHeader U (decode (rstrip header)) = some word
  header_length : intBase16 U word = some length
  blank : ∀ l ∈ blanks, ∀ b ∈ l, isSpace b
  rows_ne : rows ≠ []
  total : length = (rows.flatMap Row.bytes).length

namespace Dump

variable {U : Unicode}

def lines (d : Dump U) : List (List UInt8) := d.header :: d.blanks ++ d.rows.map Row.raw

def bytes (d : Dump U) : List HexByte := d.rows.flatMap Row.bytes

def packet (d : Dump U) : List UInt8 := d.bytes.map HexByte.value

/-- At least two bytes on every line. -/
def Wide (d : Dump U) : Prop := ∀ r ∈ d.rows, 2 ≤ r.bytes.length

def entry (d : Dump U) (now : List Char) : List Char := pktLine now d.length d.bytes

end Dump

lemma hexValue_range {c : Char} (h : (hexValue c).isSome) :
    48 ≤ c.toNat ∧ c.toNat ≤ 57 ∨ 65 ≤ c.toNat ∧ c.toNat ≤ 70 ∨ 97 ≤ c.toNat ∧ c.toNat ≤ 102 := by
  obtain ⟨d, hd⟩ := Option.isSome_iff_exists.mp h
  exact (hexValue_cases hd).2

lemma toNat_lt_of_hex {c : Char} (h : (hexValue c).isSome) : c.toNat < 128 := by
  have := hexValue_range h
  omega

lemma isWord_of_hex {U : Unicode} {c : Char} (h : (hexValue c).isSome) : isWord U c := by
  have hr := hexValue_range h
  simp only [isWord, toNat_lt_of_hex h, if_true, Bool.or_eq_true, Bool.and_eq_true,
    decide_eq_true_eq]
  omega

lemma not_isSpace_of_hex {c : Char} (h : (hexValue c).isSome) :
    isSpace (UInt8.ofNat c.toNat) = false := by
  have hr := hexValue_range h
  have hn : (UInt8.ofNat c.toNat).toNat = c.toNat := by
    rw [UInt8.toNat_ofNat']
    omega
  simp only [isSpace, hn, Bool.or_eq_false_iff, Bool.and_eq_false_iff, decide_eq_false_iff_not]
  omega

lemma ne_of_hex {c e : Char} (h : (hexValue c).isSome) (he : hexValue e = none) : c ≠ e := by
  rintro rfl
  rw [he] at h
  cases h

lemma HexByte.mem_text (b : HexByte) {c : Char} (h : c ∈ b.text) : (hexValue c).isSome := by
  rcases List.mem_pair.mp h with rfl | rfl
  · exact b.hi_hex
  · exact b.lo_hex

lemma mem_hexText {bs : List HexByte} {c : Char} (h : c ∈ hexText bs) :
    (hexValue c).isSome := by
  obtain ⟨b, -, hc⟩ := List.mem_flatMap.mp h
  exact b.mem_text hc

lemma fromHex_hexText (bs : List HexByte) :
    fromHex (hexText bs) = some (bs.map HexByte.value) := by
  rw [hexText]
  induction bs with
  | nil => rfl
  | cons b bs ih =>
    obtain ⟨h, hh⟩ := Option.isSome_iff_exists.mp b.hi_hex
    obtain ⟨l, hl⟩ := Option.isSome_iff_exists.mp b.lo_hex
    simp only [List.flatMap_cons, HexByte.text, List.cons_append, List.nil_append, fromHex, hh, hl,
      ih, List.map_cons, HexByte.value, Option.getD_some]

namespace Row

variable (r : Row)

lemma text_cons (b : HexByte) (bs : List HexByte) :
    [' '].intercalate ((b :: bs).map HexByte.text) =
      b.text ++ if bs = [] then [] else ' ' :: [' '].intercalate (bs.map HexByte.text) := by
  cases bs with
  | nil => simp
  | cons c bs => simp [List.intercalate_cons_cons]

lemma text_chars : ∀ c ∈ r.text, c = ' ' ∨ (hexValue c).isSome := by
  rw [text]
  generalize r.bytes = bs
  induction bs with
  | nil => simp
  | cons b bs ih =>
    intro c hc
    rw [text_cons] at hc
    rcases List.mem_append.mp hc with hc | hc
    · exact .inr (b.mem_text hc)
    · split at hc
      · cases hc
      · rcases List.mem_cons.mp hc with rfl | hc
        · exact .inl rfl
        · exact ih c hc

lemma text_getLast? : ∃ c, r.text.getLast? = some c ∧ (hexValue c).isSome := by
  have hne := r.nonempty
  rw [text]
  generalize r.bytes = bs at hne
  induction bs with
  | nil => exact absurd rfl hne
  | cons b bs ih =>
    rw [text_cons]
    by_cases hbs : bs = []
    · exact ⟨b.lo, by simp [hbs, HexByte.text], b.lo_hex⟩
    · obtain ⟨c, hc, hex⟩ := ih hbs
      refine ⟨c, ?_, hex⟩
      rw [if_neg hbs, List.getLast?_append_of_ne_nil _ (List.cons_ne_nil _ _),
        List.getLast?_cons_of_ne_nil, hc]
      rintro hnil
      rw [hnil] at hc
      cases hc

lemma decode_raw : decode (rstrip r.raw) = r.text := by
  have hascii : ∀ c ∈ r.text, c.toNat < 128 := by
    intro c hc
    rcases r.text_chars c hc with rfl | hex
    · decide
    · exact toNat_lt_of_hex hex
  have hlast : ∀ b, (encode r.text).getLast? = some b → isSpace b = false := by
    intro b hb
    obtain ⟨c, hc, hex⟩ := r.text_getLast?
    rw [encode, List.getLast?_map, hc] at hb
    obtain rfl := Option.some.inj hb
    exact not_isSpace_of_hex hex
  rw [raw, rstrip_append r.eol_space hlast, decode_encode hascii]

lemma text_eq_cons : ∃ b bs, r.bytes = b :: bs ∧
    r.text = b.hi :: b.lo ::
      if bs = [] then [] else ' ' :: [' '].intercalate (bs.map HexByte.text) := by
  cases hb : r.bytes with
  | nil => exact absurd hb r.nonempty
  | cons b bs => exact ⟨b, bs, rfl, by rw [text, hb, text_cons]; rfl⟩

variable {U : Unicode}

lemma pktHeader_text : pktHeader U r.text = none := by
  obtain ⟨b, bs, -, ht⟩ := r.text_eq_cons
  have hsp : b.hi ≠ ' ' := ne_of_hex b.hi_hex (by decide)
  have hgt : b.hi ≠ '>' := ne_of_hex b.hi_hex (by decide)
  have hr : b.hi ≠ 'r' := ne_of_hex b.hi_hex (by decide)
  have hnot : ¬ rftestHeader <+: r.text := by
    rw [ht]
    intro h
    exact hr (List.cons_prefix_cons.mp h).1.symm
  rw [pktHeader, ht, ← ht]
  rw [ht] at hnot
  simp [ht, hgt, hsp, hnot]

/-- The sniffer takes a row as data exactly when it has two bytes or more. -/
lemma pktData_text : pktData U r.text = decide (2 ≤ r.bytes.length) := by
  obtain ⟨b, bs, hb, ht⟩ := r.text_eq_cons
  have hhi : isWord U b.hi := isWord_of_hex b.hi_hex
  have hlo : isWord U b.lo := isWord_of_hex b.lo_hex
  rw [ht, hb]
  cases bs with
  | nil => rfl
  | cons c bs => simp [pktData, hhi, hlo]

lemma dataBytes_text : dataBytes U r.text = r.bytes.map HexByte.text := by
  have hsplit : r.text.splitOn ' ' = r.bytes.map HexByte.text := by
    apply List.splitOn_intercalate
    · intro l hl hmem
      obtain ⟨b, -, rfl⟩ := List.mem_map.mp hl
      rcases List.mem_pair.mp hmem with h | h
      · exact ne_of_hex b.hi_hex (by decide) h.symm
      · exact ne_of_hex b.lo_hex (by decide) h.symm
    · simpa using r.nonempty
  rw [dataBytes, hsplit, List.filterMap_map]
  have hpart : ∀ b : HexByte, (partByte U ∘ HexByte.text) b = some b.text := by
    intro b
    simp [partByte, HexByte.text, isWord_of_hex b.hi_hex, isWord_of_hex b.lo_hex]
  rw [funext hpart]
  simp [List.filterMap_eq_map']

end Row

section Writes

variable {U : Unicode} {maxDigits : Option ℕ} {clock : ℕ → List Char}

lemma writes_blanks (w : Outfile) {blanks : List (List UInt8)}
    (h : ∀ l ∈ blanks, ∀ b ∈ l, isSpace b) : Writes U maxDigits clock w blanks 0 w.length [] := by
  induction blanks generalizing w with
  | nil => exact .nil w
  | cons l blanks ih =>
    have hl : decode (rstrip l) = [] := by
      have := rstrip_append (l := []) (h l List.mem_cons_self) (by simp)
      rw [List.nil_append] at this
      rw [this]
      rfl
    have hone : Writes U maxDigits clock w [l] 0 w.length [] :=
      writes_other clock w (by rw [hl]; rfl) (by rw [hl]; rfl)
    apply hone.cons
    intro w' hc hn
    rw [← hn]
    exact ih w' fun l' hl' => h l' (List.mem_cons_of_mem _ hl')

section Row

variable {r : Row}

private lemma row_facts (r : Row) : pktHeader U (decode (rstrip r.raw)) = none ∧
    pktData U (decode (rstrip r.raw)) = decide (2 ≤ r.bytes.length) ∧
    dataBytes U (decode (rstrip r.raw)) = r.bytes.map HexByte.text := by
  rw [r.decode_raw]
  exact ⟨r.pktHeader_text, r.pktData_text, r.dataBytes_text⟩

lemma writes_row (w : Outfile) (hw : 2 ≤ r.bytes.length) (hlt : r.bytes.length < w.length) :
    Writes U maxDigits clock w [r.raw] 0 (w.length - r.bytes.length) (hexText r.bytes) := by
  obtain ⟨hh, hd, hb⟩ := row_facts (U := U) r
  rw [decide_eq_true hw] at hd
  have h : Writes U maxDigits clock w [r.raw] 0 _ _ :=
    writes_data clock w hh hd (by rwa [hb, List.length_map])
  rwa [hb, List.length_map] at h

lemma writes_row_last (w : Outfile) (hw : 2 ≤ r.bytes.length) (hle : w.length ≤ r.bytes.length) :
    Writes U maxDigits clock w [r.raw] 0 0 (hexText r.bytes ++ ['\n']) := by
  obtain ⟨hh, hd, hb⟩ := row_facts (U := U) r
  rw [decide_eq_true hw] at hd
  have h : Writes U maxDigits clock w [r.raw] 0 _ _ :=
    writes_data_last clock w hh hd (by rwa [hb, List.length_map])
  rwa [hb] at h

lemma writes_row_narrow (w : Outfile) (hw : ¬ 2 ≤ r.bytes.length) :
    Writes U maxDigits clock w [r.raw] 0 w.length [] := by
  obtain ⟨hh, hd, -⟩ := row_facts (U := U) r
  rw [decide_eq_false hw] at hd
  exact writes_other clock w hh hd

end Row

@[simp] lemma copied_nil : copied [] = [] := rfl

lemma copied_cons_wide {r : Row} (h : 2 ≤ r.bytes.length) (rows : List Row) :
    copied (r :: rows) = r.bytes ++ copied rows := by
  simp [copied, h]

lemma copied_cons_narrow {r : Row} (h : ¬ 2 ≤ r.bytes.length) (rows : List Row) :
    copied (r :: rows) = copied rows := by
  simp [copied, h]

lemma copied_of_wide {rows : List Row} (h : ∀ r ∈ rows, 2 ≤ r.bytes.length) :
    copied rows = rows.flatMap Row.bytes := by
  have hall : rows.filter (fun r => 2 ≤ r.bytes.length) = rows := by
    rw [List.filter_eq_self]
    intro r hr
    exact decide_eq_true (h r hr)
  rw [copied, hall]

lemma copied_length_lt {rows : List Row} (h : ¬ ∀ r ∈ rows, 2 ≤ r.bytes.length) :
    (copied rows).length < (rows.flatMap Row.bytes).length := by
  induction rows with
  | nil => exact absurd (by simp) h
  | cons r rows ih =>
    have hpos := List.length_pos_iff.mpr r.nonempty
    by_cases hr : 2 ≤ r.bytes.length
    · rw [copied_cons_wide hr]
      have := ih fun hall => h (by simpa [hr] using hall)
      simp only [List.flatMap_cons, List.length_append]
      omega
    · have hle : (copied rows).length ≤ (rows.flatMap Row.bytes).length := by
        by_cases hall : ∀ r ∈ rows, 2 ≤ r.bytes.length
        · rw [copied_of_wide hall]
        · exact (ih hall).le
      rw [copied_cons_narrow hr]
      simp only [List.flatMap_cons, List.length_append]
      omega

lemma hexText_append (bs cs : List HexByte) : hexText (bs ++ cs) = hexText bs ++ hexText cs :=
  List.flatMap_append

/-- Rows that stay below the countdown: their bytes are written, and no newline. -/
lemma writes_rows (w : Outfile) {rows : List Row} (h : (copied rows).length < w.length) :
    Writes U maxDigits clock w (rows.map Row.raw) 0 (w.length - (copied rows).length)
      (hexText (copied rows)) := by
  induction rows generalizing w with
  | nil => simpa [hexText] using Writes.nil w
  | cons r rows ih =>
    by_cases hw : 2 ≤ r.bytes.length
    · rw [copied_cons_wide hw, List.length_append] at h
      rw [copied_cons_wide hw, hexText_append, List.length_append]
      apply (writes_row w hw (by omega)).cons
      intro w' hc hn
      have hrest := ih w' (by omega)
      rwa [show w'.length - (copied rows).length =
        w.length - ↑(r.bytes.length + (copied rows).length) by omega] at hrest
    · rw [copied_cons_narrow hw] at h ⊢
      apply (writes_row_narrow w hw).cons
      intro w' hc hn
      rw [← hn]
      exact ih w' (by omega)

/-- Rows that end the countdown exactly, none of them skipped. -/
lemma writes_rows_last (w : Outfile) {rows : List Row} (hne : rows ≠ [])
    (hw : ∀ r ∈ rows, 2 ≤ r.bytes.length) (h : w.length = (rows.flatMap Row.bytes).length) :
    Writes U maxDigits clock w (rows.map Row.raw) 0 0
      (hexText (rows.flatMap Row.bytes) ++ ['\n']) := by
  obtain ⟨rows, r, rfl⟩ := (List.eq_nil_or_concat' rows).resolve_left hne
  have hr : 2 ≤ r.bytes.length := hw r (by simp)
  have hinit : copied rows = rows.flatMap Row.bytes :=
    copied_of_wide fun s hs => hw s (List.mem_append_left _ hs)
  have hsum : w.length = (copied rows).length + r.bytes.length := by
    rw [h, hinit]
    simp
  have hrows : Writes U maxDigits clock w (rows.map Row.raw) 0 _ _ := writes_rows w (by omega)
  have h := hrows.append fun w' hc hn =>
    writes_row_last (r := r) w' hr (by omega)
  rw [hinit] at h
  simpa [hexText_append] using h

namespace Dump

variable (clock) (d : Dump U)

lemma length_eq : d.length = d.bytes.length := d.total

lemma take_packet : (d.bytes.map HexByte.value).take d.length = d.packet := by
  rw [packet, d.length_eq, ← List.length_map HexByte.value, List.take_length]

lemma bytes_ne : d.bytes ≠ [] := by
  obtain ⟨r, rows, hr⟩ := List.exists_cons_of_ne_nil d.rows_ne
  simp [bytes, hr, r.nonempty]

/-- A dump whose rows all count: the packet gets a line of its own. -/
lemma writes_wide (w : Outfile) (h : d.Wide)
    (hfit : tooManyDigits maxDigits (Nat.toDigits 10 d.length) = false) :
    Writes U maxDigits clock w d.lines 1 0 (d.entry (clock w.count) ++ ['\n']) := by
  have hhead : Writes U maxDigits clock w [d.header] 1 d.length _ :=
    writes_header clock w d.header_word d.header_length hfit
  have hall := hhead.append fun w₁ hc₁ hn₁ => (writes_blanks w₁ d.blank).append
    fun w₂ hc₂ hn₂ => writes_rows_last w₂ d.rows_ne h (by rw [hn₂, hn₁, d.length_eq, bytes])
  rw [lines, List.cons_append]
  simpa [entry, pktLine, bytes] using hall

lemma copied_lt (h : ¬ d.Wide) : (copied d.rows).length < d.length := by
  rw [d.length_eq]
  exact copied_length_lt h

/-- A dump with a row that is skipped: its bytes fall short and the line is not ended. -/
lemma writes_narrow (w : Outfile) (h : ¬ d.Wide)
    (hfit : tooManyDigits maxDigits (Nat.toDigits 10 d.length) = false) :
    Writes U maxDigits clock w d.lines 1 (d.length - (copied d.rows).length)
      (pktLine (clock w.count) d.length (copied d.rows)) := by
  have hhead : Writes U maxDigits clock w [d.header] 1 d.length _ :=
    writes_header clock w d.header_word d.header_length hfit
  have hrows : ∀ w' : Outfile, w'.length = d.length →
      Writes U maxDigits clock w' (d.rows.map Row.raw) 0 (d.length - (copied d.rows).length)
        (hexText (copied d.rows)) := by
    intro w' hn
    rw [← hn]
    exact writes_rows w' (by rw [hn]; exact_mod_cast d.copied_lt h)
  have hall := hhead.append fun w₁ hc₁ hn₁ => (writes_blanks w₁ d.blank).append
    fun w₂ hc₂ hn₂ => hrows w₂ (hn₂.trans hn₁)
  rw [lines, List.cons_append]
  simpa [pktLine] using hall

end Dump

end Writes

end RiotPlayground
