import RiotPlayground.Websniffer.PktLine

/-!
# The capture log round trip

Packets printed by the node, turned into the capture file by `generate_outfile` and read back
by `send_pkts`. The packets come back exactly if no line holds a single byte.
-/

namespace RiotPlayground

open PyText

/-- A packet as the node prints it: `rftest-rx --- len <hex length>`, blank lines, and the
bytes over one or more lines. -/
structure Printout where
  len : List Char
  eol : List UInt8
  blanks : List (List UInt8)
  rows : List Row
  len_ne : len ≠ []
  len_hex : ∀ c ∈ len, (hexValue c).isSome
  eol_space : ∀ b ∈ eol, isSpace b
  blank : ∀ l ∈ blanks, ∀ b ∈ l, isSpace b
  rows_ne : rows ≠ []
  total : hexNat len = (rows.flatMap Row.bytes).length

namespace Printout

def header (p : Printout) : List UInt8 := encode (rftestHeader ++ p.len) ++ p.eol

def lines (p : Printout) : List (List UInt8) := p.header :: p.blanks ++ p.rows.map Row.raw

def packet (p : Printout) : List UInt8 := (p.rows.flatMap Row.bytes).map HexByte.value

end Printout

/-- The packets are read back from the finished file, in order and each once. -/
def RoundTrip (U : Unicode) (clock : ℕ → List Char) (ps : List Printout) : Prop :=
  ∃ w, generateOutfile U none clock .init (ps.flatMap Printout.lines) = some w ∧
    sendPkts U w.text = ps.map Printout.packet

namespace Printout

variable (U : Unicode) (p : Printout)

lemma decode_header : decode (rstrip p.header) = rftestHeader ++ p.len := by
  have hheader : rftestHeader.all (fun c => c.toNat < 128) := by decide
  have hascii : ∀ c ∈ rftestHeader ++ p.len, c.toNat < 128 := by
    intro c hc
    rcases List.mem_append.mp hc with hc | hc
    · exact of_decide_eq_true (List.all_eq_true.mp hheader c hc)
    · exact toNat_lt_of_hex (p.len_hex c hc)
  have hlast : ∀ b, (encode (rftestHeader ++ p.len)).getLast? = some b → isSpace b = false := by
    intro b hb
    rw [encode, List.getLast?_map, List.getLast?_append_of_ne_nil _ p.len_ne] at hb
    obtain ⟨c, hc, rfl⟩ := Option.map_eq_some_iff.mp hb
    exact not_isSpace_of_hex (p.len_hex c (List.mem_of_getLast? hc))
  rw [header, rstrip_append p.eol_space hlast, decode_encode hascii]

lemma pktHeader_header : pktHeader U (decode (rstrip p.header)) = some p.len := by
  have hword : p.len.takeWhile (isWord U) = p.len :=
    List.takeWhile_eq_self_iff.mpr fun c hc => isWord_of_hex (p.len_hex c hc)
  have hr : rftestHeader = 'r' :: rftestHeader.tail := by decide
  have hhead : (rftestHeader ++ p.len).head? ≠ some '>' := by
    rw [hr, List.cons_append, List.head?_cons]
    decide
  have hdrop : (rftestHeader ++ p.len).dropWhile (· = ' ') = rftestHeader ++ p.len := by
    rw [hr, List.cons_append, List.dropWhile_cons_of_neg (by decide)]
  rw [p.decode_header, pktHeader, if_neg hhead, hdrop]
  simp only [List.prefix_append, if_true, List.drop_left, hword, p.len_ne, if_false]

def toDump : Dump U where
  header := p.header
  word := p.len
  length := hexNat p.len
  blanks := p.blanks
  rows := p.rows
  header_word := p.pktHeader_header U
  header_length := intBase16_hex p.len_hex p.len_ne
  blank := p.blank
  rows_ne := p.rows_ne
  total := p.total

end Printout

namespace Dump

variable {U : Unicode} {clock : ℕ → List Char}

instance (d : Dump U) : Decidable d.Wide :=
  inferInstanceAs (Decidable (∀ r ∈ d.rows, 2 ≤ r.bytes.length))

/-- What is written for a dump. -/
def written (d : Dump U) (now : List Char) : List Char :=
  pktLine now d.length (copied d.rows) ++ if d.Wide then ['\n'] else []

lemma written_of_wide {d : Dump U} (h : d.Wide) (now : List Char) :
    d.written now = pktLine now d.length d.bytes ++ ['\n'] := by
  rw [written, copied_of_wide h, if_pos h, bytes]

lemma written_of_not_wide {d : Dump U} (h : ¬ d.Wide) (now : List Char) :
    d.written now = pktLine now d.length (copied d.rows) := by
  rw [written, if_neg h, List.append_nil]

variable (clock) in
lemma writes_lines (d : Dump U) (w : Outfile) :
    ∃ n, Writes U none clock w d.lines 1 n (d.written (clock w.count)) := by
  by_cases h : d.Wide
  · rw [written_of_wide h]
    exact ⟨_, d.writes_wide clock w h rfl⟩
  · rw [written_of_not_wide h]
    exact ⟨_, d.writes_narrow clock w h rfl⟩

/-- What is written for dumps from header number `k` on. -/
def logText (clock : ℕ → List Char) : ℕ → List (Dump U) → List Char
  | _, [] => []
  | k, d :: ds => d.written (clock k) ++ logText clock (k + 1) ds

variable (clock) in
lemma writes_dumps (ds : List (Dump U)) (w : Outfile) :
    ∃ n, Writes U none clock w (ds.flatMap lines) ds.length n (logText clock w.count ds) := by
  induction ds generalizing w with
  | nil => exact ⟨_, .nil w⟩
  | cons d ds ih =>
    obtain ⟨n, w₁, hw₁, hc₁, -, ht₁⟩ := d.writes_lines clock w
    obtain ⟨m, w₂, hw₂, hc₂, hn₂, ht₂⟩ := ih w₁
    refine ⟨m, w₂, ?_, ?_, hn₂, ?_⟩
    · rw [List.flatMap_cons, generateOutfile_append, hw₁]
      exact hw₂
    · rw [hc₂, hc₁, List.length_cons]
      omega
    · rw [ht₂, ht₁, hc₁, logText, List.append_assoc]

lemma logText_append (k : ℕ) (ds es : List (Dump U)) :
    logText clock k (ds ++ es) = logText clock k ds ++ logText clock (k + ds.length) es := by
  induction ds generalizing k with
  | nil => rfl
  | cons d ds ih =>
    rw [List.cons_append, logText, logText, ih, List.append_assoc, List.length_cons,
      Nat.add_right_comm, Nat.add_assoc]

/-! ### Reading it back -/

section Read

variable (hclock : ∀ k, IsTime (clock k))
include hclock

lemma sendPkts_logText (k : ℕ) {ds : List (Dump U)} (h : ∀ d ∈ ds, d.Wide) :
    sendPkts U (logText clock k ds) = ds.map packet := by
  induction ds generalizing k with
  | nil => rfl
  | cons d ds ih =>
    have ih := ih (k + 1) fun e he => h e (List.mem_cons_of_mem _ he)
    rw [logText, written_of_wide (h d List.mem_cons_self), List.append_assoc,
      List.singleton_append, sendPkts_pktLine (hclock k) _ d.bytes_ne, d.take_packet, ih,
      List.map_cons]

lemma count_written (d : Dump U) (k : ℕ) :
    (d.written (clock k)).count '\n' = if d.Wide then 1 else 0 := by
  have hnl := fun bs => List.count_eq_zero.mpr (newline_notMem_pktLine (hclock k) d.length bs)
  rw [written, List.count_append, hnl]
  split <;> rfl

lemma count_logText (k : ℕ) (ds : List (Dump U)) :
    (logText clock k ds).count '\n' = ds.countP fun d => d.Wide := by
  induction ds generalizing k with
  | nil => rfl
  | cons d ds ih =>
    rw [logText, List.count_append, count_written hclock, ih, List.countP_cons, Nat.add_comm]
    simp

omit hclock in
lemma atLineStart_logText (k : ℕ) {ds : List (Dump U)} (h : ∀ d ∈ ds, d.Wide) :
    AtLineStart (logText clock k ds) := by
  rcases List.eq_nil_or_concat' ds with rfl | ⟨ds, d, rfl⟩
  · exact .inl rfl
  · right
    rw [logText_append, logText, logText, List.append_nil, written_of_wide (h d (by simp)),
      ← List.append_assoc, List.getLast?_concat]

lemma length_sendPkts_le (k : ℕ) (ds : List (Dump U)) :
    (sendPkts U (logText clock k ds)).length ≤
      (ds.countP fun d => d.Wide) + if AtLineStart (logText clock k ds) then 0 else 1 := by
  rw [← count_logText hclock k, ← length_fileLines]
  exact List.length_filterMap_le _ _

/-- If the file holds as many packets as there are dumps, only the last dump can have lost
bytes, and then its line is too short. -/
lemma sendPkts_logText_iff (k : ℕ) (ds : List (Dump U)) :
    sendPkts U (logText clock k ds) = ds.map packet ↔ ∀ d ∈ ds, d.Wide := by
  refine ⟨fun h => ?_, sendPkts_logText hclock k⟩
  have hlen := length_sendPkts_le hclock k ds
  rw [h, List.length_map] at hlen
  rcases List.eq_nil_or_concat' ds with rfl | ⟨ds, d, rfl⟩
  · exact fun d hd => absurd hd List.not_mem_nil
  · by_cases hd : d.Wide
    · have hstart : AtLineStart (logText clock k (ds ++ [d])) := by
        right
        rw [logText_append, logText, logText, List.append_nil, written_of_wide hd,
          ← List.append_assoc, List.getLast?_concat]
      rw [if_pos hstart] at hlen
      have hall := List.countP_eq_length.mp (le_antisymm List.countP_le_length hlen)
      exact fun e he => of_decide_eq_true (hall e he)
    · have hcount : (ds ++ [d]).countP (fun d => d.Wide) = ds.countP fun d => d.Wide := by
        simp [hd]
      have hle : (if AtLineStart (logText clock k (ds ++ [d])) then 0 else 1) ≤ 1 := by
        split <;> omega
      rw [hcount, List.length_append, List.length_singleton] at hlen
      have hall := List.countP_eq_length.mp
        (le_antisymm List.countP_le_length (show ds.length ≤ ds.countP fun d => d.Wide by omega))
      have hwide : ∀ e ∈ ds, e.Wide := fun e he => of_decide_eq_true (hall e he)
      rw [logText_append, sendPkts_append (atLineStart_logText k hwide),
        sendPkts_logText hclock k hwide, List.map_append, List.append_cancel_left_eq, logText,
        logText, List.append_nil, written_of_not_wide hd, sendPkts_unfinished (hclock _)] at h
      have hlt := d.copied_lt hd
      have hpacket : d.packet.length = d.length := by
        rw [packet, List.length_map, d.length_eq]
      by_cases hnil : copied d.rows = []
      · rw [if_pos hnil] at h
        cases h
      · rw [if_neg hnil] at h
        have htake := congrArg List.length (List.singleton_inj.mp h)
        rw [List.length_take, List.length_map, hpacket] at htake
        omega

end Read

end Dump

lemma roundTrip_iff_logText (U : Unicode) (clock : ℕ → List Char) (ps : List Printout) :
    RoundTrip U clock ps ↔ sendPkts U (Dump.logText clock 0 (ps.map (Printout.toDump U))) =
      (ps.map (Printout.toDump U)).map Dump.packet := by
  have hlines : ps.flatMap Printout.lines = (ps.map (Printout.toDump U)).flatMap Dump.lines := by
    rw [List.flatMap_map]
    rfl
  have hpackets : (ps.map (Printout.toDump U)).map Dump.packet = ps.map Printout.packet := by
    rw [List.map_map]
    rfl
  obtain ⟨-, w, hw, -, -, ht⟩ :=
    Dump.writes_dumps clock (ps.map (Printout.toDump U)) Outfile.init
  rw [RoundTrip, hlines, hpackets]
  constructor
  · rintro ⟨w', hw', h⟩
    obtain rfl := Option.some.inj (hw.symm.trans hw')
    rwa [ht] at h
  · intro h
    exact ⟨w, hw, by rwa [ht]⟩

/-- The capture log gives back the packets exactly if every data line has two bytes or more. -/
theorem captureLog_roundTrip_iff (U : Unicode) (clock : ℕ → List Char)
    (hclock : ∀ k, IsTime (clock k)) (ps : List Printout) :
    RoundTrip U clock ps ↔ ∀ p ∈ ps, ∀ r ∈ p.rows, 2 ≤ r.bytes.length := by
  rw [roundTrip_iff_logText, Dump.sendPkts_logText_iff hclock]
  simp only [List.forall_mem_map]
  rfl

def asciiOnly : Unicode := ⟨fun _ => false, fun _ => none⟩

def sampleClock (_ : ℕ) : List Char := ['1', '2', '3', '4', '5', '.', '6', '7', '8', '9']

lemma isTime_sampleClock (k : ℕ) : IsTime (sampleClock k) :=
  ⟨['1', '2', '3', '4', '5'], ['6', '7', '8', '9'], by decide, by decide,
    List.all_eq_true.mp rfl, List.all_eq_true.mp rfl, rfl⟩

def digitBytes (los : List {c : Char // (hexValue c).isSome}) : List HexByte :=
  los.map fun lo => ⟨'0', lo.1, rfl, lo.2⟩

def rowOneTwo : Row where
  bytes := digitBytes [⟨'1', rfl⟩, ⟨'2', rfl⟩]
  eol := [13, 10]
  nonempty := List.cons_ne_nil _ _
  eol_space := List.all_eq_true.mp rfl

def rowThree : Row where
  bytes := digitBytes [⟨'3', rfl⟩]
  eol := [13, 10]
  nonempty := List.cons_ne_nil _ _
  eol_space := List.all_eq_true.mp rfl

def twoBytes : Printout where
  len := ['0', '2']
  eol := [13, 10]
  blanks := [[13, 10]]
  rows := [rowOneTwo]
  len_ne := by decide
  len_hex := List.all_eq_true.mp rfl
  eol_space := List.all_eq_true.mp rfl
  blank := List.forall_mem_singleton.mpr (List.all_eq_true.mp rfl)
  rows_ne := List.cons_ne_nil _ _
  total := by decide

/-- Three bytes, the last one on a line of its own. -/
def threeBytes : Printout where
  len := ['0', '3']
  eol := [13, 10]
  blanks := [[13, 10]]
  rows := [rowOneTwo, rowThree]
  len_ne := by decide
  len_hex := List.all_eq_true.mp rfl
  eol_space := List.all_eq_true.mp rfl
  blank := List.forall_mem_singleton.mpr (List.all_eq_true.mp rfl)
  rows_ne := List.cons_ne_nil _ _
  total := by decide

theorem captureLog_roundTrip_twoBytes : RoundTrip asciiOnly sampleClock [twoBytes, twoBytes] :=
  (captureLog_roundTrip_iff asciiOnly sampleClock isTime_sampleClock _).mpr (by decide)

/-- After the packet with the short last line neither it nor the next packet is read back. -/
theorem captureLog_shortLine_lost : ¬ ∀ U clock, (∀ k, IsTime (clock k)) → ∀ ps,
    RoundTrip U clock ps := by
  intro h
  obtain ⟨w, hw, hread⟩ := h asciiOnly sampleClock isTime_sampleClock [threeBytes, twoBytes]
  have hfile : (generateOutfile asciiOnly none sampleClock .init
      ([threeBytes, twoBytes].flatMap Printout.lines)).map (fun w => sendPkts asciiOnly w.text) =
      some [] := by decide +kernel
  rw [hw, Option.map_some, hread] at hfile
  cases hfile

end RiotPlayground
