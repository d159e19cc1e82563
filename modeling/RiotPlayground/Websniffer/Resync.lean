import Mathlib.Data.List.DropRight
import RiotPlayground.Websniffer.CaptureLog

/-!
# Resynchronisation after damage

Intact dumps mixed with arbitrary other lines. Each intact dump gets a line of its own in the
capture file exactly if every length that is announced can be read and printed, and no dump comes
after a header whose bytes are still missing.
-/

namespace RiotPlayground

open PyText

/-- A piece of the serial output: an intact dump, or any line. -/
inductive Segment (U : Unicode)
  | dump (d : Dump U) (wide : d.Wide)
  | noise (raw : List UInt8)

namespace Segment

def lines {U : Unicode} : Segment U → List (List UInt8)
  | dump d _ => d.lines
  | noise raw => [raw]

end Segment

section

variable (U : Unicode) (maxDigits : Option ℕ) (clock : ℕ → List Char)

/-- No line raises, and each intact dump starts a line of the file, which holds it and nothing
else, and is read back from it. -/
def Resynchronises (stream : List (Segment U)) : Prop :=
  ∃ w, generateOutfile U maxDigits clock .init (stream.flatMap Segment.lines) = some w ∧
    ∀ before d wide later, stream = before ++ .dump d wide :: later → ∃ w₀ rest,
      generateOutfile U maxDigits clock .init (before.flatMap Segment.lines) = some w₀ ∧
      AtLineStart w₀.text ∧ w.text = w₀.text ++ (d.entry (clock w₀.count) ++ '\n' :: rest) ∧
      sendPkts U w.text = sendPkts U w₀.text ++ d.packet :: sendPkts U rest

/-- `int` does not take the length, or the f-string does not print it. -/
def Unprintable (word : List Char) : Prop :=
  intBase16 U word = none ∨
    ∃ n ∈ intBase16 U word, tooManyDigits maxDigits (Nat.toDigits 10 n)

/-- The line is a header whose length raises. -/
def Refused (raw : List UInt8) : Prop :=
  ∃ word ∈ pktHeader U (decode (rstrip raw)), Unprintable U maxDigits word

/-- The length a header announces. -/
def announcedBy (raw : List UInt8) : Option ℕ :=
  (pktHeader U (decode (rstrip raw))).bind (intBase16 U)

/-- The length the last header announces. -/
def announced (lines : List (List UInt8)) : Option ℕ :=
  (lines.filterMap (announcedBy U)).getLast?

def printedBy (raw : List UInt8) : List (List Char) :=
  if pktData U (decode (rstrip raw)) then dataBytes U (decode (rstrip raw)) else []

/-- The number of bytes in the data lines after the last header. -/
def printed (lines : List (List UInt8)) : ℕ :=
  ((lines.rtakeWhile fun raw => (announcedBy U raw).isNone).flatMap (printedBy U)).length

/-- The last header, if there is one, was followed by a byte at least and by as many as it
announced. -/
def Finished (lines : List (List UInt8)) : Prop :=
  ∀ n ∈ announced U lines, max 1 n ≤ printed U lines

end

section Countdown

variable {U : Unicode} {maxDigits : Option ℕ} {clock : ℕ → List Char}

instance (word : List Char) : Decidable (Unprintable U maxDigits word) :=
  inferInstanceAs (Decidable (_ ∨ _))

instance (raw : List UInt8) : Decidable (Refused U maxDigits raw) :=
  inferInstanceAs (Decidable (∃ word ∈ pktHeader U (decode (rstrip raw)),
    Unprintable U maxDigits word))

instance (lines : List (List UInt8)) : Decidable (Finished U lines) :=
  inferInstanceAs (Decidable (∀ n ∈ announced U lines, max 1 n ≤ printed U lines))

lemma atLineStart_append {t : List Char} (hne : t ≠ []) (s : List Char) :
    AtLineStart (s ++ t) ↔ t.getLast? = some '\n' := by
  simp [AtLineStart, hne]

lemma account_header {raw : List UInt8} {n : ℕ} (h : announcedBy U raw = some n)
    (lines : List (List UInt8)) :
    announced U (lines ++ [raw]) = some n ∧ printed U (lines ++ [raw]) = 0 := by
  constructor
  · rw [announced, List.filterMap_append, List.filterMap_cons_some h, List.filterMap_nil,
      List.getLast?_concat]
  · rw [printed, List.rtakeWhile_concat_neg _ _ _ (by simp [h])]
    rfl

lemma account_other {raw : List UInt8} (h : announcedBy U raw = none)
    (lines : List (List UInt8)) :
    announced U (lines ++ [raw]) = announced U lines ∧
      printed U (lines ++ [raw]) = printed U lines + (printedBy U raw).length := by
  constructor
  · rw [announced, List.filterMap_append, List.filterMap_cons_none h, List.filterMap_nil,
      List.append_nil]
    rfl
  · rw [printed, List.rtakeWhile_concat_pos _ _ _ (by simp [h]), List.flatMap_append,
      List.length_append, List.flatMap_singleton]
    rfl

lemma dataBytes_flatten {line : List Char} (h : pktData U line = true) :
    (dataBytes U line).flatten ≠ [] ∧ (dataBytes U line).flatten.getLast? ≠ some '\n' := by
  have hmem : ∀ part ∈ dataBytes U line, ∃ a b, part = [a, b] ∧ isWord U b := by
    intro part hpart
    obtain ⟨p, -, hp⟩ := List.mem_filterMap.mp hpart
    unfold partByte at hp
    split at hp
    · split at hp
      · rename_i hw
        obtain rfl := Option.some.inj hp
        exact ⟨_, _, rfl, (Bool.and_eq_true _ _ ▸ hw).2⟩
      · cases hp
    · cases hp
  obtain ⟨parts, part, hparts⟩ := (List.eq_nil_or_concat' _).resolve_left (dataBytes_ne_nil h)
  obtain ⟨a, b, rfl, hb⟩ := hmem part (by simp [hparts])
  have hnl : b ≠ '\n' := by
    rintro rfl
    cases hb
  rw [hparts]
  simp [hnl]

/-- What the state of the writer says about the lines it has read. -/
structure Tracks (U : Unicode) (w : Outfile) (lines : List (List UInt8)) : Prop where
  start : AtLineStart w.text ↔ Finished U lines
  length : w.length =
    if Finished U lines then 0 else ((announced U lines).getD 0 : ℤ) - printed U lines

section Step

variable (clock) {w : Outfile} {lines : List (List UInt8)} {raw : List UInt8}

lemma finished_header {n : ℕ} (h : announcedBy U raw = some n) : ¬ Finished U (lines ++ [raw]) := by
  obtain ⟨ha, hp⟩ := account_header h lines
  intro hf
  have := hf n ha
  omega

lemma exists_announced (h : ¬ Finished U lines) :
    ∃ n, announced U lines = some n ∧ printed U lines < max 1 n := by
  simp only [Finished, not_forall, not_le] at h
  obtain ⟨n, hn, hlt⟩ := h
  exact ⟨n, hn, hlt⟩

lemma tracks_header {word : List Char} {n : ℕ}
    (hh : pktHeader U (decode (rstrip raw)) = some word) (hn : intBase16 U word = some n)
    (hfit : tooManyDigits maxDigits (Nat.toDigits 10 n) = false) :
    ∃ w', generateOutfile U maxDigits clock w [raw] = some w' ∧ Tracks U w' (lines ++ [raw]) := by
  have hby : announcedBy U raw = some n := by rw [announcedBy, hh, Option.bind_some, hn]
  have hfin : ¬ Finished U (lines ++ [raw]) := finished_header hby
  obtain ⟨ha, hp⟩ := account_header hby lines
  obtain ⟨w', hw', -, hlen, htext⟩ := writes_header clock w hh hn hfit
  refine ⟨w', hw', ?_, ?_⟩
  · rw [htext, ← List.append_assoc, atLineStart_append (List.cons_ne_nil _ _)]
    simp [hfin]
  · rw [hlen, if_neg hfin, ha, hp]
    simp

/-- A data line ends the file's line exactly if it prints the last of the announced bytes. -/
lemma tracks_data (ht : Tracks U w lines) (hh : pktHeader U (decode (rstrip raw)) = none)
    (hd : pktData U (decode (rstrip raw)) = true) :
    ∃ w', generateOutfile U maxDigits clock w [raw] = some w' ∧ Tracks U w' (lines ++ [raw]) := by
  obtain ⟨ha, hp⟩ := account_other (by rw [announcedBy, hh]; rfl) lines
  rw [printedBy, if_pos hd] at hp
  have hpos := List.length_pos_iff.mpr (dataBytes_ne_nil hd)
  obtain ⟨hne, hlast⟩ := dataBytes_flatten hd
  have hlen := ht.length
  by_cases hle : w.length ≤ (dataBytes U (decode (rstrip raw))).length
  · have hfin : Finished U (lines ++ [raw]) := by
      intro n hn
      rw [ha] at hn
      by_cases hf : Finished U lines
      · have := hf n hn
        omega
      · rw [if_neg hf, hn, Option.getD_some] at hlen
        omega
    obtain ⟨w', hw', -, hlen', htext⟩ := writes_data_last clock w hh hd hle
    refine ⟨w', hw', ?_, ?_⟩
    · rw [htext, ← List.append_assoc, atLineStart_append (List.cons_ne_nil _ _)]
      simp [hfin]
    · rw [hlen', if_pos hfin]
  · have hf : ¬ Finished U lines := by
      intro hf
      rw [if_pos hf] at hlen
      omega
    obtain ⟨n, hn, hlt⟩ := exists_announced hf
    rw [if_neg hf, hn, Option.getD_some] at hlen
    have hfin : ¬ Finished U (lines ++ [raw]) := by
      intro hfin
      have := hfin n (ha.trans hn)
      omega
    obtain ⟨w', hw', -, hlen', htext⟩ := writes_data clock w hh hd (by omega)
    refine ⟨w', hw', ?_, ?_⟩
    · rw [htext, atLineStart_append hne]
      simp [hfin, hlast]
    · rw [hlen', if_neg hfin, ha, hn, Option.getD_some]
      omega

lemma tracks_other (ht : Tracks U w lines) (hh : pktHeader U (decode (rstrip raw)) = none)
    (hd : pktData U (decode (rstrip raw)) = false) :
    ∃ w', generateOutfile U maxDigits clock w [raw] = some w' ∧ Tracks U w' (lines ++ [raw]) := by
  obtain ⟨ha, hp⟩ := account_other (by rw [announcedBy, hh]; rfl) lines
  rw [printedBy, hd, if_neg Bool.false_ne_true, List.length_nil, Nat.add_zero] at hp
  have hfin : Finished U (lines ++ [raw]) ↔ Finished U lines := by
    rw [Finished, Finished, ha, hp]
  obtain ⟨w', hw', -, hlen, htext⟩ := writes_other clock w hh hd
  refine ⟨w', hw', ?_, ?_⟩
  · rw [htext, List.append_nil, hfin, ht.start]
  · simp only [hlen, hfin, ha, hp, ht.length]

lemma tracks_step (ht : Tracks U w lines) (hraw : ¬ Refused U maxDigits raw) :
    ∃ w', generateOutfile U maxDigits clock w [raw] = some w' ∧ Tracks U w' (lines ++ [raw]) := by
  cases hh : pktHeader U (decode (rstrip raw)) with
  | some word =>
    obtain ⟨n, hn⟩ : ∃ n, intBase16 U word = some n :=
      Option.ne_none_iff_exists'.mp fun hnone => hraw ⟨word, hh, .inl hnone⟩
    have hfit : tooManyDigits maxDigits (Nat.toDigits 10 n) = false :=
      eq_false_of_ne_true fun hmany => hraw ⟨word, hh, .inr ⟨n, hn, hmany⟩⟩
    exact tracks_header clock hh hn hfit
  | none =>
    cases hd : pktData U (decode (rstrip raw)) with
    | true => exact tracks_data clock ht hh hd
    | false => exact tracks_other clock ht hh hd

end Step

lemma finished_nil : Finished U [] := fun _ hn => by cases hn

lemma tracks_init : Tracks U .init [] :=
  ⟨iff_of_true (.inl rfl) finished_nil, (if_pos finished_nil).symm⟩

variable (clock) in
lemma tracks_run {lines : List (List UInt8)} (h : ∀ raw ∈ lines, ¬ Refused U maxDigits raw) :
    ∃ w, generateOutfile U maxDigits clock .init lines = some w ∧ Tracks U w lines := by
  induction lines using List.reverseRecOn with
  | nil => exact ⟨_, rfl, tracks_init⟩
  | append_singleton lines raw ih =>
    obtain ⟨w, hw, ht⟩ := ih fun r hr => h r (List.mem_append_left _ hr)
    obtain ⟨w', hw', ht'⟩ := tracks_step clock ht (h raw (by simp))
    refine ⟨w', ?_, ht'⟩
    rw [generateOutfile_append, hw]
    exact hw'

lemma not_refused_of_some {w w' : Outfile} {lines : List (List UInt8)}
    (h : generateOutfile U maxDigits clock w lines = some w') :
    ∀ raw ∈ lines, ¬ Refused U maxDigits raw := by
  induction lines generalizing w with
  | nil => exact fun raw hraw => absurd hraw List.not_mem_nil
  | cons raw lines ih =>
    rw [generateOutfile] at h
    obtain ⟨w₁, hw₁, hrest⟩ := Option.bind_eq_some_iff.mp h
    intro r hr
    rcases List.mem_cons.mp hr with rfl | hr
    · rintro ⟨word, hh, hnone | ⟨n, hn, hmany⟩⟩
      · simp [generateLine, Option.mem_def.mp hh, hnone] at hw₁
      · simp [generateLine, Option.mem_def.mp hh, Option.mem_def.mp hn, hmany] at hw₁
    · exact ih hrest r hr

lemma Dump.printable (d : Dump U) (h : ¬ Refused U maxDigits d.header) :
    tooManyDigits maxDigits (Nat.toDigits 10 d.length) = false := by
  rw [← Bool.not_eq_true]
  exact fun hmany => h ⟨d.word, d.header_word, .inr ⟨d.length, d.header_length, hmany⟩⟩

/-- Every intact dump gets its own line and no line raises, exactly if every header's length
can be read and printed and no intact dump follows a header whose bytes have not all been
printed. -/
theorem resynchronises_iff (hclock : ∀ k, IsTime (clock k)) (stream : List (Segment U)) :
    Resynchronises U maxDigits clock stream ↔
      (∀ raw ∈ stream.flatMap Segment.lines, ¬ Refused U maxDigits raw) ∧
      ∀ before d wide later, stream = before ++ .dump d wide :: later →
        Finished U (before.flatMap Segment.lines) := by
  constructor
  · rintro ⟨w, hw, hdumps⟩
    refine ⟨not_refused_of_some hw, fun before d wide later hstream => ?_⟩
    obtain ⟨w₀, rest, hw₀, hstart, -⟩ := hdumps before d wide later hstream
    obtain ⟨w₀', hw₀', ht⟩ := tracks_run clock (not_refused_of_some hw₀)
    obtain rfl := Option.some.inj (hw₀.symm.trans hw₀')
    exact ht.start.mp hstart
  · rintro ⟨haccept, hfinished⟩
    obtain ⟨w, hw, -⟩ := tracks_run clock haccept
    refine ⟨w, hw, ?_⟩
    rintro before d wide later rfl
    rw [List.flatMap_append, List.flatMap_cons, generateOutfile_append] at hw
    obtain ⟨w₀, hw₀, hw₁⟩ := Option.bind_eq_some_iff.mp hw
    rw [generateOutfile_append] at hw₁
    obtain ⟨w₁, hdump, hrest⟩ := Option.bind_eq_some_iff.mp hw₁
    obtain ⟨w₀', hw₀', ht⟩ := tracks_run clock (not_refused_of_some hw₀)
    obtain rfl := Option.some.inj (hw₀.symm.trans hw₀')
    have hstart := ht.start.mpr (hfinished before d wide later rfl)
    have hfit := d.printable (haccept d.header (by simp [Segment.lines, Dump.lines]))
    obtain ⟨w₁', hdump', -, -, htext⟩ := d.writes_wide clock w₀ wide hfit
    obtain rfl := Option.some.inj (hdump.symm.trans hdump')
    obtain ⟨rest, hrest⟩ := generateOutfile_grows hrest
    have hall : w.text = w₀.text ++ (d.entry (clock w₀.count) ++ '\n' :: rest) := by
      rw [← hrest, htext]
      simp
    refine ⟨w₀, rest, hw₀, hstart, hall, ?_⟩
    rw [hall, sendPkts_append hstart, Dump.entry, sendPkts_pktLine (hclock _) _ d.bytes_ne,
      d.take_packet]

end Countdown

def serialLine (cs : List Char) : List UInt8 := encode cs ++ [13, 10]

def intact : Segment asciiOnly := .dump (twoBytes.toDump asciiOnly) (by decide)

theorem resynchronises_shellLine :
    Resynchronises asciiOnly none sampleClock [intact, .noise (serialLine ['>']), intact] := by
  refine (resynchronises_iff isTime_sampleClock _).mpr ⟨by decide +kernel, ?_⟩
  intro before d wide later hstream
  rcases before with _ | ⟨s₁, _ | ⟨s₂, _ | ⟨s₃, before⟩⟩⟩
  · exact finished_nil
  · cases hstream
  · obtain ⟨rfl, rfl, -⟩ : intact = s₁ ∧ Segment.noise (serialLine ['>']) = s₂ ∧
        [intact] = .dump d wide :: later := by simpa using hstream
    decide +kernel
  · simp at hstream

/-- The header of a packet of four bytes and its first two, before an intact dump. -/
def cutShort : List (Segment asciiOnly) :=
  [.noise (serialLine (rftestHeader ++ ['0', '4'])), .noise (serialLine ['0', '1', ' ', '0', '2']),
    intact]

/-- An intact dump after an unfinished one is not read back. -/
theorem cutShort_not_resynchronises :
    ¬ ∀ U maxDigits clock, (∀ k, IsTime (clock k)) →
      ∀ stream, Resynchronises U maxDigits clock stream := by
  intro h
  obtain ⟨w, hw, hdumps⟩ := h asciiOnly none sampleClock isTime_sampleClock cutShort
  obtain ⟨w₀, rest, -, -, -, hread⟩ := hdumps [_, _] (twoBytes.toDump asciiOnly) (by decide) [] rfl
  have hfile : (generateOutfile asciiOnly none sampleClock .init
      (cutShort.flatMap Segment.lines)).map (fun w => sendPkts asciiOnly w.text) = some [] := by
    decide +kernel
  rw [hw, Option.map_some, hread] at hfile
  simp at hfile

end RiotPlayground
