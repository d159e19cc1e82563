import RiotPlayground.Lib.TransitionSystem
import RiotPlayground.Websniffer.CaptureLog

/-!
# Following the capture file while it is written

The sniffer thread writes the file line by line of its serial input, and `send_pkts` reads it
at the same time. The reader asks for the next line and gets what the file holds of it.
-/

namespace RiotPlayground

open PyText

/-- The writer's side of the file, the reader's position in it, and the packets the reader has
parsed so far. -/
structure Follow where
  file : Outfile
  pos : ℕ
  delivered : List (List UInt8)

namespace Follow

def init : Follow := ⟨.init, 0, []⟩

def unread (s : Follow) : List Char := s.file.flushed.drop s.pos

/-- A line arrives on the serial port, or the reader asks for a line. -/
inductive Event
  | serial (raw : List UInt8)
  | read
  deriving DecidableEq

variable (U : Unicode) (maxDigits : Option ℕ) (clock : ℕ → List Char)

/-- Up to the next newline or, without one, all there is. -/
def read (s : Follow) : Follow :=
  match fileLines s.unread with
  | [] => s
  | line :: _ =>
    { s with
      pos := s.pos + line.length
      delivered := s.delivered ++ (parsePktLine U line).toList }

def step (s : Follow) : Event → Option Follow
  | .serial raw => (generateLine U maxDigits clock s.file raw).map fun w => { s with file := w }
  | .read => some (s.read U)

def system : TransitionSystem Follow Event := ⟨step U maxDigits clock⟩

/-- The packets of the finished lines of the file. -/
def packetLines (text : List Char) : List (List UInt8) :=
  ((fileLines text).filter fun line => line.getLast? = some '\n').filterMap (parsePktLine U)

/-- The packets parsed are the first of those written. -/
def Faithful (s : Follow) : Prop := s.delivered <+: packetLines U s.file.text

/-- The reader only reads when the file holds a whole line after its position, or nothing. -/
def WholeLine (s : Follow) (e : Event) : Prop :=
  e = .read → s.unread = [] ∨ '\n' ∈ s.unread

instance (s : Follow) : DecidablePred s.WholeLine := fun _ => inferInstanceAs (Decidable (_ → _))

def halfPacket : List Event :=
  [.serial (encode (rftestHeader ++ ['0', '4'])), .serial (encode ['0', '1', ' ', '0', '2']), .read]

/-- The reader takes the half of a packet for the packet. -/
theorem halfPacket_delivered : ¬ ∀ U maxDigits clock, (∀ k, IsTime (clock k)) →
    ∀ es s, (system U maxDigits clock).run init es = some s → Faithful U s := by
  intro h
  have hrun : ((system asciiOnly none sampleClock).run init halfPacket).map
      (fun s => (s.delivered, packetLines asciiOnly s.file.text)) = some ([[1, 2]], []) := by
    decide +kernel
  obtain ⟨s, hs, hpair⟩ := Option.map_eq_some_iff.mp hrun
  have hprefix := h asciiOnly none sampleClock isTime_sampleClock _ s hs
  unfold Faithful at hprefix
  rw [(Prod.mk.inj hpair).1, (Prod.mk.inj hpair).2] at hprefix
  simp at hprefix

variable {U maxDigits clock}

/-- The reader stands at the start of a line and has parsed all before it. -/
structure InStep (U : Unicode) (s : Follow) : Prop where
  pos_le : s.pos ≤ s.file.flushed.length
  start : AtLineStart (s.file.flushed.take s.pos)
  delivered : s.delivered = sendPkts U (s.file.flushed.take s.pos)

lemma inStep_init : InStep U init := ⟨le_rfl, .inl rfl, rfl⟩

lemma InStep.grow {s : Follow} {w : Outfile} (h : InStep U s)
    (hgrows : s.file.flushed <+: w.flushed) : InStep U { s with file := w } := by
  obtain ⟨rest, hrest⟩ := hgrows
  have htake : w.flushed.take s.pos = s.file.flushed.take s.pos := by
    rw [← hrest, List.take_append_of_le_length h.pos_le]
  refine ⟨?_, ?_, ?_⟩
  · have := h.pos_le
    rw [← hrest, List.length_append]
    exact Nat.le_add_right_of_le this
  · simpa only [htake] using h.start
  · simpa only [htake] using h.delivered

lemma inStep_line {s : Follow} (h : InStep U s) {line rest : List Char}
    (hunread : s.unread = (line ++ ['\n']) ++ rest) (hline : '\n' ∉ line) : InStep U
      { s with
        pos := s.pos + (line ++ ['\n']).length
        delivered := s.delivered ++ (parsePktLine U (line ++ ['\n'])).toList } := by
  have htake : s.file.flushed.take (s.pos + (line ++ ['\n']).length) =
      s.file.flushed.take s.pos ++ (line ++ ['\n']) := by
    rw [List.take_add, ← unread, hunread, List.take_left]
  have hsend : sendPkts U (line ++ ['\n']) = (parsePktLine U (line ++ ['\n'])).toList := by
    rw [sendPkts, fileLines_append_newline hline, fileLines, List.filterMap_cons]
    cases parsePktLine U (line ++ ['\n']) <;> rfl
  refine ⟨?_, ?_, ?_⟩
  · have hlen := congrArg List.length hunread
    have := h.pos_le
    simp only [unread, List.length_drop, List.length_append] at hlen ⊢
    omega
  · right
    rw [htake, ← List.append_assoc, List.getLast?_concat]
  · rw [htake, sendPkts_append h.start, hsend, ← h.delivered]

lemma inStep_read {s : Follow} (h : InStep U s) (hC : WholeLine s .read) :
    InStep U (s.read U) := by
  rcases hC rfl with hnil | hmem
  · rw [read, hnil]
    exact h
  · obtain ⟨line, rest, htext, hline⟩ := List.eq_append_cons_of_mem hmem
    rw [read, htext, fileLines_append_newline hline]
    exact inStep_line h (by rw [htext, List.append_cons]) hline

lemma inStep_step {s s' : Follow} {e : Event} (h : InStep U s) (hC : WholeLine s e)
    (hs : step U maxDigits clock s e = some s') : InStep U s' := by
  cases e with
  | serial raw =>
    obtain ⟨w, hw, rfl⟩ := Option.map_eq_some_iff.mp hs
    exact h.grow (generateLine_grows hw).2
  | read =>
    obtain rfl := Option.some.inj hs
    exact inStep_read h hC

lemma InStep.faithful {s : Follow} (h : InStep U s) : Faithful U s := by
  have htext : s.file.text = s.file.flushed.take s.pos ++ (s.unread ++ s.file.buffer) := by
    rw [unread, ← List.append_assoc, List.take_append_drop]
    rfl
  have hlines : (fileLines (s.file.flushed.take s.pos)).filter
      (fun line => line.getLast? = some '\n') = fileLines (s.file.flushed.take s.pos) :=
    List.filter_eq_self.mpr fun l hl => decide_eq_true (getLast?_of_mem_fileLines h.start l hl)
  rw [Faithful, packetLines, htext, fileLines_append h.start, List.filter_append, hlines,
    List.filterMap_append, h.delivered, sendPkts]
  exact List.prefix_append _ _

/-- Nothing is lost or truncated in runs where the reader only reads whole lines. -/
theorem faithful_of_wholeLine {es : List Event} {s : Follow}
    (hC : (system U maxDigits clock).Meets WholeLine init es)
    (hrun : (system U maxDigits clock).run init es = some s) : Faithful U s := by
  have h : InStep U s := (TransitionSystem.reach_of_run hC hrun).invariant inStep_init
    fun _ _ _ h hC hs => inStep_step h hC hs
  exact h.faithful

/-- The reader asks before and after the packet is written. -/
def wholePacket : List Event :=
  [.read, .serial (encode (rftestHeader ++ ['0', '2'])), .serial (encode ['0', '1', ' ', '0', '2']),
    .read]

theorem faithful_wholePacket : ∃ s, (system asciiOnly none sampleClock).run init wholePacket =
    some s ∧ s.delivered = [[1, 2]] ∧ Faithful asciiOnly s := by
  have hrun : ((system asciiOnly none sampleClock).run init wholePacket).map Follow.delivered =
      some [[1, 2]] := by decide +kernel
  obtain ⟨s, hs, hdelivered⟩ := Option.map_eq_some_iff.mp hrun
  exact ⟨s, hs, hdelivered, faithful_of_wholeLine (by decide +kernel) hs⟩

end Follow

end RiotPlayground
