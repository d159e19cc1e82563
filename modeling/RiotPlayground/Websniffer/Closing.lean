import RiotPlayground.Websniffer.PktDict
import RiotPlayground.Websniffer.Sixlowpan
import RiotPlayground.Websniffer.Sniffer

/-!
# Closing a websocket of the sniffer

The task `send_pkts` of a `PktWebsocket` awaits one line of the capture file after the other. While
it waits the connection may end: `on_close` drops the reassembly buffer at once and leaves closing
the file to the task `close_pktfile`.
-/

namespace RiotPlayground

open PyText

/-- What `send_pkts` uses of Python and of scapy. A frame's `mac` is the whole packet here. -/
structure SniffEnv (IPv6 : Type) extends SendEnv where
  unicode : Unicode
  float : List Char → UInt64
  scapy : Scapy Packet Packet IPv6
  dot15d4 : List UInt8 → Frame Packet

abbrev ReassemblyBuffer := SixlowpanReassembly Packet (List Char)

/-- What a pass of the `async for` loop leaves: the buffer, what was sent, and an exception. -/
structure Outcome where
  rb : Option ReassemblyBuffer
  sent : List (List Char)
  exc : Option SendError

namespace SniffEnv

variable {IPv6 : Type} (E : SniffEnv IPv6)

/-- A packet that was not sent is added to the buffer, and what comes out of it is sent. -/
def addPkt (rb : ReassemblyBuffer) (closed : Bool) (time : List Char) (pkg : Frame Packet) :
    Outcome :=
  match rb.add E.scapy time pkg with
  | (rb, some src, some tag, some res) =>
    match rb.getitem src tag with
    | some fragments =>
      match E.trySend .unlimited closed (E.float time) res
          (some (fragments.map fun f => (f.1, f.2.mac))) with
      | .ok text => ⟨some (rb.remove src tag), text.toList, none⟩
      | .error exc => ⟨some rb, [], some exc⟩
    | none => ⟨some rb, [], some .keyError⟩
  | (rb, _) => ⟨some rb, [], none⟩

def handlePkt (rb : Option ReassemblyBuffer) (closed : Bool) (time : List Char)
    (pkg : Frame Packet) : Outcome :=
  match E.trySend .unlimited closed (E.float time) pkg.mac none with
  | .ok (some text) => ⟨rb, [text], none⟩
  | .ok none =>
    match rb with
    | some rb => E.addPkt rb closed time pkg
    | none => ⟨none, [], some .attributeError⟩
  | .error exc => ⟨rb, [], some exc⟩

/-- The packet of a line, whose length and data are given. -/
def linePkt (length : List Char) (bytes : List UInt8) : Frame Packet :=
  E.dot15d4 (bytes.take (intBase10 E.unicode length))

/-- The body of the `async for` loop. -/
def handleLine (rb : Option ReassemblyBuffer) (closed : Bool) (line : List Char) : Outcome :=
  match matchPktLine E.unicode line with
  | some (time, length, data) =>
    match fromHex data with
    | some bytes => E.handlePkt rb closed time (E.linePkt length bytes)
    | none => ⟨rb, [], some .valueError⟩
  | none => ⟨rb, [], none⟩

end SniffEnv

/-- What the task `send_pkts` does: it has not run yet, it awaits a line (asked for when the file
was already closed or not), it has ended or died of an exception. -/
inductive ReaderTask
  | created
  | reading (onClosed : Bool)
  | ended
  | died (exc : SendError)
deriving DecidableEq

namespace ReaderTask

def isOver : ReaderTask → Bool
  | .created | .reading _ => false
  | .ended | .died _ => true

/-- How many more steps the task makes at most once `pktfile` is `None`. -/
def left : ReaderTask → ℕ
  | .created => 1
  | .reading false => 2
  | .reading true => 1
  | .ended | .died _ => 0

lemma isOver_of_left {r : ReaderTask} (h : r.left = 0) : r.isOver := by
  cases r with
  | created => cases h
  | reading onClosed => cases onClosed <;> cases h
  | ended => rfl
  | died exc => rfl

lemma left_le (r : ReaderTask) : r.left ≤ 2 := by
  cases r with
  | reading onClosed => cases onClosed <;> simp [left]
  | _ => simp [left]

end ReaderTask

/-- The task `close_pktfile`. -/
inductive CloseTask
  | none
  | created
  | closing
  | done
deriving DecidableEq

/-- A `PktWebsocket` from the end of `open` on. `pktfile` says whether the attribute is set and
`fileClosed` whether the file itself is closed. -/
structure PktWebsocket where
  pktfile : Bool
  fileClosed : Bool
  rb : Option ReassemblyBuffer
  wsClosed : Bool
  closer : CloseTask
  reader : ReaderTask
  sent : List (List Char)

namespace PktWebsocket

/-- What a read of the file comes back with. -/
inductive ReadResult
  | line (text : List Char)
  | eof
  | valueError

inductive Event
  | start
  | resume (result : ReadResult)
  | disconnect
  | onClose
  | startClose
  | closeFile
  | endClose
  | timeout (i : ℕ)
  | tick (d : ℚ)

def init (now : ℚ) : PktWebsocket :=
  ⟨true, false, some (SixlowpanReassembly.init now), false, .none, .created, []⟩

/-- The head of the `while` loop, and the read that follows it. -/
def loop (s : PktWebsocket) : PktWebsocket :=
  { s with reader := if s.pktfile then .reading s.fileClosed else .ended }

variable {IPv6 : Type} (E : SniffEnv IPv6)

/-- The `except` clause of the loop. -/
def handleExc (s : PktWebsocket) (exc : SendError) : PktWebsocket :=
  if exc.caught then s.loop else { s with reader := .died exc }

/-- What `send_pkts` does when a read is over, up to the next one. -/
def resume (s : PktWebsocket) : ReadResult → PktWebsocket
  | .line text =>
    let o := E.handleLine s.rb s.wsClosed text
    let s := { s with rb := o.rb, sent := s.sent ++ o.sent }
    match o.exc with
    | none => { s with reader := .reading s.fileClosed }
    | some exc => s.handleExc exc
  | .eof => s.loop
  | .valueError => s.handleExc .valueError

def step (s : PktWebsocket) : Event → Option PktWebsocket
  | .start => if s.reader = .created then some s.loop else none
  | .resume result =>
    match s.reader, result with
    | .reading false, result => some (s.resume E result)
    -- a file that was closed before the read raises
    | .reading true, .valueError => some (s.resume E .valueError)
    | _, _ => none
  | .disconnect => some { s with wsClosed := true }
  | .onClose =>
    if s.closer = .none then some { s with wsClosed := true, rb := none, closer := .created }
    else none
  | .startClose =>
    if s.closer = .created then
      some { s with closer := if s.pktfile then .closing else .done }
    else none
  | .closeFile => if s.closer = .closing then some { s with fileClosed := true } else none
  | .endClose =>
    if s.closer = .closing ∧ s.fileClosed then some { s with pktfile := false, closer := .done }
    else none
  | .timeout i =>
    (s.rb.bind fun rb => rb.timeout i).map fun rb => { s with rb := some rb }
  | .tick d =>
    match s.rb with
    | some rb =>
      if rb.mayTick d then some { s with rb := some { rb with now := rb.now + d } } else none
    | none => some s

def system : TransitionSystem PktWebsocket Event := ⟨step E⟩

/-- A step of the task `send_pkts`. -/
def Event.ofReader : Event → Bool
  | .start | .resume _ => true
  | _ => false

/-- After two more of its steps `send_pkts` is over. -/
def EndsSoon (s : PktWebsocket) : Prop :=
  ∀ es t, (system E).run s es = some t → t.reader.isOver ∨ es.countP Event.ofReader < 2

/-- `send_pkts` has not died; it has ended only if it found `pktfile` to be `None`, and it ends
soon when that is the case. -/
structure Clean (s : PktWebsocket) : Prop where
  alive : ∀ exc, s.reader ≠ .died exc
  found : s.reader = .ended → ¬ s.pktfile
  soon : ¬ s.pktfile → EndsSoon E s

/-- Python and scapy for packets without IPv6. -/
def noIPv6 : SniffEnv Unit where
  wanted _ := false
  floatText _ := ['0']
  unicode := ⟨fun _ => false, fun _ => none⟩
  float _ := 0
  scapy := ⟨fun _ _ => [], fun _ => none, fun _ => 0⟩
  dot15d4 _ := ⟨[⟨"802.15.4".toList, [], none⟩], 0, none⟩

/-- The packet is added to a buffer that is `None`. -/
theorem lateLine_not_clean : ¬ ∀ (E : SniffEnv Unit) now es t,
    (system E).run (init now) es = some t → (system E).Holds (Clean E) (init now) es := by
  intro h
  have hrun : ((system noIPv6).run (init 0)
      [.start, .onClose, .resume (.line "1.5:2:0102\n".toList)]).map PktWebsocket.reader =
      some (.died .attributeError) := by
    rfl
  obtain ⟨t, ht, hreader⟩ := Option.map_eq_some_iff.mp hrun
  exact ((h noIPv6 0 _ t ht).last ht).alive _ hreader

end PktWebsocket

namespace SniffEnv

variable {IPv6 : Type} (E : SniffEnv IPv6)

/-- What comes out of the buffer when the packet is added, if it is to be sent, can be serialised,
with its fragments. -/
def CalmAdd (rb : ReassemblyBuffer) (time : List Char) (pkg : Frame Packet) : Prop :=
  ∀ rb' src tag res fragments, rb.add E.scapy time pkg = (rb', some src, some tag, some res) →
    rb'.getitem src tag = some fragments → E.wanted res →
      PyValue.Converts (.pkg res) ∧ ∀ f ∈ fragments, PyValue.Converts (.pkg f.2.mac)

/-- A packet that is to be sent can be serialised; for any other the buffer is there. -/
def CalmPkt (rb : Option ReassemblyBuffer) (time : List Char) (pkg : Frame Packet) : Prop :=
  if E.wanted pkg.mac then PyValue.Converts (.pkg pkg.mac)
  else ∃ b, rb = some b ∧ E.CalmAdd b time pkg

def CalmLine (rb : Option ReassemblyBuffer) (line : List Char) : Prop :=
  ∀ time length data bytes, matchPktLine E.unicode line = some (time, length, data) →
    fromHex data = some bytes → E.CalmPkt rb time (E.linePkt length bytes)

end SniffEnv

/-- Every exception is caught. -/
def Outcome.Fine (o : Outcome) : Prop := ∀ exc, o.exc = some exc → exc.caught

lemma Outcome.fine_of_none {rb : Option ReassemblyBuffer} {sent : List (List Char)} :
    Outcome.Fine ⟨rb, sent, none⟩ := by
  intro exc hexc
  cases hexc

lemma Outcome.fine_some_iff {rb : Option ReassemblyBuffer} {sent : List (List Char)}
    {exc : SendError} : Outcome.Fine ⟨rb, sent, some exc⟩ ↔ exc.caught := by
  simp [Outcome.Fine]

namespace SniffEnv

variable {IPv6 : Type} {E : SniffEnv IPv6}

lemma getitem_of_add {rb rb' : ReassemblyBuffer} {time : List Char} {pkg : Frame Packet}
    {src tag : ℕ} {res : Packet}
    (h : rb.add E.scapy time pkg = (rb', some src, some tag, some res)) :
    ∃ fragments, rb'.getitem src tag = some fragments := by
  obtain ⟨layer, -, -, -, hstore, -⟩ := SixlowpanReassembly.add_some h
  rw [← hstore, SixlowpanReassembly.getitem, SixlowpanReassembly.lookup_store]
  exact ⟨_, rfl⟩

lemma calmAdd_iff {rb rb' : ReassemblyBuffer} {time : List Char} {pkg : Frame Packet}
    {src tag : ℕ} {res : Packet} {fragments : List (List Char × Frame Packet)}
    (hadd : rb.add E.scapy time pkg = (rb', some src, some tag, some res))
    (hget : rb'.getitem src tag = some fragments) : E.CalmAdd rb time pkg ↔ (E.wanted res →
      PyValue.Converts (.pkg res) ∧ ∀ f ∈ fragments, PyValue.Converts (.pkg f.2.mac)) := by
  constructor
  · intro h
    exact h rb' src tag res fragments hadd hget
  · intro h rb₂ src₂ tag₂ res₂ fragments₂ hadd₂ hget₂
    obtain ⟨rfl, hrest⟩ := Prod.mk.inj (hadd.symm.trans hadd₂)
    simp only [Prod.mk.injEq, Option.some.injEq] at hrest
    obtain ⟨rfl, rfl, rfl⟩ := hrest
    obtain rfl := Option.some.inj (hget.symm.trans hget₂)
    exact h

/-- Adding a packet stops `send_pkts` exactly when what it sends then cannot be serialised. -/
lemma fine_addPkt_iff {rb : ReassemblyBuffer} {closed : Bool} {time : List Char}
    {pkg : Frame Packet} : (E.addPkt rb closed time pkg).Fine ↔ E.CalmAdd rb time pkg := by
  unfold addPkt
  split
  · rename_i rb' src tag res hadd
    obtain ⟨fragments, hget⟩ := getitem_of_add hadd
    rw [calmAdd_iff hadd hget, hget]
    dsimp only
    by_cases hwanted : E.wanted res
    · have hsend : GoesOn (E.trySend .unlimited closed (E.float time) res
          (some (fragments.map fun f => (f.1, f.2.mac)))) ↔ PyValue.Converts (.pkg res) ∧
            ∀ f ∈ fragments, PyValue.Converts (.pkg f.2.mac) := by
        rw [SendEnv.goesOn_iff_converts hwanted]
        simp only [Option.some.injEq, forall_eq', List.forall_mem_map]
      rw [← hsend, forall_prop_of_true hwanted]
      cases E.trySend .unlimited closed (E.float time) res
          (some (fragments.map fun f => (f.1, f.2.mac))) with
      | ok text => exact iff_of_true Outcome.fine_of_none trivial
      | error exc => exact Outcome.fine_some_iff
    · rw [SendEnv.trySend, if_neg hwanted]
      exact iff_of_true Outcome.fine_of_none fun h => absurd h hwanted
  · rename_i hother hadd
    apply iff_of_true Outcome.fine_of_none
    intro rb' src tag res fragments hsome
    exact (hother src tag res (Prod.mk.inj (hadd.symm.trans hsome)).2).elim

lemma fine_handlePkt_iff {rb : Option ReassemblyBuffer} {closed : Bool} {time : List Char}
    {pkg : Frame Packet} : (E.handlePkt rb closed time pkg).Fine ↔ E.CalmPkt rb time pkg := by
  unfold handlePkt CalmPkt
  by_cases hwanted : E.wanted pkg.mac
  · have hsend : GoesOn (E.trySend .unlimited closed (E.float time) pkg.mac none) ↔
        PyValue.Converts (.pkg pkg.mac) := by
      rw [SendEnv.goesOn_iff_converts hwanted]
      simp
    rw [if_pos hwanted, ← hsend]
    have hsent := SendEnv.trySend_ne_ok_none hwanted closed (E.float time) none
    cases htry : E.trySend .unlimited closed (E.float time) pkg.mac none with
    | ok text =>
      cases text with
      | none => exact absurd htry hsent
      | some text => exact iff_of_true Outcome.fine_of_none trivial
    | error exc => exact Outcome.fine_some_iff
  · rw [if_neg hwanted, SendEnv.trySend, if_neg hwanted]
    cases rb with
    | none => simp [Outcome.fine_some_iff, SendError.caught]
    | some rb => simp [fine_addPkt_iff]

lemma fine_handleLine_iff (rb : Option ReassemblyBuffer) (closed : Bool) (line : List Char) :
    (E.handleLine rb closed line).Fine ↔ E.CalmLine rb line := by
  unfold handleLine CalmLine
  cases hmatch : matchPktLine E.unicode line with
  | none => exact iff_of_true Outcome.fine_of_none (by simp)
  | some groups =>
    obtain ⟨time, length, data⟩ := groups
    dsimp only
    cases hbytes : fromHex data with
    | none =>
      apply iff_of_true (Outcome.fine_some_iff.mpr rfl)
      rintro _ _ _ bytes ⟨⟩ hsome
      rw [hbytes] at hsome
      cases hsome
    | some bytes =>
      dsimp only
      rw [fine_handlePkt_iff]
      constructor
      · rintro h _ _ _ bytes' ⟨⟩ hsome
        obtain rfl := Option.some.inj (hbytes.symm.trans hsome)
        exact h
      · intro h
        exact h time length data bytes rfl hbytes

end SniffEnv

namespace PktWebsocket

variable {IPv6 : Type} (E : SniffEnv IPv6)

/-- The lines that the reader gets do not stop it. -/
def Calm (s : PktWebsocket) (e : Event) : Prop :=
  ∀ text, e = .resume (.line text) → E.CalmLine s.rb text

variable {E} {s t : PktWebsocket} {e : Event}

/-- The other steps leave the task alone, and `pktfile` is only given up after the file. -/
lemma step_other (he : e.ofReader = false) (h : step E s e = some t) :
    t.reader = s.reader ∧ (s.fileClosed → t.fileClosed) ∧
      (t.pktfile = s.pktfile ∨ t.fileClosed = true ∧ t.pktfile = false) := by
  cases e with
  | start => cases he
  | resume result => cases he
  | disconnect =>
    obtain rfl := Option.some.inj h
    exact ⟨rfl, id, .inl rfl⟩
  | onClose =>
    obtain ⟨-, ⟨⟩⟩ := Option.ite_none_right_eq_some.mp h
    exact ⟨rfl, id, .inl rfl⟩
  | startClose =>
    obtain ⟨-, ⟨⟩⟩ := Option.ite_none_right_eq_some.mp h
    exact ⟨rfl, id, .inl rfl⟩
  | closeFile =>
    obtain ⟨-, ⟨⟩⟩ := Option.ite_none_right_eq_some.mp h
    exact ⟨rfl, fun _ => rfl, .inl rfl⟩
  | endClose =>
    obtain ⟨hclosing, ⟨⟩⟩ := Option.ite_none_right_eq_some.mp h
    exact ⟨rfl, id, .inr ⟨hclosing.2, rfl⟩⟩
  | timeout i =>
    obtain ⟨rb, -, rfl⟩ := Option.map_eq_some_iff.mp h
    exact ⟨rfl, id, .inl rfl⟩
  | tick d =>
    unfold step at h
    dsimp only at h
    split at h
    · obtain ⟨-, ⟨⟩⟩ := Option.ite_none_right_eq_some.mp h
      exact ⟨rfl, id, .inl rfl⟩
    · obtain rfl := Option.some.inj h
      exact ⟨rfl, id, .inl rfl⟩

/-- A step of the task is the first, a pass over a line, or the end of the file or an exception of
the read. -/
lemma step_reader (he : e.ofReader = true) (h : step E s e = some t) :
    t = s.loop ∧ (s.reader = .created ∨ ∃ b, s.reader = .reading b) ∧
        (∀ text, e ≠ .resume (.line text)) ∨
      ∃ text, e = .resume (.line text) ∧ s.reader = .reading false ∧
        t = s.resume E (.line text) := by
  cases e with
  | start =>
    obtain ⟨hcreated, hloop⟩ := Option.ite_none_right_eq_some.mp h
    exact .inl ⟨(Option.some.inj hloop).symm, .inl hcreated, fun text => Event.noConfusion⟩
  | resume result =>
    cases hreading : s.reader with
    | reading onClosed =>
      unfold step at h
      simp only [hreading] at h
      cases result with
      | line text =>
        cases onClosed with
        | false =>
          obtain rfl := Option.some.inj h
          exact .inr ⟨text, rfl, rfl, rfl⟩
        | true => cases h
      | eof =>
        cases onClosed with
        | false =>
          obtain rfl := Option.some.inj h
          exact .inl ⟨rfl, .inr ⟨false, rfl⟩, by simp⟩
        | true => cases h
      | valueError =>
        have hloop : t = s.loop := by
          cases onClosed <;> exact (Option.some.inj h).symm
        exact .inl ⟨hloop, .inr ⟨onClosed, rfl⟩, by simp⟩
    | _ =>
      unfold step at h
      simp only [hreading] at h
      cases h
  | _ => cases he

/-- After a line the task reads on, is at the head of the loop, or has died. -/
lemma resume_line_cases (s : PktWebsocket) (text : List Char) :
    (s.resume E (.line text)).pktfile = s.pktfile ∧
    (s.resume E (.line text)).fileClosed = s.fileClosed ∧
    ((s.resume E (.line text)).reader = .reading s.fileClosed ∨
      (s.resume E (.line text)).reader = s.loop.reader ∨
      ∃ exc, (s.resume E (.line text)).reader = .died exc) := by
  unfold resume
  dsimp only
  split
  · exact ⟨rfl, rfl, .inl rfl⟩
  · rw [handleExc]
    split
    · exact ⟨rfl, rfl, .inr (.inl rfl)⟩
    · exact ⟨rfl, rfl, .inr (.inr ⟨_, rfl⟩)⟩

lemma loop_reader_ne_died (s : PktWebsocket) (exc : SendError) : s.loop.reader ≠ .died exc := by
  rw [loop]
  dsimp only
  split <;> exact ReaderTask.noConfusion

/-- The task survives a line exactly when every exception is caught. -/
lemma resume_line_alive_iff (s : PktWebsocket) (text : List Char) :
    (∀ exc, (s.resume E (.line text)).reader ≠ .died exc) ↔ E.CalmLine s.rb text := by
  rw [← SniffEnv.fine_handleLine_iff s.rb s.wsClosed text]
  unfold resume Outcome.Fine
  dsimp only
  cases hexc : (E.handleLine s.rb s.wsClosed text).exc with
  | none => simp
  | some exc =>
    dsimp only
    rw [handleExc]
    by_cases hcaught : exc.caught
    · rw [if_pos hcaught]
      simp [loop_reader_ne_died, hcaught]
    · rw [if_neg hcaught]
      simp [hcaught]

/-- Exactly the steps that meet `Calm` keep the task alive. -/
lemma alive_iff_calm (hs : ∀ exc, s.reader ≠ .died exc) (h : step E s e = some t) :
    (∀ exc, t.reader ≠ .died exc) ↔ Calm E s e := by
  cases he : e.ofReader with
  | false =>
    rw [(step_other he h).1]
    apply iff_of_true hs
    rintro text rfl
    cases he
  | true =>
    rcases step_reader he h with ⟨rfl, -, hline⟩ | ⟨text, rfl, -, rfl⟩
    · exact iff_of_true (loop_reader_ne_died s) fun text heq => absurd heq (hline text)
    · rw [resume_line_alive_iff]
      constructor
      · rintro hcalm _ ⟨⟩
        exact hcalm
      · exact fun hcalm => hcalm text rfl

/-- Without `pktfile` each step of the task is one of its last two. -/
lemma step_left (hpktfile : s.pktfile = false) (hclosed : s.fileClosed = true)
    (h : step E s e = some t) : (t.pktfile = false ∧ t.fileClosed = true) ∧
      t.reader.left + (if e.ofReader then 1 else 0) ≤ s.reader.left := by
  cases he : e.ofReader with
  | false =>
    obtain ⟨hreader, hfile, hkeeps⟩ := step_other he h
    rw [hreader]
    refine ⟨⟨?_, hfile hclosed⟩, le_rfl⟩
    rcases hkeeps with hkeeps | hgone
    · exact hkeeps.trans hpktfile
    · exact hgone.2
  | true =>
    have hloop : s.loop.reader = .ended := by
      rw [loop, hpktfile]
      rfl
    rcases step_reader he h with ⟨rfl, hreading, -⟩ | ⟨text, rfl, hreading, rfl⟩
    · refine ⟨⟨hpktfile, hclosed⟩, ?_⟩
      rw [hloop]
      rcases hreading with hreading | ⟨onClosed, hreading⟩
      · simp [hreading, ReaderTask.left]
      · cases onClosed <;> simp [hreading, ReaderTask.left]
    · obtain ⟨hkeeps, hfile, hreader⟩ := resume_line_cases (E := E) s text
      refine ⟨⟨hkeeps.trans hpktfile, hfile.trans hclosed⟩, ?_⟩
      have hleft : (s.resume E (.line text)).reader.left ≤ 1 := by
        rcases hreader with hreader | hreader | ⟨exc, hreader⟩
        · simp [hreader, hclosed, ReaderTask.left]
        · simp [hreader, hloop, ReaderTask.left]
        · simp [hreader, ReaderTask.left]
      rw [hreading]
      exact Nat.succ_le_succ hleft

lemma run_left {es : List Event} (hpktfile : s.pktfile = false) (hclosed : s.fileClosed = true)
    (h : (system E).run s es = some t) :
    t.reader.left + es.countP Event.ofReader ≤ s.reader.left := by
  induction es generalizing s with
  | nil =>
    obtain rfl := Option.some.inj h
    exact le_rfl
  | cons e es ih =>
    obtain ⟨u, hu, hrun⟩ := TransitionSystem.run_cons_some.mp h
    obtain ⟨⟨hpktfile', hclosed'⟩, hleft⟩ := step_left hpktfile hclosed hu
    have hrest := ih hpktfile' hclosed' hrun
    rw [List.countP_cons]
    omega

lemma endsSoon (hpktfile : s.pktfile = false) (hclosed : s.fileClosed = true) :
    EndsSoon E s := by
  intro es t hrun
  have hleft := run_left hpktfile hclosed hrun
  have hle := s.reader.left_le
  by_cases hzero : t.reader.left = 0
  · exact .inl (ReaderTask.isOver_of_left hzero)
  · right
    omega

/-- What holds in all states of a run as long as the task has not died. -/
structure Live (s : PktWebsocket) : Prop where
  alive : ∀ exc, s.reader ≠ .died exc
  found : s.reader = .ended → ¬ s.pktfile
  closed : ¬ s.pktfile → s.fileClosed

lemma live_init (now : ℚ) : Live (init now) where
  alive _ := ReaderTask.noConfusion
  found h := by cases h
  closed h := absurd rfl h

lemma Live.clean (h : s.Live) : Clean E s where
  alive := h.alive
  found := h.found
  soon hgone := endsSoon (Bool.eq_false_iff.mpr hgone) (h.closed hgone)

lemma ended_of_loop {s : PktWebsocket} (h : s.loop.reader = .ended) : ¬ s.pktfile := by
  intro hpktfile
  rw [loop, hpktfile] at h
  cases h

/-- The file is closed before `pktfile` is given up. -/
lemma closed_step (hs : ¬ s.pktfile → s.fileClosed) (h : step E s e = some t) :
    ¬ t.pktfile → t.fileClosed := by
  intro hgone
  cases he : e.ofReader with
  | false =>
    obtain ⟨-, hfile, hkeeps⟩ := step_other he h
    rcases hkeeps with hkeeps | ⟨hclosed, -⟩
    · rw [hkeeps] at hgone
      exact hfile (hs hgone)
    · exact hclosed
  | true =>
    rcases step_reader he h with ⟨rfl, -, -⟩ | ⟨text, -, -, rfl⟩
    · exact hs hgone
    · obtain ⟨hkeeps, hfile, -⟩ := resume_line_cases (E := E) s text
      rw [hkeeps] at hgone
      rw [hfile]
      exact hs hgone

/-- Where the task ends it has found `pktfile` to be `None`. -/
lemma found_step (hs : s.reader = .ended → ¬ s.pktfile) (h : step E s e = some t) :
    t.reader = .ended → ¬ t.pktfile := by
  intro hended
  cases he : e.ofReader with
  | false =>
    obtain ⟨hreader, -, hkeeps⟩ := step_other he h
    have hgone := hs (hreader.symm.trans hended)
    rcases hkeeps with hkeeps | ⟨-, hnone⟩
    · rwa [hkeeps]
    · exact Bool.eq_false_iff.mp hnone
  | true =>
    rcases step_reader he h with ⟨rfl, -, -⟩ | ⟨text, -, -, rfl⟩
    · exact ended_of_loop hended
    · obtain ⟨hkeeps, -, hreader⟩ := resume_line_cases (E := E) s text
      rw [hended] at hreader
      rcases hreader with hreading | hloop | ⟨exc, hdied⟩
      · cases hreading
      · rw [hkeeps]
        exact ended_of_loop hloop.symm
      · cases hdied

lemma Live.step (hs : s.Live) (hcalm : Calm E s e) (h : step E s e = some t) : t.Live where
  alive := (alive_iff_calm hs.alive h).mpr hcalm
  found := found_step hs.found h
  closed := closed_step hs.closed h

/-- Along a run the task stays clean exactly when every line it gets meets `Calm`. -/
theorem clean_iff_calm (E : SniffEnv IPv6) (now : ℚ) {es : List Event} {t : PktWebsocket}
    (h : (system E).run (init now) es = some t) :
    (system E).Holds (Clean E) (init now) es ↔ (system E).Meets (Calm E) (init now) es := by
  apply TransitionSystem.holds_iff_meets_of_invariant (I := Live) _ _ _ (live_init now) h
  · exact fun s hs => hs.clean
  · exact fun s e t hs hcalm hstep => hs.step hcalm hstep
  · exact fun s e t hs hstep hclean => (alive_iff_calm hs.alive hstep).mp hclean.alive

/-- A line with a packet before the close, and none after. -/
def earlyLine : List Event :=
  [.start, .resume (.line "1.5:2:0102\n".toList), .onClose, .startClose, .closeFile, .endClose,
    .resume .valueError]

theorem clean_iff_calm_earlyLine :
    (system noIPv6).Holds (Clean noIPv6) (init 0) earlyLine ↔
      (system noIPv6).Meets (Calm noIPv6) (init 0) earlyLine :=
  clean_iff_calm noIPv6 0 (t := ⟨false, true, none, true, .done, .ended, []⟩) rfl

end PktWebsocket

end RiotPlayground
