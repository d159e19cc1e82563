import RiotPlayground.Lib.PyText
import RiotPlayground.Lib.TransitionSystem

/-!
# The log on a websocket of `webterminal/main.py`

`send_lines` is a task of its own, which runs until the log file is `None`. `on_close` creates
another, `close_logfile`. A step is what `open` or a task does between two suspensions.
-/

namespace RiotPlayground

open PyText

namespace Webterminal

/-- `open`: in `aiofiles.open`, behind it, and returned. -/
inductive OpenCall
  | opening
  | configuring
  | returned
  deriving DecidableEq

/-- `send_lines`: not created, before the test of the loop, waiting for a line, with a line, and
returned. -/
inductive SendLines
  | absent
  | looping
  | reading
  | line (text : List Char)
  | returned
  deriving DecidableEq

/-- `close_logfile`: not created, created, in `close`, behind it, and returned. -/
inductive CloseLogfile
  | absent
  | created
  | closing
  | closed
  | returned
  deriving DecidableEq

/-- One websocket. `log` is the text of what the file holds, `logfile` whether the attribute is
set, `shut` whether the file is closed, `pos` how far it is read, and `gone` whether the websocket
is closed. -/
structure LogSocket where
  log : List Char
  openCall : OpenCall
  logfile : Bool
  shut : Bool
  pos : ℕ
  sendLines : SendLines
  closeLogfile : CloseLogfile
  gone : Bool
  sent : List (List Char)
  deriving DecidableEq

def LogSocket.init : LogSocket := ⟨[], .opening, false, false, 0, .absent, .absent, false, []⟩

/-- The text mode of a file also takes `\r\n` and `\r` for the end of a line. -/
def universalNewlines : List Char → List Char
  | [] => []
  | '\r' :: '\n' :: rest => '\n' :: universalNewlines rest
  | c :: rest => (if c = '\r' then '\n' else c) :: universalNewlines rest

/-- What is read from a file; `none` is the `UnicodeDecodeError`. -/
def textMode (file : List UInt8) : Option (List Char) :=
  (decodeStrict file).map universalNewlines

/-- `configured` is the end of `open`, with whether the last command was answered. -/
inductive LogEvent
  | output (text : List Char)
  | opened
  | configured (answered : Bool)
  | disconnect
  | onClose
  | sendLines
  | closeLogfile

/-- Up to the next newline or, without one, all there is. `write_message` raises an error when the
websocket is closed. -/
def sendLinesStep (s : LogSocket) : Option LogSocket :=
  match s.sendLines with
  | .absent => none
  | .looping => some { s with sendLines := if s.logfile then .reading else .returned }
  | .reading =>
    if s.shut then some { s with sendLines := .looping }
    else
      match fileLines (s.log.drop s.pos) with
      | [] => some { s with sendLines := .looping }
      | text :: _ => some { s with sendLines := .line text, pos := s.pos + text.length }
  | .line text =>
    if s.gone then some { s with sendLines := .looping }
    else some { s with sendLines := .reading, sent := s.sent ++ [text] }
  | .returned => none

def closeLogfileStep (s : LogSocket) : Option LogSocket :=
  match s.closeLogfile with
  | .absent => none
  | .created => some { s with closeLogfile := if s.logfile then .closing else .returned }
  | .closing => some { s with closeLogfile := .closed, shut := true }
  | .closed => some { s with closeLogfile := .returned, logfile := false }
  | .returned => none

def logStep (s : LogSocket) : LogEvent → Option LogSocket
  | .output text => some { s with log := s.log ++ text }
  | .opened =>
    if s.openCall = .opening then some { s with openCall := .configuring, logfile := true }
    else none
  | .configured answered =>
    if s.openCall = .configuring then
      some { s with openCall := .returned, sendLines := if answered then .looping else .absent }
    else none
  | .disconnect => some { s with gone := true }
  | .onClose =>
    if s.gone = true ∧ s.closeLogfile = .absent then some { s with closeLogfile := .created }
    else none
  | .sendLines => sendLinesStep s
  | .closeLogfile => closeLogfileStep s

def logSocket : TransitionSystem LogSocket LogEvent := ⟨logStep⟩

/-- The line that was read and not sent yet. -/
def SendLines.held : SendLines → List Char
  | .line text => text
  | _ => []

/-- What a step can do. -/
inductive LogMoves (s : LogSocket) : LogEvent → LogSocket → Prop
  | output (text : List Char) : LogMoves s (.output text) { s with log := s.log ++ text }
  | opened (hopen : s.openCall = .opening) :
      LogMoves s .opened { s with openCall := .configuring, logfile := true }
  | configured (answered : Bool) (hopen : s.openCall = .configuring) :
      LogMoves s (.configured answered)
        { s with openCall := .returned, sendLines := if answered then .looping else .absent }
  | disconnect : LogMoves s .disconnect { s with gone := true }
  | onClose (hgone : s.gone = true) (habsent : s.closeLogfile = .absent) :
      LogMoves s .onClose { s with closeLogfile := .created }
  | test (hat : s.sendLines = .looping) :
      LogMoves s .sendLines { s with sendLines := if s.logfile then .reading else .returned }
  | error (hat : s.sendLines = .reading ∨ s.gone = true ∧ ∃ text, s.sendLines = .line text) :
      LogMoves s .sendLines { s with sendLines := .looping }
  | read {text : List Char} {rest : List (List Char)} (hat : s.sendLines = .reading)
      (htext : fileLines (s.log.drop s.pos) = text :: rest) :
      LogMoves s .sendLines { s with sendLines := .line text, pos := s.pos + text.length }
  | send {text : List Char} (hat : s.sendLines = .line text) (hgone : s.gone = false) :
      LogMoves s .sendLines { s with sendLines := .reading, sent := s.sent ++ [text] }
  | look (hat : s.closeLogfile = .created) :
      LogMoves s .closeLogfile
        { s with closeLogfile := if s.logfile then .closing else .returned }
  | close (hat : s.closeLogfile = .closing) :
      LogMoves s .closeLogfile { s with closeLogfile := .closed, shut := true }
  | unset (hat : s.closeLogfile = .closed) :
      LogMoves s .closeLogfile { s with closeLogfile := .returned, logfile := false }

variable {s t : LogSocket} {e : LogEvent}

lemma moves_of_sendLinesStep (hs : sendLinesStep s = some t) : LogMoves s .sendLines t := by
  unfold sendLinesStep at hs
  split at hs
  case h_1 => cases hs
  case h_2 hat =>
    obtain rfl := Option.some.inj hs
    exact .test hat
  case h_3 hat =>
    split at hs
    case isTrue =>
      obtain rfl := Option.some.inj hs
      exact .error (.inl hat)
    case isFalse =>
      split at hs
      case h_1 =>
        obtain rfl := Option.some.inj hs
        exact .error (.inl hat)
      case h_2 text rest htext =>
        obtain rfl := Option.some.inj hs
        exact .read hat htext
  case h_4 text hat =>
    split at hs
    case isTrue hgone =>
      obtain rfl := Option.some.inj hs
      exact .error (.inr ⟨hgone, text, hat⟩)
    case isFalse hgone =>
      obtain rfl := Option.some.inj hs
      exact .send hat (Bool.not_eq_true _ ▸ hgone)
  case h_5 => cases hs

lemma moves_of_closeLogfileStep (hs : closeLogfileStep s = some t) :
    LogMoves s .closeLogfile t := by
  unfold closeLogfileStep at hs
  split at hs
  case h_1 => cases hs
  case h_2 hat =>
    obtain rfl := Option.some.inj hs
    exact .look hat
  case h_3 hat =>
    obtain rfl := Option.some.inj hs
    exact .close hat
  case h_4 hat =>
    obtain rfl := Option.some.inj hs
    exact .unset hat
  case h_5 => cases hs

theorem logMoves_of_step (hs : logSocket.step s e = some t) : LogMoves s e t := by
  cases e with
  | output text =>
    obtain rfl := Option.some.inj hs
    exact .output text
  | opened =>
    obtain ⟨hopen, hs⟩ := Option.ite_none_right_eq_some.mp hs
    obtain rfl := Option.some.inj hs
    exact .opened hopen
  | configured answered =>
    obtain ⟨hopen, hs⟩ := Option.ite_none_right_eq_some.mp hs
    obtain rfl := Option.some.inj hs
    exact .configured answered hopen
  | disconnect =>
    obtain rfl := Option.some.inj hs
    exact .disconnect
  | onClose =>
    obtain ⟨hready, hs⟩ := Option.ite_none_right_eq_some.mp hs
    obtain rfl := Option.some.inj hs
    exact .onClose hready.1 hready.2
  | sendLines => exact moves_of_sendLinesStep hs
  | closeLogfile => exact moves_of_closeLogfileStep hs

/-- All that was read was sent or is held, unless the websocket was closed meanwhile. -/
structure Forwards (s : LogSocket) : Prop where
  pos_le : s.pos ≤ s.log.length
  sent : s.sent.flatten <+: s.log.take s.pos
  all : s.gone = false → s.sent.flatten ++ s.sendLines.held = s.log.take s.pos

lemma forwards_init : Forwards .init := ⟨Nat.le_refl _, List.prefix_rfl, fun _ => rfl⟩

/-- A step that reads nothing and sends nothing. -/
lemma Forwards.of_held (h : Forwards s) (hlog : t.log = s.log) (hpos : t.pos = s.pos)
    (hsent : t.sent = s.sent)
    (hheld : t.gone = false → s.gone = false ∧ t.sendLines.held = s.sendLines.held) :
    Forwards t where
  pos_le := by
    rw [hlog, hpos]
    exact h.pos_le
  sent := by
    rw [hlog, hpos, hsent]
    exact h.sent
  all hgone := by
    obtain ⟨hopen, heq⟩ := hheld hgone
    rw [hlog, hpos, hsent, heq]
    exact h.all hopen

/-- Lines are the text from the start on. -/
lemma fileLines_begins {text line : List Char} {rest : List (List Char)}
    (h : fileLines text = line :: rest) : line <+: text := by
  have hflat : (fileLines text).flatten = text := flatten_fileLines text
  rw [h, List.flatten_cons] at hflat
  exact ⟨rest.flatten, hflat⟩

lemma Forwards.read (h : Forwards s) {text : List Char} {rest : List (List Char)}
    (hat : s.sendLines = .reading) (htext : fileLines (s.log.drop s.pos) = text :: rest) :
    Forwards { s with sendLines := .line text, pos := s.pos + text.length } := by
  obtain ⟨unread, hunread⟩ := fileLines_begins htext
  have htake : s.log.take (s.pos + text.length) = s.log.take s.pos ++ text := by
    rw [List.take_add, ← hunread, List.take_left]
  have hlength := congrArg List.length hunread
  rw [List.length_append, List.length_drop] at hlength
  have hle := h.pos_le
  refine ⟨?_, ?_, fun hgone => ?_⟩
  · change s.pos + text.length ≤ s.log.length
    omega
  · change s.sent.flatten <+: s.log.take (s.pos + text.length)
    rw [htake]
    exact h.sent.trans (List.prefix_append _ _)
  · change s.sent.flatten ++ text = s.log.take (s.pos + text.length)
    have hall := h.all hgone
    rw [hat] at hall
    rw [htake, ← hall]
    simp [SendLines.held]

lemma Forwards.send (h : Forwards s) {text : List Char} (hat : s.sendLines = .line text)
    (hgone : s.gone = false) :
    Forwards { s with sendLines := .reading, sent := s.sent ++ [text] } := by
  have hall := h.all hgone
  rw [hat] at hall
  have hsent : (s.sent ++ [text]).flatten = s.log.take s.pos := by
    rw [List.flatten_append, ← hall]
    simp [SendLines.held]
  refine ⟨h.pos_le, ?_, fun _ => ?_⟩
  · change (s.sent ++ [text]).flatten <+: s.log.take s.pos
    exact ⟨[], by rw [List.append_nil, hsent]⟩
  · change (s.sent ++ [text]).flatten ++ [] = s.log.take s.pos
    rw [hsent, List.append_nil]

/-- `open` sets the log file and then creates the task, and `on_close` comes after the end. -/
structure Ordered (s : LogSocket) : Prop where
  unset : s.openCall = .opening → s.logfile = false
  absent : s.openCall ≠ .returned → s.sendLines = .absent
  returned : s.sendLines = .returned → s.logfile = false
  gone : s.closeLogfile ≠ .absent → s.gone = true

lemma ordered_init : Ordered .init := ⟨fun _ => rfl, fun _ => rfl, nofun, fun h => absurd rfl h⟩

/-- A step of the task: it is there, so `open` has returned. -/
lemma Ordered.of_sendLines (h : Ordered s) (hat : s.sendLines ≠ .absent) {next : SendLines}
    (hnext : next = .returned → s.logfile = false) (pos : ℕ) (sent : List (List Char)) :
    Ordered { s with sendLines := next, pos := pos, sent := sent } where
  unset := h.unset
  absent hopen := absurd (h.absent hopen) hat
  returned := hnext
  gone := h.gone

theorem Ordered.step (h : Ordered s) (hmoves : LogMoves s e t) : Ordered t := by
  cases hmoves with
  | output => exact ⟨h.unset, h.absent, h.returned, h.gone⟩
  | opened hopen =>
    have habsent : s.sendLines = .absent := h.absent (by simp [hopen])
    refine ⟨nofun, fun _ => habsent, fun hreturned => ?_, h.gone⟩
    exact nomatch habsent.symm.trans hreturned
  | configured answered hopen =>
    refine ⟨nofun, fun hne => absurd rfl hne, fun hreturned => ?_, h.gone⟩
    cases answered with
    | true => cases hreturned
    | false => cases hreturned
  | disconnect => exact ⟨h.unset, h.absent, h.returned, fun _ => rfl⟩
  | onClose hgone => exact ⟨h.unset, h.absent, h.returned, fun _ => hgone⟩
  | test hat =>
    apply h.of_sendLines (by simp [hat])
    intro hnext
    cases hset : s.logfile with
    | true =>
      rw [hset] at hnext
      cases hnext
    | false => rfl
  | error hat =>
    apply h.of_sendLines
    · obtain hat | ⟨-, text, hat⟩ := hat <;> simp [hat]
    · nofun
  | read hat =>
    refine h.of_sendLines (by simp [hat]) (fun hnext => ?_) _ _
    cases hnext
  | send hat =>
    refine h.of_sendLines (by simp [hat]) (fun hnext => ?_) _ _
    cases hnext
  | look hat => exact ⟨h.unset, h.absent, h.returned, fun _ => h.gone (by simp [hat])⟩
  | close hat => exact ⟨h.unset, h.absent, h.returned, fun _ => h.gone (by simp [hat])⟩
  | unset hat =>
    exact ⟨fun _ => rfl, h.absent, fun _ => rfl, fun _ => h.gone (by simp [hat])⟩

theorem Forwards.step (h : Forwards s) (hordered : Ordered s) (hmoves : LogMoves s e t) :
    Forwards t := by
  cases hmoves with
  | output text =>
    have htake : (s.log ++ text).take s.pos = s.log.take s.pos :=
      List.take_append_of_le_length h.pos_le
    refine ⟨?_, ?_, fun hgone => ?_⟩
    · change s.pos ≤ (s.log ++ text).length
      rw [List.length_append]
      exact Nat.le_add_right_of_le h.pos_le
    · change s.sent.flatten <+: (s.log ++ text).take s.pos
      rw [htake]
      exact h.sent
    · change s.sent.flatten ++ s.sendLines.held = (s.log ++ text).take s.pos
      rw [htake]
      exact h.all hgone
  | opened => exact h.of_held rfl rfl rfl fun hgone => ⟨hgone, rfl⟩
  | configured answered hopen =>
    refine h.of_held rfl rfl rfl fun hgone => ⟨hgone, ?_⟩
    rw [hordered.absent (by simp [hopen])]
    cases answered <;> rfl
  | disconnect => exact h.of_held rfl rfl rfl nofun
  | onClose => exact h.of_held rfl rfl rfl fun hgone => ⟨hgone, rfl⟩
  | test hat =>
    refine h.of_held rfl rfl rfl fun hgone => ⟨hgone, ?_⟩
    rw [hat]
    cases s.logfile <;> rfl
  | error hat =>
    refine h.of_held rfl rfl rfl fun hopen => ⟨hopen, ?_⟩
    obtain hat | ⟨hgone, -⟩ := hat
    · rw [hat]
      rfl
    · exact absurd (hgone.symm.trans hopen) (by decide)
  | read hat htext => exact h.read hat htext
  | send hat hgone => exact h.send hat hgone
  | look => exact h.of_held rfl rfl rfl fun hgone => ⟨hgone, rfl⟩
  | close => exact h.of_held rfl rfl rfl fun hgone => ⟨hgone, rfl⟩
  | unset => exact h.of_held rfl rfl rfl fun hgone => ⟨hgone, rfl⟩

lemma ordered_forwards_of_run {es : List LogEvent} (hrun : logSocket.run .init es = some s) :
    Ordered s ∧ Forwards s := by
  have hreach := TransitionSystem.reach_of_run (TransitionSystem.meets_true _ es) hrun
  apply hreach.invariant (P := fun s => Ordered s ∧ Forwards s) ⟨ordered_init, forwards_init⟩
  intro s e t h _ hs
  have hmoves := logMoves_of_step hs
  exact ⟨h.1.step hmoves, h.2.step h.1 hmoves⟩

/-- ASCII without carriage returns, which the text mode leaves as it is. -/
def PlainLog (file : List UInt8) : Prop := ∀ b ∈ file, b.toNat < 128 ∧ b ≠ 13

instance (file : List UInt8) : Decidable (PlainLog file) :=
  inferInstanceAs (Decidable (∀ b ∈ file, _ ∧ _))

lemma universalNewlines_eq {text : List Char} (h : '\r' ∉ text) :
    universalNewlines text = text := by
  induction text with
  | nil => rfl
  | cons c text ih =>
    obtain ⟨hc, htext⟩ := not_or.mp (List.mem_cons.not.mp h)
    rw [universalNewlines, if_neg (Ne.symm hc), ih htext]
    exact fun rest hr _ => hc hr.symm

/-- A plain log is its text, byte by byte. -/
lemma encode_of_textMode {file : List UInt8} {text : List Char} (hplain : PlainLog file)
    (htext : textMode file = some text) : encode text = file := by
  have hchar : ∀ b ∈ file, (Char.ofNat b.toNat).toNat = b.toNat := by
    intro b hb
    have hlt := (hplain b hb).1
    have hvalid : b.toNat.isValidChar := .inl (by omega)
    rw [Char.ofNat, dif_pos hvalid]
    rfl
  have hdecode : decodeStrict file = some (file.map fun b => Char.ofNat b.toNat) := by
    unfold decodeStrict
    clear htext hchar
    induction file with
    | nil => rfl
    | cons b file ih =>
      have hchar : decodeChar b file = some (Char.ofNat b.toNat, 0) := by
        unfold decodeChar
        exact if_pos (hplain b List.mem_cons_self).1
      rw [decodeStrictFrom, hchar]
      dsimp only
      rw [ih fun b' hb' => hplain b' (List.mem_cons_of_mem b hb')]
      rfl
  have hreturn : '\r' ∉ file.map fun b => Char.ofNat b.toNat := by
    intro hmem
    obtain ⟨b, hb, heq⟩ := List.mem_map.mp hmem
    have hnat : b.toNat = 13 := (hchar b hb).symm.trans (congrArg Char.toNat heq)
    exact (hplain b hb).2 (UInt8.toNat_inj.mp hnat)
  unfold textMode at htext
  rw [hdecode, Option.map_some, universalNewlines_eq hreturn] at htext
  obtain rfl := Option.some.inj htext
  unfold encode
  rw [List.map_map]
  refine (List.map_congr_left fun b hb => ?_).trans (List.map_id file)
  change UInt8.ofNat (Char.ofNat b.toNat).toNat = b
  rw [hchar b hb]
  exact UInt8.ofNat_toNat

/-- However the tasks take turns, what the websocket was sent is the beginning of a plain log, and
while it is open nothing that was read is missing. -/
theorem sent_is_log {es : List LogEvent} {file : List UInt8}
    (hrun : logSocket.run .init es = some s) (htext : textMode file = some s.log)
    (hplain : PlainLog file) :
    encode s.sent.flatten <+: file ∧
      (s.gone = false → encode (s.sent.flatten ++ s.sendLines.held) = file.take s.pos) := by
  obtain ⟨-, hforwards⟩ := ordered_forwards_of_run hrun
  have hfile : encode s.log = file := encode_of_textMode hplain htext
  rw [← hfile]
  refine ⟨(hforwards.sent.trans (List.take_prefix _ _)).map _, fun hgone => ?_⟩
  rw [hforwards.all hgone]
  exact List.map_take

/-- A line is read in two parts, and another when the websocket is closed. -/
def partsOfLine : List LogEvent :=
  [.opened, .configured true, .output ['>', ' '], .sendLines, .sendLines, .sendLines,
    .output ['o', 'k', '\n', '>'], .sendLines, .sendLines, .sendLines, .disconnect, .sendLines]

def partsOfLineEnd : LogSocket :=
  ⟨['>', ' ', 'o', 'k', '\n', '>'], .returned, true, false, 6, .looping, .absent, true,
    [['>', ' '], ['o', 'k', '\n']]⟩

/-- `> ok`, a newline and `>` -/
def partsOfLineFile : List UInt8 := [62, 32, 111, 107, 10, 62]

theorem sent_is_log_parts :
    logSocket.run .init partsOfLine = some partsOfLineEnd ∧
      encode [['>', ' '], ['o', 'k', '\n']].flatten <+: partsOfLineFile := by
  have hrun : logSocket.run .init partsOfLine = some partsOfLineEnd := by decide +kernel
  have htext : textMode partsOfLineFile = some partsOfLineEnd.log := by decide +kernel
  exact ⟨hrun, (sent_is_log hrun htext (by decide +kernel)).1⟩

/-! ### The end of the task -/

/-- `aiofiles.open` returns before `close_logfile` has looked for the file. -/
def OpenedInTime (s : LogSocket) (e : LogEvent) : Prop :=
  match e with
  | .opened => s.closeLogfile ≠ .returned
  | _ => True

/-- The log file is set though `close_logfile` is over. -/
def LogSocket.Leaks (s : LogSocket) : Prop := s.closeLogfile = .returned ∧ s.logfile = true

lemma leaks_step (h : s.Leaks) (hmoves : LogMoves s e t) : t.Leaks := by
  obtain ⟨hreturned, hset⟩ := h
  cases hmoves with
  | opened => exact ⟨hreturned, rfl⟩
  | onClose hgone habsent => exact nomatch hreturned.symm.trans habsent
  | look hat => exact nomatch hreturned.symm.trans hat
  | close hat => exact nomatch hreturned.symm.trans hat
  | unset hat => exact nomatch hreturned.symm.trans hat
  | output | configured | disconnect | test | error | read | send => exact ⟨hreturned, hset⟩

lemma leaks_of_late (hC : ¬ OpenedInTime s e) (hmoves : LogMoves s e t) : t.Leaks := by
  cases hmoves with
  | opened => exact ⟨not_not.mp hC, rfl⟩
  | output | configured | disconnect | onClose | test | error | read | send | look | close
  | unset => exact absurd trivial hC

lemma not_leaks_of_inTime (h : ¬ s.Leaks) (hC : OpenedInTime s e) (hmoves : LogMoves s e t) :
    ¬ t.Leaks := by
  rintro ⟨hreturned, hset⟩
  cases hmoves with
  | opened => exact hC hreturned
  | onClose => cases hreturned
  | look hat =>
    change s.logfile = true at hset
    rw [hset] at hreturned
    cases hreturned
  | close => cases hreturned
  | unset => cases hset
  | output | configured | disconnect | test | error | read | send => exact h ⟨hreturned, hset⟩

lemma not_leaks_iff {es : List LogEvent} (hrun : logSocket.run .init es = some s) :
    ¬ s.Leaks ↔ logSocket.Meets OpenedInTime .init es :=
  TransitionSystem.not_doomed_iff_meets (I := fun s => ¬ s.Leaks) (D := LogSocket.Leaks)
    (fun _ => id)
    (fun _ _ _ h hC hs => not_leaks_of_inTime h hC (logMoves_of_step hs))
    (fun _ _ _ _ hC hs => leaks_of_late hC (logMoves_of_step hs))
    (fun _ _ _ h hs => leaks_step h (logMoves_of_step hs)) (fun h => nomatch h.1) hrun

/-- The task can come to its end. -/
def LogSocket.CanReturn (s : LogSocket) : Prop :=
  ∃ es t, logSocket.run s es = some t ∧ t.sendLines = .returned

lemma LogSocket.CanReturn.cons (hs : logStep s e = some t) (h : t.CanReturn) : s.CanReturn := by
  obtain ⟨es, u, hrun, hreturned⟩ := h
  exact ⟨e :: es, u, TransitionSystem.run_cons_some.mpr ⟨t, hs, hrun⟩, hreturned⟩

/-- While the log file stays set, it does not. -/
lemma not_canReturn (h : s.Leaks) (hordered : Ordered s) : ¬ s.CanReturn := by
  rintro ⟨es, t, hrun, hreturned⟩
  have hreach := TransitionSystem.reach_of_run (TransitionSystem.meets_true _ es) hrun
  obtain ⟨hleaks, hlast⟩ : t.Leaks ∧ Ordered t := by
    apply hreach.invariant (P := fun s => s.Leaks ∧ Ordered s) ⟨h, hordered⟩
    intro s e t hs _ hstep
    have hmoves := logMoves_of_step hstep
    exact ⟨leaks_step hs.1 hmoves, hs.2.step hmoves⟩
  exact absurd (hleaks.2.symm.trans (hlast.returned hreturned)) (by decide)

section

variable (hunset : s.logfile = false)

include hunset

lemma canReturn_of_looping (hat : s.sendLines = .looping) : s.CanReturn := by
  apply LogSocket.CanReturn.cons (e := .sendLines)
    (t := { s with sendLines := if s.logfile then .reading else .returned })
  · change sendLinesStep s = _
    unfold sendLinesStep
    rw [hat]
  · rw [hunset]
    exact ⟨[], _, rfl, rfl⟩

lemma canReturn_of_line (hgone : s.gone = true) {text : List Char}
    (hat : s.sendLines = .line text) : s.CanReturn := by
  apply LogSocket.CanReturn.cons (e := .sendLines) (t := { s with sendLines := .looping })
  · change sendLinesStep s = _
    unfold sendLinesStep
    rw [hat]
    exact if_pos hgone
  · exact canReturn_of_looping hunset rfl

lemma canReturn_of_reading (hgone : s.gone = true) (hat : s.sendLines = .reading) :
    s.CanReturn := by
  have hstep : ∃ t, logStep s .sendLines = some t := by
    change ∃ t, sendLinesStep s = some t
    unfold sendLinesStep
    rw [hat]
    dsimp only
    split
    · exact ⟨_, rfl⟩
    · split
      · exact ⟨_, rfl⟩
      · exact ⟨_, rfl⟩
  obtain ⟨t, hstep⟩ := hstep
  have hmoves : LogMoves s .sendLines t := logMoves_of_step hstep
  apply LogSocket.CanReturn.cons hstep
  cases hmoves with
  | test hlooping => exact nomatch hat.symm.trans hlooping
  | send hline => exact nomatch hat.symm.trans hline
  | error => exact canReturn_of_looping hunset rfl
  | read => exact canReturn_of_line hunset hgone rfl

end

/-- Once the websocket is closed and `close_logfile` is over, the task that sends the lines comes to
an end if and only if the log file was opened in time. Otherwise it never does. -/
theorem task_ends_iff {es : List LogEvent} (hrun : logSocket.run .init es = some s)
    (hclosed : s.closeLogfile = .returned) (hcreated : s.sendLines ≠ .absent) :
    (∃ more t, logSocket.run s more = some t ∧ t.sendLines = .returned) ↔
      logSocket.Meets OpenedInTime .init es := by
  obtain ⟨hordered, -⟩ := ordered_forwards_of_run hrun
  rw [← not_leaks_iff hrun]
  constructor
  · exact fun h hleaks => not_canReturn hleaks hordered h
  · intro hleaks
    have hunset : s.logfile = false := by
      rw [← Bool.not_eq_true]
      exact fun hset => hleaks ⟨hclosed, hset⟩
    have hgone : s.gone = true := hordered.gone (by simp [hclosed])
    cases hat : s.sendLines with
    | absent => exact absurd hat hcreated
    | looping => exact canReturn_of_looping hunset hat
    | reading => exact canReturn_of_reading hunset hgone hat
    | line text => exact canReturn_of_line hunset hgone hat
    | returned => exact ⟨[], s, rfl, hat⟩

/-- The client leaves while `aiofiles.open` still waits. -/
def leaveEarly : List LogEvent :=
  [.disconnect, .onClose, .closeLogfile, .opened, .configured true, .sendLines, .sendLines]

def leftEarly : LogSocket :=
  ⟨[], .returned, true, false, 0, .looping, .returned, true, []⟩

theorem task_ends_iff_leftEarly : logSocket.run .init leaveEarly = some leftEarly ∧
    ¬ ∃ more t, logSocket.run leftEarly more = some t ∧ t.sendLines = .returned := by
  have hrun : logSocket.run .init leaveEarly = some leftEarly := by decide +kernel
  refine ⟨hrun, fun hends => ?_⟩
  have hmeets := (task_ends_iff hrun rfl (by decide)).mp hends
  exact hmeets.2 _ rfl |>.2 _ rfl |>.2 _ rfl |>.1 rfl

end Webterminal

end RiotPlayground
