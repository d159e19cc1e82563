import Mathlib.Logic.Function.Iterate
import RiotPlayground.Websniffer.CaptureLog

/-!
# `config` of `websniffer/sniffer.py`

`config` asks the node for its interfaces and then sets up the first one with three commands,
waiting for the shell prompt after each. The serial port is what it still delivers: its lines in
order, and then an empty read each time the timeout expires. One step of the machine is one
`readline` with what `config` does until the next.
-/

namespace RiotPlayground

open PyText

/-- What ends `config` early. -/
inductive ConfigError
  | assertion (msg : String)
  | value
  | unicodeDecode
deriving DecidableEq

/-- Where `config` waits for a line: for the interface, or for the prompt after a command with
the commands `cmds` still to send. -/
inductive ConfigPhase
  | iface
  | prompt (cmds : List (List Char))
  | returned
  | raised (exc : ConfigError)
deriving DecidableEq

def ConfigPhase.final : ConfigPhase → Bool
  | .iface | .prompt _ => false
  | .returned | .raised _ => true

/-- `written` is what was sent to the node and `prompts` the number of prompts waited for. -/
structure Config where
  phase : ConfigPhase
  port : List (List UInt8)
  written : List (List Char)
  prompts : ℕ
deriving DecidableEq

/-- `port.readline()`, with a timeout. -/
def readline : List (List UInt8) → List UInt8 × List (List UInt8)
  | [] => ([], [])
  | line :: port => (line, port)

/-- Group 1 of `^Iface +(\d+)`. -/
def matchIface (U : Unicode) (line : List Char) : Option (List Char) :=
  let spaces := line.drop 5
  if "Iface".toList <+: line ∧ spaces.head? = some ' ' then
    let digits := (spaces.dropWhile (· = ' ')).takeWhile (isDecimal U)
    if digits = [] then none else some digits
  else none

def promptMark : List Char := "> ".toList

namespace Config

def cmds (channel : List Char) (iface : ℕ) : List (List Char) :=
  ["ifconfig ".toList ++ Nat.toDigits 10 iface ++ " set chan ".toList ++ channel,
    "ifconfig ".toList ++ Nat.toDigits 10 iface ++ " raw".toList,
    "ifconfig ".toList ++ Nat.toDigits 10 iface ++ " promisc".toList]

def send (s : Config) (cmd : List Char) : Config :=
  { s with written := s.written ++ [cmd ++ ['\n']] }

/-- The head of the `for` loop. -/
def next (s : Config) : List (List Char) → Config
  | [] => { s with phase := .returned }
  | cmd :: cmds => { s.send cmd with phase := .prompt cmds }

def start (port : List (List UInt8)) : Config :=
  send ⟨.iface, port, [], 0⟩ "ifconfig".toList

def raise (s : Config) (exc : ConfigError) : Config := { s with phase := .raised exc }

variable (U : Unicode) (maxDigits : Option ℕ) (channel : List Char)

/-- One pass of the first loop. -/
def stepIface (s : Config) (line : List UInt8) : Config :=
  if line = [] then s.raise (.assertion "Application has no network interface defined")
  else
    match matchIface U (decode line) with
    | some digits =>
      if tooManyDigits maxDigits digits then s.raise .value
      else s.next (cmds channel (intBase10 U digits))
    | none => s

/-- One pass of the second loop, and of the `for` loop when it ends. -/
def stepPrompt (s : Config) (cmds : List (List Char)) (line : List UInt8) : Config :=
  match decodeStrict line with
  | some line =>
    if promptMark <+: line then { s with prompts := s.prompts + 1 }.next cmds else s
  | none => s.raise .unicodeDecode

def step (s : Config) : Config :=
  let (line, port) := readline s.port
  match s.phase with
  | .iface => stepIface U maxDigits channel { s with port := port } line
  | .prompt cmds => stepPrompt { s with port := port } cmds line
  | .returned | .raised _ => s

/-- `config` has raised, or it has returned with all commands sent and a prompt seen for each. -/
def Ended (s : Config) : Prop :=
  (∃ exc, s.phase = .raised exc) ∨
    s.phase = .returned ∧ s.prompts = 3 ∧
      ∃ iface, s.written = ("ifconfig".toList :: cmds channel iface).map (· ++ ['\n'])

/-- The run of `config` on these lines, followed by timeouts only, comes to an end. -/
def Terminates (port : List (List UInt8)) : Prop :=
  ∃ n, Ended channel ((step U maxDigits channel)^[n] (start port))

def isPrompt (line : List UInt8) : Bool := (decodeStrict line).any promptMark.isPrefixOf

/-- After the interface line: three prompts, or a line that is not UTF-8. -/
def Prompted (count : ℕ) (lines : List (List UInt8)) : Prop :=
  (∃ line ∈ lines, decodeStrict line = none) ∨ count ≤ lines.countP isPrompt

/-- No interface line comes before the first empty read, its number is too long, or prompts
follow it. -/
def Answered : List (List UInt8) → Prop
  | [] => True
  | line :: lines =>
    if line = [] then True
    else
      match matchIface U (decode line) with
      | some digits => tooManyDigits maxDigits digits ∨ Prompted 3 lines
      | none => Answered lines

section

variable {U maxDigits channel}

lemma step_of_silent {s : Config} {cs : List (List Char)} (hphase : s.phase = .prompt cs)
    (hport : s.port = []) : step U maxDigits channel s = s := by
  obtain ⟨phase, port, written, prompts⟩ := s
  subst hphase hport
  rfl

/-- The node names its interface and says nothing more. -/
theorem silentNode_not_terminates : ¬ ∀ U maxDigits channel port,
    Terminates U maxDigits channel port := by
  intro h
  obtain ⟨n, hn⟩ := h asciiOnly none ['2', '6'] [encode "Iface  7  HWaddr: 79:F1\n".toList]
  cases n with
  | zero => rcases hn with ⟨exc, hexc⟩ | ⟨hret, -⟩ <;> contradiction
  | succ n =>
    rw [Function.iterate_succ_apply, Function.iterate_fixed (step_of_silent rfl rfl)] at hn
    rcases hn with ⟨exc, hexc⟩ | ⟨hret, -⟩ <;> contradiction

/-- The commands of some interface have been sent up to those still to come, and a prompt was
seen for each but the last of them. -/
def Sent (channel : List Char) (s : Config) : Prop :=
  match s.phase with
  | .iface => s.written = ["ifconfig\n".toList] ∧ s.prompts = 0
  | .prompt cs => s.prompts + cs.length = 2 ∧ ∃ iface,
      s.written ++ cs.map (· ++ ['\n']) =
        ("ifconfig".toList :: cmds channel iface).map (· ++ ['\n'])
  | .returned => s.prompts = 3 ∧ ∃ iface,
      s.written = ("ifconfig".toList :: cmds channel iface).map (· ++ ['\n'])
  | .raised _ => True

lemma sent_next {s : Config} {cs : List (List Char)} {i : ℕ}
    (hprompts : s.prompts + cs.length = 3)
    (hwritten : s.written ++ cs.map (· ++ ['\n']) =
      ("ifconfig".toList :: cmds channel i).map (· ++ ['\n'])) :
    (s.next cs).Sent channel := by
  cases cs with
  | nil =>
    rw [List.map_nil, List.append_nil] at hwritten
    exact ⟨hprompts, i, hwritten⟩
  | cons cmd cs =>
    rw [List.map_cons, List.append_cons] at hwritten
    rw [List.length_cons] at hprompts
    exact ⟨Nat.succ.inj hprompts, i, hwritten⟩

lemma sent_stepIface {s : Config} (hphase : s.phase = .iface) (h : s.Sent channel)
    (line : List UInt8) : (stepIface U maxDigits channel s line).Sent channel := by
  rw [Sent, hphase] at h
  obtain ⟨hwritten, hprompts⟩ := h
  rw [stepIface]
  split
  · trivial
  · split
    · rename_i digits _
      split
      · trivial
      · apply sent_next (i := intBase10 U digits)
        · rw [hprompts]
          rfl
        · rw [hwritten]
          rfl
    · rw [Sent, hphase]
      exact ⟨hwritten, hprompts⟩

lemma sent_stepPrompt {s : Config} {cs : List (List Char)} (hphase : s.phase = .prompt cs)
    (h : s.Sent channel) (line : List UInt8) : (stepPrompt s cs line).Sent channel := by
  have hsent := h
  rw [Sent, hphase] at h
  obtain ⟨hprompts, iface, hwritten⟩ := h
  rw [stepPrompt]
  split
  · split
    · apply sent_next (i := iface)
      · rw [Nat.succ_add, hprompts]
      · exact hwritten
    · exact hsent
  · trivial

lemma sent_step {s : Config} (h : s.Sent channel) :
    (step U maxDigits channel s).Sent channel := by
  have hport : Sent channel { s with port := (readline s.port).2 } := h
  unfold step
  dsimp only
  split
  · rename_i hphase
    exact sent_stepIface (s := { s with port := (readline s.port).2 }) hphase hport _
  · rename_i cs hphase
    exact sent_stepPrompt (s := { s with port := (readline s.port).2 }) hphase hport _
  · exact h
  · exact h

lemma sent_iterate (port : List (List UInt8)) (n : ℕ) :
    ((step U maxDigits channel)^[n] (start port)).Sent channel := by
  induction n with
  | zero => exact ⟨rfl, rfl⟩
  | succ n ih =>
    rw [Function.iterate_succ_apply']
    exact sent_step ih

lemma Sent.ended_iff {s : Config} (h : s.Sent channel) : s.Ended channel ↔ s.phase.final := by
  rw [Sent] at h
  cases hphase : s.phase with
  | iface => simp [Ended, hphase, ConfigPhase.final]
  | prompt cs => simp [Ended, hphase, ConfigPhase.final]
  | returned =>
    rw [hphase] at h
    exact iff_of_true (.inr ⟨hphase, h⟩) rfl
  | raised exc => exact iff_of_true (.inl ⟨exc, hphase⟩) rfl

variable (U maxDigits channel) in
def Halts (s : Config) : Prop := ∃ n, ((step U maxDigits channel)^[n] s).phase.final

lemma terminates_iff_halts {port : List (List UInt8)} :
    Terminates U maxDigits channel port ↔ (start port).Halts U maxDigits channel :=
  exists_congr fun n => (sent_iterate port n).ended_iff

lemma step_of_final {s : Config} (h : s.phase.final) : step U maxDigits channel s = s := by
  unfold step
  cases hphase : s.phase with
  | iface => simp [hphase, ConfigPhase.final] at h
  | prompt cs => simp [hphase, ConfigPhase.final] at h
  | returned => rfl
  | raised exc => rfl

lemma halts_of_final {s : Config} (h : s.phase.final) : s.Halts U maxDigits channel := ⟨0, h⟩

/-- A step does not change whether the run comes to an end. -/
lemma halts_step {s : Config} :
    (step U maxDigits channel s).Halts U maxDigits channel ↔ s.Halts U maxDigits channel := by
  constructor
  · rintro ⟨n, hn⟩
    exact ⟨n + 1, hn⟩
  · rintro ⟨n, hn⟩
    cases n with
    | zero =>
      have hfinal : s.phase.final := hn
      rw [step_of_final hfinal]
      exact halts_of_final hfinal
    | succ n => exact ⟨n, hn⟩

lemma not_halts_of_step_eq {s : Config} (hs : step U maxDigits channel s = s)
    (h : ¬ s.phase.final) : ¬ s.Halts U maxDigits channel := by
  rintro ⟨n, hn⟩
  rw [Function.iterate_fixed hs] at hn
  exact h hn

lemma prompted_cons_of_none {count : ℕ} {line : List UInt8} {lines : List (List UInt8)}
    (h : decodeStrict line = none) : Prompted count (line :: lines) :=
  .inl ⟨line, List.mem_cons_self, h⟩

lemma prompted_cons_of_prompt {count : ℕ} {line : List UInt8} {lines : List (List UInt8)}
    (hsome : (decodeStrict line).isSome) (h : isPrompt line) :
    Prompted (count + 1) (line :: lines) ↔ Prompted count lines := by
  simp [Prompted, h, Option.isSome_iff_ne_none.mp hsome]

lemma prompted_cons_of_other {count : ℕ} {line : List UInt8} {lines : List (List UInt8)}
    (hsome : (decodeStrict line).isSome) (h : ¬ isPrompt line) :
    Prompted count (line :: lines) ↔ Prompted count lines := by
  simp [Prompted, h, Option.isSome_iff_ne_none.mp hsome]

/-- While `config` waits for a prompt, by induction on the lines still to come. -/
lemma halts_prompt (lines : List (List UInt8)) {s : Config} {cs : List (List Char)}
    (hphase : s.phase = .prompt cs) (hport : s.port = lines) :
    s.Halts U maxDigits channel ↔ Prompted (cs.length + 1) lines := by
  induction lines generalizing s cs with
  | nil =>
    apply iff_of_false
    · apply not_halts_of_step_eq (step_of_silent hphase hport)
      simp [hphase, ConfigPhase.final]
    · simp [Prompted]
  | cons line lines ih =>
    have hstep : step U maxDigits channel s = stepPrompt { s with port := lines } cs line := by
      simp only [step, hport, hphase, readline]
    rw [← halts_step, hstep, stepPrompt]
    cases htext : decodeStrict line with
    | none => exact iff_of_true (halts_of_final rfl) (prompted_cons_of_none htext)
    | some text =>
      have hsome : (decodeStrict line).isSome := by rw [htext]; rfl
      by_cases hmark : promptMark <+: text
      · have hprompt : isPrompt line := by
          rw [isPrompt, htext]
          exact List.isPrefixOf_iff_prefix.mpr hmark
        rw [prompted_cons_of_prompt hsome hprompt]
        simp only [hmark, if_true]
        cases cs with
        | nil => exact iff_of_true (halts_of_final rfl) (.inr (Nat.zero_le _))
        | cons cmd cs => exact ih rfl rfl
      · have hprompt : ¬ isPrompt line := by
          rw [isPrompt, htext]
          exact fun h => hmark (List.isPrefixOf_iff_prefix.mp h)
        rw [prompted_cons_of_other hsome hprompt]
        simp only [hmark, if_false]
        exact ih hphase rfl

/-- While `config` waits for the interface. -/
lemma halts_iface (lines : List (List UInt8)) {s : Config} (hphase : s.phase = .iface)
    (hport : s.port = lines) : s.Halts U maxDigits channel ↔ Answered U maxDigits lines := by
  induction lines generalizing s with
  | nil =>
    apply iff_of_true _ trivial
    rw [← halts_step]
    apply halts_of_final
    simp [step, hport, hphase, readline, stepIface, raise, ConfigPhase.final]
  | cons line lines ih =>
    have hstep : step U maxDigits channel s =
        stepIface U maxDigits channel { s with port := lines } line := by
      simp only [step, hport, hphase, readline]
    rw [← halts_step, hstep, stepIface, Answered]
    by_cases hnil : line = []
    · rw [if_pos hnil, if_pos hnil]
      exact iff_of_true (halts_of_final rfl) trivial
    · rw [if_neg hnil, if_neg hnil]
      cases hmatch : matchIface U (decode line) with
      | none => exact ih hphase rfl
      | some digits =>
        dsimp only
        by_cases hmany : tooManyDigits maxDigits digits
        · rw [if_pos hmany]
          exact iff_of_true (halts_of_final rfl) (.inl hmany)
        · rw [if_neg hmany]
          apply (halts_prompt lines rfl rfl).trans
          exact (or_iff_right hmany).symm

/-- `config` terminates exactly when the node names no interface or goes on to answer. -/
theorem terminates_iff_answered (U : Unicode) (maxDigits : Option ℕ) (channel : List Char)
    (port : List (List UInt8)) :
    Terminates U maxDigits channel port ↔ Answered U maxDigits port := by
  rw [terminates_iff_halts]
  exact halts_iface port rfl rfl

end

end Config

end RiotPlayground
