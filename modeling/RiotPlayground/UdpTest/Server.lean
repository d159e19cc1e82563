import RiotPlayground.UdpTest.Send

/-!
# The UDP server of `udp_test/udp.c`

The thread `_eventloop` counts the packets, and the shell starts and stops it, which takes several
statements. The stack gives packets to the server at any time; the shell runs when the server waits
for a message, since the server has the higher priority.
-/

namespace RiotPlayground

open Directive

namespace UdpTest

/-- `α` are the addresses of the packets. -/
inductive Msg (α : Type*)
  | rcv (pkt : α)
  | getSet
  | reset
  | other
  deriving DecidableEq

/-- Which statement of the shell is next. -/
inductive Shell
  | prompt
  | create (port : UInt16)
  | init (port : UInt16)
  | register (port : UInt16)
  | stopReset
  | unregister
  | undef
  | reset
  | clearCount
  deriving DecidableEq

inductive Command
  | fail (line : String)
  | send (addrStr portStr dataLenStr : List Char) (num : ℕ)
  | start (portStr : List Char)
  | stop
  | reset

/-- `server_pid` and the entry `server`, with whether it is in the registry. Process identifiers are
those of the kernel, where `KERNEL_PID_UNDEF` is 0. -/
structure Server where
  serverPid : ℤ
  target : ℤ
  demuxCtx : UInt32
  registered : Bool

/-- `waiting` are the message that the server works on and those in its queue, and `printed` are the
numbers it prints. -/
structure State (α A : Type*) where
  server : Server
  sendCount : UInt8
  shell : Shell
  waiting : List (Msg α)
  rcvCount : UInt32
  printed : List UInt32
  released : List α
  replies : ℕ
  lines : List String
  datagrams : List (Datagram A)

variable {α A : Type*}

def State.boot : State α A where
  server := ⟨0, 0, 0, false⟩
  sendCount := 0
  shell := .prompt
  waiting := []
  rcvCount := 0
  printed := []
  released := []
  replies := 0
  lines := []
  datagrams := []

def State.puts (s : State α A) (line : String) : State α A := { s with lines := s.lines ++ [line] }

@[simp] lemma puts_server (s : State α A) (line : String) : (s.puts line).server = s.server := rfl

def SERVER_MSG_QUEUE_SIZE : ℕ := 8

/-- `msg_try_send` to the server. -/
def State.enqueue (s : State α A) (m : Msg α) : Option (State α A) :=
  if s.waiting.length ≤ SERVER_MSG_QUEUE_SIZE then some { s with waiting := s.waiting ++ [m] }
  else none

/-- What `_eventloop` does with a message. -/
def eventloop (s : State α A) : Msg α → State α A
  | .rcv pkt =>
    { s with
      rcvCount := s.rcvCount + 1
      printed := s.printed ++ [s.rcvCount + 1]
      released := s.released ++ [pkt] }
  | .getSet => { s with replies := s.replies + 1 }
  | .reset => { s with rcvCount := 0 }
  | .other => s

/-- One pass through `_eventloop`. -/
def handle (s : State α A) : Option (State α A) :=
  match s.waiting with
  | [] => none
  | m :: waiting => some (eventloop { s with waiting := waiting } m)

/-- `gnrc_netapi_dispatch_receive` for a packet to `port`; it releases what it can not send. -/
def deliver (s : State α A) (port : UInt16) (pkt : α) : State α A :=
  if s.server.registered = true ∧ s.server.demuxCtx = port.toUInt32 then
    (s.enqueue (.rcv pkt)).getD { s with released := s.released ++ [pkt] }
  else { s with released := s.released ++ [pkt] }

/-- `udp_cmd`, up to the call of the function for the command. -/
def udpCmd (name : List Char) (args : List (List Char)) : Command :=
  let usage (text : String) := Command.fail ("usage" ++ text)
  let name := String.ofList name
  match args with
  | [] => usage (": " ++ name ++ " [send|server|reset]\n")
  | arg :: args =>
    if arg = ['s', 'e', 'n', 'd'] then
      match args with
      | addrStr :: portStr :: dataLenStr :: more =>
        .send addrStr portStr dataLenStr (more.head?.elim 1 fun num => (atoi num).toUInt32.toNat)
      | _ => usage (": " ++ name ++ " send <addr> <port> <bytes> [<num> [<delay in us>]]\n")
    else if arg = ['s', 'e', 'r', 'v', 'e', 'r'] then
      match args with
      | [] => usage (": " ++ name ++ " server [start|stop]\n")
      | arg :: args =>
        if arg = ['s', 't', 'a', 'r', 't'] then
          match args with
          | [] => usage (" " ++ name ++ " server start <port>\n")
          | portStr :: _ => .start portStr
        else if arg = ['s', 't', 'o', 'p'] then .stop
        else .fail "error: invalid command\n"
    else if arg = ['r', 'e', 's', 'e', 't'] then .reset
    else .fail "error: invalid command\n"

/-- `start_server`, up to the first of its statements that another thread sees. -/
def startServer (s : State α A) (portStr : List Char) : State α A :=
  if s.server.target ≠ 0 then
    s.puts ("Error: server already running on port " ++ toString s.server.demuxCtx ++ "\n")
  else
    let port := (atoi portStr).toUInt32.toUInt16
    if port = 0 then s.puts "Error: invalid port specified\n"
    else { s with shell := if s.server.serverPid ≤ 0 then .create port else .init port }

/-- `stop_server`, up to `msg_send`. -/
def stopServer (s : State α A) : State α A :=
  if s.server.target = 0 then s.puts "Error: server was not running\n"
  else { s with shell := .stopReset }

def command (fromStr : List Char → Option A) (answers : ℕ → Answers α) (s : State α A) :
    Command → State α A
  | .fail line => s.puts line
  | .send addrStr portStr dataLenStr num =>
    let r := send fromStr answers addrStr portStr dataLenStr num s.sendCount
    { s with
      sendCount := s.sendCount + UInt8.ofNat r.allocated
      lines := s.lines ++ r.lines
      datagrams := s.datagrams ++ r.datagrams }
  | .start portStr => startServer s portStr
  | .stop => stopServer s
  | .reset => if 0 < s.server.serverPid then { s with shell := .reset } else s

/-- The next statement of `start_server`, `stop_server` or `udp reset`. `pid` is what
`thread_create` returns. -/
def shellStep (s : State α A) (pid : ℤ) : Option (State α A) :=
  match s.shell with
  | .prompt => none
  | .create port =>
    let s := { s with server.serverPid := pid }
    some (if pid ≤ 0 then { s.puts "Error: can not start server thread\n" with shell := .prompt }
      else { s with shell := .init port })
  | .init port =>
    some { s with
      server.target := s.server.serverPid
      server.demuxCtx := port.toUInt32
      shell := .register port }
  | .register port =>
    some { s.puts ("Success: started UDP server on port " ++ toString port ++ "\n") with
      server.registered := true
      shell := .prompt }
  | .stopReset => (s.enqueue .reset).map fun s => { s with shell := .unregister }
  | .unregister => some { s with server.registered := false, shell := .undef }
  | .undef =>
    some { s.puts "Success: stopped UDP server\n" with
      server.target := 0
      server.demuxCtx := 0
      shell := .prompt }
  | .reset => (s.enqueue .reset).map fun s => { s with shell := .clearCount }
  | .clearCount => some { s with sendCount := 0, shell := .prompt }

/-- `netapi` is a message of another thread to the server. -/
inductive Event (α : Type*)
  | cmd (name : List Char) (args : List (List Char)) (answers : ℕ → Answers α)
  | shell (pid : ℤ)
  | deliver (port : UInt16) (pkt : α)
  | netapi (set : Bool)
  | handle

def step (fromStr : List Char → Option A) (s : State α A) : Event α → Option (State α A)
  | .cmd name args answers =>
    if s.waiting.isEmpty = true ∧ s.shell = .prompt then
      some (command fromStr answers s (udpCmd name args))
    else none
  | .shell pid => if s.waiting.isEmpty = true then shellStep s pid else none
  | .deliver port pkt => some (deliver s port pkt)
  | .netapi set =>
    if 0 < s.server.serverPid then s.enqueue (if set then .getSet else .other) else none
  | .handle => handle s

def system (fromStr : List Char → Option A) : TransitionSystem (State α A) (Event α) :=
  ⟨step fromStr⟩

variable {fromStr : List Char → Option A} {s t : State α A} {e : Event α}

/-- A packet to `port` gets into the queue of the server. -/
def State.Takes (s : State α A) (port : UInt16) : Prop :=
  s.server.registered = true ∧ s.server.demuxCtx = port.toUInt32 ∧
    s.waiting.length ≤ SERVER_MSG_QUEUE_SIZE

instance (s : State α A) (port : UInt16) : Decidable (s.Takes port) :=
  inferInstanceAs (Decidable (_ ∧ _ ∧ _))

/-- What a step can do. -/
inductive Moves (fromStr : List Char → Option A) (s : State α A) : Event α → State α A → Prop
  | line {name args answers} (line : String) (hprompt : s.shell = .prompt) :
      Moves fromStr s (.cmd name args answers) (s.puts line)
  | send {name args answers} (addrStr portStr dataLenStr : List Char) (num : ℕ)
      (hprompt : s.shell = .prompt) :
      Moves fromStr s (.cmd name args answers)
        (command fromStr answers s (.send addrStr portStr dataLenStr num))
  | toCreate {name args answers} (port : UInt16) (hprompt : s.shell = .prompt)
      (htarget : s.server.target = 0) (hport : port ≠ 0) (hpid : s.server.serverPid ≤ 0) :
      Moves fromStr s (.cmd name args answers) { s with shell := .create port }
  | toInit {name args answers} (port : UInt16) (hprompt : s.shell = .prompt)
      (htarget : s.server.target = 0) (hport : port ≠ 0) (hpid : 0 < s.server.serverPid) :
      Moves fromStr s (.cmd name args answers) { s with shell := .init port }
  | toStop {name args answers} (hprompt : s.shell = .prompt) (htarget : s.server.target ≠ 0) :
      Moves fromStr s (.cmd name args answers) { s with shell := .stopReset }
  | toReset {name args answers} (hprompt : s.shell = .prompt) (hpid : 0 < s.server.serverPid) :
      Moves fromStr s (.cmd name args answers) { s with shell := .reset }
  | ignored {name args answers} (hprompt : s.shell = .prompt) :
      Moves fromStr s (.cmd name args answers) s
  | created {port : UInt16} (pid : ℤ) (hshell : s.shell = .create port) (hpid : 0 < pid) :
      Moves fromStr s (.shell pid) { s with server.serverPid := pid, shell := .init port }
  | failed {port : UInt16} (pid : ℤ) (hshell : s.shell = .create port) (hpid : pid ≤ 0) :
      Moves fromStr s (.shell pid)
        { s.puts "Error: can not start server thread\n" with
          server.serverPid := pid
          shell := .prompt }
  | init {port : UInt16} (pid : ℤ) (hshell : s.shell = .init port) :
      Moves fromStr s (.shell pid)
        { s with
          server.target := s.server.serverPid
          server.demuxCtx := port.toUInt32
          shell := .register port }
  | register {port : UInt16} (pid : ℤ) (hshell : s.shell = .register port) :
      Moves fromStr s (.shell pid)
        { s.puts ("Success: started UDP server on port " ++ toString port ++ "\n") with
          server.registered := true
          shell := .prompt }
  | stopReset (pid : ℤ) (hshell : s.shell = .stopReset) (hwaiting : s.waiting = []) :
      Moves fromStr s (.shell pid) { s with waiting := [.reset], shell := .unregister }
  | unregister (pid : ℤ) (hshell : s.shell = .unregister) :
      Moves fromStr s (.shell pid) { s with server.registered := false, shell := .undef }
  | undef (pid : ℤ) (hshell : s.shell = .undef) :
      Moves fromStr s (.shell pid)
        { s.puts "Success: stopped UDP server\n" with
          server.target := 0
          server.demuxCtx := 0
          shell := .prompt }
  | reset (pid : ℤ) (hshell : s.shell = .reset) (hwaiting : s.waiting = []) :
      Moves fromStr s (.shell pid) { s with waiting := [.reset], shell := .clearCount }
  | clearCount (pid : ℤ) (hshell : s.shell = .clearCount) :
      Moves fromStr s (.shell pid) { s with sendCount := 0, shell := .prompt }
  | taken (port : UInt16) (pkt : α) (htakes : s.Takes port) :
      Moves fromStr s (.deliver port pkt) { s with waiting := s.waiting ++ [.rcv pkt] }
  | dropped (port : UInt16) (pkt : α) (htakes : ¬ s.Takes port) :
      Moves fromStr s (.deliver port pkt) { s with released := s.released ++ [pkt] }
  | netapi (set : Bool) (m : Msg α) (hpid : 0 < s.server.serverPid) (hm : m = .getSet ∨ m = .other)
      (hroom : s.waiting.length ≤ SERVER_MSG_QUEUE_SIZE) :
      Moves fromStr s (.netapi set) { s with waiting := s.waiting ++ [m] }
  | handle (m : Msg α) (waiting : List (Msg α)) (hwaiting : s.waiting = m :: waiting) :
      Moves fromStr s .handle (eventloop { s with waiting := waiting } m)

lemma moves_startServer {name : List Char} {args : List (List Char)} {answers : ℕ → Answers α}
    (hprompt : s.shell = .prompt) (portStr : List Char) :
    Moves fromStr s (.cmd name args answers) (startServer s portStr) := by
  unfold startServer
  by_cases htarget : s.server.target = 0
  · rw [if_neg (not_not_intro htarget)]
    dsimp only
    by_cases hport : (atoi portStr).toUInt32.toUInt16 = 0
    · rw [if_pos hport]
      exact .line _ hprompt
    · rw [if_neg hport]
      by_cases hpid : s.server.serverPid ≤ 0
      · rw [if_pos hpid]
        exact .toCreate _ hprompt htarget hport hpid
      · rw [if_neg hpid]
        exact .toInit _ hprompt htarget hport (by omega)
  · rw [if_pos htarget]
    exact .line _ hprompt

/-- What `udp_cmd` can begin with. -/
lemma moves_command {name : List Char} {args : List (List Char)} {answers : ℕ → Answers α}
    (hprompt : s.shell = .prompt) (c : Command) :
    Moves fromStr s (.cmd name args answers) (command fromStr answers s c) := by
  cases c with
  | fail line => exact .line line hprompt
  | send addrStr portStr dataLenStr num => exact .send addrStr portStr dataLenStr num hprompt
  | start portStr => exact moves_startServer hprompt portStr
  | stop =>
    change Moves fromStr s _ (stopServer s)
    unfold stopServer
    split
    case isTrue htarget => exact .line _ hprompt
    case isFalse htarget => exact .toStop hprompt htarget
  | reset =>
    change Moves fromStr s _ (if 0 < s.server.serverPid then { s with shell := .reset } else s)
    split
    case isTrue hpid => exact .toReset hprompt hpid
    case isFalse hpid => exact .ignored hprompt

lemma enqueue_eq_some {m : Msg α} :
    s.enqueue m = some t ↔
      s.waiting.length ≤ SERVER_MSG_QUEUE_SIZE ∧ { s with waiting := s.waiting ++ [m] } = t := by
  unfold State.enqueue
  rw [Option.ite_none_right_eq_some, Option.some.injEq]

lemma moves_shellStep {pid : ℤ} (hwaiting : s.waiting = []) (hs : shellStep s pid = some t) :
    Moves fromStr s (.shell pid) t := by
  have hroom : ∀ m : Msg α, s.enqueue m = some { s with waiting := [m] } := by
    intro m
    refine enqueue_eq_some.mpr ⟨by rw [hwaiting]; exact Nat.zero_le _, ?_⟩
    rw [hwaiting]
    rfl
  unfold shellStep at hs
  split at hs
  case h_1 => cases hs
  case h_2 port hshell =>
    obtain rfl := Option.some.inj hs
    dsimp only
    split
    case isTrue hpid => exact .failed pid hshell hpid
    case isFalse hpid => exact .created pid hshell (by omega)
  case h_3 port hshell =>
    obtain rfl := Option.some.inj hs
    exact .init pid hshell
  case h_4 port hshell =>
    obtain rfl := Option.some.inj hs
    exact .register pid hshell
  case h_5 hshell =>
    rw [hroom] at hs
    obtain rfl := Option.some.inj hs
    exact .stopReset pid hshell hwaiting
  case h_6 hshell =>
    obtain rfl := Option.some.inj hs
    exact .unregister pid hshell
  case h_7 hshell =>
    obtain rfl := Option.some.inj hs
    exact .undef pid hshell
  case h_8 hshell =>
    rw [hroom] at hs
    obtain rfl := Option.some.inj hs
    exact .reset pid hshell hwaiting
  case h_9 hshell =>
    obtain rfl := Option.some.inj hs
    exact .clearCount pid hshell

theorem moves_of_step (hs : step fromStr s e = some t) : Moves fromStr s e t := by
  cases e with
  | cmd name args answers =>
    obtain ⟨⟨hwaiting, hprompt⟩, hs⟩ := Option.ite_none_right_eq_some.mp hs
    obtain rfl := Option.some.inj hs
    exact moves_command hprompt _
  | shell pid =>
    obtain ⟨hwaiting, hs⟩ := Option.ite_none_right_eq_some.mp hs
    exact moves_shellStep (List.isEmpty_iff.mp hwaiting) hs
  | deliver port pkt =>
    obtain rfl := Option.some.inj hs
    unfold deliver State.enqueue
    by_cases hto : s.server.registered = true ∧ s.server.demuxCtx = port.toUInt32
    · rw [if_pos hto]
      split
      case isTrue hroom => exact .taken port pkt ⟨hto.1, hto.2, hroom⟩
      case isFalse hroom => exact .dropped port pkt fun h => hroom h.2.2
    · rw [if_neg hto]
      exact .dropped port pkt fun h => hto ⟨h.1, h.2.1⟩
  | netapi set =>
    obtain ⟨hpid, hs⟩ := Option.ite_none_right_eq_some.mp hs
    obtain ⟨hroom, rfl⟩ := enqueue_eq_some.mp hs
    refine .netapi set _ hpid ?_ hroom
    cases set with
    | true => exact .inl rfl
    | false => exact .inr rfl
  | handle =>
    change handle s = some t at hs
    unfold handle at hs
    split at hs
    case h_1 => cases hs
    case h_2 m waiting hwaiting =>
      obtain rfl := Option.some.inj hs
      exact .handle m waiting hwaiting

def Server.Stopped (s : Server) : Prop := s.target = 0 ∧ s.registered = false

structure Server.Running (s : Server) : Prop where
  thread : 0 < s.serverPid
  target : s.target = s.serverPid
  registered : s.registered = true
  port : s.demuxCtx ≠ 0

/-- What is known of the entry where the shell stands. -/
def Shell.Allows (s : Server) : Shell → Prop
  | .prompt => s.Stopped ∨ s.Running
  | .create port => s.Stopped ∧ port ≠ 0 ∧ s.serverPid ≤ 0
  | .init port => s.Stopped ∧ port ≠ 0 ∧ 0 < s.serverPid
  | .register port =>
    s.registered = false ∧ 0 < s.serverPid ∧ s.target = s.serverPid ∧ port ≠ 0 ∧
      s.demuxCtx = port.toUInt32
  | .stopReset => s.Running
  | .unregister => s.Running
  | .undef => s.registered = false ∧ 0 < s.serverPid
  | .reset => s.Stopped ∨ s.Running
  | .clearCount => s.Stopped ∨ s.Running

def State.Consistent (s : State α A) : Prop := s.shell.Allows s.server

lemma consistent_boot : (State.boot : State α A).Consistent := .inl ⟨rfl, rfl⟩

lemma Server.Running.not_stopped {s : Server} (h : s.Running) : s.target ≠ 0 := by
  rw [h.target]
  have := h.thread
  omega

lemma State.Consistent.allows {sh : Shell} (h : s.Consistent) (hshell : s.shell = sh) :
    sh.Allows s.server :=
  hshell ▸ h

lemma eventloop_server (m : Msg α) : (eventloop s m).server = s.server := by
  cases m <;> rfl

lemma eventloop_shell (m : Msg α) : (eventloop s m).shell = s.shell := by
  cases m <;> rfl

lemma toUInt32_ne_zero {port : UInt16} (h : port ≠ 0) : port.toUInt32 ≠ 0 := by
  intro h0
  apply h
  have := congrArg UInt32.toUInt16 h0
  simpa using this

lemma consistent_step (h : s.Consistent) (hs : step fromStr s e = some t) : t.Consistent := by
  cases moves_of_step hs with
  | line line hprompt => exact h
  | send addrStr portStr dataLenStr num hprompt => exact h
  | toCreate port hprompt htarget hport hpid =>
    exact ⟨(h.allows hprompt).resolve_right fun hrun => hrun.not_stopped htarget, hport, hpid⟩
  | toInit port hprompt htarget hport hpid =>
    exact ⟨(h.allows hprompt).resolve_right fun hrun => hrun.not_stopped htarget, hport, hpid⟩
  | toStop hprompt htarget =>
    exact (h.allows hprompt).resolve_left fun hstopped => htarget hstopped.1
  | toReset hprompt hpid =>
    have hprompt := h.allows hprompt
    exact hprompt
  | ignored hprompt => exact h
  | created pid hshell hpid =>
    obtain ⟨hstopped, hport, -⟩ := h.allows hshell
    exact ⟨hstopped, hport, hpid⟩
  | failed pid hshell hpid => exact .inl (h.allows hshell).1
  | init pid hshell =>
    obtain ⟨hstopped, hport, hpid⟩ := h.allows hshell
    exact ⟨hstopped.2, hpid, rfl, hport, rfl⟩
  | register pid hshell =>
    obtain ⟨-, hpid, htarget, hport, hctx⟩ := h.allows hshell
    refine .inr ⟨hpid, htarget, rfl, ?_⟩
    change s.server.demuxCtx ≠ 0
    rw [hctx]
    exact toUInt32_ne_zero hport
  | stopReset pid hshell hwaiting =>
    have hshell := h.allows hshell
    exact hshell
  | unregister pid hshell => exact ⟨rfl, (h.allows hshell).thread⟩
  | undef pid hshell => exact .inl ⟨rfl, (h.allows hshell).1⟩
  | reset pid hshell hwaiting =>
    have hshell := h.allows hshell
    exact hshell
  | clearCount pid hshell =>
    have hshell := h.allows hshell
    exact hshell
  | taken port pkt htakes => exact h
  | dropped port pkt htakes => exact h
  | netapi set m hpid hm hroom => exact h
  | handle m waiting hwaiting =>
    unfold State.Consistent
    rw [eventloop_server, eventloop_shell]
    exact h

/-! ### What is recorded of a run -/

/-- How many threads were created and which packets came. Of those that got into the queue of the
server since the last `SERVER_RESET`, `late` are the ones between that of `stop_server` and its
`gnrc_netreg_unregister`, and `taken` the others since the last start. Each packet in the queue has
one of the `numbers`, which is those that it comes after and one more. -/
structure Trace (α : Type*) where
  threads : ℕ
  arrived : List α
  late : ℕ
  taken : ℕ
  numbers : List ℕ

def Trace.init : Trace α := ⟨0, [], 0, 0, []⟩

def noteTrace (k : Trace α) (s : State α A) (e : Event α) (_ : State α A) : Trace α where
  threads :=
    match e with
    | .shell pid =>
      match s.shell with
      | .create _ => k.threads + if 0 < pid then 1 else 0
      | _ => k.threads
    | _ => k.threads
  arrived :=
    match e with
    | .deliver _ pkt => k.arrived ++ [pkt]
    | _ => k.arrived
  late :=
    match e with
    | .shell _ =>
      match s.shell with
      | .stopReset | .reset => 0
      | _ => k.late
    | .deliver port _ => k.late + if s.Takes port ∧ s.shell = .unregister then 1 else 0
    | _ => k.late
  taken :=
    match e with
    | .shell _ =>
      match s.shell with
      | .stopReset | .reset | .register _ => 0
      | _ => k.taken
    | .deliver port _ => k.taken + if s.Takes port ∧ s.shell ≠ .unregister then 1 else 0
    | _ => k.taken
  numbers :=
    match e with
    | .deliver port _ => k.numbers ++ if s.Takes port then [k.late + k.taken + 1] else []
    | _ => k.numbers

def traced (fromStr : List Char → Option A) :
    TransitionSystem (State α A × Trace α) (Event α) :=
  (system fromStr).recording noteTrace

/-- The packet of a message. -/
def Msg.pkt? : Msg α → Option α
  | .rcv pkt => some pkt
  | _ => none

/-- What a message does to the count. -/
def Msg.count (c : UInt32) : Msg α → UInt32
  | .rcv _ => c + 1
  | .reset => 0
  | _ => c

/-- The count when the messages that are there will have been handled. -/
def State.settled (s : State α A) : UInt32 := s.waiting.foldl Msg.count s.rcvCount

/-- What is printed for a message. -/
def Msg.number (c : UInt32) : Msg α → List UInt32
  | .rcv _ => [c + 1]
  | _ => []

/-- What will be printed for messages. -/
def numbersOf : UInt32 → List (Msg α) → List UInt32
  | _, [] => []
  | c, m :: ms => m.number c ++ numbersOf (m.count c) ms

variable {k : Trace α}

lemma threads_shell {pid : ℤ} (hcreate : ∀ port, s.shell ≠ .create port) :
    (noteTrace k s (.shell pid) t).threads = k.threads := by
  unfold noteTrace
  dsimp only
  split
  · exact absurd ‹_› (hcreate _)
  · rfl

lemma threads_step (hc : s.Consistent) (hs : step fromStr s e = some t)
    (h : k.threads = if 0 < s.server.serverPid then 1 else 0) :
    (noteTrace k s e t).threads = if 0 < t.server.serverPid then 1 else 0 := by
  cases moves_of_step hs with
  | created pid hshell hpid =>
    have hnone : ¬ 0 < s.server.serverPid := not_lt.mpr (hc.allows hshell).2.2
    simp [noteTrace, hshell, h, hnone, hpid]
  | failed pid hshell hpid =>
    have hnone : ¬ 0 < s.server.serverPid := not_lt.mpr (hc.allows hshell).2.2
    simp [noteTrace, hshell, h, hnone, not_lt.mpr hpid]
  | init pid hshell => exact (threads_shell (by simp [hshell])).trans h
  | register pid hshell => exact (threads_shell (by simp [hshell])).trans h
  | stopReset pid hshell hwaiting => exact (threads_shell (by simp [hshell])).trans h
  | unregister pid hshell => exact (threads_shell (by simp [hshell])).trans h
  | undef pid hshell => exact (threads_shell (by simp [hshell])).trans h
  | reset pid hshell hwaiting => exact (threads_shell (by simp [hshell])).trans h
  | clearCount pid hshell => exact (threads_shell (by simp [hshell])).trans h
  | handle m waiting hwaiting =>
    rw [eventloop_server]
    exact h
  | _ => exact h

lemma arrived_step (hs : step fromStr s e = some t)
    (h : k.arrived.Perm (s.released ++ s.waiting.filterMap Msg.pkt?)) :
    (noteTrace k s e t).arrived.Perm (t.released ++ t.waiting.filterMap Msg.pkt?) := by
  cases moves_of_step hs with
  | stopReset pid hshell hwaiting =>
    rw [hwaiting] at h
    exact h
  | reset pid hshell hwaiting =>
    rw [hwaiting] at h
    exact h
  | taken port pkt htakes =>
    change (k.arrived ++ [pkt]).Perm (s.released ++ (s.waiting ++ [Msg.rcv pkt]).filterMap Msg.pkt?)
    rw [List.filterMap_append, ← List.append_assoc]
    exact h.append_right [pkt]
  | dropped port pkt htakes =>
    change (k.arrived ++ [pkt]).Perm (s.released ++ [pkt] ++ s.waiting.filterMap Msg.pkt?)
    refine (h.append_right [pkt]).trans ?_
    rw [List.append_assoc, List.append_assoc]
    exact List.perm_append_comm.append_left s.released
  | netapi set m hpid hm hroom =>
    change k.arrived.Perm (s.released ++ (s.waiting ++ [m]).filterMap Msg.pkt?)
    have hnone : [m].filterMap Msg.pkt? = [] := by
      rcases hm with rfl | rfl <;> rfl
    rw [List.filterMap_append, hnone, List.append_nil]
    exact h
  | handle m waiting hwaiting =>
    rw [hwaiting] at h
    cases m with
    | rcv pkt =>
      change k.arrived.Perm (s.released ++ [pkt] ++ waiting.filterMap Msg.pkt?)
      rw [List.append_assoc]
      exact h
    | getSet => exact h
    | reset => exact h
    | other => exact h
  | _ => exact h

lemma numbersOf_append (c : UInt32) (ms : List (Msg α)) (m : Msg α) :
    numbersOf c (ms ++ [m]) = numbersOf c ms ++ m.number (ms.foldl Msg.count c) := by
  induction ms generalizing c with
  | nil => exact List.append_nil _
  | cons m' ms ih =>
    rw [List.cons_append, numbersOf, ih, numbersOf, List.foldl_cons, List.append_assoc]

lemma numbersOf_eq_nil {ms : List (Msg α)} (h : ms.filterMap Msg.pkt? = []) (c : UInt32) :
    numbersOf c ms = [] := by
  induction ms generalizing c with
  | nil => rfl
  | cons m ms ih =>
    cases m with
    | rcv pkt => cases h
    | getSet => exact ih h c
    | reset => exact ih h 0
    | other => exact ih h c

/-- The server's count, with what is in the queue, is the number of packets recorded. -/
structure Counted (s : State α A) (k : Trace α) : Prop where
  taken : s.server.registered = false ∨ s.shell = .unregister → k.taken = 0
  settled : s.settled = UInt32.ofNat (k.late + k.taken)
  numbers : k.numbers.map UInt32.ofNat = s.printed ++ numbersOf s.rcvCount s.waiting

/-- Neither the server nor its queue has moved. -/
lemma Counted.frame (h : Counted s k)
    (hreg : t.server.registered = false ∨ t.shell = .unregister →
      s.server.registered = false ∨ s.shell = .unregister)
    (hwaiting : t.waiting = s.waiting) (hcount : t.rcvCount = s.rcvCount)
    (hprinted : t.printed = s.printed) : Counted t k where
  taken ht := h.taken (hreg ht)
  settled := by rw [State.settled, hwaiting, hcount, ← State.settled, h.settled]
  numbers := by rw [hprinted, hwaiting, hcount, h.numbers]

/-- A `SERVER_RESET` into the empty queue. -/
lemma Counted.reset {k' : Trace α} (h : Counted s k) (hempty : s.waiting = [])
    (hwaiting : t.waiting = [.reset]) (hprinted : t.printed = s.printed) (hlate : k'.late = 0)
    (htaken : k'.taken = 0) (hnumbers : k'.numbers = k.numbers) : Counted t k' where
  taken _ := htaken
  settled := by
    rw [State.settled, hwaiting, hlate, htaken]
    rfl
  numbers := by
    rw [hnumbers, h.numbers, hprinted, hwaiting, hempty]
    rfl

lemma Counted.message (h : Counted s k) {m : Msg α} (hm : m = .getSet ∨ m = .other) :
    Counted { s with waiting := s.waiting ++ [m] } k where
  taken := h.taken
  settled := by
    rw [← h.settled, State.settled, List.foldl_append]
    rcases hm with rfl | rfl <;> rfl
  numbers := by
    rw [h.numbers]
    dsimp only
    rw [numbersOf_append]
    rcases hm with rfl | rfl <;> simp [Msg.number]

/-- A packet into the queue has the number that the server will print. -/
lemma Counted.deliver (h : Counted s k) {port : UInt16} (htakes : s.Takes port) (pkt : α) :
    Counted { s with waiting := s.waiting ++ [.rcv pkt] }
      (noteTrace k s (.deliver port pkt) t) where
  taken ht := by
    have hshell : s.shell = .unregister := by
      refine ht.resolve_left fun hreg => ?_
      exact absurd (htakes.1.symm.trans hreg) (by simp)
    simp [noteTrace, hshell, h.taken (.inr hshell)]
  settled := by
    have hsum : (noteTrace k s (.deliver port pkt) t).late +
        (noteTrace k s (.deliver port pkt) t).taken = k.late + k.taken + 1 := by
      by_cases hshell : s.shell = .unregister
      · simp only [noteTrace, htakes, hshell, true_and, if_true, ne_eq, not_true_eq_false, if_false]
        omega
      · simp only [noteTrace, htakes, hshell, true_and, if_true, ne_eq, not_false_eq_true, if_false]
        omega
    rw [hsum, UInt32.ofNat_add, ← h.settled, State.settled, List.foldl_append]
    rfl
  numbers := by
    have hnumber : (Msg.rcv pkt).number (s.waiting.foldl Msg.count s.rcvCount) =
        [UInt32.ofNat (k.late + k.taken + 1)] := by
      rw [UInt32.ofNat_add, ← h.settled]
      rfl
    dsimp only
    rw [numbersOf_append, hnumber, ← List.append_assoc, ← h.numbers]
    simp [noteTrace, htakes]

lemma Counted.handle (h : Counted s k) {m : Msg α} {waiting : List (Msg α)}
    (hwaiting : s.waiting = m :: waiting) :
    Counted (eventloop { s with waiting := waiting } m) k where
  taken ht := by
    rw [eventloop_server, eventloop_shell] at ht
    exact h.taken ht
  settled := by
    rw [← h.settled, State.settled, State.settled, hwaiting]
    cases m <;> rfl
  numbers := by
    rw [h.numbers, hwaiting, numbersOf]
    cases m with
    | rcv pkt => exact (List.append_assoc _ _ _).symm
    | getSet => rfl
    | reset => rfl
    | other => rfl

lemma noteTrace_shell {pid : ℤ} (hstop : s.shell ≠ .stopReset) (hreset : s.shell ≠ .reset)
    (hregister : ∀ port, s.shell ≠ .register port) (h : Counted t k) :
    Counted t (noteTrace k s (.shell pid) t) := by
  have hlate : (noteTrace k s (.shell pid) t).late = k.late := by
    unfold noteTrace
    dsimp only
    split
    · exact absurd ‹_› hstop
    · exact absurd ‹_› hreset
    · rfl
  have htaken : (noteTrace k s (.shell pid) t).taken = k.taken := by
    unfold noteTrace
    dsimp only
    split
    · exact absurd ‹_› hstop
    · exact absurd ‹_› hreset
    · exact absurd ‹_› (hregister _)
    · rfl
  exact ⟨fun ht => htaken.trans (h.taken ht), by rw [h.settled, hlate, htaken], h.numbers⟩

lemma counted_step (hc : s.Consistent) (hs : step fromStr s e = some t) (h : Counted s k) :
    Counted t (noteTrace k s e t) := by
  cases moves_of_step hs with
  | line line hprompt => exact h.frame id rfl rfl rfl
  | send addrStr portStr dataLenStr num hprompt => exact h.frame id rfl rfl rfl
  | toCreate port hprompt htarget hport hpid =>
    exact h.frame (fun ht => .inl (ht.resolve_right nofun)) rfl rfl rfl
  | toInit port hprompt htarget hport hpid =>
    exact h.frame (fun ht => .inl (ht.resolve_right nofun)) rfl rfl rfl
  | toStop hprompt htarget => exact h.frame (fun ht => .inl (ht.resolve_right nofun)) rfl rfl rfl
  | toReset hprompt hpid => exact h.frame (fun ht => .inl (ht.resolve_right nofun)) rfl rfl rfl
  | ignored hprompt => exact h
  | created pid hshell hpid =>
    exact noteTrace_shell (by simp [hshell]) (by simp [hshell]) (by simp [hshell])
      (h.frame (fun ht => .inl (ht.resolve_right nofun)) rfl rfl rfl)
  | failed pid hshell hpid =>
    exact noteTrace_shell (by simp [hshell]) (by simp [hshell]) (by simp [hshell])
      (h.frame (fun ht => .inl (ht.resolve_right nofun)) rfl rfl rfl)
  | init pid hshell =>
    exact noteTrace_shell (by simp [hshell]) (by simp [hshell]) (by simp [hshell])
      (h.frame (fun ht => .inl (ht.resolve_right nofun)) rfl rfl rfl)
  | register pid hshell =>
    -- the server was not registered, so that nothing has been taken since the reset
    have htaken : k.taken = 0 := h.taken (.inl (hc.allows hshell).1)
    refine ⟨fun _ => by simp [noteTrace, hshell], h.settled.trans ?_, h.numbers⟩
    simp [noteTrace, hshell, htaken]
  | stopReset pid hshell hwaiting =>
    exact h.reset hwaiting rfl rfl (by simp [noteTrace, hshell]) (by simp [noteTrace, hshell]) rfl
  | unregister pid hshell =>
    exact noteTrace_shell (by simp [hshell]) (by simp [hshell]) (by simp [hshell])
      (h.frame (fun _ => .inr hshell) rfl rfl rfl)
  | undef pid hshell =>
    exact noteTrace_shell (by simp [hshell]) (by simp [hshell]) (by simp [hshell])
      (h.frame (fun ht => .inl (ht.resolve_right nofun)) rfl rfl rfl)
  | reset pid hshell hwaiting =>
    exact h.reset hwaiting rfl rfl (by simp [noteTrace, hshell]) (by simp [noteTrace, hshell]) rfl
  | clearCount pid hshell =>
    exact noteTrace_shell (by simp [hshell]) (by simp [hshell]) (by simp [hshell])
      (h.frame (fun ht => .inl (ht.resolve_right nofun)) rfl rfl rfl)
  | taken port pkt htakes => exact h.deliver htakes pkt
  | dropped port pkt htakes =>
    have hframe : Counted { s with released := s.released ++ [pkt] } k := h.frame id rfl rfl rfl
    refine ⟨fun ht => ?_, hframe.settled.trans ?_, Eq.trans ?_ hframe.numbers⟩
    · simp [noteTrace, htakes, hframe.taken ht]
    · simp [noteTrace, htakes]
    · simp [noteTrace, htakes]
  | netapi set m hpid hm hroom => exact h.message hm
  | handle m waiting hwaiting => exact h.handle hwaiting

/-- What holds of every run. -/
structure Traced (p : State α A × Trace α) : Prop where
  consistent : p.1.Consistent
  threads : p.2.threads = if 0 < p.1.server.serverPid then 1 else 0
  arrived : p.2.arrived.Perm (p.1.released ++ p.1.waiting.filterMap Msg.pkt?)
  counted : Counted p.1 p.2

lemma traced_of_run {es : List (Event α)}
    (hrun : (traced fromStr).run (.boot, .init) es = some (s, k)) : Traced (s, k) := by
  refine (TransitionSystem.reach_of_run (TransitionSystem.meets_true _ es) hrun).invariant
    ⟨consistent_boot, rfl, .refl _, ⟨fun _ => rfl, rfl, rfl⟩⟩ ?_
  rintro ⟨s, k⟩ e ⟨t, k'⟩ h _ hs
  obtain ⟨hstep, hnote⟩ := TransitionSystem.recording_step.mp hs
  change k' = noteTrace k s e t at hnote
  subst hnote
  exact ⟨consistent_step h.consistent hstep, threads_step h.consistent hstep h.threads,
    arrived_step hstep h.arrived, counted_step h.consistent hstep h.counted⟩

/-- At the prompt the server is either stopped, and no packet gets to it, or it is registered under
a port with the only thread that was ever created for it. Each packet that came is released once,
or it waits for the server. -/
theorem server_at_prompt {es : List (Event α)}
    (hrun : (traced fromStr).run (.boot, .init) es = some (s, k))
    (hprompt : s.shell = .prompt) :
    (s.server.Stopped ∧ k.threads ≤ 1 ∨ s.server.Running ∧ k.threads = 1) ∧
      k.arrived.Perm (s.released ++ s.waiting.filterMap Msg.pkt?) := by
  have h := traced_of_run hrun
  refine ⟨?_, h.arrived⟩
  rw [h.threads]
  rcases h.consistent.allows hprompt with hstopped | hrunning
  · refine .inl ⟨hstopped, ?_⟩
    split <;> omega
  · exact .inr ⟨hrunning, if_pos hrunning.thread⟩

/-- `udp server start 7` up to `gnrc_netreg_register`, where the thread gets the identifier 3. -/
def startSeven : List (Event ℕ) :=
  [.cmd [] [['s', 'e', 'r', 'v', 'e', 'r'], ['s', 't', 'a', 'r', 't'], ['7']] threePasses,
    .shell 3, .shell 3]

/-- Two packets come, and the second one when the server is being stopped. -/
def stopLate : List (Event ℕ) :=
  startSeven ++ [.shell 3, .deliver 7 0, .handle,
    .cmd [] [['s', 'e', 'r', 'v', 'e', 'r'], ['s', 't', 'o', 'p']] threePasses, .shell 3,
    .deliver 7 1, .handle, .handle, .shell 3, .shell 3]

def stopped : State ℕ Unit × Trace ℕ :=
  ((traced anyAddr).run (.boot, .init) stopLate).getD (.boot, .init)

theorem server_at_prompt_stopLate :
    (stopped.1.server.Stopped ∧ stopped.2.threads ≤ 1 ∨
        stopped.1.server.Running ∧ stopped.2.threads = 1) ∧
      stopped.2.arrived.Perm
        (stopped.1.released ++ stopped.1.waiting.filterMap Msg.pkt?) :=
  have hrun : (traced anyAddr).run (.boot, .init) stopLate = some (stopped.1, stopped.2) := rfl
  server_at_prompt hrun rfl

/-- The server prints the packets in the order in which they got into its queue, each with how many
came before it since the last `SERVER_RESET`, and one more: those that came while it was being
stopped, and those since it was started. -/
theorem printed_since_reset {es : List (Event α)}
    (hrun : (traced fromStr).run (.boot, .init) es = some (s, k)) :
    s.printed <+: k.numbers.map UInt32.ofNat ∧
      (s.waiting.filterMap Msg.pkt? = [] → s.printed = k.numbers.map UInt32.ofNat) := by
  have hnumbers := (traced_of_run hrun).counted.numbers
  refine ⟨⟨_, hnumbers.symm⟩, fun hnone => ?_⟩
  rw [hnumbers, numbersOf_eq_nil hnone, List.append_nil]

/-- The server is started again after it was stopped, and then reset. -/
def startLate : List (Event ℕ) :=
  stopLate ++ startSeven.take 2 ++ [.shell 3, .deliver 9 2, .netapi true, .deliver 7 3, .handle,
    .handle, .cmd [] [['r', 'e', 's', 'e', 't']] threePasses, .shell 3, .deliver 7 4, .handle,
    .handle]

def late : State ℕ Unit × Trace ℕ :=
  ((traced anyAddr).run (.boot, .init) startLate).getD (.boot, .init)

theorem printed_since_reset_startLate : late.2.numbers = [1, 1, 2, 1] ∧
    late.1.printed <+: late.2.numbers.map UInt32.ofNat ∧
      (late.1.waiting.filterMap Msg.pkt? = [] →
        late.1.printed = late.2.numbers.map UInt32.ofNat) :=
  have hrun : (traced anyAddr).run (.boot, .init) startLate = some (late.1, late.2) := rfl
  ⟨rfl, printed_since_reset hrun⟩

end UdpTest

end RiotPlayground
