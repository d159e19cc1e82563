import RiotPlayground.Lib.PyText
import RiotPlayground.Lib.TransitionSystem

/-!
# The websockets of `webterminal/main.py`

All handlers run on one event loop and talk to one node. A step is what a handler does between two
suspensions; the commands in it block until the node answers. The clients are numbered in the order
they connect in.
-/

namespace RiotPlayground

open PyText

namespace Webterminal

structure Userctx where
  algNum : List Char
  commonIv : List Char
  senderId : List Char
  senderKey : List Char
  recipientId : List Char
  recipientKey : List Char

/-- `make_app`, with the server address where it is given. -/
structure Args where
  userctx : Userctx
  serverAddr : Option (List Char)

/-- What is sent to the node: a reset, a command of `config_node`, or one of `open` or `on_message`.
`configured` marks where `userctx -c` has been answered. -/
inductive Sent
  | reset (c : ℕ)
  | config (c : ℕ) (cmd : List Char)
  | configured (c : ℕ)
  | user (c : ℕ) (cmd : List Char)
deriving DecidableEq

/-- Where the handler of a client is suspended. `again` counts the calls of `config_node` that come
after the one it is in: `discovery` is the sleep of one second after a `server` command, `failed`
the sleep of three seconds after an error, and `writing` the sending of a reply. -/
inductive Phase
  | opening
  | discovery (again : ℕ)
  | failed (again : ℕ)
  | writing (reboot : Bool)
  | idle
  | ended
deriving DecidableEq

structure Client where
  phase : Phase
  serverAddr : Option (List Char)
  closed : Bool

/-- Whether the module-level `shell` is set, the handlers, and what was sent so far. -/
structure Terminal where
  shell : Bool
  clients : List Client
  log : List Sent

/-- What a step leaves of the client it is a step of, and what it sends. -/
structure Run where
  phase : Phase
  serverAddr : Option (List Char)
  sent : List Sent

namespace Run

def after (sent : List Sent) (r : Run) : Run := { r with sent := sent ++ r.sent }

@[simp] lemma after_phase (sent : List Sent) (r : Run) : (r.after sent).phase = r.phase := rfl

@[simp] lemma after_sent (sent : List Sent) (r : Run) : (r.after sent).sent = sent ++ r.sent := rfl

end Run

/-- The answers to the commands of a step, in order; `none` and the end of the list stand for
`pexpect.TIMEOUT` or `pexpect.EOF`. -/
abbrev Answers := List (Option (List Char))

/-- Whether the next command is answered. -/
def Answers.ok (answers : Answers) : Bool := (answers.head?.join).isSome

/-- `DNS server: \[([0-9a-fA-F:]+)\]:\d+` at the start of the text. -/
def dnsServerHere (U : Unicode) (text : List Char) : Option (List Char) :=
  let label := "DNS server: [".toList
  if label <+: text then
    let rest := text.drop label.length
    let addr := rest.takeWhile fun c => (hexValue c).isSome || c = ':'
    match rest.drop addr.length with
    | ']' :: ':' :: d :: _ => if addr ≠ [] ∧ isDecimal U d then some addr else none
    | _ => none
  else none

def dnsServer (U : Unicode) (reply : List Char) : Option (List Char) :=
  reply.tails.findSome? (dnsServerHere U)

def switchCmd : List Char := "switch".toList

def serverCmd : List Char := "server".toList

def setServerCmd (addr : List Char) : List Char := "server ".toList ++ addr

/-- The commands once the server is known. -/
def nodeCmds (ctx : Userctx) (addr : List Char) : List (List Char) :=
  ["uri coap://[".toList ++ addr ++ "]/dns".toList,
    "userctx -i ".toList ++ ctx.algNum ++ ' ' :: ctx.commonIv,
    "userctx -s ".toList ++ ctx.senderId ++ ' ' :: ctx.senderKey,
    "userctx -r ".toList ++ ctx.recipientId ++ ' ' :: ctx.recipientKey,
    "userctx -c".toList]

/-- The commands one after the other, up to the first without an answer: those sent, and the answers
left if all were answered. -/
def sendAll : List (List Char) → Answers → List (List Char) × Option Answers
  | [], answers => ([], some answers)
  | cmd :: cmds, answers =>
    if answers.ok then
      let rest := sendAll cmds answers.tail
      (cmd :: rest.1, rest.2)
    else ([cmd], none)

/-- The commands of `config_node` after the discovery, and the `switch` of the caller. -/
def finish (c : ℕ) (cmds : List (List Char)) (again : ℕ) (addr : Option (List Char))
    (answers : Answers) (next : Answers → Run) : Run :=
  let res := sendAll cmds answers
  match res.2 with
  | none => ⟨.failed again, addr, res.1.map (.config c)⟩
  | some rest =>
    let sent := res.1.map (.config c) ++ [.configured c, .user c switchCmd]
    if rest.ok then (next rest.tail).after sent else ⟨.ended, addr, sent⟩

/-- `config_node` from the discovery loop on, and what the caller does `next`. -/
def discoverThen (U : Unicode) (args : Args) (c again : ℕ) (addr : Option (List Char))
    (answers : Answers) (next : Answers → Run) : Run :=
  match args.serverAddr with
  | some given =>
    finish c (setServerCmd given :: nodeCmds args.userctx given) again addr answers next
  | none =>
    match addr with
    | some found => finish c (nodeCmds args.userctx found) again addr answers next
    | none =>
      match answers.head?.join with
      | some reply => ⟨.discovery again, dnsServer U reply, [.config c serverCmd]⟩
      | none => ⟨.failed again, none, [.config c serverCmd]⟩

/-- The handler from the discovery loop on. -/
def discover (U : Unicode) (args : Args) (c : ℕ) : ℕ → Option (List Char) → Answers → Run
  | 0, addr, answers => discoverThen U args c 0 addr answers fun _ => ⟨.idle, addr, []⟩
  | again + 1, addr, answers => discoverThen U args c (again + 1) addr answers fun rest =>
      (discover U args c again addr rest).after [.reset c]

/-- One pass of `while True`. -/
def configNode (U : Unicode) (args : Args) (c again : ℕ) (addr : Option (List Char))
    (answers : Answers) : Run :=
  (discover U args c again addr answers).after [.reset c]

inductive Event
  | connect
  | resume (c : ℕ) (answers : Answers)
  | wrote (c : ℕ) (ok : Bool) (answers : Answers)
  | message (c : ℕ) (message : List Char) (answers : Answers)
  | close (c : ℕ)

namespace Terminal

def init : Terminal := ⟨false, [], []⟩

def client (s : Terminal) (c : ℕ) : Option Client := s.clients[c]?

/-- The client `c` goes on with `r`. -/
def goOn (s : Terminal) (c : ℕ) (cl : Client) (r : Run) : Terminal :=
  { s with
    clients := s.clients.set c { cl with phase := r.phase, serverAddr := r.serverAddr }
    log := s.log ++ r.sent }

variable (U : Unicode) (args : Args)

/-- `open` after the log file has been opened. -/
def opened (s : Terminal) (c : ℕ) (cl : Client) (answers : Answers) : Terminal :=
  if s.shell then
    s.goOn c cl ⟨if answers.ok then .idle else .ended, cl.serverAddr, [.user c switchCmd]⟩
  else { s.goOn c cl (configNode U args c 0 cl.serverAddr answers) with shell := true }

def resume (s : Terminal) (c : ℕ) (cl : Client) (answers : Answers) : Option Terminal :=
  match cl.phase with
  | .opening => some (s.opened U args c cl answers)
  | .discovery again => some (s.goOn c cl (discover U args c again cl.serverAddr answers))
  | .failed again => some (s.goOn c cl (configNode U args c again cl.serverAddr answers))
  | _ => none

/-- `on_message` after the reply has been sent, or its connection was found closed. -/
def wrote (s : Terminal) (c : ℕ) (cl : Client) (ok : Bool) (answers : Answers) : Option Terminal :=
  match cl.phase with
  | .writing reboot =>
    if ok then
      if reboot then some (s.goOn c cl (configNode U args c 0 cl.serverAddr answers))
      else some (s.goOn c cl ⟨.idle, cl.serverAddr, []⟩)
    else some (s.goOn c cl ⟨.ended, cl.serverAddr, []⟩)
  | _ => none

/-- `on_message` up to the sending of the reply. -/
def message (s : Terminal) (c : ℕ) (cl : Client) (text : List Char) (answers : Answers) :
    Terminal :=
  let reboot := text = "reboot".toList
  if answers.ok then s.goOn c cl ⟨.writing reboot, cl.serverAddr, [.user c text]⟩
  else
    s.goOn c cl ((configNode U args c (if reboot then 1 else 0) cl.serverAddr answers.tail).after
      [.user c text])

def step (s : Terminal) : Event → Option Terminal
  | .connect => some { s with clients := s.clients ++ [⟨.opening, args.serverAddr, false⟩] }
  | .resume c answers => (s.client c).bind fun cl => s.resume U args c cl answers
  | .wrote c ok answers => (s.client c).bind fun cl => s.wrote U args c cl ok answers
  | .message c text answers => (s.client c).bind fun cl =>
      if cl.phase = .idle ∧ cl.closed = false then some (s.message U args c cl text answers)
      else none
  | .close c => (s.client c).map fun cl =>
      { s with clients := s.clients.set c { cl with closed := true } }

def system : TransitionSystem Terminal Event := ⟨step U args⟩

end Terminal

end Webterminal

end RiotPlayground
