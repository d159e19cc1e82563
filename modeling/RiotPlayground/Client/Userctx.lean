import RiotPlayground.Client.Parse
import RiotPlayground.Lib.TransitionSystem

/-!
# The `userctx` command of the DNS client

`_userctx` collects the OSCORE context in static variables, over several commands, and `-c` hands
them to `gcoap_dns_oscore_set_secctx`.
-/

namespace RiotPlayground

open Buffer

namespace Client

/-- What libOSCORE decides. The buffers of `_userctx` hold what it asks for. -/
structure Crypto where
  keyidMaxlen : ℕ
  ivLength : ℤ → ℕ
  keyLength : ℤ → ℕ
  ivLength_le : ∀ alg, ivLength alg ≤ 20
  keyLength_le : ∀ alg, keyLength alg ≤ 32

inductive Peer
  | sender
  | recipient
  deriving DecidableEq

structure KeyMaterial where
  id : ℕ → UInt8
  idLen : ℕ
  key : ℕ → UInt8

/-- The static variables of `_userctx`. -/
structure UserCtx where
  algNum : ℤ
  commonIv : ℕ → UInt8
  sender : KeyMaterial
  recipient : KeyMaterial

def UserCtx.peer (s : UserCtx) : Peer → KeyMaterial
  | .sender => s.sender
  | .recipient => s.recipient

def UserCtx.setPeer (s : UserCtx) (m : KeyMaterial) : Peer → UserCtx
  | .sender => { s with sender := m }
  | .recipient => { s with recipient := m }

/-- What is printed. -/
inductive Reply
  | usage
  | notANumber
  | invalidIv
  | initialized
  | idTooLong (p : Peer)
  | invalidId (p : Peer)
  | invalidKey (p : Peer)
  | keyAdded (p : Peer)
  | unableToSet
  | added

def Reply.code : Reply → ℕ
  | .initialized => 0
  | .keyAdded _ => 0
  | .added => 0
  | _ => 1

/-- `call` holds the variables when they are handed to `gcoap_dns_oscore_set_secctx`. -/
structure Outcome where
  reply : Reply
  call : Option UserCtx
  ctx : UserCtx

variable (K : Crypto)

/-- `-i <alg> <common-iv>` -/
def initUserctx (alg iv : List Char) (s : UserCtx) : Outcome :=
  let num := parseI64 alg
  let s := { s with algNum := num.2 }
  if num.1 = false then ⟨.notANumber, none, s⟩
  else
    let hex := parseHex iv (K.ivLength s.algNum) s.commonIv 0
    let s := { s with commonIv := hex.2 }
    if hex.1 = false then ⟨.invalidIv, none, s⟩ else ⟨.initialized, none, s⟩

/-- What `-s` and `-r` have in common. -/
def parsePeer (algNum : ℤ) (p : Peer) (id key : List Char) (m : KeyMaterial) :
    Reply × KeyMaterial :=
  let m := { m with idLen := id.length / 2 }
  if K.keyidMaxlen < m.idLen then (.idTooLong p, m)
  else
    let hex := parseHex id m.idLen m.id 0
    let m := { m with id := hex.2 }
    if hex.1 = false then (.invalidId p, m)
    else
      let hex := parseHex key (K.keyLength algNum) m.key 0
      let m := { m with key := hex.2 }
      if hex.1 = false then (.invalidKey p, m) else (.keyAdded p, m)

/-- `-s <sender-id> <sender-key>` and `-r <recipient-id> <recipient-key>` -/
def addKey (p : Peer) (id key : List Char) (s : UserCtx) : Outcome :=
  let parsed := parsePeer K s.algNum p id key (s.peer p)
  ⟨parsed.1, none, s.setPeer parsed.2 p⟩

/-- `-c`. The library returns `res` when it is called. -/
def commit (res : ℤ) (s : UserCtx) : Outcome :=
  if s.sender.idLen = 0 ∨ s.recipient.idLen = 0 then ⟨.usage, none, s⟩
  else if res < 0 then ⟨.unableToSet, some s, s⟩ else ⟨.added, some s, s⟩

def userctx (argv : List (List Char)) (res : ℤ) (s : UserCtx) : Outcome :=
  let opt := argv.getD 1 []
  if argv.length < 2 ∨ opt ≠ ['-', 'c'] ∧ argv.length < 4 then ⟨.usage, none, s⟩
  else if opt = ['-', 'i'] then initUserctx K (argv.getD 2 []) (argv.getD 3 []) s
  else if s.algNum = 0 then ⟨.usage, none, s⟩
  else if opt = ['-', 's'] then addKey K .sender (argv.getD 2 []) (argv.getD 3 []) s
  else if opt = ['-', 'r'] then addKey K .recipient (argv.getD 2 []) (argv.getD 3 []) s
  else if opt = ['-', 'c'] then commit res s
  else ⟨.usage, none, s⟩

structure Command where
  argv : List (List Char)
  res : ℤ

/-- A command that was run, with the algorithm number it started from. -/
structure Entry where
  argv : List (List Char)
  algNum : ℤ
  reply : Reply
  call : Option UserCtx

def Entry.arg (e : Entry) (i : ℕ) : List Char := e.argv.getD i []

/-- The variables, and the commands that were run, the last one first. -/
structure Session where
  ctx : UserCtx
  log : List Entry

def Session.entry (σ : Session) (cmd : Command) : Entry :=
  let out := userctx K cmd.argv cmd.res σ.ctx
  ⟨cmd.argv, σ.ctx.algNum, out.reply, out.call⟩

def Session.next (σ : Session) (cmd : Command) : Session :=
  ⟨(userctx K cmd.argv cmd.res σ.ctx).ctx, σ.entry K cmd :: σ.log⟩

def shell : TransitionSystem Session Command := ⟨fun σ cmd => some (σ.next K cmd)⟩

def boot : Session :=
  let m : KeyMaterial := ⟨fun _ => 0, 0, fun _ => 0⟩
  ⟨⟨0, fun _ => 0, m, m⟩, []⟩

inductive Sub
  | init
  | key (p : Peer)
  deriving DecidableEq

def Sub.opt : Sub → List Char
  | .init => ['-', 'i']
  | .key .sender => ['-', 's']
  | .key .recipient => ['-', 'r']

/-- The command gets past the usage checks, so that it sets variables. -/
def Sub.reached (sub : Sub) (e : Entry) : Bool :=
  e.arg 1 = sub.opt ∧ 4 ≤ e.argv.length ∧ (sub = .init ∨ e.algNum ≠ 0)

def Sub.accepted (sub : Sub) (e : Entry) : Bool := e.arg 1 = sub.opt ∧ e.reply.code = 0

/-- The arguments are what the usage text asks for. -/
def Sub.wellFormed : Sub → Entry → Prop
  | .init, e => (parseI64 (e.arg 2)).1 = true ∧
    (decodeHex (K.ivLength (parseI64 (e.arg 2)).2) (e.arg 3)).isSome
  | .key _, e => (e.arg 2).length / 2 ≤ K.keyidMaxlen ∧
    (decodeHex ((e.arg 2).length / 2) (e.arg 2)).isSome ∧
    (decodeHex (K.keyLength e.algNum) (e.arg 3)).isSome

/-- The variables of the sub-command have the values the command gives. The key has the length
that goes with `algNum`. -/
def Sub.holds (algNum : ℤ) (ctx : UserCtx) : Sub → Entry → Prop
  | .init, e => ctx.algNum = (parseI64 (e.arg 2)).2 ∧
    decodeHex (K.ivLength ctx.algNum) (e.arg 3) =
      some (slice ctx.commonIv 0 (K.ivLength ctx.algNum))
  | .key p, e => (ctx.peer p).idLen ≤ K.keyidMaxlen ∧
    decodeHex (ctx.peer p).idLen (e.arg 2) = some (slice (ctx.peer p).id 0 (ctx.peer p).idLen) ∧
    decodeHex (K.keyLength algNum) (e.arg 3) =
      some (slice (ctx.peer p).key 0 (K.keyLength algNum))

/-- The variables of the sub-command still make `-c` refuse. -/
def Sub.unset (ctx : UserCtx) : Sub → Prop
  | .init => ctx.algNum = 0
  | .key p => (ctx.peer p).idLen = 0

/-! ### Specification -/

def Faithful (sec : UserCtx) (log : List Entry) : Prop :=
  ∀ sub : Sub, ∃ e, log.find? sub.accepted = some e ∧ sub.holds K sec.algNum sec e

/-- Only accepted values have been committed. -/
def Committed : List Entry → Prop
  | [] => True
  | e :: log => (∀ sec, e.call = some sec → Faithful K sec log) ∧ Committed log

/-- The last commands that set variables were well formed, with keys of the length the algorithm
has now. -/
def Settled (σ : Session) : Prop :=
  ∀ (sub : Sub) (e : Entry), σ.log.find? sub.reached = some e → sub.wellFormed K e ∧
    (sub ≠ .init → K.keyLength e.algNum = K.keyLength σ.ctx.algNum)

/-- A `-c` with all variables set finds them settled. -/
def CommitsSettled (σ : Session) (cmd : Command) : Prop :=
  cmd.argv.getD 1 [] = ['-', 'c'] → (∀ sub : Sub, ¬ sub.unset σ.ctx) → Settled K σ

instance (P : Sub → Prop) [DecidablePred P] : Decidable (∀ sub, P sub) :=
  decidable_of_iff (P .init ∧ P (.key .sender) ∧ P (.key .recipient))
    ⟨fun h sub => match sub with
      | .init => h.1
      | .key .sender => h.2.1
      | .key .recipient => h.2.2, fun h => ⟨h _, h _, h _⟩⟩

instance (ctx : UserCtx) : DecidablePred (Sub.unset ctx)
  | .init | .key _ => inferInstanceAs (Decidable (_ = _))

instance : ∀ (sub : Sub) (e : Entry), Decidable (sub.wellFormed K e)
  | .init, _ | .key _, _ => inferInstanceAs (Decidable (_ ∧ _))

instance (σ : Session) : Decidable (Settled K σ) :=
  inferInstanceAs (Decidable (∀ sub : Sub, ∀ e ∈ σ.log.find? sub.reached, _ ∧ _))

instance (σ : Session) (cmd : Command) : Decidable (CommitsSettled K σ cmd) :=
  inferInstanceAs (Decidable (_ → _))

end Client

end RiotPlayground
