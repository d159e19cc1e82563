import RiotPlayground.Lib.Logged
import RiotPlayground.Client.Userctx
import RiotPlayground.Luke.Target

/-!
# The shell of the DNS client: `lndw22_doc/client/main.c`

The handlers log the arguments they read and the bytes they store. An argument that is not there
reads as the empty string, once it is logged.
-/

namespace RiotPlayground

open Buffer Directive Luke Logged

deriving instance DecidableEq for Family

namespace Client

@[simp] abbrev PSK_ID_LEN : ℕ := 32
@[simp] abbrev PSK_LEN : ℕ := 32
@[simp] abbrev SOCK_DNS_PORT : UInt16 := 53

/-- What `gcoap_dns_cred_add` is given: the strings with the lengths that go with them. -/
structure PskCredential where
  tag : UInt16
  id : List UInt8
  key : List UInt8

/-- The libraries. `inetPton` returns whether it succeeds and what the address holds then, the
others what they return. -/
structure Libs extends Crypto where
  dnsMsgLen : ℕ
  inetPton : List Char → Vector UInt8 16 → Bool × Vector UInt8 16
  uriGet : Option (List Char)
  uriSet : List Char → ℤ
  credAdd : PskCredential → ℤ
  setSecctx : UserCtx → ℤ
  proxyGet : Option (List Char)
  proxySet : List Char → ℤ
  dnsQuery : List Char → Family → ℤ
  sockDnsQuery : List Char → Family → ℤ

/-- The buffers that the handlers store to. -/
inductive Buf
  | pskId
  | psk
  | mockResponse
  | commonIv
  | id (p : Peer)
  | key (p : Peer)

def Buf.size (L : Libs) : Buf → ℕ
  | .pskId => PSK_ID_LEN
  | .psk => PSK_LEN
  | .mockResponse => L.dnsMsgLen
  | .commonIv => 20
  | .id _ => L.keyidMaxlen
  | .key _ => 32

inductive Access
  | arg (i : ℕ)
  | store (b : Buf) (i : ℕ)

/-- The static variables, and `sock_dns_server`. The type of `_credential` is always
`CREDMAN_TYPE_PSK`. -/
structure Vars where
  dnsServer : SockUdpEp
  tag : UInt16
  idLen : ℕ
  keyLen : ℕ
  pskId : ℕ → UInt8
  psk : ℕ → UInt8
  mockResponse : ℕ → UInt8
  mockResponseLen : ℕ
  respCode : UInt8
  userctx : UserCtx

def Vars.init : Vars where
  dnsServer := ⟨.unspec, Vector.replicate 16 0, SOCK_ADDR_ANY_NETIF, 0⟩
  tag := 0
  idLen := 0
  keyLen := 0
  pskId := fun _ => 0
  psk := fun _ => 0
  mockResponse := fun _ => 0
  mockResponseLen := 0
  respCode := 0
  userctx := boot.ctx

namespace Vars

def credential (s : Vars) : PskCredential :=
  ⟨s.tag, slice s.pskId 0 s.idLen, slice s.psk 0 s.keyLen⟩

def setPeer (s : Vars) (p : Peer) (m : KeyMaterial) : Vars :=
  { s with userctx := s.userctx.setPeer m p }

def buf (s : Vars) : Buf → ℕ → UInt8
  | .pskId => s.pskId
  | .psk => s.psk
  | .mockResponse => s.mockResponse
  | .commonIv => s.userctx.commonIv
  | .id p => (s.userctx.peer p).id
  | .key p => (s.userctx.peer p).key

def setBuf (s : Vars) (m : ℕ → UInt8) : Buf → Vars
  | .pskId => { s with pskId := m }
  | .psk => { s with psk := m }
  | .mockResponse => { s with mockResponse := m }
  | .commonIv => { s with userctx := { s.userctx with commonIv := m } }
  | .id p => s.setPeer p { s.userctx.peer p with id := m }
  | .key p => s.setPeer p { s.userctx.peer p with key := m }

end Vars

abbrev Shell := Logged Vars Access

def strcpy (b : Buf) (text : List Char) : Shell Unit := do
  note ((List.range (text.length + 1)).map (.store b))
  modify fun s => s.setBuf (poke (s.buf b) 0 (ascii text ++ [0])) b

/-- `_parse_hex` with `data` pointing into a buffer. -/
def parseHexTo (b : Buf) (hex : List Char) (len start : ℕ) : Shell Bool := do
  note ((hexStores hex len start).map (.store b))
  let s ← read
  let res := parseHex hex len (s.buf b) start
  modify fun s => s.setBuf res.2 b
  return res.1

def parseAf (familyName : List Char) : Family :=
  if familyName = ['i', 'n', 'e', 't', '6'] then .inet6
  else if familyName = ['i', 'n', 'e', 't'] then .inet
  else .unspec

/-- An address of 4 or of 16 bytes can be printed. -/
def printAddr (addrLen : ℤ) : ℤ := if addrLen = 4 ∨ addrLen = 16 then 0 else 1

section Handlers

variable (L : Libs) (argv : List (List Char))

def arg (i : ℕ) : Shell (List Char) := do
  note [.arg i]
  return argv.getD i []

/-- The usage, which starts with the name of the command. -/
def usage : Shell ℤ := do
  let _cmd ← arg argv 0
  return 1

/-- `(argc > n) && (strcmp(argv[1], opt) == 0)` -/
def isOption (n : ℕ) (opt : List Char) : Shell Bool :=
  provided (n < argv.length) do
    return (← arg argv 1) = opt

def checkSwitch : Shell ℤ := return 0

def setUri : Shell ℤ := do
  if ← isOption argv 1 ['-', 'd'] then return 0
  else if argv.length = 1 then
    if L.uriGet.isSome then return 0 else usage argv
  else
    let res := L.uriSet (← arg argv 1)
    if res < 0 then return -res
    else
      let _uri ← arg argv 1
      return 0

/-- `!inet_pton(AF_INET6, argv[1], sock_dns_server.addr.ipv6)` -/
def refusesAddr : Shell Bool := do
  let addr ← arg argv 1
  let s ← read
  let res := L.inetPton addr s.dnsServer.addr
  modify fun s => { s with dnsServer := { s.dnsServer with addr := res.2 } }
  return !res.1

/-- `(sock_dns_server.port = atoi(argv[2])) == 0` -/
def refusesPort : Shell Bool := do
  let port := UInt16.ofInt (atoi (← arg argv 2)).toInt
  modify fun s => { s with dnsServer := { s.dnsServer with port := port } }
  return port = 0

def dnsServer : Shell ℤ := do
  if ← Logged.or (provided (1 < argv.length) (refusesAddr L argv))
      (provided (2 < argv.length) (refusesPort argv)) then
    usage argv
  else if argv.length < 2 then return 0
  else
    modify fun s =>
      if argv.length < 3 then { s with dnsServer := { s.dnsServer with port := SOCK_DNS_PORT } }
      else s
    modify fun s => { s with dnsServer := { s.dnsServer with family := .inet6 } }
    return 0

/-- `creds -d <cred_tag>` -/
def removeCreds : Shell ℤ := do
  if argv.length < 2 then usage argv
  else
    let tag := UInt16.ofInt (atoi (← arg argv 2)).toInt
    if tag = 0 then usage argv else return 0

/-- The strings have been found short enough. -/
def storeCreds : Shell ℤ := do
  strcpy .pskId (← arg argv 2)
  strcpy .psk (← arg argv 3)
  let res := L.credAdd (← read).credential
  if res < 0 then return -res
  else
    let _id ← arg argv 2
    let _key ← arg argv 3
    return 0

/-- `creds <cred_tag> <psk_id> <psk>` -/
def addCreds : Shell ℤ := do
  let tag := UInt16.ofInt (atoi (← arg argv 1)).toInt
  modify fun s => { s with tag := tag }
  if tag = 0 then usage argv
  else
    let id ← arg argv 2
    modify fun s => { s with idLen := id.length }
    if PSK_ID_LEN < id.length then return 1
    else
      let key ← arg argv 3
      modify fun s => { s with keyLen := key.length }
      if PSK_LEN < key.length then return 1 else storeCreds L argv

def creds : Shell ℤ := do
  if ← isOption argv 1 ['-', 'd'] then removeCreds argv
  else if argv.length < 4 then usage argv
  else addCreds L argv

/-- `-i <alg> <common-iv>` -/
def initCtx : Shell ℤ := do
  let alg := parseI64 (← arg argv 2)
  modify fun s => { s with userctx := { s.userctx with algNum := alg.2 } }
  if alg.1 = false then return 1
  else if ← parseHexTo .commonIv (← arg argv 3) (L.ivLength alg.2) 0 then return 0
  else return 1

/-- `-s <sender-id> <sender-key>` and `-r <recipient-id> <recipient-key>` -/
def peerCtx (p : Peer) : Shell ℤ := do
  let idLen := (← arg argv 2).length / 2
  modify fun s => s.setPeer p { s.userctx.peer p with idLen := idLen }
  if L.keyidMaxlen < idLen then return 1
  else if ← parseHexTo (.id p) (← arg argv 2) idLen 0 then
    let s ← read
    if ← parseHexTo (.key p) (← arg argv 3) (L.keyLength s.userctx.algNum) 0 then return 0
    else return 1
  else return 1

/-- `-c` -/
def commitCtx : Shell ℤ := do
  let s ← read
  if s.userctx.sender.idLen = 0 ∨ s.userctx.recipient.idLen = 0 then usage argv
  else if L.setSecctx s.userctx < 0 then return 1
  else return 0

def userctxCmd : Shell ℤ := do
  if argv.length < 2 then usage argv
  else
    let opt ← arg argv 1
    if opt ≠ ['-', 'c'] ∧ argv.length < 4 then usage argv
    else if opt = ['-', 'i'] then initCtx L argv
    else if (← read).userctx.algNum = 0 then usage argv
    else if opt = ['-', 's'] then peerCtx L argv .sender
    else if opt = ['-', 'r'] then peerCtx L argv .recipient
    else if opt = ['-', 'c'] then commitCtx L argv
    else usage argv

def proxy : Shell ℤ := do
  if argv.length < 2 then
    if L.proxyGet.isSome then return 0 else usage argv
  else if (← arg argv 1).head? = some '-' then return 0
  else
    let res := L.proxySet (← arg argv 1)
    if res < 0 then return -res
    else
      let _uri ← arg argv 1
      return 0

/-- The family asked for, `AF_INET6` unless there are three arguments. -/
def family : Shell Family := do
  if argv.length = 3 then return parseAf (← arg argv 2) else return .inet6

/-- `offset` is 0, so that the second check of `argc` repeats the first. -/
def query : Shell ℤ := do
  if argv.length < 2 then usage argv
  else
    let af ← family argv
    if af = .unspec then return 1
    else
      let hostname ← arg argv 1
      let res := L.dnsQuery hostname af
      if res < 0 then return -res else return printAddr res

/-- After the usage it goes on. -/
def dns : Shell ℤ := do
  let _res ← (if argv.length < 2 then usage argv else pure 0)
  let af ← family argv
  if af = .unspec then return 1
  else
    let res := L.sockDnsQuery (← arg argv 1) af
    let _hostname ← arg argv 1
    return printAddr res

/-- The number of bytes, `none` for `-ENOBUFS`. -/
def copyMockResponse (str : List Char) : Shell (Option ℕ) := do
  let len := str.length / 2
  let start := (← read).mockResponseLen
  if L.dnsMsgLen ≤ start + len then return none
  else if ← parseHexTo .mockResponse str len start then
    modify fun s => { s with mockResponseLen := s.mockResponseLen + len }
    return some len
  else return none

def resp : Shell ℤ := do
  if argv.length < 2 then return 0
  else if ← isOption argv 2 ['-', 'c'] then
    let size ← copyMockResponse L (← arg argv 2)
    if size.isSome then return 0 else return 1
  else
    let code := UInt8.ofInt (atoi (← arg argv 1)).toInt
    modify fun s => { s with respCode := code }
    if 2 < argv.length ∧ code >>> 5 = 2 then
      modify fun s => { s with mockResponseLen := 0 }
      let size ← copyMockResponse L (← arg argv 2)
      if size.isSome then return 0 else return 1
    else
      modify fun s => { s with mockResponseLen := 0 }
      return 0

end Handlers

/-- `_shell_commands` -/
inductive ShellCommand
  | switch
  | uri
  | server
  | creds
  | proxy
  | doc
  | dns
  | resp
  | userctx

def ShellCommand.handler (L : Libs) : ShellCommand → List (List Char) → Shell ℤ
  | .switch, _ => checkSwitch
  | .uri, argv => setUri L argv
  | .server, argv => dnsServer L argv
  | .creds, argv => Client.creds L argv
  | .proxy, argv => Client.proxy L argv
  | .doc, argv => query L argv
  | .dns, argv => Client.dns L argv
  | .resp, argv => Client.resp L argv
  | .userctx, argv => userctxCmd L argv

variable {P : Access → Prop} {argv : List (List Char)} {s : Vars}

@[simp] lemma spec_arg {Q : List Char → Vars → Prop} (i : ℕ) :
    Spec P (arg argv i) Q s ↔ P (.arg i) ∧ Q (argv.getD i []) s := by
  rw [arg, spec_bind, spec_note, List.forall_mem_singleton, spec_pure]

@[simp] lemma spec_usage {Q : ℤ → Vars → Prop} :
    Spec P (usage argv) Q s ↔ P (.arg 0) ∧ Q 1 s := by
  rw [usage, spec_bind, spec_arg, spec_pure]

@[simp] lemma spec_isOption {Q : Bool → Vars → Prop} (n : ℕ) (opt : List Char) :
    Spec P (isOption argv n opt) Q s ↔ (n < argv.length → P (.arg 1)) ∧
      Q (decide (n < argv.length ∧ argv.getD 1 [] = opt)) s := by
  rw [isOption, spec_provided, spec_bind, spec_arg, spec_pure]
  by_cases hn : n < argv.length
  · simp only [hn, if_true, true_and, forall_const]
  · simp only [hn, if_false, false_and, IsEmpty.forall_iff, true_and, decide_false]

@[simp] lemma spec_strcpy {Q : Unit → Vars → Prop} (b : Buf) (text : List Char) :
    Spec P (strcpy b text) Q s ↔ (∀ i < text.length + 1, P (.store b i)) ∧
      Q () (s.setBuf (poke (s.buf b) 0 (ascii text ++ [0])) b) := by
  rw [strcpy, spec_bind, spec_note, spec_modify, List.forall_mem_map]
  simp only [List.mem_range]

@[simp] lemma spec_parseHexTo {Q : Bool → Vars → Prop} (b : Buf) (hex : List Char) (len start : ℕ) :
    Spec P (parseHexTo b hex len start) Q s ↔
      (∀ i ∈ hexStores hex len start, P (.store b i)) ∧
        Q (parseHex hex len (s.buf b) start).1
          (s.setBuf (parseHex hex len (s.buf b) start).2 b) := by
  rw [parseHexTo, spec_bind, spec_note, List.forall_mem_map, spec_bind, spec_read, spec_bind,
    spec_modify, spec_pure]

end Client

end RiotPlayground
