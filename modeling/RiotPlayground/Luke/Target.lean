import RiotPlayground.Lib.FlatJson
import RiotPlayground.Luke.Pdu

/-!
# The target of a luke node: `luke_set_target` in `common/common.c`

The JSON tokeniser and the conversions of endpoints to and from text are not part of the
repository.
-/

namespace RiotPlayground

open Buffer

namespace Luke

/-- The bytes of a C string literal. -/
def ascii (cs : List Char) : List UInt8 := cs.map fun c => UInt8.ofNat c.toNat

inductive JsmnType
  | undefined
  | object
  | array
  | string
  | primitive
  deriving DecidableEq

/-- The positions are `int`s, in two's complement. -/
structure JsmnTok where
  type : JsmnType
  start : UInt32
  stop : UInt32

/-- `toks[i].end - toks[i].start` -/
def JsmnTok.len (tok : JsmnTok) : ℕ := (tok.stop - tok.start).toNat

/-- `jsmn_parse` with the tokens it reports, `none` for an error. `sockUdpStr2ep` returns whether it
succeeds and what the endpoint holds then, `sockUdpEpFmt` the text of the address and the port. -/
structure Packages where
  jsmnParse : List UInt8 → Option (List JsmnTok)
  sockUdpStr2ep : SockUdpEp → List UInt8 → Bool × SockUdpEp
  sockUdpEpFmt : SockUdpEp → List UInt8 × UInt16

/-- A request for the target. The memory is read from the start of the payload on, and `stack` is
what `toks` holds where `jsmn_parse` has stored no token. -/
structure TargetPdu where
  method : Method
  contentType : UInt16
  payload : ℕ → UInt8
  payloadLen : ℕ
  stack : ℕ → JsmnTok

section

variable (P : Packages)

/-- The endpoint after the call, and whether it succeeds. -/
def makeSockEp (ep : SockUdpEp) (addr : List UInt8) : Bool × SockUdpEp :=
  let res := P.sockUdpStr2ep { ep with port := 0 } addr
  if res.1 then
    (true, { res.2 with
      family := .inet6
      netif := SOCK_ADDR_ANY_NETIF
      port := if res.2.port = 0 then GCOAP_PORT else res.2.port })
  else (false, res.2)

def jsoneq (json : ℕ → UInt8) (tok : JsmnTok) (s : List UInt8) : Bool :=
  tok.type = .string && tok.len = s.length && slice json tok.start.toNat tok.len = s

/-- The walk over the tokens. `remoteTok` and `pathTok` are null or a position, with the length. -/
structure Walk where
  payload : ℕ → UInt8
  remoteTok : Option ℕ
  remoteTokLen : ℕ
  pathTok : Option ℕ
  pathTokLen : ℕ

/-- A key and the token behind it; `none` if they are turned down. -/
def walkStep (key value : JsmnTok) (w : Walk) : Option Walk :=
  if jsoneq w.payload key (ascii ['a', 'd', 'd', 'r']) then
    if value.type ≠ .string then none
    else
      some { w with
        payload := Function.update w.payload value.stop.toNat 0
        remoteTok := some value.start.toNat
        remoteTokLen := value.len }
  else if jsoneq w.payload key (ascii ['p', 'a', 't', 'h']) then
    if value.type ≠ .string then none
    else some { w with pathTok := some value.start.toNat, pathTokLen := value.len }
  else none

/-- `for (int i = 1; i < num; i++)`, with enough `fuel` for the tokens left. -/
def walk (toks : ℕ → JsmnTok) (num : ℕ) : ℕ → ℕ → Walk → Option Walk
  | 0, _, w => some w
  | fuel + 1, i, w =>
    if i < num then
      match walkStep (toks i) (toks (i + 1)) w with
      | none => none
      | some w => walk toks num fuel (i + 2) w
    else some w

/-- Copies up to `len` characters and fills up with NULs. -/
def strncpy (dst : ℕ → UInt8) (src : ℕ → UInt8) (pos len : ℕ) : ℕ → UInt8 :=
  let chars := (slice src pos len).takeWhile (· ≠ 0)
  poke dst 0 (chars ++ List.replicate (len - chars.length) 0)

/-- `_set_target_from_payload` from the check of the pointers on. -/
def storeTarget (w : Walk) (s : Common) : Code × Common :=
  match w.remoteTok, w.pathTok with
  | some remote, some path =>
    let made := makeSockEp P s.targetRemote
      ((slice w.payload remote w.remoteTokLen).takeWhile (· ≠ 0))
    if w.remoteTokLen ≠ 0 ∧ made.1 = false then (.badRequest, { s with targetRemote := made.2 })
    else
      let remote := if w.remoteTokLen = 0 then { s.targetRemote with addr := Vector.replicate 16 0 }
        else made.2
      let cleared := poke s.targetPath 0 (List.replicate LUKE_TARGET_PATH_LEN 0)
      (.valid, { s with
        targetRemote := remote
        targetPath := strncpy cleared w.payload path w.pathTokLen })
  | _, _ => (.badRequest, s)

/-- What the walk finds in the payload; `none` if it is turned down before the target is touched. -/
def findTarget (pdu : TargetPdu) : Option Walk :=
  match P.jsmnParse (slice pdu.payload 0 pdu.payloadLen) with
  | none => none
  | some tokens =>
    let toks := fun i => tokens[i]?.getD (pdu.stack i)
    if tokens.length < 1 ∨ (toks 0).type ≠ .object then none
    else walk toks tokens.length tokens.length 1 ⟨pdu.payload, none, 0, none, 0⟩

def setTargetFromPayload (pdu : TargetPdu) (s : Common) : Code × Common :=
  match findTarget P pdu with
  | none => (.badRequest, s)
  | some w => storeTarget P w s

/-- The path as a C string. -/
def Common.pathString (s : Common) : List UInt8 :=
  (slice s.targetPath 0 LUKE_TARGET_PATH_LEN).takeWhile (· ≠ 0)

/-- `[addr]:port` -/
def hostPort (addr : List UInt8) (port : UInt16) : List UInt8 :=
  91 :: addr ++ 93 :: 58 :: ascii (Nat.toDigits 10 port.toNat)

/-- `LUKE_TARGET_FMT`: `{"addr":"[%s]:%u","path":"%s"}` -/
def targetDocument (s : Common) : List UInt8 :=
  let fmt := P.sockUdpEpFmt s.targetRemote
  ascii ['{', '"', 'a', 'd', 'd', 'r', '"', ':', '"'] ++ hostPort fmt.1 fmt.2 ++
    ascii ['"', ',', '"', 'p', 'a', 't', 'h', '"', ':', '"'] ++ s.pathString ++ ascii ['"', '}']

structure TargetResponse where
  code : Code
  payload : List UInt8

def lukeSetTarget (pdu : TargetPdu) (s : Common) : Option TargetResponse × Common :=
  match pdu.method with
  | .get => (some ⟨.content, targetDocument P s⟩, s)
  | .post =>
    if pdu.contentType = COAP_FORMAT_JSON then
      let after := setTargetFromPayload P pdu s
      (some ⟨after.1, []⟩, after.2)
    else (some ⟨.badRequest, []⟩, s)
  | .other => (none, s)

end

end Luke

end RiotPlayground
