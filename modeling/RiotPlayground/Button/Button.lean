import RiotPlayground.Luke.TargetWalk

/-!
# The button: `jugend-hackt-2018-10/button/main.c`

Its target is set over CoAP as that of a luke node is, but every member is stored as soon as it is
found.
-/

namespace RiotPlayground

open Buffer Luke

namespace Button

@[simp] abbrev BUTTON_TARGET_PORT : UInt16 := GCOAP_PORT
@[simp] abbrev BUTTON_TARGET_PATH_LEN : ℕ := 16

/-- `sock_udp_str2ep` is given the memory from the address on: nothing ends the string there but
what follows it. -/
structure Packages where
  jsmnParse : List UInt8 → Option (List JsmnTok)
  sockUdpStr2ep : SockUdpEp → (ℕ → UInt8) → Bool × SockUdpEp

/-- The static variables. -/
structure Vars where
  targetRemote : SockUdpEp
  targetPath : ℕ → UInt8
  lastSent : UInt32

def Vars.init : Vars where
  targetRemote := ⟨.inet6, Vector.replicate 16 0, SOCK_ADDR_ANY_NETIF, BUTTON_TARGET_PORT⟩
  targetPath := fun _ => 0
  lastSent := 0

section

variable (P : Packages)

/-- The endpoint after the call, and whether it succeeds. -/
def makeSockEp (ep : SockUdpEp) (addr : ℕ → UInt8) : Bool × SockUdpEp :=
  let res := P.sockUdpStr2ep { ep with port := 0 } addr
  if res.1 then
    (true, { res.2 with
      family := .inet6
      netif := SOCK_ADDR_ANY_NETIF
      port := if res.2.port = 0 then GCOAP_PORT else res.2.port })
  else (false, res.2)

/-- A key and the token behind it, with whether the walk goes on. -/
def walkStep (payload : ℕ → UInt8) (key value : JsmnTok) (s : Vars) : Bool × Vars :=
  if jsoneq payload key (ascii ['a', 'd', 'd', 'r']) then
    if value.type ≠ .string then (false, s)
    else
      -- The result is not checked.
      let made := makeSockEp P s.targetRemote fun k => payload (value.start.toNat + k)
      (true, { s with targetRemote := made.2 })
  else if jsoneq payload key (ascii ['p', 'a', 't', 'h']) then
    if value.type ≠ .string then (false, s)
    else if value.len = 0 then (true, { s with targetPath := Function.update s.targetPath 0 0 })
    else
      (true, { s with
        targetPath := strncpy s.targetPath payload value.start.toNat value.len })
  else (false, s)

/-- `for (int i = 1; i < num; i++)`, with enough `fuel` for the tokens left. -/
def walk (payload : ℕ → UInt8) (toks : ℕ → JsmnTok) (num : ℕ) : ℕ → ℕ → Vars → Code × Vars
  | 0, _, s => (.valid, s)
  | fuel + 1, i, s =>
    if i < num then
      let res := walkStep P payload (toks i) (toks (i + 1)) s
      if res.1 then walk payload toks num fuel (i + 2) res.2 else (.badRequest, res.2)
    else (.valid, s)

def setTargetFromPayload (pdu : TargetPdu) (s : Vars) : Code × Vars :=
  match P.jsmnParse (slice pdu.payload 0 pdu.payloadLen) with
  | none => (.badRequest, s)
  | some tokens =>
    let toks := pdu.toks tokens
    if tokens.length < 1 ∨ (toks 0).type ≠ .object then (.badRequest, s)
    else walk P pdu.payload toks tokens.length tokens.length 1 s

def setTarget (pdu : TargetPdu) (s : Vars) : Option TargetResponse × Vars :=
  match pdu.method with
  | .post =>
    if pdu.contentType ≠ COAP_FORMAT_JSON then (some ⟨.badRequest, []⟩, s)
    else
      let after := setTargetFromPayload P pdu s
      (some ⟨after.1, []⟩, after.2)
  | _ => (none, s)

end

namespace Vars

variable (s : Vars)

/-- The period is taken from the reading, both wrap around. -/
def tooSoon (now : UInt32) : Bool := now - US_PER_SEC < s.lastSent

def noTarget : Bool := s.targetRemote.addr = Vector.replicate 16 0 ∨ s.targetPath 0 = 0

/-- The clock is read twice, `now` and then `later`. The request is handed to `gcoap_req_send2`,
whose result is only printed. -/
def postToTarget (now later : UInt32) : Option Request × Vars :=
  if s.tooSoon now then (none, s)
  else if s.noTarget then (none, s)
  else
    let path := (slice s.targetPath 0 BUTTON_TARGET_PATH_LEN).takeWhile (· ≠ 0)
    (some ⟨s.targetRemote, path, []⟩, { s with lastSent := later })

end Vars

end Button

end RiotPlayground
