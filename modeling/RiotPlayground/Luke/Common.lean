import RiotPlayground.Lib.Buffer

/-!
# What the luke nodes share: `common/common.c`

Every node posts points to a target that can be set over CoAP.
-/

namespace RiotPlayground

open Buffer

namespace Luke

@[simp] abbrev LUKE_TARGET_PATH_LEN : ℕ := 16
@[simp] abbrev US_PER_SEC : UInt32 := 1000000

@[simp] abbrev GCOAP_PORT : UInt16 := 5683
@[simp] abbrev LUKE_TARGET_PORT : UInt16 := GCOAP_PORT
@[simp] abbrev SOCK_ADDR_ANY_NETIF : UInt16 := 0

inductive Family
  | unspec
  | inet
  | inet6

structure SockUdpEp where
  family : Family
  addr : Vector UInt8 16
  netif : UInt16
  port : UInt16

/-- The static variables of `common.c`. -/
structure Common where
  targetRemote : SockUdpEp
  targetPath : ℕ → UInt8
  victoryLastSent : UInt32

def Common.init : Common where
  targetRemote := ⟨.inet6, Vector.replicate 16 0, SOCK_ADDR_ANY_NETIF, LUKE_TARGET_PORT⟩
  targetPath := fun _ => 0
  victoryLastSent := 0

/-- A POST request for `gcoap_req_send2`. -/
structure Request where
  remote : SockUdpEp
  path : List UInt8
  payload : List Char

def pointsText (points : UInt32) : List Char :=
  ['{', '"', 'p', 'o', 'i', 'n', 't', 's', '"', ':'] ++ Nat.toDigits 10 points.toNat ++ ['}']

namespace Common

variable (s : Common)

def noTarget : Bool := s.targetRemote.addr = Vector.replicate 16 0 ∨ s.targetPath 0 = 0

/-- The difference wraps around. -/
def tooSoon (now : UInt32) : Bool := s.victoryLastSent - now < US_PER_SEC

structure Posted where
  result : ℕ
  request : Option Request
  common : Common

/-- The clock is read twice, `now` and then `later`, and `gcoap_req_send2` returns `res`. -/
def postPointsToTarget (points now later : UInt32) (res : ℕ) : Posted :=
  if s.noTarget then ⟨0, none, s⟩
  else if s.tooSoon now then ⟨0, none, s⟩
  else
    let path := (slice s.targetPath 0 LUKE_TARGET_PATH_LEN).takeWhile (· ≠ 0)
    ⟨res, some ⟨s.targetRemote, path, pointsText points⟩, { s with victoryLastSent := later }⟩

/-- There is a target, the limiter does not hold the request back, and it can be sent. -/
def CanPost (now : UInt32) (res : ℕ) : Prop :=
  s.noTarget = false ∧ s.tooSoon now = false ∧ res ≠ 0

lemma result_ne_zero_iff (points now later : UInt32) (res : ℕ) :
    (s.postPointsToTarget points now later res).result ≠ 0 ↔ s.CanPost now res := by
  unfold postPointsToTarget CanPost
  cases s.noTarget with
  | true => simp
  | false => cases s.tooSoon now <;> simp

end Common

end Luke

end RiotPlayground
