import RiotPlayground.StackComparison.Exp
import RiotPlayground.Lib.OnesComplement

/-!
# RIOT under the experiment

What `exp.c` relies on when it calls the checksum functions, functions that behave so, and the
configuration of `exp.h` and `netdev.h`.
-/

namespace RiotPlayground

open OnesComplement

namespace Exp

/-- The pseudo header over the source and destination address. -/
def pseudoHeader (addrs : List UInt8) (protNum : UInt8) (length : UInt16) : List UInt8 :=
  addrs ++ [0, 0] ++ htons length.toNat ++ [0, 0, 0, protNum]

/-- Both functions fold the one's complement sum of their input onto the seed. The addresses stand
at the end of the IPv6 header. -/
structure Riot.Sums (R : Riot) : Prop where
  inetCsum : ∀ seed bs, R.inetCsum seed bs = sum seed (words bs)
  ipv6HdrInetCsum : ∀ seed hdr protNum length, R.ipv6HdrInetCsum seed hdr protNum length =
    sum seed (words (pseudoHeader (hdr.drop 8) protNum length))

/-- The MHR of a data frame that asks for an acknowledgment, with long addresses and both PAN
IDs. -/
def setFrameHdr (src dst pan : List UInt8) (seq : ℕ) : List UInt8 :=
  [0x21, 0xdc, UInt8.ofNat seq] ++ pan ++ dst.reverse ++ pan ++ src.reverse

def srcL2 : List UInt8 := [0x02, 0x12, 0x34, 0x56, 0x78, 0x9a, 0xbc, 0xde]

def dstL2 : List UInt8 := [0x02, 0x01, 0x02, 0x03, 0x04, 0x05, 0x06, 0x00]

def riot : Riot where
  inetCsum seed bs := sum seed (words bs)
  ipv6HdrInetCsum seed hdr protNum length :=
    sum seed (words (pseudoHeader (hdr.drop 8) protNum length))
  mhr := setFrameHdr srcL2 dstL2 [0x08, 0x07]

lemma riot_sums : riot.Sums := ⟨fun _ _ => rfl, fun _ _ _ _ => rfl⟩

lemma length_riot_mhr (i : ℕ) : (riot.mhr i).length = MHR_LEN := rfl

/-- The configuration without any define. The destination has the long address of the device under
test as its interface identifier. -/
def defaults : Config where
  lwip := false
  srcPort := 1234
  dstPort := 1234
  src := #v[0xfe, 0x80, 0, 0, 0, 0, 0, 0, 0x00, 0x12, 0x34, 0x56, 0x78, 0x9a, 0xbc, 0xde]
  dst := #v[0xfe, 0x80, 0, 0, 0, 0, 0, 0, 0x00, 0x01, 0x02, 0x03, 0x04, 0x05, 0x06, 0x00]

end Exp

end RiotPlayground
