import Mathlib.Algebra.Ring.Nat
import RiotPlayground.Lib.UdpNhc
import RiotPlayground.StackComparison.ExpLoops
import RiotPlayground.Websniffer.Dissect

/-!
# The compressed header of the experiment decodes

`IPHC_LEN` and the bytes of `_init_iphc` are chosen by two chains of conditions on the ports. Both
agree with the port modes of the UDP header compression.
-/

namespace RiotPlayground

open Buffer UdpNhc

namespace Exp

/-- The UDP header behind the encoding bytes and the fields in line of an IPHC header that says
its next header is compressed. -/
def decodeIphc : List UInt8 → Option (Header × List UInt8)
  | b0 :: b1 :: rest =>
    if b0.toNat / 32 = 3 ∧ b0.toNat / 4 % 2 = 1 then
      decode (rest.drop (iphcInline b0.toNat b1.toNat))
    else none
  | _ => none

variable (c : Config)

/-- The port mode that the ports call for. -/
def portMode : PortMode :=
  if c.dstPort &&& 0xfff0 = 0xf0b0 ∧ c.srcPort &&& 0xfff0 = 0xf0b0 then .nibbles
  else if c.dstPort &&& 0xff00 = 0xf000 then .shortDst
  else if c.srcPort &&& 0xff00 = 0xf000 then .shortSrc
  else .full

lemma div_pow_and {x m : UInt16} (k : ℕ) {v : UInt16} (h : x &&& m = v) :
    x.toNat / 2 ^ k &&& m.toNat / 2 ^ k = v.toNat / 2 ^ k := by
  rw [← h, UInt16.toNat_and, ← Nat.shiftRight_eq_div_pow, ← Nat.shiftRight_eq_div_pow,
    ← Nat.shiftRight_eq_div_pow, Nat.shiftRight_and_distrib]

lemma high_byte {p : UInt16} (h : p &&& 0xff00 = 0xf000) : p.toNat / 256 = 0xf0 := by
  have hlt := p.toNat_lt
  have hand : p.toNat / 256 &&& 2 ^ 8 - 1 = 0xf0 := div_pow_and 8 h
  rw [Nat.and_two_pow_sub_one_eq_mod] at hand
  omega

lemma high_nibbles {p : UInt16} (h : p &&& 0xfff0 = 0xf0b0) : p.toNat / 16 = 0xf0b := by
  have hlt := p.toNat_lt
  have hand : p.toNat / 16 &&& 2 ^ 12 - 1 = 0xf0b := div_pow_and 4 h
  rw [Nat.and_two_pow_sub_one_eq_mod] at hand
  omega

lemma portMode_fits : (portMode c).Fits c.srcPort.toNat c.dstPort.toNat := by
  have hsrc := c.srcPort.toNat_lt
  have hdst := c.dstPort.toNat_lt
  unfold portMode
  split
  · rename_i h
    exact ⟨high_nibbles h.2, high_nibbles h.1⟩
  · split
    · rename_i h
      exact ⟨hsrc, high_byte h⟩
    · split
      · rename_i h
        exact ⟨high_byte h, hdst⟩
      · exact ⟨hsrc, hdst⟩

lemma toUInt8_shiftRight (p : UInt16) : (p >>> 8).toUInt8 = UInt8.ofNat (p.toNat / 256) := by
  apply UInt8.toNat_inj.mp
  simp [Nat.shiftRight_eq_div_pow]

lemma toUInt8_low (p : UInt16) : (p &&& 0xff).toUInt8 = UInt8.ofNat p.toNat := by
  apply UInt8.toNat_inj.mp
  have hand (x : ℕ) : x &&& 255 = x % 256 := Nat.and_two_pow_sub_one_eq_mod x 8
  simp [hand]

lemma toUInt8_nibbles (p q : UInt16) : ((p &&& 0xf) <<< 4 ||| (q &&& 0xf)).toUInt8 =
    UInt8.ofNat (p.toNat % 16 * 16 + q.toNat % 16) := by
  apply UInt8.toNat_inj.mp
  have hand (x : ℕ) : x &&& 15 = x % 16 := Nat.and_two_pow_sub_one_eq_mod x 4
  have hor : (p.toNat % 16) <<< 4 ||| q.toNat % 16 = p.toNat % 16 * 16 + q.toNat % 16 := by
    have hlt : q.toNat % 16 < 2 ^ 4 := Nat.mod_lt _ (by decide)
    rw [← Nat.shiftLeft_add_eq_or_of_lt hlt, Nat.shiftLeft_eq]
  have hmod : (p.toNat % 16) <<< 4 % 256 = (p.toNat % 16) <<< 4 := by
    rw [Nat.shiftLeft_eq]
    omega
  have hlt : p.toNat % 16 * 16 + q.toNat % 16 < 256 := by omega
  simp [hand, hor, hmod, Nat.mod_eq_of_lt hlt]

lemma nhcUdp_eq :
    nhcUdp c = encode (portMode c) c.srcPort.toNat c.dstPort.toNat := by
  unfold nhcUdp portMode
  simp only [toUInt8_shiftRight, toUInt8_low, toUInt8_nibbles]
  split
  · rfl
  · split
    · rfl
    · split <;> rfl

/-- The bytes of both functions are `IPHC_LEN` bytes and decode, in front of whatever follows. -/
theorem iphc_decodes (uncomp : ℕ → UInt8) : ∃ bytes : List UInt8, bytes.length = iphcLen c ∧
    (∀ buf pos, setChksum c (poke buf pos (initIphc c)) pos uncomp = poke buf pos bytes) ∧
    ∀ rest, decodeIphc (bytes ++ rest) =
      some (⟨c.srcPort.toNat, c.dstPort.toNat, word (uncomp 46) (uncomp 47)⟩, rest) := by
  have hlen : (initIphc c ++ [uncomp 46, uncomp 47]).length = iphcLen c := by
    have := iphcLen_cases c
    rw [List.length_append, length_initIphc]
    simp only [List.length_cons, List.length_nil]
    omega
  refine ⟨initIphc c ++ [uncomp 46, uncomp 47], hlen, ?_, ?_⟩
  · intro buf pos
    rw [setChksum, ← length_initIphc, poke_append]
  · intro rest
    have hdecode := decode_encode (portMode_fits c) (uncomp 46) (uncomp 47) rest
    simp only [initIphc, nhcUdp_eq, List.append_assoc, List.cons_append, List.nil_append,
      decodeIphc]
    exact hdecode

end Exp

end RiotPlayground
