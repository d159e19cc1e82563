import Mathlib.Data.Nat.Notation

/-!
# UDP header compression

The compressed UDP header of 6LoWPAN: an identifier that carries the port mode and says whether
the checksum is elided, the bits of the ports that the mode keeps, and the checksum.
-/

namespace UdpNhc

/-- How the ports are carried. Where eight or twelve bits are missing, they are `0xf0` or
`0xf0b`. -/
inductive PortMode
  | full
  | shortDst
  | shortSrc
  | nibbles

structure Header where
  srcPort : ℕ
  dstPort : ℕ
  /-- `none` if it is elided. -/
  checksum : Option ℕ

def word (hi lo : UInt8) : ℕ := hi.toNat * 256 + lo.toNat

def PortMode.ofBits : ℕ → PortMode
  | 0 => full
  | 1 => shortDst
  | 2 => shortSrc
  | _ => nibbles

def PortMode.bits : PortMode → ℕ
  | full => 0
  | shortDst => 1
  | shortSrc => 2
  | nibbles => 3

def decodePorts : PortMode → List UInt8 → Option ((ℕ × ℕ) × List UInt8)
  | .full, s :: s' :: d :: d' :: rest => some ((word s s', word d d'), rest)
  | .shortDst, s :: s' :: d :: rest => some ((word s s', 0xf000 + d.toNat), rest)
  | .shortSrc, s :: d :: d' :: rest => some ((0xf000 + s.toNat, word d d'), rest)
  | .nibbles, sd :: rest => some ((0xf0b0 + sd.toNat / 16, 0xf0b0 + sd.toNat % 16), rest)
  | _, _ => none

def decodeChecksum (elided : Bool) (bytes : List UInt8) : Option (Option ℕ × List UInt8) :=
  if elided then some (none, bytes)
  else
    match bytes with
    | hi :: lo :: rest => some (word hi lo, rest)
    | _ => none

/-- The header at the front, and what follows it. The identifier is `11110CPP`. -/
def decode : List UInt8 → Option (Header × List UInt8)
  | [] => none
  | nhc :: bytes =>
    if nhc.toNat / 8 = 30 then do
      let (ports, bytes) ← decodePorts (.ofBits (nhc.toNat % 4)) bytes
      let (checksum, bytes) ← decodeChecksum (nhc.toNat / 4 % 2 = 1) bytes
      some (⟨ports.1, ports.2, checksum⟩, bytes)
    else none

/-- The ports that a mode can carry. -/
def PortMode.Fits : PortMode → ℕ → ℕ → Prop
  | full, src, dst => src < 65536 ∧ dst < 65536
  | shortDst, src, dst => src < 65536 ∧ dst / 256 = 0xf0
  | shortSrc, src, dst => src / 256 = 0xf0 ∧ dst < 65536
  | nibbles, src, dst => src / 16 = 0xf0b ∧ dst / 16 = 0xf0b

def encodePorts : PortMode → ℕ → ℕ → List UInt8
  | .full, src, dst =>
    [UInt8.ofNat (src / 256), UInt8.ofNat src, UInt8.ofNat (dst / 256), UInt8.ofNat dst]
  | .shortDst, src, dst => [UInt8.ofNat (src / 256), UInt8.ofNat src, UInt8.ofNat dst]
  | .shortSrc, src, dst => [UInt8.ofNat src, UInt8.ofNat (dst / 256), UInt8.ofNat dst]
  | .nibbles, src, dst => [UInt8.ofNat (src % 16 * 16 + dst % 16)]

/-- The header without its checksum, which follows. -/
def encode (mode : PortMode) (src dst : ℕ) : List UInt8 :=
  UInt8.ofNat (0xf0 + mode.bits) :: encodePorts mode src dst

lemma word_ofNat {n : ℕ} (h : n < 65536) : word (UInt8.ofNat (n / 256)) (UInt8.ofNat n) = n := by
  simp only [word, UInt8.toNat_ofNat']
  omega

lemma decodePorts_encodePorts {mode : PortMode} {src dst : ℕ} (h : mode.Fits src dst)
    (rest : List UInt8) :
    decodePorts mode (encodePorts mode src dst ++ rest) = some ((src, dst), rest) := by
  cases mode with
  | full => simp [decodePorts, encodePorts, word_ofNat h.1, word_ofNat h.2]
  | shortDst =>
    have hdst : 61440 + dst % 256 = dst := by have := h.2; omega
    simp [decodePorts, encodePorts, word_ofNat h.1, hdst]
  | shortSrc =>
    have hsrc : 61440 + src % 256 = src := by have := h.1; omega
    simp [decodePorts, encodePorts, word_ofNat h.2, hsrc]
  | nibbles =>
    have hsrc : 61616 + (src % 16 * 16 + dst % 16) % 256 / 16 = src := by have := h.1; omega
    have hdst : 61616 + dst % 16 = dst := by have := h.2; omega
    simp [decodePorts, encodePorts, hsrc, hdst]

lemma ofBits_bits (mode : PortMode) : PortMode.ofBits mode.bits = mode := by
  cases mode <;> rfl

lemma bits_lt (mode : PortMode) : mode.bits < 4 := by
  cases mode <;> simp [PortMode.bits]

theorem decode_encode {mode : PortMode} {src dst : ℕ} (h : mode.Fits src dst) (hi lo : UInt8)
    (rest : List UInt8) : decode (encode mode src dst ++ hi :: lo :: rest) =
      some (⟨src, dst, word hi lo⟩, rest) := by
  have hlt := bits_lt mode
  have hid : (240 + mode.bits) % 256 / 8 = 30 := by omega
  have hbits : (240 + mode.bits) % 4 = mode.bits := by omega
  have hchecksum : (240 + mode.bits) % 256 / 4 % 2 = 0 := by omega
  simp [decode, encode, hid, hbits, hchecksum, ofBits_bits, decodePorts_encodePorts h,
    decodeChecksum]

end UdpNhc
