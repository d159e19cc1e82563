import RiotPlayground.Lib.Scanf
import RiotPlayground.Luke.Common

/-!
# The messages of the luke nodes

Payloads are JSON texts that are scanned with a format, after a check of their length.
-/

namespace RiotPlayground

open Directive

namespace Luke

/-- `{"points":%u}` -/
def LUKE_POINTS_FMT : List Directive :=
  ['{', '"', 'p', 'o', 'i', 'n', 't', 's', '"', ':'].map .lit ++ [.unsigned, .lit '}']

/-- `{"points":0}` -/
@[simp] abbrev LUKE_POINTS_MIN_SIZE : ℕ := 12

/-- `{"points":255}` -/
@[simp] abbrev LUKE_POINTS_MAX_SIZE : ℕ := 14

@[simp] abbrev COAP_FORMAT_JSON : UInt16 := 50

inductive Method
  | get
  | post
  | other
  deriving DecidableEq

inductive Code
  | valid
  | badRequest
  | content
  deriving DecidableEq

structure Response where
  code : Code
  payload : List Char

/-- A request that was received. Behind the payload the buffer holds `rest`. -/
structure Pdu where
  method : Method
  contentType : UInt16
  payload : List Char
  rest : List Char

namespace Pdu

variable (pdu : Pdu)

/-- The check of the POST handlers. `sscanf` does not know where the payload ends. -/
def scan (minSize maxSize : ℕ) (format : List Directive) : Option UInt32 :=
  if pdu.payload.length < minSize ∨ maxSize < pdu.payload.length ∨
      pdu.contentType ≠ COAP_FORMAT_JSON then none
  else
    match sscanf format (pdu.payload ++ pdu.rest) with
    | [n] => some n
    | _ => none

def scanPoints : Option UInt32 :=
  pdu.scan LUKE_POINTS_MIN_SIZE LUKE_POINTS_MAX_SIZE LUKE_POINTS_FMT

variable {pdu}

lemma scan_sprintf {minSize maxSize : ℕ} {format : List Directive} {n : UInt32}
    (hformat : Scannable format) (hone : conversions format = 1)
    (hpayload : pdu.payload = sprintf format [n]) (htype : pdu.contentType = COAP_FORMAT_JSON) :
    pdu.scan minSize maxSize format =
      if pdu.payload.length < minSize ∨ maxSize < pdu.payload.length then none else some n := by
  have hargs : [n].length = conversions format := hone.symm
  have hscan : sscanf format (pdu.payload ++ pdu.rest) = [n] := by
    rw [hpayload]
    exact sscanf_sprintf hformat hargs pdu.rest
  unfold scan
  rw [hscan, htype]
  by_cases hsize : pdu.payload.length < minSize ∨ maxSize < pdu.payload.length
  · rw [if_pos hsize, if_pos (hsize.imp_right .inl)]
  · rw [if_neg hsize, if_neg]
    rintro (h | h | h)
    · exact hsize (.inl h)
    · exact hsize (.inr h)
    · exact h rfl

end Pdu

lemma pointsText_eq (n : UInt32) : pointsText n = sprintf LUKE_POINTS_FMT [n] := rfl

lemma length_pointsText (n : UInt32) :
    (pointsText n).length = (Nat.toDigits 10 n.toNat).length + 11 := by
  unfold pointsText
  rw [List.length_append, List.length_append]
  dsimp only [List.length_cons, List.length_nil]
  omega

lemma scannable_points : Scannable LUKE_POINTS_FMT ∧ conversions LUKE_POINTS_FMT = 1 := by
  refine ⟨?_, rfl⟩
  exact ⟨rfl, rfl, rfl, rfl, rfl, rfl, rfl, rfl, rfl, rfl, ⟨'}', [], rfl, rfl⟩, rfl, trivial⟩

/-- Three digits fit. -/
lemma scanPoints_pointsText {pdu : Pdu} {n : UInt32} (hpayload : pdu.payload = pointsText n)
    (htype : pdu.contentType = COAP_FORMAT_JSON) :
    pdu.scanPoints = if n < 1000 then some n else none := by
  have hfit := Nat.length_toDigits_le_iff (b := 10) (n := n.toNat) (k := 3) (by omega) (by omega)
  have hlt : n < 1000 ↔ n.toNat < 1000 := UInt32.lt_iff_toNat_lt
  have hpos : 0 < (Nat.toDigits 10 n.toNat).length := Nat.length_toDigits_pos
  have hscan : pdu.scan LUKE_POINTS_MIN_SIZE LUKE_POINTS_MAX_SIZE LUKE_POINTS_FMT = _ :=
    Pdu.scan_sprintf scannable_points.1 scannable_points.2 (hpayload.trans (pointsText_eq n)) htype
  rw [Pdu.scanPoints, hscan, hpayload, length_pointsText]
  by_cases hn : n < 1000
  · rw [if_pos hn, if_neg]
    have := hfit.mpr (hlt.mp hn)
    rintro (h | h) <;> simp at h <;> omega
  · rw [if_neg hn, if_pos]
    have : ¬ (Nat.toDigits 10 n.toNat).length ≤ 3 := fun h => hn (hlt.mpr (hfit.mp h))
    right
    change 14 < _
    omega

end Luke

end RiotPlayground
