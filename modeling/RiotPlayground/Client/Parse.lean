import Mathlib.Data.Int.Notation
import RiotPlayground.Lib.Atoi
import RiotPlayground.Lib.Buffer

/-!
# The parsers of the DNS client: `_parse_hex` and `_parse_i64`

A C string is the list of its characters, so that the end of the list is the terminating NUL.
-/

namespace RiotPlayground

open Buffer Directive

namespace Client

def parseSinglehex (hex : Char) : Option UInt8 :=
  if '0' ≤ hex ∧ hex ≤ '9' then some (UInt8.ofNat (hex.toNat - '0'.toNat))
  else if 'a' ≤ hex ∧ hex ≤ 'f' then some (UInt8.ofNat (hex.toNat - 'a'.toNat + 10))
  else if 'A' ≤ hex ∧ hex ≤ 'F' then some (UInt8.ofNat (hex.toNat - 'A'.toNat + 10))
  else none

def atEnd : List Char → Bool
  | [] => true
  | ['-'] => true
  | _ => false

/-- `_parse_hex` with `data` pointing to index `pos`: the result, and the buffer after. -/
def parseHex : List Char → ℕ → (ℕ → UInt8) → ℕ → Bool × (ℕ → UInt8)
  | hex, 0, data, _ => (atEnd hex, data)
  | [], _ + 1, data, _ => (false, data)
  | hi :: hex, len + 1, data, pos =>
    match parseSinglehex hi with
    | none => (false, data)
    | some acc =>
      let data := Function.update data pos (acc <<< 4)
      match hex with
      | [] => (false, data)
      | lo :: hex =>
        match parseSinglehex lo with
        | none => (false, data)
        | some acc => parseHex hex len (Function.update data pos (data pos ||| acc)) (pos + 1)

/-- The bytes a string of `len` pairs of hex digits stands for. -/
def decodeHex : ℕ → List Char → Option (List UInt8)
  | 0, hex => if atEnd hex then some [] else none
  | len + 1, hi :: lo :: hex =>
    (parseSinglehex hi).bind fun hi => (parseSinglehex lo).bind fun lo =>
      (decodeHex len hex).map ((hi <<< 4 ||| lo) :: ·)
  | _ + 1, _ => none

lemma decodeHex_succ {len : ℕ} {hex : List Char} {bytes : List UInt8}
    (h : decodeHex (len + 1) hex = some bytes) : ∃ hi lo rest hiVal loVal tail,
      hex = hi :: lo :: rest ∧ parseSinglehex hi = some hiVal ∧ parseSinglehex lo = some loVal ∧
      decodeHex len rest = some tail ∧ bytes = (hiVal <<< 4 ||| loVal) :: tail := by
  match hex, h with
  | hi :: lo :: rest, h =>
    obtain ⟨hiVal, hhi, h⟩ := Option.bind_eq_some_iff.mp h
    obtain ⟨loVal, hlo, h⟩ := Option.bind_eq_some_iff.mp h
    obtain ⟨tail, htail, h⟩ := Option.map_eq_some_iff.mp h
    exact ⟨hi, lo, rest, hiVal, loVal, tail, rfl, hhi, hlo, htail, h.symm⟩
  | [_], h => cases h
  | [], h => cases h

lemma length_decodeHex {len : ℕ} {hex : List Char} {bytes : List UInt8}
    (h : decodeHex len hex = some bytes) : bytes.length = len := by
  induction len generalizing hex bytes with
  | zero =>
    unfold decodeHex at h
    split at h
    · rw [← Option.some.inj h, List.length_nil]
    · cases h
  | succ len ih =>
    obtain ⟨hi, lo, rest, hiVal, loVal, tail, -, -, -, htail, rfl⟩ := decodeHex_succ h
    rw [List.length_cons, ih htail]

/-- `_parse_hex` accepts what stands for `len` bytes, and writes these. -/
lemma parseHex_eq (hex : List Char) (len : ℕ) (data : ℕ → UInt8) (pos : ℕ) :
    (parseHex hex len data pos).1 = (decodeHex len hex).isSome ∧
    ∀ bytes, decodeHex len hex = some bytes →
      (parseHex hex len data pos).2 = poke data pos bytes := by
  induction len generalizing hex data pos with
  | zero =>
    unfold decodeHex parseHex
    cases atEnd hex with
    | false => exact ⟨rfl, fun bytes h => by cases h⟩
    | true =>
      refine ⟨rfl, fun bytes h => ?_⟩
      rw [← Option.some.inj h, poke_nil]
  | succ len ih =>
    match hex with
    | [] => exact ⟨rfl, fun bytes h => by cases h⟩
    | [hi] =>
      refine ⟨?_, fun bytes h => by cases h⟩
      unfold parseHex
      cases parseSinglehex hi <;> rfl
    | hi :: lo :: hex =>
      unfold parseHex decodeHex
      cases parseSinglehex hi with
      | none => exact ⟨rfl, fun bytes h => by cases h⟩
      | some hiVal =>
        dsimp only [Option.bind_some]
        cases parseSinglehex lo with
        | none => exact ⟨rfl, fun bytes h => by cases h⟩
        | some loVal =>
          obtain ⟨hres, hdata⟩ :=
            ih hex (Function.update data pos (hiVal <<< 4 ||| loVal)) (pos + 1)
          dsimp only [Option.bind_some]
          rw [Function.update_self, Function.update_idem, hres, Option.isSome_map]
          refine ⟨rfl, fun bytes h => ?_⟩
          obtain ⟨tail, htail, rfl⟩ := Option.map_eq_some_iff.mp h
          rw [hdata tail htail, update_eq_poke]
          exact poke_append data pos [hiVal <<< 4 ||| loVal] tail

/-- The positions that `_parse_hex` assigns to, in order. -/
def hexStores : List Char → ℕ → ℕ → List ℕ
  | _, 0, _ => []
  | [], _ + 1, _ => []
  | hi :: hex, len + 1, pos =>
    match parseSinglehex hi with
    | none => []
    | some _ =>
      match hex with
      | [] => [pos]
      | lo :: hex =>
        match parseSinglehex lo with
        | none => [pos]
        | some _ => pos :: pos :: hexStores hex len (pos + 1)

/-- The bytes that `_parse_hex` leaves, whether it accepts or not. A digit without a second one is
the upper half of a byte. -/
def writtenHex : ℕ → List Char → List UInt8
  | 0, _ => []
  | _ + 1, [] => []
  | _ + 1, [hi] => ((parseSinglehex hi).map fun acc => acc <<< (4 : UInt8)).toList
  | len + 1, hi :: lo :: hex =>
    match parseSinglehex hi with
    | none => []
    | some hi =>
      match parseSinglehex lo with
      | none => [hi <<< 4]
      | some lo => (hi <<< 4 ||| lo) :: writtenHex len hex

lemma parseHex_written (hex : List Char) (len : ℕ) (data : ℕ → UInt8) (pos : ℕ) :
    (parseHex hex len data pos).2 = poke data pos (writtenHex len hex) := by
  fun_induction writtenHex len hex generalizing data pos with
  | case1 =>
    rw [poke_nil]
    unfold parseHex
    rfl
  | case2 => exact (poke_nil data pos).symm
  | case3 len hi =>
    unfold parseHex
    cases parseSinglehex hi with
    | none => exact (poke_nil data pos).symm
    | some acc => exact update_eq_poke data pos (acc <<< 4)
  | case4 len hi lo hex hnone =>
    unfold parseHex
    rw [hnone]
    exact (poke_nil data pos).symm
  | case5 len hi lo hex acc hhi hnone =>
    unfold parseHex
    rw [hhi]
    dsimp only
    rw [hnone]
    exact update_eq_poke data pos (acc <<< 4)
  | case6 len hi lo hex hiVal hhi loVal hlo ih =>
    unfold parseHex
    rw [hhi]
    dsimp only
    rw [hlo]
    dsimp only
    rw [ih, Function.update_self, Function.update_idem, update_eq_poke]
    exact poke_append data pos [hiVal <<< 4 ||| loVal] _

lemma mem_hexStores {hex : List Char} {len pos i : ℕ} :
    i ∈ hexStores hex len pos ↔ pos ≤ i ∧ i < pos + (writtenHex len hex).length := by
  fun_induction writtenHex len hex generalizing pos with
  | case1 => simp [hexStores]
  | case2 => simp [hexStores]
  | case3 len hi =>
    unfold hexStores
    cases parseSinglehex hi with
    | none => simp
    | some acc => simp; omega
  | case4 len hi lo hex hnone =>
    simp [hexStores, hnone]
  | case5 len hi lo hex acc hhi hnone =>
    simp [hexStores, hhi, hnone]
    omega
  | case6 len hi lo hex hiVal hhi loVal hlo ih =>
    simp [hexStores, hhi, hlo, ih]
    omega

lemma length_writtenHex_le (len : ℕ) (hex : List Char) : (writtenHex len hex).length ≤ len := by
  fun_induction writtenHex len hex with
  | case6 len hi lo hex hiVal hhi loVal hlo ih => exact Nat.succ_le_succ ih
  | case3 len hi => cases parseSinglehex hi <;> simp
  | _ => simp

/-- `_parse_i64`: the result, and the number that is stored either way. -/
def parseI64 (chars : List Char) : Bool × ℤ :=
  let res := strtoll chars
  (match res.2 with
    | [] => true
    | c :: _ => c = ' ' || c = '\n', res.1)

end Client

end RiotPlayground
