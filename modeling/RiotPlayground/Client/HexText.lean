import RiotPlayground.Client.Parse
import RiotPlayground.Lib.Logged
import RiotPlayground.Lib.PyText

/-!
# `_parse_hex` on memory

Here a string is what memory holds from a pointer on up to the first NUL, and every access is
logged. The loop refines the parser of lists, so what it accepts can be read off there.
-/

namespace RiotPlayground

open Buffer PyText

namespace Client

/-- Memory holds the C string `s` at `hex`, whatever it holds behind the NUL. -/
def IsString (mem : ℕ → Char) : ℕ → List Char → Prop
  | hex, [] => mem hex = '\x00'
  | hex, c :: s => mem hex = c ∧ c ≠ '\x00' ∧ IsString mem (hex + 1) s

/-- A load of the string, or a store to the buffer. -/
inductive HexAccess
  | load (hex : ℕ)
  | store (data : ℕ)

def load (mem : ℕ → Char) (hex : ℕ) : Logged (ℕ → UInt8) HexAccess Char := do
  Logged.note [.load hex]
  pure (mem hex)

def store (data : ℕ) (b : UInt8) : Logged (ℕ → UInt8) HexAccess Unit := do
  Logged.note [.store data]
  Logged.modify fun bytes => Function.update bytes data b

/-- `_parse_hex` with `hex` and `data` as indices. -/
def parseHexAt (mem : ℕ → Char) : ℕ → ℕ → ℕ → Logged (ℕ → UInt8) HexAccess Bool
  | hex, 0, _ => do
    let c ← load mem hex
    let c ← load mem (if c = '-' then hex + 1 else hex)
    pure (c = '\x00')
  | hex, len + 1, data => do
    match parseSinglehex (← load mem hex) with
    | none => pure false
    | some acc =>
      store data (acc <<< 4)
      match parseSinglehex (← load mem (hex + 1)) with
      | none => pure false
      | some acc =>
        let bytes ← Logged.read
        store data (bytes data ||| acc)
        parseHexAt mem (hex + 2) len (data + 1)

/-- A call of `_parse_hex`. -/
def callParseHex (mem : ℕ → Char) (len : ℕ) (buf : ℕ → UInt8) :
    Logged.Ran (ℕ → UInt8) HexAccess Bool :=
  parseHexAt mem 0 len 0 buf

/-- Nothing is read behind `nul`, and nothing is written from `stop` on. -/
def HexAccess.InBounds (nul stop : ℕ) : HexAccess → Prop
  | .load hex => hex ≤ nul
  | .store data => data < stop

/-- The pairs of hex digits of `len` bytes, in either case. -/
structure HexPairs (len : ℕ) (digits : List Char) : Prop where
  length_eq : digits.length = 2 * len
  hex : ∀ c ∈ digits, (hexValue c).isSome

/-- The bytes the pairs denote. -/
def pairBytes : List Char → List UInt8
  | hi :: lo :: digits =>
    UInt8.ofNat ((hexValue hi).getD 0 * 16 + (hexValue lo).getD 0) :: pairBytes digits
  | _ => []

/-- Hex encoding with the digits of an alphabet. -/
def encodeHex (digit : ℕ → Char) (bytes : List UInt8) : List Char :=
  bytes.flatMap fun b => [digit (b.toNat / 16), digit (b.toNat % 16)]

variable {mem : ℕ → Char} {s digits : List Char} {hex len data : ℕ}

section Loads

variable {P : HexAccess → Prop} {bytes : ℕ → UInt8}

@[simp] lemma spec_load {Q : Char → (ℕ → UInt8) → Prop} :
    Logged.Spec P (load mem hex) Q bytes ↔ P (.load hex) ∧ Q (mem hex) bytes := by
  simp [load]

@[simp] lemma spec_store {Q : Unit → (ℕ → UInt8) → Prop} {b : UInt8} :
    Logged.Spec P (store data b) Q bytes ↔
      P (.store data) ∧ Q () (Function.update bytes data b) := by
  simp [store]

end Loads

lemma parseSinglehex_nul : parseSinglehex '\x00' = none := rfl

/-- The checks at the end see the end of the list, and the second one is not behind the NUL. -/
lemma parseHexAt_end (h : IsString mem hex s) {nul : ℕ} (hnul : hex + s.length = nul)
    (bytes : ℕ → UInt8) {stop : ℕ} :
    Logged.Spec (HexAccess.InBounds nul stop) (parseHexAt mem hex 0 data)
      (fun ok t => ok = atEnd s ∧ t = bytes) bytes := by
  simp only [parseHexAt, Logged.spec_bind, spec_load, Logged.spec_pure, HexAccess.InBounds,
    and_true]
  cases s with
  | nil =>
    have hmem : mem hex = '\x00' := h
    have hle : hex ≤ nul := by omega
    simp [hmem, hle, atEnd]
  | cons c rest =>
    obtain ⟨hmem, hc, hrest⟩ := h
    have hle : hex ≤ nul := by omega
    have hnext : hex + 1 ≤ nul := by
      rw [List.length_cons] at hnul
      omega
    by_cases hdash : c = '-'
    · cases rest with
      | nil =>
        have hend : mem (hex + 1) = '\x00' := hrest
        simp [hmem, hdash, hend, hle, hnext, atEnd]
      | cons d rest =>
        obtain ⟨hd, hne, -⟩ := hrest
        simp [hmem, hdash, hd, hne, hle, hnext, atEnd]
    · simp [hmem, hdash, hc, hle, atEnd]

/-- The string ends at the first character that is no digit, if not before. -/
lemma IsString.cons_of_digit (h : IsString mem hex s) {acc : UInt8}
    (hacc : parseSinglehex (mem hex) = some acc) :
    ∃ rest, s = mem hex :: rest ∧ IsString mem (hex + 1) rest := by
  cases s with
  | nil =>
    have hmem : mem hex = '\x00' := h
    rw [hmem, parseSinglehex_nul] at hacc
    cases hacc
  | cons c rest =>
    obtain ⟨rfl, -, hrest⟩ := h
    exact ⟨rest, rfl, hrest⟩

lemma IsString.parseHex_of_none (h : IsString mem hex s) (bytes : ℕ → UInt8)
    (hnone : parseSinglehex (mem hex) = none) :
    parseHex s (len + 1) bytes data = (false, bytes) := by
  cases s with
  | nil => rfl
  | cons c rest =>
    obtain ⟨rfl, -, -⟩ := h
    unfold parseHex
    rw [hnone]

lemma IsString.parseHex_of_half (h : IsString mem hex s) (bytes : ℕ → UInt8) {hi : Char}
    {acc : UInt8} (hacc : parseSinglehex hi = some acc)
    (hnone : parseSinglehex (mem hex) = none) :
    parseHex (hi :: s) (len + 1) bytes data =
      (false, Function.update bytes data (acc <<< 4)) := by
  unfold parseHex
  rw [hacc]
  cases s with
  | nil => rfl
  | cons c rest =>
    obtain ⟨rfl, -, -⟩ := h
    dsimp only
    rw [hnone]

/-- On a string the loop over memory does what the loop over the list does, within the bounds. -/
lemma parseHexAt_spec (h : IsString mem hex s) {nul stop : ℕ} (hnul : hex + s.length = nul)
    (hstop : data + len = stop) (bytes : ℕ → UInt8) :
    Logged.Spec (HexAccess.InBounds nul stop) (parseHexAt mem hex len data)
      (fun ok t => (ok, t) = parseHex s len bytes data) bytes := by
  induction len generalizing s hex data bytes with
  | zero =>
    simp only [parseHex, Prod.mk.injEq]
    exact parseHexAt_end h hnul bytes
  | succ len ih =>
    unfold parseHexAt
    rw [Logged.spec_bind, spec_load]
    apply And.intro (show hex ≤ nul by omega)
    cases hhi : parseSinglehex (mem hex) with
    | none =>
      rw [h.parseHex_of_none bytes hhi]
      exact Logged.spec_pure _ |>.mpr rfl
    | some hiVal =>
      obtain ⟨rest, rfl, hrest⟩ := h.cons_of_digit hhi
      rw [List.length_cons] at hnul
      rw [Logged.spec_bind, spec_store]
      apply And.intro (show data < stop by omega)
      rw [Logged.spec_bind, spec_load]
      apply And.intro (show hex + 1 ≤ nul by omega)
      cases hlo : parseSinglehex (mem (hex + 1)) with
      | none =>
        rw [hrest.parseHex_of_half bytes hhi hlo]
        exact Logged.spec_pure _ |>.mpr rfl
      | some loVal =>
        obtain ⟨tail, rfl, htail⟩ := hrest.cons_of_digit hlo
        rw [List.length_cons] at hnul
        rw [Logged.spec_bind, Logged.spec_read, Logged.spec_bind, spec_store]
        apply And.intro (show data < stop by omega)
        unfold parseHex
        rw [hhi]
        dsimp only
        rw [hlo]
        exact ih htail (by omega) (by omega) _

lemma parseSinglehex_eq (c : Char) : parseSinglehex c = (hexValue c).map UInt8.ofNat := by
  have hle (a b : Char) : a ≤ b ↔ a.toNat ≤ b.toNat := Iff.rfl
  unfold parseSinglehex hexValue
  simp only [hle, Char.reduceToNat]
  by_cases hdigit : 48 ≤ c.toNat ∧ c.toNat ≤ 57
  · simp [hdigit]
  · by_cases hlower : 97 ≤ c.toNat ∧ c.toNat ≤ 102
    · have hupper : ¬ c.toNat ≤ 70 := by omega
      have hnine : ¬ c.toNat ≤ 57 := by omega
      have hval : c.toNat - 97 + 10 = c.toNat - 87 := by omega
      simp [hlower, hupper, hnine, hval]
    · by_cases hupper : 65 ≤ c.toNat ∧ c.toNat ≤ 70
      · have hnine : ¬ c.toNat ≤ 57 := by omega
        have hlow : ¬ 97 ≤ c.toNat := by omega
        have hval : c.toNat - 65 + 10 = c.toNat - 55 := by omega
        simp [hupper, hnine, hlow, hval]
      · rw [if_neg hdigit, if_neg hlower, if_neg hupper, if_neg hdigit, if_neg hupper,
          if_neg hlower]
        rfl

/-- The two halves of a byte do not overlap. -/
lemma nibbles_eq {h l : ℕ} (hh : h < 16) (hl : l < 16) :
    UInt8.ofNat h <<< 4 ||| UInt8.ofNat l = UInt8.ofNat (h * 16 + l) := by
  apply UInt8.toNat.inj
  have hor := Nat.shiftLeft_add_eq_or_of_lt (show l < 2 ^ 4 from hl) h
  have hshift : h <<< 4 = h * 16 := Nat.shiftLeft_eq h 4
  simp [Nat.mod_eq_of_lt (show h < 256 by omega), Nat.mod_eq_of_lt (show l < 256 by omega)]
  rw [Nat.mod_eq_of_lt (show h <<< 4 < 256 by omega), ← hor, hshift]
  omega

lemma byte_eq {hi lo : Char} {hiVal loVal : UInt8} (hhi : parseSinglehex hi = some hiVal)
    (hlo : parseSinglehex lo = some loVal) :
    hiVal <<< 4 ||| loVal =
      UInt8.ofNat ((hexValue hi).getD 0 * 16 + (hexValue lo).getD 0) := by
  rw [parseSinglehex_eq] at hhi hlo
  obtain ⟨h, hh, rfl⟩ := Option.map_eq_some_iff.mp hhi
  obtain ⟨l, hl, rfl⟩ := Option.map_eq_some_iff.mp hlo
  rw [hh, hl]
  exact nibbles_eq (hexValue_cases hh).1 (hexValue_cases hl).1

lemma isSome_parseSinglehex (c : Char) :
    (parseSinglehex c).isSome = (hexValue c).isSome := by
  rw [parseSinglehex_eq, Option.isSome_map]

lemma atEnd_iff : atEnd s = true ↔ s = [] ∨ s = ['-'] := by
  unfold atEnd
  split
  · simp
  · simp
  · rename_i hnil hdash
    exact iff_of_false Bool.false_ne_true (not_or.mpr ⟨hnil, hdash⟩)

/-- `s` is `digits`, or `digits` with the dash of a continuation. -/
def EndsHex (digits s : List Char) : Prop := s = digits ∨ s = digits ++ ['-']

lemma endsHex_cons {c : Char} : EndsHex (c :: digits) s ↔ ∃ t, s = c :: t ∧ EndsHex digits t := by
  constructor
  · rintro (rfl | rfl)
    · exact ⟨digits, rfl, .inl rfl⟩
    · exact ⟨digits ++ ['-'], rfl, .inr rfl⟩
  · rintro ⟨t, rfl, rfl | rfl⟩
    · exact .inl rfl
    · exact .inr rfl

lemma HexPairs.cons {hi lo : Char} (h : HexPairs len digits) (hhi : (hexValue hi).isSome)
    (hlo : (hexValue lo).isSome) : HexPairs (len + 1) (hi :: lo :: digits) where
  length_eq := by
    rw [List.length_cons, List.length_cons, h.length_eq]
    omega
  hex := by
    simp only [List.forall_mem_cons]
    exact ⟨hhi, hlo, h.hex⟩

lemma HexPairs.exists_cons (h : HexPairs (len + 1) digits) : ∃ hi lo rest,
    digits = hi :: lo :: rest ∧ (hexValue hi).isSome ∧ (hexValue lo).isSome ∧
      HexPairs len rest := by
  have hlength := h.length_eq
  match digits, h with
  | [], _ => simp at hlength
  | [_], _ => simp at hlength; omega
  | hi :: lo :: rest, h =>
    have hhex := h.hex
    simp only [List.forall_mem_cons] at hhex
    simp only [List.length_cons] at hlength
    exact ⟨hi, lo, rest, rfl, hhex.1, hhex.2.1, by omega, hhex.2.2⟩

lemma decodeHex_of_hexPairs (h : HexPairs len digits) (hs : EndsHex digits s) :
    decodeHex len s = some (pairBytes digits) := by
  induction len generalizing digits s with
  | zero =>
    obtain rfl : digits = [] := List.length_eq_zero_iff.mp h.length_eq
    exact if_pos (atEnd_iff.mpr hs)
  | succ len ih =>
    obtain ⟨hi, lo, rest, rfl, hhi, hlo, hrest⟩ := h.exists_cons
    obtain ⟨t, rfl, ht⟩ := endsHex_cons.mp hs
    obtain ⟨u, rfl, hu⟩ := endsHex_cons.mp ht
    rw [← isSome_parseSinglehex] at hhi hlo
    obtain ⟨hiVal, hhi⟩ := Option.isSome_iff_exists.mp hhi
    obtain ⟨loVal, hlo⟩ := Option.isSome_iff_exists.mp hlo
    unfold decodeHex pairBytes
    rw [hhi, hlo, ih hrest hu, ← byte_eq hhi hlo]
    rfl

lemma exists_hexPairs_of_decodeHex {bytes : List UInt8} (h : decodeHex len s = some bytes) :
    ∃ digits, HexPairs len digits ∧ EndsHex digits s := by
  induction len generalizing s bytes with
  | zero =>
    have hend := (Option.ite_none_right_eq_some.mp h).1
    exact ⟨[], ⟨rfl, by simp⟩, atEnd_iff.mp hend⟩
  | succ len ih =>
    obtain ⟨hi, lo, rest, hiVal, loVal, tail, rfl, hhi, hlo, htail, -⟩ := decodeHex_succ h
    obtain ⟨digits, hdigits, hends⟩ := ih htail
    have hsome {c : Char} {acc : UInt8} (hc : parseSinglehex c = some acc) :
        (hexValue c).isSome := by
      rw [← isSome_parseSinglehex, hc]
      rfl
    refine ⟨hi :: lo :: digits, hdigits.cons (hsome hhi) (hsome hlo), ?_⟩
    exact endsHex_cons.mpr ⟨_, rfl, endsHex_cons.mpr ⟨_, rfl, hends⟩⟩

/-! ### Hex encoding -/

section Encode

variable {digit : ℕ → Char}

lemma hexPairs_encodeHex (hdigit : ∀ n < 16, hexValue (digit n) = some n) (bytes : List UInt8) :
    HexPairs bytes.length (encodeHex digit bytes) := by
  induction bytes with
  | nil => exact ⟨rfl, by simp [encodeHex]⟩
  | cons b bytes ih =>
    have hhi := hdigit (b.toNat / 16) (by have := b.toNat_lt; omega)
    have hlo := hdigit (b.toNat % 16) (by omega)
    exact ih.cons (by rw [hhi]; rfl) (by rw [hlo]; rfl)

lemma pairBytes_encodeHex (hdigit : ∀ n < 16, hexValue (digit n) = some n)
    (bytes : List UInt8) : pairBytes (encodeHex digit bytes) = bytes := by
  induction bytes with
  | nil => rfl
  | cons b bytes ih =>
    have hhi := hdigit (b.toNat / 16) (by have := b.toNat_lt; omega)
    have hlo := hdigit (b.toNat % 16) (by omega)
    have hdivmod : b.toNat / 16 * 16 + b.toNat % 16 = b.toNat := Nat.div_add_mod' b.toNat 16
    show UInt8.ofNat _ :: pairBytes (encodeHex digit bytes) = b :: bytes
    rw [ih, hhi, hlo, Option.getD_some, Option.getD_some, hdivmod, UInt8.ofNat_toNat]

end Encode

/-- What the parser of lists says of a call. -/
lemma callParseHex_spec (hs : IsString mem 0 s) (len : ℕ) (buf : ℕ → UInt8) :
    (∀ a ∈ (callParseHex mem len buf).log, a.InBounds s.length len) ∧
      (callParseHex mem len buf).value = (decodeHex len s).isSome ∧
      ∀ bytes, decodeHex len s = some bytes →
        (callParseHex mem len buf).state = poke buf 0 bytes := by
  obtain ⟨hlog, hran⟩ := parseHexAt_spec hs (Nat.zero_add _) (Nat.zero_add len) buf
  obtain ⟨hok, hbytes⟩ := parseHex_eq s len buf 0
  obtain ⟨hvalue, hstate⟩ := Prod.ext_iff.mp hran
  refine ⟨hlog, hvalue.trans hok, ?_⟩
  intro bytes hdecode
  exact hstate.trans (hbytes bytes hdecode)

/-- `_parse_hex` accepts the digits of `len` bytes with an optional dash behind them and leaves
these bytes in the buffer, so that it undoes hex encoding. It stays within the string and the
buffer. -/
theorem parseHex_iff_hexPairs (mem : ℕ → Char) (s : List Char) (hs : IsString mem 0 s) (len : ℕ)
    (buf : ℕ → UInt8) :
    ((callParseHex mem len buf).value = true ↔
      ∃ digits, HexPairs len digits ∧ (s = digits ∨ s = digits ++ ['-'])) ∧
    (∀ digits, HexPairs len digits → s = digits ∨ s = digits ++ ['-'] →
      slice (callParseHex mem len buf).state 0 len = pairBytes digits) ∧
    (∀ digit : ℕ → Char, (∀ n < 16, hexValue (digit n) = some n) →
      ∀ bytes, bytes.length = len → s = encodeHex digit bytes →
        (callParseHex mem len buf).value = true ∧
        slice (callParseHex mem len buf).state 0 len = bytes) ∧
    ∀ a ∈ (callParseHex mem len buf).log, a.InBounds s.length len := by
  obtain ⟨hlog, hok, hbytes⟩ := callParseHex_spec hs len buf
  have hdecode {digits : List Char} (h : HexPairs len digits) (hends : EndsHex digits s) :
      (callParseHex mem len buf).value = true ∧
        slice (callParseHex mem len buf).state 0 len = pairBytes digits := by
    have hsome := decodeHex_of_hexPairs h hends
    constructor
    · rw [hok, hsome]
      rfl
    · have hstate := hbytes _ hsome
      rw [hstate]
      have hslice := slice_poke_self buf 0 (pairBytes digits)
      rwa [length_decodeHex hsome] at hslice
  refine ⟨?_, ?_, ?_, hlog⟩
  · constructor
    · intro hvalue
      rw [hok] at hvalue
      obtain ⟨bytes, hbytes⟩ := Option.isSome_iff_exists.mp hvalue
      exact exists_hexPairs_of_decodeHex hbytes
    · rintro ⟨digits, hdigits, hends⟩
      exact (hdecode hdigits hends).1
  · intro digits hdigits hends
    exact (hdecode hdigits hends).2
  · intro digit hdigit bytes hlength hencoded
    have hpairs := hexPairs_encodeHex hdigit bytes
    rw [hlength] at hpairs
    have hround := hdecode hpairs (.inl hencoded)
    rwa [pairBytes_encodeHex hdigit bytes] at hround

/-- A piece to be continued, with more digits behind the NUL. -/
def continued (hex : ℕ) : Char := ['0', 'a', 'F', '3', '-', '\x00', '7', '7'].getD hex '7'

theorem parseHex_iff_hexPairs_continued :
    (callParseHex continued 2 fun _ => 0).value = true ∧
      slice (callParseHex continued 2 fun _ => 0).state 0 2 = [0x0a, 0xf3] ∧
      ∀ a ∈ (callParseHex continued 2 fun _ => 0).log, a.InBounds 5 2 := by
  have hstring : IsString continued 0 ['0', 'a', 'F', '3', '-'] :=
    ⟨rfl, by decide, rfl, by decide, rfl, by decide, rfl, by decide, rfl, by decide, rfl⟩
  have hpairs : HexPairs 2 ['0', 'a', 'F', '3'] := ⟨rfl, by simp [hexValue]⟩
  obtain ⟨hiff, hbytes, -, hlog⟩ := parseHex_iff_hexPairs continued _ hstring 2 fun _ => 0
  exact ⟨hiff.mpr ⟨_, hpairs, .inr rfl⟩, hbytes _ hpairs (.inr rfl), hlog⟩

end Client

end RiotPlayground
