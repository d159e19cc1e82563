import RiotPlayground.Luke.PointsMessage

/-!
# Which points messages the display accepts

`sscanf` skips white space and a sign in front of the number, and does not tell whether the text
behind its last conversion stands in the payload.
-/

namespace RiotPlayground

open Directive

namespace Luke

/-- `{"points":` -/
def pointsPrefix : List Char := ['{', '"', 'p', 'o', 'i', 'n', 't', 's', '"', ':']

/-- A JSON payload that is posted, with a NUL behind it. -/
def postedPoints (payload rest : List Char) : Pdu :=
  ⟨.post, COAP_FORMAT_JSON, payload, '\x00' :: rest⟩

/-- The payload is what `LUKE_POINTS_FMT` prints for a number of up to three digits. -/
def PrintsPoints (payload : List Char) (n : UInt32) : Prop := n < 1000 ∧ payload = pointsText n

/-- The payload has the form of `LUKE_POINTS_FMT` with one to three digits, which may begin with
zeros. -/
def SpellsPoints (payload : List Char) (n : UInt32) : Prop :=
  ∃ digits, digits ≠ [] ∧ digits.length ≤ 3 ∧ (∀ c ∈ digits, c.isDigit = true) ∧
    payload = pointsPrefix ++ (digits ++ ['}']) ∧ n = .ofNat (Nat.ofDigitChars 10 digits 0)

/-- The request is answered with an error and changes nothing. -/
def DisplayRejects (pdu : Pdu) : Prop :=
  ∀ (ledCnt : UInt16) (obs : Bool) (s : Display.Vars),
    Display.lukePoints ledCnt pdu obs s = (some ⟨.badRequest, []⟩, s)

/-- The numbers of messages are added, everything else is turned down. -/
def AcceptsOnly (message : List Char → UInt32 → Prop) (pdu : Pdu) : Prop :=
  (∀ n, message pdu.payload n → DisplayAccepts pdu n) ∧
    ((∀ n, ¬ message pdu.payload n) → DisplayRejects pdu)

/-- A number of 12 to 14 characters in all begins behind `{"points":`, but it is no message. -/
def Lax (message : List Char → UInt32 → Prop) (payload : List Char) : Prop :=
  LUKE_POINTS_MIN_SIZE ≤ payload.length ∧ payload.length ≤ LUKE_POINTS_MAX_SIZE ∧
    (∃ cs, payload = pointsPrefix ++ cs ∧ StartsNumber cs) ∧ ∀ n, ¬ message payload n

variable {payload rest : List Char} {n : UInt32}

lemma sscanf_number (input : List Char) : sscanf [.unsigned, .lit '}'] input =
    ((scanUnsigned input).map Prod.fst).toList := by
  unfold sscanf
  cases scanUnsigned input with
  | none => rfl
  | some scanned =>
    have hlit : sscanf [.lit '}'] scanned.2 = [] := by
      unfold sscanf
      split
      · rfl
      · split <;> rfl
    exact congrArg (scanned.1 :: ·) hlit

lemma pointsPrefix_spaceless : ∀ c ∈ pointsPrefix, isSpace c = false := by
  simp only [pointsPrefix, List.forall_mem_cons]
  exact ⟨rfl, rfl, rfl, rfl, rfl, rfl, rfl, rfl, rfl, rfl, List.forall_mem_nil _⟩

/-- The format reads its prefix and then a number. -/
lemma sscanf_points_iff {text : List Char} : sscanf LUKE_POINTS_FMT text = [n] ↔
    ∃ cs, text = pointsPrefix ++ cs ∧ (scanUnsigned cs).map Prod.fst = some n := by
  have hformat : LUKE_POINTS_FMT = pointsPrefix.map .lit ++ [.unsigned, .lit '}'] := rfl
  rw [hformat, sscanf_lits_iff pointsPrefix_spaceless (List.cons_ne_nil n [])]
  apply exists_congr
  intro cs
  apply and_congr_right
  intro _
  rw [sscanf_number]
  cases (scanUnsigned cs).map Prod.fst <;> simp

/-- A payload is scanned if its size is in the bounds. -/
lemma scanPoints_eq_sscanf_iff : (postedPoints payload rest).scanPoints = some n ↔
    (LUKE_POINTS_MIN_SIZE ≤ payload.length ∧ payload.length ≤ LUKE_POINTS_MAX_SIZE) ∧
      sscanf LUKE_POINTS_FMT (payload ++ '\x00' :: rest) = [n] := by
  unfold Pdu.scanPoints Pdu.scan postedPoints
  dsimp only
  split
  · rename_i hsize
    apply iff_of_false (by simp)
    intro h
    rcases hsize with hsize | hsize | hsize
    · exact absurd h.1.1 (Nat.not_le.mpr hsize)
    · exact absurd h.1.2 (Nat.not_le.mpr hsize)
    · exact hsize rfl
  · rename_i hsize
    have hmin : LUKE_POINTS_MIN_SIZE ≤ payload.length :=
      Nat.not_lt.mp fun h => hsize (.inl h)
    have hmax : payload.length ≤ LUKE_POINTS_MAX_SIZE :=
      Nat.not_lt.mp fun h => hsize (.inr (.inl h))
    rw [and_iff_right ⟨hmin, hmax⟩]
    split
    · rename_i hone
      rw [hone]
      simp
    · rename_i hmany
      exact iff_of_false (by simp) (hmany n)

lemma scanPoints_eq_some_iff : (postedPoints payload rest).scanPoints = some n ↔
    LUKE_POINTS_MIN_SIZE ≤ payload.length ∧ payload.length ≤ LUKE_POINTS_MAX_SIZE ∧
      ∃ cs, payload = pointsPrefix ++ cs ∧
        (scanUnsigned (cs ++ '\x00' :: rest)).map Prod.fst = some n := by
  rw [scanPoints_eq_sscanf_iff, sscanf_points_iff, and_assoc]
  apply and_congr_right
  intro hmin
  apply and_congr_right
  intro _
  constructor
  · rintro ⟨cs, hcs, hn⟩
    rcases List.append_eq_append_iff.mp hcs with ⟨more, hmore, htail⟩ | ⟨more, hmore, htail⟩
    · have hshort : pointsPrefix.length = payload.length + more.length := by
        rw [hmore, List.length_append]
      have hten : pointsPrefix.length = 10 := rfl
      change 12 ≤ payload.length at hmin
      omega
    · exact ⟨more, hmore, by rwa [← htail]⟩
  · rintro ⟨cs, rfl, hn⟩
    exact ⟨cs ++ '\x00' :: rest, List.append_assoc _ _ _, hn⟩

lemma isSome_scanPoints_iff : (postedPoints payload rest).scanPoints.isSome = true ↔
    LUKE_POINTS_MIN_SIZE ≤ payload.length ∧ payload.length ≤ LUKE_POINTS_MAX_SIZE ∧
      ∃ cs, payload = pointsPrefix ++ cs ∧ StartsNumber cs := by
  have hnumber (cs : List Char) : (scanUnsigned (cs ++ '\x00' :: rest)).isSome = true ↔
      StartsNumber cs := by
    rw [isSome_scanUnsigned_iff]
    exact startsNumber_append_iff (by decide) (by decide) (by decide)
  rw [Option.isSome_iff_exists]
  constructor
  · rintro ⟨n, hn⟩
    obtain ⟨hmin, hmax, cs, rfl, hscan⟩ := scanPoints_eq_some_iff.mp hn
    refine ⟨hmin, hmax, cs, rfl, (hnumber cs).mp ?_⟩
    rw [← Option.isSome_map, hscan]
    rfl
  · rintro ⟨hmin, hmax, cs, rfl, hstarts⟩
    obtain ⟨scanned, hscanned⟩ := Option.isSome_iff_exists.mp ((hnumber cs).mpr hstarts)
    exact ⟨scanned.1, scanPoints_eq_some_iff.mpr ⟨hmin, hmax, cs, rfl, by rw [hscanned]; rfl⟩⟩

/-- Messages that are scanned as what they say are all that is accepted exactly if no other payload
is scanned. -/
lemma acceptsOnly_iff {message : List Char → UInt32 → Prop}
    (hmessage : ∀ n, message payload n → (postedPoints payload rest).scanPoints = some n) :
    AcceptsOnly message (postedPoints payload rest) ↔ ¬ Lax message payload := by
  have hscanned : (postedPoints payload rest).scanPoints.isSome = true ↔ _ :=
    isSome_scanPoints_iff
  constructor
  · rintro h ⟨hmin, hmax, hstarts, hnone⟩
    obtain ⟨n, hn⟩ := Option.isSome_iff_exists.mp (hscanned.mpr ⟨hmin, hmax, hstarts⟩)
    have haccept := (accepts_of_scan rfl hn).1 64 true .init
    have hreject := h.2 hnone 64 true .init
    have hcode := congrArg (fun after => after.1.map Response.code) (hreject.symm.trans haccept)
    exact absurd hcode (by simp)
  · intro h
    refine ⟨fun n hn => (accepts_of_scan rfl (hmessage n hn)).1, fun hnone => ?_⟩
    refine (rejects_of_scan rfl ?_).1
    rw [← Option.not_isSome_iff_eq_none, hscanned]
    rintro ⟨hmin, hmax, hstarts⟩
    exact h ⟨hmin, hmax, hstarts, hnone⟩

lemma scanPoints_of_spells (h : SpellsPoints payload n) :
    (postedPoints payload rest).scanPoints = some n := by
  obtain ⟨digits, hne, hlength, hdigits, rfl, rfl⟩ := h
  have hpos : 0 < digits.length := List.length_pos_iff.mpr hne
  have hfits : ¬ 4294967295 < Nat.ofDigitChars 10 digits 0 := by
    have hlt := ofDigitChars_lt hdigits
    have hpow : 10 ^ digits.length ≤ 10 ^ 3 := Nat.pow_le_pow_right (by decide) hlength
    omega
  have hsize : (pointsPrefix ++ (digits ++ ['}'])).length = digits.length + 11 := by
    rw [List.length_append, List.length_append]
    exact Nat.add_comm 10 (digits.length + 1)
  refine scanPoints_eq_some_iff.mpr ⟨?_, ?_, _, rfl, ?_⟩
  · rw [hsize]
    change 12 ≤ _
    omega
  · rw [hsize]
    change _ ≤ 14
    omega
  · rw [List.append_assoc, scanUnsigned_digits hne hdigits rfl, if_neg hfits]
    rfl

lemma spells_of_prints (h : PrintsPoints payload n) : SpellsPoints payload n := by
  obtain ⟨hn, rfl⟩ := h
  have hlt : n.toNat < 10 ^ 3 := UInt32.lt_iff_toNat_lt.mp hn
  refine ⟨Nat.toDigits 10 n.toNat, Nat.toDigits_ne_nil, ?_, ?_, List.append_assoc _ _ _, ?_⟩
  · exact (Nat.length_toDigits_le_iff (by decide) (by decide)).mpr hlt
  · exact fun c hc => Nat.isDigit_of_mem_toDigits (by decide) (by decide) hc
  · rw [Nat.ofDigitChars_ten_toDigits, UInt32.ofNat_toNat]

/-- Under both readings of the format the display accepts its messages only, exactly if the payload
is not a lax one. -/
theorem acceptsOnly_points (payload rest : List Char) :
    (AcceptsOnly PrintsPoints (postedPoints payload rest) ↔ ¬ Lax PrintsPoints payload) ∧
      (AcceptsOnly SpellsPoints (postedPoints payload rest) ↔ ¬ Lax SpellsPoints payload) :=
  ⟨acceptsOnly_iff fun _ hn => scanPoints_of_spells (spells_of_prints hn),
    acceptsOnly_iff fun _ hn => scanPoints_of_spells hn⟩

/-- `{"points":+5}` -/
def plusFive : List Char := pointsPrefix ++ ['+', '5', '}']

lemma plusFive_not_spells (n : UInt32) : ¬ SpellsPoints plusFive n := by
  rintro ⟨digits, -, -, hdigits, hpayload, -⟩
  have hcs := List.append_cancel_left hpayload
  have hplus : '+' ∈ digits ++ ['}'] := hcs ▸ List.mem_cons_self
  rcases List.mem_append.mp hplus with hmem | hmem
  · exact absurd (hdigits '+' hmem) (by decide)
  · exact absurd hmem (by decide)

theorem plusFive_accepted : ¬ AcceptsOnly PrintsPoints (postedPoints plusFive []) ∧
    ¬ AcceptsOnly SpellsPoints (postedPoints plusFive []) := by
  have hnone : ¬ DisplayRejects (postedPoints plusFive []) := by
    intro h
    have hcode := congrArg (fun after => after.1.map Response.code) (h 64 true .init)
    exact absurd hcode (by decide +kernel)
  refine ⟨fun h => hnone (h.2 fun n hn => ?_), fun h => hnone (h.2 plusFive_not_spells)⟩
  exact plusFive_not_spells n (spells_of_prints hn)

end Luke

end RiotPlayground
