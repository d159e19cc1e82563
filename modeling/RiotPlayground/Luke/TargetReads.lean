import RiotPlayground.Luke.TargetWalk

/-!
# The tokens that are read

The loop over the tokens checks the index of a key, and reads the token behind it.
-/

namespace RiotPlayground

open Buffer

namespace Luke

/-- `"addr"` or `"path"`. -/
def Recognised (payload : ℕ → UInt8) (tok : JsmnTok) : Prop :=
  jsoneq payload tok addrKey ∨ jsoneq payload tok pathKey

instance (payload : ℕ → UInt8) (tok : JsmnTok) : Decidable (Recognised payload tok) :=
  inferInstanceAs (Decidable (_ ∨ _))

/-- What the loop reads of `toks`, while the payload stays as it is. -/
def pairReads (payload : ℕ → UInt8) (toks : ℕ → JsmnTok) (num : ℕ) : ℕ → ℕ → List ℕ
  | 0, _ => []
  | fuel + 1, i =>
    if i < num then
      if Recognised payload (toks i) then
        i :: (i + 1) ::
          if (toks (i + 1)).type ≠ .string then [] else pairReads payload toks num fuel (i + 2)
      else [i]
    else []

/-- What the loop of a luke node reads of `toks`. -/
def walkReads (toks : ℕ → JsmnTok) (num : ℕ) : ℕ → ℕ → Walk → List ℕ
  | 0, _, _ => []
  | fuel + 1, i, w =>
    if i < num then
      if Recognised w.payload (toks i) then
        i :: (i + 1) ::
          match walkStep (toks i) (toks (i + 1)) w with
          | none => []
          | some w => walkReads toks num fuel (i + 2) w
      else [i]
    else []

/-- What `_set_target_from_payload` reads of `toks`. -/
def targetReads (P : Packages) (pdu : TargetPdu) : List ℕ :=
  match P.jsmnParse (slice pdu.payload 0 pdu.payloadLen) with
  | none => []
  | some tokens =>
    let toks := pdu.toks tokens
    if tokens.length < 1 then []
    else if (toks 0).type ≠ .object then [0]
    else 0 :: walkReads toks tokens.length tokens.length 1 ⟨pdu.payload, none, 0, none, 0⟩

/-- The last token is a key, and none of the pairs before it is turned down. -/
def Overruns (payload : ℕ → UInt8) (toks : ℕ → JsmnTok) (num i : ℕ) : Prop :=
  i < num ∧ num % 2 = 0 ∧ Recognised payload (toks (num - 1)) ∧
    ∀ j, i ≤ j → j + 1 < num → j % 2 = 1 → TargetMember payload (toks j) (toks (j + 1))

/-- Every key has a value, where `superior j` is the token that `jsmn` counts token `j` under. -/
def Valued (superior : ℕ → ℕ) (num : ℕ) : Prop :=
  ∀ i, 0 < i → i < num → superior i = 0 → ∃ j < num, superior j = i

/-- Only tokens that were parsed are read, and a key without a value is a bad request. -/
structure OnlyParsed (tokens : List JsmnTok) (superior : ℕ → ℕ) (reads : List ℕ) (code : Code) :
    Prop where
  reads : ∀ i ∈ reads, i < tokens.length
  code : ¬ Valued superior tokens.length → code = .badRequest

/-- The pairs the loop takes the tokens for do not go over their end, and where the request is
`acceptable` they leave no key without a value. -/
structure Paired (payload : ℕ → UInt8) (toks : ℕ → JsmnTok) (num : ℕ) (superior : ℕ → ℕ)
    (acceptable : Prop) : Prop where
  within : ¬ ((toks 0).type = .object ∧ Overruns payload toks num 1)
  valued : acceptable → Valued superior num

section Reads

variable {payload : ℕ → UInt8} {toks : ℕ → JsmnTok} {num : ℕ}

lemma not_overruns_of_head {i : ℕ} (hi : i % 2 = 1) (hlt : i + 1 < num)
    (hm : ¬ TargetMember payload (toks i) (toks (i + 1))) : ¬ Overruns payload toks num i :=
  fun h => hm (h.2.2.2 i (Nat.le_refl i) hlt hi)

lemma overruns_succ_succ {i : ℕ} (hi : i % 2 = 1) (hlt : i + 1 < num)
    (hm : TargetMember payload (toks i) (toks (i + 1))) :
    Overruns payload toks num (i + 2) ↔ Overruns payload toks num i := by
  constructor
  · rintro ⟨hnum, heven, hlast, hmembers⟩
    refine ⟨by omega, heven, hlast, fun j hj hj' hodd => ?_⟩
    by_cases hji : j = i
    · exact hji ▸ hm
    · exact hmembers j (by omega) hj' hodd
  · rintro ⟨hnum, heven, hlast, hmembers⟩
    exact ⟨by omega, heven, hlast, fun j hj hj' hodd => hmembers j (by omega) hj' hodd⟩

/-- The loop stays within the tokens if and only if it does not get to a key that is the last of
them. -/
lemma pairReads_lt_iff {fuel i : ℕ} (hfuel : num ≤ i + fuel) (hi : i % 2 = 1) :
    (∀ j ∈ pairReads payload toks num fuel i, j < num) ↔ ¬ Overruns payload toks num i := by
  induction fuel generalizing i with
  | zero => exact iff_of_true nofun fun h => absurd h.1 (by omega)
  | succ fuel ih =>
    unfold pairReads
    split
    · rename_i hlt
      split
      · rename_i hkey
        by_cases hvalue : i + 1 < num
        · split
          · rename_i htype
            have hno : ¬ TargetMember payload (toks i) (toks (i + 1)) := fun hm => htype hm.2
            refine iff_of_true (fun j hj => ?_) (not_overruns_of_head hi hvalue hno)
            simp only [List.mem_cons, List.not_mem_nil, or_false] at hj
            omega
          · rename_i htype
            rw [← overruns_succ_succ hi hvalue ⟨hkey, not_not.mp htype⟩, ← ih (by omega) (by omega)]
            simp only [List.forall_mem_cons, hlt, hvalue, true_and]
        · refine iff_of_false (fun hall => hvalue (hall (i + 1) (by simp))) (not_not.mpr ?_)
          obtain rfl : num = i + 1 := by omega
          exact ⟨hlt, by omega, hkey, fun j hj hj' _ => absurd hj' (by omega)⟩
      · rename_i hkey
        refine iff_of_true (fun j hj => ?_) fun h => ?_
        · rw [List.mem_singleton.mp hj]
          exact hlt
        · by_cases hvalue : i + 1 < num
          · exact not_overruns_of_head hi hvalue (fun hm => hkey hm.1) h
          · obtain rfl : num = i + 1 := by omega
            exact hkey h.2.2.1
    · rename_i hlt
      exact iff_of_true nofun fun h => hlt h.1

/-- The NULs that are written on the way do not change what is read. -/
lemma walkReads_eq (hA : Apart toks num) {fuel i : ℕ} {w : Walk} (hi : i % 2 = 1)
    (hf : Found payload toks i w)
    (hvalues : ∀ j < i, j % 2 = 1 → (toks (j + 1)).type = .string) :
    walkReads toks num fuel i w = pairReads payload toks num fuel i := by
  induction fuel generalizing i w with
  | zero => rfl
  | succ fuel ih =>
    unfold walkReads pairReads
    by_cases hlt : i < num
    · have hkey := hf.jsoneq_eq hA hi hlt hvalues
      have hrec : Recognised w.payload (toks i) ↔ Recognised payload (toks i) := by
        unfold Recognised
        rw [hkey, hkey]
      rw [if_pos hlt, if_pos hlt, if_congr hrec rfl rfl]
      by_cases hr : Recognised payload (toks i)
      · rw [if_pos hr, if_pos hr]
        by_cases hs : (toks (i + 1)).type = .string
        · obtain ⟨w', hstep, hf'⟩ := hf.step hi hkey ⟨hr, hs⟩
          rw [hstep, if_neg (not_not.mpr hs)]
          dsimp only
          rw [ih (by omega) hf' fun j hj hodd => ?_]
          by_cases hji : j = i
          · exact hji ▸ hs
          · exact hvalues j (by omega) hodd
        · rw [walkStep_none fun hm => hs hm.2, if_pos hs]
      · rw [if_neg hr, if_neg hr]
    · rw [if_neg hlt, if_neg hlt]

/-- The walk does not depend on tokens that are not read. -/
lemma walk_congr {toks' : ℕ → JsmnTok} {fuel i : ℕ} {w : Walk}
    (h : ∀ j ∈ walkReads toks num fuel i w, toks' j = toks j) :
    walk toks' num fuel i w = walk toks num fuel i w := by
  induction fuel generalizing i w with
  | zero => rfl
  | succ fuel ih =>
    unfold walkReads at h
    unfold walk
    by_cases hlt : i < num
    · rw [if_pos hlt] at h
      rw [if_pos hlt, if_pos hlt]
      by_cases hr : Recognised w.payload (toks i)
      · rw [if_pos hr] at h
        have hkey := h i (by simp)
        have hvalue := h (i + 1) (by simp)
        rw [hkey, hvalue]
        cases hstep : walkStep (toks i) (toks (i + 1)) w with
        | none => rfl
        | some w' =>
          rw [hstep] at h
          exact ih fun j hj => h j (by simp [hj])
      · rw [if_neg hr] at h
        rw [h i (by simp), walkStep_none fun hm => hr hm.1, walkStep_none fun hm => hr hm.1]
    · rw [if_neg hlt, if_neg hlt]

/-- What is read before the loop is the first token, if there is one. -/
lemma headReads_lt_iff :
    (∀ j ∈ (if num < 1 then []
      else if (toks 0).type ≠ .object then [0]
      else 0 :: pairReads payload toks num num 1), j < num) ↔
        ¬ ((toks 0).type = .object ∧ Overruns payload toks num 1) := by
  split
  · exact iff_of_true nofun fun h => absurd h.2.1 (by omega)
  · rename_i hnum
    split
    · rename_i htype
      refine iff_of_true (fun j hj => ?_) fun h => htype h.1
      rw [List.mem_singleton.mp hj]
      omega
    · rename_i htype
      have hpos : 0 < num := by omega
      rw [List.forall_mem_cons, pairReads_lt_iff (Nat.le_add_left _ _) (by decide),
        and_iff_right hpos, and_iff_right (not_not.mp htype)]

end Reads

variable {P : Packages}

lemma targetReads_eq (hP : P.Strings) {pdu : TargetPdu} {tokens : List JsmnTok}
    (hparsed : P.jsmnParse (slice pdu.payload 0 pdu.payloadLen) = some tokens) :
    targetReads P pdu = if tokens.length < 1 then []
      else if (pdu.toks tokens 0).type ≠ .object then [0]
      else 0 :: pairReads pdu.payload (pdu.toks tokens) tokens.length tokens.length 1 := by
  have hloop : walkReads (pdu.toks tokens) tokens.length tokens.length 1
      ⟨pdu.payload, none, 0, none, 0⟩ =
        pairReads pdu.payload (pdu.toks tokens) tokens.length tokens.length 1 :=
    walkReads_eq (apart_toks hP pdu hparsed) (by decide) Found.init fun j hj hodd =>
      absurd hodd (by omega)
  unfold targetReads
  rw [hparsed]
  dsimp only
  rw [hloop]

lemma code_badRequest_iff (pdu : TargetPdu) (s : Common) :
    (setTargetFromPayload P pdu s).1 = .badRequest ↔
      ¬ (setTargetFromPayload P pdu s).1 = .valid := by
  unfold setTargetFromPayload
  split
  · exact iff_of_true rfl nofun
  · unfold storeTarget
    split
    · dsimp only
      split
      · exact iff_of_true rfl nofun
      · exact iff_of_false nofun (not_not.mpr rfl)
    · exact iff_of_true rfl nofun

lemma onlyParsed_iff_of_valid {tokens : List JsmnTok} {superior : ℕ → ℕ} {reads : List ℕ}
    {code : Code} {payload : ℕ → UInt8} {toks : ℕ → JsmnTok} {acceptable : Prop}
    (hreads : (∀ i ∈ reads, i < tokens.length) ↔
      ¬ ((toks 0).type = .object ∧ Overruns payload toks tokens.length 1))
    (hbad : code = .badRequest ↔ ¬ acceptable) :
    OnlyParsed tokens superior reads code ↔
      Paired payload toks tokens.length superior acceptable := by
  constructor
  · rintro ⟨hread, hcode⟩
    refine ⟨hreads.mp hread, fun hacceptable => ?_⟩
    by_contra hvalued
    exact hbad.mp (hcode hvalued) hacceptable
  · rintro ⟨hwithin, hvalued⟩
    exact ⟨hreads.mpr hwithin, fun hno => hbad.mpr fun hacceptable => hno (hvalued hacceptable)⟩

lemma onlyParsed_iff_paired (hP : P.Strings) {pdu : TargetPdu} {tokens : List JsmnTok}
    (hparsed : P.jsmnParse (slice pdu.payload 0 pdu.payloadLen) = some tokens) (s : Common)
    (superior : ℕ → ℕ) :
    OnlyParsed tokens superior (targetReads P pdu) (setTargetFromPayload P pdu s).1 ↔
      Paired pdu.payload (pdu.toks tokens) tokens.length superior
        (Acceptable P pdu.payload (pdu.toks tokens) tokens.length s.targetRemote) := by
  refine onlyParsed_iff_of_valid ?_ ?_
  · rw [targetReads_eq hP hparsed]
    exact headReads_lt_iff
  · rw [code_badRequest_iff, valid_iff_acceptable hP hparsed]

/-- What `toks` held before is behind the tokens that were parsed. -/
lemma toks_stack (pdu : TargetPdu) (stack : ℕ → JsmnTok) {tokens : List JsmnTok} {i : ℕ}
    (hi : i < tokens.length) :
    TargetPdu.toks { pdu with stack := stack } tokens i = pdu.toks tokens i := by
  unfold TargetPdu.toks
  rw [List.getElem?_eq_getElem hi, Option.getD_some, Option.getD_some]

/-- Where only parsed tokens are read, what `toks` held before does not matter. -/
theorem setTarget_of_reads {pdu : TargetPdu} {tokens : List JsmnTok} {s : Common}
    (hparsed : P.jsmnParse (slice pdu.payload 0 pdu.payloadLen) = some tokens)
    (hreads : ∀ i ∈ targetReads P pdu, i < tokens.length) (stack : ℕ → JsmnTok) :
    setTargetFromPayload P { pdu with stack := stack } s = setTargetFromPayload P pdu s := by
  have hfind : findTarget P { pdu with stack := stack } = findTarget P pdu := by
    rw [findTarget_eq hparsed, @findTarget_eq P { pdu with stack := stack } tokens hparsed]
    unfold targetReads at hreads
    rw [hparsed] at hreads
    dsimp only at hreads
    by_cases hnum : tokens.length < 1
    · rw [if_pos (.inl hnum), if_pos (.inl hnum)]
    · rw [if_neg hnum] at hreads
      have hhead := toks_stack pdu stack (i := 0) (by omega : 0 < tokens.length)
      by_cases htype : (pdu.toks tokens 0).type ≠ .object
      · rw [if_pos (.inr (hhead ▸ htype)), if_pos (.inr htype)]
      · rw [if_neg htype] at hreads
        rw [if_neg (not_or.mpr ⟨hnum, hhead ▸ htype⟩), if_neg (not_or.mpr ⟨hnum, htype⟩)]
        exact walk_congr fun j hj => toks_stack pdu stack (hreads j (List.mem_cons_of_mem 0 hj))
  unfold setTargetFromPayload
  rw [hfind]

end Luke

end RiotPlayground
