import RiotPlayground.Button.Button
import RiotPlayground.Luke.TargetPath
import RiotPlayground.Luke.TargetReads

/-!
# The tokens that the button reads

Its loop pairs the tokens as that of the luke nodes does.
-/

namespace RiotPlayground

open Buffer FlatJson Luke

namespace Button

/-- What `_set_target_from_payload` reads of `toks`. -/
def targetReads (P : Packages) (pdu : TargetPdu) : List ℕ :=
  match P.jsmnParse (slice pdu.payload 0 pdu.payloadLen) with
  | none => []
  | some tokens =>
    let toks := pdu.toks tokens
    if tokens.length < 1 then []
    else if (toks 0).type ≠ .object then [0]
    else 0 :: pairReads pdu.payload toks tokens.length tokens.length 1

/-- The tokens are those of an object of addresses and paths. -/
structure Pairs (payload : ℕ → UInt8) (toks : ℕ → JsmnTok) (num : ℕ) : Prop where
  object : 0 < num ∧ (toks 0).type = .object
  members : ∀ i < num, i % 2 = 1 → TargetMember payload (toks i) (toks (i + 1))

variable {P : Packages}

lemma walkStep_iff (payload : ℕ → UInt8) (key value : JsmnTok) (s : Vars) :
    (walkStep P payload key value s).1 = true ↔ TargetMember payload key value := by
  unfold walkStep
  split
  · rename_i haddr
    split
    · rename_i htype
      exact iff_of_false nofun fun hm => htype hm.2
    · rename_i htype
      exact iff_of_true rfl ⟨.inl haddr, not_not.mp htype⟩
  · rename_i haddr
    split
    · rename_i hpath
      split
      · rename_i htype
        exact iff_of_false nofun fun hm => htype hm.2
      · rename_i htype
        have hm : TargetMember payload key value := ⟨.inr hpath, not_not.mp htype⟩
        split
        · exact iff_of_true rfl hm
        · exact iff_of_true rfl hm
    · rename_i hpath
      exact iff_of_false nofun fun hm => hm.1.elim haddr hpath

lemma walk_valid_iff (P : Packages) (payload : ℕ → UInt8) (toks : ℕ → JsmnTok) {num fuel i : ℕ}
    (hfuel : num ≤ i + fuel) (hi : i % 2 = 1) (s : Vars) :
    (walk P payload toks num fuel i s).1 = .valid ↔
      ∀ j, i ≤ j → j < num → j % 2 = 1 → TargetMember payload (toks j) (toks (j + 1)) := by
  induction fuel generalizing i s with
  | zero => exact iff_of_true rfl fun j hj hj' => absurd hj' (by omega)
  | succ fuel ih =>
    unfold walk
    by_cases hlt : i < num
    · rw [if_pos hlt]
      dsimp only
      by_cases hm : TargetMember payload (toks i) (toks (i + 1))
      · rw [if_pos ((walkStep_iff ..).mpr hm), ih (by omega) (by omega)]
        refine ⟨fun hall j hj hj' hodd => ?_, fun hall j hj => hall j (by omega)⟩
        by_cases hji : j = i
        · exact hji ▸ hm
        · exact hall j (by omega) hj' hodd
      · rw [if_neg fun hstep => hm ((walkStep_iff ..).mp hstep)]
        exact iff_of_false nofun fun hall => hm (hall i (Nat.le_refl i) hlt hi)
    · rw [if_neg hlt]
      exact iff_of_true rfl fun j hj hj' => absurd hj' (by omega)

lemma walk_code (P : Packages) (payload : ℕ → UInt8) (toks : ℕ → JsmnTok) (num fuel i : ℕ)
    (s : Vars) :
    (walk P payload toks num fuel i s).1 = .valid ∨
      (walk P payload toks num fuel i s).1 = .badRequest := by
  induction fuel generalizing i s with
  | zero => exact .inl rfl
  | succ fuel ih =>
    unfold walk
    split
    · dsimp only
      split
      · exact ih (i + 2) _
      · exact .inr rfl
    · exact .inl rfl

/-- The walk does not depend on tokens that are not read. -/
lemma walk_congr {payload : ℕ → UInt8} {toks toks' : ℕ → JsmnTok} {num fuel i : ℕ} {s : Vars}
    (h : ∀ j ∈ pairReads payload toks num fuel i, toks' j = toks j) :
    walk P payload toks' num fuel i s = walk P payload toks num fuel i s := by
  induction fuel generalizing i s with
  | zero => rfl
  | succ fuel ih =>
    unfold pairReads at h
    unfold walk
    by_cases hlt : i < num
    · rw [if_pos hlt] at h
      rw [if_pos hlt, if_pos hlt]
      dsimp only
      by_cases hr : Recognised payload (toks i)
      · rw [if_pos hr] at h
        rw [h i (by simp), h (i + 1) (by simp)]
        by_cases hm : TargetMember payload (toks i) (toks (i + 1))
        · rw [if_neg (not_not.mpr hm.2)] at h
          rw [if_pos ((walkStep_iff ..).mpr hm), if_pos ((walkStep_iff ..).mpr hm)]
          exact ih fun j hj => h j (by simp [hj])
        · rw [if_neg fun hstep => hm ((walkStep_iff ..).mp hstep),
            if_neg fun hstep => hm ((walkStep_iff ..).mp hstep)]
      · rw [if_neg hr] at h
        have hstep : ∀ value, walkStep P payload (toks i) value s = (false, s) := fun value =>
          (if_neg fun haddr => hr (.inl haddr)).trans (if_neg fun hpath => hr (.inr hpath))
        rw [h i (by simp), hstep, hstep]
        exact (if_neg Bool.false_ne_true).trans (if_neg Bool.false_ne_true).symm
    · rw [if_neg hlt, if_neg hlt]

/-- Where only parsed tokens are read, what `toks` held before does not matter. -/
theorem setTarget_of_reads {pdu : TargetPdu} {tokens : List JsmnTok} {s : Vars}
    (hparsed : P.jsmnParse (slice pdu.payload 0 pdu.payloadLen) = some tokens)
    (hreads : ∀ i ∈ targetReads P pdu, i < tokens.length) (stack : ℕ → JsmnTok) :
    setTargetFromPayload P { pdu with stack := stack } s = setTargetFromPayload P pdu s := by
  unfold targetReads at hreads
  unfold setTargetFromPayload
  dsimp only
  rw [hparsed] at hreads ⊢
  dsimp only at hreads ⊢
  by_cases hnum : tokens.length < 1
  · rw [if_pos (.inl hnum), if_pos (.inl hnum)]
  · rw [if_neg hnum] at hreads
    have hhead := toks_stack pdu stack (i := 0) (by omega : 0 < tokens.length)
    by_cases htype : (pdu.toks tokens 0).type ≠ .object
    · rw [if_pos (.inr (hhead ▸ htype)), if_pos (.inr htype)]
    · rw [if_neg htype] at hreads
      rw [if_neg (not_or.mpr ⟨hnum, hhead ▸ htype⟩), if_neg (not_or.mpr ⟨hnum, htype⟩)]
      exact walk_congr fun j hj => toks_stack pdu stack (hreads j (List.mem_cons_of_mem 0 hj))

lemma badRequest_iff {pdu : TargetPdu} {tokens : List JsmnTok}
    (hparsed : P.jsmnParse (slice pdu.payload 0 pdu.payloadLen) = some tokens) (s : Vars) :
    (setTargetFromPayload P pdu s).1 = .badRequest ↔
      ¬ Pairs pdu.payload (pdu.toks tokens) tokens.length := by
  unfold setTargetFromPayload
  rw [hparsed]
  dsimp only
  split
  · rename_i hobject
    apply iff_of_true rfl
    intro h
    rcases hobject with hnum | htype
    · exact absurd h.object.1 (by omega)
    · exact htype h.object.2
  · rename_i hobject
    obtain ⟨hnum, htype⟩ := not_or.mp hobject
    have hvalid := walk_valid_iff P pdu.payload (pdu.toks tokens)
      (Nat.le_add_left tokens.length 1) rfl s
    rcases walk_code P pdu.payload (pdu.toks tokens) tokens.length tokens.length 1 s with
      hcode | hcode
    · rw [hcode]
      refine iff_of_false nofun (not_not.mpr ⟨⟨by omega, not_not.mp htype⟩, fun i hi hodd => ?_⟩)
      exact hvalid.mp hcode i (by omega) hi hodd
    · rw [hcode] at hvalid ⊢
      apply iff_of_true rfl
      intro h
      exact nomatch hvalid.mpr fun j _ => h.members j

lemma onlyParsed_iff_paired {pdu : TargetPdu} {tokens : List JsmnTok}
    (hparsed : P.jsmnParse (slice pdu.payload 0 pdu.payloadLen) = some tokens) (s : Vars)
    (superior : ℕ → ℕ) :
    OnlyParsed tokens superior (targetReads P pdu) (setTargetFromPayload P pdu s).1 ↔
      Paired pdu.payload (pdu.toks tokens) tokens.length superior
        (Pairs pdu.payload (pdu.toks tokens) tokens.length) := by
  refine onlyParsed_iff_of_valid ?_ (badRequest_iff hparsed s)
  unfold targetReads
  rw [hparsed]
  exact headReads_lt_iff

/-- The luke nodes and the button read only tokens that were parsed, and turn down keys without a
value, if and only if the pairs stay within the tokens and leave no such key. -/
theorem targetReads_onlyParsed_iff {L : Luke.Packages} {P : Packages} {pdu : TargetPdu}
    {tokens : List JsmnTok} (hL : L.Strings)
    (hluke : L.jsmnParse (slice pdu.payload 0 pdu.payloadLen) = some tokens)
    (hbutton : P.jsmnParse (slice pdu.payload 0 pdu.payloadLen) = some tokens) (s : Common)
    (t : Vars) (superior : ℕ → ℕ) :
    (OnlyParsed tokens superior (Luke.targetReads L pdu) (Luke.setTargetFromPayload L pdu s).1 ↔
      Paired pdu.payload (pdu.toks tokens) tokens.length superior
        (Acceptable L pdu.payload (pdu.toks tokens) tokens.length s.targetRemote)) ∧
    (OnlyParsed tokens superior (targetReads P pdu) (setTargetFromPayload P pdu t).1 ↔
      Paired pdu.payload (pdu.toks tokens) tokens.length superior
        (Pairs pdu.payload (pdu.toks tokens) tokens.length)) :=
  ⟨Luke.onlyParsed_iff_paired hL hluke s superior, onlyParsed_iff_paired hbutton t superior⟩

/-- `{"addr"}` -/
def loneKey : List UInt8 := ascii ['{', '"', 'a', 'd', 'd', 'r', '"', '}']

def loneKeyToks : List JsmnTok := [⟨.object, 0, 8⟩, ⟨.string, 2, 6⟩]

def parseLoneKey (text : List UInt8) : Option (List JsmnTok) :=
  if text = loneKey then some loneKeyToks else none

/-- Behind a key that is the last token both programs read on. -/
theorem loneKey_not_onlyParsed :
    ¬ OnlyParsed loneKeyToks (fun _ => 0)
      (Luke.targetReads ⟨parseLoneKey, fun ep _ => (false, ep), fun ep => ([], ep.port)⟩
        (postDocument loneKey))
      (Luke.setTargetFromPayload ⟨parseLoneKey, fun ep _ => (false, ep), fun ep => ([], ep.port)⟩
        (postDocument loneKey) Common.init).1 ∧
    ¬ OnlyParsed loneKeyToks (fun _ => 0)
      (targetReads ⟨parseLoneKey, fun ep _ => (false, ep)⟩ (postDocument loneKey))
      (setTargetFromPayload ⟨parseLoneKey, fun ep _ => (false, ep)⟩ (postDocument loneKey)
        Vars.init).1 :=
  ⟨fun h => absurd (h.reads 2 (by decide +kernel)) (by decide),
    fun h => absurd (h.reads 2 (by decide +kernel)) (by decide)⟩

/-- A value is counted under its key, and a key under the object. -/
def flatSuperior (i : ℕ) : ℕ := if i % 2 = 0 then i - 1 else 0

lemma valued_flat : Valued flatSuperior 5 := by
  intro i hpos hlt hkey
  unfold flatSuperior at hkey
  have hodd : i % 2 = 1 := by
    split at hkey
    · omega
    · omega
  refine ⟨i + 1, by omega, ?_⟩
  unfold flatSuperior
  rw [if_pos (by omega), Nat.add_sub_cancel]

def buttonPackages : Packages where
  jsmnParse := (pathPackages shortPath).jsmnParse
  sockUdpStr2ep ep _ := (true, { ep with addr := Vector.replicate 16 0, port := LUKE_TARGET_PORT })

theorem shortPath_onlyParsed :
    OnlyParsed (objectToks (postedMembers shortPath)) flatSuperior
      (Luke.targetReads (pathPackages shortPath) (postPath shortPath))
      (Luke.setTargetFromPayload (pathPackages shortPath) (postPath shortPath) Common.init).1 ∧
    OnlyParsed (objectToks (postedMembers shortPath)) flatSuperior
      (targetReads buttonPackages (postPath shortPath))
      (setTargetFromPayload buttonPackages (postPath shortPath) Vars.init).1 := by
  have hpaired : ∀ accepted, Paired (postPath shortPath).payload
      ((postPath shortPath).toks (objectToks (postedMembers shortPath)))
      (objectToks (postedMembers shortPath)).length flatSuperior accepted := fun _ =>
    ⟨fun h => absurd h.2.2.1 (by decide +kernel), fun _ => valued_flat⟩
  have hparsed : (pathPackages shortPath).jsmnParse
      (slice (postPath shortPath).payload 0 (postPath shortPath).payloadLen) =
        some (objectToks (postedMembers shortPath)) := rfl
  have h := targetReads_onlyParsed_iff (P := buttonPackages) pathPackages_strings hparsed hparsed
    Common.init Vars.init flatSuperior
  exact ⟨h.1.mpr (hpaired _), h.2.mpr (hpaired _)⟩

end Button

end RiotPlayground
