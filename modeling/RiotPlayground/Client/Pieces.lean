import RiotPlayground.Client.Atomic

/-!
# Mock responses in pieces

`resp <code> <hex>` starts a response and `resp -c <hex>` continues it. What is stored is what was
accepted, in one go or in pieces.
-/

namespace RiotPlayground

open Buffer Directive Logged

namespace Client

/-- The bytes a text stands for: pairs of hex digits and perhaps a dash. -/
def hexBytes : List Char → Option (List UInt8)
  | [] => some []
  | [c] => if c = '-' then some [] else none
  | hi :: lo :: hex =>
    (parseSinglehex hi).bind fun hi => (parseSinglehex lo).bind fun lo =>
      (hexBytes hex).map ((16 * hi + lo) :: ·)

/-- The texts as one, without their dashes. -/
def joinPieces (hexs : List (List Char)) : List Char := hexs.flatten.filter (· ≠ '-')

def Vars.response (s : Vars) : List UInt8 := slice s.mockResponse 0 s.mockResponseLen

/-- The text is hexadecimal, and there is room for its bytes behind a response. -/
def Fits (L : Libs) (before : List UInt8) (hex : List Char) : Prop :=
  ∃ bytes, hexBytes hex = some bytes ∧ before.length + bytes.length < L.dnsMsgLen

section Enter

variable (L : Libs) (name : List Char)

def startResp (code hex : List Char) : Shell ℤ := resp L [name, code, hex]

def continueResp (hex : List Char) : Shell ℤ := resp L [name, ['-', 'c'], hex]

/-- The pieces that are accepted, and the state after the last. -/
def enter : List (List Char) → Vars → List (List Char) × Vars
  | [], s => ([], s)
  | hex :: hexs, s =>
    let ran := continueResp L name hex s
    let rest := enter hexs ran.state
    (if ran.value = 0 then hex :: rest.1 else rest.1, rest.2)

end Enter

lemma toNat_le {c d : Char} (h : c ≤ d) : c.toNat ≤ d.toNat := UInt32.le_iff_toNat_le.mp h

lemma parseSinglehex_lt {c : Char} {v : UInt8} (h : parseSinglehex c = some v) : v.toNat < 16 := by
  unfold parseSinglehex at h
  split at h
  · rename_i hc
    have hle : c.toNat ≤ 57 := toNat_le hc.2
    rw [← Option.some.inj h, UInt8.toNat_ofNat']
    simp only [show '0'.toNat = 48 from rfl]
    omega
  · split at h
    · rename_i hc
      have hle : c.toNat ≤ 102 := toNat_le hc.2
      rw [← Option.some.inj h, UInt8.toNat_ofNat']
      simp only [show 'a'.toNat = 97 from rfl]
      omega
    · split at h
      · rename_i hc
        have hle : c.toNat ≤ 70 := toNat_le hc.2
        rw [← Option.some.inj h, UInt8.toNat_ofNat']
        simp only [show 'A'.toNat = 65 from rfl]
        omega
      · cases h

lemma join_nibbles {hi lo : UInt8} (hhi : hi.toNat < 16) (hlo : lo.toNat < 16) :
    hi <<< 4 ||| lo = 16 * hi + lo := by
  apply UInt8.toNat_inj.mp
  have hshift : hi.toNat <<< 4 = 16 * hi.toNat := by
    rw [Nat.shiftLeft_eq]
    omega
  have hor : hi.toNat <<< 4 ||| lo.toNat = 16 * hi.toNat + lo.toNat := by
    rw [← Nat.shiftLeft_add_eq_or_of_lt hlo, hshift]
  have hmod : hi.toNat <<< 4 % 256 = hi.toNat <<< 4 := by
    rw [hshift]
    omega
  simp [hmod, hor]
  omega

/-- The length that the caller passes is the number of pairs. -/
lemma decodeHex_half (hex : List Char) : decodeHex (hex.length / 2) hex = hexBytes hex := by
  fun_induction hexBytes hex with
  | case1 => rfl
  | case2 => rfl
  | case3 c h =>
    have hend : ¬ atEnd [c] = true := by simp [atEnd, h]
    have hlen : [c].length / 2 = 0 := by simp
    rw [hlen, decodeHex, if_neg hend]
  | case4 hi lo hex ih =>
    have hlen : (hi :: lo :: hex).length / 2 = hex.length / 2 + 1 := by
      simp only [List.length_cons]
      omega
    rw [hlen, decodeHex, ih]
    cases hhi : parseSinglehex hi with
    | none => rfl
    | some hiVal =>
      cases hlo : parseSinglehex lo with
      | none => rfl
      | some loVal =>
        rw [Option.bind_some, Option.bind_some, Option.bind_some, Option.bind_some,
          join_nibbles (parseSinglehex_lt hhi) (parseSinglehex_lt hlo)]

/-- A dash is no digit, so it can only be at the end. -/
lemma hexBytes_filter_append {hex : List Char} {bytes : List UInt8}
    (h : hexBytes hex = some bytes) (rest : List Char) :
    hexBytes (hex.filter (· ≠ '-') ++ rest) = (hexBytes rest).map (bytes ++ ·) := by
  have hdigit : ∀ {c : Char} {v : UInt8}, parseSinglehex c = some v → c ≠ '-' := by
    rintro c v hc rfl
    cases hc
  fun_induction hexBytes hex generalizing bytes with
  | case1 =>
    obtain rfl := Option.some.inj h
    simp
  | case2 =>
    obtain rfl := Option.some.inj h
    simp
  | case3 => cases h
  | case4 hi lo hex ih =>
    obtain ⟨hiVal, hhi, h⟩ := Option.bind_eq_some_iff.mp h
    obtain ⟨loVal, hlo, h⟩ := Option.bind_eq_some_iff.mp h
    obtain ⟨tail, htail, rfl⟩ := Option.map_eq_some_iff.mp h
    have hfilter : (hi :: lo :: hex).filter (· ≠ '-') = hi :: lo :: hex.filter (· ≠ '-') := by
      simp [hdigit hhi, hdigit hlo]
    rw [hfilter, List.cons_append, List.cons_append, hexBytes, hhi, hlo, Option.bind_some,
      Option.bind_some, ih htail]
    cases hexBytes rest <;> rfl

lemma hexBytes_joinPieces {hexs : List (List Char)} {parts : List (List UInt8)}
    (h : List.Forall₂ (fun hex bytes => hexBytes hex = some bytes) hexs parts) :
    hexBytes (joinPieces hexs) = some parts.flatten := by
  induction h with
  | nil => rfl
  | cons hhex _ ih =>
    unfold joinPieces at ih ⊢
    rw [List.flatten_cons, List.filter_append, hexBytes_filter_append hhex, ih]
    rfl

variable {L : Libs} {s : Vars}

@[simp] lemma length_response : s.response.length = s.mockResponseLen := length_slice ..

/-- What storing a text behind a response came to. -/
structure Entered (L : Libs) (before : List UInt8) (hex : List Char) (ok : Prop) (t : Vars) :
    Prop where
  fits : ok ↔ Fits L before hex
  accepted : ok → ∃ bytes, hexBytes hex = some bytes ∧ t.response = before ++ bytes ∧
    t.mockResponseLen < L.dnsMsgLen
  rejected : ¬ ok → t.response = before

lemma entered_copyMockResponse (hex : List Char) :
    Ends (copyMockResponse L hex) (fun size => Entered L s.response hex (size.isSome = true))
      s := by
  rw [ends_iff, ends_copyMockResponse_iff, decodeHex_half]
  have hhalf : ∀ {bytes}, hexBytes hex = some bytes → bytes.length = hex.length / 2 :=
    fun hbytes => length_decodeHex ((decodeHex_half hex).trans hbytes)
  split
  · rename_i hfull
    refine ⟨iff_of_false Bool.false_ne_true ?_, fun hok => absurd hok Bool.false_ne_true,
      fun _ => rfl⟩
    rintro ⟨bytes, hbytes, hroom⟩
    rw [length_response, hhalf hbytes] at hroom
    omega
  · rename_i hroom
    cases hbytes : hexBytes hex with
    | none =>
      refine ⟨iff_of_false Bool.false_ne_true ?_, fun hok => absurd hok Bool.false_ne_true,
        fun _ => ?_⟩
      · rintro ⟨bytes, hsome, -⟩
        rw [hbytes] at hsome
        cases hsome
      · exact slice_poke_before (Nat.le_of_eq (Nat.zero_add _))
    | some bytes =>
      have hdecode := (decodeHex_half hex).trans hbytes
      have hpoke := (parseHex_eq hex _ s.mockResponse s.mockResponseLen).2 bytes hdecode
      rw [parseHex_written] at hpoke
      refine ⟨iff_of_true rfl ⟨bytes, hbytes, ?_⟩,
        fun _ => ⟨bytes, hbytes, ?_, by simpa using hroom⟩,
        fun hno => absurd rfl hno⟩
      · rw [length_response, hhalf hbytes]
        omega
      · simp only [Vars.response, hpoke]
        rw [← length_decodeHex hdecode]
        exact slice_poke_append _ _ _

/-- The return code of `_resp` says whether the text was stored. -/
lemma Entered.code {before : List UInt8} {hex : List Char} {size : Option ℕ} {t : Vars}
    (h : Entered L before hex (size.isSome = true) t) :
    if size.isSome = true then
      Spec (fun _ => True) (pure 0 : Shell ℤ) (fun code => Entered L before hex (code = 0)) t
    else
      Spec (fun _ => True) (pure 1 : Shell ℤ) (fun code => Entered L before hex (code = 0)) t := by
  simp only [spec_pure]
  cases size with
  | none =>
    refine ⟨iff_of_false (by decide) (h.fits.not.mp Bool.false_ne_true),
      fun hok => absurd hok (by decide), fun _ => h.rejected Bool.false_ne_true⟩
  | some n =>
    exact ⟨iff_of_true trivial (h.fits.mp rfl), fun _ => h.accepted rfl,
      fun hno => absurd trivial hno⟩

lemma entered_continueResp (name hex : List Char) :
    Ends (continueResp L name hex) (fun code => Entered L s.response hex (code = 0)) s := by
  have hlong : ¬ [name, ['-', 'c'], hex].length < 2 := by simp
  have hopt : 2 < [name, ['-', 'c'], hex].length ∧ [name, ['-', 'c'], hex].getD 1 [] = ['-', 'c'] :=
    ⟨Nat.lt_succ_self 2, rfl⟩
  rw [ends_iff, continueResp, resp]
  simp only [spec_bind, spec_ite, spec_isOption, spec_arg, hlong, if_false, true_and, hopt,
    and_self, decide_true, if_true, implies_true]
  exact (ends_iff.mp (entered_copyMockResponse hex)).imp fun _ _ h => h.code

/-- The response is empty before it is started. -/
lemma entered_startResp (name hex : List Char) {code : List Char}
    (hcode : UInt8.ofInt (atoi code).toInt >>> 5 = 2) :
    Ends (startResp L name code hex) (fun res => Entered L [] hex (res = 0)) s := by
  have hlong : ¬ [name, code, hex].length < 2 := by simp
  have hopt : [name, code, hex].getD 1 [] ≠ ['-', 'c'] := by
    rintro rfl
    exact absurd hcode (by decide)
  have hclass : 2 < [name, code, hex].length ∧
      UInt8.ofInt (atoi ([name, code, hex].getD 1 [])).toInt >>> 5 = 2 :=
    ⟨Nat.lt_succ_self 2, hcode⟩
  rw [ends_iff, startResp, resp]
  simp only [spec_bind, spec_ite, spec_isOption, spec_arg, spec_modify, hlong, if_false, true_and,
    hopt, and_false, decide_false, Bool.false_eq_true, hclass, if_true, implies_true]
  exact (ends_iff.mp (entered_copyMockResponse hex)).imp fun _ _ h => h.code

lemma enter_accepted {name hex : List Char} (hexs : List (List Char))
    (h : (continueResp L name hex s).value = 0) : enter L name (hex :: hexs) s =
      (hex :: (enter L name hexs (continueResp L name hex s).state).1,
        (enter L name hexs (continueResp L name hex s).state).2) :=
  congrArg (·, _) (if_pos h)

lemma enter_rejected {name hex : List Char} (hexs : List (List Char))
    (h : (continueResp L name hex s).value ≠ 0) :
    enter L name (hex :: hexs) s = enter L name hexs (continueResp L name hex s).state :=
  congrArg (·, _) (if_neg h)

lemma enter_response (L : Libs) (name : List Char) (hexs : List (List Char)) {s : Vars}
    (hlen : s.mockResponseLen < L.dnsMsgLen) : ∃ parts,
      List.Forall₂ (fun hex bytes => hexBytes hex = some bytes) (enter L name hexs s).1 parts ∧
      (enter L name hexs s).2.response = s.response ++ parts.flatten ∧
      (enter L name hexs s).2.mockResponseLen < L.dnsMsgLen := by
  induction hexs generalizing s with
  | nil => exact ⟨[], .nil, (List.append_nil _).symm, hlen⟩
  | cons hex hexs ih =>
    have hentered : Entered L s.response hex _ (continueResp L name hex s).state :=
      entered_continueResp name hex
    by_cases hok : (continueResp L name hex s).value = 0
    · obtain ⟨bytes, hbytes, hresponse, hlen⟩ := hentered.accepted hok
      obtain ⟨parts, hparts, hrest, hlen⟩ := ih hlen
      rw [enter_accepted hexs hok]
      refine ⟨bytes :: parts, .cons hbytes hparts, ?_, hlen⟩
      · rw [hrest, hresponse, List.flatten_cons, List.append_assoc]
    · have hresponse := hentered.rejected hok
      have hsame := congrArg List.length hresponse
      rw [length_response, length_response] at hsame
      obtain ⟨parts, hparts, hrest, hlen⟩ := ih (hsame ▸ hlen)
      rw [enter_rejected hexs hok]
      refine ⟨parts, hparts, ?_, hlen⟩
      · rw [hrest, hresponse]

lemma startResp_joinPieces (name : List Char) {code : List Char} {hexs : List (List Char)}
    {parts : List (List UInt8)} (hcode : UInt8.ofInt (atoi code).toInt >>> 5 = 2)
    (hparts : List.Forall₂ (fun hex bytes => hexBytes hex = some bytes) hexs parts)
    (hroom : parts.flatten.length < L.dnsMsgLen) (t : Vars) :
    (startResp L name code (joinPieces hexs) t).value = 0 ∧
      (startResp L name code (joinPieces hexs) t).state.response = parts.flatten := by
  have hjoined := hexBytes_joinPieces hparts
  have honce : Entered L [] (joinPieces hexs) _ (startResp L name code (joinPieces hexs) t).state :=
    entered_startResp name (joinPieces hexs) hcode
  have haccepted := honce.fits.mpr ⟨parts.flatten, hjoined, by
    rw [List.length_nil, Nat.zero_add]
    exact hroom⟩
  obtain ⟨all, hall, hstored, -⟩ := honce.accepted haccepted
  obtain rfl := Option.some.inj (hjoined.symm.trans hall)
  exact ⟨haccepted, hstored⟩

/-- The response is what the accepted texts stand for, one behind the other, as if these had been
entered at once. The next text is accepted if and only if it is hexadecimal and fits, and one that
is rejected changes nothing. -/
theorem enter_concat (L : Libs) (s : Vars) (name : List Char) {code hex : List Char}
    (hexs : List (List Char)) (hcode : UInt8.ofInt (atoi code).toInt >>> 5 = 2)
    (hok : (startResp L name code hex s).value = 0) :
    let entered := enter L name hexs (startResp L name code hex s).state
    (∃ parts, List.Forall₂ (fun hex bytes => hexBytes hex = some bytes) (hex :: entered.1) parts ∧
      entered.2.response = parts.flatten) ∧
    entered.2.mockResponseLen < L.dnsMsgLen ∧
    (∀ t, (startResp L name code (joinPieces (hex :: entered.1)) t).value = 0 ∧
      (startResp L name code (joinPieces (hex :: entered.1)) t).state.response =
        entered.2.response) ∧
    ∀ next, ((continueResp L name next entered.2).value = 0 ↔ Fits L entered.2.response next) ∧
      ((continueResp L name next entered.2).value ≠ 0 →
        (continueResp L name next entered.2).state.response = entered.2.response ∧
        (continueResp L name next entered.2).state.mockResponseLen =
          entered.2.mockResponseLen) := by
  have hstart : Entered L [] hex _ (startResp L name code hex s).state :=
    entered_startResp name hex hcode
  obtain ⟨bytes, hbytes, hresponse, hlen⟩ := hstart.accepted hok
  obtain ⟨parts, hparts, hrest, hlen⟩ := enter_response L name hexs hlen
  have hparts : List.Forall₂ (fun hex bytes => hexBytes hex = some bytes) (hex :: _)
      (bytes :: parts) := .cons hbytes hparts
  have hwhole : (enter L name hexs (startResp L name code hex s).state).2.response =
      (bytes :: parts).flatten := by
    rw [hrest, hresponse, List.nil_append, List.flatten_cons]
  refine ⟨⟨bytes :: parts, hparts, hwhole⟩, hlen, fun t => ?_, fun next => ⟨?_, fun hno => ?_⟩⟩
  · rw [hwhole]
    refine startResp_joinPieces name hcode hparts ?_ t
    rw [← hwhole, length_response]
    exact hlen
  · exact (entered_continueResp (L := L) name next).fits
  · have hsame := (entered_continueResp (L := L) name next).rejected hno
    exact ⟨hsame, by rw [← length_response, hsame, length_response]⟩

/-- `resp 69 ab-`, `resp -c c` and `resp -c cd`: the second is rejected, and `resp 69 abcd` comes to
the same. -/
theorem enter_concat_dash :
    let entered := enter acceptingLibs ['r'] [['c'], ['c', 'd']]
      (startResp acceptingLibs ['r'] ['6', '9'] ['a', 'b', '-'] .init).state
    entered.1 = [['c', 'd']] ∧
      (startResp acceptingLibs ['r'] ['6', '9'] ['a', 'b', 'c', 'd'] .init).state.response =
        entered.2.response := by
  have hentered : (enter acceptingLibs ['r'] [['c'], ['c', 'd']]
      (startResp acceptingLibs ['r'] ['6', '9'] ['a', 'b', '-'] .init).state).1 = [['c', 'd']] := by
    decide +kernel
  refine ⟨hentered, ?_⟩
  have hcode : UInt8.ofInt (atoi ['6', '9']).toInt >>> 5 = 2 := by decide +kernel
  have hok : (startResp acceptingLibs ['r'] ['6', '9'] ['a', 'b', '-'] .init).value = 0 := by
    decide +kernel
  have honce :=
    ((enter_concat acceptingLibs .init ['r'] [['c'], ['c', 'd']] hcode hok).2.2.1 .init).2
  rw [hentered] at honce
  exact honce

end Client

end RiotPlayground
