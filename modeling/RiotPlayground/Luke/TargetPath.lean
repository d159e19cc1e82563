import Mathlib.Data.List.TakeWhile
import RiotPlayground.Luke.TargetRoundTrip
import RiotPlayground.Luke.TargetWalk

/-!
# The bounds of a target path

The length `strncpy` is given is that of the posted value.
-/

namespace RiotPlayground

open Buffer FlatJson

namespace Luke

/-- The value of the last `"path"` that has one. -/
def postedPath (P : Packages) (pdu : TargetPdu) : Option (List UInt8) :=
  match P.jsmnParse (slice pdu.payload 0 pdu.payloadLen) with
  | none => none
  | some tokens =>
    match lastKey pdu.payload (pdu.toks tokens) tokens.length pathKey with
    | none => none
    | some k =>
      if k + 1 < tokens.length then
        let value := pdu.toks tokens (k + 1)
        some (slice pdu.payload value.start.toNat value.len)
      else none

/-- The indices of `_target_path` that `memset` and `strncpy` write to. -/
def pathWrites (P : Packages) (pdu : TargetPdu) (s : Common) : List ℕ :=
  match findTarget P pdu with
  | none => []
  | some w =>
    if (storeTarget P w s).1 = .valid then
      List.range LUKE_TARGET_PATH_LEN ++ List.range w.pathTokLen
    else []

def Common.Terminated (s : Common) : Prop := ∃ i < LUKE_TARGET_PATH_LEN, s.targetPath i = 0

/-- The path is kept in its buffer: nothing is written behind it, it ends in it, and it is the
posted one. -/
structure PathKept (P : Packages) (pdu : TargetPdu) (s : Common) : Prop where
  writes : ∀ i ∈ pathWrites P pdu s, i < LUKE_TARGET_PATH_LEN
  rejected : (setTargetFromPayload P pdu s).1 ≠ .valid →
    (setTargetFromPayload P pdu s).2.targetPath = s.targetPath
  terminated : (setTargetFromPayload P pdu s).1 = .valid →
    (setTargetFromPayload P pdu s).2.Terminated
  posted : (setTargetFromPayload P pdu s).1 = .valid →
    postedPath P pdu = some (setTargetFromPayload P pdu s).2.pathString

/-- The path of an acceptable request is shorter than the buffer, and not struck by the NUL of an
address without a value. -/
def PathFits (P : Packages) (pdu : TargetPdu) (s : Common) : Prop :=
  ∀ tokens, P.jsmnParse (slice pdu.payload 0 pdu.payloadLen) = some tokens →
    Acceptable P pdu.payload (pdu.toks tokens) tokens.length s.targetRemote →
      ∃ k, lastKey pdu.payload (pdu.toks tokens) tokens.length pathKey = some k ∧
        k + 1 < tokens.length ∧ (pdu.toks tokens (k + 1)).len < LUKE_TARGET_PATH_LEN ∧
        ∀ x, Struck pdu.payload (pdu.toks tokens) tokens.length x →
          ¬ ((pdu.toks tokens (k + 1)).start.toNat ≤ x ∧ x < (pdu.toks tokens (k + 1)).stop.toNat)

variable {P : Packages}

lemma storeTarget_valid {w : Walk} {s : Common} (h : (storeTarget P w s).1 = .valid) :
    ∃ path, w.pathTok = some path ∧ (storeTarget P w s).2.targetPath =
      strncpy (poke s.targetPath 0 (List.replicate LUKE_TARGET_PATH_LEN 0)) w.payload path
        w.pathTokLen := by
  unfold storeTarget at h ⊢
  split at h
  · rename_i remote path hremote hpath
    dsimp only at h ⊢
    split at h
    · cases h
    · rename_i hmade
      rw [if_neg hmade]
      exact ⟨path, hpath, rfl⟩
  · cases h

lemma storeTarget_refused {w : Walk} {s : Common} (h : (storeTarget P w s).1 ≠ .valid) :
    (storeTarget P w s).2.targetPath = s.targetPath := by
  unfold storeTarget at h ⊢
  split at h
  · dsimp only at h ⊢
    split at h
    · rename_i hmade
      rw [if_pos hmade]
    · exact absurd rfl h
  · rfl

lemma terminated_iff (s : Common) : s.Terminated ↔ s.pathString.length < LUKE_TARGET_PATH_LEN := by
  have hle : s.pathString.length ≤ LUKE_TARGET_PATH_LEN :=
    (List.takeWhile_prefix _).length_le.trans (length_slice ..).le
  constructor
  · rintro ⟨i, hi, hzero⟩
    apply lt_of_le_of_ne hle
    intro hlen
    have hwhole : s.pathString = slice s.targetPath 0 LUKE_TARGET_PATH_LEN :=
      (List.takeWhile_prefix _).eq_of_length (hlen.trans (length_slice ..).symm)
    refine ne_zero_of_pathString s (s.targetPath i) ?_ hzero
    rw [hwhole]
    exact List.mem_map.mpr ⟨i, List.mem_range.mpr hi, by rw [Nat.zero_add]⟩
  · intro hlt
    by_contra hnone
    have hwhole : s.pathString = slice s.targetPath 0 LUKE_TARGET_PATH_LEN := by
      apply takeWhile_of_ne
      intro b hb hzero
      apply hnone
      obtain ⟨i, hi, rfl⟩ := List.mem_map.mp hb
      exact ⟨i, List.mem_range.mp hi, by rwa [Nat.zero_add] at hzero⟩
    rw [hwhole, length_slice] at hlt
    exact absurd hlt (lt_irrefl _)

/-- What is known of an accepted request: the tokens, and the place `k` of the key of the path. -/
structure Accepted (P : Packages) (pdu : TargetPdu) (s : Common) (tokens : List JsmnTok) (w : Walk)
    (k : ℕ) : Prop where
  parsed : P.jsmnParse (slice pdu.payload 0 pdu.payloadLen) = some tokens
  find : findTarget P pdu = some w
  acceptable : Acceptable P pdu.payload (pdu.toks tokens) tokens.length s.targetRemote
  memory : w.payload = cut pdu.payload (pdu.toks tokens) tokens.length
  key : lastKey pdu.payload (pdu.toks tokens) tokens.length pathKey = some k
  len : w.pathTokLen = (pdu.toks tokens (k + 1)).len
  code : (storeTarget P w s).1 = .valid
  stored : (storeTarget P w s).2.targetPath =
    strncpy (poke s.targetPath 0 (List.replicate LUKE_TARGET_PATH_LEN 0)) w.payload
      (pdu.toks tokens (k + 1)).start.toNat w.pathTokLen

lemma accepted_of_valid (hP : P.Strings) {pdu : TargetPdu} {s : Common}
    (h : (setTargetFromPayload P pdu s).1 = .valid) :
    ∃ tokens w k, Accepted P pdu s tokens w k := by
  have hsome : ∃ w, findTarget P pdu = some w := by
    cases hfind : findTarget P pdu with
    | none =>
      unfold setTargetFromPayload at h
      rw [hfind] at h
      cases h
    | some w => exact ⟨w, rfl⟩
  obtain ⟨w, hfind⟩ := hsome
  rw [setTargetFromPayload_of_find hfind] at h
  cases hparsed : P.jsmnParse (slice pdu.payload 0 pdu.payloadLen) with
  | none =>
    unfold findTarget at hfind
    rw [hparsed] at hfind
    cases hfind
  | some tokens =>
    rcases findTarget_found hP hparsed with ⟨⟨hobject, hmembers⟩, w', hfind', hf⟩ | ⟨-, hnone⟩
    · obtain rfl := Option.some.inj (hfind.symm.trans hfind')
      obtain ⟨path, hpath, hstored⟩ := storeTarget_valid h
      obtain ⟨k, hk, rfl⟩ := Option.map_eq_some_iff.mp (hf.path.symm.trans hpath)
      exact ⟨tokens, w, k, hparsed, hfind, (hf.acceptable_iff hobject hmembers).mpr h, hf.memory,
        hk, hf.pathLen k hk, h, hstored⟩
    · rw [hnone] at hfind
      cases hfind

section Accepted

variable {pdu : TargetPdu} {s : Common} {tokens : List JsmnTok} {w : Walk} {k : ℕ}

lemma Accepted.set (h : Accepted P pdu s tokens w k) :
    (setTargetFromPayload P pdu s).2.targetPath =
      strncpy (poke s.targetPath 0 (List.replicate LUKE_TARGET_PATH_LEN 0)) w.payload
        (pdu.toks tokens (k + 1)).start.toNat w.pathTokLen := by
  rw [setTargetFromPayload_of_find h.find, h.stored]

lemma Accepted.writes (h : Accepted P pdu s tokens w k) :
    (∀ i ∈ pathWrites P pdu s, i < LUKE_TARGET_PATH_LEN) ↔ w.pathTokLen ≤ LUKE_TARGET_PATH_LEN := by
  unfold pathWrites
  rw [h.find]
  dsimp only
  rw [if_pos h.code]
  constructor
  · intro hall
    by_contra hlong
    have hlast := hall LUKE_TARGET_PATH_LEN (List.mem_append_right _
      (List.mem_range.mpr (Nat.lt_of_not_le hlong)))
    exact absurd hlast (lt_irrefl _)
  · intro hle i hi
    rcases List.mem_append.mp hi with hi | hi
    · exact List.mem_range.mp hi
    · exact (List.mem_range.mp hi).trans_le hle

lemma Accepted.postedPath (h : Accepted P pdu s tokens w k) : postedPath P pdu =
    if k + 1 < tokens.length then
      some (slice pdu.payload (pdu.toks tokens (k + 1)).start.toNat w.pathTokLen)
    else none := by
  unfold Luke.postedPath
  rw [h.parsed]
  dsimp only
  rw [h.key, h.len]

lemma Accepted.type (h : Accepted P pdu s tokens w k) :
    (pdu.toks tokens (k + 1)).type = .string := by
  have hmem := List.mem_of_getLast? h.key
  simp only [List.mem_filter, List.mem_range, decide_eq_true_eq] at hmem
  exact (h.acceptable.members k hmem.1 hmem.2.1).2

lemma Accepted.stop (hP : P.Strings) (h : Accepted P pdu s tokens w k)
    (hk : k + 1 < tokens.length) : (pdu.toks tokens (k + 1)).start.toNat + w.pathTokLen =
      (pdu.toks tokens (k + 1)).stop.toNat := by
  have hle := (apart_toks hP pdu h.parsed).ordered (k + 1) hk (h.type)
  have hnat := UInt32.le_iff_toNat_le.mp hle
  rw [h.len, JsmnTok.len, UInt32.toNat_sub_of_le _ _ hle]
  omega

/-- What is copied of the path is the path, up to where it is struck. -/
lemma Accepted.copied (hP : P.Strings) (h : Accepted P pdu s tokens w k)
    (hk : k + 1 < tokens.length) :
    (slice w.payload (pdu.toks tokens (k + 1)).start.toNat w.pathTokLen).takeWhile (· ≠ 0) =
      slice pdu.payload (pdu.toks tokens (k + 1)).start.toNat w.pathTokLen ↔
    ∀ x, Struck pdu.payload (pdu.toks tokens) tokens.length x →
      ¬ ((pdu.toks tokens (k + 1)).start.toNat ≤ x ∧
        x < (pdu.toks tokens (k + 1)).stop.toNat) := by
  have hstop := h.stop hP hk
  constructor
  · rintro heq x hstruck ⟨hx, hx'⟩
    have hzero : w.payload x = 0 := by
      rw [h.memory, cut_struck hstruck (by omega)]
    have hwhole : (slice w.payload (pdu.toks tokens (k + 1)).start.toNat
        w.pathTokLen).takeWhile (· ≠ 0) = slice w.payload _ w.pathTokLen :=
      (List.takeWhile_prefix _).eq_of_length (by rw [heq, length_slice, length_slice])
    have hmem : w.payload x ∈ slice w.payload (pdu.toks tokens (k + 1)).start.toNat
        w.pathTokLen := by
      refine List.mem_map.mpr ⟨x - (pdu.toks tokens (k + 1)).start.toNat, ?_, ?_⟩
      · exact List.mem_range.mpr (by omega)
      · rw [Nat.add_sub_cancel' hx]
    rw [← hwhole] at hmem
    have hne := List.mem_takeWhile_imp hmem
    simp [hzero] at hne
  · intro hfree
    have hvalues : ∀ i < tokens.length, i % 2 = 1 → (pdu.toks tokens (i + 1)).type = .string :=
      fun i hi hodd => (h.acceptable.members i hi hodd).2
    have hsame : slice w.payload (pdu.toks tokens (k + 1)).start.toNat w.pathTokLen =
        slice pdu.payload (pdu.toks tokens (k + 1)).start.toNat w.pathTokLen := by
      apply slice_congr
      intro x hx hx'
      have hlt : x < (pdu.toks tokens (k + 1)).stop.toNat := by omega
      rw [h.memory]
      exact cut_of_not_struck (apart_toks hP pdu h.parsed) hvalues le_rfl hk (h.type) hx
        hlt (.inr fun hstruck => hfree x hstruck ⟨hx, hlt⟩)
    rw [hsame]
    apply takeWhile_of_ne
    intro b hb hzero
    have hwithin := hP.within _ _ h.parsed _ (toks_mem hk) (h.type)
    rw [length_slice, ← h.len, take_drop_slice _ (by omega)] at hwithin
    exact hwithin.2.2 (hzero ▸ hb)

end Accepted

/-- The path is kept if and only if the path of an acceptable request is shorter than the buffer,
and not struck. -/
theorem pathKept_iff (hP : P.Strings) (pdu : TargetPdu) (s : Common) :
    PathKept P pdu s ↔ PathFits P pdu s := by
  constructor
  · intro hkept tokens hparsed hacceptable
    have hvalid := (valid_iff_acceptable hP hparsed).mpr hacceptable
    obtain ⟨tokens', w, k, h⟩ := accepted_of_valid hP hvalid
    obtain rfl := Option.some.inj (h.parsed.symm.trans hparsed)
    have hposted := hkept.posted hvalid
    rw [h.postedPath] at hposted
    split at hposted
    · rename_i hk
      have hcopied := pathString_copied h.set (h.writes.mp hkept.writes)
      have hwhole := Option.some.inj hposted
      have hterminated := (terminated_iff _).mp (hkept.terminated hvalid)
      rw [← hwhole, length_slice, h.len] at hterminated
      exact ⟨k, h.key, hk, hterminated, (h.copied hP hk).mp (hcopied.symm.trans hwhole.symm)⟩
    · cases hposted
  · intro hfits
    by_cases hvalid : (setTargetFromPayload P pdu s).1 = .valid
    · obtain ⟨tokens, w, k, h⟩ := accepted_of_valid hP hvalid
      obtain ⟨k', hkey, hk, hshort, hfree⟩ := hfits tokens h.parsed h.acceptable
      obtain rfl := Option.some.inj (h.key.symm.trans hkey)
      rw [← h.len] at hshort
      have hpath : (setTargetFromPayload P pdu s).2.pathString =
          slice pdu.payload (pdu.toks tokens (k + 1)).start.toNat w.pathTokLen :=
        (pathString_copied h.set (Nat.le_of_lt hshort)).trans ((h.copied hP hk).mpr hfree)
      refine ⟨h.writes.mpr (Nat.le_of_lt hshort), fun hrejected => absurd hvalid hrejected,
        fun _ => (terminated_iff _).mpr ?_, fun _ => ?_⟩
      · rwa [hpath, length_slice]
      · rw [h.postedPath, if_pos hk, hpath]
    · refine ⟨?_, fun _ => ?_, fun h => absurd h hvalid, fun h => absurd h hvalid⟩
      · unfold setTargetFromPayload at hvalid
        unfold pathWrites
        cases hfind : findTarget P pdu with
        | none => exact nofun
        | some w =>
          rw [hfind] at hvalid
          dsimp only
          rw [if_neg hvalid]
          exact nofun
      · unfold setTargetFromPayload at hvalid ⊢
        cases hfind : findTarget P pdu with
        | none => rfl
        | some w =>
          rw [hfind] at hvalid
          exact storeTarget_refused hvalid

def postedMembers (path : List UInt8) : List Member :=
  targetMembers (hostPort (ascii [':', ':']) LUKE_TARGET_PORT) path

/-- The packages on the cleared address with a path. -/
def pathPackages (path : List UInt8) : Packages :=
  endpointPackages Common.init.targetRemote (ascii [':', ':']) path

def postPath (path : List UInt8) : TargetPdu := postDocument (objectText (postedMembers path))

def shortPath : List UInt8 := ascii ['/', 'p', 'o', 'i', 'n', 't', 's']

def longPath : List UInt8 :=
  ascii ['/', 'd', 'i', 's', 'p', 'l', 'a', 'y', '/', 'h', 'a', 'l', 'l', '/', 'd', 'i', 'f']

/-- The last character of a path of 17 is written behind the buffer. -/
theorem longPath_not_kept :
    ¬ PathKept (pathPackages longPath) (postPath longPath) Common.init := by
  intro h
  have hwritten : 16 ∈ pathWrites (pathPackages longPath) (postPath longPath) Common.init := by
    decide +kernel
  exact absurd (h.writes 16 hwritten) (by decide)

lemma pathPackages_strings : (pathPackages shortPath).Strings := by
  have hparsed : ∀ text tokens, (pathPackages shortPath).jsmnParse text = some tokens →
      objectText (postedMembers shortPath) = text ∧
        objectToks (postedMembers shortPath) = tokens := by
    intro text tokens h
    obtain ⟨rfl, htokens⟩ := Option.ite_none_right_eq_some.mp h
    exact ⟨rfl, Option.some.inj htokens⟩
  constructor
  · intro text tokens h
    obtain ⟨rfl, rfl⟩ := hparsed text tokens h
    decide +kernel
  · intro text tokens h
    obtain ⟨rfl, rfl⟩ := hparsed text tokens h
    decide +kernel

theorem shortPath_kept : PathKept (pathPackages shortPath) (postPath shortPath) Common.init := by
  apply (pathKept_iff pathPackages_strings _ _).mpr
  intro tokens htokens _
  have hparsed : (pathPackages shortPath).jsmnParse
      (slice (postPath shortPath).payload 0 (postPath shortPath).payloadLen) =
        some (objectToks (postedMembers shortPath)) := rfl
  obtain rfl := Option.some.inj (hparsed.symm.trans htokens)
  exact ⟨3, rfl, by decide +kernel, by decide +kernel, fun _ h => absurd h.1 (by decide +kernel)⟩

end Luke

end RiotPlayground
