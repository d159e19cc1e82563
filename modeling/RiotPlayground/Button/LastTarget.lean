import RiotPlayground.Lib.TransitionSystem
import RiotPlayground.Button.TargetReads

/-!
# The last target of the button

The members of a request are stored one by one, the path without an end of its own, before the
request is known to be accepted.
-/

namespace RiotPlayground

open Buffer FlatJson Luke

namespace Button

/-- The value of a token as a C string. -/
def valueText (payload : ℕ → UInt8) (value : JsmnTok) : List UInt8 :=
  (slice payload value.start.toNat value.len).takeWhile (· ≠ 0)

/-- A text in a memory that holds nothing else. -/
def cString (text : List UInt8) : ℕ → UInt8 := fun k => text[k]?.getD 0

/-- The value of the last key, if one was parsed behind it. -/
def postedValue (P : Packages) (pdu : TargetPdu) (key : List UInt8) : Option JsmnTok :=
  match P.jsmnParse (slice pdu.payload 0 pdu.payloadLen) with
  | none => none
  | some tokens =>
    (lastKey pdu.payload (pdu.toks tokens) tokens.length key).bind fun k => tokens[k + 1]?

def postedPath (P : Packages) (pdu : TargetPdu) : Option (List UInt8) :=
  (postedValue P pdu pathKey).map (valueText pdu.payload)

/-- The endpoint that the text of an address stands for. -/
def parseAddr (P : Packages) (text : List UInt8) : Option SockUdpEp :=
  let made := makeSockEp P Vars.init.targetRemote (cString text)
  if made.1 then some made.2 else none

def postedRemote (P : Packages) (pdu : TargetPdu) : Option SockUdpEp :=
  (postedValue P pdu addrKey).bind fun value => parseAddr P (valueText pdu.payload value)

def HasBothKeys (P : Packages) (pdu : TargetPdu) : Prop :=
  ∃ tokens, P.jsmnParse (slice pdu.payload 0 pdu.payloadLen) = some tokens ∧
    (lastKey pdu.payload (pdu.toks tokens) tokens.length addrKey).isSome = true ∧
    (lastKey pdu.payload (pdu.toks tokens) tokens.length pathKey).isSome = true

/-- `_button_target_path` holds the path, with its end. -/
def Vars.HoldsPath (s : Vars) (path : List UInt8) : Prop :=
  path.length < BUTTON_TARGET_PATH_LEN ∧ slice s.targetPath 0 (path.length + 1) = path ++ [0]

def Answers (P : Packages) (pdu : TargetPdu) (s : Vars) (code : Code) : Prop :=
  (setTarget P pdu s).1.map TargetResponse.code = some code

/-- What was accepted last is the target, and what was turned down is not. -/
structure Remembers (P : Packages) (s : Vars) (pdu : TargetPdu) : Prop where
  path : Answers P pdu s .valid → HasBothKeys P pdu →
    ∃ path, postedPath P pdu = some path ∧ (setTarget P pdu s).2.HoldsPath path
  remote : Answers P pdu s .valid → HasBothKeys P pdu →
    postedRemote P pdu = some (setTarget P pdu s).2.targetRemote
  refused : Answers P pdu s .badRequest →
    (setTarget P pdu s).2.targetRemote = s.targetRemote ∧
      (setTarget P pdu s).2.targetPath = s.targetPath

/-- The POSTs to `/button/target`. -/
def posts (P : Packages) : TransitionSystem Vars TargetPdu where
  step s pdu :=
    match pdu.method with
    | .post => some (setTarget P pdu s).2
    | _ => none

/-- `toks` has room for five tokens, and what is parsed does not depend on what the endpoint held
before. -/
structure Packages.Documented (P : Packages) : Prop where
  atMost : ∀ text tokens, P.jsmnParse text = some tokens → tokens.length ≤ 5
  overwrites : ∀ ep ep' str, (P.sockUdpStr2ep ep str).1 = true →
    P.sockUdpStr2ep ep' str = P.sockUdpStr2ep ep str

/-- The path ends in the buffer: it is shorter, and no longer path was stored before. -/
def PathEnds (payload : ℕ → UInt8) (value : JsmnTok) (s : Vars) : Prop :=
  (valueText payload value).length < BUTTON_TARGET_PATH_LEN ∧
    (value.len = 0 ∨ (valueText payload value).length < value.len ∨ s.targetPath value.len = 0)

/-- The address can be parsed, and reads with what stands behind it as it does alone. -/
def AddrEnds (P : Packages) (payload : ℕ → UInt8) (value : JsmnTok) : Prop :=
  (parseAddr P (valueText payload value)).isSome = true ∧
    ∀ ep, P.sockUdpStr2ep ep (fun k => payload (value.start.toNat + k)) =
      P.sockUdpStr2ep ep (cString (valueText payload value))

/-- The request gets as far as its members. -/
structure Walked (P : Packages) (pdu : TargetPdu) (tokens : List JsmnTok) : Prop where
  json : pdu.contentType = COAP_FORMAT_JSON
  parsed : P.jsmnParse (slice pdu.payload 0 pdu.payloadLen) = some tokens
  object : 0 < tokens.length ∧ (pdu.toks tokens 0).type = .object

/-- The first member of a request is stored only if the second can be, and in a request that has
both keys both of them have values that end. -/
structure Storable (P : Packages) (s : Vars) (pdu : TargetPdu) : Prop where
  whole : ∀ tokens, Walked P pdu tokens → 3 < tokens.length →
    TargetMember pdu.payload (pdu.toks tokens 1) (pdu.toks tokens 2) →
      TargetMember pdu.payload (pdu.toks tokens 3) (pdu.toks tokens 4)
  path : ∀ tokens, Walked P pdu tokens → Pairs pdu.payload (pdu.toks tokens) tokens.length →
    HasBothKeys P pdu → ∃ value, postedValue P pdu pathKey = some value ∧
      PathEnds pdu.payload value s
  addr : ∀ tokens, Walked P pdu tokens → Pairs pdu.payload (pdu.toks tokens) tokens.length →
    HasBothKeys P pdu → ∃ value, postedValue P pdu addrKey = some value ∧
      AddrEnds P pdu.payload value

variable {P : Packages}

/-- `_button_target_path` after a path was copied to it. -/
def copiedPath (old payload : ℕ → UInt8) (value : JsmnTok) : ℕ → UInt8 :=
  if value.len = 0 then Function.update old 0 0
  else strncpy old payload value.start.toNat value.len

lemma walkStep_addr {payload : ℕ → UInt8} {key value : JsmnTok} (s : Vars)
    (hkey : jsoneq payload key addrKey = true) (htype : value.type = .string) :
    walkStep P payload key value s = (true, { s with targetRemote :=
      (makeSockEp P s.targetRemote fun k => payload (value.start.toNat + k)).2 }) := by
  exact (if_pos hkey).trans (if_neg (not_not.mpr htype))

lemma walkStep_path {payload : ℕ → UInt8} {key value : JsmnTok} (s : Vars)
    (hkey : jsoneq payload key pathKey = true) (htype : value.type = .string) :
    walkStep P payload key value s =
      (true, { s with targetPath := copiedPath s.targetPath payload value }) := by
  have hno : ¬ jsoneq payload key addrKey = true := fun haddr =>
    absurd (jsoneq_inj haddr hkey) (by decide)
  refine (if_neg hno).trans ((if_pos hkey).trans ((if_neg (not_not.mpr htype)).trans ?_))
  unfold copiedPath
  split
  · rfl
  · rfl

lemma walkStep_refused {payload : ℕ → UInt8} {key value : JsmnTok} (s : Vars)
    (h : ¬ TargetMember payload key value) : walkStep P payload key value s = (false, s) := by
  unfold walkStep
  split
  · rename_i haddr
    rw [if_pos fun htype => h ⟨.inl haddr, htype⟩]
  · split
    · rename_i hpath
      rw [if_pos fun htype => h ⟨.inr hpath, htype⟩]
    · rfl

/-- The copied path has an end if it is shorter than its token or if there was one already. -/
lemma slice_copiedPath (old payload : ℕ → UInt8) (value : JsmnTok)
    (hend : value.len = 0 ∨ (valueText payload value).length < value.len ∨ old value.len = 0) :
    slice (copiedPath old payload value) 0 ((valueText payload value).length + 1) =
      valueText payload value ++ [0] := by
  have hle : (valueText payload value).length ≤ value.len :=
    (List.takeWhile_prefix _).length_le.trans (length_slice ..).le
  unfold copiedPath
  by_cases hempty : value.len = 0
  · have hnil : valueText payload value = [] := List.length_eq_zero_iff.mp (by omega)
    rw [if_pos hempty, hnil, List.length_nil, Nat.zero_add, slice_one, Function.update_self]
    rfl
  · rw [if_neg hempty]
    change slice (poke old 0 (valueText payload value ++
      List.replicate (value.len - (valueText payload value).length) 0)) 0 _ = _
    rcases Nat.lt_or_ge (valueText payload value).length value.len with hshort | hwhole
    · obtain ⟨n, hn⟩ := Nat.exists_eq_add_of_lt hshort
      have hzeros : value.len - (valueText payload value).length = n + 1 := by omega
      have hread := slice_poke_left old 0 (valueText payload value ++ [0]) (List.replicate n 0)
      rw [List.length_append, List.append_assoc] at hread
      rw [hzeros, List.replicate_succ]
      exact hread
    · have hlen : (valueText payload value).length = value.len := Nat.le_antisymm hle hwhole
      have hzero : old value.len = 0 := by
        rcases hend with h | h | h
        · exact absurd h hempty
        · exact absurd h (Nat.not_lt.mpr hwhole)
        · exact h
      rw [hlen, Nat.sub_self, List.replicate_zero, List.append_nil, ← hlen, slice_add,
        slice_poke_self, Nat.zero_add, slice_one, poke_of_le (Nat.le_of_eq (Nat.zero_add _)), hlen,
        hzero]

/-- What is made of a posted address does not depend on the target before. -/
lemma makeSockEp_addr (hP : P.Documented) {payload : ℕ → UInt8} {value : JsmnTok}
    (h : AddrEnds P payload value) (remote : SockUdpEp) :
    parseAddr P (valueText payload value) =
      some (makeSockEp P remote fun k => payload (value.start.toNat + k)).2 := by
  obtain ⟨hsome, hread⟩ := h
  have hmade : (makeSockEp P Vars.init.targetRemote
      (cString (valueText payload value))).1 = true := by
    unfold parseAddr at hsome
    dsimp only at hsome
    split at hsome
    · assumption
    · cases hsome
  have hparsed : (P.sockUdpStr2ep { Vars.init.targetRemote with port := 0 }
      (cString (valueText payload value))).1 = true := by
    unfold makeSockEp at hmade
    dsimp only at hmade
    split at hmade
    · assumption
    · cases hmade
  have hsame : makeSockEp P remote (fun k => payload (value.start.toNat + k)) =
      makeSockEp P Vars.init.targetRemote (cString (valueText payload value)) := by
    unfold makeSockEp
    rw [hread, hP.overwrites _ { remote with port := 0 } _ hparsed]
  rw [hsame]
  exact if_pos hmade

section Walk

variable {payload : ℕ → UInt8} {toks : ℕ → JsmnTok} {num : ℕ}

lemma walk_end {fuel i : ℕ} (s : Vars) (h : num ≤ i) :
    walk P payload toks num fuel i s = (.valid, s) := by
  cases fuel with
  | zero => rfl
  | succ fuel => exact if_neg (Nat.not_lt.mpr h)

lemma walk_next {fuel i : ℕ} (s : Vars) (h : i < num)
    (hm : TargetMember payload (toks i) (toks (i + 1))) :
    walk P payload toks num (fuel + 1) i s =
      walk P payload toks num fuel (i + 2) (walkStep P payload (toks i) (toks (i + 1)) s).2 :=
  (if_pos h).trans (if_pos ((walkStep_iff ..).mpr hm))

lemma walk_stop {fuel i : ℕ} (s : Vars) (h : i < num)
    (hm : ¬ TargetMember payload (toks i) (toks (i + 1))) :
    walk P payload toks num (fuel + 1) i s = (.badRequest, s) := by
  have hrefused := walkStep_refused (P := P) s hm
  apply (if_pos h).trans
  rw [hrefused]
  rfl

lemma lastKey_some {key : List UInt8} {k : ℕ} (h : lastKey payload toks num key = some k) :
    k < num ∧ k % 2 = 1 ∧ jsoneq payload (toks k) key = true := by
  have hmem := List.mem_of_getLast? h
  simpa only [List.mem_filter, List.mem_range, decide_eq_true_eq] using hmem

/-- Of up to five tokens the address and the path are the two members, in either order. -/
lemma walk_both (hnum : num ≤ 5)
    (hmembers : ∀ i < num, i % 2 = 1 → TargetMember payload (toks i) (toks (i + 1))) {a p : ℕ}
    (haddr : lastKey payload toks num addrKey = some a)
    (hpath : lastKey payload toks num pathKey = some p) (s : Vars) :
    (walk P payload toks num num 1 s).2 = { s with
      targetRemote :=
        (makeSockEp P s.targetRemote fun k => payload ((toks (a + 1)).start.toNat + k)).2
      targetPath := copiedPath s.targetPath payload (toks (p + 1)) } := by
  obtain ⟨ha, haodd, hakey⟩ := lastKey_some haddr
  obtain ⟨hp, hpodd, hpkey⟩ := lastKey_some hpath
  have hne : a ≠ p := by
    rintro rfl
    exact absurd (jsoneq_inj hakey hpkey) (by decide)
  obtain ⟨n, rfl⟩ := Nat.exists_eq_add_of_le' (show 2 ≤ num by omega)
  have hfirst := hmembers 1 (by omega) rfl
  have hsecond := hmembers 3 (by omega) rfl
  rw [walk_next s (by omega) hfirst, walk_next _ (by omega) hsecond, walk_end _ hnum]
  rcases (show a = 1 ∧ p = 3 ∨ a = 3 ∧ p = 1 by omega) with ⟨rfl, rfl⟩ | ⟨rfl, rfl⟩
  · rw [walkStep_addr s hakey hfirst.2, walkStep_path _ hpkey hsecond.2]
  · rw [walkStep_path s hpkey hfirst.2, walkStep_addr _ hakey hsecond.2]

/-- A request that is turned down at its first member has stored nothing. -/
lemma walk_refused (hnum : num ≤ 5)
    (hwhole : 3 < num → TargetMember payload (toks 1) (toks 2) →
      TargetMember payload (toks 3) (toks 4)) {s : Vars}
    (h : (walk P payload toks num num 1 s).1 = .badRequest) :
    (walk P payload toks num num 1 s).2 = s := by
  rcases Nat.lt_or_ge 1 num with hone | hone
  · obtain ⟨n, rfl⟩ := Nat.exists_eq_add_of_le' (show 2 ≤ num by omega)
    by_cases hfirst : TargetMember payload (toks 1) (toks 2)
    · rcases Nat.lt_or_ge 3 (n + 2) with hthree | hthree
      · rw [walk_next s (by omega) hfirst, walk_next _ (by omega) (hwhole hthree hfirst),
          walk_end _ hnum] at h
        cases h
      · rw [walk_next s (by omega) hfirst, walk_end _ hthree] at h
        cases h
    · rw [walk_stop s (by omega) hfirst]
  · rw [walk_end s hone]

end Walk

lemma setTarget_walked {pdu : TargetPdu} {tokens : List JsmnTok} (hpost : pdu.method = .post)
    (h : Walked P pdu tokens) (s : Vars) :
    setTarget P pdu s =
      let after := walk P pdu.payload (pdu.toks tokens) tokens.length tokens.length 1 s
      (some ⟨after.1, []⟩, after.2) := by
  have hobject : ¬ (tokens.length < 1 ∨ (pdu.toks tokens 0).type ≠ .object) := by
    rintro (hnum | htype)
    · exact absurd h.object.1 (Nat.not_lt.mpr (Nat.le_of_lt_succ hnum))
    · exact htype h.object.2
  unfold setTarget setTargetFromPayload
  rw [hpost, h.parsed]
  dsimp only
  rw [if_neg (not_not.mpr h.json), if_neg hobject]

/-- A request that does not get as far is turned down. -/
lemma setTarget_of_not_walked {pdu : TargetPdu}
    (h : pdu.method = .post → ∀ tokens, ¬ Walked P pdu tokens) (s : Vars) :
    (setTarget P pdu s).2 = s ∧ ¬ Answers P pdu s .valid := by
  have hbad : setTarget P pdu s = (some ⟨.badRequest, []⟩, s) →
      (setTarget P pdu s).2 = s ∧ ¬ Answers P pdu s .valid := by
    intro hset
    unfold Answers
    rw [hset]
    exact ⟨rfl, by simp⟩
  cases hmethod : pdu.method with
  | post =>
    apply hbad
    by_cases hjson : pdu.contentType = COAP_FORMAT_JSON
    · cases hparsed : P.jsmnParse (slice pdu.payload 0 pdu.payloadLen) with
      | none =>
        unfold setTarget setTargetFromPayload
        rw [hmethod, hparsed]
        exact if_neg (not_not.mpr hjson)
      | some tokens =>
        have hobject : tokens.length < 1 ∨ (pdu.toks tokens 0).type ≠ .object := by
          by_contra hno
          obtain ⟨hnum, htype⟩ := not_or.mp hno
          exact h hmethod tokens ⟨hjson, hparsed, by omega, not_not.mp htype⟩
        unfold setTarget setTargetFromPayload
        rw [hmethod, hparsed]
        dsimp only
        rw [if_neg (not_not.mpr hjson), if_pos hobject]
    · unfold setTarget
      rw [hmethod]
      exact if_pos hjson
  | _ =>
    unfold Answers setTarget
    rw [hmethod]
    exact ⟨rfl, by simp⟩

lemma postedValue_some {pdu : TargetPdu} {tokens : List JsmnTok} {key : List UInt8}
    {value : JsmnTok} (hparsed : P.jsmnParse (slice pdu.payload 0 pdu.payloadLen) = some tokens)
    (h : postedValue P pdu key = some value) :
    ∃ k, lastKey pdu.payload (pdu.toks tokens) tokens.length key = some k ∧
      pdu.toks tokens (k + 1) = value := by
  unfold postedValue at h
  rw [hparsed] at h
  obtain ⟨k, hk, hvalue⟩ := Option.bind_eq_some_iff.mp h
  refine ⟨k, hk, ?_⟩
  unfold TargetPdu.toks
  rw [hvalue]
  rfl

lemma setTarget_both (hP : P.Documented) {s : Vars} {pdu : TargetPdu} {tokens : List JsmnTok}
    (hpost : pdu.method = .post) (hw : Walked P pdu tokens) (h : Storable P s pdu)
    (hvalid : Answers P pdu s .valid) (hkeys : HasBothKeys P pdu) :
    ∃ path addr, postedValue P pdu pathKey = some path ∧ PathEnds pdu.payload path s ∧
      postedValue P pdu addrKey = some addr ∧ AddrEnds P pdu.payload addr ∧
      (setTarget P pdu s).2 = { s with
        targetRemote :=
          (makeSockEp P s.targetRemote fun k => pdu.payload (addr.start.toNat + k)).2
        targetPath := copiedPath s.targetPath pdu.payload path } := by
  have hset := setTarget_walked hpost hw s
  have hmembers : Pairs pdu.payload (pdu.toks tokens) tokens.length := by
    unfold Answers at hvalid
    rw [hset] at hvalid
    have hcode := Option.some.inj hvalid
    rw [walk_valid_iff P _ _ (by omega) rfl] at hcode
    exact ⟨hw.object, fun i hi hodd => hcode i (by omega) hi hodd⟩
  obtain ⟨path, hpath, hpathEnds⟩ := h.path tokens hw hmembers hkeys
  obtain ⟨addr, haddr, haddrEnds⟩ := h.addr tokens hw hmembers hkeys
  obtain ⟨p, hp, rfl⟩ := postedValue_some hw.parsed hpath
  obtain ⟨a, ha, rfl⟩ := postedValue_some hw.parsed haddr
  refine ⟨_, _, hpath, hpathEnds, haddr, haddrEnds, ?_⟩
  rw [hset]
  exact walk_both (hP.atMost _ _ hw.parsed) hmembers.members ha hp s

lemma remembers_of_storable (hP : P.Documented) {s : Vars} {pdu : TargetPdu}
    (h : Storable P s pdu) : Remembers P s pdu := by
  by_cases hwalked : pdu.method = .post ∧ ∃ tokens, Walked P pdu tokens
  · obtain ⟨hpost, tokens, hw⟩ := hwalked
    constructor
    · intro hvalid hkeys
      obtain ⟨path, addr, hpath, ⟨hfits, hends⟩, -, -, hafter⟩ :=
        setTarget_both hP hpost hw h hvalid hkeys
      refine ⟨valueText pdu.payload path, by rw [postedPath, hpath]; rfl, hfits, ?_⟩
      rw [hafter]
      exact slice_copiedPath s.targetPath pdu.payload path hends
    · intro hvalid hkeys
      obtain ⟨path, addr, -, -, haddr, hends, hafter⟩ :=
        setTarget_both hP hpost hw h hvalid hkeys
      rw [hafter, postedRemote, haddr]
      exact makeSockEp_addr hP hends s.targetRemote
    · intro hbad
      unfold Answers at hbad
      rw [setTarget_walked hpost hw s] at hbad ⊢
      have hkept :=
        walk_refused (hP.atMost _ _ hw.parsed) (h.whole tokens hw) (Option.some.inj hbad)
      dsimp only
      rw [hkept]
      exact ⟨rfl, rfl⟩
  · obtain ⟨hkept, hno⟩ := setTarget_of_not_walked
      (fun hpost tokens hw => hwalked ⟨hpost, tokens, hw⟩) s
    refine ⟨fun hvalid => absurd hvalid hno, fun hvalid => absurd hvalid hno, fun _ => ?_⟩
    rw [hkept]
    exact ⟨rfl, rfl⟩

/-- Along a run of POSTs each of which can be stored, the target is the last one accepted. -/
theorem remembers_of_allStorable (hP : P.Documented) (pdus : List TargetPdu)
    (h : (posts P).Meets (Storable P) .init pdus) : (posts P).Meets (Remembers P) .init pdus :=
  h.of_invariant (I := fun _ => True) (fun _ _ _ _ _ _ => trivial)
    (fun _ _ _ => remembers_of_storable hP) trivial

def loopbackText : List UInt8 := ascii ['[', ':', ':', '1', ']']

def loopbackMembers (path : List UInt8) : List Member := targetMembers loopbackText path

/-- The packages on the documents with one address and these paths. -/
def loopbackPackages (paths : List (List UInt8)) : Packages where
  jsmnParse text :=
    (paths.find? fun path => objectText (loopbackMembers path) = text).map fun path =>
      objectToks (loopbackMembers path)
  sockUdpStr2ep _ str :=
    if slice str 0 5 = loopbackText then
      (true, ⟨.inet6, (Vector.replicate 16 0).set 15 1, SOCK_ADDR_ANY_NETIF, 0⟩)
    else (false, ⟨.unspec, Vector.replicate 16 0, SOCK_ADDR_ANY_NETIF, 0⟩)

def postLoopback (path : List UInt8) : TargetPdu :=
  postDocument (objectText (loopbackMembers path))

def displayPath : List UInt8 := ascii ['/', 'd', 'i', 's', 'p', 'l', 'a', 'y']

lemma loopbackPackages_documented (paths : List (List UInt8)) :
    (loopbackPackages paths).Documented := by
  constructor
  · intro text tokens h
    obtain ⟨path, -, rfl⟩ := Option.map_eq_some_iff.mp h
    rfl
  · intro ep ep' str _
    rfl

/-- The longer path is posted before the shorter one, whose end it then gives. -/
theorem longerPath_left : ¬ ∀ (P : Packages) (pdus : List TargetPdu),
    P.Documented → (posts P).Meets (Remembers P) .init pdus := by
  intro h
  have hrun := h (loopbackPackages [displayPath, shortPath])
    [postLoopback displayPath, postLoopback shortPath] (loopbackPackages_documented _)
  obtain ⟨path, hpath, -, hholds⟩ := ((hrun.2 _ rfl).1).path rfl ⟨_, rfl, rfl, rfl⟩
  obtain rfl : shortPath = path := Option.some.inj hpath
  exact absurd hholds (by decide +kernel)

/-- One document is stored if its last member, its path and its address can be. -/
lemma storable_of_parsed {s : Vars} {pdu : TargetPdu} {tokens : List JsmnTok} {path addr : JsmnTok}
    (hparsed : P.jsmnParse (slice pdu.payload 0 pdu.payloadLen) = some tokens)
    (hsecond : TargetMember pdu.payload (pdu.toks tokens 3) (pdu.toks tokens 4))
    (hpath : postedValue P pdu pathKey = some path) (hpathEnds : PathEnds pdu.payload path s)
    (haddr : postedValue P pdu addrKey = some addr) (haddrEnds : AddrEnds P pdu.payload addr) :
    Storable P s pdu := by
  constructor
  · intro tokens' hw _ _
    obtain rfl := Option.some.inj (hparsed.symm.trans hw.parsed)
    exact hsecond
  · intro _ _ _ _
    exact ⟨path, hpath, hpathEnds⟩
  · intro _ _ _ _
    exact ⟨addr, haddr, haddrEnds⟩

/-- The shorter path is posted before the longer one. -/
theorem shorterPath_replaced :
    (posts (loopbackPackages [shortPath, displayPath])).Meets
      (Remembers (loopbackPackages [shortPath, displayPath])) .init
      [postLoopback shortPath, postLoopback displayPath] := by
  refine remembers_of_allStorable (loopbackPackages_documented _) _ ⟨?_, fun s hs => ⟨?_, ?_⟩⟩
  · apply storable_of_parsed rfl ⟨.inr rfl, rfl⟩ rfl ⟨by decide +kernel, by decide +kernel⟩ rfl
    exact ⟨by decide +kernel, fun _ => rfl⟩
  · obtain rfl := Option.some.inj hs
    apply storable_of_parsed rfl ⟨.inr rfl, rfl⟩ rfl ⟨by decide +kernel, by decide +kernel⟩ rfl
    exact ⟨by decide +kernel, fun _ => rfl⟩
  · intro _ _
    trivial

end Button

end RiotPlayground
