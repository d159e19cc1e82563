import Mathlib.Data.List.TakeWhile
import RiotPlayground.Luke.TargetUpdate

/-!
# A target that is read and posted again
-/

namespace RiotPlayground

open Buffer FlatJson

namespace Luke

/-- The packages on what the node has: `jsmn` reports the object and then its strings. -/
def Packages.Tokenises (P : Packages) (ms : List Member) : Prop :=
  P.jsmnParse (objectText ms) = some (objectToks ms)

/-- The text of the address fits `addr_str`, the port is that of the endpoint, and the parser reads
both back. -/
structure Packages.Undoes (P : Packages) (ep : SockUdpEp) : Prop where
  fits : (P.sockUdpEpFmt ep).1.length < 48
  noNul : ∀ b ∈ (P.sockUdpEpFmt ep).1, b ≠ 0
  port : (P.sockUdpEpFmt ep).2 = ep.port
  parses : ∀ e, (P.sockUdpStr2ep e (hostPort (P.sockUdpEpFmt ep).1 ep.port)).1 = true ∧
    (P.sockUdpStr2ep e (hostPort (P.sockUdpEpFmt ep).1 ep.port)).2.addr = ep.addr ∧
    (P.sockUdpStr2ep e (hostPort (P.sockUdpEpFmt ep).1 ep.port)).2.port = ep.port

/-- The request posts the document as JSON. -/
def TargetPdu.Posts (pdu : TargetPdu) (doc : List UInt8) : Prop :=
  pdu.method = .post ∧ pdu.contentType = COAP_FORMAT_JSON ∧ pdu.payloadLen = doc.length ∧
    slice pdu.payload 0 doc.length = doc

/-- The document of the target. -/
def documentMembers (P : Packages) (s : Common) : List Member :=
  targetMembers (hostPort (P.sockUdpEpFmt s.targetRemote).1 (P.sockUdpEpFmt s.targetRemote).2)
    s.pathString

variable {P : Packages}

lemma targetDocument_eq (s : Common) : targetDocument P s = objectText (documentMembers P s) := by
  simp [targetDocument, documentMembers, targetMembers, objectText, membersText, memberText, ascii]

section Tok

variable {memory : ℕ → UInt8} {span : Span} {string : List UInt8}

lemma stringTok_start (hlt : span.stop < UInt32.size) (h : Reads memory span string) :
    (stringTok span).start.toNat = span.start := by
  have hstart : span.start < UInt32.size := Nat.lt_of_le_of_lt (h.1 ▸ Nat.le_add_right _ _) hlt
  exact UInt32.toNat_ofNat_of_lt hstart

lemma stringTok_stop (hlt : span.stop < UInt32.size) : (stringTok span).stop.toNat = span.stop :=
  UInt32.toNat_ofNat_of_lt hlt

lemma stringTok_len (hlt : span.stop < UInt32.size) (h : Reads memory span string) :
    (stringTok span).len = string.length := by
  have hstop := stringTok_stop hlt
  have hstart := stringTok_start hlt h
  have hle : (stringTok span).start ≤ (stringTok span).stop := by
    rw [UInt32.le_iff_toNat_le, hstart, hstop, h.1]
    exact Nat.le_add_right _ _
  unfold JsmnTok.len
  rw [UInt32.toNat_sub_of_le _ _ hle, hstart, hstop, h.1, Nat.add_sub_cancel_left]

/-- A token compares as its string. -/
lemma jsoneq_stringTok (hlt : span.stop < UInt32.size) (h : Reads memory span string)
    (s : List UInt8) : jsoneq memory (stringTok span) s = decide (string = s) := by
  unfold jsoneq
  rw [stringTok_len hlt h, stringTok_start hlt h, h.2]
  by_cases hs : string = s
  · rw [hs]
    simp [stringTok]
  · simp [hs]

end Tok

section Walk

variable {memory : ℕ → UInt8} {addr path : List UInt8} {n : ℕ}

lemma membersSpans_target : membersSpans 1 (targetMembers addr path) =
    [⟨2, 6⟩, ⟨9, 9 + addr.length⟩, ⟨addr.length + 12, addr.length + 16⟩,
      ⟨addr.length + 19, addr.length + 19 + path.length⟩] := by
  simp only [targetMembers, membersSpans, length_memberText, ascii, List.map_cons, List.map_nil,
    List.length_cons, List.length_nil]
  refine congrArg₂ _ rfl (congrArg₂ _ rfl (congrArg₂ _ ?_ (congrArg₂ _ ?_ rfl)))
  · congr 1 <;> omega
  · congr 1 <;> omega

lemma reads_target (h : slice memory 0 n = objectText (targetMembers addr path)) :
    Reads memory ⟨2, 6⟩ (ascii ['a', 'd', 'd', 'r']) ∧
    Reads memory ⟨9, 9 + addr.length⟩ addr ∧
    Reads memory ⟨addr.length + 12, addr.length + 16⟩ (ascii ['p', 'a', 't', 'h']) ∧
    Reads memory ⟨addr.length + 19, addr.length + 19 + path.length⟩ path := by
  have hmembers : slice memory 1 _ = membersText (targetMembers addr path) ++ [125] :=
    slice_of_cons h
  have hreads := reads_members hmembers
  rw [membersSpans_target] at hreads
  cases hreads with
  | cons hkey hreads =>
    cases hreads with
    | cons hvalue hreads =>
      cases hreads with
      | cons hkey' hreads =>
        cases hreads with
        | cons hvalue' _ => exact ⟨hkey, hvalue, hkey', hvalue'⟩

lemma walk_two {toks : ℕ → JsmnTok} {w w₁ w₂ : Walk}
    (h₁ : walkStep (toks 1) (toks 2) w = some w₁) (h₂ : walkStep (toks 3) (toks 4) w₁ = some w₂) :
    walk toks 5 5 1 w = some w₂ := by
  have hrest : walk toks 5 4 3 w₁ = some w₂ := by
    unfold walk
    rw [if_pos (by decide), h₂]
    rfl
  unfold walk
  rw [if_pos (by decide), h₁]
  exact hrest

/-- The walk ends with both members found and a NUL behind the address. -/
lemma walk_target (stack : ℕ → JsmnTok) (hsize : addr.length + 19 + path.length < UInt32.size)
    (h : slice memory 0 n = objectText (targetMembers addr path)) :
    walk (fun i => (objectToks (targetMembers addr path))[i]?.getD (stack i)) 5 5 1
      ⟨memory, none, 0, none, 0⟩ = some ⟨Function.update memory (9 + addr.length) 0, some 9,
        addr.length, some (addr.length + 19), path.length⟩ := by
  obtain ⟨hkey, hvalue, hkey', hvalue'⟩ := reads_target h
  have hsize₂ : 9 + addr.length < UInt32.size := by omega
  have hsize₃ : addr.length + 16 < UInt32.size := by omega
  have haddr : walkStep (stringTok ⟨2, 6⟩) (stringTok ⟨9, 9 + addr.length⟩)
      ⟨memory, none, 0, none, 0⟩ = some ⟨Function.update memory (9 + addr.length) 0, some 9,
        addr.length, none, 0⟩ := by
    unfold walkStep
    rw [jsoneq_stringTok (by decide) hkey, stringTok_stop hsize₂, stringTok_start hsize₂ hvalue,
      stringTok_len hsize₂ hvalue]
    rfl
  have hpath : walkStep (stringTok ⟨addr.length + 12, addr.length + 16⟩)
      (stringTok ⟨addr.length + 19, addr.length + 19 + path.length⟩)
      ⟨Function.update memory (9 + addr.length) 0, some 9, addr.length, none, 0⟩ =
        some ⟨Function.update memory (9 + addr.length) 0, some 9, addr.length,
          some (addr.length + 19), path.length⟩ := by
    have hkey'' : Reads (Function.update memory (9 + addr.length) 0) _ _ :=
      hkey'.update_before 0 (by dsimp only; omega)
    unfold walkStep
    rw [jsoneq_stringTok hsize₃ hkey'', jsoneq_stringTok hsize₃ hkey'',
      stringTok_start hsize hvalue', stringTok_len hsize hvalue']
    rfl
  unfold objectToks
  rw [membersSpans_target]
  exact walk_two haddr hpath

end Walk

lemma takeWhile_zeros {chars : List UInt8} (h : ∀ b ∈ chars, b ≠ 0) (k : ℕ) :
    (chars ++ List.replicate k 0).takeWhile (· ≠ 0) = chars := by
  rw [List.takeWhile_append_of_pos fun b hb => decide_eq_true (h b hb)]
  cases k with
  | zero => exact List.append_nil chars
  | succ k =>
    rw [List.replicate_succ, List.takeWhile_cons_of_neg (by decide)]
    exact List.append_nil chars

lemma takeWhile_of_ne {chars : List UInt8} (h : ∀ b ∈ chars, b ≠ 0) :
    chars.takeWhile (· ≠ 0) = chars :=
  List.takeWhile_eq_self_iff.mpr fun b hb => decide_eq_true (h b hb)

lemma ne_zero_of_pathString (s : Common) : ∀ b ∈ s.pathString, b ≠ 0 := by
  intro b hb
  unfold Common.pathString at hb
  simpa using List.mem_takeWhile_imp hb

lemma ascii_ne_zero {cs : List Char} (h : ∀ c ∈ cs, c.isDigit = true) : ∀ b ∈ ascii cs, b ≠ 0 := by
  intro b hb
  obtain ⟨c, hc, rfl⟩ := List.mem_map.mp hb
  have hdigit : '0'.toNat ≤ c.toNat ∧ c.toNat ≤ '9'.toNat := by
    have := h c hc
    simpa [Char.isDigit, Char.le_def, UInt32.le_iff_toNat_le] using this
  have hlow : 48 ≤ c.toNat := hdigit.1
  have hhigh : c.toNat ≤ 57 := hdigit.2
  intro hzero
  have hnat := congrArg UInt8.toNat hzero
  rw [UInt8.toNat_ofNat', UInt8.toNat_zero] at hnat
  omega

lemma hostPort_ne_zero {addr : List UInt8} (h : ∀ b ∈ addr, b ≠ 0) (port : UInt16) :
    ∀ b ∈ hostPort addr port, b ≠ 0 := by
  have hdigits : ∀ b ∈ ascii (Nat.toDigits 10 port.toNat), b ≠ 0 := ascii_ne_zero fun c hc =>
    Nat.isDigit_of_mem_toDigits (by omega) (by omega) hc
  intro b hb
  simp only [hostPort, List.cons_append, List.mem_cons, List.mem_append] at hb
  rcases hb with rfl | hb | rfl | rfl | hb
  · decide
  · exact h b hb
  · decide
  · decide
  · exact hdigits b hb

lemma length_hostPort (addr : List UInt8) (port : UInt16) :
    3 ≤ (hostPort addr port).length ∧ (hostPort addr port).length ≤ addr.length + 8 := by
  have hfit := Nat.length_toDigits_le_iff (b := 10) (n := port.toNat) (k := 5) (by omega) (by omega)
  have hlt := port.toNat_lt
  have hdigits := hfit.mpr (by omega)
  simp only [hostPort, ascii, List.cons_append, List.length_cons, List.length_append,
    List.length_map]
  omega

/-- What `strncpy` leaves of a cleared path. -/
lemma slice_strncpy {dst memory : ℕ → UInt8} {pos len : ℕ} (hlen : len ≤ LUKE_TARGET_PATH_LEN) :
    slice (strncpy (poke dst 0 (List.replicate LUKE_TARGET_PATH_LEN 0)) memory pos len) 0
      LUKE_TARGET_PATH_LEN = (slice memory pos len).takeWhile (· ≠ 0) ++
        List.replicate
          (LUKE_TARGET_PATH_LEN - ((slice memory pos len).takeWhile (· ≠ 0)).length) 0 := by
  have hle : ((slice memory pos len).takeWhile (· ≠ 0)).length ≤ len :=
    (List.takeWhile_prefix _).length_le.trans (length_slice ..).le
  unfold strncpy
  dsimp only
  generalize (slice memory pos len).takeWhile (· ≠ 0) = chars at hle ⊢
  obtain ⟨k, hk⟩ : ∃ k, LUKE_TARGET_PATH_LEN = len + k := ⟨_, (Nat.add_sub_cancel' hlen).symm⟩
  have hfill : LUKE_TARGET_PATH_LEN - chars.length = (len - chars.length) + k := by omega
  have hcopied : (chars ++ List.replicate (len - chars.length) (0 : UInt8)).length = len := by
    rw [List.length_append, List.length_replicate]
    omega
  have hfront := slice_poke_self (poke dst 0 (List.replicate LUKE_TARGET_PATH_LEN 0)) 0
    (chars ++ List.replicate (len - chars.length) 0)
  have hzeros := slice_poke_right dst 0 (List.replicate len 0) (List.replicate k 0)
  rw [hcopied] at hfront
  rw [List.length_replicate, List.length_replicate] at hzeros
  rw [hfill, hk, slice_add, ← hk, hfront, slice_poke_after (by omega), hk, List.replicate_add,
    hzeros, List.replicate_add, List.append_assoc]

/-- What `strncpy` leaves of a cleared path, read as a string. -/
lemma pathString_copied {dst memory : ℕ → UInt8} {pos len : ℕ} {s : Common}
    (hs : s.targetPath = strncpy (poke dst 0 (List.replicate LUKE_TARGET_PATH_LEN 0)) memory pos
      len) (hlen : len ≤ LUKE_TARGET_PATH_LEN) :
    s.pathString = (slice memory pos len).takeWhile (· ≠ 0) := by
  unfold Common.pathString
  rw [hs, slice_strncpy hlen, takeWhile_zeros]
  intro b hb
  simpa using List.mem_takeWhile_imp hb

/-- A short string that is copied into the cleared path is the path. -/
lemma pathString_strncpy {dst memory : ℕ → UInt8} {chars : List UInt8} {pos : ℕ} {s : Common}
    (hs : s.targetPath = strncpy (poke dst 0 (List.replicate LUKE_TARGET_PATH_LEN 0)) memory pos
      chars.length)
    (hread : slice memory pos chars.length = chars) (hne : ∀ b ∈ chars, b ≠ 0)
    (hlen : chars.length < LUKE_TARGET_PATH_LEN) : s.pathString = chars := by
  rw [pathString_copied hs (Nat.le_of_lt hlen), hread, takeWhile_of_ne hne]

/-- The same address, port and path. -/
def SameDestination (s t : Common) : Prop :=
  t.targetRemote.addr = s.targetRemote.addr ∧ t.targetRemote.port = s.targetRemote.port ∧
    t.pathString = s.pathString

lemma makeSockEp_undoes {ep e : SockUdpEp} (h : P.Undoes ep) (hport : ep.port ≠ 0) :
    (makeSockEp P e (hostPort (P.sockUdpEpFmt ep).1 ep.port)).1 = true ∧
    (makeSockEp P e (hostPort (P.sockUdpEpFmt ep).1 ep.port)).2.addr = ep.addr ∧
    (makeSockEp P e (hostPort (P.sockUdpEpFmt ep).1 ep.port)).2.port = ep.port := by
  obtain ⟨hparsed, haddr, hsame⟩ := h.parses { e with port := 0 }
  unfold makeSockEp
  dsimp only
  rw [if_pos hparsed]
  dsimp only
  rw [hsame, if_neg hport]
  exact ⟨rfl, haddr, rfl⟩

/-- What the walk over a document has found. -/
def foundTarget (payload : ℕ → UInt8) (addr path : List UInt8) : Walk :=
  ⟨Function.update payload (9 + addr.length) 0, some 9, addr.length, some (addr.length + 19),
    path.length⟩

lemma findTarget_members {pdu : TargetPdu} {addr path : List UInt8}
    (hsize : addr.length + 19 + path.length < UInt32.size)
    (hlen : pdu.payloadLen = (objectText (targetMembers addr path)).length)
    (hpayload : slice pdu.payload 0 (objectText (targetMembers addr path)).length =
      objectText (targetMembers addr path))
    (htokenises : P.Tokenises (targetMembers addr path)) :
    findTarget P pdu = some (foundTarget pdu.payload addr path) := by
  have hcount : (objectToks (targetMembers addr path)).length = 5 := by
    unfold objectToks
    rw [membersSpans_target]
    rfl
  unfold Packages.Tokenises at htokenises
  unfold findTarget
  rw [hlen, hpayload, htokenises]
  dsimp only
  rw [if_neg (by simp [objectToks]), hcount]
  exact walk_target pdu.stack hsize hpayload

/-- The address and the path that were found are those of the document. -/
lemma storeTarget_members {payload : ℕ → UInt8} {addr path : List UInt8} {t : Common}
    (hpayload : slice payload 0 (objectText (targetMembers addr path)).length =
      objectText (targetMembers addr path))
    (hnonempty : 3 ≤ addr.length) (hnonzero : ∀ b ∈ addr, b ≠ 0)
    (hmade : (makeSockEp P t.targetRemote addr).1 = true) :
    storeTarget P (foundTarget payload addr path) t =
      (.valid, { t with
        targetRemote := (makeSockEp P t.targetRemote addr).2
        targetPath := strncpy (poke t.targetPath 0 (List.replicate LUKE_TARGET_PATH_LEN 0))
          (Function.update payload (9 + addr.length) 0) (addr.length + 19) path.length }) := by
  obtain ⟨-, hvalue, -, -⟩ := reads_target hpayload
  have hremote : slice (Function.update payload (9 + addr.length) 0) 9 addr.length = addr := by
    rw [slice_congr fun i _ hi => Function.update_of_ne (Nat.ne_of_lt hi) 0 payload]
    exact hvalue.2
  unfold storeTarget foundTarget
  dsimp only
  rw [hremote, takeWhile_of_ne hnonzero, hmade, if_neg (by simp), if_neg (by omega)]

/-- The NUL behind the address leaves the path as it is. -/
lemma slice_foundTarget {payload : ℕ → UInt8} {addr path : List UInt8}
    (hpayload : slice payload 0 (objectText (targetMembers addr path)).length =
      objectText (targetMembers addr path)) :
    slice (Function.update payload (9 + addr.length) 0) (addr.length + 19) path.length = path := by
  obtain ⟨-, -, -, hvalue⟩ := reads_target hpayload
  exact (hvalue.update_before (i := 9 + addr.length) 0 (by dsimp only; omega)).2

/-- The document a node returns for its target, posted to any node in any state, is accepted and
sets the same target there. -/
theorem target_roundTrip {s t : Common} {get pdu : TargetPdu} {doc : List UInt8}
    (hget : get.method = .get) (hdoc : (lukeSetTarget P get s).1 = some ⟨.content, doc⟩)
    (hposts : pdu.Posts doc) (hport : s.targetRemote.port ≠ 0)
    (hpath : s.pathString.length < LUKE_TARGET_PATH_LEN) (hundoes : P.Undoes s.targetRemote)
    (htokenises : P.Tokenises (documentMembers P s)) :
    (lukeSetTarget P pdu t).1 = some ⟨.valid, []⟩ ∧
      SameDestination s (lukeSetTarget P pdu t).2 := by
  obtain ⟨hpost, htype, hlen, hpayload⟩ := hposts
  obtain rfl : objectText (documentMembers P s) = doc := by
    unfold lukeSetTarget at hdoc
    rw [hget] at hdoc
    rw [← targetDocument_eq]
    exact congrArg TargetResponse.payload (Option.some.inj hdoc)
  have hmembers : documentMembers P s =
      targetMembers (hostPort (P.sockUdpEpFmt s.targetRemote).1 s.targetRemote.port)
        s.pathString := by
    unfold documentMembers
    rw [hundoes.port]
  rw [hmembers] at hlen hpayload htokenises
  obtain ⟨hnonempty, hshort⟩ :=
    length_hostPort (P.sockUdpEpFmt s.targetRemote).1 s.targetRemote.port
  have hnonzero := hostPort_ne_zero hundoes.noNul s.targetRemote.port
  obtain ⟨hmade, haddr, hsame⟩ := makeSockEp_undoes (e := t.targetRemote) hundoes hport
  have hfits := hundoes.fits
  generalize hostPort (P.sockUdpEpFmt s.targetRemote).1 s.targetRemote.port = addr at *
  have hsize : addr.length + 19 + s.pathString.length < 4294967296 := by
    unfold LUKE_TARGET_PATH_LEN at hpath
    omega
  have hfind := findTarget_members hsize hlen hpayload htokenises
  have hstored := storeTarget_members (t := t) hpayload hnonempty hnonzero hmade
  unfold lukeSetTarget
  rw [hpost]
  dsimp only
  rw [if_pos htype]
  unfold setTargetFromPayload
  rw [hfind]
  dsimp only
  rw [hstored]
  exact ⟨rfl, haddr, hsame,
    pathString_strncpy rfl (slice_foundTarget hpayload) (ne_zero_of_pathString s) hpath⟩

lemma posts_postDocument (doc : List UInt8) : (postDocument doc).Posts doc :=
  ⟨rfl, rfl, rfl, slice_poke_self _ 0 doc⟩

/-- The packages on one endpoint, whose address is written as `text`, and on one path. -/
def endpointPackages (ep : SockUdpEp) (text path : List UInt8) : Packages where
  jsmnParse document :=
    let ms := targetMembers (hostPort text ep.port) path
    if document = objectText ms then some (objectToks ms) else none
  sockUdpStr2ep e address :=
    if address = hostPort text ep.port then (true, { e with addr := ep.addr, port := ep.port })
    else (false, e)
  sockUdpEpFmt e := (text, e.port)

lemma endpointPackages_undoes (ep : SockUdpEp) {text : List UInt8} (path : List UInt8)
    (hfits : text.length < 48) (hnul : ∀ b ∈ text, b ≠ 0) :
    (endpointPackages ep text path).Undoes ep where
  fits := hfits
  noNul := hnul
  port := rfl
  parses e := by
    have hparsed : (endpointPackages ep text path).sockUdpStr2ep e (hostPort text ep.port) =
        (true, { e with addr := ep.addr, port := ep.port }) := if_pos rfl
    change ((endpointPackages ep text path).sockUdpStr2ep e (hostPort text ep.port)).1 = _ ∧
      ((endpointPackages ep text path).sockUdpStr2ep e (hostPort text ep.port)).2.addr = _ ∧
      ((endpointPackages ep text path).sockUdpStr2ep e (hostPort text ep.port)).2.port = _
    rw [hparsed]
    exact ⟨rfl, rfl, rfl⟩

/-- The packages on the target of a node. -/
def targetPackages (s : Common) (text : List UInt8) : Packages :=
  endpointPackages s.targetRemote text s.pathString

lemma targetPackages_tokenises (s : Common) (text : List UInt8) :
    (targetPackages s text).Tokenises (documentMembers (targetPackages s text) s) := if_pos rfl

def getTarget : TargetPdu := ⟨.get, 0, fun _ => 0, 0, fun _ => ⟨.undefined, 0, 0⟩⟩

/-- `/` at 101:101:101:101:101:101:101:101. -/
def storedPackages : Packages :=
  targetPackages storedTarget
    ((List.replicate 7 (ascii ['1', '0', '1', ':'])).flatten ++ ascii ['1', '0', '1'])

def clearedPackages : Packages := targetPackages .init (ascii [':', ':'])

/-- A node without a target takes the target of another, and clears it. -/
theorem target_roundTrip_stored :
    SameDestination storedTarget (lukeSetTarget storedPackages
      (postDocument (targetDocument storedPackages storedTarget)) .init).2 ∧
    SameDestination .init (lukeSetTarget clearedPackages
      (postDocument (targetDocument clearedPackages .init)) storedTarget).2 := by
  have hstored := @target_roundTrip storedPackages storedTarget .init getTarget _ _ rfl rfl
    (posts_postDocument _) (by decide) (by decide)
    (endpointPackages_undoes _ _ (by decide +kernel) (by decide +kernel)) (targetPackages_tokenises _ _)
  have hcleared := @target_roundTrip clearedPackages .init storedTarget getTarget _ _ rfl rfl
    (posts_postDocument _) (by decide) (by decide)
    (endpointPackages_undoes _ _ (by decide +kernel) (by decide +kernel)) (targetPackages_tokenises _ _)
  exact ⟨hstored.2, hcleared.2⟩

end Luke

end RiotPlayground
