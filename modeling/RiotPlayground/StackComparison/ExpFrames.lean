import RiotPlayground.StackComparison.ExpLoops

/-!
# The frames of the experiment fragment the datagram

The fragment offsets are set when a payload size starts and the payload is cut up anew for each
packet. Both agree, whatever was sent before.
-/

namespace RiotPlayground

open Buffer

namespace Exp

def frag1Header (size tag : ℕ) : List UInt8 :=
  [UInt8.ofNat (0xc0 + size / 256), UInt8.ofNat size] ++ htons tag

def fragnHeader (size tag offset : ℕ) : List UInt8 :=
  [UInt8.ofNat (0xe0 + size / 256), UInt8.ofNat size] ++ htons tag ++ [UInt8.ofNat offset]

/-- The bytes of the datagram that its headers count for. -/
def headerSize (c : Config) : ℕ := if c.lwip then iphcLen c else IPUDP_LEN

variable (R : Riot) (c : Config)

/-- The frames from number `i` on are FRAGNs that carry `payload`, after frames that carried
`sent` bytes of the datagram. -/
def FragnFrom (size tag : ℕ) : ℕ → ℕ → List (List UInt8) → List UInt8 → Prop
  | _, _, [], payload => payload = []
  | i, sent, frame :: frames, payload => ∃ offset part rest,
    frame = R.mhr i ++ fragnHeader size tag offset ++ part ∧
    frame.length ≤ IEEE802154_MAX_FRAME_SIZE ∧ offset < 256 ∧ offset * 8 = sent ∧
    payload = part ++ rest ∧ FragnFrom size tag (i + 1) (sent + part.length) frames rest

/-- The frames are the packet in one piece, or a FRAG1 and FRAGNs that carry it. -/
def IsFragmentation (id : ℕ) (payload : List UInt8) : List (List UInt8) → Prop
  | [] => False
  | [frame] => ∃ chksum, chksum.length = 2 ∧
    frame = R.mhr 0 ++ (initIphc c ++ chksum) ++ payload ∧
    frame.length ≤ IEEE802154_MAX_FRAME_SIZE
  | frame :: frames => ∃ size chksum part rest, chksum.length = 2 ∧ size < 2048 ∧
    size = headerSize c + payload.length ∧
    frame = R.mhr 0 ++ frag1Header size id ++ (initIphc c ++ chksum) ++ part ∧
    frame.length ≤ IEEE802154_MAX_FRAME_SIZE ∧ payload = part ++ rest ∧
    FragnFrom R size id 1 (headerSize c + part.length) frames rest

lemma firstOffset_eq :
    firstOffset c = headerSize c + room c 0 (MHR_LEN + FRAG_LEN + iphcLen c) := by
  unfold firstOffset headerSize room
  simp only [shift_three]
  rcases iphcLen_cases c with h | h | h <;> cases c.lwip <;> simp [h]

lemma room_first : room c 0 (MHR_LEN + FRAG_LEN + iphcLen c) =
    if c.lwip then 88 - iphcLen c else 88 := by
  unfold room
  simp only [shift_three]
  rcases iphcLen_cases c with h | h | h <;> cases c.lwip <;> simp [h]

lemma dispSize_frag1 {size : ℕ} (h : size < 2048) (tag : ℕ) :
    dispSize SIXLOWPAN_FRAG_1_DISP size ++ htons tag = frag1Header size tag := by
  have hbits : ∀ k < 8, UInt8.ofNat k &&& ~~~(0xc0 : UInt8) ||| 0xc0 = UInt8.ofNat (0xc0 + k) := by
    decide
  rw [dispSize, frag1Header, hbits _ (by omega)]

lemma dispSize_fragn {size : ℕ} (h : size < 2048) (tag offset : ℕ) :
    dispSize SIXLOWPAN_FRAG_N_DISP size ++ htons tag ++ [UInt8.ofNat offset] =
      fragnHeader size tag offset := by
  have hbits : ∀ k < 8, UInt8.ofNat k &&& ~~~(0xe0 : UInt8) ||| 0xe0 = UInt8.ofNat (0xe0 + k) := by
    decide
  rw [dispSize, fragnHeader, hbits _ (by omega)]

/-- The headers for a packet in one frame. -/
structure Whole (s : State) : Prop where
  size : needsFragments c s = false
  len : s.fragLen 0 = MHR_LEN + iphcLen c
  iphc : slice (s.fragBuf 0) MHR_LEN (iphcLen c - 2) = initIphc c

/-- The headers for a packet in fragments. The tags are still to be set. -/
structure Fragments (s : State) : Prop where
  size : needsFragments c s = true
  len : s.fragLen 0 = MHR_LEN + FRAG_LEN + iphcLen c
  lens : ∀ i, 1 ≤ i → i < MAX_FRAGMENTS → s.fragLen i = MHR_LEN + FRAG_N_LEN
  first : slice (s.fragBuf 0) MHR_LEN 2 = dispSize SIXLOWPAN_FRAG_1_DISP (datagramSize c s)
  iphc : slice (s.fragBuf 0) (MHR_LEN + FRAG_LEN) (iphcLen c - 2) = initIphc c
  later : ∀ i, 1 ≤ i → i < MAX_FRAGMENTS →
    slice (s.fragBuf i) MHR_LEN 2 = dispSize SIXLOWPAN_FRAG_N_DISP (datagramSize c s)
  offset : ∀ i, 1 ≤ i → i < MAX_FRAGMENTS →
    slice (s.fragBuf i) (MHR_LEN + FRAG_LEN) 1 =
      [UInt8.ofNat ((firstOffset c + 96 * (i - 1)) >>> 3)]

structure Ready (s : State) : Prop where
  size_le : s.payloadSize ≤ EXP_MAX_PAYLOAD
  frag : s.frag = 0
  mhr : ∀ i, i < MAX_FRAGMENTS → slice (s.fragBuf i) 0 MHR_LEN = R.mhr i
  whole : s.fragmented = some false → Whole c s
  fragments : s.fragmented = some true → Fragments c s

variable {R c}

lemma ready_init (hmhr : ∀ i, (R.mhr i).length = MHR_LEN) : Ready R c (init R c) := by
  refine ⟨Nat.zero_le _, rfl, fun i hi => ?_, fun h => ?_, fun h => ?_⟩
  · have hself := slice_poke_self (fun _ => (0 : UInt8)) 0 (R.mhr i)
    rw [hmhr] at hself
    rw [init, prepareMhrs]
    dsimp only
    rw [if_pos hi, hself]
  · cases h
  · cases h

lemma ready_prepare_whole {s : State} (hn : needsFragments c s = false)
    (hsize : s.payloadSize ≤ EXP_MAX_PAYLOAD) (hfrag : s.frag = 0)
    (hmhr : ∀ i, i < MAX_FRAGMENTS → slice (s.fragBuf i) 0 MHR_LEN = R.mhr i) :
    Ready R c (prepareSixlowpan c s) := by
  rw [prepareSixlowpan, hn, if_neg Bool.false_ne_true]
  refine ⟨hsize, hfrag, fun i hi => ?_, fun _ => ⟨hn, setFrag_fragLen_self .., ?_⟩,
    fun h => by cases h⟩
  · by_cases h0 : i = 0
    · subst h0
      rw [setFrag_fragBuf_self, slice_poke_before (by decide), hmhr 0 hi]
    · rw [setFrag_fragBuf_ne _ _ _ h0]
      exact hmhr i hi
  · rw [setFrag_fragBuf_self, ← length_initIphc, slice_poke_self]

lemma slice_initFragn (buf : ℕ → UInt8) (size tag offset : ℕ) :
    slice (initFragn buf size tag offset) 0 MHR_LEN = slice buf 0 MHR_LEN ∧
    slice (initFragn buf size tag offset) MHR_LEN 2 = dispSize SIXLOWPAN_FRAG_N_DISP size ∧
    slice (initFragn buf size tag offset) (MHR_LEN + FRAG_LEN) 1 =
      [UInt8.ofNat (offset >>> 3)] := by
  refine ⟨slice_poke_before (by decide), ?_, ?_⟩
  · rw [initFragn, List.append_assoc]
    exact slice_poke_left ..
  · exact slice_poke_right buf MHR_LEN (dispSize SIXLOWPAN_FRAG_N_DISP size ++ htons tag) _

lemma prepareSixlowpan_fragments {s : State} (hn : needsFragments c s = true) :
    (prepareSixlowpan c s).payloadSize = s.payloadSize ∧ (prepareSixlowpan c s).frag = s.frag ∧
    (prepareSixlowpan c s).fragmented = some true ∧
    (prepareSixlowpan c s).fragBuf 0 = initFrag1
      (poke (s.fragBuf 0) (MHR_LEN + FRAG_LEN) (initIphc c)) (datagramSize c s) 0 ∧
    (prepareSixlowpan c s).fragLen 0 = MHR_LEN + FRAG_LEN + iphcLen c ∧
    ∀ i, 1 ≤ i → i < MAX_FRAGMENTS → (prepareSixlowpan c s).fragBuf i =
        poke (initFragn (s.fragBuf i) (datagramSize c s) 0 (firstOffset c + 96 * (i - 1)))
          (MHR_LEN + FRAG_N_LEN) (initIphc c) ∧
      (prepareSixlowpan c s).fragLen i = MHR_LEN + FRAG_N_LEN := by
  obtain ⟨buf, hbuf⟩ : ∃ buf, buf = initFrag1 (poke (s.fragBuf 0) (MHR_LEN + FRAG_LEN) (initIphc c))
    (datagramSize c s) 0 := ⟨_, rfl⟩
  obtain ⟨t, ht⟩ : ∃ t, t = { s with fragmented := some true }.setFrag 0 buf
    (MHR_LEN + FRAG_LEN + iphcLen c) := ⟨_, rfl⟩
  have hp : prepareSixlowpan c s = prepareFragn c (MAX_FRAGMENTS - 1) 1 (firstOffset c) t := by
    rw [prepareSixlowpan, if_pos hn, ht, hbuf]
  obtain ⟨hps, hpf, hpg⟩ := prepareFragn_fields c (MAX_FRAGMENTS - 1) 1 (firstOffset c) t
  obtain ⟨hfirst, hlen⟩ :=
    (prepareFragn_spec c (MAX_FRAGMENTS - 1) 1 (firstOffset c) t 0).1 Nat.one_pos
  rw [hp, ← hbuf, hps, hpf, hpg, hfirst, hlen, ht]
  refine ⟨rfl, rfl, rfl, setFrag_fragBuf_self .., setFrag_fragLen_self .., fun i h1 h18 => ?_⟩
  rw [← ht]
  have hi := (prepareFragn_spec c (MAX_FRAGMENTS - 1) 1 (firstOffset c) t i).2 h1 h18
  have htbuf : t.fragBuf i = s.fragBuf i := by rw [ht, setFrag_fragBuf_ne _ _ _ (by omega)]
  have htsize : datagramSize c t = datagramSize c s := by rw [ht]; rfl
  rwa [htbuf, htsize] at hi

lemma ready_prepare_fragments {s : State} (hn : needsFragments c s = true)
    (hsize : s.payloadSize ≤ EXP_MAX_PAYLOAD) (hfrag : s.frag = 0)
    (hmhr : ∀ i, i < MAX_FRAGMENTS → slice (s.fragBuf i) 0 MHR_LEN = R.mhr i) :
    Ready R c (prepareSixlowpan c s) := by
  obtain ⟨hps, hpf, hpg, hbuf, hlen, hlater⟩ := prepareSixlowpan_fragments hn
  have hdata : datagramSize c (prepareSixlowpan c s) = datagramSize c s := by
    rw [datagramSize, datagramSize, hps]
  have hneeds : needsFragments c (prepareSixlowpan c s) = true := by
    rwa [needsFragments, hps]
  refine ⟨hps ▸ hsize, hpf.trans hfrag, fun i hi => ?_, fun h => ?_,
    fun _ => ⟨hneeds, hlen, fun i h1 hi => (hlater i h1 hi).2, ?_, ?_, fun i h1 hi => ?_,
      fun i h1 hi => ?_⟩⟩
  · by_cases h0 : i = 0
    · subst h0
      rw [hbuf, initFrag1, slice_poke_before (by decide), slice_poke_before (by decide), hmhr 0 hi]
    · rw [(hlater i (by omega) hi).1, slice_poke_before (by decide), (slice_initFragn ..).1,
        hmhr i hi]
  · rw [hpg] at h
    cases h
  · rw [hbuf, hdata, initFrag1]
    exact slice_poke_left ..
  · rw [hbuf, initFrag1, slice_poke_after (show MHR_LEN + 4 ≤ MHR_LEN + FRAG_LEN by decide),
      ← length_initIphc, slice_poke_self]
  · rw [(hlater i h1 hi).1, slice_poke_before (by decide), (slice_initFragn ..).2.1, hdata]
  · rw [(hlater i h1 hi).1, slice_poke_before (by decide), (slice_initFragn ..).2.2]

lemma slice_initUdp (length : ℕ) (uncomp : ℕ → UInt8) {n : ℕ} :
    slice (initUdp R c length uncomp) IPUDP_LEN n = slice uncomp IPUDP_LEN n := by
  rw [initUdp, slice_poke_after (by simp [htons]), slice_poke_after (by simp [htons])]

def chksumBytes (R : Riot) (c : Config) (payload : List UInt8) (s : State) : List UInt8 :=
  slice (loadPacket R c payload s).uncomp 46 2

lemma loadPacket_uncomp {payload : List UInt8} {s : State} (h : payload.length = s.payloadSize) :
    slice (loadPacket R c payload s).uncomp IPUDP_LEN s.payloadSize = payload := by
  rw [loadPacket]
  dsimp only
  rw [setFrag_uncomp, slice_initUdp, ← h, slice_poke_self]

/-- Loading a packet changes nothing in the frames but the checksum. -/
lemma loadPacket_frames (payload : List UInt8) (s : State) :
    (loadPacket R c payload s).fragBuf 0 = poke (s.fragBuf 0)
      (s.fragLen 0 - iphcLen c + (iphcLen c - 2)) (chksumBytes R c payload s) ∧
    (∀ i, 1 ≤ i → (loadPacket R c payload s).fragBuf i = s.fragBuf i) ∧
    (loadPacket R c payload s).fragLen = s.fragLen := by
  refine ⟨setFrag_fragBuf_self .., fun i hi => setFrag_fragBuf_ne _ _ _ (by omega), ?_⟩
  exact Function.update_eq_self 0 s.fragLen

lemma loadPacket_fields (payload : List UInt8) (s : State) :
    (loadPacket R c payload s).payloadSize = s.payloadSize ∧
    (loadPacket R c payload s).frag = s.frag ∧
    (loadPacket R c payload s).fragmented = s.fragmented :=
  ⟨rfl, rfl, rfl⟩

lemma head_first {s : State} (h : Fragments c s) (hmhr : slice (s.fragBuf 0) 0 MHR_LEN = R.mhr 0)
    (hsize : datagramSize c s < 2048) (id : ℕ) (payload : List UInt8) :
    slice (setTag ((loadPacket R c payload s).fragBuf 0) id) 0 (MHR_LEN + FRAG_LEN + iphcLen c) =
      R.mhr 0 ++ frag1Header (datagramSize c s) id ++
        (initIphc c ++ chksumBytes R c payload s) := by
  have hiphc := iphcLen_cases c
  have hsplit : MHR_LEN + FRAG_LEN + iphcLen c = MHR_LEN + (2 + (2 + (iphcLen c - 2 + 2))) := by
    simp only [MHR_LEN, FRAG_LEN]
    omega
  obtain ⟨chk, hchk⟩ : ∃ chk, chk = chksumBytes R c payload s := ⟨_, rfl⟩
  obtain ⟨buf, hbuf⟩ : ∃ buf, buf =
    poke (s.fragBuf 0) (MHR_LEN + FRAG_LEN + (iphcLen c - 2)) chk := ⟨_, rfl⟩
  have hlen : chk.length = 2 := hchk ▸ length_slice _ _ _
  have hhead : ∀ {pos n}, pos + n ≤ MHR_LEN + FRAG_LEN + (iphcLen c - 2) →
      slice buf pos n = slice (s.fragBuf 0) pos n := fun hle => hbuf ▸ slice_poke_before hle
  have h₁ : slice (setTag buf id) 0 MHR_LEN = R.mhr 0 := by
    rw [slice_setTag_before _ _ (by decide), hhead (by simp; omega), hmhr]
  have h₂ : slice (setTag buf id) (0 + MHR_LEN) 2 =
      dispSize SIXLOWPAN_FRAG_1_DISP (datagramSize c s) := by
    rw [slice_setTag_before _ _ (by decide), hhead (by simp; omega)]
    exact h.first
  have h₃ : slice (setTag buf id) (0 + MHR_LEN + 2) 2 = htons id := slice_setTag buf id
  have h₄ : slice (setTag buf id) (0 + MHR_LEN + 2 + 2) (iphcLen c - 2) = initIphc c := by
    rw [slice_setTag_after _ _ (by decide), hhead (by simp)]
    exact h.iphc
  have h₅ : slice (setTag buf id) (0 + MHR_LEN + 2 + 2 + (iphcLen c - 2)) 2 = chk := by
    rw [slice_setTag_after _ _ (by simp), hbuf]
    have hself := slice_poke_self (s.fragBuf 0) (MHR_LEN + FRAG_LEN + (iphcLen c - 2)) chk
    rwa [hlen] at hself
  rw [(loadPacket_frames payload s).1, h.len, Nat.add_sub_cancel, ← hchk, ← hbuf, hsplit,
    slice_add, slice_add, slice_add, slice_add, h₁, h₂, h₃, h₄, h₅, ← dispSize_frag1 hsize]
  simp only [List.append_assoc]

lemma head_later {s : State} (h : Fragments c s) {i : ℕ} (h1 : 1 ≤ i) (hi : i < MAX_FRAGMENTS)
    (hmhr : slice (s.fragBuf i) 0 MHR_LEN = R.mhr i) (hsize : datagramSize c s < 2048) (id : ℕ)
    (payload : List UInt8) :
    fragnHead (loadPacket R c payload s) id i =
      R.mhr i ++ fragnHeader (datagramSize c s) id ((firstOffset c + 96 * (i - 1)) >>> 3) := by
  have hsplit : MHR_LEN + FRAG_N_LEN = MHR_LEN + (2 + (2 + 1)) := rfl
  have h₁ : slice (setTag (s.fragBuf i) id) 0 MHR_LEN = R.mhr i := by
    rw [slice_setTag_before _ _ (by decide), hmhr]
  have h₂ : slice (setTag (s.fragBuf i) id) (0 + MHR_LEN) 2 =
      dispSize SIXLOWPAN_FRAG_N_DISP (datagramSize c s) := by
    rw [slice_setTag_before _ _ (by decide)]
    exact h.later i h1 hi
  have h₃ : slice (setTag (s.fragBuf i) id) (0 + MHR_LEN + 2) 2 = htons id :=
    slice_setTag (s.fragBuf i) id
  have h₄ : slice (setTag (s.fragBuf i) id) (0 + MHR_LEN + 2 + 2) 1 =
      [UInt8.ofNat ((firstOffset c + 96 * (i - 1)) >>> 3)] := by
    rw [slice_setTag_after _ _ (by decide)]
    exact h.offset i h1 hi
  rw [fragnHead, (loadPacket_frames payload s).2.1 i h1, hsplit, slice_add, slice_add, slice_add,
    h₁, h₂, h₃, h₄, ← dispSize_fragn hsize]
  simp only [List.append_assoc]

lemma datagramSize_eq (s : State) : datagramSize c s = headerSize c + s.payloadSize := by
  rw [datagramSize, headerSize]
  split <;> exact Nat.add_comm _ _

lemma headerSize_le : headerSize c ≤ IPUDP_LEN := by
  have := iphcLen_cases c
  rw [headerSize]
  split
  · simp only [IPUDP_LEN]
    omega
  · exact Nat.le_refl _

lemma datagramSize_lt {s : State} (h : s.payloadSize ≤ EXP_MAX_PAYLOAD) :
    datagramSize c s < 2048 := by
  have := headerSize_le (c := c)
  simp only [EXP_MAX_PAYLOAD, IPUDP_LEN] at h this
  rw [datagramSize_eq]
  omega

lemma firstOffset_cases : firstOffset c = 88 ∨ firstOffset c = 136 := by
  have := iphcLen_cases c
  rw [firstOffset_eq, room_first, headerSize]
  split
  · left
    omega
  · exact .inr rfl

/-- The parts the frames carry lie where their offset fields say. -/
lemma fragnFrom_of_carried {hdr : ℕ → List UInt8} {s : State} {size id : ℕ}
    {parts : List (List UInt8)} {i sent : ℕ} (h : Carried hdr s i parts) (h1 : 1 ≤ i)
    (hi : i + parts.length ≤ MAX_FRAGMENTS) (hmhr : ∀ i, (R.mhr i).length = MHR_LEN)
    (hhdr : ∀ j, i ≤ j → j < i + parts.length →
      hdr j = R.mhr j ++ fragnHeader size id ((firstOffset c + 96 * (j - 1)) >>> 3))
    (hsent : sent = firstOffset c + 96 * (i - 1)) :
    FragnFrom R size id i sent ((List.range' i parts.length).map s.frame) parts.flatten := by
  induction parts generalizing i sent with
  | nil => rfl
  | cons part parts ih =>
    obtain ⟨hframe, hle, hfull, hrest⟩ := h
    have hoff := firstOffset_cases (c := c)
    rw [List.length_cons] at hi hhdr
    simp only [MAX_FRAGMENTS] at hi
    rw [hhdr i (Nat.le_refl i) (by omega)] at hframe
    rw [List.length_cons, List.range'_succ, List.map_cons, List.flatten_cons]
    refine ⟨_, part, parts.flatten, hframe, ?_, ?_, ?_, rfl, ?_⟩
    · rw [hframe, List.length_append, List.length_append, hmhr]
      simp only [fragnHeader, htons, List.length_append, List.length_cons, List.length_nil]
      simp only [MHR_LEN, IEEE802154_MAX_FRAME_SIZE]
      omega
    · rw [Nat.shiftRight_eq_div_pow]
      omega
    · rw [Nat.shiftRight_eq_div_pow]
      omega
    · by_cases hnil : parts = []
      · subst hnil
        rfl
      · refine ih hrest (by omega) (by simp only [MAX_FRAGMENTS]; omega) (fun j hj hjn => ?_) ?_
        · exact hhdr j (by omega) (by omega)
        · rw [hfull hnil, hsent]
          omega

lemma fetch_eq (bufs : ℕ → ℕ) (hbufs : ∀ k, IEEE802154_MAX_FRAME_SIZE ≤ bufs k) (n k : ℕ)
    (s : State) (hn : s.frag + n < 256)
    (hlen : ∀ j, s.frag ≤ j → j < s.frag + n → s.fragLen j ≤ IEEE802154_MAX_FRAME_SIZE) :
    (fetch bufs n k s).1 = (List.range' s.frag n).map s.frame := by
  induction n generalizing k s with
  | zero => rfl
  | succ n ih =>
    have hfits : ¬ bufs k < s.fragLen s.frag := by
      have := hlen s.frag (Nat.le_refl _) (by omega)
      have := hbufs k
      omega
    have hmod : (s.frag + 1) % 256 = s.frag + 1 := Nat.mod_eq_of_lt (by omega)
    rw [fetch, netdevRecv, if_neg hfits, hmod, List.range'_succ, List.map_cons]
    rw [ih (k + 1) { s with frag := s.frag + 1 } (by simp only; omega)
      fun j hj hjn => hlen j (by simp only at hj; omega) (by simp only at hjn; omega)]
    rfl

lemma head_whole {s : State} (h : Whole c s) (hmhr : slice (s.fragBuf 0) 0 MHR_LEN = R.mhr 0)
    (payload : List UInt8) :
    slice ((loadPacket R c payload s).fragBuf 0) 0 (MHR_LEN + iphcLen c) =
      R.mhr 0 ++ (initIphc c ++ chksumBytes R c payload s) := by
  have hiphc := iphcLen_cases c
  have hsplit : MHR_LEN + iphcLen c = MHR_LEN + (iphcLen c - 2 + 2) := by omega
  obtain ⟨chk, hchk⟩ : ∃ chk, chk = chksumBytes R c payload s := ⟨_, rfl⟩
  have hlen : chk.length = 2 := hchk ▸ length_slice _ _ _
  have h₁ : slice (poke (s.fragBuf 0) (MHR_LEN + (iphcLen c - 2)) chk) 0 MHR_LEN = R.mhr 0 := by
    rw [slice_poke_before (by omega), hmhr]
  have h₂ : slice (poke (s.fragBuf 0) (MHR_LEN + (iphcLen c - 2)) chk) (0 + MHR_LEN)
      (iphcLen c - 2) = initIphc c := by
    rw [slice_poke_before (by omega)]
    exact h.iphc
  have h₃ : slice (poke (s.fragBuf 0) (MHR_LEN + (iphcLen c - 2)) chk)
      (0 + MHR_LEN + (iphcLen c - 2)) 2 = chk := by
    have hself := slice_poke_self (s.fragBuf 0) (MHR_LEN + (iphcLen c - 2)) chk
    rwa [hlen] at hself
  rw [(loadPacket_frames payload s).1, h.len, Nat.add_sub_cancel, ← hchk, hsplit, slice_add,
    slice_add, h₁, h₂, h₃]

lemma Whole.size_le {s : State} (h : Whole c s) :
    MHR_LEN + iphcLen c + s.payloadSize ≤ IEEE802154_MAX_FRAME_SIZE := by
  have hiphc := iphcLen_cases c
  have hsize : s.payloadSize ≤ IEEE802154_MAX_FRAME_SIZE - MHR_LEN - iphcLen c := by
    have := h.size
    simpa [needsFragments] using this
  simp only [IEEE802154_MAX_FRAME_SIZE, MHR_LEN] at hsize ⊢
  omega

lemma buildFrames_whole_eq {s : State} (h : Whole c s) (hmode : s.fragmented = some false)
    (id : ℕ) (payload : List UInt8) : buildFrames R c id payload s =
      ((loadPacket R c payload s).setFrag 0
        (poke ((loadPacket R c payload s).fragBuf 0) (MHR_LEN + iphcLen c)
          (slice (loadPacket R c payload s).uncomp IPUDP_LEN s.payloadSize))
        (MHR_LEN + iphcLen c + s.payloadSize), 1) := by
  have hle := h.size_le
  simp only [IEEE802154_MAX_FRAME_SIZE] at hle
  have hlen : (loadPacket R c payload s).fragLen 0 = MHR_LEN + iphcLen c := by
    rw [(loadPacket_frames payload s).2.2, h.len]
  rw [buildFrames]
  dsimp only
  rw [(loadPacket_fields payload s).2.2, hmode, if_neg (by decide), hlen,
    (loadPacket_fields payload s).1, copyBytes_eq _ _ _ (by omega)]

lemma buildFrames_whole {s : State} (h : Whole c s) (hmode : s.fragmented = some false)
    (hmhr : slice (s.fragBuf 0) 0 MHR_LEN = R.mhr 0) {payload : List UInt8}
    (hpayload : payload.length = s.payloadSize) (id : ℕ) :
    (buildFrames R c id payload s).2 = 1 ∧ (buildFrames R c id payload s).1.frag = s.frag ∧
    (buildFrames R c id payload s).1.frame 0 =
      R.mhr 0 ++ (initIphc c ++ chksumBytes R c payload s) ++ payload ∧
    (buildFrames R c id payload s).1.fragLen 0 = MHR_LEN + iphcLen c + s.payloadSize := by
  rw [buildFrames_whole_eq h hmode, loadPacket_uncomp hpayload]
  refine ⟨rfl, rfl, ?_, setFrag_fragLen_self ..⟩
  rw [State.frame, setFrag_fragBuf_self, setFrag_fragLen_self, ← hpayload, slice_poke_append,
    head_whole h hmhr]

lemma buildFrames_fragments_eq {s : State} (hmode : s.fragmented = some true) (id : ℕ)
    (payload : List UInt8) : buildFrames R c id payload s =
      fillFrags c id MAX_FRAGMENTS 0 IPUDP_LEN 0 (loadPacket R c payload s) := by
  rw [buildFrames]
  dsimp only
  rw [(loadPacket_fields payload s).2.2, hmode, if_pos rfl]

lemma Fragments.room_le {s : State} (h : Fragments c s) :
    room c 0 (MHR_LEN + FRAG_LEN + iphcLen c) ≤ 88 ∧
    room c 0 (MHR_LEN + FRAG_LEN + iphcLen c) < s.payloadSize := by
  have hiphc := iphcLen_cases c
  have hbig : IEEE802154_MAX_FRAME_SIZE - MHR_LEN - iphcLen c < s.payloadSize := by
    have := h.size
    simpa [needsFragments] using this
  simp only [IEEE802154_MAX_FRAME_SIZE, MHR_LEN] at hbig
  rw [room_first]
  split <;> omega

/-- The first pass of the loop fills the FRAG1. -/
lemma buildFrames_first {s t : State} (h : Fragments c s) (hmode : s.fragmented = some true)
    (id : ℕ) {payload : List UInt8} (ht : t = loadPacket R c payload s) {m : ℕ}
    (hm : m = room c 0 (MHR_LEN + FRAG_LEN + iphcLen c)) :
    buildFrames R c id payload s = fillFrags c id 17 1 (IPUDP_LEN + m) 1 (t.setFrag 0
      (poke (setTag (t.fragBuf 0) id) (t.fragLen 0) (slice t.uncomp IPUDP_LEN m))
      (t.fragLen 0 + m)) := by
  have hiphc := iphcLen_cases c
  obtain ⟨hm88, hmsize⟩ := h.room_le
  have htlen : t.fragLen = s.fragLen := ht ▸ (loadPacket_frames payload s).2.2
  have htsize : t.payloadSize = s.payloadSize := ht ▸ rfl
  have hmin : m = min (room c 0 (t.fragLen 0)) (IPUDP_LEN + t.payloadSize - IPUDP_LEN) := by
    rw [htlen, h.len, ← hm, htsize, Nat.add_sub_cancel_left, Nat.min_eq_left (by omega)]
  rw [buildFrames_fragments_eq hmode, ← ht]
  exact fillFrags_copy (by rw [htsize]; simp only [IPUDP_LEN]; omega)
    (by rw [htlen, h.len]; simp only [MHR_LEN, FRAG_LEN, IEEE802154_MAX_FRAME_SIZE]; omega) hmin

/-- A packet in fragments: what the FRAG1 carries, and what the FRAGNs carry. -/
lemma buildFrames_fragments {s : State} (h : Fragments c s) (hmode : s.fragmented = some true)
    (hmhr : slice (s.fragBuf 0) 0 MHR_LEN = R.mhr 0) (hle : s.payloadSize ≤ EXP_MAX_PAYLOAD)
    {payload : List UInt8} (hpayload : payload.length = s.payloadSize) (id : ℕ) :
    ∃ part parts, payload = part ++ parts.flatten ∧ parts ≠ [] ∧
      part.length = room c 0 (MHR_LEN + FRAG_LEN + iphcLen c) ∧
      (buildFrames R c id payload s).2 = 1 + parts.length ∧ 1 + parts.length ≤ MAX_FRAGMENTS ∧
      (buildFrames R c id payload s).1.frag = s.frag ∧
      (buildFrames R c id payload s).1.frame 0 = R.mhr 0 ++ frag1Header (datagramSize c s) id ++
        (initIphc c ++ chksumBytes R c payload s) ++ part ∧
      Carried (fragnHead (loadPacket R c payload s) id) (buildFrames R c id payload s).1 1
        parts := by
  obtain ⟨t, ht⟩ : ∃ t, t = loadPacket R c payload s := ⟨_, rfl⟩
  have htlen : t.fragLen = s.fragLen := ht ▸ (loadPacket_frames payload s).2.2
  have htsize : t.payloadSize = s.payloadSize := ht ▸ rfl
  obtain ⟨m, hm⟩ : ∃ m, m = room c 0 (MHR_LEN + FRAG_LEN + iphcLen c) := ⟨_, rfl⟩
  obtain ⟨hm88, hmsize⟩ := h.room_le
  rw [← hm] at hm88 hmsize
  obtain ⟨buf, hbuf⟩ : ∃ buf, buf =
    poke (setTag (t.fragBuf 0) id) (t.fragLen 0) (slice t.uncomp IPUDP_LEN m) := ⟨_, rfl⟩
  have hbuild : buildFrames R c id payload s = fillFrags c id 17 1 (IPUDP_LEN + m) 1
      (t.setFrag 0 buf (t.fragLen 0 + m)) := hbuf ▸ buildFrames_first h hmode id ht hm
  have hlens : ∀ j, 1 ≤ j → j < 1 + 17 →
      (t.setFrag 0 buf (t.fragLen 0 + m)).fragLen j = MHR_LEN + FRAG_N_LEN := by
    intro j hj hjn
    rw [setFrag_fragLen_ne _ _ _ (by omega), htlen]
    exact h.lens j hj hjn
  obtain ⟨parts, hcount, hparts, hcarried⟩ := fillFrags_fragn c id 17 1 (IPUDP_LEN + m) 1
    (t.setFrag 0 buf (t.fragLen 0 + m)) (Nat.le_refl 1) hlens (by
      rw [setFrag_payloadSize, htsize]
      simp only [IPUDP_LEN, EXP_MAX_PAYLOAD] at hle ⊢
      omega)
  have hpart : (slice t.uncomp IPUDP_LEN m).length = m := length_slice _ _ _
  have hwhole : payload = slice t.uncomp IPUDP_LEN m ++ parts.flatten := by
    rw [hparts, setFrag_uncomp, setFrag_payloadSize, htsize, ← slice_add,
      ← loadPacket_uncomp (R := R) (c := c) hpayload, ← ht]
    congr 1
    simp only [IPUDP_LEN]
    omega
  refine ⟨slice t.uncomp IPUDP_LEN m, parts, hwhole, ?_, hpart.trans hm, ?_, ?_, ?_, ?_, ?_⟩
  · rintro rfl
    have := congrArg List.length hwhole
    rw [List.flatten_nil, List.append_nil, hpart, hpayload] at this
    omega
  · rw [hbuild, hcount]
  · rw [← hcount]
    exact fillFrags_le
  · rw [hbuild, fillFrags_fields.2.2.1, ht]
    rfl
  · have happend := slice_poke_append (setTag (t.fragBuf 0) id) (t.fragLen 0)
      (slice t.uncomp IPUDP_LEN m)
    rw [hpart, ← hbuf, htlen, h.len, ht,
      head_first h hmhr (datagramSize_lt hle)] at happend
    rw [hbuild, fillFrags_frame, htlen, h.len, happend, ht]
  · rw [hbuild, ← ht]
    apply hcarried.congr
    intro j hj
    rw [fragnHead, setFrag_fragBuf_ne _ _ _ (by omega)]
    rfl

lemma Carried.fragLen_le {hdr : ℕ → List UInt8} {s : State} {parts : List (List UInt8)} {i : ℕ}
    (h : Carried hdr s i parts) (hhdr : ∀ j, (hdr j).length = MHR_LEN + FRAG_N_LEN) :
    ∀ j, i ≤ j → j < i + parts.length → s.fragLen j ≤ IEEE802154_MAX_FRAME_SIZE := by
  induction parts generalizing i with
  | nil => exact fun j hj hjn => absurd hjn (Nat.not_lt.mpr hj)
  | cons part parts ih =>
    obtain ⟨hframe, hle, -, hrest⟩ := h
    intro j hj hjn
    by_cases heq : j = i
    · subst heq
      have hlen := congrArg List.length hframe
      rw [State.frame, length_slice, List.length_append, hhdr] at hlen
      simp only [MHR_LEN, FRAG_N_LEN, IEEE802154_MAX_FRAME_SIZE] at hlen ⊢
      omega
    · rw [List.length_cons] at hjn
      exact ih hrest j (by omega) (by omega)

lemma isFragmentation_whole {s : State} (h : Ready R c s) (hmode : s.fragmented = some false)
    {payload : List UInt8} (hpayload : payload.length = s.payloadSize) (id : ℕ) {bufs : ℕ → ℕ}
    (hbufs : ∀ k, IEEE802154_MAX_FRAME_SIZE ≤ bufs k) :
    IsFragmentation R c id payload (runPacket R c id payload bufs s).1 := by
  have hw := h.whole hmode
  obtain ⟨hcount, hfrag, hframe, hlen⟩ :=
    buildFrames_whole hw hmode (h.mhr 0 (by decide)) hpayload id
  rw [h.frag] at hfrag
  have hfetch : (runPacket R c id payload bufs s).1 =
      [(buildFrames R c id payload s).1.frame 0] := by
    rw [runPacket]
    dsimp only
    rw [fetch_eq bufs hbufs _ _ _ (by rw [hfrag, hcount]; decide), hfrag, hcount]
    · rfl
    · intro j _ hj
      rw [show j = 0 by omega, hlen]
      exact hw.size_le
  rw [hfetch]
  refine ⟨_, length_slice _ _ _, hframe, ?_⟩
  rw [State.frame, length_slice, hlen]
  exact hw.size_le

lemma isFragmentation_fragments {s : State} (h : Ready R c s) (hmode : s.fragmented = some true)
    (hmhr : ∀ i, (R.mhr i).length = MHR_LEN) {payload : List UInt8}
    (hpayload : payload.length = s.payloadSize) (id : ℕ) {bufs : ℕ → ℕ}
    (hbufs : ∀ k, IEEE802154_MAX_FRAME_SIZE ≤ bufs k) :
    IsFragmentation R c id payload (runPacket R c id payload bufs s).1 := by
  have hiphc := iphcLen_cases c
  have hf := h.fragments hmode
  obtain ⟨part, parts, hsplit, hne, hpart, hcount, hmax, hfrag, hframe, hcarried⟩ :=
    buildFrames_fragments hf hmode (h.mhr 0 (by decide)) h.size_le hpayload id
  have hchk : (chksumBytes R c payload s).length = 2 := length_slice _ _ _
  have hfirst : ((buildFrames R c id payload s).1.frame 0).length ≤ IEEE802154_MAX_FRAME_SIZE := by
    have hroom := room_le c 0 (MHR_LEN + FRAG_LEN + iphcLen c)
    rw [hframe]
    simp only [List.length_append, hmhr, hchk, length_initIphc, hpart, frag1Header, htons,
      List.length_cons, List.length_nil]
    simp only [IEEE802154_MAX_FRAME_SIZE, MHR_LEN, FRAG_LEN] at hroom ⊢
    omega
  rw [h.frag] at hfrag
  have hlens : ∀ j, 0 ≤ j → j < 0 + (1 + parts.length) →
      (buildFrames R c id payload s).1.fragLen j ≤ IEEE802154_MAX_FRAME_SIZE := by
    intro j _ hj
    by_cases h0 : j = 0
    · rwa [State.frame, length_slice, ← h0] at hfirst
    · exact hcarried.fragLen_le (fun _ => length_slice _ _ _) j (by omega) (by omega)
  have hfetch : (runPacket R c id payload bufs s).1 =
      (buildFrames R c id payload s).1.frame 0 ::
        (List.range' 1 parts.length).map (buildFrames R c id payload s).1.frame := by
    rw [runPacket]
    dsimp only
    rw [fetch_eq bufs hbufs _ _ _ (by rw [hfrag, hcount]; simp only [MAX_FRAGMENTS] at hmax; omega)
      (by rwa [hfrag, hcount]), hfrag, hcount, Nat.add_comm 1, List.range'_succ, List.map_cons]
  have hfragn : FragnFrom R (datagramSize c s) id 1 (firstOffset c)
      ((List.range' 1 parts.length).map (buildFrames R c id payload s).1.frame) parts.flatten :=
    fragnFrom_of_carried hcarried (Nat.le_refl 1) hmax hmhr
      (fun j h1 hj => head_later hf h1 (by omega) (h.mhr j (by omega)) (datagramSize_lt h.size_le)
        id payload) rfl
  obtain ⟨frame, frames, hframes⟩ : ∃ frame frames,
      (List.range' 1 parts.length).map (buildFrames R c id payload s).1.frame =
        frame :: frames := by
    apply List.exists_cons_of_ne_nil
    simpa using hne
  rw [hframes] at hfetch hfragn
  rw [hfetch]
  refine ⟨_, _, part, parts.flatten, hchk, datagramSize_lt h.size_le, ?_, hframe, hfirst, hsplit,
    ?_⟩
  · rw [datagramSize_eq, hpayload]
  · rwa [hpart, ← firstOffset_eq]

lemma isFragmentation_runPacket {s : State} (h : Ready R c s) (hsome : s.fragmented.isSome)
    (hmhr : ∀ i, (R.mhr i).length = MHR_LEN) {payload : List UInt8}
    (hpayload : payload.length = s.payloadSize) (id : ℕ) {bufs : ℕ → ℕ}
    (hbufs : ∀ k, IEEE802154_MAX_FRAME_SIZE ≤ bufs k) :
    IsFragmentation R c id payload (runPacket R c id payload bufs s).1 := by
  obtain ⟨mode, hmode⟩ := Option.isSome_iff_exists.mp hsome
  cases mode with
  | false => exact isFragmentation_whole h hmode hpayload id hbufs
  | true => exact isFragmentation_fragments h hmode hmhr hpayload id hbufs

end Exp

end RiotPlayground
