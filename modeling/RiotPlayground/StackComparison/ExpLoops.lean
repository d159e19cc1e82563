import RiotPlayground.StackComparison.Exp

/-!
# The loops that fill the frames

What `prepare_sixlowpan`, the copying in `exp_run` and `reset_frag_buf` do to the frames.
-/

namespace RiotPlayground

open Buffer

namespace Exp

variable (c : Config)

lemma iphcLen_cases : iphcLen c = 6 ∨ iphcLen c = 8 ∨ iphcLen c = 9 := by
  unfold iphcLen
  split
  · exact .inl rfl
  · split
    · exact .inr (.inl rfl)
    · exact .inr (.inr rfl)

lemma length_initIphc : (initIphc c).length = iphcLen c - 2 := by
  rw [initIphc, List.length_append, nhcUdp, iphcLen]
  split
  · rfl
  · by_cases hd : c.dstPort &&& 0xff00 = 0xf000
    · simp [hd]
    · by_cases hs : c.srcPort &&& 0xff00 = 0xf000 <;> simp [hd, hs]

lemma shift_three (n : ℕ) : n >>> 3 <<< 3 = n / 8 * 8 := by
  rw [Nat.shiftRight_eq_div_pow, Nat.shiftLeft_eq]

lemma room_le (i len : ℕ) : room c i len ≤ IEEE802154_MAX_FRAME_SIZE - len := by
  unfold room
  rw [shift_three]
  split <;> omega

lemma room_fragn {i : ℕ} (hi : 1 ≤ i) : room c i (MHR_LEN + FRAG_N_LEN) = 96 :=
  if_neg fun h => absurd h.2 (by omega)

section Tag

variable (buf : ℕ → UInt8) (tag : ℕ) {pos n : ℕ}

lemma slice_setTag_before (h : pos + n ≤ MHR_LEN + 2) :
    slice (setTag buf tag) pos n = slice buf pos n :=
  slice_poke_before h

lemma slice_setTag : slice (setTag buf tag) (MHR_LEN + 2) 2 = htons tag :=
  slice_poke_self buf (MHR_LEN + 2) (htons tag)

lemma slice_setTag_after (h : MHR_LEN + FRAG_LEN ≤ pos) :
    slice (setTag buf tag) pos n = slice buf pos n :=
  slice_poke_after h

end Tag

lemma copyBytes_eq (uncomp buf : ℕ → UInt8) {n len : ℕ} (offset : ℕ) (h : len + n < 256) :
    copyBytes uncomp n buf len offset = (poke buf len (slice uncomp offset n), len + n) := by
  induction n generalizing buf len offset with
  | zero =>
    rw [copyBytes, slice_zero, poke_nil, Nat.add_zero]
  | succ n ih =>
    have hlen : (len + 1) % 256 = len + 1 := Nat.mod_eq_of_lt (by omega)
    have hslice : slice uncomp offset (n + 1) = [uncomp offset] ++ slice uncomp (offset + 1) n := by
      rw [Nat.add_comm n 1, slice_add, slice_one]
    rw [copyBytes, hlen, ih _ _ (by omega), update_eq_poke, hslice, ← poke_append,
      List.length_singleton, Nat.add_right_comm, Nat.add_assoc]

section Fill

variable {c} {id : ℕ}

lemma fillFrags_done {n i offset fragments : ℕ} {s : State}
    (h : IPUDP_LEN + s.payloadSize ≤ offset) :
    fillFrags c id (n + 1) i offset fragments s = fillFrags c id n (i + 1) offset fragments
      (s.setFrag i (setTag (s.fragBuf i) id) 0) := by
  rw [fillFrags, if_pos h]

lemma fillFrags_copy {n i offset fragments : ℕ} {s : State} (h : offset < IPUDP_LEN + s.payloadSize)
    (hlen : s.fragLen i ≤ IEEE802154_MAX_FRAME_SIZE) {m : ℕ}
    (hm : m = min (room c i (s.fragLen i)) (IPUDP_LEN + s.payloadSize - offset)) :
    fillFrags c id (n + 1) i offset fragments s =
      fillFrags c id n (i + 1) (offset + m) (fragments + 1)
        (s.setFrag i
          (poke (setTag (s.fragBuf i) id) (s.fragLen i)
            (slice s.uncomp offset m)) (s.fragLen i + m)) := by
  have hroom := room_le c i (s.fragLen i)
  simp only [IEEE802154_MAX_FRAME_SIZE] at hlen hroom
  rw [fillFrags, if_neg (Nat.not_le.mpr h), ← hm]
  dsimp only
  rw [copyBytes_eq _ _ _ (by omega)]

variable {n i offset fragments : ℕ} {s : State}

lemma fillFrags_fields : (fillFrags c id n i offset fragments s).1.payloadSize = s.payloadSize ∧
    (fillFrags c id n i offset fragments s).1.uncomp = s.uncomp ∧
    (fillFrags c id n i offset fragments s).1.frag = s.frag ∧
    (fillFrags c id n i offset fragments s).1.fragmented = s.fragmented := by
  induction n generalizing i offset fragments s with
  | zero => exact ⟨rfl, rfl, rfl, rfl⟩
  | succ n ih =>
    unfold fillFrags
    dsimp only
    split <;> exact ih

lemma fillFrags_lt {j : ℕ} (hj : j < i) :
    (fillFrags c id n i offset fragments s).1.fragBuf j = s.fragBuf j ∧
    (fillFrags c id n i offset fragments s).1.fragLen j = s.fragLen j := by
  induction n generalizing i offset fragments s with
  | zero => exact ⟨rfl, rfl⟩
  | succ n ih =>
    have hne : j ≠ i := by omega
    have hlt : j < i + 1 := by omega
    unfold fillFrags
    dsimp only
    split <;> rw [(ih hlt).1, (ih hlt).2, setFrag_fragBuf_ne _ _ _ hne,
      setFrag_fragLen_ne _ _ _ hne] <;> exact ⟨rfl, rfl⟩

lemma fillFrags_frame (buf : ℕ → UInt8) (len : ℕ) :
    (fillFrags c id n (i + 1) offset fragments (s.setFrag i buf len)).1.frame i =
      slice buf 0 len := by
  rw [State.frame, (fillFrags_lt (Nat.lt_succ_self i)).1, (fillFrags_lt (Nat.lt_succ_self i)).2,
    setFrag_fragBuf_self, setFrag_fragLen_self]

variable (c id n offset fragments) in
lemma fillFrags_succ (hlen : s.fragLen i ≤ IEEE802154_MAX_FRAME_SIZE) :
    ∃ part buf len' offset' fragments',
      buf = poke (setTag (s.fragBuf i) id) (s.fragLen i) part ∧
      fillFrags c id (n + 1) i offset fragments s =
        fillFrags c id n (i + 1) offset' fragments' (s.setFrag i buf len') := by
  by_cases h : IPUDP_LEN + s.payloadSize ≤ offset
  · exact ⟨[], _, 0, offset, fragments, rfl, by rw [fillFrags_done h, poke_nil]⟩
  · exact ⟨_, _, _, _, _, rfl, fillFrags_copy (Nat.not_le.mp h) hlen rfl⟩

/-- A frame keeps its headers but for the tag. -/
lemma fillFrags_buf (hlen : ∀ j, i ≤ j → j < i + n → s.fragLen j ≤ IEEE802154_MAX_FRAME_SIZE)
    (j : ℕ) : (fillFrags c id n i offset fragments s).1.fragBuf j = s.fragBuf j ∨
    ∃ part, (fillFrags c id n i offset fragments s).1.fragBuf j =
      poke (setTag (s.fragBuf j) id) (s.fragLen j) part := by
  induction n generalizing i offset fragments s with
  | zero => exact .inl rfl
  | succ n ih =>
    obtain ⟨part, buf, len', offset', fragments', hbuf, hstep⟩ :=
      fillFrags_succ c id n offset fragments (hlen i (Nat.le_refl i) (by omega))
    rw [hstep]
    by_cases hj : j = i
    · subst hj
      right
      refine ⟨part, ?_⟩
      rw [(fillFrags_lt (Nat.lt_succ_self j)).1, setFrag_fragBuf_self, hbuf]
    · rw [← setFrag_fragBuf_ne s buf len' hj, ← setFrag_fragLen_ne s buf len' hj]
      apply ih
      intro k hk hkn
      rw [setFrag_fragLen_ne _ _ _ (by omega)]
      exact hlen k (by omega) (by omega)

/-- The frames from number `i` on carry the parts behind the headers `hdr`, each but the last
filled up. -/
def Carried (hdr : ℕ → List UInt8) (s : State) : ℕ → List (List UInt8) → Prop
  | _, [] => True
  | i, part :: parts => s.frame i = hdr i ++ part ∧ part.length ≤ 96 ∧
    (parts ≠ [] → part.length = 96) ∧ Carried hdr s (i + 1) parts

def fragnHead (s : State) (id i : ℕ) : List UInt8 :=
  slice (setTag (s.fragBuf i) id) 0 (MHR_LEN + FRAG_N_LEN)

lemma Carried.congr {hdr hdr' : ℕ → List UInt8} {s : State} {i : ℕ} {parts : List (List UInt8)}
    (h : Carried hdr s i parts) (heq : ∀ j, i ≤ j → hdr j = hdr' j) : Carried hdr' s i parts := by
  induction parts generalizing i with
  | nil => trivial
  | cons part parts ih =>
    obtain ⟨hframe, hle, hfull, hrest⟩ := h
    exact ⟨heq i (Nat.le_refl i) ▸ hframe, hle, hfull, ih hrest fun j hj => heq j (by omega)⟩

lemma fillFrags_none (h : IPUDP_LEN + s.payloadSize ≤ offset) :
    (fillFrags c id n i offset fragments s).2 = fragments := by
  induction n generalizing i s with
  | zero => rfl
  | succ n ih =>
    rw [fillFrags_done h]
    exact ih h

lemma fillFrags_copy_fragn (hi : 1 ≤ i) (hself : s.fragLen i = MHR_LEN + FRAG_N_LEN)
    (h : offset < IPUDP_LEN + s.payloadSize) {m : ℕ}
    (hm : m = min 96 (IPUDP_LEN + s.payloadSize - offset)) :
    fillFrags c id (n + 1) i offset fragments s =
      fillFrags c id n (i + 1) (offset + m) (fragments + 1)
        (s.setFrag i
          (poke (setTag (s.fragBuf i) id) (MHR_LEN + FRAG_N_LEN)
            (slice s.uncomp offset m)) (MHR_LEN + FRAG_N_LEN + m)) := by
  rw [fillFrags_copy (m := m) h (by rw [hself]; decide) (by rw [hself, room_fragn c hi]; exact hm),
    hself]

variable (c id) in
/-- The rest of the payload from `offset` on goes into FRAGNs. -/
lemma fillFrags_fragn (n i offset fragments : ℕ) (s : State) (hi : 1 ≤ i)
    (hlen : ∀ j, i ≤ j → j < i + n → s.fragLen j = MHR_LEN + FRAG_N_LEN)
    (hn : IPUDP_LEN + s.payloadSize ≤ offset + 96 * n) : ∃ parts : List (List UInt8),
      (fillFrags c id n i offset fragments s).2 = fragments + parts.length ∧
      parts.flatten = slice s.uncomp offset (IPUDP_LEN + s.payloadSize - offset) ∧
      Carried (fragnHead s id) (fillFrags c id n i offset fragments s).1 i parts := by
  induction n generalizing i offset fragments s with
  | zero =>
    have hzero : IPUDP_LEN + s.payloadSize - offset = 0 := by omega
    exact ⟨[], rfl, by rw [hzero]; rfl, trivial⟩
  | succ n ih =>
    by_cases hdone : IPUDP_LEN + s.payloadSize ≤ offset
    · have hzero : IPUDP_LEN + s.payloadSize - offset = 0 := by omega
      exact ⟨[], fillFrags_none hdone, by rw [hzero]; rfl, trivial⟩
    · have hself := hlen i (Nat.le_refl i) (by omega)
      obtain ⟨m, hm⟩ : ∃ m, m = min 96 (IPUDP_LEN + s.payloadSize - offset) := ⟨_, rfl⟩
      rw [fillFrags_copy_fragn hi hself (Nat.not_le.mp hdone) hm]
      obtain ⟨buf, hbuf⟩ : ∃ buf, buf = poke (setTag (s.fragBuf i) id)
        (MHR_LEN + FRAG_N_LEN) (slice s.uncomp offset m) := ⟨_, rfl⟩
      rw [← hbuf]
      have hlen' : ∀ j, i + 1 ≤ j → j < i + 1 + n →
          (s.setFrag i buf (MHR_LEN + FRAG_N_LEN + m)).fragLen j = MHR_LEN + FRAG_N_LEN := by
        intro j hj hjn
        rw [setFrag_fragLen_ne _ _ _ (by omega)]
        exact hlen j (by omega) (by omega)
      obtain ⟨parts, hcount, hparts, hcarried⟩ := ih (i + 1) (offset + m) (fragments + 1)
        (s.setFrag i buf (MHR_LEN + FRAG_N_LEN + m)) (by omega) hlen'
        (by rw [setFrag_payloadSize]; omega)
      have hmn : (slice s.uncomp offset m).length = m := length_slice _ _ _
      refine ⟨slice s.uncomp offset m :: parts, ?_, ?_, ?_, ?_, ?_, ?_⟩
      · rw [hcount, List.length_cons]
        omega
      · rw [List.flatten_cons, hparts, setFrag_uncomp, setFrag_payloadSize, ← slice_add]
        congr 1
        omega
      · have hprefix := slice_poke_append (setTag (s.fragBuf i) id)
          (MHR_LEN + FRAG_N_LEN) (slice s.uncomp offset m)
        rw [hmn, ← hbuf] at hprefix
        rw [fillFrags_frame, hprefix]
        rfl
      · rw [hmn, hm]
        exact Nat.min_le_left _ _
      · intro hne
        rw [hmn]
        by_contra hlt
        rw [fillFrags_none (by rw [setFrag_payloadSize]; omega)] at hcount
        exact hne (List.length_eq_zero_iff.mp (by omega))
      · apply hcarried.congr
        intro j hj
        rw [fragnHead, setFrag_fragBuf_ne _ _ _ (by omega)]
        rfl

lemma fillFrags_le : (fillFrags c id n i offset fragments s).2 ≤ fragments + n := by
  induction n generalizing i offset fragments s with
  | zero => exact Nat.le_refl _
  | succ n ih =>
    unfold fillFrags
    dsimp only
    split
    · exact Nat.le_trans ih (by omega)
    · exact Nat.le_trans ih (by omega)

end Fill

/-- `prepare_sixlowpan` writes every FRAGN header with its offset. -/
lemma prepareFragn_spec (n frag offset : ℕ) (s : State) (j : ℕ) :
    (j < frag → (prepareFragn c n frag offset s).fragBuf j = s.fragBuf j ∧
      (prepareFragn c n frag offset s).fragLen j = s.fragLen j) ∧
    (frag ≤ j → j < frag + n → (prepareFragn c n frag offset s).fragBuf j =
      poke (initFragn (s.fragBuf j) (datagramSize c s) 0 (offset + 96 * (j - frag)))
        (MHR_LEN + FRAG_N_LEN) (initIphc c) ∧
      (prepareFragn c n frag offset s).fragLen j = MHR_LEN + FRAG_N_LEN) := by
  induction n generalizing frag offset s with
  | zero => exact ⟨fun _ => ⟨rfl, rfl⟩, fun h h' => absurd h' (by omega)⟩
  | succ n ih =>
    rw [prepareFragn]
    obtain ⟨hlt, hge⟩ := ih (frag + 1)
      (offset + (IEEE802154_MAX_FRAME_SIZE - MHR_LEN - FRAG_N_LEN) >>> 3 <<< 3)
      (s.setFrag frag (poke (initFragn (s.fragBuf frag) (datagramSize c s) 0 offset)
        (MHR_LEN + FRAG_N_LEN) (initIphc c)) (MHR_LEN + FRAG_N_LEN))
    refine ⟨fun hj => ?_, fun hj hjn => ?_⟩
    · rw [(hlt (by omega)).1, (hlt (by omega)).2, setFrag_fragBuf_ne _ _ _ (by omega),
        setFrag_fragLen_ne _ _ _ (by omega)]
      exact ⟨rfl, rfl⟩
    · by_cases heq : j = frag
      · subst heq
        rw [(hlt (by omega)).1, (hlt (by omega)).2, setFrag_fragBuf_self, setFrag_fragLen_self,
          Nat.sub_self]
        exact ⟨rfl, rfl⟩
      · obtain ⟨hbuf, hlen⟩ := hge (by omega) (by omega)
        have hoffset : offset + (IEEE802154_MAX_FRAME_SIZE - MHR_LEN - FRAG_N_LEN) >>> 3 <<< 3 +
            96 * (j - (frag + 1)) = offset + 96 * (j - frag) := by
          rw [shift_three]
          simp only [IEEE802154_MAX_FRAME_SIZE, MHR_LEN, FRAG_N_LEN]
          omega
        rw [setFrag_fragBuf_ne _ _ _ heq, hoffset] at hbuf
        exact ⟨hbuf, hlen⟩

lemma prepareFragn_fields (n frag offset : ℕ) (s : State) :
    (prepareFragn c n frag offset s).payloadSize = s.payloadSize ∧
    (prepareFragn c n frag offset s).frag = s.frag ∧
    (prepareFragn c n frag offset s).fragmented = s.fragmented := by
  induction n generalizing frag offset s with
  | zero => exact ⟨rfl, rfl, rfl⟩
  | succ n ih => exact ih _ _ _

end Exp

end RiotPlayground
