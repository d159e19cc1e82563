import RiotPlayground.StackComparison.ExpFrames
import RiotPlayground.StackComparison.ExpRiot

/-!
# The sweep of the experiment

Every packet of a sweep leaves the headers as `prepare_sixlowpan` has written them, so that the
next one is fragmented as well as the first.
-/

namespace RiotPlayground

open Buffer

namespace Exp

variable {R : Riot} {c : Config}

lemma fetch_state (bufs : ℕ → ℕ) (n k : ℕ) (s : State) :
    ∃ f, (fetch bufs n k s).2 = { s with frag := f } := by
  induction n generalizing k s with
  | zero => exact ⟨s.frag, rfl⟩
  | succ n ih =>
    rw [fetch, netdevRecv]
    dsimp only
    split
    · exact ih (k + 1) s
    · obtain ⟨f, hf⟩ := ih (k + 1) { s with frag := (s.frag + 1) % 256 }
      exact ⟨f, hf⟩

lemma buildFrames_fields (id : ℕ) (payload : List UInt8) (s : State) :
    (buildFrames R c id payload s).1.payloadSize = s.payloadSize ∧
    (buildFrames R c id payload s).1.fragmented = s.fragmented := by
  rw [buildFrames]
  dsimp only
  split
  · exact ⟨fillFrags_fields.1, fillFrags_fields.2.2.2⟩
  · exact ⟨rfl, rfl⟩

lemma buildFrames_uncomp (id : ℕ) (payload : List UInt8) (s : State) :
    (buildFrames R c id payload s).1.uncomp = (loadPacket R c payload s).uncomp := by
  rw [buildFrames]
  dsimp only
  split
  · exact fillFrags_fields.2.1
  · rfl

lemma resetFragBuf_fields (s : State) : (resetFragBuf c s).payloadSize = s.payloadSize ∧
    (resetFragBuf c s).fragBuf = s.fragBuf ∧ (resetFragBuf c s).fragmented = s.fragmented := by
  rw [resetFragBuf]
  split <;> exact ⟨rfl, rfl, rfl⟩

lemma resetFragBuf_fragLen (s : State) :
    (needsFragments c s = false → (resetFragBuf c s).fragLen 0 = MHR_LEN + iphcLen c) ∧
    (needsFragments c s = true →
      (resetFragBuf c s).fragLen 0 = MHR_LEN + FRAG_LEN + iphcLen c ∧
      ∀ i, 1 ≤ i → i < MAX_FRAGMENTS → (resetFragBuf c s).fragLen i = MHR_LEN + FRAG_N_LEN) := by
  rw [resetFragBuf]
  refine ⟨fun h => ?_, fun h => ?_⟩
  · rw [h, if_neg Bool.false_ne_true]
    exact Function.update_self 0 _ s.fragLen
  · rw [h, if_pos rfl]
    refine ⟨Nat.add_right_comm _ _ _, fun i h1 hi => ?_⟩
    dsimp only
    rw [if_neg (by omega), if_pos hi]

/-- What a packet leaves behind: the buffers it has filled, with the lengths reset. -/
lemma runPacket_fields (id : ℕ) (payload : List UInt8) (bufs : ℕ → ℕ) (s : State) :
    (runPacket R c id payload bufs s).2.payloadSize = s.payloadSize ∧
    (runPacket R c id payload bufs s).2.fragBuf = (buildFrames R c id payload s).1.fragBuf ∧
    (runPacket R c id payload bufs s).2.frag = 0 ∧
    (runPacket R c id payload bufs s).2.fragmented = s.fragmented ∧
    (needsFragments c s = false →
      (runPacket R c id payload bufs s).2.fragLen 0 = MHR_LEN + iphcLen c) ∧
    (needsFragments c s = true →
      (runPacket R c id payload bufs s).2.fragLen 0 = MHR_LEN + FRAG_LEN + iphcLen c ∧
      ∀ i, 1 ≤ i → i < MAX_FRAGMENTS →
        (runPacket R c id payload bufs s).2.fragLen i = MHR_LEN + FRAG_N_LEN) := by
  obtain ⟨f, hf⟩ := fetch_state bufs (buildFrames R c id payload s).2 0
    (buildFrames R c id payload s).1
  obtain ⟨hsize, hmode⟩ := buildFrames_fields (R := R) (c := c) id payload s
  obtain ⟨t, ht⟩ : ∃ t : State, t = { (buildFrames R c id payload s).1 with frag := f } := ⟨_, rfl⟩
  have hrun : (runPacket R c id payload bufs s).2 = { resetFragBuf c t with frag := 0 } := by
    rw [runPacket]
    dsimp only
    rw [hf, ht]
  have hneeds : needsFragments c t = needsFragments c s := by
    rw [needsFragments, needsFragments, ht, ← hsize]
  obtain ⟨h₁, h₂, h₃⟩ := resetFragBuf_fields (c := c) t
  obtain ⟨hw, hf⟩ := resetFragBuf_fragLen (c := c) t
  rw [hneeds] at hw hf
  rw [hrun]
  exact ⟨h₁.trans (ht ▸ hsize), h₂.trans (ht ▸ rfl), rfl, h₃.trans (ht ▸ hmode), hw, hf⟩

lemma runPacket_uncomp (id : ℕ) (payload : List UInt8) (bufs : ℕ → ℕ) (s : State) :
    (runPacket R c id payload bufs s).2.uncomp = (loadPacket R c payload s).uncomp := by
  have hreset (t : State) : (resetFragBuf c t).uncomp = t.uncomp := by
    rw [resetFragBuf]
    split <;> rfl
  obtain ⟨f, hf⟩ := fetch_state bufs (buildFrames R c id payload s).2 0
    (buildFrames R c id payload s).1
  rw [runPacket]
  dsimp only
  rw [hreset, hf, ← buildFrames_uncomp id]

lemma slice_filled {buf buf' : ℕ → UInt8} {id len pos n : ℕ}
    (h : buf' = buf ∨ ∃ part, buf' = poke (setTag buf id) len part) (hlen : pos + n ≤ len)
    (hpos : pos + n ≤ MHR_LEN + 2 ∨ MHR_LEN + FRAG_LEN ≤ pos) :
    slice buf' pos n = slice buf pos n := by
  rcases h with rfl | ⟨part, rfl⟩
  · rfl
  · rw [slice_poke_before hlen]
    rcases hpos with hpos | hpos
    · exact slice_setTag_before _ _ hpos
    · exact slice_setTag_after _ _ hpos

lemma buildFrames_head_whole {s : State} (hw : Whole c s) (hmode : s.fragmented = some false)
    (id : ℕ) (payload : List UInt8) {pos n : ℕ} (hn : pos + n ≤ MHR_LEN + iphcLen c) :
    slice ((buildFrames R c id payload s).1.fragBuf 0) pos n =
      slice ((loadPacket R c payload s).fragBuf 0) pos n := by
  rw [buildFrames_whole_eq hw hmode, setFrag_fragBuf_self, slice_poke_before hn]

lemma Fragments.fragLen_le {s : State} (hf : Fragments c s) {i : ℕ} (hi : i < MAX_FRAGMENTS) :
    s.fragLen i ≤ IEEE802154_MAX_FRAME_SIZE := by
  have hiphc := iphcLen_cases c
  by_cases h0 : i = 0
  · rw [h0, hf.len]
    simp only [MHR_LEN, FRAG_LEN, IEEE802154_MAX_FRAME_SIZE]
    omega
  · rw [hf.lens i (by omega) hi]
    decide

/-- Filling the frames of a large packet changes only the tags in the headers. -/
lemma buildFrames_head_fragments {s : State} (hf : Fragments c s) (hmode : s.fragmented = some true)
    (id : ℕ) (payload : List UInt8) {i pos n : ℕ} (hn : pos + n ≤ s.fragLen i)
    (hpos : pos + n ≤ MHR_LEN + 2 ∨ MHR_LEN + FRAG_LEN ≤ pos) :
    slice ((buildFrames R c id payload s).1.fragBuf i) pos n =
      slice ((loadPacket R c payload s).fragBuf i) pos n := by
  have hload := (loadPacket_frames (R := R) (c := c) payload s).2.2
  have hle : ∀ j, 0 ≤ j → j < 0 + MAX_FRAGMENTS →
      (loadPacket R c payload s).fragLen j ≤ IEEE802154_MAX_FRAME_SIZE := fun j _ hj => by
    rw [hload]
    exact hf.fragLen_le (by omega)
  rw [buildFrames_fragments_eq hmode]
  exact slice_filled (fillFrags_buf hle i) (by rwa [hload]) hpos

lemma ready_runPacket_whole {s : State} (h : Ready R c s) (hmode : s.fragmented = some false)
    (id : ℕ) (payload : List UInt8) (bufs : ℕ → ℕ) :
    Ready R c (runPacket R c id payload bufs s).2 := by
  have hw := h.whole hmode
  obtain ⟨hsize, hbuf, hfrag, hmode', hlen, -⟩ :=
    runPacket_fields (R := R) (c := c) id payload bufs s
  have hneeds : needsFragments c (runPacket R c id payload bufs s).2 = needsFragments c s := by
    rw [needsFragments, needsFragments, hsize]
  have hkeep : ∀ {pos n}, pos + n ≤ MHR_LEN + (iphcLen c - 2) →
      slice ((buildFrames R c id payload s).1.fragBuf 0) pos n = slice (s.fragBuf 0) pos n := by
    intro pos n hle
    rw [buildFrames_head_whole hw hmode id payload (by omega), (loadPacket_frames payload s).1,
      hw.len, Nat.add_sub_cancel, slice_poke_before hle]
  refine ⟨hsize ▸ h.size_le, hfrag, fun i hi => ?_,
    fun _ => ⟨hneeds.trans hw.size, hlen hw.size, ?_⟩, fun htrue => ?_⟩
  · rw [hbuf, ← h.mhr i hi]
    by_cases h0 : i = 0
    · subst h0
      exact hkeep (by omega)
    · rw [buildFrames_whole_eq hw hmode, setFrag_fragBuf_ne _ _ _ h0,
        (loadPacket_frames payload s).2.1 i (by omega)]
  · rw [hbuf, hkeep (Nat.le_refl _), hw.iphc]
  · rw [hmode', hmode] at htrue
    cases htrue

lemma ready_runPacket_fragments {s : State} (h : Ready R c s) (hmode : s.fragmented = some true)
    (id : ℕ) (payload : List UInt8) (bufs : ℕ → ℕ) :
    Ready R c (runPacket R c id payload bufs s).2 := by
  have hf := h.fragments hmode
  have hiphc := iphcLen_cases c
  obtain ⟨hsize, hbuf, hfrag, hmode', -, hlen⟩ :=
    runPacket_fields (R := R) (c := c) id payload bufs s
  obtain ⟨hlen0, hlens⟩ := hlen hf.size
  have hneeds : needsFragments c (runPacket R c id payload bufs s).2 = needsFragments c s := by
    rw [needsFragments, needsFragments, hsize]
  have hdata : datagramSize c (runPacket R c id payload bufs s).2 = datagramSize c s := by
    rw [datagramSize, datagramSize, hsize]
  have hfirst : ∀ {pos n}, pos + n ≤ MHR_LEN + FRAG_LEN + (iphcLen c - 2) →
      pos + n ≤ MHR_LEN + 2 ∨ MHR_LEN + FRAG_LEN ≤ pos →
      slice ((buildFrames R c id payload s).1.fragBuf 0) pos n = slice (s.fragBuf 0) pos n := by
    intro pos n hn hpos
    rw [buildFrames_head_fragments hf hmode id payload (by rw [hf.len]; omega) hpos,
      (loadPacket_frames payload s).1, hf.len, Nat.add_sub_cancel, slice_poke_before hn]
  have hlater : ∀ {i pos n}, 1 ≤ i → i < MAX_FRAGMENTS → pos + n ≤ MHR_LEN + FRAG_N_LEN →
      pos + n ≤ MHR_LEN + 2 ∨ MHR_LEN + FRAG_LEN ≤ pos →
      slice ((buildFrames R c id payload s).1.fragBuf i) pos n = slice (s.fragBuf i) pos n := by
    intro i pos n h1 hi hn hpos
    rw [buildFrames_head_fragments hf hmode id payload (by rwa [hf.lens i h1 hi]) hpos,
      (loadPacket_frames payload s).2.1 i h1]
  refine ⟨hsize ▸ h.size_le, hfrag, fun i hi => ?_, fun hfalse => ?_, fun _ =>
    ⟨hneeds.trans hf.size, hlen0, hlens, ?_, ?_, fun i h1 hi => ?_, fun i h1 hi => ?_⟩⟩
  · rw [hbuf, ← h.mhr i hi]
    by_cases h0 : i = 0
    · subst h0
      exact hfirst (by simp; omega) (.inl (by decide))
    · exact hlater (by omega) hi (by decide) (.inl (by decide))
  · rw [hmode', hmode] at hfalse
    cases hfalse
  · rw [hbuf, hdata, hfirst (by simp; omega) (.inl (by decide)), hf.first]
  · rw [hbuf, hfirst (Nat.le_refl _) (.inr (Nat.le_refl _)), hf.iphc]
  · rw [hbuf, hdata, hlater h1 hi (by decide) (.inl (by decide)), hf.later i h1 hi]
  · rw [hbuf, hlater h1 hi (by decide) (.inr (Nat.le_refl _)), hf.offset i h1 hi]

/-- Neither a new size nor a packet spoils the headers. -/
lemma ready_step {s s' : State} {e : Event} (h : Ready R c s) (hs : step R c s e = some s') :
    Ready R c s' := by
  cases e with
  | size n =>
    rw [step] at hs
    split at hs
    · rename_i hn
      obtain rfl := Option.some.inj hs
      cases hneeds : needsFragments c { s with payloadSize := n } with
      | false => exact ready_prepare_whole hneeds hn h.frag h.mhr
      | true => exact ready_prepare_fragments hneeds hn h.frag h.mhr
    · cases hs
  | packet id payload bufs =>
    rw [step] at hs
    split at hs
    · rename_i hp
      obtain rfl := Option.some.inj hs
      obtain ⟨mode, hmode⟩ := Option.isSome_iff_exists.mp hp.1
      cases mode with
      | false => exact ready_runPacket_whole h hmode id payload bufs
      | true => exact ready_runPacket_fragments h hmode id payload bufs
    · cases hs

/-- In every sweep, whatever was sent before, the frames handed out for a packet are a correct
fragmentation of it. -/
theorem frames_fragment_packet (R : Riot) (c : Config) (hmhr : ∀ i, (R.mhr i).length = MHR_LEN)
    {s : State} (hs : (sweep R c).Reach (fun _ _ => True) (init R c) s)
    (hsome : s.fragmented.isSome) {payload : List UInt8} (hpayload : payload.length = s.payloadSize)
    (id : ℕ) {bufs : ℕ → ℕ} (hbufs : ∀ k, IEEE802154_MAX_FRAME_SIZE ≤ bufs k) :
    IsFragmentation R c id payload (runPacket R c id payload bufs s).1 := by
  have hready : Ready R c s :=
    hs.invariant (ready_init hmhr) fun _ _ _ h _ hstep => ready_step h hstep
  exact isFragmentation_runPacket hready hsome hmhr hpayload id hbufs

theorem frames_fragment_packet_larger : ∃ s,
    (sweep riot defaults).run (init riot defaults)
      [.size 8, .packet 7 (List.replicate 8 7) fun _ => 125, .size 200] = some s ∧
    IsFragmentation riot defaults 8 (List.replicate 200 8)
      (runPacket riot defaults 8 (List.replicate 200 8) (fun _ => 125) s).1 := by
  obtain ⟨s, hs⟩ : ∃ s, (sweep riot defaults).run (init riot defaults)
      [.size 8, .packet 7 (List.replicate 8 7) fun _ => 125, .size 200] = some s := ⟨_, rfl⟩
  have hreach := TransitionSystem.reach_of_run (TransitionSystem.meets_true _ _) hs
  have hfields : s.fragmented = some true ∧ s.payloadSize = 200 := by
    obtain rfl := Option.some.inj hs
    exact ⟨rfl, rfl⟩
  refine ⟨s, hs, frames_fragment_packet riot defaults length_riot_mhr hreach ?_ ?_ 8 ?_⟩
  · rw [hfields.1, Option.isSome_some]
  · rw [hfields.2, List.length_replicate]
  · exact fun _ => Nat.le_refl 125

end Exp

end RiotPlayground
