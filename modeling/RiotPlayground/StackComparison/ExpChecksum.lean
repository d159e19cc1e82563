import RiotPlayground.StackComparison.ExpSweep

/-!
# The UDP checksum of the experiment

`_init_udp` replaces a zero before it inverts the sum. The sum never is zero, as the protocol
number is not, but it can be all ones, and then the checksum is zero.
-/

namespace RiotPlayground

open Buffer OnesComplement

namespace Exp

def udpHeader (c : Config) (length : ℕ) (chksum : List UInt8) : List UInt8 :=
  htons c.srcPort.toNat ++ htons c.dstPort.toNat ++ htons (length + 8) ++ chksum

/-- What the checksum of a datagram is summed up over. -/
def covered (c : Config) (datagram : List UInt8) : List UInt8 :=
  pseudoHeader (c.src.toList ++ c.dst.toList) PROTNUM_UDP (UInt16.ofNat datagram.length) ++ datagram

/-- The checksum of a UDP datagram is there, and right. -/
def Acceptable (c : Config) (datagram : List UInt8) : Prop :=
  (datagram.drop 6).take 2 ≠ [0, 0] ∧ sum 0 (words (covered c datagram)) = 0xffff

def udpDatagram (s : State) : List UInt8 := slice s.uncomp 40 (8 + s.payloadSize)

/-- The sum over a datagram whose checksum is not there yet. -/
def udpTotal (c : Config) (payload : List UInt8) : ℕ :=
  total (words (covered c (udpHeader c payload.length [0, 0] ++ payload)))

variable {R : Riot} {c : Config}

@[simp] lemma length_htons (n : ℕ) : (htons n).length = 2 := rfl

lemma total_words_htons {n : ℕ} (h : n < 65536) : total (words (htons n)) = n := by
  simp only [htons, words, total, UInt8.toNat_ofNat', UInt16.toNat_ofNat']
  omega

lemma htons_eq_zero_iff {n : ℕ} (h : n < 65536) : htons n = [0, 0] ↔ n = 0 := by
  refine ⟨fun hn => ?_, fun hn => hn ▸ rfl⟩
  rw [← total_words_htons h, hn]
  rfl

lemma length_addrs (c : Config) : (c.src.toList ++ c.dst.toList).length = 32 := by
  rw [List.length_append, Vector.length_toList, Vector.length_toList]

lemma length_pseudoHeader {addrs : List UInt8} (h : addrs.length = 32) (protNum : UInt8)
    (length : UInt16) : (pseudoHeader addrs protNum length).length = 40 := by
  simp only [pseudoHeader, htons, List.length_append, h, List.length_cons, List.length_nil]

lemma length_udpHeader (c : Config) (length : ℕ) (chksum : List UInt8) :
    (udpHeader c length chksum).length = 6 + chksum.length := by
  simp only [udpHeader, htons, List.length_append, List.length_cons, List.length_nil]

lemma total_covered (c : Config) (datagram : List UInt8) : total (words (covered c datagram)) =
    total (words (pseudoHeader (c.src.toList ++ c.dst.toList) PROTNUM_UDP
      (UInt16.ofNat datagram.length))) + total (words datagram) := by
  rw [covered, total_words_append (by rw [length_pseudoHeader (length_addrs c)])]

lemma total_covered_udp {chksum : List UInt8} (h : chksum.length = 2) (payload : List UInt8) :
    total (words (covered c (udpHeader c payload.length chksum ++ payload))) =
      udpTotal c payload + total (words chksum) := by
  have hlength {chksum : List UInt8} (h : chksum.length = 2) :
      (udpHeader c payload.length chksum ++ payload).length = 8 + payload.length := by
    rw [List.length_append, length_udpHeader, h]
  have hheader {chksum : List UInt8} (h : chksum.length = 2) :
      total (words (udpHeader c payload.length chksum ++ payload)) =
        total (words (udpHeader c payload.length [])) + total (words chksum) +
          total (words payload) := by
    have hsplit : udpHeader c payload.length chksum =
        udpHeader c payload.length [] ++ chksum := by
      rw [udpHeader, udpHeader, List.append_nil]
    rw [hsplit, List.append_assoc, total_words_append (by rw [length_udpHeader, List.length_nil]),
      total_words_append (by rw [h]), Nat.add_assoc]
  have hzero : total (words [0, 0]) = 0 := rfl
  rw [udpTotal, total_covered, total_covered, hlength h, hlength (by rfl), hheader h,
    hheader (by rfl), hzero]
  omega

lemma udpTotal_pos (c : Config) (payload : List UInt8) : udpTotal c payload ≠ 0 := by
  have hprot : total (words [0, 0, 0, PROTNUM_UDP]) = 17 := rfl
  have heven (length : UInt16) :
      (c.src.toList ++ c.dst.toList ++ [0, 0] ++ htons length.toNat).length % 2 = 0 := by
    rw [List.length_append, List.length_append, length_addrs, length_htons]
    rfl
  rw [udpTotal, total_covered, pseudoHeader, total_words_append (heven _), hprot]
  omega

lemma slice_after_udpHeader (uncomp : ℕ → UInt8) (length n : ℕ) :
    slice (poke uncomp 40 (udpHeader c length [0, 0])) (40 + 8) n = slice uncomp IPUDP_LEN n :=
  slice_poke_after (Nat.le_of_eq (congrArg (40 + ·) (length_udpHeader c length [0, 0])))

/-- The sum is never zero, so that it is inverted as it is. -/
lemma initUdp_eq (hsums : R.Sums) {uncomp : ℕ → UInt8} {payload : List UInt8}
    (haddrs : slice uncomp 8 32 = c.src.toList ++ c.dst.toList)
    (hpayload : slice uncomp IPUDP_LEN payload.length = payload)
    (hle : payload.length ≤ EXP_MAX_PAYLOAD) :
    initUdp R c payload.length uncomp =
      poke (poke uncomp 40 (udpHeader c payload.length [0, 0])) 46
        (htons (65535 - fold (udpTotal c payload))) := by
  have hlen : (UInt16.ofNat (payload.length + 8)).toNat = payload.length + 8 := by
    rw [UInt16.toNat_ofNat']
    simp only [EXP_MAX_PAYLOAD] at hle
    omega
  obtain ⟨u, hu⟩ : ∃ u, u = poke uncomp 40 (udpHeader c payload.length [0, 0]) := ⟨_, rfl⟩
  have hudp : slice u 40 (payload.length + 8) = udpHeader c payload.length [0, 0] ++ payload := by
    have hself : slice u 40 8 = udpHeader c payload.length [0, 0] := hu ▸ slice_poke_self ..
    rw [Nat.add_comm, slice_add, hself, hu, slice_after_udpHeader, hpayload]
  have hhdr : (slice u 0 40).drop 8 = c.src.toList ++ c.dst.toList := by
    rw [slice_add u 0 8 32, List.drop_left' (length_slice ..), hu, slice_poke_before (by decide),
      haddrs]
  obtain ⟨chksum, hchksum⟩ : ∃ chksum, chksum = R.ipv6HdrInetCsum
      (R.inetCsum 0 (slice u 40 (payload.length + 8))) (slice u 0 40) PROTNUM_UDP
      (UInt16.ofNat (payload.length + 8)) := ⟨_, rfl⟩
  have hsum : chksum.toNat = fold (udpTotal c payload) := by
    have hlength : (udpHeader c payload.length [0, 0] ++ payload).length = payload.length + 8 := by
      rw [← hudp, length_slice]
    rw [hchksum, hsums.inetCsum, hsums.ipv6HdrInetCsum, hhdr, hudp, toNat_sum, toNat_sum,
      fold_fold_add, udpTotal, total_covered, hlength, UInt16.toNat_zero, Nat.zero_add,
      Nat.add_comm]
  have hne : chksum ≠ 0 := by
    rintro rfl
    have hpos := udpTotal_pos c payload
    rw [fold, if_neg hpos] at hsum
    exact absurd hsum (Nat.succ_ne_zero _).symm
  have hdef : initUdp R c payload.length uncomp =
      poke u 46 (htons (~~~(if chksum = 0 then 0xffff else chksum)).toNat) := by
    rw [hchksum, hu, initUdp, udpHeader, hlen]
  have hsize : UInt16.size - 1 = 65535 := rfl
  rw [hdef, if_neg hne, UInt16.toNat_not, hsum, hu, hsize]

lemma slice_initUdp_udp (hsums : R.Sums) {uncomp : ℕ → UInt8} {payload : List UInt8}
    (haddrs : slice uncomp 8 32 = c.src.toList ++ c.dst.toList)
    (hpayload : slice uncomp IPUDP_LEN payload.length = payload)
    (hle : payload.length ≤ EXP_MAX_PAYLOAD) :
    slice (initUdp R c payload.length uncomp) 40 (8 + payload.length) =
      udpHeader c payload.length (htons (65535 - fold (udpTotal c payload))) ++ payload := by
  have happend (chksum : List UInt8) :
      udpHeader c payload.length chksum = udpHeader c payload.length [] ++ chksum := by
    rw [udpHeader, udpHeader, List.append_nil]
  obtain ⟨u, hu⟩ : ∃ u, u = poke uncomp 40 (udpHeader c payload.length [0, 0]) := ⟨_, rfl⟩
  have hports : slice u 40 6 = udpHeader c payload.length [] := by
    rw [hu, happend]
    exact slice_poke_left uncomp 40 (udpHeader c payload.length []) [0, 0]
  obtain ⟨chksum, hchksum⟩ : ∃ chksum, chksum = htons (65535 - fold (udpTotal c payload)) :=
    ⟨_, rfl⟩
  have hlen : chksum.length = 2 := hchksum ▸ rfl
  have h₁ : slice (poke u 46 chksum) 40 6 = udpHeader c payload.length [] :=
    (slice_poke_before (Nat.le_refl 46)).trans hports
  have h₂ : slice (poke u 46 chksum) (40 + 6) 2 = chksum := hlen ▸ slice_poke_self u 46 chksum
  have hend : 46 + chksum.length ≤ 40 + 8 := Nat.le_of_eq (congrArg (46 + ·) hlen)
  have h₃ : slice (poke u 46 chksum) (40 + 8) payload.length = payload := by
    rw [slice_poke_after hend, hu, slice_after_udpHeader, hpayload]
  rw [initUdp_eq hsums haddrs hpayload hle, ← hu, ← hchksum, slice_add _ 40 8, slice_add _ 40 6 2,
    h₁, h₂, h₃, happend chksum]

lemma acceptable_iff (c : Config) (payload : List UInt8) : Acceptable c
    (udpHeader c payload.length (htons (65535 - fold (udpTotal c payload))) ++ payload) ↔
      udpTotal c payload % 65535 ≠ 0 := by
  have hpos := udpTotal_pos c payload
  have hle := fold_le (udpTotal c payload)
  have hlt : 65535 - fold (udpTotal c payload) < 65536 := by omega
  have hsum : (sum 0 (words (covered c (udpHeader c payload.length
      (htons (65535 - fold (udpTotal c payload))) ++ payload)))).toNat = 65535 := by
    rw [toNat_sum, total_covered_udp (length_htons _), total_words_htons hlt, UInt16.toNat_zero,
      Nat.zero_add, fold_add_complement hpos]
  have hchksum : ((udpHeader c payload.length (htons (65535 - fold (udpTotal c payload))) ++
      payload).drop 6).take 2 = htons (65535 - fold (udpTotal c payload)) := rfl
  rw [Acceptable, hchksum, ne_eq, htons_eq_zero_iff hlt, ne_eq, ← fold_eq_max_iff hpos]
  exact ⟨fun h => by omega, fun h => ⟨by omega, UInt16.toNat_inj.mp hsum⟩⟩

lemma prepareFragn_uncomp (n frag offset : ℕ) (s : State) :
    (prepareFragn c n frag offset s).uncomp = s.uncomp := by
  induction n generalizing frag offset s with
  | zero => rfl
  | succ n ih => exact ih _ _ _

lemma prepareSixlowpan_uncomp (s : State) : (prepareSixlowpan c s).uncomp = s.uncomp := by
  rw [prepareSixlowpan]
  split
  · exact prepareFragn_uncomp _ _ _ _
  · rfl

lemma slice_loadPacket_addrs (payload : List UInt8) (s : State) :
    slice (loadPacket R c payload s).uncomp 8 32 = slice s.uncomp 8 32 := by
  rw [loadPacket, setFrag_uncomp, initUdp, slice_poke_before (by decide),
    slice_poke_before (by decide), slice_poke_before (by decide)]

lemma addrs_step {s s' : State} {e : Event}
    (h : slice s.uncomp 8 32 = c.src.toList ++ c.dst.toList) (hs : step R c s e = some s') :
    slice s'.uncomp 8 32 = c.src.toList ++ c.dst.toList := by
  cases e with
  | size n =>
    obtain rfl := Option.some.inj (Option.ite_none_right_eq_some.mp hs).2
    rw [prepareSixlowpan_uncomp, h]
  | packet id payload bufs =>
    obtain rfl := Option.some.inj (Option.ite_none_right_eq_some.mp hs).2
    rw [runPacket_uncomp, slice_loadPacket_addrs, h]

lemma addrs_reach {s : State} (hs : (sweep R c).Reach (fun _ _ => True) (init R c) s) :
    slice s.uncomp 8 32 = c.src.toList ++ c.dst.toList := by
  refine hs.invariant (P := fun s => slice s.uncomp 8 32 = c.src.toList ++ c.dst.toList) ?_
    fun _ _ _ h _ hstep => addrs_step h hstep
  have hself := slice_poke_self (fun _ => (0 : UInt8)) 8 (c.src.toList ++ c.dst.toList)
  rwa [length_addrs] at hself

/-- Whatever the MHRs are. -/
lemma ready_reach {s : State} (hs : (sweep R c).Reach (fun _ _ => True) (init R c) s) :
    Ready { R with mhr := fun i => slice ((init R c).fragBuf i) 0 MHR_LEN } c s := by
  refine hs.invariant (P := Ready _ c) ⟨Nat.zero_le _, rfl, fun i _ => rfl, ?_, ?_⟩
    fun _ _ _ h _ hstep => ready_step h hstep
  · intro h
    cases h
  · intro h
    cases h

lemma chksum_copied {S : Riot} {s : State} (h : Ready S c s) (hsome : s.fragmented.isSome) (id : ℕ)
    (payload : List UInt8) :
    slice ((buildFrames R c id payload s).1.fragBuf 0) (s.fragLen 0 - 2) 2 =
      slice (buildFrames R c id payload s).1.uncomp 46 2 := by
  have hiphc := iphcLen_cases c
  obtain ⟨mode, hmode⟩ := Option.isSome_iff_exists.mp hsome
  have hload (hlen : iphcLen c ≤ s.fragLen 0) :
      slice ((loadPacket R c payload s).fragBuf 0) (s.fragLen 0 - 2) 2 =
        chksumBytes R c payload s := by
    have hself := slice_poke_self (s.fragBuf 0) (s.fragLen 0 - 2) (chksumBytes R c payload s)
    rw [(loadPacket_frames payload s).1, show s.fragLen 0 - iphcLen c + (iphcLen c - 2) =
      s.fragLen 0 - 2 by omega]
    rwa [chksumBytes, length_slice] at hself
  rw [buildFrames_uncomp]
  cases mode with
  | false =>
    have hw := h.whole hmode
    rw [buildFrames_head_whole hw hmode id payload (by rw [hw.len]; omega),
      hload (by rw [hw.len]; omega), chksumBytes]
  | true =>
    have hf := h.fragments hmode
    rw [buildFrames_head_fragments hf hmode id payload (by rw [hf.len]; omega)
      (.inr (by rw [hf.len]; omega)), hload (by rw [hf.len]; omega), chksumBytes]

lemma udpDatagram_buildFrames (hsums : R.Sums) {s : State} (hle : s.payloadSize ≤ EXP_MAX_PAYLOAD)
    (haddrs : slice s.uncomp 8 32 = c.src.toList ++ c.dst.toList) {payload : List UInt8}
    (hpayload : payload.length = s.payloadSize) (id : ℕ) :
    udpDatagram (buildFrames R c id payload s).1 =
      udpHeader c payload.length (htons (65535 - fold (udpTotal c payload))) ++ payload := by
  rw [udpDatagram, (buildFrames_fields id payload s).1, buildFrames_uncomp, loadPacket,
    setFrag_uncomp, ← hpayload]
  refine slice_initUdp_udp hsums ?_ (slice_poke_self ..) (hpayload ▸ hle)
  rw [slice_poke_before (by decide), haddrs]

/-- In every sweep the checksum of a packet is acceptable unless the words it covers add up to a
multiple of 65535. -/
theorem chksum_acceptable_iff (R : Riot) (c : Config) (hsums : R.Sums) {s : State}
    (hs : (sweep R c).Reach (fun _ _ => True) (init R c) s) (hsome : s.fragmented.isSome)
    {payload : List UInt8} (hpayload : payload.length = s.payloadSize) (id : ℕ) :
    Acceptable c (udpDatagram (buildFrames R c id payload s).1) ∧
      slice ((buildFrames R c id payload s).1.fragBuf 0) (s.fragLen 0 - 2) 2 =
        slice (buildFrames R c id payload s).1.uncomp 46 2 ↔
      udpTotal c payload % 65535 ≠ 0 := by
  have hready := ready_reach hs
  rw [udpDatagram_buildFrames hsums hready.size_le (addrs_reach hs) hpayload, acceptable_iff,
    and_iff_left (chksum_copied hready hsome id payload)]

theorem chksum_acceptable_eightBytes : ∃ s,
    (sweep riot defaults).run (init riot defaults) [.size 8] = some s ∧
    Acceptable defaults (udpDatagram (buildFrames riot defaults 7 (List.replicate 8 7) s).1) := by
  obtain ⟨s, hs⟩ : ∃ s, (sweep riot defaults).run (init riot defaults) [.size 8] = some s :=
    ⟨_, rfl⟩
  have hreach := TransitionSystem.reach_of_run (TransitionSystem.meets_true _ _) hs
  have hfields : s.fragmented = some false ∧ s.payloadSize = 8 := by
    obtain rfl := Option.some.inj hs
    exact ⟨rfl, rfl⟩
  refine ⟨s, hs, ((chksum_acceptable_iff riot defaults riot_sums hreach ?_ ?_ 7).mpr ?_).1⟩
  · rw [hfields.1, Option.isSome_some]
  · rw [hfields.2, List.length_replicate]
  · decide +kernel

/-- Packet 12 of 616 bytes goes out with checksum zero. -/
theorem chksum_zero_616Bytes : ∃ s,
    (sweep riot defaults).run (init riot defaults) [.size 616] = some s ∧
    ¬ Acceptable defaults
      (udpDatagram (buildFrames riot defaults 12 (List.replicate 616 12) s).1) := by
  obtain ⟨s, hs⟩ : ∃ s, (sweep riot defaults).run (init riot defaults) [.size 616] = some s :=
    ⟨_, rfl⟩
  have hreach := TransitionSystem.reach_of_run (TransitionSystem.meets_true _ _) hs
  have hsize : s.payloadSize = 616 := by
    obtain rfl := Option.some.inj hs
    rfl
  have hlen : (List.replicate 616 (12 : UInt8)).length = s.payloadSize := by
    rw [hsize, List.length_replicate]
  have hzero : udpTotal defaults (List.replicate 616 12) % 65535 = 0 := by decide +kernel
  refine ⟨s, hs, ?_⟩
  rw [udpDatagram_buildFrames riot_sums (ready_reach hreach).size_le (addrs_reach hreach) hlen,
    acceptable_iff]
  exact not_not.mpr hzero

end Exp

end RiotPlayground
