import RiotPlayground.Lib.Tiling
import RiotPlayground.Websniffer.Dissect

/-!
# What a packet returned by `add` is made of

`add` compares one length with the announced datagram size. Under the conditions of
`Admissible` on every fragment that arrives, this comparison only succeeds when the buffered
fragments tile the datagram.
-/

namespace RiotPlayground

open Tiling

/-- Bytes of the datagram in the payload of a `LoWPANFragmentationFirst`. -/
def firstLength (header : List UInt8 → Option (ℕ × ℕ)) (payload : List UInt8) : ℕ :=
  match header payload with
  | some (c, u) => u + (payload.length - c)
  | none => if payload.head? = some 0x41 then payload.length - 1 else payload.length

/-- The range of the uncompressed datagram that a fragment carries, start and length. -/
def FragLayer.range (header : List UInt8 → Option (ℕ × ℕ)) : FragLayer → ℕ × ℕ
  | .first _ _ payload => (0, firstLength header payload)
  | .subsequent _ _ datagramOffset payload => (8 * datagramOffset, payload.length)

namespace SixlowpanReassembly

variable {Mac Pkt IPv6 τ : Type} {S : Scapy Mac Pkt IPv6}
  {header : List UInt8 → Option (ℕ × ℕ)}

/-- The fragments in `es` make up a whole datagram of `size` bytes. -/
structure Whole (header : List UInt8 → Option (ℕ × ℕ)) (es : List (Entry Mac τ))
    (size : ℕ) : Prop where
  first : ∃! e, e ∈ distinctByOffset es ∧ e.layer.isFirst
  size_eq : ∀ e ∈ distinctByOffset es, e.layer.datagramSize = size
  tiles : Tiles ((distinctByOffset es).map fun e => e.layer.range header) size

/-- The new fragment of a pair is of the datagram that `es` are of: it announces the same
size, and at an offset not seen yet it lies inside the datagram, overlaps none of the
fragments there and, at offset 0, is a first fragment holding a whole IPHC header. -/
structure Fits (header : List UInt8 → Option (ℕ × ℕ)) (es : List (Entry Mac τ))
    (layer : FragLayer) : Prop where
  size_eq : ∀ e ∈ es, e.layer.datagramSize = layer.datagramSize
  disjoint : (∀ e ∈ es, e.layer.offset ≠ layer.offset) →
    ∀ e ∈ firstWins (fun e : Entry Mac τ => e.layer.offset) es,
      Disjoint (span (e.layer.range header)) (span (layer.range header))
  within : (∀ e ∈ es, e.layer.offset ≠ layer.offset) →
    (layer.range header).1 + (layer.range header).2 ≤ layer.datagramSize
  head : (∀ e ∈ es, e.layer.offset ≠ layer.offset) → layer.offset = 0 →
    layer.isFirst ∧ (header layer.payload).isSome

/-- The condition on an event: an added fragment fits the ones buffered for its pair, and
while the first fragment is missing the payloads there do not dissect as IPv6. -/
def Admissible (S : Scapy Mac Pkt IPv6) (header : List UInt8 → Option (ℕ × ℕ))
    (s : SixlowpanReassembly Mac τ) : Event Mac τ → Prop
  | .add time fragment => ∀ layer, fragment.lowpan = some layer →
      Fits header (s.buffered fragment.srcAddr layer.datagramTag) layer ∧
      let es := s.buffered fragment.srcAddr layer.datagramTag ++ [⟨layer, time, fragment⟩]
      ((∀ e ∈ es, e.layer.isFirst = false) →
        S.ipv6 (S.dot15d4 fragment.mac (payloadBytes es)) = none)
  | _ => True

/-- Reassembly soundness over the runs all of whose events meet `C`. -/
def ReassemblySound (S : Scapy Mac Pkt IPv6) (header : List UInt8 → Option (ℕ × ℕ))
    (C : SixlowpanReassembly Mac τ → Event Mac τ → Prop) : Prop :=
  ∀ now s, (system S).Reach C (init now) s → ∀ time fragment, C s (.add time fragment) →
    ∀ s' src tag pkt, add S s time fragment = (s', some src, some tag, some pkt) →
      ∃ es size, s'.fragments.lookup (src, tag) = some es ∧ Whole header es size

instance [DecidableEq Mac] [DecidableEq τ] (header : List UInt8 → Option (ℕ × ℕ))
    (es : List (Entry Mac τ)) (layer : FragLayer) : Decidable (Fits header es layer) :=
  decidable_of_iff (_ ∧ _ ∧ _ ∧ _)
    ⟨fun h => ⟨h.1, h.2.1, h.2.2.1, h.2.2.2⟩, fun h => ⟨h.1, h.2, h.3, h.4⟩⟩

def uncompressedFirst : Frame ℕ :=
  ⟨8, 1166689614016130, some (.first 140 15
    (0x41 :: [0x60, 0, 0, 0, 0, 100, 17, 64] ++ List.replicate 40 0))⟩

/-- `add` returns an uncompressed first fragment as if it were the whole datagram. -/
theorem uncompressedFirst_returned : lowpanScapy.Dissects iphcHeader ∧
    ¬ ReassemblySound (τ := ℕ) lowpanScapy iphcHeader fun _ _ => True := by
  refine ⟨lowpanScapy_dissects, fun h => ?_⟩
  obtain ⟨es, size, hl, hw⟩ := h 0 _ .refl 0 uncompressedFirst trivial _ _ _ _ rfl
  obtain rfl := Option.some.inj hl
  have hsize : 140 = size := hw.size_eq _ List.mem_cons_self
  subst hsize
  obtain ⟨r, hr, hx⟩ := (hw.tiles.covers 100).mpr (by decide)
  obtain rfl := List.mem_singleton.mp hr
  exact absurd hx (by decide)

/-- The entries of a pair are fragments of one datagram, as far as they go. -/
structure Coherent (header : List UInt8 → Option (ℕ × ℕ)) (es : List (Entry Mac τ)) :
    Prop where
  size_eq : ∀ e ∈ es, ∀ e' ∈ es, e.layer.datagramSize = e'.layer.datagramSize
  disjoint : (firstWins (fun e : Entry Mac τ => e.layer.offset) es).Pairwise fun a b =>
    Disjoint (span (a.layer.range header)) (span (b.layer.range header))
  within : ∀ e ∈ firstWins (fun e : Entry Mac τ => e.layer.offset) es,
    (e.layer.range header).1 + (e.layer.range header).2 ≤ e.layer.datagramSize
  head : ∀ e ∈ firstWins (fun e : Entry Mac τ => e.layer.offset) es, e.layer.offset = 0 →
    e.layer.isFirst ∧ (header e.layer.payload).isSome

lemma coherent_nil : Coherent header ([] : List (Entry Mac τ)) :=
  ⟨by simp, by simp [firstWins, firstWinsFrom], by simp [firstWins, firstWinsFrom],
    by simp [firstWins, firstWinsFrom]⟩

lemma Coherent.append {es : List (Entry Mac τ)} (h : Coherent header es)
    {entry : Entry Mac τ} (hf : Fits header es entry.layer) :
    Coherent header (es ++ [entry]) := by
  have hsize : ∀ e ∈ es ++ [entry], e.layer.datagramSize = entry.layer.datagramSize := by
    intro e he
    rcases List.mem_append.mp he with he | he
    · exact hf.size_eq e he
    · rw [List.mem_singleton.mp he]
  have hall : ∀ e ∈ es ++ [entry], ∀ e' ∈ es ++ [entry],
      e.layer.datagramSize = e'.layer.datagramSize :=
    fun e he e' he' => (hsize e he).trans (hsize e' he').symm
  by_cases hold : ∃ b ∈ es, b.layer.offset = entry.layer.offset
  · have hkeep : firstWins (fun e : Entry Mac τ => e.layer.offset) (es ++ [entry]) =
        firstWins (fun e : Entry Mac τ => e.layer.offset) es := by
      rw [firstWins_append_singleton, if_pos hold]
    exact ⟨hall, hkeep ▸ h.disjoint, hkeep ▸ h.within, hkeep ▸ h.head⟩
  · have hnew : ∀ e ∈ es, e.layer.offset ≠ entry.layer.offset :=
      fun e he heq => hold ⟨e, he, heq⟩
    have hkeep : firstWins (fun e : Entry Mac τ => e.layer.offset) (es ++ [entry]) =
        firstWins (fun e : Entry Mac τ => e.layer.offset) es ++ [entry] := by
      rw [firstWins_append_singleton, if_neg hold]
    refine ⟨hall, ?_, ?_, ?_⟩
    · rw [hkeep, List.pairwise_append]
      refine ⟨h.disjoint, List.pairwise_singleton _ _, fun a ha b hb => ?_⟩
      rw [List.mem_singleton.mp hb]
      exact hf.disjoint hnew a ha
    · rw [hkeep]
      intro e he
      rcases List.mem_append.mp he with he | he
      · exact h.within e he
      · rw [List.mem_singleton.mp he]
        exact hf.within hnew
    · rw [hkeep]
      intro e he
      rcases List.mem_append.mp he with he | he
      · exact h.head e he
      · rw [List.mem_singleton.mp he]
        exact hf.head hnew

def WellBuffered (header : List UInt8 → Option (ℕ × ℕ)) (s : SixlowpanReassembly Mac τ) :
    Prop :=
  ∀ src tag, Coherent header (s.buffered src tag)

lemma wellBuffered_step {s s' : SixlowpanReassembly Mac τ} {e : Event Mac τ}
    (h : WellBuffered header s) (hC : Admissible S header s e) (hs : step S s e = some s') :
    WellBuffered header s' := by
  intro src tag
  rcases step_buffered hs src tag with heq | heq | ⟨time, fragment, layer, rfl, hl, rfl, rfl, heq⟩
  · rw [heq]; exact h src tag
  · rw [heq]; exact coherent_nil
  · rw [heq]; exact (h _ _).append (hC layer hl).1

lemma wellBuffered_of_reach {now : ℚ} {s : SixlowpanReassembly Mac τ}
    (h : (system S).Reach (Admissible S header) (init now) s) : WellBuffered header s :=
  h.invariant (fun _ _ => coherent_nil) fun _ _ _ hw hC hs => wellBuffered_step hw hC hs

/-- With the first fragment there, the bytes of the datagram that have arrived are the
header it stands for and the rest of the payloads. -/
lemma sum_ranges_eq {es : List (Entry Mac τ)} (hS : S.Dissects header) (h : Coherent header es)
    {f : Entry Mac τ} (hf : f ∈ distinctByOffset es) (h0 : f.layer.offset = 0) :
    ∃ c u, header (payloadBytes es) = some (c, u) ∧
      ((distinctByOffset es).map fun e => (e.layer.range header).2).sum =
        u + ((payloadBytes es).length - c) := by
  obtain ⟨hfirst, hsome⟩ := h.head f (mem_distinctByOffset.mp hf) h0
  obtain ⟨⟨c, u⟩, hcu⟩ := Option.isSome_iff_exists.mp hsome
  have hsorted := distinctByOffset_pairwise es
  obtain ⟨rest, hkept⟩ : ∃ rest, distinctByOffset es = f :: rest := by
    cases hd : distinctByOffset es with
    | nil => rw [hd] at hf; cases hf
    | cons a rest =>
      rw [hd] at hf hsorted
      rcases List.mem_cons.mp hf with rfl | hf
      · exact ⟨rest, rfl⟩
      · have := (List.pairwise_cons.mp hsorted).1 f hf
        omega
  rw [hkept] at hsorted
  have hrest : ∀ e ∈ rest, (e.layer.range header).2 = e.layer.payload.length := by
    intro e he
    have hpos := (List.pairwise_cons.mp hsorted).1 e he
    cases hl : e.layer with
    | first => rw [hl] at hpos; exact absurd hpos (by simp [FragLayer.offset])
    | subsequent => rfl
  have hlen : (f.layer.range header).2 = u + (f.layer.payload.length - c) := by
    cases hl : f.layer with
    | first =>
      rw [hl] at hcu
      simp only [FragLayer.payload] at hcu
      simp [FragLayer.range, firstLength, hcu, FragLayer.payload]
    | subsequent => rw [hl] at hfirst; cases hfirst
  have hbytes : payloadBytes es = f.layer.payload ++ rest.flatMap fun e => e.layer.payload := by
    rw [payloadBytes, hkept, List.flatMap_cons]
  have hc : c ≤ f.layer.payload.length := hS.header_le _ _ _ hcu
  have hsum : (rest.map fun e => (e.layer.range header).2).sum =
      (rest.map fun e => e.layer.payload.length).sum := by
    rw [List.map_congr_left hrest]
  refine ⟨c, u, by rw [hbytes]; exact hS.header_append _ _ _ _ hcu, ?_⟩
  rw [hkept, List.map_cons, List.sum_cons, hlen, hsum, hbytes, List.length_append,
    List.length_flatMap]
  omega

lemma whole_of_reassemble {es : List (Entry Mac τ)} (hS : S.Dissects header)
    (h : Coherent header es) {fragment : Frame Mac} {size : ℕ} {pkt : Pkt}
    (hsize : ∀ e ∈ es, e.layer.datagramSize = size)
    (hhead : (∀ e ∈ es, e.layer.isFirst = false) →
      S.ipv6 (S.dot15d4 fragment.mac (payloadBytes es)) = none)
    (hr : reassemble S es fragment size = some pkt) : Whole header es size := by
  obtain ⟨ip, hip, hplen⟩ := reassemble_some hr
  have hex : ∃ f ∈ distinctByOffset es, f.layer.offset = 0 := by
    by_contra hno
    have hnone := hhead fun e he => by
      by_contra hfirst
      obtain ⟨f, hf, hoff⟩ := exists_mem_firstWins (fun e : Entry Mac τ => e.layer.offset) he
      refine hno ⟨f, mem_distinctByOffset.mpr hf, hoff.trans ?_⟩
      cases hl : e.layer with
      | first => rfl
      | subsequent => simp [hl, FragLayer.isFirst] at hfirst
    rw [hnone] at hip
    cases hip
  obtain ⟨f, hf, h0⟩ := hex
  obtain ⟨c, u, hcu, hsum⟩ := sum_ranges_eq hS h hf h0
  obtain ⟨ip', hip', hplen'⟩ := hS.iphc fragment.mac _ _ _ hcu
  obtain rfl : ip = ip' := Option.some.inj (hip.symm.trans hip')
  refine ⟨⟨f, ⟨hf, (h.head f (mem_distinctByOffset.mp hf) h0).1⟩, ?_⟩,
    fun e he => hsize e (mem_of_mem_distinctByOffset he), ?_⟩
  · rintro e ⟨he, hfirst⟩
    have he0 : e.layer.offset = 0 := by
      cases hl : e.layer with
      | first => rfl
      | subsequent => rw [hl] at hfirst; cases hfirst
    exact firstWins_inj (mem_distinctByOffset.mp he) (mem_distinctByOffset.mp hf)
      (he0.trans h0.symm)
  · apply tiles_of_sum_eq
    · rw [List.pairwise_map]
      exact (List.perm_insertionSort _ _).symm.pairwise h.disjoint fun hab => hab.symm
    · intro r hr
      obtain ⟨e, he, rfl⟩ := List.mem_map.mp hr
      rw [← hsize e (mem_of_mem_distinctByOffset he)]
      exact h.within e (mem_distinctByOffset.mp he)
    · rw [List.map_map, ← hplen, hplen', ← hsum]
      rfl

/-- In a run whose added fragments all fit, `add` returns whole datagrams only. -/
theorem reassembly_sound_of_admissible (hS : S.Dissects header) :
    ReassemblySound (τ := τ) S header (Admissible S header) := by
  intro now s hs time fragment hC s' src tag pkt hadd
  obtain ⟨layer, hl, rfl, rfl, rfl, hr⟩ := add_some hadd
  have hw := wellBuffered_of_reach hs
  obtain ⟨hfit, hhead⟩ := hC layer hl
  refine ⟨_, layer.datagramSize, lookup_store s _ _ _, ?_⟩
  rw [appended_eq] at hr ⊢
  refine whole_of_reassemble hS ((hw _ _).append hfit) ?_ hhead hr
  intro e he
  rcases List.mem_append.mp he with he | he
  · exact hfit.size_eq e he
  · rw [List.mem_singleton.mp he]

theorem reassembly_sound_short : ∃ s' pkt es size,
    add lowpanScapy (add lowpanScapy (init 0) 0 shortFirst).1 1 shortSubsequent =
      (s', some 1166689614016130, some 15, some pkt) ∧
    s'.fragments.lookup (1166689614016130, 15) = some es ∧ Whole iphcHeader es size := by
  have h0 : Admissible lowpanScapy iphcHeader (init 0) (.add 0 shortFirst) := by
    intro layer hl
    obtain rfl := Option.some.inj hl
    exact ⟨by decide, by decide⟩
  have h1 : Admissible lowpanScapy iphcHeader (add lowpanScapy (init 0) 0 shortFirst).1
      (.add 1 shortSubsequent) := by
    intro layer hl
    obtain rfl := Option.some.inj hl
    exact ⟨by decide, by decide⟩
  obtain ⟨es, size, h⟩ := reassembly_sound_of_admissible lowpanScapy_dissects 0 _
    (.step .refl h0 rfl) 1 shortSubsequent h1 _ _ _ _ rfl
  exact ⟨_, _, es, size, rfl, h⟩

end SixlowpanReassembly

end RiotPlayground
