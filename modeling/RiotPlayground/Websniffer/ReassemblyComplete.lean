import RiotPlayground.Websniffer.Dissect

/-!
# Reassembly does not depend on the order of arrival

A datagram is sent as a `Fragmentation`. Whatever arrives of other pairs, in whatever order
and however often its frames arrive, the last missing one makes `add` return the packet of the
concatenated payloads.
-/

namespace RiotPlayground

/-- A datagram as its sender fragments it: an IPHC-compressed first fragment and subsequent
ones (layer, offset, payload) in the order of their offsets. -/
structure Fragmentation (Mac : Type) where
  src : ℕ
  tag : ℕ
  size : ℕ
  firstMac : Mac
  firstPayload : List UInt8
  rest : List (Mac × ℕ × List UInt8)
  iphc : ∃ b bs, firstPayload = b :: bs ∧ b.toNat / 32 = 3
  offsets_pos : ∀ r ∈ rest, 0 < r.2.1
  sorted : rest.Pairwise fun a b => a.2.1 < b.2.1

namespace Fragmentation

variable {Mac : Type}

def firstLayer (D : Fragmentation Mac) : FragLayer := .first D.size D.tag D.firstPayload

def restLayer (D : Fragmentation Mac) (r : Mac × ℕ × List UInt8) : FragLayer :=
  .subsequent D.size D.tag r.2.1 r.2.2

def frames (D : Fragmentation Mac) : List (Frame Mac) :=
  ⟨D.firstMac, D.src, some D.firstLayer⟩ ::
    D.rest.map fun r => ⟨r.1, D.src, some (D.restLayer r)⟩

def layers (D : Fragmentation Mac) : List FragLayer := D.firstLayer :: D.rest.map D.restLayer

def bytes (D : Fragmentation Mac) : List UInt8 :=
  D.firstPayload ++ D.rest.flatMap fun r => r.2.2

lemma layers_sorted (D : Fragmentation Mac) :
    D.layers.Pairwise fun a b => a.offset < b.offset := by
  refine List.pairwise_cons.mpr ⟨fun l hl => ?_, List.pairwise_map.mpr D.sorted⟩
  obtain ⟨r, hr, rfl⟩ := List.mem_map.mp hl
  exact D.offsets_pos r hr

lemma layers_flatMap (D : Fragmentation Mac) :
    D.layers.flatMap FragLayer.payload = D.bytes := by
  simp only [layers, List.flatMap_cons, List.flatMap_map]
  rfl

lemma bytes_ne_nil (D : Fragmentation Mac) : D.bytes ≠ [] := by
  obtain ⟨b, bs, h, -⟩ := D.iphc
  simp [bytes, h]

lemma mem_frames {D : Fragmentation Mac} {f : Frame Mac} (h : f ∈ D.frames) :
    ∃ layer ∈ D.layers, f.lowpan = some layer ∧ f.srcAddr = D.src ∧
      layer.datagramTag = D.tag ∧ layer.datagramSize = D.size := by
  rcases List.mem_cons.mp h with rfl | h
  · exact ⟨_, List.mem_cons_self, rfl, rfl, rfl, rfl⟩
  · obtain ⟨r, hr, rfl⟩ := List.mem_map.mp h
    exact ⟨_, List.mem_cons_of_mem _ (List.mem_map.mpr ⟨r, hr, rfl⟩), rfl, rfl, rfl, rfl⟩

lemma exists_frame {D : Fragmentation Mac} {layer : FragLayer} (h : layer ∈ D.layers) :
    ∃ f ∈ D.frames, f.lowpan = some layer := by
  rcases List.mem_cons.mp h with rfl | h
  · exact ⟨_, List.mem_cons_self, rfl⟩
  · obtain ⟨r, hr, rfl⟩ := List.mem_map.mp h
    exact ⟨_, List.mem_cons_of_mem _ (List.mem_map.mpr ⟨r, hr, rfl⟩), rfl⟩

lemma layer_eq_of_offset_eq {D : Fragmentation Mac} {a b : FragLayer} (ha : a ∈ D.layers)
    (hb : b ∈ D.layers) (h : a.offset = b.offset) : a = b := by
  have hnodup : (D.layers.map FragLayer.offset).Nodup :=
    List.pairwise_map.mpr (D.layers_sorted.imp Nat.ne_of_lt)
  exact List.inj_on_of_nodup_map hnodup ha hb h

end Fragmentation

namespace SixlowpanReassembly

variable {Mac Pkt IPv6 τ : Type} {S : Scapy Mac Pkt IPv6}

/-- The entry an event adds for a pair, if it is an `add` of one of its fragments. -/
def Event.entryOf (src tag : ℕ) : Event Mac τ → Option (Entry Mac τ)
  | .add time fragment => fragment.lowpan.bind fun layer =>
      if fragment.srcAddr = src ∧ layer.datagramTag = tag then some ⟨layer, time, fragment⟩
      else none
  | _ => none

/-- Events that leave the entries of a pair alone or add to them. -/
def Event.Keeps (src tag : ℕ) : Event Mac τ → Prop
  | .add _ _ => True
  | .tick _ => True
  | .remove src' tag' => (src', tag') ≠ (src, tag)
  | .timeout _ => False
  | .cancel => False

lemma Event.entryOf_eq_some {src tag : ℕ} {e : Event Mac τ} {entry : Entry Mac τ} :
    e.entryOf src tag = some entry ↔
      e = .add entry.time entry.frame ∧ entry.frame.lowpan = some entry.layer ∧
        entry.frame.srcAddr = src ∧ entry.layer.datagramTag = tag := by
  cases e with
  | add time fragment =>
    simp only [Event.entryOf, Option.bind_eq_some_iff, Event.add.injEq]
    constructor
    · rintro ⟨layer, hl, h⟩
      split at h
      · rename_i hk
        obtain rfl := Option.some.inj h
        exact ⟨⟨rfl, rfl⟩, hl, hk.1, hk.2⟩
      · cases h
    · rintro ⟨⟨rfl, rfl⟩, hl, hs, ht⟩
      exact ⟨entry.layer, hl, by rw [if_pos ⟨hs, ht⟩]⟩
  | timeout => simp [Event.entryOf]
  | remove => simp [Event.entryOf]
  | cancel => simp [Event.entryOf]
  | tick => simp [Event.entryOf]

lemma step_buffered_of_keeps {s s' : SixlowpanReassembly Mac τ} {e : Event Mac τ} {src tag : ℕ}
    (hk : e.Keeps src tag) (h : step S s e = some s') :
    s'.buffered src tag = s.buffered src tag ++ (e.entryOf src tag).toList := by
  cases e with
  | add time fragment =>
    obtain rfl := Option.some.inj h
    cases hl : fragment.lowpan with
    | none => simp [add, hl, Event.entryOf]
    | some layer =>
      simp only [add, hl, Event.entryOf, Option.bind_some]
      split
      · rename_i hp
        obtain ⟨rfl, rfl⟩ := hp
        exact buffered_store s _ _ _
      · rename_i hp
        rw [buffered_store_ne s _ fun heq =>
          hp ⟨(Prod.mk.inj heq).1.symm, (Prod.mk.inj heq).2.symm⟩]
        simp
  | tick d =>
    simp only [step] at h
    split at h
    · obtain rfl := Option.some.inj h
      simp [buffered, Event.entryOf]
    · cases h
  | remove src' tag' =>
    obtain rfl := Option.some.inj h
    rw [buffered, remove_fragments, AList.lookup_erase_ne (Ne.symm hk)]
    simp [buffered, Event.entryOf]
  | timeout => exact hk.elim
  | cancel => exact hk.elim

/-- Over a run that keeps a pair, its entries grow by the added ones, in order of arrival. -/
lemma run_buffered_of_keeps {s s' : SixlowpanReassembly Mac τ} {evs : List (Event Mac τ)}
    {src tag : ℕ} (hk : ∀ e ∈ evs, e.Keeps src tag) (h : (system S).run s evs = some s') :
    s'.buffered src tag = s.buffered src tag ++ evs.filterMap (Event.entryOf src tag) := by
  induction evs generalizing s with
  | nil =>
    obtain rfl : s = s' := Option.some.inj h
    simp
  | cons e evs ih =>
    obtain ⟨t, ht, h⟩ := TransitionSystem.run_cons_some.mp h
    rw [ih (fun e' he' => hk e' (List.mem_cons_of_mem _ he')) h,
      step_buffered_of_keeps (hk e List.mem_cons_self) ht, List.filterMap_cons]
    cases Event.entryOf src tag e <;> simp

/-- When the entries of a pair are the frames of a datagram, each there at least once, the
distinct ones carry its layers in order. -/
lemma distinctByOffset_layers (D : Fragmentation Mac) {es : List (Entry Mac τ)}
    (hmem : ∀ e ∈ es, e.layer ∈ D.layers) (hall : ∀ l ∈ D.layers, ∃ e ∈ es, e.layer = l) :
    (distinctByOffset es).map Entry.layer = D.layers := by
  apply eq_of_sorted_of_mem_iff (List.pairwise_map.mpr (distinctByOffset_pairwise es))
    D.layers_sorted
  intro l
  constructor
  · intro h
    obtain ⟨e, he, rfl⟩ := List.mem_map.mp h
    exact hmem e (mem_of_mem_distinctByOffset he)
  · intro h
    obtain ⟨e, he, rfl⟩ := hall l h
    obtain ⟨b, hb, hoff⟩ := exists_mem_firstWins (fun e : Entry Mac τ => e.layer.offset) he
    have hb' := mem_distinctByOffset.mpr hb
    have hlayer : b.layer = e.layer :=
      D.layer_eq_of_offset_eq (hmem b (mem_of_mem_distinctByOffset hb')) h hoff
    exact List.mem_map.mpr ⟨b, hb', hlayer⟩

lemma payloadBytes_eq (D : Fragmentation Mac) {es : List (Entry Mac τ)}
    (hmem : ∀ e ∈ es, e.layer ∈ D.layers) (hall : ∀ l ∈ D.layers, ∃ e ∈ es, e.layer = l) :
    payloadBytes es = D.bytes := by
  rw [← D.layers_flatMap, ← distinctByOffset_layers D hmem hall, List.flatMap_map]
  rfl

lemma reassemble_eq_some {es : List (Entry Mac τ)} {fragment : Frame Mac} {size : ℕ} (ip : IPv6)
    (hne : payloadBytes es ≠ [])
    (hip : S.ipv6 (S.dot15d4 fragment.mac (payloadBytes es)) = some ip)
    (hplen : S.plen ip + 40 = size) :
    reassemble S es fragment size = some (S.dot15d4 fragment.mac (payloadBytes es)) := by
  simp [reassemble, hne, hip, hplen]

/-- The entries a run adds for a pair, in order of arrival. -/
def arrived (src tag : ℕ) (evs : List (Event Mac τ)) : List (Entry Mac τ) :=
  evs.filterMap (Event.entryOf src tag)

section Arrived

variable {D : Fragmentation Mac} {evs : List (Event Mac τ)}

lemma layer_mem_of_arrived (hfrom : ∀ e ∈ arrived D.src D.tag evs, e.frame ∈ D.frames) :
    ∀ e ∈ arrived D.src D.tag evs, e.layer ∈ D.layers := by
  intro e he
  obtain ⟨_, _, hev⟩ := List.mem_filterMap.mp he
  obtain ⟨l, hlD, hl, -⟩ := Fragmentation.mem_frames (hfrom e he)
  rwa [Option.some.inj ((Event.entryOf_eq_some.mp hev).2.1.symm.trans hl)]

lemma mem_arrived {f : Frame Mac} (hf : f ∈ D.frames) {time : τ} (ht : Event.add time f ∈ evs)
    {layer : FragLayer} (hl : f.lowpan = some layer) :
    (⟨layer, time, f⟩ : Entry Mac τ) ∈ arrived D.src D.tag evs := by
  obtain ⟨layer', -, hl', hsrc, htag, -⟩ := Fragmentation.mem_frames hf
  obtain rfl := Option.some.inj (hl.symm.trans hl')
  exact List.mem_filterMap.mpr ⟨_, ht, Event.entryOf_eq_some.mpr ⟨rfl, hl, hsrc, htag⟩⟩

/-- With its last frame, every layer of the datagram has arrived. -/
lemma layers_arrived {last : Frame Mac}
    (hothers : ∀ f ∈ D.frames, f ≠ last → ∃ time, Event.add time f ∈ evs) (time : τ) :
    ∀ l ∈ D.layers, ∃ e ∈ arrived D.src D.tag (evs ++ [Event.add time last]), e.layer = l := by
  intro l hlD
  obtain ⟨f, hf, hfl⟩ := Fragmentation.exists_frame hlD
  by_cases heq : f = last
  · have hin : Event.add time f ∈ evs ++ [Event.add time last] := by rw [heq]; simp
    exact ⟨_, mem_arrived hf hin hfl, rfl⟩
  · obtain ⟨t, ht⟩ := hothers f hf heq
    exact ⟨_, mem_arrived hf (List.mem_append_left _ ht) hfl, rfl⟩

end Arrived

/-- Reassembly completeness. The run may add frames of the datagram in any order and number,
frames of other pairs in between, and let time pass; the frame that completes the datagram
makes `add` return it. -/
theorem reassembly_complete {A : Type} (addrs : Mac → A)
    (hscapy : ∀ m m' bytes, addrs m = addrs m' →
      S.ipv6 (S.dot15d4 m bytes) = S.ipv6 (S.dot15d4 m' bytes))
    (D : Fragmentation Mac) (haddrs : ∀ f ∈ D.frames, addrs f.mac = addrs D.firstMac)
    (hplen : ∃ ip, S.ipv6 (S.dot15d4 D.firstMac D.bytes) = some ip ∧ S.plen ip + 40 = D.size)
    {s s' : SixlowpanReassembly Mac τ} {evs : List (Event Mac τ)}
    (hnew : s.fragments.lookup (D.src, D.tag) = none)
    (hrun : (system S).run s evs = some s') (hkeep : ∀ e ∈ evs, e.Keeps D.src D.tag)
    (hfrom : ∀ e ∈ arrived D.src D.tag evs, e.frame ∈ D.frames)
    {last : Frame Mac} (hlast : last ∈ D.frames)
    (hothers : ∀ f ∈ D.frames, f ≠ last → ∃ time, Event.add time f ∈ evs) (time : τ) :
    ∃ s'' pkt, add S s' time last = (s'', some D.src, some D.tag, some pkt) ∧
      pkt = S.dot15d4 last.mac D.bytes ∧
      (∀ f ∈ D.frames, S.ipv6 pkt = S.ipv6 (S.dot15d4 f.mac D.bytes)) ∧
      s''.getitem D.src D.tag = some ((arrived D.src D.tag (evs ++ [Event.add time last])).map
        fun e => (e.time, e.frame)) := by
  obtain ⟨layer, hlayer, hl, hsrc, htag, hsize⟩ := Fragmentation.mem_frames hlast
  have hentry : Event.entryOf D.src D.tag (Event.add time last) = some ⟨layer, time, last⟩ :=
    Event.entryOf_eq_some.mpr ⟨rfl, hl, hsrc, htag⟩
  have happ : arrived D.src D.tag (evs ++ [Event.add time last]) =
      arrived D.src D.tag evs ++ [⟨layer, time, last⟩] := by
    rw [arrived, List.filterMap_append, List.filterMap_cons_some hentry]
    rfl
  have hes : s'.appended D.src D.tag ⟨layer, time, last⟩ =
      arrived D.src D.tag (evs ++ [Event.add time last]) := by
    have hbuf : s.buffered D.src D.tag = [] := by simp [buffered, hnew]
    rw [appended_eq, run_buffered_of_keeps hkeep hrun, hbuf, List.nil_append, happ]
    rfl
  have hmem : ∀ e ∈ arrived D.src D.tag (evs ++ [Event.add time last]), e.layer ∈ D.layers := by
    apply layer_mem_of_arrived
    intro e he
    rcases List.mem_append.mp (happ ▸ he) with he | he
    · exact hfrom e he
    · rwa [List.mem_singleton.mp he]
  have hbytes := payloadBytes_eq D hmem (layers_arrived hothers time)
  obtain ⟨ip, hip, hplen⟩ := hplen
  have hre : reassemble S (arrived D.src D.tag (evs ++ [Event.add time last])) last
      layer.datagramSize = some (S.dot15d4 last.mac D.bytes) := by
    rw [← hbytes]
    refine reassemble_eq_some ip ?_ ?_ (by rw [hplen, hsize])
    · rw [hbytes]
      exact D.bytes_ne_nil
    · rw [hbytes, hscapy _ _ _ (haddrs last hlast), hip]
  refine ⟨s'.store D.src D.tag ⟨layer, time, last⟩, _, ?_, rfl, ?_, ?_⟩
  · simp only [add, hl]
    rw [hsrc, htag, hes, hre]
  · intro f hf
    exact hscapy _ _ _ ((haddrs last hlast).trans (haddrs f hf).symm)
  · rw [getitem, lookup_store, hes]
    rfl

def shortDatagram : Fragmentation ℕ where
  src := 1166689614016130
  tag := 15
  size := 52
  firstMac := 8
  firstPayload := [0x7a, 0x33, 17, 1, 2, 3, 4, 5, 6, 7, 8]
  rest := [(9, 6, [9, 10, 11, 12])]
  iphc := ⟨_, _, rfl, by decide⟩
  offsets_pos := by decide
  sorted := by decide

/-- The second frame arrives twice before the first, a frame of another pair in between. -/
def shortArrival : List (Event ℕ ℕ) :=
  [.add 0 shortSubsequent, .add 1 ⟨3, 7, some (.subsequent 52 15 6 [1])⟩, .add 2 shortSubsequent]

theorem reassembly_complete_short : ∃ s' s'' pkt,
    (system lowpanScapy).run (init 0) shortArrival = some s' ∧
      add lowpanScapy s' 3 shortFirst = (s'', some 1166689614016130, some 15, some pkt) ∧
      pkt = [0x7a, 0x33, 17, 1, 2, 3, 4, 5, 6, 7, 8, 9, 10, 11, 12] := by
  have hrun : (system lowpanScapy).run (init 0) shortArrival = some _ := rfl
  have hothers : ∀ f ∈ shortDatagram.frames, f ≠ shortFirst →
      ∃ time, Event.add time f ∈ shortArrival := by
    intro f hf hne
    rcases List.mem_cons.mp hf with rfl | hf
    · exact absurd rfl hne
    · obtain rfl := List.mem_singleton.mp hf
      exact ⟨0, List.mem_cons_self⟩
  obtain ⟨s'', pkt, hadd, hpkt, -⟩ := reassembly_complete (fun _ => ()) (fun _ _ _ _ => rfl)
    shortDatagram (fun _ _ => rfl) ⟨12, by decide, rfl⟩ rfl hrun
    (by simp [shortArrival, Event.Keeps]) (by decide) (by decide) hothers 3
  exact ⟨_, s'', pkt, hrun, hadd, hpkt⟩

end SixlowpanReassembly

end RiotPlayground
