import RiotPlayground.Websniffer.ReassemblyTimers

/-!
# How long the reassembly buffer keeps an entry

`_gcs` holds the task of the latest `add` of a pair. Runs are recorded together with the time
of that `add`, so that the moment its task is due can be compared with it.
-/

namespace RiotPlayground

namespace SixlowpanReassembly

variable {Mac Pkt IPv6 τ : Type} {S : Scapy Mac Pkt IPv6}

/-- The time of the latest `add` of each pair. -/
def noteAdd (lastAdd : ℕ × ℕ → Option ℚ) (s : SixlowpanReassembly Mac τ) (e : Event Mac τ)
    (_ : SixlowpanReassembly Mac τ) : ℕ × ℕ → Option ℚ :=
  match e with
  | .add _ fragment =>
    match fragment.lowpan with
    | some layer => Function.update lastAdd (fragment.srcAddr, layer.datagramTag) (some s.now)
    | none => lastAdd
  | _ => lastAdd

/-- `_gcs` has a running task for the pair, due at most `MAX_AGE` after the latest `add`, and
that moment has not passed. -/
def Collected (s : SixlowpanReassembly Mac τ) (lastAdd : ℕ × ℕ → Option ℚ) (k : ℕ × ℕ) : Prop :=
  ∃ i t added, s.gcs.lookup k = some i ∧ s.tasks[i]? = some t ∧ t.state = .pending ∧
    (t.src, t.tag) = k ∧ lastAdd k = some added ∧ t.due ≤ added + MAX_AGE ∧
    s.now ≤ added + MAX_AGE

def Forgotten (s : SixlowpanReassembly Mac τ) (k : ℕ × ℕ) : Prop :=
  k ∉ s.fragments ∧ k ∉ s.gcs

/-- The invariant: a task in `_gcs` is one of its pair, it runs while the pair has an entry, and
no running task is overdue. -/
structure TasksFit (s : SixlowpanReassembly Mac τ) (lastAdd : ℕ × ℕ → Option ℚ) : Prop where
  own : ∀ k i, s.gcs.lookup k = some i → ∃ t, s.tasks[i]? = some t ∧ (t.src, t.tag) = k
  running : ∀ k ∈ s.fragments, ∃ i t added, s.gcs.lookup k = some i ∧ s.tasks[i]? = some t ∧
    t.state = .pending ∧ lastAdd k = some added ∧ t.due = added + MAX_AGE
  ahead : ∀ t ∈ s.tasks, t.state = .pending → s.now ≤ t.due

lemma TasksFit.collected {s : SixlowpanReassembly Mac τ} {lastAdd : ℕ × ℕ → Option ℚ}
    (h : TasksFit s lastAdd) {k : ℕ × ℕ} (hk : k ∈ s.fragments) : Collected s lastAdd k := by
  obtain ⟨i, t, added, hi, ht, hp, hadd, hdue⟩ := h.running k hk
  obtain ⟨u, hu, hkey⟩ := h.own k i hi
  obtain rfl := Option.some.inj (ht.symm.trans hu)
  refine ⟨i, t, added, hi, ht, hp, hkey, hadd, hdue.le, ?_⟩
  exact hdue ▸ h.ahead t (List.mem_of_getElem? ht) hp

/-- Different pairs have different tasks. -/
lemma TasksFit.index_ne {s : SixlowpanReassembly Mac τ} {lastAdd : ℕ × ℕ → Option ℚ}
    (h : TasksFit s lastAdd) {k k' : ℕ × ℕ} {i j : ℕ} (hi : s.gcs.lookup k = some i)
    (hj : ∃ t, s.tasks[j]? = some t ∧ (t.src, t.tag) = k') (hne : k ≠ k') : i ≠ j := by
  rintro rfl
  obtain ⟨t, ht, rfl⟩ := hj
  obtain ⟨u, hu, rfl⟩ := h.own k i hi
  obtain rfl := Option.some.inj (ht.symm.trans hu)
  exact hne rfl

lemma getElem?_cancelTask_ne (tasks : List TimeoutTask) {i j : ℕ} (h : i ≠ j) :
    (cancelTask tasks i)[j]? = tasks[j]? := by
  rw [cancelTask, List.getElem?_modify]
  simp [h]

/-- Cancelling a task changes no more than its state. -/
lemma getElem?_cancelTask (tasks : List TimeoutTask) (i j : ℕ) {t : TimeoutTask}
    (h : tasks[j]? = some t) :
    ∃ u, (cancelTask tasks i)[j]? = some u ∧ u.src = t.src ∧ u.tag = t.tag := by
  rw [cancelTask, List.getElem?_modify, h]
  split
  · exact ⟨_, rfl, by dsimp only; split <;> rfl, by dsimp only; split <;> rfl⟩
  · exact ⟨t, rfl, rfl, rfl⟩

lemma getElem?_foldl_cancelTask (is : List ℕ) (tasks : List TimeoutTask) (j : ℕ) {t : TimeoutTask}
    (h : tasks[j]? = some t) :
    ∃ u, (is.foldl cancelTask tasks)[j]? = some u ∧ u.src = t.src ∧ u.tag = t.tag := by
  induction is generalizing tasks t with
  | nil => exact ⟨t, h, rfl, rfl⟩
  | cons i is ih =>
    obtain ⟨u, hu, hsrc, htag⟩ := getElem?_cancelTask tasks i j h
    obtain ⟨v, hv, hsrc', htag'⟩ := ih _ hu
    exact ⟨v, hv, hsrc'.trans hsrc, htag'.trans htag⟩

lemma pending_of_mem_foldl_cancelTask (is : List ℕ) {tasks : List TimeoutTask} {t : TimeoutTask}
    (h : t ∈ is.foldl cancelTask tasks) (hp : t.state = .pending) : t ∈ tasks := by
  induction is generalizing tasks with
  | nil => exact h
  | cons i is ih => exact pending_of_mem_cancelTask (ih h) hp

lemma lookup_erase_some {β : Type} {d : AList fun _ : ℕ × ℕ => β} {k k' : ℕ × ℕ} {b : β}
    (h : (d.erase k').lookup k = some b) : k ≠ k' ∧ d.lookup k = some b := by
  have hne : k ≠ k' := by
    rintro rfl
    rw [AList.lookup_erase] at h
    cases h
  exact ⟨hne, AList.lookup_erase_ne hne ▸ h⟩

lemma TasksFit.store {s : SixlowpanReassembly Mac τ} {lastAdd : ℕ × ℕ → Option ℚ}
    (h : TasksFit s lastAdd) (src tag : ℕ) (entry : Entry Mac τ) :
    TasksFit (s.store src tag entry) (Function.update lastAdd (src, tag) (some s.now)) := by
  have hold : ∀ {j : ℕ} {t : TimeoutTask}, s.tasks[j]? = some t →
      (s.store src tag entry).tasks[j]? = some t := fun hj =>
    (List.getElem?_append_left (List.getElem?_eq_some_iff.mp hj).1).trans hj
  have hnew : (s.store src tag entry).tasks[s.tasks.length]? =
      some ⟨src, tag, s.now + MAX_AGE, .pending⟩ := List.getElem?_concat_length
  refine ⟨fun k i hi => ?_, fun k hk => ?_, fun t ht hp => ?_⟩
  · by_cases hkey : k = (src, tag)
    · subst hkey
      obtain rfl := Option.some.inj ((AList.lookup_insert _).symm.trans hi)
      exact ⟨_, hnew, rfl⟩
    · obtain ⟨t, ht, htk⟩ := h.own k i ((AList.lookup_insert_ne hkey).symm.trans hi)
      exact ⟨t, hold ht, htk⟩
  · by_cases hkey : k = (src, tag)
    · subst hkey
      exact ⟨_, _, s.now, AList.lookup_insert _, hnew, rfl, Function.update_self .., rfl⟩
    · have hk' := ((AList.mem_insert _).mp hk).resolve_left hkey
      obtain ⟨i, t, added, hi, ht, hp, hadd, hdue⟩ := h.running k hk'
      refine ⟨i, t, added, (AList.lookup_insert_ne hkey).trans hi, hold ht, hp, ?_, hdue⟩
      rw [Function.update_of_ne hkey, hadd]
  · rcases List.mem_append.mp ht with ht | ht
    · exact h.ahead t ht hp
    · obtain rfl := List.mem_singleton.mp ht
      exact le_add_of_nonneg_right (by decide +kernel)

/-- What `remove` and an expired timeout have in common: the pair is dropped, and of its tasks
at most one changes, keeping the pair it is for. -/
lemma TasksFit.drop {s : SixlowpanReassembly Mac τ} {lastAdd : ℕ × ℕ → Option ℚ}
    (h : TasksFit s lastAdd) {src tag : ℕ} {tasks : List TimeoutTask}
    (hkeep : ∀ (j : ℕ) (t : TimeoutTask), s.tasks[j]? = some t →
      ∃ u, tasks[j]? = some u ∧ u.src = t.src ∧ u.tag = t.tag)
    (hother : ∀ k ≠ (src, tag), ∀ j, s.gcs.lookup k = some j → tasks[j]? = s.tasks[j]?)
    (hpend : ∀ t ∈ tasks, t.state = .pending → t ∈ s.tasks) :
    TasksFit ({ s with tasks := tasks }.dropPair src tag) lastAdd := by
  refine ⟨fun k i hi => ?_, fun k hk => ?_, fun t ht hp => h.ahead t (hpend t ht hp) hp⟩
  · obtain ⟨t, ht, hkey⟩ := h.own k i (lookup_erase_some hi).2
    obtain ⟨u, hu, hsrc, htag⟩ := hkeep i t ht
    exact ⟨u, hu, by rw [hsrc, htag, hkey]⟩
  · obtain ⟨hne, hk⟩ := AList.mem_erase.mp hk
    obtain ⟨i, t, added, hi, ht, hp, hadd, hdue⟩ := h.running k hk
    exact ⟨i, t, added, (AList.lookup_erase_ne hne).trans hi, (hother k hne i hi).trans ht, hp,
      hadd, hdue⟩

lemma TasksFit.remove {s : SixlowpanReassembly Mac τ} {lastAdd : ℕ × ℕ → Option ℚ}
    (h : TasksFit s lastAdd) (src tag : ℕ) : TasksFit (s.remove src tag) lastAdd := by
  unfold SixlowpanReassembly.remove
  cases hi : s.gcs.lookup (src, tag) with
  | none =>
    exact h.drop (fun _ t ht => ⟨t, ht, rfl, rfl⟩) (fun _ _ _ _ => rfl) fun _ ht _ => ht
  | some i =>
    refine h.drop (fun j t ht => getElem?_cancelTask _ i j ht) (fun k hne j hj => ?_)
      fun t ht hp => pending_of_mem_cancelTask ht hp
    exact getElem?_cancelTask_ne _ (h.index_ne hj (h.own _ _ hi) hne).symm

lemma TasksFit.timeout {s s' : SixlowpanReassembly Mac τ} {lastAdd : ℕ × ℕ → Option ℚ}
    (h : TasksFit s lastAdd) {i : ℕ} (hs : s.timeout i = some s') : TasksFit s' lastAdd := by
  unfold SixlowpanReassembly.timeout at hs
  split at hs
  · rename_i t ht
    split at hs
    · obtain rfl := Option.some.inj hs
      refine h.drop (fun j u hu => ?_) (fun k hne j hj => ?_) fun u hu hp => ?_
      · rw [List.getElem?_set]
        split
        · rename_i hij
          subst hij
          obtain rfl := Option.some.inj (ht.symm.trans hu)
          exact ⟨_, if_pos (List.getElem?_eq_some_iff.mp hu).1, rfl, rfl⟩
        · exact ⟨u, hu, rfl, rfl⟩
      · exact List.getElem?_set_ne (h.index_ne hj ⟨t, ht, rfl⟩ hne).symm
      · rcases List.mem_or_eq_of_mem_set hu with hu | rfl
        · exact hu
        · cases hp
    · cases hs
  · cases hs

lemma TasksFit.cancel {s : SixlowpanReassembly Mac τ} {lastAdd : ℕ × ℕ → Option ℚ}
    (h : TasksFit s lastAdd) : TasksFit s.cancel lastAdd := by
  refine ⟨fun k i hi => ?_, fun k hk => absurd hk (AList.notMem_empty k), fun t ht hp => ?_⟩
  · obtain ⟨t, ht, hkey⟩ := h.own k i hi
    obtain ⟨u, hu, hsrc, htag⟩ := getElem?_foldl_cancelTask _ _ i ht
    exact ⟨u, hu, by rw [hsrc, htag, hkey]⟩
  · exact h.ahead t (pending_of_mem_foldl_cancelTask _ ht hp) hp

lemma TasksFit.tick {s : SixlowpanReassembly Mac τ} {lastAdd : ℕ × ℕ → Option ℚ}
    (h : TasksFit s lastAdd) {d : ℚ} (hd : s.mayTick d) :
    TasksFit { s with now := s.now + d } lastAdd :=
  ⟨h.own, h.running, (of_decide_eq_true hd).2⟩

lemma tasksFit_step {s s' : SixlowpanReassembly Mac τ} {lastAdd : ℕ × ℕ → Option ℚ}
    {e : Event Mac τ} (h : TasksFit s lastAdd) (hs : step S s e = some s') :
    TasksFit s' (noteAdd lastAdd s e s') := by
  cases e with
  | add time fragment =>
    obtain rfl := Option.some.inj hs
    cases hl : fragment.lowpan with
    | none => simpa only [add, noteAdd, hl] using h
    | some layer => simpa only [add, noteAdd, hl] using h.store _ _ _
  | timeout i => exact h.timeout hs
  | remove src tag =>
    obtain rfl := Option.some.inj hs
    exact h.remove src tag
  | cancel =>
    obtain rfl := Option.some.inj hs
    exact h.cancel
  | tick d =>
    simp only [step] at hs
    split at hs
    · rename_i hd
      obtain rfl := Option.some.inj hs
      exact h.tick hd
    · cases hs

lemma tasksFit_of_reach {now : ℚ} {p : SixlowpanReassembly Mac τ × (ℕ × ℕ → Option ℚ)}
    (h : ((system S).recording noteAdd).Reach (fun _ _ => True) (init now, fun _ => none) p) :
    TasksFit p.1 p.2 := by
  refine h.invariant (P := fun p => TasksFit p.1 p.2) ⟨nofun, ?_, nofun⟩ fun p e q hp _ hq => ?_
  · exact fun k hk => absurd hk (AList.notMem_empty k)
  · obtain ⟨hs, hnote⟩ := TransitionSystem.recording_step.mp hq
    exact hnote ▸ tasksFit_step hp hs

lemma forgotten_dropPair (s : SixlowpanReassembly Mac τ) (src tag : ℕ) :
    Forgotten (s.dropPair src tag) (src, tag) :=
  ⟨fun h => (AList.mem_erase.mp h).1 rfl, fun h => (AList.mem_erase.mp h).1 rfl⟩

lemma forgotten_remove (s : SixlowpanReassembly Mac τ) (src tag : ℕ) :
    Forgotten (s.remove src tag) (src, tag) := forgotten_dropPair _ src tag

lemma forgotten_timeout {s s' : SixlowpanReassembly Mac τ} {i : ℕ} {t : TimeoutTask}
    (ht : s.tasks[i]? = some t) (hs : s.timeout i = some s') : Forgotten s' (t.src, t.tag) := by
  unfold timeout at hs
  rw [ht] at hs
  dsimp only at hs
  split at hs
  · obtain rfl := Option.some.inj hs
    exact forgotten_dropPair _ t.src t.tag
  · cases hs

/-- A task that is due can end. -/
lemma timeout_of_due {s : SixlowpanReassembly Mac τ} {i : ℕ} {t : TimeoutTask}
    (ht : s.tasks[i]? = some t) (hp : t.state = .pending) (hdue : t.due ≤ s.now) :
    ∃ s', s.timeout i = some s' := by
  unfold timeout
  rw [ht]
  exact ⟨_, if_pos ⟨hp, hdue⟩⟩

lemma exists_ahead {now : ℚ} {tasks : List TimeoutTask}
    (h : ∀ t ∈ tasks, t.state = .pending → now < t.due) :
    ∃ d > 0, ∀ t ∈ tasks, t.state = .pending → now + d ≤ t.due := by
  induction tasks with
  | nil => exact ⟨1, one_pos, nofun⟩
  | cons t tasks ih =>
    obtain ⟨d, hd, hall⟩ := ih fun u hu => h u (List.mem_cons_of_mem t hu)
    by_cases hp : t.state = .pending
    · have hahead : now < t.due := h t List.mem_cons_self hp
      refine ⟨min d (t.due - now), lt_min hd (sub_pos.mpr hahead), fun u hu hu' => ?_⟩
      rcases List.mem_cons.mp hu with rfl | hu
      · linarith [min_le_right d (u.due - now)]
      · linarith [min_le_left d (t.due - now), hall u hu hu']
    · refine ⟨d, hd, fun u hu hu' => ?_⟩
      rcases List.mem_cons.mp hu with rfl | hu
      · exact absurd hu' hp
      · exact hall u hu hu'

/-- Time is never stuck: some of it can pass, or a task is due and can end. -/
theorem time_passes (s : SixlowpanReassembly Mac τ) :
    (∃ d > 0, ∃ s', step S s (.tick d) = some s') ∨ ∃ i s', step S s (.timeout i) = some s' := by
  by_cases h : ∀ t ∈ s.tasks, t.state = .pending → s.now < t.due
  · obtain ⟨d, hd, hall⟩ := exists_ahead h
    exact .inl ⟨d, hd, _, if_pos (decide_eq_true ⟨hd.le, hall⟩)⟩
  · push Not at h
    obtain ⟨t, ht, hp, hdue⟩ := h
    obtain ⟨i, hi⟩ := List.mem_iff_getElem?.mp ht
    exact .inr ⟨i, timeout_of_due hi hp hdue⟩

/-- Every entry of the buffer has a running task in `_gcs` that ends it at most `MAX_AGE` after
the latest `add` of its pair; `remove` and timeouts leave nothing of a pair. -/
theorem entries_collected {now : ℚ} {p : SixlowpanReassembly Mac τ × (ℕ × ℕ → Option ℚ)}
    (h : ((system S).recording noteAdd).Reach (fun _ _ => True) (init now, fun _ => none) p) :
    (∀ k ∈ p.1.fragments, Collected p.1 p.2 k) ∧
    (∀ src tag, Forgotten (p.1.remove src tag) (src, tag)) ∧
    ∀ i t s', p.1.tasks[i]? = some t → p.1.timeout i = some s' → Forgotten s' (t.src, t.tag) :=
  ⟨fun _ => (tasksFit_of_reach h).collected, forgotten_remove p.1,
    fun _ _ _ => forgotten_timeout⟩

/-- The tag is used again, and the task of the first datagram, which is due, ends the new entry
before its own task does. -/
theorem entries_collected_tagReuse : ∃ (p : SixlowpanReassembly ℕ ℕ × (ℕ × ℕ → Option ℚ))
    (s' : SixlowpanReassembly ℕ ℕ), p.1.now = 10 ∧ (1166689614016130, 15) ∈ p.1.fragments ∧
      Collected p.1 p.2 (1166689614016130, 15) ∧ p.1.timeout 0 = some s' ∧
      Forgotten s' (1166689614016130, 15) := by
  have hrun : (((system lowpanScapy).recording noteAdd).run (init 0, fun _ => none)
      tagReuse).map (fun p : SixlowpanReassembly ℕ ℕ × (ℕ × ℕ → Option ℚ) =>
        (p.1.now, decide ((1166689614016130, 15) ∈ p.1.fragments), p.1.tasks[0]?)) =
      some (10, true, some ⟨1166689614016130, 15, 10, .pending⟩) := by
    decide +kernel
  obtain ⟨p, hp, hval⟩ := Option.map_eq_some_iff.mp hrun
  obtain ⟨hnow, hval⟩ := Prod.mk.inj hval
  obtain ⟨hk, htask⟩ := Prod.mk.inj hval
  have hreach := TransitionSystem.reach_of_run (TransitionSystem.meets_true _ _) hp
  obtain ⟨hcollected, -, hforgotten⟩ := entries_collected hreach
  have hk := of_decide_eq_true hk
  obtain ⟨s', hs'⟩ := timeout_of_due htask rfl hnow.ge
  exact ⟨p, s', hnow, hk, hcollected _ hk, hs', hforgotten 0 _ s' htask hs'⟩

end SixlowpanReassembly

end RiotPlayground
