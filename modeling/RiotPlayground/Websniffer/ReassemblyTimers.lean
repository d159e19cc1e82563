import RiotPlayground.Websniffer.Dissect
import Mathlib.Tactic.Linarith

/-!
# Timeouts of the reassembly buffer

Every `add` starts a `_timeout` task, and `_gcs` knows the last one of a pair only. To compare
a timeout with the entry it deletes, runs are observed together with the moment at which the
present entry of each pair came into existence.
-/

namespace RiotPlayground

namespace SixlowpanReassembly

variable {Mac Pkt IPv6 τ : Type} {S : Scapy Mac Pkt IPv6}

/-- A buffer and, for each pair that has an entry, the time of the `add` it exists since. -/
structure Aged (Mac τ : Type) where
  buf : SixlowpanReassembly Mac τ
  bornAt : ℕ × ℕ → ℚ

/-- The birth of an entry is the time of the last state without it. -/
def Aged.after (s : Aged Mac τ) (buf : SixlowpanReassembly Mac τ) : Aged Mac τ :=
  ⟨buf, fun k => if k ∈ s.buf.fragments then s.bornAt k else s.buf.now⟩

def agedStep (S : Scapy Mac Pkt IPv6) (s : Aged Mac τ) (e : Event Mac τ) :
    Option (Aged Mac τ) :=
  (step S s.buf e).map s.after

def agedSystem (S : Scapy Mac Pkt IPv6) : TransitionSystem (Aged Mac τ) (Event Mac τ) :=
  ⟨agedStep S⟩

def agedInit (now : ℚ) : Aged Mac τ := ⟨init now, fun _ => now⟩

/-- No timeout deletes an entry younger than `MAX_AGE`. -/
def NoEarlyTimeout (S : Scapy Mac Pkt IPv6) (s : Aged Mac τ) : Prop :=
  ∀ i s', agedStep S s (.timeout i) = some s' →
    ∀ k ∈ s.buf.fragments, k ∉ s'.buf.fragments → s.bornAt k + MAX_AGE ≤ s.buf.now

/-- An `add` that starts the entry of a pair finds no task of the pair pending from an
earlier moment. -/
def NoLeftoverTask (s : SixlowpanReassembly Mac τ) : Event Mac τ → Prop
  | .add _ fragment => ∀ layer, fragment.lowpan = some layer →
      (fragment.srcAddr, layer.datagramTag) ∉ s.fragments →
        ∀ t ∈ s.tasks, t.state = .pending → (t.src, t.tag) =
          (fragment.srcAddr, layer.datagramTag) → s.now + MAX_AGE ≤ t.due
  | _ => True

instance (s : SixlowpanReassembly Mac τ) : DecidablePred (NoLeftoverTask s)
  | .add _ fragment => inferInstanceAs (Decidable (∀ layer ∈ fragment.lowpan, _ → ∀ t ∈ s.tasks, _))
  | .timeout _ | .remove _ _ | .cancel | .tick _ => .isTrue trivial

/-- The datagram of two fragments is delivered and removed; its tag is used again four
seconds later, and five seconds after that the task of the very first fragment expires. -/
def tagReuse : List (Event ℕ ℕ) :=
  [.add 0 shortFirst, .tick 1, .add 1 shortSubsequent, .remove 1166689614016130 15, .tick 4,
    .add 2 shortFirst, .tick 5]

/-- The task left over from a delivered datagram deletes a five seconds old entry. -/
theorem tagReuse_deleted_early : ¬ ∀ (now : ℚ) (es : List (Event ℕ ℕ)) (s : Aged ℕ ℕ),
    (agedSystem lowpanScapy).run (agedInit now) es = some s → NoEarlyTimeout lowpanScapy s := by
  intro h
  let k := (1166689614016130, 15)
  have hrun : ((agedSystem lowpanScapy).run (agedInit 0) tagReuse).map (fun s =>
      (s.bornAt k, s.buf.now, decide (k ∈ s.buf.fragments),
        (agedStep lowpanScapy s (.timeout 0)).map fun s' => decide (k ∈ s'.buf.fragments))) =
      some (5, 10, true, some false) := by decide +kernel
  obtain ⟨s, hs, hval⟩ := Option.map_eq_some_iff.mp hrun
  obtain ⟨hborn, hnow, hk, hstep⟩ := by simpa only [Prod.mk.injEq] using hval
  obtain ⟨s', ht, hk'⟩ := Option.map_eq_some_iff.mp hstep
  have hage := h 0 _ s hs 0 s' ht k (of_decide_eq_true hk) (of_decide_eq_false hk')
  rw [hborn, hnow] at hage
  exact absurd hage (by decide +kernel)

lemma pending_of_mem_cancelTask {tasks : List TimeoutTask} {i : ℕ} {t : TimeoutTask}
    (h : t ∈ cancelTask tasks i) (hp : t.state = .pending) : t ∈ tasks := by
  obtain ⟨j, hj⟩ := List.mem_iff_getElem?.mp h
  rw [cancelTask, List.getElem?_modify] at hj
  obtain ⟨u, hu, hj⟩ := Option.map_eq_some_iff.mp hj
  split at hj
  · split at hj
    · subst hj
      cases hp
    · exact hj ▸ List.mem_of_getElem? hu
  · exact hj ▸ List.mem_of_getElem? hu

lemma remove_tasks {s : SixlowpanReassembly Mac τ} {src tag : ℕ} {t : TimeoutTask}
    (h : t ∈ (s.remove src tag).tasks) (hp : t.state = .pending) : t ∈ s.tasks := by
  unfold remove at h
  dsimp only at h
  split at h
  · exact pending_of_mem_cancelTask h hp
  · exact h

lemma remove_now (s : SixlowpanReassembly Mac τ) (src tag : ℕ) :
    (s.remove src tag).now = s.now := by
  unfold remove
  dsimp only
  split <;> rfl

lemma timeout_some {s s' : SixlowpanReassembly Mac τ} {i : ℕ} (h : s.timeout i = some s') :
    ∃ t, s.tasks[i]? = some t ∧ t.state = .pending ∧ t.due ≤ s.now ∧ s'.now = s.now ∧
      s'.tasks = s.tasks.set i { t with state := .done } ∧
      s'.fragments = s.fragments.erase (t.src, t.tag) := by
  unfold timeout at h
  split at h
  · rename_i t ht
    split at h
    · rename_i hdue
      obtain rfl := Option.some.inj h
      exact ⟨t, ht, hdue.1, hdue.2, rfl, rfl, rfl⟩
    · cases h
  · cases h

/-- No pending task of a pair with an entry is due before the entry is `MAX_AGE` old. -/
structure TimersFresh (s : Aged Mac τ) : Prop where
  born : ∀ k ∈ s.buf.fragments, s.bornAt k ≤ s.buf.now
  fresh : ∀ t ∈ s.buf.tasks, t.state = .pending → (t.src, t.tag) ∈ s.buf.fragments →
    s.bornAt (t.src, t.tag) + MAX_AGE ≤ t.due

lemma Aged.after_bornAt {s : Aged Mac τ} (buf : SixlowpanReassembly Mac τ) {k : ℕ × ℕ}
    (h : k ∈ s.buf.fragments) : (s.after buf).bornAt k = s.bornAt k := if_pos h

lemma Aged.after_bornAt_new {s : Aged Mac τ} (buf : SixlowpanReassembly Mac τ) {k : ℕ × ℕ}
    (h : k ∉ s.buf.fragments) : (s.after buf).bornAt k = s.buf.now := if_neg h

lemma TimersFresh.shrink {s : Aged Mac τ} (h : TimersFresh s) {buf : SixlowpanReassembly Mac τ}
    (hnow : s.buf.now ≤ buf.now) (hsub : ∀ k ∈ buf.fragments, k ∈ s.buf.fragments)
    (htasks : ∀ t ∈ buf.tasks, t.state = .pending → t ∈ s.buf.tasks) :
    TimersFresh (s.after buf) where
  born k hk := by
    rw [Aged.after_bornAt buf (hsub k hk)]
    exact (h.born k (hsub k hk)).trans hnow
  fresh t ht hp hk := by
    rw [Aged.after_bornAt buf (hsub _ hk)]
    exact h.fresh t (htasks t ht hp) hp (hsub _ hk)

lemma TimersFresh.store {s : Aged Mac τ} (h : TimersFresh s) {src tag : ℕ}
    (entry : Entry Mac τ) (hC : (src, tag) ∉ s.buf.fragments → ∀ t ∈ s.buf.tasks,
      t.state = .pending → (t.src, t.tag) = (src, tag) → s.buf.now + MAX_AGE ≤ t.due) :
    TimersFresh (s.after (s.buf.store src tag entry)) := by
  have hborn : ∀ k, (s.after (s.buf.store src tag entry)).bornAt k ≤ s.buf.now := by
    intro k
    by_cases hk : k ∈ s.buf.fragments
    · rw [Aged.after_bornAt _ hk]
      exact h.born k hk
    · rw [Aged.after_bornAt_new _ hk]
  refine ⟨fun k _ => hborn k, fun t ht hp hk => ?_⟩
  rcases List.mem_append.mp ht with ht | ht
  · by_cases hold : (t.src, t.tag) ∈ s.buf.fragments
    · rw [Aged.after_bornAt _ hold]
      exact h.fresh t ht hp hold
    · rw [Aged.after_bornAt_new _ hold]
      rcases (AList.mem_insert _).mp hk with heq | hk
      · exact hC (heq ▸ hold) t ht hp heq
      · exact absurd hk hold
  · obtain rfl := List.mem_singleton.mp ht
    exact add_le_add_left (hborn _) MAX_AGE

lemma timersFresh_step {s s' : Aged Mac τ} {e : Event Mac τ} (h : TimersFresh s)
    (hC : NoLeftoverTask s.buf e) (hs : agedStep S s e = some s') : TimersFresh s' := by
  obtain ⟨buf, hbuf, rfl⟩ := Option.map_eq_some_iff.mp hs
  cases e with
  | add time fragment =>
    obtain rfl := Option.some.inj hbuf
    cases hl : fragment.lowpan with
    | none =>
      simp only [add, hl]
      exact h.shrink le_rfl (fun _ hk => hk) fun _ ht _ => ht
    | some layer =>
      simp only [add, hl]
      exact h.store _ (hC layer hl)
  | timeout i =>
    obtain ⟨t, ht, -, -, hnow, htasks, hfrag⟩ := timeout_some hbuf
    refine h.shrink hnow.ge (fun k hk => ?_) fun u hu hp => ?_
    · rw [hfrag, AList.mem_erase] at hk
      exact hk.2
    · rw [htasks] at hu
      rcases List.mem_or_eq_of_mem_set hu with hu | rfl
      · exact hu
      · cases hp
  | remove src tag =>
    obtain rfl := Option.some.inj hbuf
    refine h.shrink (remove_now s.buf src tag).ge (fun k hk => ?_) fun u hu hp =>
      remove_tasks hu hp
    rw [remove_fragments, AList.mem_erase] at hk
    exact hk.2
  | cancel =>
    obtain rfl := Option.some.inj hbuf
    exact ⟨fun k hk => absurd hk (AList.notMem_empty k),
      fun t _ _ hk => absurd hk (AList.notMem_empty _)⟩
  | tick d =>
    simp only [step] at hbuf
    split at hbuf
    · rename_i hd
      obtain rfl := Option.some.inj hbuf
      have hd0 : 0 ≤ d := (of_decide_eq_true hd).1
      exact h.shrink (le_add_of_nonneg_right hd0) (fun _ hk => hk) fun _ ht _ => ht
    · cases hbuf

/-- A timeout only hits the datagram it was started for, in runs that never start an entry
while an older task of its pair is pending. -/
theorem noEarlyTimeout_of_noLeftoverTask {now : ℚ} {es : List (Event Mac τ)} {s : Aged Mac τ}
    (hC : (agedSystem S).Meets (fun s e => NoLeftoverTask s.buf e) (agedInit now) es)
    (hrun : (agedSystem S).run (agedInit now) es = some s) : NoEarlyTimeout S s := by
  intro i s' ht k hk hk'
  have hfresh : TimersFresh s := by
    refine (TransitionSystem.reach_of_run hC hrun).invariant ⟨fun k hk => ?_, fun t ht => ?_⟩
      fun _ _ _ h hC hs => timersFresh_step h hC hs
    · exact absurd hk (AList.notMem_empty k)
    · cases ht
  obtain ⟨buf, hbuf, rfl⟩ := Option.map_eq_some_iff.mp ht
  obtain ⟨t, hget, hp, hdue, -, -, hfrag⟩ := timeout_some hbuf
  have hkey : k = (t.src, t.tag) := by
    by_contra hne
    exact hk' (hfrag ▸ AList.mem_erase.mpr ⟨hne, hk⟩)
  subst hkey
  exact (hfresh.fresh t (List.mem_of_getElem? hget) hp hk).trans hdue

/-- The tag is used again once the task of the first fragment is over. -/
def tagReuseLater : List (Event ℕ ℕ) :=
  [.add 0 shortFirst, .tick 1, .add 1 shortSubsequent, .remove 1166689614016130 15, .tick 9,
    .timeout 0, .add 2 shortFirst, .tick 10]

theorem noEarlyTimeout_tagReuseLater : ∃ s : Aged ℕ ℕ,
    (agedSystem lowpanScapy).run (agedInit 0) tagReuseLater = some s ∧
      NoEarlyTimeout lowpanScapy s ∧ (agedStep lowpanScapy s (.timeout 2)).isSome := by
  have hrun : ((agedSystem lowpanScapy).run (agedInit 0) tagReuseLater).map
      (fun s => (agedStep lowpanScapy s (.timeout 2)).isSome) = some true := by decide +kernel
  obtain ⟨s, hs, hsome⟩ := Option.map_eq_some_iff.mp hrun
  exact ⟨s, hs, noEarlyTimeout_of_noLeftoverTask (by decide +kernel) hs, hsome⟩

end SixlowpanReassembly

end RiotPlayground
