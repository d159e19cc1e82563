import Mathlib.Data.List.Basic

/-!
# Guarded transition systems

`step s e` is `some s'` when the event `e` is enabled in `s`, so one definition serves
replay of a concrete run and induction over all runs. Runs can be restricted by a
condition on the event and the state it is taken in.
-/

/-- A labelled transition system given by a guarded, executable step function. -/
structure TransitionSystem (S E : Type*) where
  step : S → E → Option S

namespace TransitionSystem

variable {S E : Type*} (sys : TransitionSystem S E)

/-- Replays the events one by one; `none` if one of them is disabled. -/
def run : S → List E → Option S
  | s, [] => some s
  | s, e :: es => (sys.step s e).bind fun s' => run s' es

/-- States reached from `s₀` by runs all of whose steps meet the condition `C`. -/
inductive Reach (C : S → E → Prop) (s₀ : S) : S → Prop
  | refl : Reach C s₀ s₀
  | step {s s' : S} {e : E} :
      Reach C s₀ s → C s e → sys.step s e = some s' → Reach C s₀ s'

/-- Every event of the run meets `C` in the state it is taken in. -/
def Meets (C : S → E → Prop) : S → List E → Prop
  | _, [] => True
  | s, e :: es => C s e ∧ ∀ s', sys.step s e = some s' → Meets C s' es

/-- `P` holds in every state of the run. -/
def Holds (P : S → Prop) : S → List E → Prop
  | s, [] => P s
  | s, e :: es => P s ∧ ∀ s', sys.step s e = some s' → Holds P s' es

/-- The system together with a record of its run: `note h s e t` is the record after the step from
`s` to `t` if it was `h` before. -/
def recording {H : Type*} (note : H → S → E → S → H) : TransitionSystem (S × H) E where
  step p e := (sys.step p.1 e).map fun t => (t, note p.2 p.1 e t)

variable {sys}

lemma run_cons_some {s s' : S} {e : E} {es : List E} :
    sys.run s (e :: es) = some s' ↔ ∃ t, sys.step s e = some t ∧ sys.run t es = some s' :=
  Option.bind_eq_some_iff

/-- The induction principle of runs: what holds at the start and is kept by every
enabled step that meets `C` holds in every state reached. -/
theorem Reach.invariant {C : S → E → Prop} {s₀ s : S} (h : sys.Reach C s₀ s) {P : S → Prop}
    (hinit : P s₀) (hstep : ∀ s e s', P s → C s e → sys.step s e = some s' → P s') : P s := by
  induction h with
  | refl => exact hinit
  | step _ hC hs ih => exact hstep _ _ _ ih hC hs

lemma Reach.trans {C : S → E → Prop} {s₀ s t : S} (h : sys.Reach C s₀ s)
    (h' : sys.Reach C s t) : sys.Reach C s₀ t := by
  induction h' with
  | refl => exact h
  | step _ hC hs ih => exact ih.step hC hs

lemma meets_of_forall {C : S → E → Prop} {es : List E} (h : ∀ e ∈ es, ∀ s, C s e) {s : S} :
    sys.Meets C s es := by
  induction es generalizing s with
  | nil => trivial
  | cons e es ih =>
    exact ⟨h e List.mem_cons_self s, fun _ _ => ih fun u hu => h u (List.mem_cons_of_mem e hu)⟩

lemma meets_cons {C : S → E → Prop} {s t : S} {e : E} {es : List E} (h : sys.step s e = some t) :
    sys.Meets C s (e :: es) ↔ C s e ∧ sys.Meets C t es := by
  refine and_congr_right fun _ => ⟨fun hes => hes t h, fun hes s' hs' => ?_⟩
  obtain rfl := Option.some.inj (h.symm.trans hs')
  exact hes

instance decidableMeets {C : S → E → Prop} [∀ s e, Decidable (C s e)] :
    ∀ s es, Decidable (sys.Meets C s es)
  | _, [] => .isTrue trivial
  | s, e :: es =>
    match hs : sys.step s e with
    | none =>
      decidable_of_iff (C s e) ⟨fun h => ⟨h, fun _ ht => nomatch hs.symm.trans ht⟩, And.left⟩
    | some t =>
      have := decidableMeets (C := C) t es
      decidable_of_iff (C s e ∧ sys.Meets C t es) (meets_cons hs).symm

lemma meets_true (s : S) (es : List E) : sys.Meets (fun _ _ => True) s es :=
  meets_of_forall fun _ _ _ => trivial

theorem reach_of_run {C : S → E → Prop} {es : List E} {s t : S} (hC : sys.Meets C s es)
    (h : sys.run s es = some t) : sys.Reach C s t := by
  induction es generalizing s with
  | nil =>
    obtain rfl : s = t := Option.some.inj h
    exact .refl
  | cons e es ih =>
    obtain ⟨u, hu, h⟩ := run_cons_some.mp h
    exact (Reach.refl.step hC.1 hu).trans (ih (hC.2 u hu) h)

lemma recording_step {H : Type*} {note : H → S → E → S → H} {p q : S × H} {e : E} :
    (sys.recording note).step p e = some q ↔
      sys.step p.1 e = some q.1 ∧ q.2 = note p.2 p.1 e q.1 := by
  refine Option.map_eq_some_iff.trans ⟨?_, fun h => ⟨q.1, h.1, by rw [← h.2]⟩⟩
  rintro ⟨t, ht, rfl⟩
  exact ⟨ht, rfl⟩

/-- Every run can be recorded. -/
theorem exists_recording_run {H : Type*} (note : H → S → E → S → H) (h : H) {s t : S} {es : List E}
    (hrun : sys.run s es = some t) : ∃ k, (sys.recording note).run (s, h) es = some (t, k) := by
  induction es generalizing s h with
  | nil =>
    obtain rfl := Option.some.inj hrun
    exact ⟨h, rfl⟩
  | cons e es ih =>
    obtain ⟨u, hu, hrun⟩ := run_cons_some.mp hrun
    obtain ⟨k, hk⟩ := ih (note h s e u) hrun
    exact ⟨k, run_cons_some.mpr ⟨(u, note h s e u), recording_step.mpr ⟨hu, rfl⟩, hk⟩⟩

lemma meets_recording {H : Type*} {note : H → S → E → S → H} {C : S → E → Prop} {h : H} {s : S}
    {es : List E} :
    (sys.recording note).Meets (fun p e => C p.1 e) (s, h) es ↔ sys.Meets C s es := by
  induction es generalizing s h with
  | nil => exact Iff.rfl
  | cons e es ih =>
    refine and_congr_right fun _ => ⟨fun hes t ht => ?_, fun hes q hq => ?_⟩
    · exact ih.mp (hes (t, note h s e t) (recording_step.mpr ⟨ht, rfl⟩))
    · exact ih.mpr (hes q.1 (recording_step.mp hq).1)

/-- From an invariant of the steps that meet `C` to a property of the steps of a run. -/
theorem Meets.of_invariant {I : S → Prop} {C Q : S → E → Prop}
    (hkeep : ∀ s e t, I s → C s e → sys.step s e = some t → I t)
    (himp : ∀ s e, I s → C s e → Q s e) {s : S} {es : List E} (hs : I s)
    (h : sys.Meets C s es) : sys.Meets Q s es := by
  induction es generalizing s with
  | nil => trivial
  | cons e es ih => exact ⟨himp s e hs h.1, fun t ht => ih (hkeep s e t hs h.1 ht) (h.2 t ht)⟩

lemma holds_cons {P : S → Prop} {s t : S} {e : E} {es : List E} (h : sys.step s e = some t) :
    sys.Holds P s (e :: es) ↔ P s ∧ sys.Holds P t es := by
  refine and_congr_right fun _ => ⟨fun hes => hes t h, fun hes s' hs' => ?_⟩
  obtain rfl := Option.some.inj (h.symm.trans hs')
  exact hes

lemma Holds.start {P : S → Prop} {s : S} {es : List E} (h : sys.Holds P s es) : P s := by
  cases es with
  | nil => exact h
  | cons e es => exact h.1

lemma Holds.last {P : S → Prop} {s t : S} {es : List E} (h : sys.Holds P s es)
    (hrun : sys.run s es = some t) : P t := by
  induction es generalizing s with
  | nil =>
    obtain rfl := Option.some.inj hrun
    exact h
  | cons e es ih =>
    obtain ⟨u, hu, hrun⟩ := run_cons_some.mp hrun
    exact ih (h.2 u hu) hrun

/-- If `I` implies `P`, and from `I` the steps that meet `C` keep `I` while the others break `P`,
then `P` holds along a run exactly when every step meets `C`. -/
theorem holds_iff_meets_of_invariant {P I : S → Prop} {C : S → E → Prop} (himp : ∀ s, I s → P s)
    (hkeep : ∀ s e t, I s → C s e → sys.step s e = some t → I t)
    (hbreak : ∀ s e t, I s → sys.step s e = some t → P t → C s e) {es : List E} {s t : S}
    (hs : I s) (h : sys.run s es = some t) : sys.Holds P s es ↔ sys.Meets C s es := by
  induction es generalizing s with
  | nil => exact iff_of_true (himp s hs) trivial
  | cons e es ih =>
    obtain ⟨u, hu, h⟩ := run_cons_some.mp h
    rw [holds_cons hu, meets_cons hu]
    constructor
    · intro hall
      have hC := hbreak s e u hs hu hall.2.start
      exact ⟨hC, (ih (hkeep s e u hs hC hu) h).mp hall.2⟩
    · intro hall
      exact ⟨himp s hs, (ih (hkeep s e u hs hall.1 hu) h).mpr hall.2⟩

/-- If `C` says exactly which steps keep `P`, then `P` holds along a run exactly when every step
meets `C`. -/
theorem holds_iff_meets {P : S → Prop} {C : S → E → Prop}
    (hstep : ∀ s e t, P s → sys.step s e = some t → (P t ↔ C s e)) {es : List E} {s t : S}
    (hs : P s) (h : sys.run s es = some t) : sys.Holds P s es ↔ sys.Meets C s es :=
  holds_iff_meets_of_invariant (fun _ => id) (fun s e t hP hC hu => (hstep s e t hP hu).mpr hC)
    (fun s e t hP hu => (hstep s e t hP hu).mp) hs h

/-- What a step keeps unless it breaks `P` is there at the end of a run along which `P` holds. -/
lemma Holds.keeps {P D : S → Prop} (hkeep : ∀ s e t, D s → sys.step s e = some t → P t → D t)
    {es : List E} {s t : S} (h : sys.Holds P s es) (hs : D s) (hrun : sys.run s es = some t) :
    D t := by
  induction es generalizing s with
  | nil =>
    obtain rfl := Option.some.inj hrun
    exact hs
  | cons e es ih =>
    obtain ⟨u, hu, hrun⟩ := run_cons_some.mp hrun
    have hes := h.2 u hu
    exact ih hes (hkeep s e u hs hu hes.start) hrun

/-- As `holds_iff_meets_of_invariant`, where a step that misses `C` breaks `P` later: it leads to
`D`, which only a step that breaks `P` leaves, and which the run does not end in. -/
theorem holds_iff_meets_of_doomed {P I D : S → Prop} {C : S → E → Prop} (himp : ∀ s, I s → P s)
    (hkeep : ∀ s e t, I s → C s e → sys.step s e = some t → I t)
    (hdoom : ∀ s e t, I s → ¬ C s e → sys.step s e = some t → D t)
    (hstay : ∀ s e t, D s → sys.step s e = some t → P t → D t) {es : List E} {s t : S}
    (hs : I s) (h : sys.run s es = some t) (ht : ¬ D t) :
    sys.Holds P s es ↔ sys.Meets C s es := by
  induction es generalizing s with
  | nil => exact iff_of_true (himp s hs) trivial
  | cons e es ih =>
    obtain ⟨u, hu, h⟩ := run_cons_some.mp h
    rw [holds_cons hu, meets_cons hu]
    by_cases hC : C s e
    · rw [ih (hkeep s e u hs hC hu) h]
      exact and_congr_left fun _ => iff_of_true (himp s hs) hC
    · have hbad : ¬ sys.Holds P u es := by
        intro hall
        exact ht (hall.keeps hstay (hdoom s e u hs hC hu) h)
      exact iff_of_false (fun hall => hbad hall.2) (fun hall => hC hall.1)

/-- If the steps that meet `C` keep `I` and the others lead to `D`, which is never left, then a run
does not end in `D` exactly when every step meets `C`. -/
theorem not_doomed_iff_meets {I D : S → Prop} {C : S → E → Prop} (himp : ∀ s, I s → ¬ D s)
    (hkeep : ∀ s e t, I s → C s e → sys.step s e = some t → I t)
    (hdoom : ∀ s e t, I s → ¬ C s e → sys.step s e = some t → D t)
    (hstay : ∀ s e t, D s → sys.step s e = some t → D t) {es : List E} {s t : S}
    (hs : I s) (h : sys.run s es = some t) : ¬ D t ↔ sys.Meets C s es := by
  induction es generalizing s with
  | nil =>
    obtain rfl := Option.some.inj h
    exact iff_of_true (himp s hs) trivial
  | cons e es ih =>
    obtain ⟨u, hu, h⟩ := run_cons_some.mp h
    rw [meets_cons hu]
    by_cases hC : C s e
    · rw [ih (hkeep s e u hs hC hu) h]
      exact (and_iff_right hC).symm
    · have hD : D t := by
        have hrest := reach_of_run (sys.meets_true u es) h
        exact hrest.invariant (hdoom s e u hs hC hu) fun _ _ _ hu _ hstep => hstay _ _ _ hu hstep
      exact iff_of_false (not_not.mpr hD) fun hall => hC hall.1

end TransitionSystem
