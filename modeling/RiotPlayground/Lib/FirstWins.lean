import Mathlib.Data.List.Sort

/-!
# Dropping repeated keys

`firstWins key l` keeps of every key the first element of `l` that has it.
-/

section FirstWins

variable {α κ : Type*} [DecidableEq κ] (key : α → κ)

/-- The loop behind `firstWins`: elements whose key was `seen` are skipped. -/
def firstWinsFrom (seen : List κ) : List α → List α
  | [] => []
  | a :: l =>
    if key a ∈ seen then firstWinsFrom seen l else a :: firstWinsFrom (key a :: seen) l

/-- The elements of `l` whose key no earlier element of `l` has. -/
def firstWins (l : List α) : List α := firstWinsFrom key [] l

variable {key}

lemma firstWinsFrom_sublist (seen : List κ) (l : List α) :
    (firstWinsFrom key seen l).Sublist l := by
  induction l generalizing seen with
  | nil => exact List.Sublist.slnil
  | cons a l ih =>
    rw [firstWinsFrom]
    split
    · exact (ih seen).cons a
    · exact (ih _).cons_cons a

lemma firstWinsFrom_fresh (seen : List κ) (l : List α) :
    ∀ a ∈ firstWinsFrom key seen l, key a ∉ seen := by
  induction l generalizing seen with
  | nil => simp [firstWinsFrom]
  | cons b l ih =>
    intro a ha
    rw [firstWinsFrom] at ha
    split at ha
    · exact ih seen a ha
    · rename_i hb
      rcases List.mem_cons.mp ha with rfl | ha
      · exact hb
      · exact fun h => ih _ a ha (List.mem_cons_of_mem _ h)

lemma firstWinsFrom_pairwise (seen : List κ) (l : List α) :
    (firstWinsFrom key seen l).Pairwise fun a b => key a ≠ key b := by
  induction l generalizing seen with
  | nil => simp [firstWinsFrom]
  | cons a l ih =>
    rw [firstWinsFrom]
    split
    · exact ih seen
    · refine List.pairwise_cons.mpr ⟨fun b hb h => ?_, ih _⟩
      exact firstWinsFrom_fresh _ l b hb (h ▸ List.mem_cons_self)

lemma exists_mem_firstWinsFrom (seen : List κ) (l : List α) :
    ∀ a ∈ l, key a ∉ seen → ∃ b ∈ firstWinsFrom key seen l, key b = key a := by
  induction l generalizing seen with
  | nil => simp
  | cons b l ih =>
    intro a ha hs
    rw [firstWinsFrom]
    by_cases hab : key a = key b
    · rw [if_neg (hab ▸ hs)]
      exact ⟨b, List.mem_cons_self, hab.symm⟩
    · have hal : a ∈ l := by
        rcases List.mem_cons.mp ha with rfl | h
        · exact absurd rfl hab
        · exact h
      split
      · exact ih seen a hal hs
      · obtain ⟨c, hc, hk⟩ := ih (key b :: seen) a hal (by simp [hab, hs])
        exact ⟨c, List.mem_cons_of_mem _ hc, hk⟩

variable (key) in
lemma firstWinsFrom_append_singleton (seen : List κ) (l : List α) (a : α) :
    firstWinsFrom key seen (l ++ [a]) =
      if key a ∈ seen ∨ ∃ b ∈ l, key b = key a then firstWinsFrom key seen l
      else firstWinsFrom key seen l ++ [a] := by
  induction l generalizing seen with
  | nil => simp [firstWinsFrom]
  | cons b l ih =>
    simp only [List.cons_append, firstWinsFrom, ih]
    by_cases hb : key b ∈ seen
    · have : (key a ∈ seen ∨ ∃ c ∈ l, key c = key a) ↔
          (key a ∈ seen ∨ ∃ c ∈ b :: l, key c = key a) := by
        simp only [List.mem_cons, exists_eq_or_imp]
        constructor
        · rintro (h | h)
          · exact .inl h
          · exact .inr (.inr h)
        · rintro (h | h | h)
          · exact .inl h
          · exact .inl (h ▸ hb)
          · exact .inr h
      simp only [hb, if_true, this]
    · have : (key a ∈ key b :: seen ∨ ∃ c ∈ l, key c = key a) ↔
          (key a ∈ seen ∨ ∃ c ∈ b :: l, key c = key a) := by
        simp only [List.mem_cons, exists_eq_or_imp]
        tauto
      simp only [hb, if_false, this]
      split <;> simp

lemma firstWins_sublist (l : List α) : (firstWins key l).Sublist l := firstWinsFrom_sublist [] l

lemma firstWins_pairwise (l : List α) :
    (firstWins key l).Pairwise fun a b => key a ≠ key b := firstWinsFrom_pairwise [] l

lemma firstWins_inj {l : List α} {a b : α} (ha : a ∈ firstWins key l) (hb : b ∈ firstWins key l)
    (h : key a = key b) : a = b :=
  List.inj_on_of_nodup_map (List.pairwise_map.mpr (firstWins_pairwise l)) ha hb h

variable (key) in
lemma exists_mem_firstWins {l : List α} {a : α} (h : a ∈ l) :
    ∃ b ∈ firstWins key l, key b = key a := exists_mem_firstWinsFrom [] l a h (by simp)

lemma firstWins_append_singleton (l : List α) (a : α) :
    firstWins key (l ++ [a]) =
      if ∃ b ∈ l, key b = key a then firstWins key l else firstWins key l ++ [a] := by
  simpa [firstWins] using firstWinsFrom_append_singleton key [] l a

end FirstWins

/-- Lists sorted strictly by a key are equal when they have the same elements. -/
theorem eq_of_sorted_of_mem_iff {α : Type*} {key : α → ℕ} {l₁ l₂ : List α}
    (h₁ : l₁.Pairwise fun a b => key a < key b) (h₂ : l₂.Pairwise fun a b => key a < key b)
    (h : ∀ a, a ∈ l₁ ↔ a ∈ l₂) : l₁ = l₂ := by
  have hne : ∀ {a b : α}, key a < key b → a ≠ b := fun hlt heq => hlt.ne (congrArg key heq)
  have hperm : l₁.Perm l₂ := (List.perm_ext_iff_of_nodup (h₁.imp hne) (h₂.imp hne)).mpr h
  exact hperm.eq_of_pairwise (fun a b _ _ hab hba => absurd hba hab.not_gt) h₁ h₂
