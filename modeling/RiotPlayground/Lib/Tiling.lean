import Mathlib.Algebra.Ring.Nat
import Mathlib.Data.Finset.Card
import Mathlib.Data.Finset.Disjoint
import Mathlib.Order.Interval.Finset.Nat

/-!
# Ranges that tile an interval

A range is given by its start and its length. Ranges tile `[0, n)` when every position
below `n` lies in one of them, no position in two, and none reaches beyond `n`.
-/

namespace Tiling

def span (r : ℕ × ℕ) : Finset ℕ := Finset.Ico r.1 (r.1 + r.2)

/-- The ranges of `rs` cover `[0, n)` without gap or overlap. -/
structure Tiles (rs : List (ℕ × ℕ)) (n : ℕ) : Prop where
  disjoint : rs.Pairwise fun a b => Disjoint (span a) (span b)
  covers : ∀ x, (∃ r ∈ rs, x ∈ span r) ↔ x < n

def covered (rs : List (ℕ × ℕ)) : Finset ℕ := rs.foldr (fun r u => span r ∪ u) ∅

lemma mem_covered {rs : List (ℕ × ℕ)} {x : ℕ} : x ∈ covered rs ↔ ∃ r ∈ rs, x ∈ span r := by
  induction rs with
  | nil => simp [covered]
  | cons r rs ih =>
    have hc : covered (r :: rs) = span r ∪ covered rs := rfl
    simp [hc, ih]

lemma card_span (r : ℕ × ℕ) : (span r).card = r.2 := by simp [span]

lemma card_covered {rs : List (ℕ × ℕ)}
    (hd : rs.Pairwise fun a b => Disjoint (span a) (span b)) :
    (covered rs).card = (rs.map Prod.snd).sum := by
  induction rs with
  | nil => rfl
  | cons r rs ih =>
    obtain ⟨hr, hrs⟩ := List.pairwise_cons.mp hd
    have hdis : Disjoint (span r) (covered rs) := by
      rw [Finset.disjoint_left]
      intro x hx hxs
      obtain ⟨r', hr', hx'⟩ := mem_covered.mp hxs
      exact Finset.disjoint_left.mp (hr r' hr') hx hx'
    have hc : covered (r :: rs) = span r ∪ covered rs := rfl
    rw [hc, Finset.card_union_of_disjoint hdis, card_span, ih hrs, List.map_cons, List.sum_cons]

/-- Disjoint ranges inside `[0, n)` whose lengths add up to `n` leave no gap. -/
theorem tiles_of_sum_eq {rs : List (ℕ × ℕ)} {n : ℕ}
    (hd : rs.Pairwise fun a b => Disjoint (span a) (span b))
    (hw : ∀ r ∈ rs, r.1 + r.2 ≤ n) (hs : (rs.map Prod.snd).sum = n) : Tiles rs n := by
  have hsub : covered rs ⊆ Finset.range n := by
    intro x hx
    obtain ⟨r, hr, hx⟩ := mem_covered.mp hx
    have := hw r hr
    rw [span, Finset.mem_Ico] at hx
    exact Finset.mem_range.mpr (by omega)
  have hcard : (Finset.range n).card ≤ (covered rs).card := by
    rw [card_covered hd, hs, Finset.card_range]
  have heq := Finset.eq_of_subset_of_card_le hsub hcard
  exact ⟨hd, fun x => by rw [← mem_covered, heq, Finset.mem_range]⟩

end Tiling
