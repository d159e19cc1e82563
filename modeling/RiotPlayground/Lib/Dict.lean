import Mathlib.Data.List.Nodup

/-!
# Dictionaries in insertion order

A key that is set again keeps its place. No key is there twice.
-/

structure Dict (κ β : Type*) where
  entries : List (κ × β)
  nodup : (entries.map Prod.fst).Nodup

namespace Dict

variable {κ β : Type*} [DecidableEq κ]

def empty : Dict κ β := ⟨[], List.nodup_nil⟩

def get (d : Dict κ β) (a : κ) : Option β := (d.entries.find? fun e => e.1 = a).map Prod.snd

/-- The entries with `b` at the key `a`, which stays where it is. -/
def replaced (entries : List (κ × β)) (a : κ) (b : β) : List (κ × β) :=
  entries.map fun e => if e.1 = a then (a, b) else e

lemma replaced_keys (entries : List (κ × β)) (a : κ) (b : β) :
    (replaced entries a b).map Prod.fst = entries.map Prod.fst := by
  rw [replaced, List.map_map]
  apply List.map_congr_left
  intro e _
  by_cases he : e.1 = a
  · simp [he]
  · simp [he]

def set (d : Dict κ β) (a : κ) (b : β) : Dict κ β :=
  if h : a ∈ d.entries.map Prod.fst then
    ⟨replaced d.entries a b, (replaced_keys d.entries a b).symm ▸ d.nodup⟩
  else
    ⟨d.entries ++ [(a, b)], by
      rw [List.map_append]
      exact List.nodup_append'.mpr ⟨d.nodup, List.nodup_singleton a,
        List.disjoint_singleton.mpr h⟩⟩

/-- Deletes the entries whose value does not satisfy `p`. -/
def filter (d : Dict κ β) (p : β → Bool) : Dict κ β :=
  ⟨d.entries.filter fun e => p e.2, (List.filter_sublist.map _).nodup d.nodup⟩

lemma get_eq_some_iff {d : Dict κ β} {a : κ} {b : β} : d.get a = some b ↔ (a, b) ∈ d.entries := by
  unfold get
  constructor
  · intro h
    obtain ⟨e, he, rfl⟩ := Option.map_eq_some_iff.mp h
    obtain rfl : e.1 = a := by simpa using List.find?_some he
    exact List.mem_of_find?_eq_some he
  · intro h
    cases hfind : d.entries.find? fun e => e.1 = a with
    | none => exact absurd (List.find?_eq_none.mp hfind _ h) (by simp)
    | some e =>
      have hkey : e.1 = a := by simpa using List.find?_some hfind
      have hmem := List.mem_of_find?_eq_some hfind
      obtain rfl := List.inj_on_of_nodup_map d.nodup hmem h hkey
      rfl

@[simp] lemma get_empty (a : κ) : (empty : Dict κ β).get a = none := rfl

lemma mem_set {d : Dict κ β} {a x : κ} {b y : β} :
    (x, y) ∈ (d.set a b).entries ↔ x = a ∧ y = b ∨ x ≠ a ∧ (x, y) ∈ d.entries := by
  unfold set
  split
  · rename_i hkey
    simp only [replaced, List.mem_map]
    constructor
    · rintro ⟨e, he, heq⟩
      split at heq
      · obtain ⟨rfl, rfl⟩ := Prod.mk.inj heq
        exact .inl ⟨rfl, rfl⟩
      · rename_i hne
        subst heq
        exact .inr ⟨hne, he⟩
    · rintro (⟨rfl, rfl⟩ | ⟨hne, hmem⟩)
      · obtain ⟨e, he, hea⟩ := List.mem_map.mp hkey
        exact ⟨e, he, if_pos hea⟩
      · exact ⟨(x, y), hmem, if_neg hne⟩
  · rename_i hkey
    rw [List.mem_append, List.mem_singleton, Prod.mk.injEq, or_comm]
    refine or_congr_right ⟨fun hmem => ⟨?_, hmem⟩, And.right⟩
    rintro rfl
    exact hkey (List.mem_map_of_mem hmem)

@[simp] lemma get_set_self (d : Dict κ β) (a : κ) (b : β) : (d.set a b).get a = some b :=
  get_eq_some_iff.mpr (mem_set.mpr (.inl ⟨rfl, rfl⟩))

lemma get_set_ne {d : Dict κ β} {a x : κ} (h : x ≠ a) (b : β) : (d.set a b).get x = d.get x := by
  ext y
  rw [get_eq_some_iff, get_eq_some_iff, mem_set]
  exact ⟨fun hmem => (hmem.resolve_left fun heq => h heq.1).2, fun hmem => .inr ⟨h, hmem⟩⟩

@[simp] lemma get_filter (d : Dict κ β) (p : β → Bool) (a : κ) :
    (d.filter p).get a = (d.get a).filter p := by
  ext b
  rw [get_eq_some_iff, Option.filter_eq_some_iff, get_eq_some_iff]
  exact List.mem_filter

/-- The elements of a list that no later element shares its key with. -/
def lastWins {α : Type*} (key : α → κ) : List α → List α
  | [] => []
  | a :: l => if ∃ b ∈ l, key b = key a then lastWins key l else a :: lastWins key l

lemma mem_of_mem_lastWins {α : Type*} {key : α → κ} {l : List α} {a : α}
    (h : a ∈ lastWins key l) : a ∈ l := by
  induction l with
  | nil => exact h
  | cons b l ih =>
    rw [lastWins] at h
    split at h
    · exact List.mem_cons_of_mem b (ih h)
    · rcases List.mem_cons.mp h with rfl | hl
      · exact List.mem_cons_self
      · exact List.mem_cons_of_mem b (ih hl)

lemma lastWins_map {α γ : Type*} {key : α → κ} {key' : γ → κ} {f : γ → α}
    (hkey : ∀ c, key (f c) = key' c) (l : List γ) :
    lastWins key (l.map f) = (lastWins key' l).map f := by
  induction l with
  | nil => rfl
  | cons c l ih => simp [lastWins, hkey, ih, apply_ite (List.map f)]

def setAll (d : Dict κ β) : List (κ × β) → Dict κ β
  | [] => d
  | (a, b) :: entries => setAll (d.set a b) entries

lemma mem_setAll {d : Dict κ β} {entries : List (κ × β)} {x : κ} {y : β} :
    (x, y) ∈ (d.setAll entries).entries ↔
      (x, y) ∈ lastWins Prod.fst entries ∨
        (x, y) ∈ d.entries ∧ ∀ e ∈ entries, e.1 ≠ x := by
  induction entries generalizing d with
  | nil => simp [setAll, lastWins]
  | cons e entries ih =>
    obtain ⟨a, b⟩ := e
    rw [setAll, ih, mem_set, lastWins, List.forall_mem_cons]
    by_cases hx : x = a
    · subst hx
      by_cases hlater : ∃ e ∈ entries, e.1 = x
      · have hnot : ¬ ∀ e ∈ entries, e.1 ≠ x := fun h => hlater.elim fun e he => h e he.1 he.2
        simp only [hnot, hlater, if_true, and_false, or_false, ne_eq, not_true, false_and]
      · have hall : ∀ e ∈ entries, e.1 ≠ x := fun e he heq => hlater ⟨e, he, heq⟩
        rw [if_neg hlater, List.mem_cons, Prod.mk.injEq, or_comm, and_iff_left hall]
        simp
    · have hne : (x, y) ≠ (a, b) := fun h => hx (congrArg Prod.fst h)
      have hmem : (x, y) ∈ (if ∃ e ∈ entries, e.1 = a then lastWins Prod.fst entries
          else (a, b) :: lastWins Prod.fst entries) ↔ (x, y) ∈ lastWins Prod.fst entries := by
        split
        · exact Iff.rfl
        · rw [List.mem_cons, or_iff_right hne]
      rw [hmem]
      simp [hx, Ne.symm hx]

lemma mem_setAll_empty {entries : List (κ × β)} {e : κ × β} :
    e ∈ (empty.setAll entries : Dict κ β).entries ↔ e ∈ lastWins Prod.fst entries := by
  apply mem_setAll.trans
  simp [empty]

end Dict
