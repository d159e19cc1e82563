import RiotPlayground.Lib.Buffer

/-!
# Flat JSON objects of strings

The text of an object whose members are strings, and where its strings stand in it. The strings are
raw: what stands between two quotes, escapes included.
-/

namespace FlatJson

open Buffer

/-- A string with its key. -/
structure Member where
  key : List UInt8
  value : List UInt8
  deriving DecidableEq

/-- The string from position `start` up to position `stop`. -/
structure Span where
  start : ℕ
  stop : ℕ

/-- `"key":"value"` -/
def memberText (m : Member) : List UInt8 := 34 :: m.key ++ 34 :: 58 :: 34 :: m.value ++ [34]

def membersText : List Member → List UInt8
  | [] => []
  | [m] => memberText m
  | m :: n :: ms => memberText m ++ 44 :: membersText (n :: ms)

def objectText (ms : List Member) : List UInt8 := 123 :: membersText ms ++ [125]

/-- The strings of members whose text starts at `pos`. -/
def membersSpans : ℕ → List Member → List Span
  | _, [] => []
  | pos, m :: ms =>
    ⟨pos + 1, pos + 1 + m.key.length⟩ ::
      ⟨pos + m.key.length + 4, pos + m.key.length + 4 + m.value.length⟩ ::
        membersSpans (pos + (memberText m).length + 1) ms

/-- The keys and values, each key before its value. -/
def strings : List Member → List (List UInt8)
  | [] => []
  | m :: ms => m.key :: m.value :: strings ms

/-- The string stands at the span in the memory. -/
def Reads (m : ℕ → UInt8) (span : Span) (string : List UInt8) : Prop :=
  span.stop = span.start + string.length ∧ slice m span.start string.length = string

/-- Writing before a string leaves it alone. -/
lemma Reads.update_before {m : ℕ → UInt8} {span : Span} {string : List UInt8}
    (h : Reads m span string) {i : ℕ} (b : UInt8) (hi : i < span.start) :
    Reads (Function.update m i b) span string := by
  refine ⟨h.1, ?_⟩
  rw [slice_congr fun j hj _ => Function.update_of_ne (Nat.ne_of_gt (Nat.lt_of_lt_of_le hi hj)) b m]
  exact h.2

lemma length_memberText (m : Member) :
    (memberText m).length = m.key.length + m.value.length + 5 := by
  simp only [memberText, List.length_append, List.length_cons, List.length_nil]
  omega

lemma slice_of_append {m : ℕ → UInt8} {pos n : ℕ} {xs ys : List UInt8}
    (h : slice m pos n = xs ++ ys) : slice m pos xs.length = xs ∧
      slice m (pos + xs.length) ys.length = ys := by
  have hn : n = xs.length + ys.length := by
    rw [← length_slice m pos n, h, List.length_append]
  rw [hn, slice_add] at h
  exact List.append_inj h (length_slice m pos xs.length)

lemma slice_of_cons {m : ℕ → UInt8} {pos n : ℕ} {x : UInt8} {ys : List UInt8}
    (h : slice m pos n = x :: ys) : slice m (pos + 1) ys.length = ys :=
  (slice_of_append (show slice m pos n = [x] ++ ys from h)).2

lemma reads_member {memory : ℕ → UInt8} {pos n : ℕ} {m : Member} {rest : List UInt8}
    (h : slice memory pos n = memberText m ++ rest) :
    Reads memory ⟨pos + 1, pos + 1 + m.key.length⟩ m.key ∧
    Reads memory ⟨pos + m.key.length + 4, pos + m.key.length + 4 + m.value.length⟩ m.value := by
  have hmember := (slice_of_append h).1
  have hkey : slice memory (pos + 1) _ = (m.key ++ 34 :: 58 :: 34 :: m.value) ++ [34] :=
    slice_of_cons hmember
  have hkey' := (slice_of_append (slice_of_append hkey).1)
  have hvalue : slice memory (pos + 1 + m.key.length + 1 + 1 + 1) m.value.length = m.value :=
    slice_of_cons (slice_of_cons (slice_of_cons hkey'.2))
  have hpos : pos + 1 + m.key.length + 1 + 1 + 1 = pos + m.key.length + 4 := by omega
  rw [hpos] at hvalue
  exact ⟨⟨rfl, hkey'.1⟩, ⟨rfl, hvalue⟩⟩

/-- The spans of the members are where their strings stand. -/
theorem reads_members {memory : ℕ → UInt8} {ms : List Member} {pos n : ℕ} {rest : List UInt8}
    (h : slice memory pos n = membersText ms ++ rest) :
    List.Forall₂ (Reads memory) (membersSpans pos ms) (strings ms) := by
  induction ms generalizing pos n with
  | nil => exact .nil
  | cons m ms ih =>
    cases ms with
    | nil =>
      obtain ⟨hkey, hvalue⟩ := reads_member h
      exact .cons hkey (.cons hvalue .nil)
    | cons m' ms =>
      have htext : slice memory pos n = memberText m ++ (44 :: membersText (m' :: ms) ++ rest) := by
        rw [h, membersText, List.append_assoc]
      obtain ⟨hkey, hvalue⟩ := reads_member htext
      have hrest : slice memory (pos + (memberText m).length + 1) _ =
          membersText (m' :: ms) ++ rest :=
        slice_of_cons (slice_of_append htext).2
      exact .cons hkey (.cons hvalue (ih hrest))

end FlatJson
