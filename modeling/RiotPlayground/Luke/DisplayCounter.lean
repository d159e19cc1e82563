import RiotPlayground.Luke.Display
import Mathlib.Algebra.Ring.Nat

/-!
# The counter of the display

`_increment_points` and `_decrement_points` against a counter that saturates at both ends.
-/

namespace RiotPlayground

namespace Luke

namespace Display

/-- A call of `_increment_points` with the number of a points message, or of `_decrement_points`
with an `int` that is not negative. -/
inductive Count
  | increment (p : Fin 1000) (obs : Bool)
  | decrement (p : Fin (2 ^ 31)) (obs : Bool)

/-- The counter as it is meant. -/
def Count.saturating (max old : ℕ) : Count → ℕ
  | .increment p _ => min max (old + p)
  | .decrement p _ => old - p

section

variable (ledCnt : UInt16)

def Count.call (s : Vars) : Count → Vars
  | .increment p obs => incrementPoints ledCnt (.ofNat p) obs s
  | .decrement p obs => decrementPoints ledCnt (.ofNat p) obs s

def counter : TransitionSystem Vars Count where
  step s c := some (c.call ledCnt s)

/-- The call leaves the counter in its range and with the value it is meant to have. -/
def Saturates (s : Vars) (c : Count) : Prop :=
  (c.call ledCnt s).points.toNat ≤ ledCnt.toNat ∧
    (c.call ledCnt s).points.toNat = c.saturating ledCnt.toNat s.points.toNat

/-- The sum fits `_points`, the difference fits `uint8_t` and the strip. -/
def Fits (s : Vars) : Count → Prop
  | .increment p _ => s.points.toNat + p < 2 ^ 16
  | .decrement p _ => s.points.toNat < p + 2 ^ 8 ∧ s.points.toNat ≤ p + ledCnt.toNat

end

variable {ledCnt : UInt16} {s : Vars}

lemma toNat_newPoints (p : ℕ) :
    (newPoints (.ofNat p) s).toNat = (s.points.toNat + p) % 2 ^ 16 := by
  unfold newPoints
  rw [UInt16.toNat_add, UInt32.toNat_toUInt16, UInt32.toNat_ofNat']
  omega

lemma toNat_droppedPoints {p : ℕ} (hp : p < 2 ^ 31) :
    (droppedPoints (.ofNat p) s).toNat = (s.points.toNat - p) % 2 ^ 8 := by
  have hp32 : (UInt32.ofNat p).toNat = p := 
    UInt32.toNat_ofNat_of_lt' (Nat.lt_trans hp (by decide))
  have hpoints : s.points.toUInt32.toNat = s.points.toNat := UInt16.toNat_toUInt32 _
  unfold droppedPoints
  split
  · rename_i hless
    rw [UInt32.lt_iff_toNat_lt, hp32, hpoints] at hless
    rw [Nat.sub_eq_zero_of_le (Nat.le_of_lt hless)]
    rfl
  · rename_i hle
    rw [UInt32.not_lt, UInt32.le_iff_toNat_le, hp32, hpoints] at hle
    rw [UInt8.toNat_toUInt16, UInt32.toNat_toUInt8,
      UInt32.toNat_sub_of_le _ _ (by rwa [UInt32.le_iff_toNat_le, hp32, hpoints]), hp32, hpoints]

/-- The counter is in its range, or it is still the one of the start. -/
def InRange (ledCnt : UInt16) (s : Vars) : Prop :=
  s.points.toNat ≤ ledCnt.toNat ∨ s.points.toNat = 64

lemma saturates_iff (h : InRange ledCnt s) (c : Count) :
    Saturates ledCnt s c ↔ Fits ledCnt s c := by
  have hled := ledCnt.toNat_lt
  unfold Saturates Count.saturating Fits
  cases c with
  | increment p obs =>
    have hsum := toNat_newPoints (s := s) p
    have hafter : (Count.call ledCnt s (.increment p obs)).points.toNat =
        min ledCnt.toNat ((s.points.toNat + p) % 2 ^ 16) := by
      unfold Count.call
      dsimp only
      rw [(incrementPoints_vars ledCnt obs s _).1, ← hsum]
      split
      · rename_i hfull
        exact (Nat.min_eq_left (Nat.le_of_lt (UInt16.lt_iff_toNat_lt.mp hfull))).symm
      · rename_i hfits
        exact (Nat.min_eq_right (UInt16.le_iff_toNat_le.mp (UInt16.not_lt.mp hfits))).symm
    have hp := p.isLt
    rw [hafter]
    rcases h with h | h
    · dsimp only
      omega
    · dsimp only
      omega
  | decrement p obs =>
    have hdropped := toNat_droppedPoints (s := s) p.isLt
    have hafter : (Count.call ledCnt s (.decrement p obs)).points.toNat =
        (s.points.toNat - p) % 2 ^ 8 := by
      unfold Count.call
      dsimp only
      rw [(decrementPoints_vars ledCnt obs s _).1, hdropped]
    rw [hafter]
    dsimp only
    omega

lemma inRange_of_saturates {c : Count} (h : Saturates ledCnt s c) :
    InRange ledCnt (c.call ledCnt s) :=
  .inl h.1

/-- In a run from the start every call saturates exactly when the sum or the difference of each
fits. -/
theorem saturates_iff_fits (ledCnt : UInt16) (cs : List Count) :
    (counter ledCnt).Meets (Saturates ledCnt) .init cs ↔
      (counter ledCnt).Meets (Fits ledCnt) .init cs := by
  have hinit : InRange ledCnt .init := .inr rfl
  constructor
  · refine TransitionSystem.Meets.of_invariant (I := InRange ledCnt) ?_
      (fun s c hrange => (saturates_iff hrange c).mp) hinit
    intro s c t hrange hsat hs
    obtain rfl := Option.some.inj hs
    exact inRange_of_saturates hsat
  · refine TransitionSystem.Meets.of_invariant (I := InRange ledCnt) ?_
      (fun s c hrange => (saturates_iff hrange c).mpr) hinit
    intro s c t hrange hfits hs
    obtain rfl := Option.some.inj hs
    exact inRange_of_saturates ((saturates_iff hrange c).mpr hfits)

/-- With 400 LEDs, 300 points and a decrement by 2 leave 42. -/
theorem decrement_300_not_saturates : ¬ ∀ ledCnt cs, 1 ≤ ledCnt.toNat →
    (counter ledCnt).Meets (Saturates ledCnt) .init cs := by
  intro h
  have hrun := h 400 [.increment 236 false, .decrement 2 false] (by decide)
  have hexact := ((hrun.2 _ rfl).1).2
  exact absurd hexact (by decide +kernel)

end Display

end Luke

end RiotPlayground
