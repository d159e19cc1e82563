import RiotPlayground.Lib.SendLimit
import RiotPlayground.Button.Button

/-!
# The send limiter of the button

`_post_to_target` compares the readings themselves, a second apart.
-/

namespace RiotPlayground

open Luke

namespace Button

namespace Vars

lemma isSome_request (s : Vars) (now later : UInt32) :
    (s.postToTarget now later).1.isSome = (!s.noTarget && !s.tooSoon now) := by
  unfold postToTarget
  cases s.tooSoon now with
  | true => simp
  | false => cases s.noTarget <;> rfl

lemma lastSent_post (s : Vars) (now later : UInt32) :
    (s.postToTarget now later).2.lastSent =
      if (s.postToTarget now later).1.isSome then later else s.lastSent := by
  unfold postToTarget
  cases s.tooSoon now with
  | true => rfl
  | false => cases s.noTarget <;> rfl

/-- `_post_to_target`, and what `_set_target` may do in between. -/
def sender : Sender Vars Unit (SockUdpEp × (ℕ → UInt8)) Request where
  call s now later _ := s.postToTarget now later
  other s target := { s with targetRemote := target.1, targetPath := target.2 }
  ready s := !s.noTarget
  lastSent := lastSent
  holdsBack last now := now - US_PER_SEC < last
  isSome_call s now later _ h := by
    rw [isSome_request, h]
    rfl
  lastSent_call s now later _ := s.lastSent_post now later
  lastSent_other _ _ := rfl

/-- The reading at the last request with the time since then stays within a turn that begins a
second after the counter is zero. -/
def RightTiming : Option ℕ → ℕ → Prop
  | none, _ => True
  | some sent, now =>
    1000000 ≤ sent % 2 ^ 32 + (now - sent) ∧ sent % 2 ^ 32 + (now - sent) < 2 ^ 32 + 1000000

lemma holdsBack_iff (last now : UInt32) :
    sender.holdsBack last now = true ↔ now - US_PER_SEC < last :=
  decide_eq_true_iff

/-- The limiter of a button that was just started limits to one request a second exactly as long
as its calls come at the right times. -/
theorem postToTarget_limits_iff (es : List (Sender.Event Unit (SockUdpEp × (ℕ → UInt8)))) :
    sender.timed.Meets (sender.Limits 1000000) (.start .init) es ↔
      sender.timed.Meets (sender.Timing RightTiming) (.start .init) es := by
  refine Sender.limits_iff_timing ?_ rfl es
  intro last now hlast
  cases last with
  | none =>
    have hfirst : sender.holdsBack (Clock.lastReading none) (Clock.reading now) = false := by
      rw [← Bool.not_eq_true, holdsBack_iff]
      exact UInt32.not_lt.mpr UInt32.zero_le
    exact iff_of_true (iff_of_true hfirst (by simp)) trivial
  | some sent =>
    obtain ⟨hle, hturn⟩ := hlast sent rfl
    rw [← Bool.not_eq_true, holdsBack_iff]
    have hright : (Clock.reading now - US_PER_SEC < Clock.reading sent ↔
        now - sent < US_PER_SEC.toNat) ↔ RightTiming (some sent) now :=
      Clock.sub_period_lt_iff hle hturn
    rw [← hright]
    have hperiod : (1000000 ≤ now - sent) ↔ ¬ now - sent < US_PER_SEC.toNat :=
      Nat.not_lt.symm
    simp only [Option.mem_some_iff, forall_eq', hperiod]
    exact not_iff_not

/-- A target is set and a request sent half a second before the counter is zero again. The button
is pushed a second and a half later. -/
def afterTheTurn : List (Sender.Event Unit (SockUdpEp × (ℕ → UInt8))) :=
  [.other (⟨.inet6, Vector.replicate 16 1, 0, GCOAP_PORT⟩, fun k => if k = 0 then 47 else 0),
    .call (2 ^ 32 - 500000) 0 (), .call 1500000 0 ()]

theorem afterTheTurn_held :
    ¬ ∀ es, sender.timed.Meets (sender.Limits 1000000) (.start .init) es := by
  intro h
  have hsecond := ((((h afterTheTurn).2 _ rfl).2 _ rfl).1 (by decide +kernel) ?_).mpr ?_
  · exact absurd hsecond (by decide +kernel)
  · intro sent hlast
    obtain rfl := Option.some.inj hlast
    decide
  · intro sent hlast
    obtain rfl := Option.some.inj hlast
    decide

end Vars

end Button

end RiotPlayground
