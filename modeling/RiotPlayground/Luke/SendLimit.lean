import RiotPlayground.Lib.SendLimit
import RiotPlayground.Luke.Common

/-!
# The send limiter of the luke nodes

`post_points_to_target` takes the time since the last request the wrong way round.
-/

namespace RiotPlayground

namespace Luke

namespace Common

lemma isSome_request (s : Common) (points now later : UInt32) (res : ℕ) :
    (s.postPointsToTarget points now later res).request.isSome =
      (!s.noTarget && !s.tooSoon now) := by
  unfold postPointsToTarget
  cases s.noTarget with
  | true => rfl
  | false => cases s.tooSoon now <;> rfl

lemma victoryLastSent_post (s : Common) (points now later : UInt32) (res : ℕ) :
    (s.postPointsToTarget points now later res).common.victoryLastSent =
      if (s.postPointsToTarget points now later res).request.isSome then later
      else s.victoryLastSent := by
  unfold postPointsToTarget
  cases s.noTarget with
  | true => rfl
  | false => cases s.tooSoon now <;> rfl

/-- `post_points_to_target` with its arguments, and what `luke_set_target` may do in between. -/
def sender : Sender Common (UInt32 × ℕ) (SockUdpEp × (ℕ → UInt8)) Request where
  call s now later c :=
    let posted := s.postPointsToTarget c.1 now later c.2
    (posted.request, posted.common)
  other s target := { s with targetRemote := target.1, targetPath := target.2 }
  ready s := !s.noTarget
  lastSent := victoryLastSent
  holdsBack last now := last - now < US_PER_SEC
  isSome_call s now later c h := by
    apply (s.isSome_request c.1 now later c.2).trans
    rw [h]
    rfl
  lastSent_call s now later c := s.victoryLastSent_post c.1 now later c.2
  lastSent_other _ _ := rfl

/-- A later request at least a second before the counter has gone round, the first one at a time
that is not taken for less than a second before the start. -/
def RightTiming : Option ℕ → ℕ → Prop
  | none, now => 0 < now % 2 ^ 32 ∧ now % 2 ^ 32 ≤ 2 ^ 32 - 1000000
  | some sent, now => now = sent ∨ 1000000 ≤ now - sent ∧ now - sent ≤ 2 ^ 32 - 1000000

lemma holdsBack_none_iff (now : ℕ) :
    sender.holdsBack (Clock.lastReading none) (Clock.reading now) = true ↔
      ¬ RightTiming none now := by
  apply decide_eq_true_iff.trans
  have hsub := Clock.toNat_reading_sub 0 now
  unfold RightTiming
  rw [show Clock.lastReading none = Clock.reading 0 from rfl, UInt32.lt_iff_toNat_lt, hsub,
    show US_PER_SEC.toNat = 1000000 from rfl]
  omega

lemma holdsBack_some_iff {sent now : ℕ} (hle : sent ≤ now) (hturn : now - sent < 2 ^ 32) :
    sender.holdsBack (Clock.lastReading (some sent)) (Clock.reading now) = true ↔
      now = sent ∨ 2 ^ 32 - 1000000 < now - sent :=
  decide_eq_true_iff.trans (Clock.reading_sub_lt_iff hle hturn (by decide))

/-- The limiter of a node that was just started limits to one request a second exactly as long as
its calls come at the right times. -/
theorem postPoints_limits_iff (es : List (Sender.Event (UInt32 × ℕ) (SockUdpEp × (ℕ → UInt8)))) :
    sender.timed.Meets (sender.Limits 1000000) (.start init) es ↔
      sender.timed.Meets (sender.Timing RightTiming) (.start init) es := by
  refine Sender.limits_iff_timing ?_ rfl es
  intro last now hlast
  cases last with
  | none =>
    rw [← Bool.not_eq_true, holdsBack_none_iff, not_not]
    exact iff_true_right (by simp)
  | some sent =>
    obtain ⟨hle, hturn⟩ := hlast sent rfl
    rw [← Bool.not_eq_true, holdsBack_some_iff hle hturn]
    unfold RightTiming
    simp only [Option.mem_some_iff, forall_eq']
    omega

/-- A target is set, and points are posted after two seconds and half a second later. -/
def secondTooSoon : List (Sender.Event (UInt32 × ℕ) (SockUdpEp × (ℕ → UInt8))) :=
  [.other (⟨.inet6, Vector.replicate 16 1, 0, GCOAP_PORT⟩, fun k => if k = 0 then 47 else 0),
    .call 2000000 0 (64, 1), .call 500000 0 (64, 1)]

theorem secondTooSoon_sent :
    ¬ ∀ es, sender.timed.Meets (sender.Limits 1000000) (.start init) es := by
  intro h
  have hsecond := ((((h secondTooSoon).2 _ rfl).2 _ rfl).1 (by decide +kernel) ?_).mp
    (by decide +kernel)
  · exact absurd (hsecond 2000000 (by decide +kernel)) (by decide)
  · intro sent hlast
    obtain rfl := Option.some.inj hlast
    decide

end Common

end Luke

end RiotPlayground
