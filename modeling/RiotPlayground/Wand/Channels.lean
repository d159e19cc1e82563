import RiotPlayground.Wand.Modes

/-!
# What the channels are armed for

`_return_to_blink` means to disarm what was armed before it, but clears the channels of
`TIMER_DEV(0)`. `_btn_light_release` stops `TIMER_DEV(1)`, `_btn_time_release` does not.
-/

namespace RiotPlayground

namespace Wand

/-- While the wand blinks only the blink period is armed. -/
def BlinkOnly (s : State) : Prop :=
  s.blinking = true → s.timer1.setTime = none ∧ s.timer1.powerBar = some blinkTimeout

/-- `_do_decrement` is called only while no long press of `BTN_TIME` is timed. -/
def DecrementsAlone (s : State) (e : Event) : Prop :=
  s.handler e = some .doDecrement → s.timer1.setTime = none

instance (s : State) (e : Event) : Decidable (DecrementsAlone s e) :=
  inferInstanceAs (Decidable (_ → _))

/-- In normal mode with both buttons released `TIMER_DEV(1)` is stopped and not armed. -/
def IdleStopped (s : State) : Prop :=
  s.setTimeMode = .off → s.btnLight.pressed = false → s.btnTime.pressed = false →
    s.timer1.running = false ∧ s.timer1.powerBar = none ∧ s.timer1.setTime = none

def Button.other : Button → Button
  | .light => .time
  | .time => .light

/-- Unless it calls `_btn_light_release`, the release of the last button in normal mode finds the
timer stopped. -/
def FindsStopped (s : State) : Event → Prop
  | .release btn =>
    s.setTimeMode = .off → (s.pin btn.other).pressed = false →
      s.handler (.release btn) ≠ some .btnLightRelease → s.timer1.running = false
  | _ => True

instance (s : State) (e : Event) : Decidable (FindsStopped s e) :=
  match e with
  | .release _ => inferInstanceAs (Decidable (_ → _ → _ → _))
  | .push _ | .expire _ _ | .tick _ => .isTrue trivial

variable {s t : State} {e : Event}

lemma blinkOnly_of_still (h : s.blinking = false) : BlinkOnly s :=
  fun hblinking => absurd (h.symm.trans hblinking) Bool.false_ne_true

lemma blinkOnly_does (hmatching : Matching s) (h : BlinkOnly s) (hdoes : Does s e t)
    (halone : DecrementsAlone s e) : BlinkOnly t := by
  have hlight (hpin : (s.pin .light).registered = (.rising, .doDecrement)) :
      s.handler (.release .light) = some .doDecrement := handler_release hpin
  cases hdoes with
  | idlePush btn => cases btn <;> exact h
  | idleRelease btn => cases btn <;> exact h
  | btnLightPush hmode => exact blinkOnly_of_still (hmatching.still hmode)
  | btnLightRelease hmode => exact blinkOnly_of_still (hmatching.still hmode)
  | showPowerOff _ hmode => exact blinkOnly_of_still (hmatching.still hmode)
  | btnTimePush _ hmode => exact blinkOnly_of_still (hmatching.still hmode)
  | btnTimeRelease _ hmode => exact blinkOnly_of_still (hmatching.still hmode)
  | showPower _ _ hmode => exact blinkOnly_of_still (hmatching.still hmode)
  | decrement => exact blinkOnly_of_still rfl
  | increment => exact blinkOnly_of_still rfl
  | decrementHours _ _ _ hpin => exact fun _ => ⟨halone (hlight hpin), rfl⟩
  | decrementQuarters _ _ _ hpin => exact fun _ => ⟨halone (hlight hpin), rfl⟩
  | incrementHours => exact fun _ => ⟨rfl, rfl⟩
  | incrementQuarters => exact fun _ => ⟨rfl, rfl⟩
  | blink channel =>
    intro hblinking
    refine ⟨?_, rfl⟩
    cases channel with
    | powerBar => exact (h hblinking).1
    | setTime => rfl
  | cancel => exact blinkOnly_of_still rfl
  | setHours => exact fun _ => ⟨rfl, rfl⟩
  | setQuarters => exact fun _ => ⟨rfl, rfl⟩
  | confirm => exact blinkOnly_of_still rfl
  | tick => exact h

/-- What `_do_decrement` finds armed stays armed while the wand blinks. -/
lemma decrementsAlone_of_blinkOnly (hdoes : Does s e t) (h : BlinkOnly t) :
    DecrementsAlone s e := by
  intro hhandler
  cases hdoes with
  | idleRelease btn hflank =>
    rw [handler_idleRelease hflank] at hhandler
    cases hhandler
  | idlePush btn hflank =>
    rw [handler_idlePush hflank] at hhandler
    cases hhandler
  | decrementHours => exact (h rfl).1
  | decrementQuarters => exact (h rfl).1
  | btnLightRelease _ hpin | showPowerOff _ _ hpin | btnTimeRelease _ _ hpin
  | incrementHours _ _ _ hpin | incrementQuarters _ _ _ hpin =>
    rw [handler_release hpin] at hhandler
    cases hhandler
  | btnLightPush _ hpin | btnTimePush _ _ hpin | decrement _ _ hpin | increment _ _ hpin =>
    rw [handler_push hpin] at hhandler
    cases hhandler
  | blink | showPower | cancel | setHours | setQuarters | confirm | tick => cases hhandler

/-- In a run only the blink period is armed while the wand blinks exactly when `_do_decrement` is
never called while a long press of `BTN_TIME` is timed. -/
theorem blinkOnly_iff {rtc : RtcTime} {es : List Event} {s : State}
    (h : wand.run (start rtc) es = some s) :
    wand.Holds BlinkOnly (start rtc) es ↔ wand.Meets DecrementsAlone (start rtc) es := by
  refine TransitionSystem.holds_iff_meets_of_invariant
    (I := fun s => Matching s ∧ BlinkOnly s) (fun s hs => hs.2) ?_ ?_
    ⟨matching_start rtc, blinkOnly_of_still rfl⟩ h
  · intro s e t hs halone hstep
    have hdoes := does_of_step hs.1 hstep
    exact ⟨matching_does hs.1 hdoes, blinkOnly_does hs.1 hs.2 hdoes halone⟩
  · intro s e t hs hstep ht
    exact decrementsAlone_of_blinkOnly (does_of_step hs.1 hstep) ht

/-- The hour is dialled down and then up, and the quarters are reached by a long press. -/
def dialInTurn : List Event :=
  [.push .time, .expire .setTime none, .release .time, .expire .powerBar none, .push .light,
    .release .light, .push .time, .release .time, .push .time, .expire .setTime none,
    .release .time]

theorem blinkOnly_dialInTurn :
    wand.Holds BlinkOnly (start ⟨⟨10, 20, 5⟩, by decide, by decide⟩) dialInTurn := by
  obtain ⟨s, hs⟩ : ∃ s, wand.run (start ⟨⟨10, 20, 5⟩, by decide, by decide⟩) dialInTurn =
      some s := by
    apply Option.isSome_iff_exists.mp
    decide +kernel
  apply (blinkOnly_iff hs).mpr
  decide +kernel

/-- In set time mode `BTN_TIME` is pushed before `BTN_LIGHT` is released. -/
def dialOverlapping : List Event :=
  [.push .time, .expire .setTime none, .release .time, .push .light, .push .time, .release .light]

/-- The long press of `BTN_TIME` is still timed when the wand blinks again. -/
theorem blinkOnly_dialOverlapping :
    ¬ ∀ rtc es s, wand.run (start rtc) es = some s → wand.Holds BlinkOnly (start rtc) es := by
  intro h
  have hfinal : (wand.run (start ⟨⟨10, 20, 5⟩, by decide, by decide⟩) dialOverlapping).map
      (fun s => (s.blinking, s.timer1.setTime)) =
        some (true, some (setTimeTimeout / 2)) := by decide +kernel
  obtain ⟨s, hs, hdata⟩ := Option.map_eq_some_iff.mp hfinal
  obtain ⟨hblinking, hsetTime⟩ := Prod.mk.inj hdata
  have hnone := (((h _ _ s hs).last hs) hblinking).1
  rw [hsetTime] at hnone
  cases hnone

/-- A button waits for its release only while it is pressed, and in normal mode a channel is armed
only while the button that armed it waits for its release. -/
structure Held (s : State) : Prop where
  matching : Matching s
  light : s.btnLight.flank = .rising → s.btnLight.pressed = true
  time : s.btnTime.flank = .rising → s.btnTime.pressed = true
  powerBar : s.setTimeMode = .off → s.timer1.powerBar ≠ none →
    s.btnLight.registered = (.rising, .btnLightRelease)
  setTime : s.setTimeMode = .off → s.timer1.setTime ≠ none → s.btnTime.flank = .rising

lemma held_start (rtc : RtcTime) : Held (start rtc) where
  matching := matching_start rtc
  light := nofun
  time := nofun
  powerBar _ harmed := absurd rfl harmed
  setTime _ harmed := absurd rfl harmed

/-- In set time mode only the buttons matter. -/
lemma held_of_set (hmatching : Matching t) (hmode : t.setTimeMode ≠ .off)
    (hlight : t.btnLight.flank = .rising → t.btnLight.pressed = true)
    (htime : t.btnTime.flank = .rising → t.btnTime.pressed = true) : Held t :=
  ⟨hmatching, hlight, htime, fun hoff => absurd hoff hmode, fun hoff => absurd hoff hmode⟩

lemma held_does (h : Held s) (hdoes : Does s e t) : Held t := by
  have hmatching := matching_does h.matching hdoes
  cases hdoes with
  | idlePush btn =>
    cases btn with
    | light => exact ⟨hmatching, fun _ => rfl, h.time, h.powerBar, h.setTime⟩
    | time => exact ⟨hmatching, h.light, fun _ => rfl, h.powerBar, h.setTime⟩
  | idleRelease btn hflank =>
    cases btn with
    | light =>
      have hnot : s.btnLight.flank ≠ .rising := by
        rw [show s.btnLight.flank = .falling from hflank]
        simp
      exact ⟨hmatching, fun hrising => absurd hrising hnot, h.time, h.powerBar, h.setTime⟩
    | time =>
      have hnot : s.btnTime.flank ≠ .rising := by
        rw [show s.btnTime.flank = .falling from hflank]
        simp
      exact ⟨hmatching, h.light, fun hrising => absurd hrising hnot, h.powerBar, h.setTime⟩
  | btnLightPush => exact ⟨hmatching, fun _ => rfl, h.time, fun _ _ => rfl, h.setTime⟩
  | btnLightRelease =>
    exact ⟨hmatching, by simp, h.time, fun _ harmed => absurd rfl harmed, h.setTime⟩
  | showPowerOff _ hmode hpin =>
    refine ⟨hmatching, by simp, h.time, fun _ harmed => ?_, h.setTime⟩
    have hcb := hpin.symm.trans (h.powerBar hmode harmed)
    cases hcb
  | btnTimePush => exact ⟨hmatching, h.light, fun _ => rfl, h.powerBar, fun _ _ => rfl⟩
  | btnTimeRelease =>
    exact ⟨hmatching, h.light, by simp, h.powerBar, fun _ harmed => absurd rfl harmed⟩
  | decrement _ hmode => exact held_of_set hmatching hmode (fun _ => rfl) h.time
  | increment _ hmode => exact held_of_set hmatching hmode h.light (fun _ => rfl)
  | decrementHours _ _ hmode | decrementQuarters _ _ hmode =>
    have hset : s.setTimeMode ≠ .off := by simp [hmode]
    exact held_of_set hmatching hset (by simp) h.time
  | incrementHours _ _ hmode | incrementQuarters _ _ hmode =>
    have hset : s.setTimeMode ≠ .off := by simp [hmode]
    exact held_of_set hmatching hset h.light (by simp)
  | blink _ _ _ hmode => exact held_of_set hmatching hmode h.light h.time
  | showPower _ _ hmode harmed =>
    have hrising := flank_of_registered (h.powerBar hmode harmed)
    exact ⟨hmatching, fun _ => h.light hrising, h.time, fun _ harmed => absurd rfl harmed,
      h.setTime⟩
  | cancel | confirm =>
    exact ⟨hmatching, by simp, by simp, fun _ harmed => absurd rfl harmed,
      fun _ harmed => absurd rfl harmed⟩
  | setHours | setQuarters => exact held_of_set hmatching (by simp) (by simp) (by simp)
  | tick => exact ⟨hmatching, h.light, h.time, h.powerBar, h.setTime⟩

/-- With both buttons released nothing is armed in normal mode. -/
lemma Held.disarmed (h : Held s) (hmode : s.setTimeMode = .off)
    (hlight : s.btnLight.pressed = false) (htime : s.btnTime.pressed = false) :
    s.timer1.powerBar = none ∧ s.timer1.setTime = none := by
  constructor
  · by_contra harmed
    have hpressed := h.light (flank_of_registered (h.powerBar hmode harmed))
    exact absurd (hpressed.symm.trans hlight) (by simp)
  · by_contra harmed
    have hpressed := h.time (h.setTime hmode harmed)
    exact absurd (hpressed.symm.trans htime) (by simp)

/-- So it is enough to ask whether the timer is running. -/
lemma Held.idle_iff_running (h : Held s) :
    IdleStopped s ↔ (s.setTimeMode = .off → s.btnLight.pressed = false →
      s.btnTime.pressed = false → s.timer1.running = false) := by
  apply forall_congr'
  intro hmode
  apply forall_congr'
  intro hlight
  apply forall_congr'
  intro htime
  exact ⟨And.left, fun hstopped => ⟨hstopped, h.disarmed hmode hlight htime⟩⟩

lemma findsStopped_of_not_release (h : ∀ btn, e ≠ .release btn) : FindsStopped s e := by
  cases e with
  | release btn => exact absurd rfl (h btn)
  | push | expire | tick => trivial

/-- A step that leaves a button pressed or the mode set time keeps the wand from being idle. -/
lemma idleStopped_of_busy
    (h : t.setTimeMode ≠ .off ∨ t.btnLight.pressed = true ∨ t.btnTime.pressed = true) :
    IdleStopped t := by
  intro hmode hlight htime
  rcases h with h | h | h
  · exact absurd hmode h
  · exact absurd (h.symm.trans hlight) (by simp)
  · exact absurd (h.symm.trans htime) (by simp)

/-- A release in normal mode that leaves the timer running or stopped as it was. -/
lemma idleStopped_release {btn : Button} {cb : Option Handler} (ht : Held t)
    (hmode : s.setTimeMode = .off) (hmode' : t.setTimeMode = .off)
    (hpressed : (t.pin btn).pressed = false)
    (hother : (t.pin btn.other).pressed = (s.pin btn.other).pressed)
    (hrunning : t.timer1.running = s.timer1.running) (hhandler : s.handler (.release btn) = cb)
    (hcb : cb ≠ some .btnLightRelease) : IdleStopped t ↔ FindsStopped s (.release btn) := by
  have hbuttons (P : Prop) :
      (t.btnLight.pressed = false → t.btnTime.pressed = false → P) ↔
        ((s.pin btn.other).pressed = false → P) := by
    rw [← hother]
    cases btn with
    | light => exact forall_prop_of_true hpressed
    | time => exact ⟨fun h htime => h htime hpressed, fun h hlight _ => h hlight⟩
  have hfinds : FindsStopped s (.release btn) ↔
      ((s.pin btn.other).pressed = false → s.timer1.running = false) := by
    constructor
    · intro h hup
      exact h hmode hup (by rw [hhandler]; exact hcb)
    · intro h _ hup _
      exact h hup
  rw [ht.idle_iff_running, forall_prop_of_true hmode', hbuttons, hrunning, hfinds]

lemma idleStopped_does_iff (h : Held s) (hidle : IdleStopped s) (hdoes : Does s e t) :
    IdleStopped t ↔ FindsStopped s e := by
  have ht := held_does h hdoes
  have hbusy (hrelease : ∀ btn, e ≠ .release btn) (hbusy : IdleStopped t) :
      IdleStopped t ↔ FindsStopped s e :=
    iff_of_true hbusy (findsStopped_of_not_release hrelease)
  have hset {btn : Button} (he : e = .release btn) (hmode : s.setTimeMode ≠ .off)
      (hmode' : t.setTimeMode = s.setTimeMode) : IdleStopped t ↔ FindsStopped s e := by
    subst he
    exact iff_of_true (idleStopped_of_busy (.inl (by rw [hmode']; exact hmode)))
      fun hoff => absurd hoff hmode
  cases hdoes with
  | idlePush btn =>
    cases btn with
    | light => exact hbusy (by simp) (idleStopped_of_busy (.inr (.inl rfl)))
    | time => exact hbusy (by simp) (idleStopped_of_busy (.inr (.inr rfl)))
  | idleRelease btn hflank =>
    by_cases hmode : s.setTimeMode = .off
    · cases btn with
      | light =>
        exact idleStopped_release ht hmode hmode rfl rfl rfl (handler_idleRelease hflank) (by simp)
      | time =>
        exact idleStopped_release ht hmode hmode rfl rfl rfl (handler_idleRelease hflank) (by simp)
    · cases btn with
      | light => exact hset rfl hmode rfl
      | time => exact hset rfl hmode rfl
  | btnLightPush | decrement =>
    exact hbusy (by simp) (idleStopped_of_busy (.inr (.inl rfl)))
  | btnTimePush | increment =>
    exact hbusy (by simp) (idleStopped_of_busy (.inr (.inr rfl)))
  | btnLightRelease _ hpin =>
    refine iff_of_true (ht.idle_iff_running.mpr fun _ _ _ => rfl) fun _ _ hne => ?_
    exact absurd (handler_release hpin) hne
  | showPowerOff _ hmode hpin =>
    exact idleStopped_release ht hmode hmode rfl rfl rfl (handler_release hpin) (by simp)
  | btnTimeRelease _ hmode hpin =>
    exact idleStopped_release ht hmode hmode rfl rfl rfl (handler_release hpin) (by simp)
  | decrementHours _ _ hmode | decrementQuarters _ _ hmode
  | incrementHours _ _ hmode | incrementQuarters _ _ hmode =>
    exact hset rfl (by simp [hmode]) rfl
  | blink _ _ _ hmode => exact hbusy (by simp) (idleStopped_of_busy (.inl hmode))
  | showPower _ _ hmode harmed =>
    exact hbusy (by simp) (ht.idle_iff_running.mpr fun _ _ _ => rfl)
  | cancel | confirm => exact hbusy (by simp) fun _ _ _ => ⟨rfl, rfl, rfl⟩
  | setHours | setQuarters => exact hbusy (by simp) (idleStopped_of_busy (.inl (by simp)))
  | tick => exact hbusy (by simp) hidle

/-- In a run an idle wand has its timer stopped exactly when the last release in normal mode finds
it stopped already, unless it calls `_btn_light_release`. -/
theorem idleStopped_iff {rtc : RtcTime} {es : List Event} {s : State}
    (h : wand.run (start rtc) es = some s) :
    wand.Holds IdleStopped (start rtc) es ↔ wand.Meets FindsStopped (start rtc) es := by
  refine TransitionSystem.holds_iff_meets_of_invariant
    (I := fun s => Held s ∧ IdleStopped s) (fun s hs => hs.2) ?_ ?_
    ⟨held_start rtc, fun _ _ _ => ⟨rfl, rfl, rfl⟩⟩ h
  · intro s e t hs hfinds hstep
    have hdoes := does_of_step hs.1.matching hstep
    exact ⟨held_does hs.1 hdoes, (idleStopped_does_iff hs.1 hs.2 hdoes).mpr hfinds⟩
  · intro s e t hs hstep ht
    exact (idleStopped_does_iff hs.1 hs.2 (does_of_step hs.1.matching hstep)).mp ht

/-- `BTN_TIME` is pushed and released while `BTN_LIGHT` is pressed. -/
theorem idleStopped_timeWithinLight :
    wand.Holds IdleStopped (start ⟨⟨10, 20, 5⟩, by decide, by decide⟩)
      [.push .light, .push .time, .release .time, .release .light] := by
  obtain ⟨s, hs⟩ : ∃ s, wand.run (start ⟨⟨10, 20, 5⟩, by decide, by decide⟩)
      [.push .light, .push .time, .release .time, .release .light] = some s := by
    apply Option.isSome_iff_exists.mp
    decide +kernel
  apply (idleStopped_iff hs).mpr
  decide +kernel

/-- `BTN_TIME` alone leaves the timer running. -/
theorem idleStopped_timeAlone :
    ¬ ∀ rtc es s, wand.run (start rtc) es = some s → wand.Holds IdleStopped (start rtc) es := by
  intro h
  have hfinal : (wand.run (start ⟨⟨10, 20, 5⟩, by decide, by decide⟩)
      [.push .time, .release .time]).map
        (fun s => (s.setTimeMode, s.btnLight.pressed, s.btnTime.pressed, s.timer1.running)) =
      some (.off, false, false, true) := by decide +kernel
  obtain ⟨s, hs, hdata⟩ := Option.map_eq_some_iff.mp hfinal
  obtain ⟨hmode, hlight, htime, hrunning⟩ : s.setTimeMode = .off ∧ s.btnLight.pressed = false ∧
      s.btnTime.pressed = false ∧ s.timer1.running = true := by
    simpa only [Prod.mk.injEq] using hdata
  have hstopped := ((h _ _ s hs).last hs) hmode hlight htime
  exact absurd (hrunning.symm.trans hstopped.1) (by simp)

end Wand

end RiotPlayground
