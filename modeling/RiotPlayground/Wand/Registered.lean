import RiotPlayground.Wand.Clock

/-!
# The handlers of the buttons belong to the mode

`_do_decrement` and `_do_increment` have a branch for normal mode which would leave it blinking. It
is never taken, since both are registered in set time mode only and a change of the mode registers
both buttons anew.
-/

namespace RiotPlayground

namespace Wand

/-- What no handler may leave behind. -/
def State.BlinksInNormalMode (s : State) : Prop := s.setTimeMode = .off ∧ s.blinking = true

variable {s : State} {e : Event}

lemma matching_of_reach {rtc : RtcTime} (hreach : wand.Reach (fun _ _ => True) (start rtc) s) :
    Matching s := by
  apply hreach.invariant (matching_start rtc)
  intro s e t h _ hs
  exact matching_step h hs

/-- Whatever happens is dialled in some session. -/
lemma exists_dialled {rtc : RtcTime} (hreach : wand.Reach (fun _ _ => True) (start rtc) s) :
    ∃ session, Dialled s session := by
  apply hreach.invariant (P := fun s => ∃ session, Dialled s session)
  · exact ⟨.init, dialled_start rtc⟩
  · intro s e t h _ hs
    obtain ⟨session, hdialled⟩ := h
    exact ⟨session.note s e t, dialled_step hdialled hs⟩

lemma cb_of_registered {pin : Pin} {flank : Flank} {cb : Handler}
    (h : pin.registered = (flank, cb)) : pin.cb = cb :=
  congrArg Prod.snd h

lemma Matching.cb_off (h : Matching s) (hmode : s.setTimeMode = .off) :
    s.btnLight.cb ∈ [Handler.btnLightPush, .btnLightRelease, .showPowerOff] ∧
      s.btnTime.cb ∈ [Handler.btnTimePush, .btnTimeRelease] := by
  constructor
  · rcases h.light_off hmode with hpin | hpin | hpin
    · simp [cb_of_registered hpin]
    · simp [cb_of_registered hpin]
    · simp [cb_of_registered hpin]
  · rcases h.time_off hmode with hpin | hpin
    · simp [cb_of_registered hpin]
    · simp [cb_of_registered hpin]

lemma Matching.cb_set (h : Matching s) (hmode : s.setTimeMode ≠ .off) :
    s.btnLight.cb ∈ [Handler.decrement, .doDecrement] ∧
      s.btnTime.cb ∈ [Handler.increment, .doIncrement] := by
  constructor
  · rcases h.light_set hmode with hpin | hpin
    · simp [cb_of_registered hpin]
    · simp [cb_of_registered hpin]
  · rcases h.time_set hmode with hpin | hpin
    · simp [cb_of_registered hpin]
    · simp [cb_of_registered hpin]

/-- Whatever an event calls is registered for one of the buttons. -/
lemma cb_of_handler {cb : Handler} (h : s.handler e = some cb) :
    s.btnLight.cb = cb ∨ s.btnTime.cb = cb := by
  have hpin {btn : Button} {flank : Flank} (hcb : s.interrupt btn flank = some cb) :
      s.btnLight.cb = cb ∨ s.btnTime.cb = cb := by
    obtain ⟨-, hcb⟩ := Option.ite_none_right_eq_some.mp hcb
    cases btn with
    | light => exact .inl (Option.some.inj hcb)
    | time => exact .inr (Option.some.inj hcb)
  cases e with
  | push btn => exact hpin h
  | release btn => exact hpin h
  | expire channel batv => cases h
  | tick rtc => cases h

/-- In normal mode neither dial is turned. -/
lemma Matching.mode_of_handler (h : Matching s)
    (hcb : s.handler e = some .doDecrement ∨ s.handler e = some .doIncrement) :
    s.setTimeMode ≠ .off := by
  intro hoff
  obtain ⟨hlight, htime⟩ := h.cb_off hoff
  rcases hcb with hcb | hcb
  · rcases cb_of_handler hcb with hpin | hpin
    · simp [hpin] at hlight
    · simp [hpin] at htime
  · rcases cb_of_handler hcb with hpin | hpin
    · simp [hpin] at hlight
    · simp [hpin] at htime

/-- The default branches: `_return_to_blink` comes after `_init_normal_mode`. -/
lemma doDecrement_off (h : s.setTimeMode = .off) : (doDecrement s).BlinksInNormalMode := by
  unfold doDecrement
  dsimp only [gpioInitInt, timerClear]
  rw [h]
  exact ⟨rfl, rfl⟩

lemma doIncrement_off (h : s.setTimeMode = .off) : (doIncrement s).BlinksInNormalMode := by
  unfold doIncrement
  dsimp only [gpioInitInt, timerClear]
  rw [h]
  exact ⟨rfl, rfl⟩

/-- The handlers registered are those of the mode, the dials are in range while they can be turned,
and `_do_decrement` and `_do_increment` run in set time mode only, as their default branches would
leave normal mode blinking. -/
theorem registered_of_reach {rtc : RtcTime}
    (hreach : wand.Reach (fun _ _ => True) (start rtc) s) :
    (s.setTimeMode = .off →
      s.btnLight.cb ∈ [Handler.btnLightPush, .btnLightRelease, .showPowerOff] ∧
      s.btnTime.cb ∈ [Handler.btnTimePush, .btnTimeRelease]) ∧
    (s.setTimeMode ≠ .off →
      (s.btnLight.cb ∈ [Handler.decrement, .doDecrement] ∧
        s.btnTime.cb ∈ [Handler.increment, .doIncrement]) ∧
      s.curHour.toNat ≤ hourMax ∧ s.curQuarter.toNat < quarterMax) ∧
    (∀ e, s.handler e = some .doDecrement ∨ s.handler e = some .doIncrement →
      s.setTimeMode ≠ .off) ∧
    ∀ u : State, u.setTimeMode = .off →
      (doDecrement u).BlinksInNormalMode ∧ (doIncrement u).BlinksInNormalMode := by
  have hmatching := matching_of_reach hreach
  obtain ⟨session, hdialled⟩ := exists_dialled hreach
  refine ⟨hmatching.cb_off, ?_, ?_, ?_⟩
  · intro hmode
    exact ⟨hmatching.cb_set hmode, hdialled.hour_le, hdialled.quarter_lt⟩
  · intro e hcb
    exact hmatching.mode_of_handler hcb
  · intro u hoff
    exact ⟨doDecrement_off hoff, doIncrement_off hoff⟩

/-- Both buttons are held when set time mode begins, and `BTN_LIGHT` is pushed again in it. -/
theorem registered_of_reach_held :
    ∃ s, wand.run (start ⟨⟨23, 59, 5⟩, by decide, by decide⟩)
        [.push .light, .push .time, .expire .setTime none, .release .light, .release .time,
          .push .light] = some s ∧
      s.handler (.release .light) = some .doDecrement ∧ s.setTimeMode ≠ .off ∧
      s.curHour.toNat ≤ hourMax := by
  have hfinal : (wand.run (start ⟨⟨23, 59, 5⟩, by decide, by decide⟩)
      [.push .light, .push .time, .expire .setTime none, .release .light, .release .time,
        .push .light]).map (fun s => s.handler (.release .light)) = some (some .doDecrement) := by
    decide +kernel
  obtain ⟨s, hrun, hcb⟩ := Option.map_eq_some_iff.mp hfinal
  have hreach := TransitionSystem.reach_of_run (TransitionSystem.meets_true _ _) hrun
  obtain ⟨-, hset, hmode, -⟩ := registered_of_reach hreach
  have hnot := hmode _ (.inl hcb)
  exact ⟨s, hrun, hcb, hnot, (hset hnot).2.1⟩

end Wand

end RiotPlayground
