import RiotPlayground.Wand.Channels
import RiotPlayground.Wand.Registered

/-!
# What the LEDs show

The LEDs of the time spell show the clock, the dials of set time mode or the battery. What a step
draws is listed once; from it follows what they can show at all.
-/

namespace RiotPlayground

namespace Wand

/-- The LEDs of the dials. -/
def State.dialLeds (s : State) : Fin 8 → Bool := fun i =>
  (timeEncode s.curHour s.curQuarter).toNat.testBit i

/-- The LEDs of the dial that is being turned. -/
def State.Turns (s : State) (i : Fin 8) : Prop :=
  (s.setTimeMode = .quarters ∧ i.val ≤ 3) ∨ (s.setTimeMode = .hours ∧ 3 < i.val)

instance (s : State) (i : Fin 8) : Decidable (s.Turns i) := inferInstanceAs (Decidable (_ ∨ _))

/-- What a step draws. -/
inductive Draws (s t : State) : Prop
  | keeps (hdisplay : t.display = s.display) (hmode : t.setTimeMode = s.setTimeMode)
      (hblinking : t.blinking = s.blinking) (hleds : t.dialLeds = s.dialLeds)
      (htime : t.btnTime.registered = s.btnTime.registered)
      (hlight : s.btnLight.registered = (.rising, .showPowerOff) →
        t.btnLight.registered = (.rising, .showPowerOff))
  | dark (hdisplay : t.display = fun _ => false) (hmode : t.setTimeMode = .off)
  | dials (hdisplay : t.display = t.dialLeds)
      (htime : t.setTimeMode = .off → t.btnTime.registered = (.rising, .btnTimeRelease))
  | fills (hset : s.setTimeMode ≠ .off) (hmode : t.setTimeMode = s.setTimeMode)
      (hleds : t.dialLeds = s.dialLeds)
      (hdisplay : ∀ i, t.display i = (s.dialLeds i || s.display i))
  | blinks (hset : s.setTimeMode ≠ .off) (hmode : t.setTimeMode = s.setTimeMode)
      (hleds : t.dialLeds = s.dialLeds) (hblinking : t.blinking = true)
      (hdisplay : ∀ i, t.display i = if s.dialLeds i then
        if s.Turns i then !s.display i else true else s.display i)
  | bar (hmode : t.setTimeMode = .off)
      (hlight : t.btnLight.registered = (.rising, .showPowerOff))

variable {s t : State} {e : Event}

lemma showTime_display (gpioShow : Bool → Bool) (i : Fin 8) :
    (showTime gpioShow s).display i = if s.dialLeds i then
      if s.Turns i then gpioShow (s.display i) else true else s.display i := rfl

/-- Drawn on dark LEDs the dials are complete, blinking or not. -/
lemma returnToBlink_display : (returnToBlink s).display = (returnToBlink s).dialLeds := by
  funext i
  change (if s.dialLeds i then if s.Turns i then gpioToggle false else true else false) =
    s.dialLeds i
  cases s.dialLeds i
  · rfl
  · simp [gpioToggle]

lemma gpioSet_display (i : Fin 8) :
    (showTime gpioSet s).display i = (s.dialLeds i || s.display i) := by
  rw [showTime_display]
  cases s.dialLeds i
  · simp
  · simp [gpioSet]

lemma btnTimePush_display : (btnTimePush s).display = (btnTimePush s).dialLeds := by
  funext i
  change (showTime gpioSet (timeGet (turnOffTimeDisplay s))).display i =
    (timeGet (turnOffTimeDisplay s)).dialLeds i
  rw [gpioSet_display]
  exact Bool.or_false _

/-- An edge that is not waited for draws nothing. -/
lemma draws_setPressed (s : State) (btn : Button) (pressed : Bool) :
    Draws s (s.setPressed pressed btn) := by
  cases btn with
  | light => exact .keeps rfl rfl rfl rfl rfl id
  | time => exact .keeps rfl rfl rfl rfl rfl id

lemma draws_of_push (h : Matching s) {btn : Button} (hs : step s (.push btn) = some t) :
    Draws s t := by
  obtain ⟨-, rfl⟩ := step_push hs
  have hrising {cb : Handler} (hpin : (s.pin btn).registered = (.rising, cb)) :
      Draws s ((s.interrupt btn .falling).elim id Handler.call (s.setPressed true btn)) := by
    rw [interrupt_other (by rw [flank_of_registered hpin]; simp)]
    exact draws_setPressed s btn true
  have hfalling {cb : Handler} (hpin : (s.pin btn).registered = (.falling, cb))
      (hdraws : Draws s (cb.call (s.setPressed true btn))) :
      Draws s ((s.interrupt btn .falling).elim id Handler.call (s.setPressed true btn)) := by
    rw [interrupt_registered hpin]
    exact hdraws
  by_cases hmode : s.setTimeMode = .off
  · cases btn with
    | light =>
      rcases h.light_off hmode with hpin | hpin | hpin
      · have hnot : s.btnLight.registered ≠ (.rising, .showPowerOff) := by simp [hpin]
        exact hfalling hpin (.keeps rfl rfl rfl rfl rfl fun hoff => absurd hoff hnot)
      · exact hrising hpin
      · exact hrising hpin
    | time =>
      rcases h.time_off hmode with hpin | hpin
      · exact hfalling hpin (.dials btnTimePush_display fun _ => rfl)
      · exact hrising hpin
  · cases btn with
    | light =>
      rcases h.light_set hmode with hpin | hpin
      · exact hfalling hpin (.fills hmode rfl rfl gpioSet_display)
      · exact hrising hpin
    | time =>
      rcases h.time_set hmode with hpin | hpin
      · exact hfalling hpin (.fills hmode rfl rfl gpioSet_display)
      · exact hrising hpin

/-- Turning a dial draws both dials anew. -/
lemma draws_doDecrement (u : State) (hmode : s.setTimeMode ≠ .off) : Draws u (doDecrement s) := by
  unfold doDecrement
  dsimp only [gpioInitInt, timerClear]
  split
  · rename_i hset
    exact .dials returnToBlink_display fun hoff => absurd hoff hmode
  · rename_i hset
    exact .dials returnToBlink_display fun hoff => absurd hoff hmode
  · rename_i hset
    exact absurd hset hmode

lemma draws_doIncrement (u : State) (hmode : s.setTimeMode ≠ .off) : Draws u (doIncrement s) := by
  unfold doIncrement
  dsimp only [gpioInitInt, timerClear]
  split
  · rename_i hset
    exact .dials returnToBlink_display fun hoff => absurd hoff hmode
  · rename_i hset
    exact .dials returnToBlink_display fun hoff => absurd hoff hmode
  · rename_i hset
    exact absurd hset hmode

lemma draws_of_release (h : Matching s) {btn : Button} (hs : step s (.release btn) = some t) :
    Draws s t := by
  obtain ⟨-, rfl⟩ := step_release hs
  have hfalling {cb : Handler} (hpin : (s.pin btn).registered = (.falling, cb)) :
      Draws s ((s.interrupt btn .rising).elim id Handler.call (s.setPressed false btn)) := by
    rw [interrupt_other (by rw [flank_of_registered hpin]; simp)]
    exact draws_setPressed s btn false
  have hrising {cb : Handler} (hpin : (s.pin btn).registered = (.rising, cb))
      (hdraws : Draws s (cb.call (s.setPressed false btn))) :
      Draws s ((s.interrupt btn .rising).elim id Handler.call (s.setPressed false btn)) := by
    rw [interrupt_registered hpin]
    exact hdraws
  by_cases hmode : s.setTimeMode = .off
  · cases btn with
    | light =>
      rcases h.light_off hmode with hpin | hpin | hpin
      · exact hfalling hpin
      · have hnot : s.btnLight.registered ≠ (.rising, .showPowerOff) := by simp [hpin]
        exact hrising hpin (.keeps rfl rfl rfl rfl rfl fun hoff => absurd hoff hnot)
      · exact hrising hpin (.dark rfl hmode)
    | time =>
      rcases h.time_off hmode with hpin | hpin
      · exact hfalling hpin
      · exact hrising hpin (.dark rfl hmode)
  · cases btn with
    | light =>
      rcases h.light_set hmode with hpin | hpin
      · exact hfalling hpin
      · exact hrising hpin (draws_doDecrement (s := s.setPressed false .light) s hmode)
    | time =>
      rcases h.time_set hmode with hpin | hpin
      · exact hfalling hpin
      · exact hrising hpin (draws_doIncrement (s := s.setPressed false .time) s hmode)

lemma draws_of_expire (h : Matching s) {channel : Channel} {batv : Option ℕ}
    (hs : step s (.expire channel batv) = some t) : Draws s t := by
  obtain ⟨armed, -, rfl⟩ := Option.map_eq_some_iff.mp hs
  rcases Bool.eq_false_or_eq_true s.blinking with hblinking | hblinking
  · have hmode : s.setTimeMode ≠ .off := by
      intro hoff
      rw [h.still hoff] at hblinking
      cases hblinking
    rw [timeout_blinking (s := timerClear .dev1 channel s) hblinking]
    exact .blinks hmode rfl rfl hblinking fun i => showTime_display gpioToggle i
  · cases channel with
    | powerBar =>
      by_cases hmode : s.setTimeMode = .off
      · rw [timeout_showPower (s := timerClear .dev1 .powerBar s) hblinking hmode]
        exact .bar hmode rfl
      · rw [timeout_cancel (s := timerClear .dev1 .powerBar s) hblinking hmode]
        exact .dark rfl rfl
    | setTime =>
      unfold timeout
      rw [if_neg (by rw [show (timerClear .dev1 .setTime s).blinking = false from hblinking]; simp)]
      dsimp only
      split
      · exact .dials returnToBlink_display fun hoff => by cases hoff
      · exact .dials returnToBlink_display fun hoff => by cases hoff
      · exact .dark rfl rfl

theorem draws_of_step (h : Matching s) (hs : step s e = some t) : Draws s t := by
  cases e with
  | push btn => exact draws_of_push h hs
  | release btn => exact draws_of_release h hs
  | expire channel batv => exact draws_of_expire h hs
  | tick rtc =>
    obtain rfl := Option.some.inj hs
    exact .keeps rfl rfl rfl rfl rfl id

/-- In set time mode the dial that is not turned is lit; the other one is lit or dark as a whole,
and lit while a button is held. In normal mode an LED is lit only while the release of a button is
waited for that puts it out. -/
structure Shown (s : State) : Prop where
  held : Held s
  dial : s.setTimeMode ≠ .off → ∃ lit : Bool, (s.blinking = false → lit = true) ∧
    ∀ i, s.display i = if s.Turns i then lit && s.dialLeds i else s.dialLeds i
  dark : s.setTimeMode = .off → s.btnTime.registered ≠ (.rising, .btnTimeRelease) →
    s.btnLight.registered ≠ (.rising, .showPowerOff) → ∀ i, s.display i = false

lemma shown_start (rtc : RtcTime) : Shown (start rtc) where
  held := held_start rtc
  dial hmode := absurd rfl hmode
  dark _ _ _ _ := rfl

lemma turns_congr (hmode : t.setTimeMode = s.setTimeMode) (i : Fin 8) : t.Turns i ↔ s.Turns i := by
  unfold State.Turns
  rw [hmode]

lemma shown_draws (h : Shown s) (hheld : Held t) (hdraws : Draws s t) : Shown t := by
  cases hdraws with
  | keeps hdisplay hmode hblinking hleds htime hlight =>
    refine ⟨hheld, fun hset => ?_, fun hoff hnotTime hnotLight => ?_⟩
    · obtain ⟨lit, hlit, hshows⟩ := h.dial (by rwa [← hmode])
      refine ⟨lit, fun hb => hlit (hblinking.symm.trans hb), fun i => ?_⟩
      rw [hdisplay, hleds, hshows i]
      simp only [turns_congr hmode i]
    · rw [hdisplay]
      apply h.dark (hmode.symm.trans hoff)
      · rwa [← htime]
      · exact fun hpower => hnotLight (hlight hpower)
  | dark hdisplay hmode =>
    refine ⟨hheld, fun hset => absurd hmode hset, fun _ _ _ i => ?_⟩
    rw [hdisplay]
  | dials hdisplay htime =>
    refine ⟨hheld, fun _ => ⟨true, fun _ => rfl, fun i => ?_⟩, fun hoff hnot => ?_⟩
    · rw [hdisplay, Bool.true_and, ite_self]
    · exact absurd (htime hoff) hnot
  | fills hset hmode hleds hdisplay =>
    refine ⟨hheld, fun _ => ?_, fun hoff => absurd (hmode.symm.trans hoff) hset⟩
    obtain ⟨lit, -, hshows⟩ := h.dial hset
    refine ⟨true, fun _ => rfl, fun i => ?_⟩
    rw [hdisplay, hleds, hshows i, Bool.true_and, ite_self]
    cases s.dialLeds i
    · simp
    · simp
  | blinks hset hmode hleds hblinking hdisplay =>
    refine ⟨hheld, fun _ => ?_, fun hoff => absurd (hmode.symm.trans hoff) hset⟩
    obtain ⟨lit, -, hshows⟩ := h.dial hset
    refine ⟨!lit, fun hb => absurd (hb.symm.trans hblinking) (by simp), fun i => ?_⟩
    rw [hdisplay, hleds, hshows i]
    simp only [turns_congr hmode i]
    by_cases hturns : s.Turns i
    · cases s.dialLeds i
      · simp [hturns]
      · simp [hturns]
    · cases s.dialLeds i
      · simp [hturns]
      · simp [hturns]
  | bar hmode hlight =>
    exact ⟨hheld, fun hset => absurd hmode hset, fun _ _ hnot => absurd hlight hnot⟩

lemma shown_of_reach {rtc : RtcTime} (hreach : wand.Reach (fun _ _ => True) (start rtc) s) :
    Shown s := by
  apply hreach.invariant (shown_start rtc)
  intro s e t h _ hs
  have hmatching := h.held.matching
  exact shown_draws h (held_does h.held (does_of_step hmatching hs)) (draws_of_step hmatching hs)

/-- With both buttons released normal mode is dark, and in set time mode the dial that is not turned
stays lit while the other one blinks as a whole. -/
theorem display_of_reach {rtc : RtcTime} (hreach : wand.Reach (fun _ _ => True) (start rtc) s) :
    (s.setTimeMode = .off → s.btnLight.pressed = false → s.btnTime.pressed = false →
      ∀ i, s.display i = false) ∧
    (s.setTimeMode ≠ .off → ∃ lit : Bool, (s.blinking = false → lit = true) ∧
      ∀ i, s.display i = if s.Turns i then lit && s.dialLeds i else s.dialLeds i) := by
  have h := shown_of_reach hreach
  refine ⟨fun hmode hlight htime => h.dark hmode ?_ ?_, h.dial⟩
  · intro hpin
    have hpressed := h.held.time (flank_of_registered hpin)
    exact absurd (hpressed.symm.trans htime) (by simp)
  · intro hpin
    have hpressed := h.held.light (flank_of_registered hpin)
    exact absurd (hpressed.symm.trans hlight) (by simp)

/-- Set time mode at one minute to midnight, in the dark half of a blink. -/
theorem display_of_reach_2359 :
    ∃ s, wand.run (start ⟨⟨23, 59, 5⟩, by decide, by decide⟩)
        [.push .time, .expire .setTime none, .expire .powerBar none] = some s ∧
      ∃ lit : Bool, ∀ i, s.display i = if s.Turns i then lit && s.dialLeds i else s.dialLeds i := by
  have hfinal : (wand.run (start ⟨⟨23, 59, 5⟩, by decide, by decide⟩)
      [.push .time, .expire .setTime none, .expire .powerBar none]).map State.setTimeMode =
        some .hours := by
    decide +kernel
  obtain ⟨s, hrun, hmode⟩ := Option.map_eq_some_iff.mp hfinal
  have hreach := TransitionSystem.reach_of_run (TransitionSystem.meets_true _ _) hrun
  obtain ⟨lit, -, hshows⟩ := (display_of_reach hreach).2 (by simp [hmode])
  exact ⟨s, hrun, lit, hshows⟩

/-- Whether the LED `n` is on. -/
def led (display : Fin 8 → Bool) (n : ℕ) : Bool := if h : n < 8 then display ⟨n, h⟩ else false

/-- The red LEDs are the hour in binary. -/
def readHour (display : Fin 8 → Bool) : ℕ :=
  (led display 4).toNat + 2 * (led display 5).toNat + 4 * (led display 6).toNat +
    8 * (led display 7).toNat

/-- One green LED stands for a quarter, two neighbours for the half quarter between them. -/
def readQuarter (display : Fin 8 → Bool) : Option ℕ :=
  match led display 0, led display 1, led display 2, led display 3 with
  | true, false, false, false => some 0
  | true, true, false, false => some 1
  | false, true, false, false => some 2
  | false, true, true, false => some 3
  | false, false, true, false => some 4
  | false, false, true, true => some 5
  | false, false, false, true => some 6
  | true, false, false, true => some 7
  | _, _, _, _ => none

lemma read_timeEncode : ∀ hour : Fin 13, ∀ quarter : Fin 8,
    readHour (fun i => (timeEncode (UInt8.ofNat hour) (UInt8.ofNat quarter)).toNat.testBit i) =
        (if hour.val = 0 then 12 else hour.val) ∧
      readQuarter (fun i => (timeEncode (UInt8.ofNat hour) (UInt8.ofNat quarter)).toNat.testBit i) =
        some quarter.val := by
  decide +kernel

/-- What can be read off the dials. -/
lemma read_dialLeds (hhour : s.curHour.toNat ≤ hourMax)
    (hquarter : s.curQuarter.toNat < quarterMax) :
    readHour s.dialLeds = (if s.curHour.toNat = 0 then 12 else s.curHour.toNat) ∧
      readQuarter s.dialLeds = some s.curQuarter.toNat := by
  have hread := read_timeEncode ⟨s.curHour.toNat, Nat.lt_succ_of_le hhour⟩
    ⟨s.curQuarter.toNat, hquarter⟩
  dsimp only at hread
  rw [UInt8.ofNat_toNat, UInt8.ofNat_toNat] at hread
  exact hread

lemma twelveHours {h : ℕ} (hlt : h < 24) :
    (if (if h > hourMax then h - hourMax else h) = 0 then 12
      else if h > hourMax then h - hourMax else h) = if h % 12 = 0 then 12 else h % 12 := by
  unfold hourMax
  by_cases hpm : h > 12
  · rw [if_pos hpm, if_neg (by omega), if_neg (by omega)]
    omega
  · rw [if_neg hpm]
    split_ifs <;> omega

/-- The time spell can be cast whenever `BTN_TIME` is released in normal mode, and it shows the
clock: the hour of a clock with twelve hours, and the half quarter the minute is in. -/
theorem timeSpell_reads_clock {rtc : RtcTime}
    (hreach : wand.Reach (fun _ _ => True) (start rtc) s) (hmode : s.setTimeMode = .off)
    (hreleased : s.btnTime.pressed = false) :
    ∃ t q, step s (.push .time) = some t ∧
      readHour t.display = (if s.rtc.tmHour % 12 = 0 then 12 else s.rtc.tmHour % 12) ∧
      readQuarter t.display = some q ∧ 75 * q ≤ 10 * s.rtc.tmMin ∧
      10 * s.rtc.tmMin < 75 * (q + 1) := by
  have hshown := shown_of_reach hreach
  obtain ⟨session, hdialled⟩ := exists_dialled hreach
  have hpin : s.btnTime.registered = (.falling, .btnTimePush) := by
    rcases hshown.held.matching.time_off hmode with hpin | hpin
    · exact hpin
    · have hpressed := hshown.held.time (flank_of_registered hpin)
      exact absurd (hpressed.symm.trans hreleased) (by simp)
  have hs : step s (.push .time) = some (btnTimePush (s.setPressed true .time)) := by
    change (if s.btnTime.pressed then none else
      some ((s.interrupt .time .falling).elim id Handler.call (s.setPressed true .time))) = _
    have hhandler : s.interrupt .time .falling = some .btnTimePush := interrupt_registered hpin
    rw [if_neg (by simp [hreleased]), hhandler]
    rfl
  have hdisplay : (btnTimePush (s.setPressed true .time)).display = (timeGet s).dialLeds :=
    btnTimePush_display
  obtain ⟨hhour, hquarter⟩ := timeGet_le hdialled.rtc_hour hdialled.rtc_min
  obtain ⟨hreadHour, hreadQuarter⟩ := read_dialLeds hhour hquarter
  refine ⟨_, (timeGet s).curQuarter.toNat, hs, ?_, ?_, ?_⟩
  · rw [hdisplay, hreadHour, toNat_timeGet_hour hdialled.rtc_hour]
    exact twelveHours hdialled.rtc_hour
  · rw [hdisplay, hreadQuarter]
  · rw [toNat_timeGet_quarter hdialled.rtc_min]
    omega

theorem timeSpell_reads_clock_2359 :
    ∃ t q, step (start ⟨⟨23, 59, 5⟩, by decide, by decide⟩) (.push .time) = some t ∧
      readHour t.display = 11 ∧ readQuarter t.display = some q ∧ 75 * q ≤ 590 ∧
      590 < 75 * (q + 1) := by
  have hreach : wand.Reach (fun _ _ => True) (start ⟨⟨23, 59, 5⟩, by decide, by decide⟩)
      (start ⟨⟨23, 59, 5⟩, by decide, by decide⟩) := .refl
  obtain ⟨t, q, hs, hhour, hquarter, hle, hlt⟩ := timeSpell_reads_clock hreach rfl rfl
  exact ⟨t, q, hs, hhour, hquarter, hle, hlt⟩

/-- How much of its range the battery has left, in eighths. -/
def level (batv : Option ℕ) : ℕ :=
  min 8 (8 * (batv.getD voltageMax - voltageMin) / (voltageMax - voltageMin))

/-- The LEDs in the order of the power bar. -/
def powerOrder : List (Fin 8) := powerLeds.map Prod.snd

def permillage (batv : ℕ) : ℕ :=
  if batv ≤ voltageMin then 0
  else if batv > voltageMax then 1001
  else (batv - voltageMin) * 1000 / (voltageMax - voltageMin)

lemma permillage_ge_iff (batv : Option ℕ) {k : ℕ} (hk : k ≤ 8) (hpos : 0 < k) :
    permillage (batv.getD voltageMax) ≥ 125 * k ↔ k ≤ level batv := by
  unfold permillage level voltageMax voltageMin
  generalize batv.getD 4301 = v
  split_ifs <;> omega

/-- Which LED of the power bar an LED is, from 1 on. -/
def rank (i : Fin 8) : ℕ := powerOrder.idxOf i + 1

lemma powerLeds_any (p : ℕ) (i : Fin 8) :
    (powerLeds.any fun led => led.2 = i ∧ p ≥ led.1) = decide (p ≥ 125 * rank i) := by
  match i with
  | 0 | 1 | 2 | 3 | 4 | 5 | 6 | 7 => simp [powerLeds, rank, powerOrder]

lemma mem_take_powerOrder : ∀ (l : Fin 9) (i : Fin 8),
    i ∈ powerOrder.take l ↔ rank i ≤ l.val := by
  decide

lemma rank_le : ∀ i : Fin 8, rank i ≤ 8 := by decide

/-- Held for long enough, `BTN_LIGHT` shows the battery: as many LEDs are lit, from the first on, as
the voltage has eighths of its range. -/
theorem powerBar_reads_battery {rtc : RtcTime}
    (hreach : wand.Reach (fun _ _ => True) (start rtc) s) (hmode : s.setTimeMode = .off)
    (hreleased : s.btnTime.pressed = false) (batv : Option ℕ)
    (hs : step s (.expire .powerBar batv) = some t) (i : Fin 8) :
    t.display i = true ↔ i ∈ powerOrder.take (level batv) := by
  have hshown := shown_of_reach hreach
  have hblinking := hshown.held.matching.still hmode
  obtain ⟨armed, harmed, rfl⟩ := Option.map_eq_some_iff.mp hs
  have harmed : s.timer1.powerBar ≠ none := Option.ne_none_iff_exists'.mpr ⟨armed, harmed⟩
  have hdark : s.display i = false := by
    apply hshown.dark hmode
    · intro hpin
      have hpressed := hshown.held.time (flank_of_registered hpin)
      exact absurd (hpressed.symm.trans hreleased) (by simp)
    · rw [hshown.held.powerBar hmode harmed]
      simp
  have hlevel : level batv < 9 := Nat.lt_succ_of_le (Nat.min_le_left _ _)
  have hmem := mem_take_powerOrder ⟨level batv, hlevel⟩ i
  rw [timeout_showPower (s := timerClear .dev1 .powerBar s) hblinking hmode]
  change (s.display i || powerLeds.any fun led => led.2 = i ∧
    permillage (batv.getD voltageMax) ≥ led.1) = true ↔ _
  rw [hdark, Bool.false_or, powerLeds_any, decide_eq_true_iff,
    permillage_ge_iff batv (rank_le i) (Nat.succ_pos _)]
  exact hmem.symm

theorem powerBar_reads_battery_4000 :
    ∃ t, wand.run (start ⟨⟨23, 59, 5⟩, by decide, by decide⟩)
        [.push .light, .expire .powerBar (some 4000)] = some t ∧ t.display 4 = true ∧
      t.display 1 = false := by
  obtain ⟨s, hrun⟩ : ∃ s, wand.run (start ⟨⟨23, 59, 5⟩, by decide, by decide⟩) [.push .light] =
      some s := ⟨_, rfl⟩
  have hreach := TransitionSystem.reach_of_run (TransitionSystem.meets_true _ _) hrun
  obtain rfl := Option.some.inj hrun
  have hs := powerBar_reads_battery hreach rfl rfl (some 4000) rfl
  exact ⟨_, rfl, (hs 4).mpr (by decide), Bool.eq_false_iff.mpr (mt (hs 1).mp (by decide))⟩

end Wand

end RiotPlayground
