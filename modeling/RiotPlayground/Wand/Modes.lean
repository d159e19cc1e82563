import RiotPlayground.Wand.Wand

/-!
# What the wand does in each mode

The handlers registered for the buttons are always those of the mode. So there are few things an
event can make the wand do, and they are listed once.
-/

namespace RiotPlayground

namespace Wand

def Pin.registered (pin : Pin) : Flank × Handler := (pin.flank, pin.cb)

/-- What may be registered for a button. -/
def handlers : SetTimeMode → Button → List (Flank × Handler)
  | .off, .light =>
    [(.falling, .btnLightPush), (.rising, .btnLightRelease), (.rising, .showPowerOff)]
  | .off, .time => [(.falling, .btnTimePush), (.rising, .btnTimeRelease)]
  | _, .light => [(.falling, .decrement), (.rising, .doDecrement)]
  | _, .time => [(.falling, .increment), (.rising, .doIncrement)]

/-- The handlers registered are those of the mode, and the wand blinks in set time mode only. -/
structure Matching (s : State) : Prop where
  light : s.btnLight.registered ∈ handlers s.setTimeMode .light
  time : s.btnTime.registered ∈ handlers s.setTimeMode .time
  still : s.setTimeMode = .off → s.blinking = false

/-- What an event makes the wand do. The display and the other timer are left open. -/
inductive Does (s : State) : Event → State → Prop
  | idlePush (btn : Button) (hflank : (s.pin btn).flank = .rising) :
      Does s (.push btn) (s.setPressed true btn)
  | idleRelease (btn : Button) (hflank : (s.pin btn).flank = .falling) :
      Does s (.release btn) (s.setPressed false btn)
  | btnLightPush (hmode : s.setTimeMode = .off)
      (hpin : (s.pin .light).registered = (.falling, .btnLightPush)) :
      Does s (.push .light)
        { s with
          lightsOn := !s.lightsOn
          btnLight := ⟨true, .rising, .btnLightRelease⟩
          timer1 := { s.timer1 with running := true, powerBar := some powerBarTimeout } }
  | btnLightRelease (hmode : s.setTimeMode = .off)
      (hpin : (s.pin .light).registered = (.rising, .btnLightRelease)) :
      Does s (.release .light)
        { s with
          ledLight := s.lightsOn
          btnLight := ⟨false, .falling, .btnLightPush⟩
          timer1 := { s.timer1 with running := false, powerBar := none } }
  | showPowerOff (display : Fin 8 → Bool) (hmode : s.setTimeMode = .off)
      (hpin : (s.pin .light).registered = (.rising, .showPowerOff)) :
      Does s (.release .light)
        { s with display := display, btnLight := ⟨false, .falling, .btnLightPush⟩ }
  | btnTimePush (display : Fin 8 → Bool) (hmode : s.setTimeMode = .off)
      (hpin : (s.pin .time).registered = (.falling, .btnTimePush)) :
      Does s (.push .time)
        { timeGet s with
          display := display
          btnTime := ⟨true, .rising, .btnTimeRelease⟩
          timer1 := { s.timer1 with running := true, setTime := some setTimeTimeout } }
  | btnTimeRelease (display : Fin 8 → Bool) (hmode : s.setTimeMode = .off)
      (hpin : (s.pin .time).registered = (.rising, .btnTimeRelease)) :
      Does s (.release .time)
        { s with
          display := display
          btnTime := ⟨false, .falling, .btnTimePush⟩
          timer1 := { s.timer1 with setTime := none } }
  | decrement (display : Fin 8 → Bool) (hmode : s.setTimeMode ≠ .off)
      (hpin : (s.pin .light).registered = (.falling, .decrement)) :
      Does s (.push .light)
        { s with
          blinking := false
          display := display
          btnLight := ⟨true, .rising, .doDecrement⟩
          timer1 := { s.timer1 with powerBar := some (setTimeTimeout / 2) } }
  | decrementHours (display : Fin 8 → Bool) (timer0 : Timer) (hmode : s.setTimeMode = .hours)
      (hpin : (s.pin .light).registered = (.rising, .doDecrement)) :
      Does s (.release .light)
        { s with
          curHour := if s.curHour > 0 then s.curHour - 1 else (hourMax - 1).toUInt8
          blinking := true
          display := display
          btnLight := ⟨false, .falling, .decrement⟩
          timer0 := timer0
          timer1 := { s.timer1 with running := true, powerBar := some blinkTimeout } }
  | decrementQuarters (display : Fin 8 → Bool) (timer0 : Timer)
      (hmode : s.setTimeMode = .quarters)
      (hpin : (s.pin .light).registered = (.rising, .doDecrement)) :
      Does s (.release .light)
        { s with
          curQuarter := if s.curQuarter > 0 then s.curQuarter - 1 else (quarterMax - 1).toUInt8
          blinking := true
          display := display
          btnLight := ⟨false, .falling, .decrement⟩
          timer0 := timer0
          timer1 := { s.timer1 with running := true, powerBar := some blinkTimeout } }
  | increment (display : Fin 8 → Bool) (hmode : s.setTimeMode ≠ .off)
      (hpin : (s.pin .time).registered = (.falling, .increment)) :
      Does s (.push .time)
        { s with
          blinking := false
          display := display
          btnTime := ⟨true, .rising, .doIncrement⟩
          timer1 :=
            { s.timer1 with powerBar := none, setTime := some (setTimeTimeout / 2) } }
  | incrementHours (display : Fin 8 → Bool) (timer0 : Timer) (hmode : s.setTimeMode = .hours)
      (hpin : (s.pin .time).registered = (.rising, .doIncrement)) :
      Does s (.release .time)
        { s with
          curHour := ((s.curHour.toNat + 1) % hourMax).toUInt8
          blinking := true
          display := display
          btnTime := ⟨false, .falling, .increment⟩
          timer0 := timer0
          timer1 := ⟨true, some blinkTimeout, none⟩ }
  | incrementQuarters (display : Fin 8 → Bool) (timer0 : Timer)
      (hmode : s.setTimeMode = .quarters)
      (hpin : (s.pin .time).registered = (.rising, .doIncrement)) :
      Does s (.release .time)
        { s with
          curQuarter := ((s.curQuarter.toNat + 1) % quarterMax).toUInt8
          blinking := true
          display := display
          btnTime := ⟨false, .falling, .increment⟩
          timer0 := timer0
          timer1 := ⟨true, some blinkTimeout, none⟩ }
  | blink (channel : Channel) (batv : Option ℕ) (display : Fin 8 → Bool)
      (hmode : s.setTimeMode ≠ .off) (hblinking : s.blinking = true)
      (harmed : s.timer1.channel channel ≠ none) :
      Does s (.expire channel batv)
        { s with
          display := display
          timer1 := { s.timer1.put none channel with powerBar := some blinkTimeout } }
  | showPower (batv : Option ℕ) (display : Fin 8 → Bool) (hmode : s.setTimeMode = .off)
      (harmed : s.timer1.powerBar ≠ none) :
      Does s (.expire .powerBar batv)
        { s with
          lightsOn := !s.lightsOn
          display := display
          btnLight := ⟨s.btnLight.pressed, .rising, .showPowerOff⟩
          timer1 := { s.timer1 with running := false, powerBar := none } }
  | cancel (batv : Option ℕ) (display : Fin 8 → Bool) (hmode : s.setTimeMode ≠ .off)
      (hblinking : s.blinking = false) (harmed : s.timer1.powerBar ≠ none) :
      Does s (.expire .powerBar batv)
        { s with
          lightsOn := !s.lightsOn
          setTimeMode := .off
          blinking := false
          ledLight := s.lightsOn
          display := display
          btnLight := ⟨s.btnLight.pressed, .falling, .btnLightPush⟩
          btnTime := ⟨s.btnTime.pressed, .falling, .btnTimePush⟩
          timer1 := ⟨false, none, none⟩ }
  | setHours (batv : Option ℕ) (display : Fin 8 → Bool) (timer0 : Timer)
      (hmode : s.setTimeMode = .off) (harmed : s.timer1.setTime ≠ none) :
      Does s (.expire .setTime batv)
        { s with
          setTimeMode := .hours
          blinking := true
          display := display
          btnLight := ⟨s.btnLight.pressed, .falling, .decrement⟩
          btnTime := ⟨s.btnTime.pressed, .falling, .increment⟩
          timer0 := timer0
          timer1 := ⟨true, some blinkTimeout, none⟩ }
  | setQuarters (batv : Option ℕ) (display : Fin 8 → Bool) (timer0 : Timer)
      (hmode : s.setTimeMode = .hours) (hblinking : s.blinking = false)
      (harmed : s.timer1.setTime ≠ none) :
      Does s (.expire .setTime batv)
        { s with
          setTimeMode := .quarters
          blinking := true
          display := display
          btnLight := ⟨s.btnLight.pressed, .falling, .decrement⟩
          btnTime := ⟨s.btnTime.pressed, .falling, .increment⟩
          timer0 := timer0
          timer1 := ⟨true, some blinkTimeout, none⟩ }
  | confirm (batv : Option ℕ) (display : Fin 8 → Bool) (timer0 : Timer)
      (hmode : s.setTimeMode = .quarters) (hblinking : s.blinking = false)
      (harmed : s.timer1.setTime ≠ none) :
      Does s (.expire .setTime batv)
        { timeSet s with
          setTimeMode := .off
          blinking := false
          ledLight := s.lightsOn
          display := display
          btnLight := ⟨s.btnLight.pressed, .falling, .btnLightPush⟩
          btnTime := ⟨s.btnTime.pressed, .falling, .btnTimePush⟩
          timer0 := timer0
          timer1 := ⟨false, none, none⟩ }
  | tick (rtc : RtcTime) : Does s (.tick rtc) { s with rtc := rtc.toTm }

variable {s t : State} {e : Event}

lemma handlers_set {mode : SetTimeMode} (h : mode ≠ .off) :
    handlers mode .light = [(.falling, .decrement), (.rising, .doDecrement)] ∧
      handlers mode .time = [(.falling, .increment), (.rising, .doIncrement)] := by
  cases mode with
  | off => exact absurd rfl h
  | quarters => exact ⟨rfl, rfl⟩
  | hours => exact ⟨rfl, rfl⟩

lemma flank_of_registered {pin : Pin} {flank : Flank} {cb : Handler}
    (h : pin.registered = (flank, cb)) : pin.flank = flank :=
  congrArg Prod.fst h

lemma interrupt_registered {btn : Button} {flank : Flank} {cb : Handler}
    (h : (s.pin btn).registered = (flank, cb)) : s.interrupt btn flank = some cb := by
  obtain ⟨hflank, rfl⟩ := Prod.mk.inj h
  exact if_pos hflank

lemma interrupt_other {btn : Button} {flank : Flank} (h : (s.pin btn).flank ≠ flank) :
    s.interrupt btn flank = none :=
  if_neg h

lemma handler_push {btn : Button} {cb : Handler} (h : (s.pin btn).registered = (.falling, cb)) :
    s.handler (.push btn) = some cb :=
  interrupt_registered h

lemma handler_release {btn : Button} {cb : Handler}
    (h : (s.pin btn).registered = (.rising, cb)) : s.handler (.release btn) = some cb :=
  interrupt_registered h

lemma handler_idlePush {btn : Button} (h : (s.pin btn).flank = .rising) :
    s.handler (.push btn) = none :=
  interrupt_other (by rw [h]; exact nofun)

lemma handler_idleRelease {btn : Button} (h : (s.pin btn).flank = .falling) :
    s.handler (.release btn) = none :=
  interrupt_other (by rw [h]; exact nofun)

/-- A push that is waited for calls the handler, any other one is not noticed. -/
lemma step_push {btn : Button} (hs : step s (.push btn) = some t) :
    (s.pin btn).pressed = false ∧
      t = (s.interrupt btn .falling).elim id Handler.call (s.setPressed true btn) := by
  obtain ⟨hpressed, hs⟩ := Option.ite_none_left_eq_some.mp hs
  exact ⟨Bool.eq_false_of_not_eq_true hpressed, (Option.some.inj hs).symm⟩

lemma step_release {btn : Button} (hs : step s (.release btn) = some t) :
    (s.pin btn).pressed = true ∧
      t = (s.interrupt btn .rising).elim id Handler.call (s.setPressed false btn) := by
  obtain ⟨hpressed, hs⟩ := Option.ite_none_right_eq_some.mp hs
  exact ⟨hpressed, (Option.some.inj hs).symm⟩

lemma Matching.light_off (h : Matching s) (hmode : s.setTimeMode = .off) :
    s.btnLight.registered = (.falling, .btnLightPush) ∨
      s.btnLight.registered = (.rising, .btnLightRelease) ∨
      s.btnLight.registered = (.rising, .showPowerOff) := by
  have hpin := h.light
  rw [hmode] at hpin
  simpa only [handlers, List.mem_cons, List.not_mem_nil, or_false] using hpin

lemma Matching.time_off (h : Matching s) (hmode : s.setTimeMode = .off) :
    s.btnTime.registered = (.falling, .btnTimePush) ∨
      s.btnTime.registered = (.rising, .btnTimeRelease) := by
  have hpin := h.time
  rw [hmode] at hpin
  simpa only [handlers, List.mem_cons, List.not_mem_nil, or_false] using hpin

lemma Matching.light_set (h : Matching s) (hmode : s.setTimeMode ≠ .off) :
    s.btnLight.registered = (.falling, .decrement) ∨
      s.btnLight.registered = (.rising, .doDecrement) := by
  have hpin := h.light
  rw [(handlers_set hmode).1] at hpin
  simpa only [List.mem_cons, List.not_mem_nil, or_false] using hpin

lemma Matching.time_set (h : Matching s) (hmode : s.setTimeMode ≠ .off) :
    s.btnTime.registered = (.falling, .increment) ∨
      s.btnTime.registered = (.rising, .doIncrement) := by
  have hpin := h.time
  rw [(handlers_set hmode).2] at hpin
  simpa only [List.mem_cons, List.not_mem_nil, or_false] using hpin

lemma does_doDecrement (hmode : s.setTimeMode ≠ .off)
    (hpin : s.btnLight.registered = (.rising, .doDecrement)) :
    Does s (.release .light) (doDecrement (s.setPressed false .light)) := by
  unfold doDecrement
  dsimp only [State.setPressed, gpioInitInt, timerClear, Timer.put]
  split
  · rename_i hset
    dsimp only [returnToBlink, turnOffTimeDisplay, blink, showTime, timerClear, timerStart,
      timerSet, Timer.put]
    exact .decrementHours _ _ hset hpin
  · rename_i hset
    dsimp only [returnToBlink, turnOffTimeDisplay, blink, showTime, timerClear, timerStart,
      timerSet, Timer.put]
    exact .decrementQuarters _ _ hset hpin
  · rename_i hset
    exact absurd hset hmode

lemma does_doIncrement (hmode : s.setTimeMode ≠ .off)
    (hpin : s.btnTime.registered = (.rising, .doIncrement)) :
    Does s (.release .time) (doIncrement (s.setPressed false .time)) := by
  unfold doIncrement
  dsimp only [State.setPressed, gpioInitInt, timerClear, Timer.put]
  split
  · rename_i hset
    dsimp only [returnToBlink, turnOffTimeDisplay, blink, showTime, timerClear, timerStart,
      timerSet, Timer.put]
    exact .incrementHours _ _ hset hpin
  · rename_i hset
    dsimp only [returnToBlink, turnOffTimeDisplay, blink, showTime, timerClear, timerStart,
      timerSet, Timer.put]
    exact .incrementQuarters _ _ hset hpin
  · rename_i hset
    exact absurd hset hmode

lemma does_btnTimePush (hmode : s.setTimeMode = .off)
    (hpin : s.btnTime.registered = (.falling, .btnTimePush)) :
    Does s (.push .time) (btnTimePush (s.setPressed true .time)) := by
  dsimp only [btnTimePush, State.setPressed, turnOffTimeDisplay, timeGet, showTime, gpioInitInt,
    timerStart, timerSet, Timer.put]
  exact .btnTimePush _ hmode hpin

lemma does_push (h : Matching s) {btn : Button} (hs : step s (.push btn) = some t) :
    Does s (.push btn) t := by
  obtain ⟨-, rfl⟩ := step_push hs
  have hrising {cb : Handler} (hpin : (s.pin btn).registered = (.rising, cb)) :
      Does s (.push btn)
        ((s.interrupt btn .falling).elim id Handler.call (s.setPressed true btn)) := by
    have hflank := flank_of_registered hpin
    rw [interrupt_other (by rw [hflank]; exact nofun)]
    exact .idlePush btn hflank
  have hfalling {cb : Handler} (hpin : (s.pin btn).registered = (.falling, cb))
      (hdoes : Does s (.push btn) (cb.call (s.setPressed true btn))) :
      Does s (.push btn)
        ((s.interrupt btn .falling).elim id Handler.call (s.setPressed true btn)) := by
    rw [interrupt_registered hpin]
    exact hdoes
  by_cases hmode : s.setTimeMode = .off
  · cases btn with
    | light =>
      rcases h.light_off hmode with hpin | hpin | hpin
      · exact hfalling hpin (.btnLightPush hmode hpin)
      · exact hrising hpin
      · exact hrising hpin
    | time =>
      rcases h.time_off hmode with hpin | hpin
      · exact hfalling hpin (does_btnTimePush hmode hpin)
      · exact hrising hpin
  · cases btn with
    | light =>
      rcases h.light_set hmode with hpin | hpin
      · exact hfalling hpin (.decrement _ hmode hpin)
      · exact hrising hpin
    | time =>
      rcases h.time_set hmode with hpin | hpin
      · exact hfalling hpin (.increment _ hmode hpin)
      · exact hrising hpin

lemma does_release (h : Matching s) {btn : Button} (hs : step s (.release btn) = some t) :
    Does s (.release btn) t := by
  obtain ⟨-, rfl⟩ := step_release hs
  have hfalling {cb : Handler} (hpin : (s.pin btn).registered = (.falling, cb)) :
      Does s (.release btn)
        ((s.interrupt btn .rising).elim id Handler.call (s.setPressed false btn)) := by
    have hflank := flank_of_registered hpin
    rw [interrupt_other (by rw [hflank]; exact nofun)]
    exact .idleRelease btn hflank
  have hrising {cb : Handler} (hpin : (s.pin btn).registered = (.rising, cb))
      (hdoes : Does s (.release btn) (cb.call (s.setPressed false btn))) :
      Does s (.release btn)
        ((s.interrupt btn .rising).elim id Handler.call (s.setPressed false btn)) := by
    rw [interrupt_registered hpin]
    exact hdoes
  by_cases hmode : s.setTimeMode = .off
  · cases btn with
    | light =>
      rcases h.light_off hmode with hpin | hpin | hpin
      · exact hfalling hpin
      · exact hrising hpin (.btnLightRelease hmode hpin)
      · exact hrising hpin (.showPowerOff _ hmode hpin)
    | time =>
      rcases h.time_off hmode with hpin | hpin
      · exact hfalling hpin
      · exact hrising hpin (.btnTimeRelease _ hmode hpin)
  · cases btn with
    | light =>
      rcases h.light_set hmode with hpin | hpin
      · exact hfalling hpin
      · exact hrising hpin (does_doDecrement hmode hpin)
    | time =>
      rcases h.time_set hmode with hpin | hpin
      · exact hfalling hpin
      · exact hrising hpin (does_doIncrement hmode hpin)

lemma timeout_blinking {channel : Channel} {batv : Option ℕ} (h : s.blinking = true) :
    timeout channel batv s = blink s :=
  if_pos h

lemma timeout_cancel {batv : Option ℕ} (h : s.blinking = false) (hmode : s.setTimeMode ≠ .off) :
    timeout .powerBar batv s =
      timerStop .dev1 { initNormalMode s with lightsOn := !s.lightsOn } := by
  unfold timeout inSetTimeMode
  rw [if_neg (by rw [h]; exact Bool.false_ne_true)]
  dsimp only
  rw [if_pos (decide_eq_true hmode)]
  rfl

lemma timeout_showPower {batv : Option ℕ} (h : s.blinking = false)
    (hmode : s.setTimeMode = .off) :
    timeout .powerBar batv s =
      timerStop .dev1 { showPower batv s with lightsOn := !s.lightsOn } := by
  unfold timeout inSetTimeMode
  rw [if_neg (by rw [h]; exact Bool.false_ne_true)]
  dsimp only
  rw [if_neg (by rw [hmode]; decide)]
  rfl

lemma does_timeout_powerBar {batv : Option ℕ} (hblinking : s.blinking = false)
    (harmed : s.timer1.powerBar ≠ none) :
    Does s (.expire .powerBar batv) (timeout .powerBar batv (timerClear .dev1 .powerBar s)) := by
  by_cases hmode : s.setTimeMode = .off
  · rw [timeout_showPower (s := timerClear .dev1 .powerBar s) hblinking hmode]
    dsimp only [showPower, gpioInitInt, timerClear, timerStop, Timer.put]
    exact .showPower batv _ hmode harmed
  · rw [timeout_cancel (s := timerClear .dev1 .powerBar s) hblinking hmode]
    dsimp only [initNormalMode, turnOffTimeDisplay, gpioInitInt, timerClear, timerStop, Timer.put]
    exact .cancel batv _ hmode hblinking harmed

lemma does_timeout_setTime {batv : Option ℕ} (hblinking : s.blinking = false)
    (harmed : s.timer1.setTime ≠ none) :
    Does s (.expire .setTime batv) (timeout .setTime batv (timerClear .dev1 .setTime s)) := by
  unfold timeout
  rw [if_neg (by rw [show (timerClear .dev1 .setTime s).blinking = false from hblinking]; decide)]
  dsimp only [initSetTimeMode, initNormalMode, timeSet, returnToBlink, turnOffTimeDisplay, blink,
    showTime, gpioInitInt, timerClear, timerStart, timerStop, timerSet, Timer.put]
  split
  · rename_i hmode
    exact .setHours batv _ _ hmode harmed
  · rename_i hmode
    exact .setQuarters batv _ _ hmode hblinking harmed
  · rename_i hmode
    exact .confirm batv _ _ hmode hblinking harmed

lemma does_expire (h : Matching s) {channel : Channel} {batv : Option ℕ}
    (hs : step s (.expire channel batv) = some t) : Does s (.expire channel batv) t := by
  obtain ⟨armed, hchannel, rfl⟩ := Option.map_eq_some_iff.mp hs
  have harmed : s.timer1.channel channel ≠ none :=
    Option.ne_none_iff_exists'.mpr ⟨armed, hchannel⟩
  rcases Bool.eq_false_or_eq_true s.blinking with hblinking | hblinking
  · have hmode : s.setTimeMode ≠ .off := by
      intro hoff
      rw [h.still hoff] at hblinking
      cases hblinking
    rw [timeout_blinking (s := timerClear .dev1 channel s) hblinking]
    exact .blink channel batv _ hmode hblinking harmed
  · cases channel with
    | powerBar => exact does_timeout_powerBar hblinking harmed
    | setTime => exact does_timeout_setTime hblinking harmed

/-- Nothing else can happen to a wand whose handlers match its mode. -/
theorem does_of_step (h : Matching s) (hs : step s e = some t) : Does s e t := by
  cases e with
  | push btn => exact does_push h hs
  | release btn => exact does_release h hs
  | expire channel batv => exact does_expire h hs
  | tick rtc =>
    obtain rfl := Option.some.inj hs
    exact .tick rtc

lemma matching_start (rtc : RtcTime) : Matching (start rtc) where
  light := .head _
  time := .head _
  still _ := rfl

lemma mem_handlers_set {mode : SetTimeMode} (h : mode ≠ .off) :
    (.falling, .decrement) ∈ handlers mode .light ∧
      (.rising, .doDecrement) ∈ handlers mode .light ∧
      (.falling, .increment) ∈ handlers mode .time ∧
      (.rising, .doIncrement) ∈ handlers mode .time := by
  rw [(handlers_set h).1, (handlers_set h).2]
  decide

lemma matching_does (h : Matching s) (hdoes : Does s e t) : Matching t := by
  have hlight {flank : Flank} {cb : Handler} (hmode : s.setTimeMode = .off)
      (hmem : (flank, cb) ∈ handlers .off .light) :
      (flank, cb) ∈ handlers s.setTimeMode .light := by
    rw [hmode]
    exact hmem
  have htime {flank : Flank} {cb : Handler} (hmode : s.setTimeMode = .off)
      (hmem : (flank, cb) ∈ handlers .off .time) :
      (flank, cb) ∈ handlers s.setTimeMode .time := by
    rw [hmode]
    exact hmem
  cases hdoes with
  | idlePush btn => cases btn <;> exact ⟨h.light, h.time, h.still⟩
  | idleRelease btn => cases btn <;> exact ⟨h.light, h.time, h.still⟩
  | btnLightPush hmode => exact ⟨hlight hmode (.tail _ (.head _)), h.time, h.still⟩
  | btnLightRelease hmode => exact ⟨hlight hmode (.head _), h.time, h.still⟩
  | showPowerOff _ hmode => exact ⟨hlight hmode (.head _), h.time, h.still⟩
  | showPower _ _ hmode =>
    exact ⟨hlight hmode (.tail _ (.tail _ (.head _))), h.time, h.still⟩
  | btnTimePush _ hmode => exact ⟨h.light, htime hmode (.tail _ (.head _)), h.still⟩
  | btnTimeRelease _ hmode => exact ⟨h.light, htime hmode (.head _), h.still⟩
  | decrement _ hmode =>
    exact ⟨(mem_handlers_set hmode).2.1, h.time, fun hoff => absurd hoff hmode⟩
  | increment _ hmode =>
    exact ⟨h.light, (mem_handlers_set hmode).2.2.2, fun hoff => absurd hoff hmode⟩
  | decrementHours _ _ hmode | decrementQuarters _ _ hmode =>
    have hset : s.setTimeMode ≠ .off := by rw [hmode]; exact nofun
    exact ⟨(mem_handlers_set hset).1, h.time, fun hoff => absurd hoff hset⟩
  | incrementHours _ _ hmode | incrementQuarters _ _ hmode =>
    have hset : s.setTimeMode ≠ .off := by rw [hmode]; exact nofun
    exact ⟨h.light, (mem_handlers_set hset).2.2.1, fun hoff => absurd hoff hset⟩
  | blink _ _ _ hmode => exact ⟨h.light, h.time, fun hoff => absurd hoff hmode⟩
  | cancel => exact ⟨.head _, .head _, fun _ => rfl⟩
  | setHours => exact ⟨.head _, .head _, nofun⟩
  | setQuarters => exact ⟨.head _, .head _, nofun⟩
  | confirm => exact ⟨.head _, .head _, fun _ => rfl⟩
  | tick => exact ⟨h.light, h.time, h.still⟩

theorem matching_step (h : Matching s) (hs : step s e = some t) : Matching t :=
  matching_does h (does_of_step h hs)

end Wand

end RiotPlayground
