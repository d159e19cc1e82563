import RiotPlayground.Lib.TransitionSystem
import Mathlib.Data.Nat.Bitwise

/-!
# The wand

The handlers of the wand register each other: a button calls what was registered for it last, on
the edge that was registered with it. The hardware is what they see of it: two pins with an
interrupt, two timers with two channels each, the clock, the LEDs.
-/

namespace RiotPlayground

namespace Wand

def timerFreq : ℕ := 1000000

def hourMax : ℕ := 12

def quarterMax : ℕ := 8

def blinkTimeout : ℕ := 500000

def powerBarTimeout : ℕ := 1 * timerFreq

def setTimeTimeout : ℕ := 3 * timerFreq

def voltageMin : ℕ := 3276

def voltageMax : ℕ := 4301

inductive SetTimeMode
  | off
  | quarters
  | hours
  deriving DecidableEq

/-- `BTN_LIGHT` and `BTN_TIME`. -/
inductive Button
  | light
  | time
  deriving DecidableEq

/-- `GPIO_FALLING` is a push, `GPIO_RISING` a release: the pins are pulled up. -/
inductive Flank
  | falling
  | rising
  deriving DecidableEq

/-- The functions that are registered with `gpio_init_int`. -/
inductive Handler
  | btnLightPush
  | btnLightRelease
  | btnTimePush
  | btnTimeRelease
  | showPowerOff
  | decrement
  | doDecrement
  | increment
  | doIncrement
  deriving DecidableEq

structure Pin where
  pressed : Bool
  flank : Flank
  cb : Handler

inductive TimerDev
  | dev0
  | dev1

/-- `POWER_BAR_CHANNEL` is channel 0, which also blinks, `SET_TIME_CHANNEL` is channel 1. -/
inductive Channel
  | powerBar
  | setTime
  deriving DecidableEq

/-- A timer: the timeout each channel is armed with. -/
structure Timer where
  running : Bool
  powerBar : Option ℕ
  setTime : Option ℕ

def Timer.channel (timer : Timer) : Channel → Option ℕ
  | .powerBar => timer.powerBar
  | .setTime => timer.setTime

def Timer.put (timer : Timer) (timeout : Option ℕ) : Channel → Timer
  | .powerBar => { timer with powerBar := timeout }
  | .setTime => { timer with setTime := timeout }

/-- What the wand uses of `struct tm`. -/
structure Tm where
  tmHour : ℕ
  tmMin : ℕ
  tmSec : ℕ
  deriving DecidableEq

/-- What a clock shows. -/
structure RtcTime extends Tm where
  hour_lt : tmHour < 24
  min_lt : tmMin < 60

structure State where
  lightsOn : Bool
  blinking : Bool
  setTimeMode : SetTimeMode
  time : Tm
  curHour : UInt8
  curQuarter : UInt8
  /-- `LED_LIGHT` -/
  ledLight : Bool
  /-- The LEDs of `_time_array`. -/
  display : Fin 8 → Bool
  btnLight : Pin
  btnTime : Pin
  timer0 : Timer
  timer1 : Timer
  rtc : Tm
  /-- What `rtc_set_time` was called with so far. -/
  rtcSets : List Tm

def gpioInitInt (btn : Button) (flank : Flank) (cb : Handler) (s : State) : State :=
  match btn with
  | .light => { s with btnLight := { s.btnLight with flank := flank, cb := cb } }
  | .time => { s with btnTime := { s.btnTime with flank := flank, cb := cb } }

def timerStart (dev : TimerDev) (s : State) : State :=
  match dev with
  | .dev0 => { s with timer0 := { s.timer0 with running := true } }
  | .dev1 => { s with timer1 := { s.timer1 with running := true } }

def timerStop (dev : TimerDev) (s : State) : State :=
  match dev with
  | .dev0 => { s with timer0 := { s.timer0 with running := false } }
  | .dev1 => { s with timer1 := { s.timer1 with running := false } }

def timerSet (dev : TimerDev) (channel : Channel) (timeout : ℕ) (s : State) : State :=
  match dev with
  | .dev0 => { s with timer0 := s.timer0.put (some timeout) channel }
  | .dev1 => { s with timer1 := s.timer1.put (some timeout) channel }

def timerClear (dev : TimerDev) (channel : Channel) (s : State) : State :=
  match dev with
  | .dev0 => { s with timer0 := s.timer0.put none channel }
  | .dev1 => { s with timer1 := s.timer1.put none channel }

def gpioSet (_ : Bool) : Bool := true

def gpioToggle (led : Bool) : Bool := !led

def timeEncode (hour quarter : UInt8) : UInt8 :=
  let hour := if hour = 0 then hourMax.toUInt8 else hour
  let res := hour <<< 4
  if quarter = (quarterMax - 1).toUInt8 then res ||| 0x9
  else if quarter % 2 ≠ 0 then res ||| (0x3 <<< (quarter / 2))
  else res ||| (0x1 <<< (quarter / 2))

/-- In set time mode only the hours or only the quarters are shown with `gpioShow`. -/
def showTime (gpioShow : Bool → Bool) (s : State) : State :=
  let mask := timeEncode s.curHour s.curQuarter
  { s with
    display := fun i =>
      if mask.toNat.testBit i then
        if (s.setTimeMode = .quarters ∧ i.val ≤ 3) ∨ (s.setTimeMode = .hours ∧ 3 < i.val) then
          gpioShow (s.display i)
        else gpioSet (s.display i)
      else s.display i }

def turnOffTimeDisplay (s : State) : State :=
  { s with display := fun _ => false }

def timeGet (s : State) : State :=
  let s := { s with time := s.rtc }
  { s with
    curHour := if s.time.tmHour > hourMax then (s.time.tmHour - hourMax).toUInt8
      else s.time.tmHour.toUInt8
    curQuarter := ((s.time.tmMin * 10) / (600 / quarterMax)).toUInt8 }

def timeSet (s : State) : State :=
  let tmMin := s.curQuarter.toNat * (600 / quarterMax) / 10
  let tmMin := if s.curQuarter.toNat % 2 ≠ 0 then tmMin + 1 else tmMin
  let time := { tmHour := s.curHour.toNat, tmMin := tmMin, tmSec := 0 }
  { s with time := time, rtc := time, rtcSets := s.rtcSets ++ [time] }

def initNormalMode (s : State) : State :=
  let s := timerStop .dev1 s
  let s := { s with setTimeMode := .off, blinking := false }
  let s := timerClear .dev1 .powerBar s
  let s := timerClear .dev1 .setTime s
  let s := gpioInitInt .light .falling .btnLightPush s
  let s := gpioInitInt .time .falling .btnTimePush s
  let s := turnOffTimeDisplay s
  { s with ledLight := s.lightsOn }

def btnLightPush (s : State) : State :=
  let s := { s with lightsOn := !s.lightsOn }
  let s := gpioInitInt .light .rising .btnLightRelease s
  let s := timerStart .dev1 s
  timerSet .dev1 .powerBar powerBarTimeout s

def btnLightRelease (s : State) : State :=
  let s := timerClear .dev1 .powerBar s
  let s := timerStop .dev1 s
  let s := { s with ledLight := s.lightsOn }
  gpioInitInt .light .falling .btnLightPush s

def btnTimePush (s : State) : State :=
  let s := turnOffTimeDisplay s
  let s := timeGet s
  let s := showTime gpioSet s
  let s := gpioInitInt .time .rising .btnTimeRelease s
  let s := timerStart .dev1 s
  timerSet .dev1 .setTime setTimeTimeout s

def btnTimeRelease (s : State) : State :=
  let s := timerClear .dev1 .setTime s
  let s := turnOffTimeDisplay s
  gpioInitInt .time .falling .btnTimePush s

def showPowerOff (s : State) : State :=
  let s := turnOffTimeDisplay s
  gpioInitInt .light .falling .btnLightPush s

/-- From which permillage on a LED of the power bar is lit. -/
def powerLeds : List (ℕ × Fin 8) :=
  [(125, 7), (250, 6), (375, 5), (500, 4), (625, 0), (750, 1), (875, 2), (1000, 3)]

/-- `batv` is the scaled battery voltage, `none` if it could not be read. -/
def showPower (batv : Option ℕ) (s : State) : State :=
  let s := gpioInitInt .light .rising .showPowerOff s
  let batv := batv.getD voltageMax
  let permillage :=
    if batv ≤ voltageMin then 0
    else if batv > voltageMax then 1001
    else (batv - voltageMin) * 1000 / (voltageMax - voltageMin)
  { s with display := fun i => s.display i || powerLeds.any fun p => p.2 = i ∧ permillage ≥ p.1 }

def inSetTimeMode (s : State) : Bool := s.setTimeMode ≠ .off

def blink (s : State) : State :=
  let s := showTime gpioToggle s
  timerSet .dev1 .powerBar blinkTimeout s

/-- The channels that are cleared are those of the other timer. -/
def returnToBlink (s : State) : State :=
  let s := timerClear .dev0 .powerBar s
  let s := timerClear .dev0 .setTime s
  let s := turnOffTimeDisplay s
  let s := { s with blinking := true }
  let s := timerStart .dev1 s
  blink s

def initSetTimeMode (s : State) : State :=
  let s := gpioInitInt .light .falling .decrement s
  let s := gpioInitInt .time .falling .increment s
  let s := { s with setTimeMode := .hours }
  returnToBlink s

def decrement (s : State) : State :=
  let s := gpioInitInt .light .rising .doDecrement s
  let s := showTime gpioSet s
  let s := { s with blinking := false }
  let s := timerClear .dev1 .powerBar s
  timerSet .dev1 .powerBar (setTimeTimeout / 2) s

def doDecrement (s : State) : State :=
  let s := timerClear .dev1 .powerBar s
  let s := gpioInitInt .light .falling .decrement s
  let s :=
    match s.setTimeMode with
    | .hours =>
      { s with curHour := if s.curHour > 0 then s.curHour - 1 else (hourMax - 1).toUInt8 }
    | .quarters =>
      { s with
        curQuarter := if s.curQuarter > 0 then s.curQuarter - 1 else (quarterMax - 1).toUInt8 }
    | .off => initNormalMode s
  returnToBlink s

def increment (s : State) : State :=
  let s := gpioInitInt .time .rising .doIncrement s
  let s := showTime gpioSet s
  let s := { s with blinking := false }
  let s := timerClear .dev1 .powerBar s
  timerSet .dev1 .setTime (setTimeTimeout / 2) s

def doIncrement (s : State) : State :=
  let s := timerClear .dev1 .setTime s
  let s := gpioInitInt .time .falling .increment s
  let s :=
    match s.setTimeMode with
    | .hours => { s with curHour := ((s.curHour.toNat + 1) % hourMax).toUInt8 }
    | .quarters => { s with curQuarter := ((s.curQuarter.toNat + 1) % quarterMax).toUInt8 }
    | .off => initNormalMode s
  returnToBlink s

def timeout (channel : Channel) (batv : Option ℕ) (s : State) : State :=
  if s.blinking then blink s
  else
    match channel with
    | .powerBar =>
      let s := if inSetTimeMode s then initNormalMode s else showPower batv s
      let s := { s with lightsOn := !s.lightsOn }
      timerStop .dev1 s
    | .setTime =>
      let s := gpioInitInt .light .falling .decrement s
      let s := gpioInitInt .time .falling .increment s
      let s := returnToBlink s
      match s.setTimeMode with
      | .off => initSetTimeMode s
      | .hours => { s with setTimeMode := .quarters }
      | .quarters => initNormalMode (timeSet s)

def Handler.call : Handler → State → State
  | .btnLightPush => Wand.btnLightPush
  | .btnLightRelease => Wand.btnLightRelease
  | .btnTimePush => Wand.btnTimePush
  | .btnTimeRelease => Wand.btnTimeRelease
  | .showPowerOff => Wand.showPowerOff
  | .decrement => Wand.decrement
  | .doDecrement => Wand.doDecrement
  | .increment => Wand.increment
  | .doIncrement => Wand.doIncrement

/-- What happens to the wand. `expire` carries the battery voltage, `tick` what the clock has come
to show. -/
inductive Event
  | push (btn : Button)
  | release (btn : Button)
  | expire (channel : Channel) (batv : Option ℕ)
  | tick (rtc : RtcTime)

def State.pin (s : State) : Button → Pin
  | .light => s.btnLight
  | .time => s.btnTime

def State.setPressed (s : State) (pressed : Bool) : Button → State
  | .light => { s with btnLight := { s.btnLight with pressed := pressed } }
  | .time => { s with btnTime := { s.btnTime with pressed := pressed } }

/-- The handler an edge of a button calls. -/
def State.interrupt (s : State) (btn : Button) (flank : Flank) : Option Handler :=
  if (s.pin btn).flank = flank then some (s.pin btn).cb else none

/-- The handler of a button that runs at an event. -/
def State.handler (s : State) : Event → Option Handler
  | .push btn => s.interrupt btn .falling
  | .release btn => s.interrupt btn .rising
  | _ => none

/-- An armed channel may expire at any time: how long its timer has been running is left open. -/
def step (s : State) (e : Event) : Option State :=
  match e with
  | .push btn =>
    if (s.pin btn).pressed then none
    else some ((s.handler e).elim id Handler.call (s.setPressed true btn))
  | .release btn =>
    if (s.pin btn).pressed then some ((s.handler e).elim id Handler.call (s.setPressed false btn))
    else none
  | .expire channel batv =>
    (s.timer1.channel channel).map fun _ =>
      timeout channel batv (timerClear .dev1 channel s)
  | .tick rtc => some { s with rtc := rtc.toTm }

def wand : TransitionSystem State Event where
  step := step

/-- What `main` finds: the pins are not configured, `timer_init` has started the timer. -/
def boot (rtc : RtcTime) : State where
  lightsOn := false
  blinking := false
  setTimeMode := .off
  time := ⟨0, 0, 0⟩
  curHour := 0
  curQuarter := 0
  ledLight := false
  display := fun _ => false
  btnLight := ⟨false, .falling, .btnLightPush⟩
  btnTime := ⟨false, .falling, .btnTimePush⟩
  timer0 := ⟨true, none, none⟩
  timer1 := ⟨true, none, none⟩
  rtc := rtc.toTm
  rtcSets := []

def start (rtc : RtcTime) : State := initNormalMode (boot rtc)

end Wand

end RiotPlayground
