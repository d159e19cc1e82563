import RiotPlayground.Lib.TransitionSystem
import RiotPlayground.Luke.Pdu

/-!
# The display: `display/main.c`

Its functions, and the CoAP requests, the button and the main loop as events. The strip has
`ledCnt` LEDs.
-/

namespace RiotPlayground

open Directive

namespace Luke

namespace Display

/-- `{"difficulty":%u}` -/
def LUKE_DIFFICULTY_FMT : List Directive :=
  ['{', '"', 'd', 'i', 'f', 'f', 'i', 'c', 'u', 'l', 't', 'y', '"', ':'].map .lit ++
    [.unsigned, .lit '}']

/-- `{"difficulty":1}` -/
@[simp] abbrev LUKE_DIFFICULTY_MIN_SIZE : ℕ := 16

/-- `{"difficulty":10}` -/
@[simp] abbrev LUKE_DIFFICULTY_MAX_SIZE : ℕ := 17

@[simp] abbrev LUKE_POINTS_PER_LED : UInt32 := 1
@[simp] abbrev LUKE_POINT_DROP_VALUE : UInt32 := 2
@[simp] abbrev LUKE_POINT_DROP_TIMEOUT_MAX : UInt32 := 1000 * 1000

@[simp] abbrev LUKE_DIFFICULTY_DEFAULT : UInt8 := 9
@[simp] abbrev LUKE_DIFFICULTY_MAX : UInt8 := 10

@[simp] abbrev LUKE_VICTORY_COND : UInt8 := 5
@[simp] abbrev LUKE_VICTORY_RESET_THRESHOLD : UInt32 := 3

inductive Resource
  | difficulty
  | points

/-- What is sent to the observers of a resource. -/
structure Notification where
  resource : Resource
  payload : List Char

/-- The static variables, and `LUKE_THREAD_FLAG_DEC` of the main thread. -/
structure Vars where
  points : UInt16
  lastNotified : UInt16
  inVictoryCond : UInt8
  difficulty : UInt8
  lastReportedDifficulty : UInt8
  led0 : Bool
  flag : Bool
  common : Common
  notified : List Notification

def Vars.init : Vars where
  points := 64
  lastNotified := 0
  inVictoryCond := 0
  difficulty := LUKE_DIFFICULTY_DEFAULT
  lastReportedDifficulty := 0
  led0 := false
  flag := false
  common := Common.init
  notified := []

/-- `obs` says whether `gcoap_obs_init` succeeds. -/
def notifyPoints (obs : Bool) (s : Vars) : Vars :=
  if obs then
    { s with notified := s.notified ++ [⟨.points, sprintf LUKE_POINTS_FMT [s.points.toUInt32]⟩] }
  else s

def displayPoints (obs : Bool) (s : Vars) : Vars :=
  if s.lastNotified ≠ s.points then { notifyPoints obs s with lastNotified := s.points } else s

section Points

variable (ledCnt : UInt16)

def LUKE_POINTS_MAX : UInt32 := ledCnt.toUInt32 * LUKE_POINTS_PER_LED

/-- The sum is truncated. -/
def newPoints (p : UInt32) (s : Vars) : UInt16 := s.points + p.toUInt16

def storePoints (points : UInt16) (s : Vars) : Vars :=
  if LUKE_POINTS_MAX ledCnt < points.toUInt32 then
    { s with
      points := (LUKE_POINTS_MAX ledCnt).toUInt16
      inVictoryCond := s.inVictoryCond + 1 }
  else { s with points := points }

def incrementPoints (p : UInt32) (obs : Bool) (s : Vars) : Vars :=
  displayPoints obs (storePoints ledCnt (newPoints p s) { s with flag := true })

/-- The difference is cast to `uint8_t`. -/
def droppedPoints (p : UInt32) (s : Vars) : UInt16 :=
  if s.points.toUInt32 < p then 0 else (s.points.toUInt32 - p).toUInt8.toUInt16

def resetVictory (s : Vars) : Vars :=
  if s.points.toUInt32 < LUKE_POINTS_MAX ledCnt - LUKE_VICTORY_RESET_THRESHOLD then
    { s with inVictoryCond := 0 }
  else s

def decrementPoints (p : UInt32) (obs : Bool) (s : Vars) : Vars :=
  displayPoints obs (resetVictory ledCnt { s with points := droppedPoints p s })

def nextDifficulty (difficulty : UInt8) : UInt8 :=
  if LUKE_DIFFICULTY_MAX ≤ difficulty then 1 else difficulty + 1

/-- The points of the interrupt. -/
def difficultyPoints (difficulty : UInt8) : UInt16 :=
  (difficulty.toUInt32 * LUKE_POINTS_MAX ledCnt / LUKE_DIFFICULTY_MAX.toUInt32).toUInt16

def incrDifficulty (s : Vars) : Vars :=
  { s with
    difficulty := nextDifficulty s.difficulty
    points := difficultyPoints ledCnt (nextDifficulty s.difficulty)
    flag := true }

end Points

def notifyDifficulty (obs : Bool) (s : Vars) : Vars :=
  if obs then
    { s with
      lastReportedDifficulty := s.difficulty
      notified := s.notified ++
        [⟨.difficulty, sprintf LUKE_DIFFICULTY_FMT [s.difficulty.toUInt32]⟩] }
  else s

def lukePoints (ledCnt : UInt16) (pdu : Pdu) (obs : Bool) (s : Vars) : Option Response × Vars :=
  match pdu.method with
  | .get => (some ⟨.content, sprintf LUKE_POINTS_FMT [s.points.toUInt32]⟩, s)
  | .post =>
    match pdu.scanPoints with
    | none => (some ⟨.badRequest, []⟩, s)
    | some p => (some ⟨.valid, []⟩, incrementPoints ledCnt p obs s)
  | .other => (none, s)

def scanDifficulty (pdu : Pdu) : Option UInt32 :=
  pdu.scan LUKE_DIFFICULTY_MIN_SIZE LUKE_DIFFICULTY_MAX_SIZE LUKE_DIFFICULTY_FMT

def clampDifficulty (d : UInt32) : UInt8 := if d = 0 then 1 else if 10 < d then 10 else d.toUInt8

def lukeDifficulty (pdu : Pdu) (obs : Bool) (s : Vars) : Option Response × Vars :=
  match pdu.method with
  | .get => (some ⟨.content, sprintf LUKE_DIFFICULTY_FMT [s.difficulty.toUInt32]⟩, s)
  | .post =>
    match scanDifficulty pdu with
    | none => (some ⟨.badRequest, []⟩, s)
    | some d =>
      let t := { notifyDifficulty obs s with difficulty := clampDifficulty d }
      (some ⟨.valid, sprintf LUKE_DIFFICULTY_FMT [t.difficulty.toUInt32]⟩, t)
  | .other => (none, s)

/-! ### The main loop -/

/-- The victory branch of the main loop is taken. -/
def Vars.victory (s : Vars) : Bool := LUKE_VICTORY_COND ≤ s.inVictoryCond

def checkVictory (now later : UInt32) (res : ℕ) (s : Vars) : Vars :=
  if s.victory then
    { s with
      led0 := true
      common := (s.common.postPointsToTarget s.points.toUInt32 now later res).common }
  else { s with led0 := false }

/-- `obs` and `obs'` are the results of `gcoap_obs_init` for the points and the difficulty. -/
def decay (ledCnt : UInt16) (obs obs' : Bool) (s : Vars) : Vars :=
  let t := decrementPoints ledCnt LUKE_POINT_DROP_VALUE obs s
  if t.difficulty ≠ t.lastReportedDifficulty then notifyDifficulty obs' t else t

def timeout (s : Vars) : UInt32 :=
  LUKE_POINT_DROP_TIMEOUT_MAX -
    LUKE_POINT_DROP_TIMEOUT_MAX * (s.difficulty.toUInt32 - 1) / LUKE_DIFFICULTY_MAX.toUInt32

/-- Where the main loop stands. -/
inductive Loop
  | check
  | decay
  | periodic (timeout : UInt32)
  | wait
  deriving DecidableEq

/-- `wins` counts the accepted POSTs that left the counter at its maximum since a decay step left it
below the threshold. -/
structure State where
  vars : Vars
  loop : Loop
  wins : ℕ

def init : State := ⟨.init, .check, 0⟩

inductive Event
  | points (pdu : Pdu) (obs : Bool)
  | difficulty (pdu : Pdu) (obs : Bool)
  | button
  | check (now later : UInt32) (res : ℕ)
  | decay (obs obs' : Bool)
  | wake
  | flagged

section System

variable (ledCnt : UInt16)

def atMaximum (s : Vars) : Bool := s.points.toUInt32 = LUKE_POINTS_MAX ledCnt

def belowThreshold (s : Vars) : Bool :=
  s.points.toUInt32 < LUKE_POINTS_MAX ledCnt - LUKE_VICTORY_RESET_THRESHOLD

def won (pdu : Pdu) (after : Option Response × Vars) : Bool :=
  pdu.method matches .post && after.1.any (·.code = .valid) && atMaximum ledCnt after.2

def step (s : State) : Event → Option State
  | .points pdu obs =>
    let after := lukePoints ledCnt pdu obs s.vars
    some ⟨after.2, s.loop, if won ledCnt pdu after then s.wins + 1 else s.wins⟩
  | .difficulty pdu obs => some { s with vars := (lukeDifficulty pdu obs s.vars).2 }
  | .button => some { s with vars := incrDifficulty ledCnt s.vars }
  | .check now later res =>
    if s.loop = .check then
      some { s with vars := checkVictory now later res s.vars, loop := .decay }
    else none
  | .decay obs obs' =>
    if s.loop = .decay then
      let after := Display.decay ledCnt obs obs' s.vars
      some ⟨after, if 0 < after.points then .periodic (timeout after) else .wait,
        if belowThreshold ledCnt after then 0 else s.wins⟩
    else none
  | .wake =>
    match s.loop with
    | .periodic _ => some { s with loop := .check }
    | _ => none
  | .flagged =>
    if s.loop = .wait ∧ s.vars.flag then
      some { s with vars := { s.vars with flag := false }, loop := .check }
    else none

def display : TransitionSystem State Event := ⟨step ledCnt⟩

end System

section Effects

variable (ledCnt : UInt16) (obs : Bool) (s : Vars)

lemma displayPoints_eq : ∃ lastNotified notified, displayPoints obs s =
    { s with lastNotified := lastNotified, notified := notified } := by
  unfold displayPoints notifyPoints
  split
  · cases obs <;> exact ⟨_, _, rfl⟩
  · exact ⟨_, _, rfl⟩

lemma displayPoints_vars : (displayPoints obs s).points = s.points ∧
    (displayPoints obs s).inVictoryCond = s.inVictoryCond := by
  obtain ⟨lastNotified, notified, h⟩ := displayPoints_eq obs s
  rw [h]
  exact ⟨rfl, rfl⟩

lemma notifyDifficulty_vars : (notifyDifficulty obs s).points = s.points ∧
    (notifyDifficulty obs s).inVictoryCond = s.inVictoryCond := by
  unfold notifyDifficulty
  cases obs <;> exact ⟨rfl, rfl⟩

lemma points_max_eq : LUKE_POINTS_MAX ledCnt = ledCnt.toUInt32 := UInt32.mul_one ledCnt.toUInt32

/-- The counter saturates, and only a sum above the maximum counts for a victory. -/
lemma incrementPoints_vars (p : UInt32) :
    (incrementPoints ledCnt p obs s).points =
      (if ledCnt < newPoints p s then ledCnt else newPoints p s) ∧
    (incrementPoints ledCnt p obs s).inVictoryCond =
      if ledCnt < newPoints p s then s.inVictoryCond + 1 else s.inVictoryCond := by
  unfold incrementPoints
  rw [(displayPoints_vars obs _).1, (displayPoints_vars obs _).2]
  unfold storePoints
  rw [points_max_eq, UInt16.toUInt16_toUInt32]
  by_cases hfull : ledCnt < newPoints p s
  · rw [if_pos (UInt16.toUInt32_lt.mpr hfull), if_pos hfull, if_pos hfull]
    exact ⟨rfl, rfl⟩
  · rw [if_neg fun h => hfull (UInt16.toUInt32_lt.mp h), if_neg hfull, if_neg hfull]
    exact ⟨rfl, rfl⟩

lemma decrementPoints_vars (p : UInt32) :
    (decrementPoints ledCnt p obs s).points = droppedPoints p s ∧
    (decrementPoints ledCnt p obs s).inVictoryCond =
      if belowThreshold ledCnt (decrementPoints ledCnt p obs s) then 0 else s.inVictoryCond := by
  have hpoints : (decrementPoints ledCnt p obs s).points = droppedPoints p s := by
    unfold decrementPoints
    rw [(displayPoints_vars obs _).1]
    unfold resetVictory
    split <;> rfl
  refine ⟨hpoints, ?_⟩
  unfold belowThreshold
  rw [hpoints]
  unfold decrementPoints
  rw [(displayPoints_vars obs _).2]
  unfold resetVictory
  by_cases hbelow : (droppedPoints p s).toUInt32 <
      LUKE_POINTS_MAX ledCnt - LUKE_VICTORY_RESET_THRESHOLD
  · rw [if_pos hbelow, if_pos (decide_eq_true hbelow)]
  · rw [if_neg hbelow, if_neg (by rw [decide_eq_false hbelow]; exact Bool.false_ne_true)]

lemma decay_vars (obs' : Bool) :
    (decay ledCnt obs obs' s).points = droppedPoints LUKE_POINT_DROP_VALUE s ∧
    (decay ledCnt obs obs' s).inVictoryCond =
      if belowThreshold ledCnt (decay ledCnt obs obs' s) then 0 else s.inVictoryCond := by
  have hvars := decrementPoints_vars ledCnt obs s LUKE_POINT_DROP_VALUE
  unfold belowThreshold at hvars ⊢
  unfold decay
  dsimp only
  split
  · rw [(notifyDifficulty_vars obs' _).1, (notifyDifficulty_vars obs' _).2]
    exact hvars
  · exact hvars

/-- In `ℕ`: with fewer LEDs than the threshold the difference wraps around. -/
lemma belowThreshold_eq_false_iff : belowThreshold ledCnt s = false ↔
    3 ≤ ledCnt.toNat ∧ ledCnt.toNat ≤ s.points.toNat + 3 := by
  unfold belowThreshold
  rw [points_max_eq, decide_eq_false_iff_not, UInt32.not_lt, UInt32.le_iff_toNat_le]
  have hled := ledCnt.toNat_lt
  have hpoints := s.points.toNat_lt
  rw [UInt32.toNat_sub, UInt16.toNat_toUInt32, UInt16.toNat_toUInt32]
  have hthree : LUKE_VICTORY_RESET_THRESHOLD.toNat = 3 := rfl
  rw [hthree]
  omega

lemma lukePoints_cases (pdu : Pdu) :
    (∃ p, pdu.method = .post ∧ pdu.scanPoints = some p ∧
      lukePoints ledCnt pdu obs s = (some ⟨.valid, []⟩, incrementPoints ledCnt p obs s)) ∨
    ((lukePoints ledCnt pdu obs s).2 = s ∧ won ledCnt pdu (lukePoints ledCnt pdu obs s) = false ∧
      ¬ (pdu.method = .post ∧ pdu.scanPoints.isSome)) := by
  unfold lukePoints
  cases hmethod : pdu.method with
  | get => exact .inr ⟨rfl, by rw [won, hmethod]; rfl, fun h => nomatch h.1⟩
  | other => exact .inr ⟨rfl, by rw [won, hmethod]; rfl, fun h => nomatch h.1⟩
  | post =>
    cases hscan : pdu.scanPoints with
    | none => exact .inr ⟨rfl, by rw [won, hmethod]; rfl, fun h => nomatch h.2⟩
    | some p => exact .inl ⟨p, rfl, rfl, rfl⟩

end Effects

/-- Neither the product nor the quotient is too large for its type. -/
lemma toNat_difficultyPoints {ledCnt : UInt16} {difficulty : UInt8} (h : difficulty.toNat ≤ 10) :
    (difficultyPoints ledCnt difficulty).toNat = difficulty.toNat * ledCnt.toNat / 10 := by
  have hled := ledCnt.toNat_lt
  have hproduct : difficulty.toNat * ledCnt.toNat ≤ 10 * ledCnt.toNat :=
    Nat.mul_le_mul_right ledCnt.toNat h
  have hten : LUKE_DIFFICULTY_MAX.toUInt32.toNat = 10 := rfl
  unfold difficultyPoints
  rw [points_max_eq, UInt32.toNat_toUInt16, UInt32.toNat_div, hten, UInt32.toNat_mul,
    UInt8.toNat_toUInt32, UInt16.toNat_toUInt32]
  omega

end Display

end Luke

end RiotPlayground
