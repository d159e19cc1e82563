import RiotPlayground.Luke.Display

/-!
# The display thread by thread

The thread that handles CoAP requests has a higher priority than the main thread: main runs only
when there is no request, or when the handler is blocked on `_points_mutex`. The button interrupt
comes between any two steps.
-/

namespace RiotPlayground

open Directive

namespace Luke

namespace Display

inductive Thread
  | main
  | handler
  deriving DecidableEq

/-- Where `_notify_difficulty` stands. -/
inductive Notify
  | format
  | load (payload : List Char)
  | store (payload : List Char) (difficulty : UInt8)
  | send (payload : List Char)
  deriving DecidableEq

/-- What a handler locks the mutex for. -/
inductive Job
  | increment (p : UInt32)
  | get
  deriving DecidableEq

/-- Where the thread of the CoAP handlers stands. -/
inductive Handler
  | idle
  | setFlag (p : UInt32)
  | lock (job : Job)
  | blocked (job : Job)
  | add (p : UInt32)
  | store (points : UInt16)
  | count
  | display
  | get
  | unlock
  | notify (at_ : Notify) (d : UInt8)
  | assign (d : UInt8)
  deriving DecidableEq

/-- Where the main loop stands. -/
inductive Main
  | check
  | post
  | lock
  | load
  | store (points : UInt16)
  | reset
  | display
  | unlock
  | compareLoad
  | compare (difficulty : UInt8)
  | notify (at_ : Notify)
  | timeout
  | test (timeout : UInt32)
  | periodic (timeout : UInt32)
  | wait
  deriving DecidableEq

/-- `owner` has locked `_points_mutex`. -/
structure Threads where
  vars : Vars
  owner : Option Thread
  main : Main
  handler : Handler

def Threads.init : Threads := ⟨.init, none, .check, .idle⟩

/-- One step of `_notify_difficulty`; `none` when it has returned. -/
def Notify.step (obs : Bool) (s : Vars) : Notify → Option Notify × Vars
  | .format =>
    if obs then (some (.load (sprintf LUKE_DIFFICULTY_FMT [s.difficulty.toUInt32])), s)
    else (none, s)
  | .load payload => (some (.store payload s.difficulty), s)
  | .store payload difficulty =>
    (some (.send payload), { s with lastReportedDifficulty := difficulty })
  | .send payload => (none, { s with notified := s.notified ++ [⟨.difficulty, payload⟩] })

/-- With the mutex locked. -/
def Job.start : Job → Handler
  | .increment p => .add p
  | .get => .get

/-- A request arrives. One that is turned down changes nothing, and GETs of the difficulty only
read. -/
def pointsRequest (pdu : Pdu) : Handler :=
  match pdu.method with
  | .get => .lock .get
  | .post =>
    match pdu.scanPoints with
    | none => .idle
    | some p => .setFlag p
  | .other => .idle

def difficultyRequest (pdu : Pdu) : Handler :=
  match pdu.method with
  | .post =>
    match scanDifficulty pdu with
    | none => .idle
    | some d => .notify .format (clampDifficulty d)
  | _ => .idle

lemma pointsRequest_cases (pdu : Pdu) : pointsRequest pdu = .idle ∨
    pointsRequest pdu = .lock .get ∨ ∃ p, pointsRequest pdu = .setFlag p := by
  unfold pointsRequest
  cases pdu.method with
  | get => exact .inr (.inl rfl)
  | other => exact .inl rfl
  | post =>
    cases pdu.scanPoints with
    | none => exact .inl rfl
    | some p => exact .inr (.inr ⟨p, rfl⟩)

lemma difficultyRequest_cases (pdu : Pdu) : difficultyRequest pdu = .idle ∨
    ∃ d, difficultyRequest pdu = .notify .format d := by
  unfold difficultyRequest
  cases pdu.method with
  | get => exact .inl rfl
  | other => exact .inl rfl
  | post =>
    cases scanDifficulty pdu with
    | none => exact .inl rfl
    | some d => exact .inr ⟨clampDifficulty d, rfl⟩

/-- The handler keeps main from running. -/
def Handler.preempts : Handler → Bool
  | .idle => false
  | .blocked _ => false
  | _ => true

section

variable (ledCnt : UInt16)

def handlerStep (obs : Bool) (s : Threads) : Option Threads :=
  match s.handler with
  | .idle => none
  | .setFlag p =>
    some { s with vars := { s.vars with flag := true }, handler := .lock (.increment p) }
  | .lock job =>
    match s.owner with
    | none => some { s with owner := some .handler, handler := job.start }
    | some _ => some { s with handler := .blocked job }
  | .blocked _ => none
  | .add p => some { s with handler := .store (newPoints p s.vars) }
  | .store points =>
    if LUKE_POINTS_MAX ledCnt < points.toUInt32 then
      some { s with
        vars := { s.vars with points := (LUKE_POINTS_MAX ledCnt).toUInt16 }
        handler := .count }
    else some { s with vars := { s.vars with points := points }, handler := .display }
  | .count =>
    some { s with
      vars := { s.vars with inVictoryCond := s.vars.inVictoryCond + 1 }
      handler := .display }
  | .display => some { s with vars := displayPoints obs s.vars, handler := .unlock }
  | .get => some { s with handler := .unlock }
  | .unlock => some { s with owner := none, handler := .idle }
  | .notify at_ d =>
    some { s with
      vars := (at_.step obs s.vars).2
      handler := (at_.step obs s.vars).1.elim (.assign d) (.notify · d) }
  | .assign d => some { s with vars := { s.vars with difficulty := d }, handler := .idle }

/-- `mutex_unlock` hands the mutex over to a handler that waits for it. -/
def unlockMain (s : Threads) : Threads :=
  match s.handler with
  | .blocked job => { s with owner := some .handler, handler := job.start, main := .compareLoad }
  | _ => { s with owner := none, main := .compareLoad }

def mainStep (obs : Bool) (now later : UInt32) (res : ℕ) (s : Threads) : Option Threads :=
  match s.main with
  | .check =>
    some { s with
      vars := { s.vars with led0 := s.vars.victory }
      main := if s.vars.victory then .post else .lock }
  | .post =>
    some { s with
      vars := { s.vars with
        common := (s.vars.common.postPointsToTarget s.vars.points.toUInt32 now later res).common }
      main := .lock }
  | .lock =>
    match s.owner with
    | none => some { s with owner := some .main, main := .load }
    | some _ => none
  | .load => some { s with main := .store (droppedPoints LUKE_POINT_DROP_VALUE s.vars) }
  | .store points => some { s with vars := { s.vars with points := points }, main := .reset }
  | .reset => some { s with vars := resetVictory ledCnt s.vars, main := .display }
  | .display => some { s with vars := displayPoints obs s.vars, main := .unlock }
  | .unlock => some (unlockMain s)
  | .compareLoad => some { s with main := .compare s.vars.difficulty }
  | .compare difficulty =>
    some { s with
      main := if difficulty ≠ s.vars.lastReportedDifficulty then .notify .format else .timeout }
  | .notify at_ =>
    some { s with
      vars := (at_.step obs s.vars).2
      main := (at_.step obs s.vars).1.elim .timeout .notify }
  | .timeout => some { s with main := .test (timeout s.vars) }
  | .test timeout => some { s with main := if 0 < s.vars.points then .periodic timeout else .wait }
  | .periodic _ => some { s with main := .check }
  | .wait =>
    if s.vars.flag then some { s with vars := { s.vars with flag := false }, main := .check }
    else none

/-- A request arrives, one of the threads makes a step, or the button is pressed. -/
inductive ThreadEvent
  | points (pdu : Pdu)
  | difficulty (pdu : Pdu)
  | handler (obs : Bool)
  | main (obs : Bool) (now later : UInt32) (res : ℕ)
  | button

def threadStep (s : Threads) : ThreadEvent → Option Threads
  | .points pdu => if s.handler = .idle then some { s with handler := pointsRequest pdu } else none
  | .difficulty pdu =>
    if s.handler = .idle then some { s with handler := difficultyRequest pdu } else none
  | .handler obs => handlerStep ledCnt obs s
  | .main obs now later res =>
    if s.handler.preempts then none else mainStep ledCnt obs now later res s
  | .button => some { s with vars := incrDifficulty ledCnt s.vars }

def displayThreads : TransitionSystem Threads ThreadEvent := ⟨threadStep ledCnt⟩

/-- A step of the handler, by where it stands. -/
inductive HandlerMoves (obs : Bool) (s : Threads) : Threads → Prop
  | setFlag {p : UInt32} (hat : s.handler = .setFlag p) :
      HandlerMoves obs s
        { s with vars := { s.vars with flag := true }, handler := .lock (.increment p) }
  | lock {job : Job} (hat : s.handler = .lock job) (howner : s.owner = none) :
      HandlerMoves obs s { s with owner := some .handler, handler := job.start }
  | block {job : Job} {thread : Thread} (hat : s.handler = .lock job)
      (howner : s.owner = some thread) : HandlerMoves obs s { s with handler := .blocked job }
  | add {p : UInt32} (hat : s.handler = .add p) :
      HandlerMoves obs s { s with handler := .store (newPoints p s.vars) }
  | storeMax {points : UInt16} (hat : s.handler = .store points)
      (hfull : LUKE_POINTS_MAX ledCnt < points.toUInt32) :
      HandlerMoves obs s
        { s with
          vars := { s.vars with points := (LUKE_POINTS_MAX ledCnt).toUInt16 }
          handler := .count }
  | store {points : UInt16} (hat : s.handler = .store points)
      (hfits : ¬ LUKE_POINTS_MAX ledCnt < points.toUInt32) :
      HandlerMoves obs s { s with vars := { s.vars with points := points }, handler := .display }
  | count (hat : s.handler = .count) :
      HandlerMoves obs s
        { s with
          vars := { s.vars with inVictoryCond := s.vars.inVictoryCond + 1 }
          handler := .display }
  | display (hat : s.handler = .display) :
      HandlerMoves obs s { s with vars := displayPoints obs s.vars, handler := .unlock }
  | get (hat : s.handler = .get) : HandlerMoves obs s { s with handler := .unlock }
  | unlock (hat : s.handler = .unlock) :
      HandlerMoves obs s { s with owner := none, handler := .idle }
  | notify {at_ : Notify} {d : UInt8} (hat : s.handler = .notify at_ d) :
      HandlerMoves obs s
        { s with
          vars := (at_.step obs s.vars).2
          handler := (at_.step obs s.vars).1.elim (.assign d) (.notify · d) }
  | assign {d : UInt8} (hat : s.handler = .assign d) :
      HandlerMoves obs s { s with vars := { s.vars with difficulty := d }, handler := .idle }

/-- A step of main, by where it stands. -/
inductive MainMoves (obs : Bool) (now later : UInt32) (res : ℕ) (s : Threads) : Threads → Prop
  | check (hat : s.main = .check) :
      MainMoves obs now later res s
        { s with
          vars := { s.vars with led0 := s.vars.victory }
          main := if s.vars.victory then .post else .lock }
  | post (hat : s.main = .post) :
      MainMoves obs now later res s
        { s with
          vars := { s.vars with
            common :=
              (s.vars.common.postPointsToTarget s.vars.points.toUInt32 now later res).common }
          main := .lock }
  | lock (hat : s.main = .lock) (howner : s.owner = none) :
      MainMoves obs now later res s { s with owner := some .main, main := .load }
  | load (hat : s.main = .load) :
      MainMoves obs now later res s
        { s with main := .store (droppedPoints LUKE_POINT_DROP_VALUE s.vars) }
  | store {points : UInt16} (hat : s.main = .store points) :
      MainMoves obs now later res s
        { s with vars := { s.vars with points := points }, main := .reset }
  | reset (hat : s.main = .reset) :
      MainMoves obs now later res s
        { s with vars := resetVictory ledCnt s.vars, main := .display }
  | display (hat : s.main = .display) :
      MainMoves obs now later res s { s with vars := displayPoints obs s.vars, main := .unlock }
  | unlock (hat : s.main = .unlock) : MainMoves obs now later res s (unlockMain s)
  | compareLoad (hat : s.main = .compareLoad) :
      MainMoves obs now later res s { s with main := .compare s.vars.difficulty }
  | compare {difficulty : UInt8} (hat : s.main = .compare difficulty) :
      MainMoves obs now later res s
        { s with
          main :=
            if difficulty ≠ s.vars.lastReportedDifficulty then .notify .format else .timeout }
  | notify {at_ : Notify} (hat : s.main = .notify at_) :
      MainMoves obs now later res s
        { s with
          vars := (at_.step obs s.vars).2
          main := (at_.step obs s.vars).1.elim .timeout .notify }
  | timeout (hat : s.main = .timeout) :
      MainMoves obs now later res s { s with main := .test (Display.timeout s.vars) }
  | test {us : UInt32} (hat : s.main = .test us) :
      MainMoves obs now later res s
        { s with main := if 0 < s.vars.points then .periodic us else .wait }
  | periodic {us : UInt32} (hat : s.main = .periodic us) :
      MainMoves obs now later res s { s with main := .check }
  | wait (hat : s.main = .wait) (hflag : s.vars.flag = true) :
      MainMoves obs now later res s
        { s with vars := { s.vars with flag := false }, main := .check }

variable {ledCnt} {s t : Threads} {obs : Bool} {now later : UInt32} {res : ℕ}

lemma handlerMoves_of_step (hs : handlerStep ledCnt obs s = some t) :
    HandlerMoves ledCnt obs s t := by
  unfold handlerStep at hs
  cases hat : s.handler with
  | idle | blocked =>
    rw [hat] at hs
    cases hs
  | lock job =>
    rw [hat] at hs
    dsimp only at hs
    split at hs
    · rename_i howner
      obtain rfl := Option.some.inj hs
      exact .lock hat howner
    · rename_i howner
      obtain rfl := Option.some.inj hs
      exact .block hat howner
  | store points =>
    rw [hat] at hs
    by_cases hfull : LUKE_POINTS_MAX ledCnt < points.toUInt32
    · obtain rfl := Option.some.inj ((if_pos hfull).symm.trans hs)
      exact .storeMax hat hfull
    · obtain rfl := Option.some.inj ((if_neg hfull).symm.trans hs)
      exact .store hat hfull
  | setFlag | add | count | display | get | unlock | notify | assign =>
    rw [hat] at hs
    obtain rfl := Option.some.inj hs
    constructor
    exact hat

lemma mainMoves_of_step (hs : mainStep ledCnt obs now later res s = some t) :
    MainMoves ledCnt obs now later res s t := by
  unfold mainStep at hs
  cases hat : s.main with
  | lock =>
    rw [hat] at hs
    cases howner : s.owner with
    | none =>
      rw [howner] at hs
      obtain rfl := Option.some.inj hs
      exact .lock hat howner
    | some thread =>
      rw [howner] at hs
      cases hs
  | wait =>
    rw [hat] at hs
    obtain ⟨hflag, hs⟩ := Option.ite_none_right_eq_some.mp hs
    obtain rfl := Option.some.inj hs
    exact .wait hat hflag
  | check =>
    rw [hat] at hs
    obtain rfl := Option.some.inj hs
    exact .check hat
  | post =>
    rw [hat] at hs
    obtain rfl := Option.some.inj hs
    exact .post hat
  | load | store | reset | display | unlock | compareLoad | compare | notify | timeout | test
  | periodic =>
    rw [hat] at hs
    obtain rfl := Option.some.inj hs
    constructor
    exact hat

/-! ### Undisturbed, the steps are the functions -/

lemma handler_increments {p : UInt32} (obs : Bool) (hhandler : s.handler = .setFlag p)
    (hfree : s.owner = none) : ∃ k, (displayThreads ledCnt).run s
      (List.replicate k (.handler obs)) =
        some { s with vars := incrementPoints ledCnt p obs s.vars, handler := .idle } := by
  obtain ⟨vars, owner, main, handler⟩ := s
  obtain rfl : handler = .setFlag p := hhandler
  obtain rfl : owner = none := hfree
  have hsum : newPoints p { vars with flag := true } = newPoints p vars := rfl
  by_cases hfull : LUKE_POINTS_MAX ledCnt < (newPoints p vars).toUInt32
  · refine ⟨7, ?_⟩
    simp only [List.replicate, TransitionSystem.run, displayThreads, threadStep, handlerStep,
      Job.start, Option.bind_some, hsum, if_pos hfull, incrementPoints, storePoints]
  · refine ⟨6, ?_⟩
    simp only [List.replicate, TransitionSystem.run, displayThreads, threadStep, handlerStep,
      Job.start, Option.bind_some, hsum, if_neg hfull, incrementPoints, storePoints]

lemma handler_setsDifficulty {pdu : Pdu} (obs : Bool)
    (hhandler : s.handler = difficultyRequest pdu) :
    ∃ k, (displayThreads ledCnt).run s (List.replicate k (.handler obs)) =
      some { s with vars := (lukeDifficulty pdu obs s.vars).2, handler := .idle } := by
  obtain ⟨vars, owner, main, handler⟩ := s
  obtain rfl : handler = difficultyRequest pdu := hhandler
  unfold difficultyRequest lukeDifficulty
  cases pdu.method with
  | get => exact ⟨0, rfl⟩
  | other => exact ⟨0, rfl⟩
  | post =>
    cases scanDifficulty pdu with
    | none => exact ⟨0, rfl⟩
    | some d =>
      cases obs with
      | true => exact ⟨5, rfl⟩
      | false => exact ⟨2, rfl⟩

/-- From its lock to its unlock main decrements the points. -/
lemma main_decrements (obs : Bool) (now later : UInt32) (res : ℕ) (hmain : s.main = .lock)
    (hfree : s.owner = none) (hidle : s.handler = .idle) : (displayThreads ledCnt).run s
      (List.replicate 6 (.main obs now later res)) =
        some { s with
          vars := decrementPoints ledCnt LUKE_POINT_DROP_VALUE obs s.vars
          main := .compareLoad } := by
  obtain ⟨vars, owner, main, handler⟩ := s
  obtain rfl : main = .lock := hmain
  obtain rfl : owner = none := hfree
  obtain rfl : handler = .idle := hidle
  rfl

/-- With `main_decrements` this is `decay`. -/
lemma main_compares (obs : Bool) (now later : UInt32) (res : ℕ) (hmain : s.main = .compareLoad)
    (hidle : s.handler = .idle) : ∃ k, (displayThreads ledCnt).run s
      (List.replicate k (.main obs now later res)) =
        some { s with
          vars := if s.vars.difficulty ≠ s.vars.lastReportedDifficulty then
            notifyDifficulty obs s.vars else s.vars
          main := .timeout } := by
  obtain ⟨vars, owner, main, handler⟩ := s
  obtain rfl : main = .compareLoad := hmain
  obtain rfl : handler = .idle := hidle
  have hcompare : threadStep ledCnt ⟨vars, owner, .compare vars.difficulty, .idle⟩
      (.main obs now later res) = some ⟨vars, owner,
        if vars.difficulty ≠ vars.lastReportedDifficulty then .notify .format else .timeout,
        .idle⟩ := rfl
  dsimp only
  by_cases hchanged : vars.difficulty ≠ vars.lastReportedDifficulty
  · rw [if_pos hchanged] at hcompare ⊢
    cases obs with
    | true =>
      refine ⟨6, TransitionSystem.run_cons_some.mpr ⟨_, rfl, ?_⟩⟩
      exact TransitionSystem.run_cons_some.mpr ⟨_, hcompare, rfl⟩
    | false =>
      refine ⟨3, TransitionSystem.run_cons_some.mpr ⟨_, rfl, ?_⟩⟩
      exact TransitionSystem.run_cons_some.mpr ⟨_, hcompare, rfl⟩
  · rw [if_neg hchanged] at hcompare ⊢
    refine ⟨2, TransitionSystem.run_cons_some.mpr ⟨_, rfl, ?_⟩⟩
    exact TransitionSystem.run_cons_some.mpr ⟨_, hcompare, rfl⟩

end

end Display

end Luke

end RiotPlayground
