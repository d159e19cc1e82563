import RiotPlayground.Lib.Mutex
import RiotPlayground.Lib.TransitionSystem

/-!
# Pausing the notifications: `gcoap_cli.c`

Three threads share `locked` and `_data_gen_pauser`: `_data_gen` sends a notification each time it
gets the mutex, the shell command `pause` takes the mutex or gives it back, and a request for
`/test` gives it back too. The thread of the requests has a higher priority than the shell; the
generator is interleaved with both.
-/

namespace RiotPlayground

namespace GcoapObs

/-- The threads that lock `_data_gen_pauser`. -/
inductive Thread
  | dataGen
  | shell
  deriving DecidableEq

/-- `DATA_GEN_PRIO` is one above that of the main thread, which runs the shell. -/
def Thread.prio : Thread → ℕ
  | .dataGen => 6
  | .shell => 7

/-- What `gcoap_obs_init` returns. -/
inductive ObsInit
  | ok
  | unused
  | err

/-- Where `_data_gen` stands: it has the mutex at `init` and at `unlock`. -/
inductive DataGen
  | lock
  | blocked
  | init
  | unlock
  | sleep
  deriving DecidableEq

/-- Where `pause_gen` stands; it has tested `locked` at `lock` and at `unlock`. -/
inductive PauseGen
  | idle
  | lock
  | blocked
  | unlock
  | flip
  deriving DecidableEq

/-- Where `_handle_test` stands; it has tested `locked` at `clear`. -/
inductive HandleTest
  | idle
  | clear
  | unlock
  deriving DecidableEq

/-- `sent` are the payloads of the notifications, `printed` what `_data_gen` prints, `responses` the
payloads of the responses. -/
structure State where
  locked : Bool
  dataGenPauser : Mutex Thread
  dataGen : DataGen
  pauseGen : PauseGen
  handleTest : HandleTest
  sent : List String
  printed : List String
  responses : List String

def testPayload : String := "Test successfull"

/-- The thread that `mutex_unlock` has given the mutex to goes on. -/
def State.wake (s : State) : Option Thread → State
  | none => s
  | some .dataGen => { s with dataGen := .init }
  | some .shell => { s with pauseGen := .flip }

def State.mutexUnlock (s : State) : State :=
  { s with dataGenPauser := s.dataGenPauser.unlock.2 }.wake s.dataGenPauser.unlock.1

/-- `gcoap_obs_init` and what `_data_gen` does with its result. -/
def notify (obs : ObsInit) (s : State) : State :=
  match obs with
  | .ok =>
    { s with
      sent := s.sent ++ [testPayload]
      printed := s.printed ++ ["gcoap_cli: creating /test notification\n"] }
  | .unused => { s with printed := s.printed ++ ["gcoap_cli: no observer for /test\n"] }
  | .err =>
    { s with printed := s.printed ++ ["gcoap_cli: error initializing /test notification\n"] }

/-- One step of `_data_gen`. -/
def dataGenStep (obs : ObsInit) (s : State) : Option State :=
  match s.dataGen with
  | .lock =>
    let res := s.dataGenPauser.lock Thread.prio .dataGen
    some { s with dataGenPauser := res.2, dataGen := if res.1 then .init else .blocked }
  | .blocked => none
  | .init => some { notify obs s with dataGen := .unlock }
  | .unlock => some { s with dataGen := .sleep }.mutexUnlock
  | .sleep => some { s with dataGen := .lock }

/-- One step of `pause_gen`. -/
def pauseGenStep (s : State) : Option State :=
  match s.pauseGen with
  | .idle => some { s with pauseGen := if s.locked then .unlock else .lock }
  | .lock =>
    let res := s.dataGenPauser.lock Thread.prio .shell
    some { s with dataGenPauser := res.2, pauseGen := if res.1 then .flip else .blocked }
  | .blocked => none
  | .unlock => some { s with pauseGen := .flip }.mutexUnlock
  | .flip => some { s with locked := !s.locked, pauseGen := .idle }

/-- One step of `_handle_test`. -/
def handleTestStep (s : State) : State :=
  match s.handleTest with
  | .idle =>
    { s with
      responses := s.responses ++ [testPayload]
      handleTest := if s.locked then .clear else .idle }
  | .clear => { s with locked := false, handleTest := .unlock }
  | .unlock => { s with handleTest := .idle }.mutexUnlock

inductive Event
  | dataGen (obs : ObsInit)
  | pauseGen
  | handleTest

/-- The shell runs only when there is no request. -/
def step (s : State) : Event → Option State
  | .dataGen obs => dataGenStep obs s
  | .pauseGen => if s.handleTest = .idle then pauseGenStep s else none
  | .handleTest => some (handleTestStep s)

def system : TransitionSystem State Event := ⟨step⟩

def State.boot : State where
  locked := false
  dataGenPauser := .free
  dataGen := .lock
  pauseGen := .idle
  handleTest := .idle
  sent := []
  printed := []
  responses := []

/-- The mutex is taken, and not by the generator. -/
def State.Paused (s : State) : Prop :=
  s.dataGenPauser ≠ .free ∧ s.dataGen ≠ .init ∧ s.dataGen ≠ .unlock

/-- No command and no request is under way. -/
def State.Quiet (s : State) : Prop := s.pauseGen = .idle ∧ s.handleTest = .idle

/-- `locked` says whether the generator is paused. -/
def FlagTells (s : State) : Prop := s.Quiet → (s.locked = true ↔ s.Paused)

/-- No request finds `locked` set while `pause_gen` runs. -/
def Calm (s : State) (e : Event) : Prop :=
  e = .handleTest → s.handleTest = .idle → s.locked = true → s.pauseGen = .idle

/-- Nothing but the generator has the mutex. -/
inductive Open : Mutex Thread → DataGen → Prop
  | lock : Open .free .lock
  | sleep : Open .free .sleep
  | init : Open (.locked []) .init
  | unlock : Open (.locked []) .unlock

/-- The generator does not have the mutex, and does not get it. -/
inductive Closed : Mutex Thread → DataGen → Prop
  | lock : Closed (.locked []) .lock
  | sleep : Closed (.locked []) .sleep
  | blocked : Closed (.locked [.dataGen]) .blocked

/-- Open, or the mutex was unlocked while the generator had it. -/
inductive Ajar : Mutex Thread → DataGen → Prop
  | opened {m : Mutex Thread} {g : DataGen} : Open m g → Ajar m g
  | init : Ajar .free .init
  | unlock : Ajar .free .unlock

/-- The flag, the command and the request. -/
def State.phase (s : State) : Bool × PauseGen × HandleTest := (s.locked, s.pauseGen, s.handleTest)

variable {s t : State} {obs : ObsInit}

@[simp] lemma notify_dataGenPauser : (notify obs s).dataGenPauser = s.dataGenPauser := by
  cases obs <;> rfl

lemma notify_phase : (notify obs s).phase = s.phase := by cases obs <;> rfl

lemma Open.dataGenStep (h : Open s.dataGenPauser s.dataGen) (hs : dataGenStep obs s = some t) :
    Open t.dataGenPauser t.dataGen ∧ t.phase = s.phase := by
  obtain ⟨locked, m, g, p, r, sent, printed, responses⟩ := s
  cases h <;> obtain rfl := Option.some.inj hs
  · exact ⟨.init, rfl⟩
  · exact ⟨.lock, rfl⟩
  · exact ⟨by simpa using Open.unlock, notify_phase⟩
  · exact ⟨.sleep, rfl⟩

lemma Closed.dataGenStep (h : Closed s.dataGenPauser s.dataGen)
    (hs : dataGenStep obs s = some t) :
    Closed t.dataGenPauser t.dataGen ∧ t.phase = s.phase := by
  obtain ⟨locked, m, g, p, r, sent, printed, responses⟩ := s
  cases h
  · obtain rfl := Option.some.inj hs
    exact ⟨.blocked, rfl⟩
  · obtain rfl := Option.some.inj hs
    exact ⟨.lock, rfl⟩
  · cases hs

lemma Ajar.dataGenStep (h : Ajar s.dataGenPauser s.dataGen) (hs : dataGenStep obs s = some t) :
    Ajar t.dataGenPauser t.dataGen ∧ t.phase = s.phase := by
  obtain ⟨locked, m, g, p, r, sent, printed, responses⟩ := s
  cases h with
  | opened h => exact (h.dataGenStep hs).imp_left .opened
  | init =>
    obtain rfl := Option.some.inj hs
    exact ⟨by simpa using Ajar.unlock, notify_phase⟩
  | unlock =>
    obtain rfl := Option.some.inj hs
    exact ⟨.opened .sleep, rfl⟩

lemma Closed.mutexUnlock (h : Closed s.dataGenPauser s.dataGen) :
    Open s.mutexUnlock.dataGenPauser s.mutexUnlock.dataGen ∧ s.mutexUnlock.phase = s.phase := by
  obtain ⟨locked, m, g, p, r, sent, printed, responses⟩ := s
  cases h
  · exact ⟨.lock, rfl⟩
  · exact ⟨.sleep, rfl⟩
  · exact ⟨.init, rfl⟩

lemma Ajar.mutexUnlock (h : Ajar s.dataGenPauser s.dataGen) :
    Ajar s.mutexUnlock.dataGenPauser s.mutexUnlock.dataGen ∧ s.mutexUnlock.phase = s.phase := by
  obtain ⟨locked, m, g, p, r, sent, printed, responses⟩ := s
  cases h with
  | opened h =>
    cases h
    · exact ⟨.opened .lock, rfl⟩
    · exact ⟨.opened .sleep, rfl⟩
    · exact ⟨.init, rfl⟩
    · exact ⟨.unlock, rfl⟩
  | init => exact ⟨.init, rfl⟩
  | unlock => exact ⟨.unlock, rfl⟩

lemma Ajar.not_paused (h : Ajar s.dataGenPauser s.dataGen) : ¬ s.Paused := by
  obtain ⟨locked, m, g, p, r, sent, printed, responses⟩ := s
  rintro ⟨hfree, hinit, hunlock⟩
  cases h with
  | opened h => cases h <;> contradiction
  | init => contradiction
  | unlock => contradiction

lemma Closed.paused (h : Closed s.dataGenPauser s.dataGen) : s.Paused := by
  obtain ⟨locked, m, g, p, r, sent, printed, responses⟩ := s
  cases h <;> simp [State.Paused]

/-- The phases in which the generator may run. -/
def openPhases : List (Bool × PauseGen × HandleTest) :=
  [(false, .idle, .idle), (false, .lock, .idle), (true, .flip, .idle)]

/-- The phases in which the mutex is held for `pause`. -/
def closedPhases : List (Bool × PauseGen × HandleTest) :=
  [(true, .idle, .idle), (true, .idle, .clear), (false, .idle, .unlock), (false, .flip, .idle),
    (true, .unlock, .idle)]

/-- The states of calm runs. -/
inductive State.Sound (s : State) : Prop
  | opened (hphase : s.phase ∈ openPhases) (h : Open s.dataGenPauser s.dataGen)
  | closed (hphase : s.phase ∈ closedPhases) (h : Closed s.dataGenPauser s.dataGen)
  | waits (hphase : s.phase = (false, .blocked, .idle))
    (hm : s.dataGenPauser = .locked [.shell]) (hg : s.dataGen = .init ∨ s.dataGen = .unlock)

/-- From where a request has found `locked` set while `pause_gen` resumes the generator, up to where
`pause_gen` sets it again. -/
inductive State.Doomed (s : State) : Prop
  | closed (hphase : s.phase ∈ [(true, .unlock, .clear), (false, .unlock, .unlock)])
    (h : Closed s.dataGenPauser s.dataGen)
  | ajar (hphase : s.phase ∈
      [(false, .unlock, .idle), (true, .flip, .clear), (false, .flip, .unlock),
        (false, .flip, .idle)])
    (h : Ajar s.dataGenPauser s.dataGen)

lemma State.Sound.flagTells (h : s.Sound) : FlagTells s := by
  rintro ⟨hp, hr⟩
  cases h with
  | opened hphase h =>
    have hl : s.locked = false := by simpa [State.phase, openPhases, hp, hr] using hphase
    simp [hl, (Ajar.opened h).not_paused]
  | closed hphase h =>
    have hl : s.locked = true := by simpa [State.phase, closedPhases, hp, hr] using hphase
    simp [hl, h.paused]
  | waits hphase => simp [State.phase, hp] at hphase

lemma State.Doomed.not_quiet (h : s.Doomed) : ¬ s.Quiet := by
  rintro ⟨hp, hr⟩
  cases h with
  | closed hphase => simp [State.phase, hp] at hphase
  | ajar hphase => simp [State.phase, hp] at hphase

lemma sound_dataGen (h : s.Sound) (hs : dataGenStep obs s = some t) : t.Sound := by
  cases h with
  | opened hphase h =>
    have hst := h.dataGenStep hs
    exact .opened (hst.2 ▸ hphase) hst.1
  | closed hphase h =>
    have hst := h.dataGenStep hs
    exact .closed (hst.2 ▸ hphase) hst.1
  | waits hphase hm hg =>
    obtain ⟨locked, m, g, p, r, sent, printed, responses⟩ := s
    obtain rfl : m = .locked [.shell] := hm
    obtain rfl | rfl : g = .init ∨ g = .unlock := hg
    · obtain rfl := Option.some.inj hs
      exact .waits (notify_phase.trans hphase) (by simp) (.inr rfl)
    · obtain rfl := Option.some.inj hs
      have hphase : locked = false ∧ p = .blocked ∧ r = .idle := by
        simpa [State.phase] using hphase
      apply State.Sound.closed
      · simp [State.phase, State.mutexUnlock, State.wake, closedPhases, hphase]
      · exact .sleep

lemma sound_pauseGen (h : s.Sound) (hq : s.handleTest = .idle) (hs : pauseGenStep s = some t) :
    t.Sound := by
  obtain ⟨locked, m, g, p, r, sent, printed, responses⟩ := s
  obtain rfl : r = .idle := hq
  cases h with
  | opened hphase h =>
    simp only [State.phase, openPhases, List.mem_cons, Prod.mk.injEq, List.not_mem_nil,
      or_false, and_true] at hphase
    obtain ⟨rfl, rfl⟩ | ⟨rfl, rfl⟩ | ⟨rfl, rfl⟩ := hphase
    · obtain rfl := Option.some.inj hs
      exact .opened (by simp [State.phase, openPhases]) h
    · obtain rfl := Option.some.inj hs
      cases h
      · exact .closed (by simp [State.phase, closedPhases]) .lock
      · exact .closed (by simp [State.phase, closedPhases]) .sleep
      · exact .waits rfl rfl (.inl rfl)
      · exact .waits rfl rfl (.inr rfl)
    · obtain rfl := Option.some.inj hs
      exact .opened (by simp [State.phase, openPhases]) h
  | closed hphase h =>
    simp only [State.phase, closedPhases, List.mem_cons, Prod.mk.injEq, List.not_mem_nil,
      or_false, and_true, reduceCtorEq, and_false, false_or] at hphase
    obtain ⟨rfl, rfl⟩ | ⟨rfl, rfl⟩ | ⟨rfl, rfl⟩ := hphase
    · obtain rfl := Option.some.inj hs
      exact .closed (by simp [State.phase, closedPhases]) h
    · obtain rfl := Option.some.inj hs
      exact .closed (by simp [State.phase, closedPhases]) h
    · obtain rfl := Option.some.inj hs
      have hm := Closed.mutexUnlock
        (s := ⟨true, m, g, .flip, .idle, sent, printed, responses⟩) h
      exact .opened (hm.2 ▸ by simp [State.phase, openPhases]) hm.1
  | waits hphase =>
    simp only [State.phase, Prod.mk.injEq, and_true] at hphase
    obtain ⟨rfl, rfl⟩ := hphase
    cases hs

lemma sound_handleTest (h : s.Sound) (hC : Calm s .handleTest) : (handleTestStep s).Sound := by
  obtain ⟨locked, m, g, p, r, sent, printed, responses⟩ := s
  cases h with
  | opened hphase h =>
    simp only [State.phase, openPhases, List.mem_cons, Prod.mk.injEq, List.not_mem_nil,
      or_false] at hphase
    obtain ⟨rfl, rfl, rfl⟩ | ⟨rfl, rfl, rfl⟩ | ⟨rfl, rfl, rfl⟩ := hphase
    · exact .opened (by simp [handleTestStep, State.phase, openPhases]) h
    · exact .opened (by simp [handleTestStep, State.phase, openPhases]) h
    · cases hC rfl rfl rfl
  | closed hphase h =>
    simp only [State.phase, closedPhases, List.mem_cons, Prod.mk.injEq, List.not_mem_nil,
      or_false] at hphase
    obtain ⟨rfl, rfl, rfl⟩ | ⟨rfl, rfl, rfl⟩ | ⟨rfl, rfl, rfl⟩ | ⟨rfl, rfl, rfl⟩ |
      ⟨rfl, rfl, rfl⟩ := hphase
    · exact .closed (by simp [handleTestStep, State.phase, closedPhases]) h
    · exact .closed (by simp [handleTestStep, State.phase, closedPhases]) h
    · have hm := Closed.mutexUnlock
        (s := ⟨false, m, g, .idle, .idle, sent, printed, responses⟩) h
      exact .opened (hm.2 ▸ by simp [State.phase, openPhases]) hm.1
    · exact .closed (by simp [handleTestStep, State.phase, closedPhases]) h
    · cases hC rfl rfl rfl
  | waits hphase hm hg =>
    simp only [State.phase, Prod.mk.injEq] at hphase
    obtain ⟨rfl, rfl, rfl⟩ := hphase
    exact .waits rfl hm hg

lemma doomed_handleTest (h : s.Sound) (hC : ¬ Calm s .handleTest) :
    (handleTestStep s).Doomed := by
  obtain ⟨locked, m, g, p, r, sent, printed, responses⟩ := s
  simp only [Calm, true_imp_iff, Classical.not_imp] at hC
  obtain ⟨rfl, rfl, hp⟩ := hC
  cases h with
  | opened hphase h =>
    have hflip : p = .flip := by simpa [State.phase, openPhases] using hphase
    subst hflip
    exact .ajar (by simp [handleTestStep, State.phase]) (.opened h)
  | closed hphase h =>
    have hunlock : p = .unlock := by simpa [State.phase, closedPhases, hp] using hphase
    subst hunlock
    exact .closed (by simp [handleTestStep, State.phase]) h
  | waits hphase => simp [State.phase] at hphase

lemma doomed_dataGen (h : s.Doomed) (hs : dataGenStep obs s = some t) : t.Doomed := by
  cases h with
  | closed hphase h =>
    have hst := h.dataGenStep hs
    exact .closed (hst.2 ▸ hphase) hst.1
  | ajar hphase h =>
    have hst := h.dataGenStep hs
    exact .ajar (hst.2 ▸ hphase) hst.1

lemma doomed_pauseGen (h : s.Doomed) (hq : s.handleTest = .idle) (hs : pauseGenStep s = some t)
    (ht : FlagTells t) : t.Doomed := by
  obtain ⟨locked, m, g, p, r, sent, printed, responses⟩ := s
  obtain rfl : r = .idle := hq
  cases h with
  | closed hphase => simp [State.phase] at hphase
  | ajar hphase h =>
    simp only [State.phase, List.mem_cons, Prod.mk.injEq, List.not_mem_nil, or_false, and_true,
      reduceCtorEq, and_false, false_or] at hphase
    obtain ⟨rfl, rfl⟩ | ⟨rfl, rfl⟩ := hphase
    · obtain rfl := Option.some.inj hs
      have hm := Ajar.mutexUnlock
        (s := ⟨false, m, g, .flip, .idle, sent, printed, responses⟩) h
      exact .ajar (hm.2 ▸ by simp [State.phase]) hm.1
    · obtain rfl := Option.some.inj hs
      cases Ajar.not_paused h ((ht ⟨rfl, rfl⟩).mp rfl)

lemma doomed_request (h : s.Doomed) : (handleTestStep s).Doomed := by
  obtain ⟨locked, m, g, p, r, sent, printed, responses⟩ := s
  cases h with
  | closed hphase h =>
    simp only [State.phase, List.mem_cons, Prod.mk.injEq, List.not_mem_nil, or_false] at hphase
    obtain ⟨rfl, rfl, rfl⟩ | ⟨rfl, rfl, rfl⟩ := hphase
    · exact .closed (by simp [handleTestStep, State.phase]) h
    · have hm := Closed.mutexUnlock
        (s := ⟨false, m, g, .unlock, .idle, sent, printed, responses⟩) h
      exact .ajar (hm.2 ▸ by simp [State.phase]) (.opened hm.1)
  | ajar hphase h =>
    simp only [State.phase, List.mem_cons, Prod.mk.injEq, List.not_mem_nil, or_false] at hphase
    obtain ⟨rfl, rfl, rfl⟩ | ⟨rfl, rfl, rfl⟩ | ⟨rfl, rfl, rfl⟩ | ⟨rfl, rfl, rfl⟩ := hphase
    · exact .ajar (by simp [handleTestStep, State.phase]) h
    · exact .ajar (by simp [handleTestStep, State.phase]) h
    · have hm := Ajar.mutexUnlock
        (s := ⟨false, m, g, .flip, .idle, sent, printed, responses⟩) h
      exact .ajar (hm.2 ▸ by simp [State.phase]) hm.1
    · exact .ajar (by simp [handleTestStep, State.phase]) h

lemma pauseGen_enabled (hs : step s .pauseGen = some t) :
    s.handleTest = .idle ∧ pauseGenStep s = some t := by
  change (if s.handleTest = .idle then pauseGenStep s else none) = some t at hs
  by_cases hq : s.handleTest = .idle
  · rw [if_pos hq] at hs
    exact ⟨hq, hs⟩
  · rw [if_neg hq] at hs
    cases hs

lemma sound_step (s : State) (e : Event) (t : State) (h : s.Sound) (hC : Calm s e)
    (hs : step s e = some t) : t.Sound := by
  cases e with
  | dataGen obs => exact sound_dataGen h hs
  | pauseGen =>
    have hp := pauseGen_enabled hs
    exact sound_pauseGen h hp.1 hp.2
  | handleTest =>
    obtain rfl := Option.some.inj hs
    exact sound_handleTest h hC

lemma doomed_of_not_calm (s : State) (e : Event) (t : State) (h : s.Sound) (hC : ¬ Calm s e)
    (hs : step s e = some t) : t.Doomed := by
  cases e with
  | dataGen obs => exact (hC fun he => by cases he).elim
  | pauseGen => exact (hC fun he => by cases he).elim
  | handleTest =>
    obtain rfl := Option.some.inj hs
    exact doomed_handleTest h hC

lemma doomed_step (s : State) (e : Event) (t : State) (h : s.Doomed) (hs : step s e = some t)
    (ht : FlagTells t) : t.Doomed := by
  cases e with
  | dataGen obs => exact doomed_dataGen h hs
  | pauseGen =>
    have hp := pauseGen_enabled hs
    exact doomed_pauseGen h hp.1 hp.2 ht
  | handleTest =>
    obtain rfl := Option.some.inj hs
    exact doomed_request h

lemma boot_sound : State.boot.Sound := .opened (by simp [State.phase, State.boot, openPhases]) .lock

/-- Along a run that ends with no command and no request under way, `locked` says all the time
whether the generator is paused exactly when no request found `locked` set during a command. -/
theorem flagTells_iff_calm {es : List Event} {t : State} (h : system.run .boot es = some t)
    (ht : t.Quiet) : system.Holds FlagTells .boot es ↔ system.Meets Calm .boot es :=
  TransitionSystem.holds_iff_meets_of_doomed (fun _ => State.Sound.flagTells) sound_step
    doomed_of_not_calm doomed_step boot_sound h fun hd => hd.not_quiet ht

/-- A pause, and a request that ends it. -/
def pauseThenGet : List Event :=
  [.dataGen .ok, .dataGen .ok, .dataGen .ok, .pauseGen, .pauseGen, .pauseGen, .dataGen .ok,
    .dataGen .ok, .handleTest, .handleTest, .handleTest, .dataGen .unused]

theorem flagTells_pauseThenGet : ∃ t, system.run .boot pauseThenGet = some t ∧
    (system.Holds FlagTells .boot pauseThenGet ↔ system.Meets Calm .boot pauseThenGet) :=
  ⟨_, rfl, flagTells_iff_calm rfl ⟨rfl, rfl⟩⟩

/-- A request that comes while `pause_gen` resumes the generator leaves `locked` set. -/
def getWithinResume : List Event :=
  [.pauseGen, .pauseGen, .pauseGen, .pauseGen, .pauseGen, .handleTest, .handleTest, .handleTest,
    .pauseGen]

example : (system.run .boot getWithinResume).map (fun t => (t.locked, t.dataGenPauser)) =
    some (true, .free) := rfl

end GcoapObs

end RiotPlayground
