import RiotPlayground.Luke.DisplayThreads

/-!
# The display wakes up

Main tests the counter outside the mutex, the handler raises the flag before it changes the counter
and the interrupt raises it after.
-/

namespace RiotPlayground

open Directive

namespace Luke

namespace Display

/-- Main stands between its lock and its unlock. -/
def Main.holds : Main → Bool
  | .load => true
  | .store _ => true
  | .reset => true
  | .display => true
  | .unlock => true
  | _ => false

def Handler.holds : Handler → Bool
  | .add _ => true
  | .store _ => true
  | .count => true
  | .display => true
  | .get => true
  | .unlock => true
  | _ => false

/-- The handler has raised the flag and is still to write the points. -/
def Handler.writes : Handler → Bool
  | .lock (.increment _) => true
  | .blocked (.increment _) => true
  | .add _ => true
  | .store _ => true
  | _ => false

structure Awake (s : Threads) : Prop where
  owned : s.owner.isSome = true → s.main.holds = true ∨ s.handler.holds = true
  blocked : ∀ job, s.handler = .blocked job → s.main.holds = true
  writes : s.handler.writes = true → s.vars.flag = true
  asleep : s.main = .wait → s.vars.flag = true ∨ s.vars.points = 0

lemma awake_init : Awake .init := ⟨nofun, nofun, nofun, nofun⟩

variable {ledCnt : UInt16} {s t : Threads}

lemma flag_displayPoints (obs : Bool) (s : Vars) : (displayPoints obs s).flag = s.flag := by
  obtain ⟨lastNotified, notified, h⟩ := displayPoints_eq obs s
  rw [h]

lemma start_holds (job : Job) : job.start.holds = true := by cases job <;> rfl

/-- The points are to be written from the lock on. -/
lemma job_writes (job : Job) : (Handler.blocked job).writes = (Handler.lock job).writes ∧
    job.start.writes = (Handler.lock job).writes := by
  cases job <;> exact ⟨rfl, rfl⟩

/-- A handler that gets the mutex. -/
lemma awake_start {job : Job} (hflag : (Handler.lock job).writes = true → t.vars.flag = true)
    (hasleep : t.main = .wait → t.vars.flag = true ∨ t.vars.points = 0)
    (hstart : t.handler = job.start) : Awake t where
  owned _ := by
    rw [hstart]
    exact .inr (start_holds job)
  blocked other hblocked := by
    rw [hstart] at hblocked
    cases job <;> cases hblocked
  writes := by
    rw [hstart, (job_writes job).2]
    exact hflag
  asleep := hasleep

lemma awake_handler {obs : Bool} (h : Awake s) (hs : handlerStep ledCnt obs s = some t) :
    Awake t := by
  obtain ⟨howned, hblocked, hwrites, hasleep⟩ := h
  cases handlerMoves_of_step hs with
  | setFlag hat =>
    rw [hat] at howned
    exact ⟨howned, by simp, fun _ => rfl, fun _ => .inl rfl⟩
  | lock hat howner =>
    rw [hat] at hwrites
    exact awake_start hwrites hasleep rfl
  | @block job thread hat howner =>
    rw [hat] at howned hwrites
    have hmain : s.main.holds = true := by
      apply (howned _).resolve_right Bool.false_ne_true
      rw [howner]
      rfl
    refine ⟨fun _ => .inl hmain, fun _ _ => hmain, ?_, hasleep⟩
    dsimp only
    rw [(job_writes job).1]
    exact hwrites
  | add hat =>
    rw [hat] at hwrites
    exact ⟨fun _ => .inr rfl, by simp, hwrites, hasleep⟩
  | storeMax hat hfull =>
    rw [hat] at hwrites
    exact ⟨fun _ => .inr rfl, by simp, by simp [Handler.writes], fun _ => .inl (hwrites rfl)⟩
  | store hat hfits =>
    rw [hat] at hwrites
    exact ⟨fun _ => .inr rfl, by simp, by simp [Handler.writes], fun _ => .inl (hwrites rfl)⟩
  | count hat => exact ⟨fun _ => .inr rfl, by simp, by simp [Handler.writes], hasleep⟩
  | display hat =>
    refine ⟨fun _ => .inr rfl, by simp, by simp [Handler.writes], ?_⟩
    dsimp only
    rw [flag_displayPoints, (displayPoints_vars obs s.vars).1]
    exact hasleep
  | get hat => exact ⟨fun _ => .inr rfl, by simp, by simp [Handler.writes], hasleep⟩
  | unlock hat => exact ⟨by simp, by simp, by simp [Handler.writes], hasleep⟩
  | @notify at_ d hat =>
    rw [hat] at howned
    cases at_ with
    | format => cases obs <;> exact ⟨howned, nofun, nofun, hasleep⟩
    | load payload => exact ⟨howned, nofun, nofun, hasleep⟩
    | store payload difficulty => exact ⟨howned, nofun, nofun, hasleep⟩
    | send payload => exact ⟨howned, nofun, nofun, hasleep⟩
  | assign hat =>
    rw [hat] at howned
    exact ⟨howned, by simp, by simp [Handler.writes], hasleep⟩

lemma flag_resetVictory (s : Vars) : (resetVictory ledCnt s).flag = s.flag := by
  unfold resetVictory
  split <;> rfl

/-- Where main does not hold the mutex, it runs only if there is no request. -/
lemma Awake.idle (h : Awake s) (hmain : s.main.holds = false) (hrun : s.handler.preempts = false) :
    s.handler = .idle := by
  cases hhandler : s.handler with
  | idle => rfl
  | blocked job => exact absurd (h.blocked job hhandler) (by rw [hmain]; exact Bool.false_ne_true)
  | _ =>
    rw [hhandler] at hrun
    cases hrun

lemma awake_unlockMain (h : Awake s) : Awake (unlockMain s) := by
  have hwrites := h.writes
  unfold unlockMain
  split
  · rename_i job hhandler
    rw [hhandler, (job_writes job).1] at hwrites
    exact awake_start hwrites (by simp) rfl
  · rename_i hhandler
    exact ⟨by simp, fun job hjob => absurd hjob (hhandler job), hwrites, by simp⟩

/-- A step of main that holds the mutex, before and after. -/
lemma awake_holding (h : Awake s) (hhandler : t.handler = s.handler)
    (hflag : t.vars.flag = s.vars.flag) (hholds : t.main.holds = true) : Awake t where
  owned _ := .inl hholds
  blocked _ _ := hholds
  writes := by
    rw [hhandler, hflag]
    exact h.writes
  asleep hwait := by
    rw [hwait] at hholds
    cases hholds

/-- A step of main without the mutex, while there is no request. -/
lemma awake_free (h : Awake s) (hidle : s.handler = .idle) (hmain : s.main.holds = false)
    (howner : t.owner = s.owner) (hhandler : t.handler = s.handler)
    (hasleep : t.main = .wait → t.vars.points = 0) : Awake t where
  owned howned := by
    rw [howner] at howned
    have hholds := h.owned howned
    rw [hmain, hidle] at hholds
    rcases hholds with hholds | hholds <;> cases hholds
  blocked job hjob := by
    rw [hhandler, hidle] at hjob
    cases hjob
  writes hwrites := by
    rw [hhandler, hidle] at hwrites
    cases hwrites
  asleep hwait := .inr (hasleep hwait)

lemma awake_main {obs : Bool} {now later : UInt32} {res : ℕ} (h : Awake s)
    (hrun : s.handler.preempts = false) (hs : mainStep ledCnt obs now later res s = some t) :
    Awake t := by
  have hfree {main : Main} (hat : s.main = main) (hholds : main.holds = false) :
      s.handler = .idle ∧ s.main.holds = false := by
    rw [← hat] at hholds
    exact ⟨h.idle hholds hrun, hholds⟩
  cases mainMoves_of_step hs with
  | check hat =>
    obtain ⟨hidle, hmain⟩ := hfree hat rfl
    cases hvictory : s.vars.victory with
    | true => exact awake_free h hidle hmain rfl rfl (by simp)
    | false => exact awake_free h hidle hmain rfl rfl (by simp)
  | post hat =>
    obtain ⟨hidle, hmain⟩ := hfree hat rfl
    exact awake_free h hidle hmain rfl rfl (by simp)
  | lock hat howner => exact awake_holding h rfl rfl rfl
  | load hat => exact awake_holding h rfl rfl rfl
  | store hat => exact awake_holding h rfl rfl rfl
  | reset hat => exact awake_holding h rfl (flag_resetVictory s.vars) rfl
  | display hat => exact awake_holding h rfl (flag_displayPoints obs s.vars) rfl
  | unlock hat => exact awake_unlockMain h
  | compareLoad hat =>
    obtain ⟨hidle, hmain⟩ := hfree hat rfl
    exact awake_free h hidle hmain rfl rfl (by simp)
  | compare hat =>
    obtain ⟨hidle, hmain⟩ := hfree hat rfl
    refine awake_free h hidle hmain rfl rfl ?_
    dsimp only
    split <;> simp
  | @notify at_ hat =>
    obtain ⟨hidle, hmain⟩ := hfree hat rfl
    refine awake_free h hidle hmain rfl rfl ?_
    dsimp only
    cases (at_.step obs s.vars).1 <;> simp
  | timeout hat =>
    obtain ⟨hidle, hmain⟩ := hfree hat rfl
    exact awake_free h hidle hmain rfl rfl (by simp)
  | test hat =>
    obtain ⟨hidle, hmain⟩ := hfree hat rfl
    refine awake_free h hidle hmain rfl rfl ?_
    dsimp only
    by_cases hpoints : 0 < s.vars.points
    · simp [hpoints]
    · intro _
      exact UInt16.le_antisymm (UInt16.not_lt.mp hpoints)
        (UInt16.le_iff_toNat_le.mpr (Nat.zero_le _))
  | periodic hat =>
    obtain ⟨hidle, hmain⟩ := hfree hat rfl
    exact awake_free h hidle hmain rfl rfl (by simp)
  | wait hat hflag =>
    obtain ⟨hidle, hmain⟩ := hfree hat rfl
    exact awake_free h hidle hmain rfl rfl (by simp)

lemma awake_request {handler : Handler} (h : Awake s) (hidle : s.handler = .idle)
    (hnew : handler.holds = false ∧ handler.writes = false ∧ ∀ job, handler ≠ .blocked job) :
    Awake { s with handler := handler } := by
  have howned := h.owned
  rw [hidle] at howned
  refine ⟨fun howner => .inl ((howned howner).resolve_right Bool.false_ne_true),
    fun job hjob => absurd hjob (hnew.2.2 job), fun hwrites => ?_, h.asleep⟩
  have hfalse : handler.writes = true := hwrites
  rw [hnew.2.1] at hfalse
  cases hfalse

lemma pointsRequest_quiet (pdu : Pdu) : (pointsRequest pdu).holds = false ∧
    (pointsRequest pdu).writes = false ∧ ∀ job, pointsRequest pdu ≠ .blocked job := by
  rcases pointsRequest_cases pdu with h | h | ⟨p, h⟩
  all_goals
    rw [h]
    exact ⟨rfl, rfl, nofun⟩

lemma difficultyRequest_quiet (pdu : Pdu) : (difficultyRequest pdu).holds = false ∧
    (difficultyRequest pdu).writes = false ∧ ∀ job, difficultyRequest pdu ≠ .blocked job := by
  rcases difficultyRequest_cases pdu with h | ⟨d, h⟩
  all_goals
    rw [h]
    exact ⟨rfl, rfl, nofun⟩

lemma awake_step {e : ThreadEvent} (h : Awake s) (hs : threadStep ledCnt s e = some t) :
    Awake t := by
  cases e with
  | points pdu =>
    obtain ⟨hidle, hs⟩ := Option.ite_none_right_eq_some.mp hs
    obtain rfl := Option.some.inj hs
    exact awake_request h hidle (pointsRequest_quiet pdu)
  | difficulty pdu =>
    obtain ⟨hidle, hs⟩ := Option.ite_none_right_eq_some.mp hs
    obtain rfl := Option.some.inj hs
    exact awake_request h hidle (difficultyRequest_quiet pdu)
  | handler obs => exact awake_handler h hs
  | main obs now later res =>
    obtain ⟨hrun, hs⟩ := Option.ite_none_left_eq_some.mp hs
    exact awake_main h (Bool.eq_false_iff.mpr hrun) hs
  | button =>
    obtain rfl := Option.some.inj hs
    exact ⟨h.owned, h.blocked, fun _ => rfl, fun _ => .inl rfl⟩

lemma awake_reach {C : Threads → ThreadEvent → Prop}
    (h : (displayThreads ledCnt).Reach C .init s) : Awake s :=
  h.invariant awake_init fun _ _ _ hawake _ hs => awake_step hawake hs

/-- Main is blocked in `thread_flags_wait_any`, and no handler is in progress. -/
def Threads.Asleep (s : Threads) : Prop :=
  s.main = .wait ∧ s.vars.flag = false ∧ s.handler = .idle

def NeverSleepsOnPoints (ledCnt : UInt16) : Prop :=
  ∀ s, (displayThreads ledCnt).Reach (fun _ _ => True) .init s → s.Asleep → s.vars.points = 0

/-- No increment and no press of the button is followed by a main loop that stays asleep. -/
theorem neverSleepsOnPoints (ledCnt : UInt16) : NeverSleepsOnPoints ledCnt := by
  intro s hreach hasleep
  apply ((awake_reach hreach).asleep hasleep.1).resolve_left
  rw [hasleep.2.1]
  exact Bool.false_ne_true

end Display

end Luke

end RiotPlayground
