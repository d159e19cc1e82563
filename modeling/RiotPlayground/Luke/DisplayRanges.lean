import RiotPlayground.Luke.Wakeup

/-!
# The ranges of the display

The counter and the difficulty are written by main, by the handlers and by the button interrupt,
which does not take the mutex. `_decrement_points` reads the counter twice: main compares it in one
step here and subtracts in another.
-/

namespace RiotPlayground

namespace Luke

namespace Display

/-- `compared`: main has found `_points` not below what it drops, and is to read it again. -/
structure Split where
  threads : Threads
  compared : Bool

def Split.init : Split := ⟨.init, false⟩

section

variable (ledCnt : UInt16)

/-- The second half of `_points = ((unsigned)p > _points) ? 0U : (uint8_t)(_points - p)`. -/
def subtracted (s : Vars) : UInt16 := (s.points.toUInt32 - LUKE_POINT_DROP_VALUE).toUInt8.toUInt16

/-- Main with the mutex locked. -/
def loadStep (s : Split) : Split :=
  if s.compared then
    ⟨{ s.threads with main := .store (subtracted s.threads.vars) }, false⟩
  else if s.threads.vars.points.toUInt32 < LUKE_POINT_DROP_VALUE then
    ⟨{ s.threads with main := .store 0 }, false⟩
  else ⟨s.threads, true⟩

def ThreadEvent.isMain : ThreadEvent → Bool
  | .main .. => true
  | _ => false

def splitStep (s : Split) (e : ThreadEvent) : Option Split :=
  if e.isMain ∧ s.threads.main = .load then
    if s.threads.handler.preempts then none else some (loadStep s)
  else (threadStep ledCnt s.threads e).map fun t => ⟨t, s.compared⟩

def displaySplit : TransitionSystem Split ThreadEvent := ⟨splitStep ledCnt⟩

end

variable {ledCnt : UInt16} {s t : Threads} {compared : Bool}

/-- With nothing in between, the steps are the one of `mainStep`. -/
lemma load_undisturbed (obs : Bool) (now later : UInt32) (res : ℕ) (hmain : s.main = .load)
    (hrun : s.handler.preempts = false) : ∃ k, (displaySplit ledCnt).run ⟨s, false⟩
      (List.replicate k (.main obs now later res)) =
        (threadStep ledCnt s (.main obs now later res)).map fun t => ⟨t, false⟩ := by
  have hone : threadStep ledCnt s (.main obs now later res) =
      some { s with main := .store (droppedPoints LUKE_POINT_DROP_VALUE s.vars) } := by
    unfold threadStep mainStep
    rw [hrun, hmain]
    rfl
  have hsplit (c : Bool) :
      (displaySplit ledCnt).step ⟨s, c⟩ (.main obs now later res) = some (loadStep ⟨s, c⟩) := by
    unfold displaySplit splitStep
    dsimp only
    rw [if_pos ⟨rfl, hmain⟩, hrun]
    rfl
  rw [hone]
  unfold droppedPoints
  by_cases hless : s.vars.points.toUInt32 < LUKE_POINT_DROP_VALUE
  · refine ⟨1, ?_⟩
    rw [if_pos hless]
    refine TransitionSystem.run_cons_some.mpr ⟨_, hsplit false, ?_⟩
    unfold loadStep
    simp only [Bool.false_eq_true, if_false, if_pos hless]
    rfl
  · refine ⟨2, ?_⟩
    rw [if_neg hless]
    refine TransitionSystem.run_cons_some.mpr ⟨⟨s, true⟩, ?_, ?_⟩
    · rw [hsplit]
      unfold loadStep
      simp only [Bool.false_eq_true, if_false, if_neg hless]
    · exact TransitionSystem.run_cons_some.mpr ⟨_, hsplit true, rfl⟩

/-- From 1 to `LUKE_DIFFICULTY_MAX`. -/
def InDifficulty (d : UInt8) : Prop := 1 ≤ d.toNat ∧ d.toNat ≤ LUKE_DIFFICULTY_MAX.toNat

/-- 100 ms to 1 s. -/
def InTimeout (timeout : UInt32) : Prop := 100000 ≤ timeout.toNat ∧ timeout.toNat ≤ 1000000

/-- The difficulty a handler is to assign. -/
def Handler.assigns : Handler → Option UInt8
  | .notify _ d => some d
  | .assign d => some d
  | _ => none

/-- The points main is to store. -/
def Main.stores : Main → Option UInt16
  | .store points => some points
  | _ => none

/-- The timeout main has computed. -/
def Main.sleeps : Main → Option UInt32
  | .test us => some us
  | .periodic us => some us
  | _ => none

structure Ranged (ledCnt : UInt16) (s : Split) : Prop where
  points : s.threads.vars.points.toNat ≤ ledCnt.toNat
  difficulty : InDifficulty s.threads.vars.difficulty
  assigns : ∀ d ∈ s.threads.handler.assigns, InDifficulty d
  stores : ∀ points ∈ s.threads.main.stores, points.toNat ≤ ledCnt.toNat
  sleeps : ∀ timeout ∈ s.threads.main.sleeps, InTimeout timeout
  main : s.threads.main.holds = true → s.threads.owner = some .main
  handler : s.threads.handler.holds = true → s.threads.owner = some .handler
  compared : s.compared = true → s.threads.main = .load ∧ 2 ≤ s.threads.vars.points.toNat

lemma imp_of_false {b : Bool} {p : Prop} (hb : b = false) : b = true → p :=
  fun h => absurd (hb.symm.trans h) Bool.false_ne_true

lemma not_mem_none {α : Type*} {o : Option α} {p : α → Prop} (ho : o = none) : ∀ a ∈ o, p a := by
  rw [ho]
  intro a ha
  cases ha

lemma ranged_init (h : 64 ≤ ledCnt.toNat) : Ranged ledCnt .init where
  points := h
  difficulty := ⟨by decide, by decide⟩
  assigns := not_mem_none rfl
  stores := not_mem_none rfl
  sleeps := not_mem_none rfl
  main := imp_of_false rfl
  handler := imp_of_false rfl
  compared := imp_of_false rfl

/-- The handler and main do not hold the mutex at the same time. -/
lemma Ranged.not_holds (h : Ranged ledCnt ⟨s, compared⟩) (hhandler : s.handler.holds = true) :
    s.main.holds = false ∧ compared = false := by
  have hmain : s.main.holds = false := by
    apply Bool.eq_false_iff.mpr
    intro hmain
    have howner := (h.main hmain).symm.trans (h.handler hhandler)
    cases howner
  refine ⟨hmain, Bool.eq_false_iff.mpr fun hcompared => ?_⟩
  have hload : s.main = .load := (h.compared hcompared).1
  rw [hload] at hmain
  cases hmain

lemma start_assigns (job : Job) : job.start.assigns = none := by cases job <;> rfl

lemma displayPoints_difficulty (obs : Bool) (s : Vars) :
    (displayPoints obs s).difficulty = s.difficulty := by
  obtain ⟨lastNotified, notified, h⟩ := displayPoints_eq obs s
  rw [h]

lemma resetVictory_vars (s : Vars) : (resetVictory ledCnt s).points = s.points ∧
    (resetVictory ledCnt s).difficulty = s.difficulty := by
  unfold resetVictory
  split <;> exact ⟨rfl, rfl⟩

lemma notifyStep_vars (obs : Bool) (s : Vars) (at_ : Notify) :
    (at_.step obs s).2.points = s.points ∧ (at_.step obs s).2.difficulty = s.difficulty := by
  cases at_ with
  | format => cases obs <;> exact ⟨rfl, rfl⟩
  | load | store | send => exact ⟨rfl, rfl⟩

/-- What a step of the handler does to the counter, the difficulty and the mutex. -/
structure HandlerDid (ledCnt : UInt16) (s t : Threads) : Prop where
  main : t.main = s.main
  points : t.vars.points = s.vars.points ∨
    s.handler.holds = true ∧ t.vars.points.toNat ≤ ledCnt.toNat
  difficulty : t.vars.difficulty = s.vars.difficulty ∨
    s.handler.assigns = some t.vars.difficulty
  assigns : t.handler.assigns = none ∨ t.handler.assigns = s.handler.assigns
  owner : t.owner = s.owner ∧ (t.handler.holds = true → s.handler.holds = true) ∨
    s.owner = none ∧ t.owner = some .handler ∨ s.handler.holds = true ∧ t.handler.holds = false

/-- Steps that leave the counter, the difficulty and the mutex alone. -/
lemma handlerDid_still (hmain : t.main = s.main) (howner : t.owner = s.owner)
    (hpoints : t.vars.points = s.vars.points) (hdifficulty : t.vars.difficulty = s.vars.difficulty)
    (hassigns : t.handler.assigns = none)
    (hholds : t.handler.holds = true → s.handler.holds = true) : HandlerDid ledCnt s t :=
  ⟨hmain, .inl hpoints, .inl hdifficulty, .inl hassigns, .inl ⟨howner, hholds⟩⟩

/-- What a handler that stores the points writes is in range. -/
lemma handlerDid_store {points : UInt16} (hholds : s.handler.holds = true)
    (hpoints : points.toNat ≤ ledCnt.toNat) (hmain : t.main = s.main) (howner : t.owner = s.owner)
    (hwritten : t.vars.points = points) (hdifficulty : t.vars.difficulty = s.vars.difficulty)
    (hassigns : t.handler.assigns = none) : HandlerDid ledCnt s t :=
  ⟨hmain, .inr ⟨hholds, hwritten ▸ hpoints⟩, .inl hdifficulty, .inl hassigns,
    .inl ⟨howner, fun _ => hholds⟩⟩

lemma handlerDid_notify (obs : Bool) {at_ : Notify} {d : UInt8}
    (hat : s.handler = .notify at_ d) :
    HandlerDid ledCnt s { s with
      vars := (at_.step obs s.vars).2
      handler := (at_.step obs s.vars).1.elim (.assign d) (.notify · d) } := by
  have hvars := notifyStep_vars obs s.vars at_
  have hnext : ((at_.step obs s.vars).1.elim (.assign d) (.notify · d) : Handler).assigns =
      some d ∧
      ((at_.step obs s.vars).1.elim (.assign d) (.notify · d) : Handler).holds = false := by
    cases (at_.step obs s.vars).1 <;> exact ⟨rfl, rfl⟩
  refine ⟨rfl, .inl hvars.1, .inl hvars.2, .inr ?_, .inl ⟨rfl, fun hholds => ?_⟩⟩
  · rw [hat]
    exact hnext.1
  · exact absurd (hnext.2.symm.trans hholds) Bool.false_ne_true

lemma handlerDid {obs : Bool} (hs : handlerStep ledCnt obs s = some t) :
    HandlerDid ledCnt s t := by
  have hholds {handler : Handler} (hat : s.handler = handler) (h : handler.holds = true) :
      s.handler.holds = true := by
    rw [hat]
    exact h
  cases handlerMoves_of_step hs with
  | setFlag hat => exact handlerDid_still rfl rfl rfl rfl rfl (imp_of_false rfl)
  | @lock job hat howner =>
    exact ⟨rfl, .inl rfl, .inl rfl, .inl (start_assigns job), .inr (.inl ⟨howner, rfl⟩)⟩
  | block hat howner => exact handlerDid_still rfl rfl rfl rfl rfl (imp_of_false rfl)
  | add hat => exact handlerDid_still rfl rfl rfl rfl rfl fun _ => hholds hat rfl
  | storeMax hat hfull =>
    have hle : (LUKE_POINTS_MAX ledCnt).toUInt16.toNat ≤ ledCnt.toNat := by
      rw [points_max_eq, UInt16.toUInt16_toUInt32]
    exact handlerDid_store (hholds hat rfl) hle rfl rfl rfl rfl rfl
  | store hat hfits =>
    rw [points_max_eq, UInt16.toUInt32_lt, UInt16.not_lt] at hfits
    have hle := UInt16.le_iff_toNat_le.mp hfits
    exact handlerDid_store (hholds hat rfl) hle rfl rfl rfl rfl rfl
  | count hat => exact handlerDid_still rfl rfl rfl rfl rfl fun _ => hholds hat rfl
  | display hat =>
    exact handlerDid_still rfl rfl (displayPoints_vars obs s.vars).1
      (displayPoints_difficulty obs s.vars) rfl fun _ => hholds hat rfl
  | get hat => exact handlerDid_still rfl rfl rfl rfl rfl fun _ => hholds hat rfl
  | unlock hat =>
    exact ⟨rfl, .inl rfl, .inl rfl, .inl rfl, .inr (.inr ⟨hholds hat rfl, rfl⟩)⟩
  | notify hat => exact handlerDid_notify obs hat
  | assign hat =>
    refine ⟨rfl, .inl rfl, .inr ?_, .inl rfl, .inl ⟨rfl, imp_of_false rfl⟩⟩
    rw [hat]
    rfl

/-- What a step of main does, other than that from `load`. -/
structure MainDid (s t : Threads) : Prop where
  points : t.vars.points = s.vars.points ∨ s.main.stores = some t.vars.points
  difficulty : t.vars.difficulty = s.vars.difficulty
  assigns : t.handler.assigns = none ∨ t.handler.assigns = s.handler.assigns
  stores : t.main.stores = none
  sleeps : t.main.sleeps = none ∨ t.main.sleeps = s.main.sleeps ∨
    t.main.sleeps = some (timeout s.vars)
  owner : t.owner = s.owner ∧ t.handler = s.handler ∧
      (t.main.holds = true → s.main.holds = true) ∨
    s.owner = none ∧ t.owner = some .main ∧ t.handler = s.handler ∨
    s.main.holds = true ∧ t.main.holds = false ∧ (t.handler = s.handler ∨ t.owner = some .handler)

lemma mainDid_unlock (hholds : s.main.holds = true) : MainDid s (unlockMain s) := by
  unfold unlockMain
  split
  · rename_i job _
    exact ⟨.inl rfl, rfl, .inl (start_assigns job), rfl, .inl rfl,
      .inr (.inr ⟨hholds, rfl, .inr rfl⟩)⟩
  · exact ⟨.inl rfl, rfl, .inr rfl, rfl, .inl rfl, .inr (.inr ⟨hholds, rfl, .inl rfl⟩)⟩

/-- Steps of main without the mutex. -/
lemma mainDid_free (howner : t.owner = s.owner) (hhandler : t.handler = s.handler)
    (hpoints : t.vars.points = s.vars.points) (hdifficulty : t.vars.difficulty = s.vars.difficulty)
    (hstores : t.main.stores = none)
    (hsleeps : t.main.sleeps = none ∨ t.main.sleeps = s.main.sleeps ∨
      t.main.sleeps = some (timeout s.vars))
    (hfree : t.main.holds = false) : MainDid s t :=
  ⟨.inl hpoints, hdifficulty, .inr (by rw [hhandler]), hstores, hsleeps,
    .inl ⟨howner, hhandler, imp_of_false hfree⟩⟩

/-- Steps of main that keep the mutex and the counter. -/
lemma mainDid_holding (howner : t.owner = s.owner) (hhandler : t.handler = s.handler)
    (hpoints : t.vars.points = s.vars.points) (hdifficulty : t.vars.difficulty = s.vars.difficulty)
    (hstores : t.main.stores = none) (hsleeps : t.main.sleeps = none)
    (hholds : s.main.holds = true) : MainDid s t :=
  ⟨.inl hpoints, hdifficulty, .inr (by rw [hhandler]), hstores, .inl hsleeps,
    .inl ⟨howner, hhandler, fun _ => hholds⟩⟩

lemma mainDid {obs : Bool} {now later : UInt32} {res : ℕ} (hload : s.main ≠ .load)
    (hs : mainStep ledCnt obs now later res s = some t) : MainDid s t := by
  have hholds {main : Main} (hat : s.main = main) (h : main.holds = true) :
      s.main.holds = true := by
    rw [hat]
    exact h
  cases mainMoves_of_step hs with
  | check hat =>
    cases hvictory : s.vars.victory with
    | true => exact mainDid_free rfl rfl rfl rfl rfl (.inl rfl) rfl
    | false => exact mainDid_free rfl rfl rfl rfl rfl (.inl rfl) rfl
  | post hat => exact mainDid_free rfl rfl rfl rfl rfl (.inl rfl) rfl
  | lock hat howner =>
    exact ⟨.inl rfl, rfl, .inr rfl, rfl, .inl rfl, .inr (.inl ⟨howner, rfl, rfl⟩)⟩
  | load hat => exact absurd hat hload
  | store hat =>
    refine ⟨.inr ?_, rfl, .inr rfl, rfl, .inl rfl, .inl ⟨rfl, rfl, fun _ => hholds hat rfl⟩⟩
    rw [hat]
    rfl
  | reset hat =>
    exact mainDid_holding rfl rfl (resetVictory_vars s.vars).1 (resetVictory_vars s.vars).2 rfl rfl
      (hholds hat rfl)
  | display hat =>
    exact mainDid_holding rfl rfl (displayPoints_vars obs s.vars).1
      (displayPoints_difficulty obs s.vars) rfl rfl (hholds hat rfl)
  | unlock hat => exact mainDid_unlock (hholds hat rfl)
  | compareLoad hat => exact mainDid_free rfl rfl rfl rfl rfl (.inl rfl) rfl
  | compare hat =>
    split
    · exact mainDid_free rfl rfl rfl rfl rfl (.inl rfl) rfl
    · exact mainDid_free rfl rfl rfl rfl rfl (.inl rfl) rfl
  | @notify at_ hat =>
    have hvars := notifyStep_vars obs s.vars at_
    cases (at_.step obs s.vars).1 with
    | none => exact mainDid_free rfl rfl hvars.1 hvars.2 rfl (.inl rfl) rfl
    | some next => exact mainDid_free rfl rfl hvars.1 hvars.2 rfl (.inl rfl) rfl
  | timeout hat => exact mainDid_free rfl rfl rfl rfl rfl (.inr (.inr rfl)) rfl
  | test hat =>
    split
    · refine mainDid_free rfl rfl rfl rfl rfl (.inr (.inl ?_)) rfl
      rw [hat]
      rfl
    · exact mainDid_free rfl rfl rfl rfl rfl (.inl rfl) rfl
  | periodic hat => exact mainDid_free rfl rfl rfl rfl rfl (.inl rfl) rfl
  | wait hat hflag => exact mainDid_free rfl rfl rfl rfl rfl (.inl rfl) rfl

lemma ranged_handler {obs : Bool} (h : Ranged ledCnt ⟨s, compared⟩)
    (hs : handlerStep ledCnt obs s = some t) : Ranged ledCnt ⟨t, compared⟩ := by
  have hdid := handlerDid hs
  refine ⟨?_, ?_, ?_, ?_, ?_, ?_, ?_, ?_⟩
  · rcases hdid.points with hpoints | hpoints
    · exact hpoints ▸ h.points
    · exact hpoints.2
  · rcases hdid.difficulty with hdifficulty | hassigns
    · exact hdifficulty ▸ h.difficulty
    · exact h.assigns _ hassigns
  · intro d hd
    rcases hdid.assigns with hassigns | hassigns
    · exact not_mem_none hassigns d hd
    · exact h.assigns d (hassigns.symm.trans hd)
  · exact hdid.main ▸ h.stores
  · exact hdid.main ▸ h.sleeps
  · intro hholds
    have howner := h.main (hdid.main ▸ hholds)
    rcases hdid.owner with hsame | hlock | hunlock
    · exact hsame.1.trans howner
    · exact absurd (hlock.1.symm.trans howner) (by simp)
    · exact absurd (howner.symm.trans (h.handler hunlock.1)) (by simp)
  · intro hholds
    rcases hdid.owner with hsame | hlock | hunlock
    · exact hsame.1.trans (h.handler (hsame.2 hholds))
    · exact hlock.2
    · exact imp_of_false hunlock.2 hholds
  · intro hcompared
    have hold := h.compared hcompared
    refine ⟨hdid.main.trans hold.1, ?_⟩
    rcases hdid.points with hpoints | hpoints
    · exact hpoints ▸ hold.2
    · exact imp_of_false (h.not_holds hpoints.1).2 hcompared

lemma toNat_timeout {s : Vars} (h : InDifficulty s.difficulty) :
    (timeout s).toNat = 1000000 - 1000000 * (s.difficulty.toNat - 1) / 10 := by
  obtain ⟨hpos, hle⟩ := h
  have hmax : LUKE_DIFFICULTY_MAX.toNat = 10 := rfl
  have hless : (s.difficulty.toUInt32 - 1).toNat = s.difficulty.toNat - 1 := by
    apply UInt32.toNat_sub_of_le
    rw [UInt32.le_iff_toNat_le, UInt8.toNat_toUInt32]
    exact hpos
  have hfits : 1000000 * (s.difficulty.toNat - 1) % 2 ^ 32 = 1000000 * (s.difficulty.toNat - 1) :=
    Nat.mod_eq_of_lt (by omega)
  unfold timeout
  rw [UInt32.toNat_sub, UInt32.toNat_div, UInt32.toNat_mul, hless,
    show LUKE_POINT_DROP_TIMEOUT_MAX.toNat = 1000000 from rfl,
    show LUKE_DIFFICULTY_MAX.toUInt32.toNat = 10 from rfl, hfits]
  omega

lemma inTimeout_timeout {s : Vars} (h : InDifficulty s.difficulty) : InTimeout (timeout s) := by
  have hmax : LUKE_DIFFICULTY_MAX.toNat = 10 := rfl
  have hle := h.2
  unfold InTimeout
  rw [toNat_timeout h]
  omega

lemma ranged_main {obs : Bool} {now later : UInt32} {res : ℕ} (h : Ranged ledCnt ⟨s, compared⟩)
    (hload : s.main ≠ .load) (hs : mainStep ledCnt obs now later res s = some t) :
    Ranged ledCnt ⟨t, compared⟩ := by
  have hdid := mainDid hload hs
  refine ⟨?_, ?_, ?_, ?_, ?_, ?_, ?_, ?_⟩
  · rcases hdid.points with hpoints | hstores
    · exact hpoints ▸ h.points
    · exact h.stores _ hstores
  · exact hdid.difficulty ▸ h.difficulty
  · intro d hd
    rcases hdid.assigns with hassigns | hassigns
    · exact not_mem_none hassigns d hd
    · exact h.assigns d (hassigns.symm.trans hd)
  · exact not_mem_none hdid.stores
  · intro us hus
    rcases hdid.sleeps with hsleeps | hsleeps | hsleeps
    · exact not_mem_none hsleeps us hus
    · exact h.sleeps us (hsleeps.symm.trans hus)
    · obtain rfl := Option.some.inj (hsleeps.symm.trans hus)
      exact inTimeout_timeout h.difficulty
  · intro hholds
    rcases hdid.owner with hsame | hlock | hunlock
    · exact hsame.1.trans (h.main (hsame.2.2 hholds))
    · exact hlock.2.1
    · exact imp_of_false hunlock.2.1 hholds
  · intro hholds
    rcases hdid.owner with hsame | hlock | hunlock
    · exact hsame.1.trans (h.handler (hsame.2.1 ▸ hholds))
    · have howner := h.handler (hlock.2.2 ▸ hholds)
      exact absurd (hlock.1.symm.trans howner) (by simp)
    · rcases hunlock.2.2 with hsame | howner
      · have howner := h.handler (hsame ▸ hholds)
        exact absurd (howner.symm.trans (h.main hunlock.1)) (by simp)
      · exact howner
  · intro hcompared
    exact absurd (h.compared hcompared).1 hload

lemma toNat_subtracted {s : Vars} (h : 2 ≤ s.points.toNat) :
    (subtracted s).toNat ≤ s.points.toNat := by
  unfold subtracted
  rw [UInt8.toNat_toUInt16, UInt32.toNat_toUInt8, UInt32.toNat_sub_of_le]
  · rw [UInt16.toNat_toUInt32]
    exact Nat.le_trans (Nat.mod_le _ _) (Nat.sub_le _ _)
  · rw [UInt32.le_iff_toNat_le, UInt16.toNat_toUInt32]
    exact h

/-- The interrupt may change the counter between the comparison and the subtraction, but not to less
than what is subtracted. -/
lemma ranged_load (h : Ranged ledCnt ⟨s, compared⟩) (hload : s.main = .load) :
    Ranged ledCnt (loadStep ⟨s, compared⟩) := by
  have howner := h.main (by rw [hload]; rfl)
  unfold loadStep
  dsimp only
  split
  · rename_i hcompared
    have htwo := (h.compared hcompared).2
    refine ⟨h.points, h.difficulty, h.assigns, ?_, not_mem_none rfl, fun _ => howner,
      h.handler, imp_of_false rfl⟩
    intro points hpoints
    obtain rfl := Option.some.inj hpoints
    exact Nat.le_trans (toNat_subtracted htwo) h.points
  · split
    · refine ⟨h.points, h.difficulty, h.assigns, ?_, not_mem_none rfl, fun _ => howner,
        h.handler, imp_of_false rfl⟩
      intro points hpoints
      obtain rfl := Option.some.inj hpoints
      exact Nat.zero_le _
    · rename_i hge
      refine ⟨h.points, h.difficulty, h.assigns, h.stores, h.sleeps, h.main, h.handler, ?_⟩
      intro _
      rw [UInt32.not_lt, UInt32.le_iff_toNat_le, UInt16.toNat_toUInt32] at hge
      exact ⟨hload, hge⟩

lemma inDifficulty_next (d : UInt8) : InDifficulty (nextDifficulty d) := by
  have hmax : LUKE_DIFFICULTY_MAX.toNat = 10 := rfl
  unfold nextDifficulty
  split
  · exact ⟨by decide, by decide⟩
  · rename_i hless
    rw [UInt8.not_le, UInt8.lt_iff_toNat_lt, hmax] at hless
    have hnext : (d + 1).toNat = d.toNat + 1 :=
      (UInt8.toNat_add d 1).trans (Nat.mod_eq_of_lt (Nat.lt_of_le_of_lt hless (by decide)))
    unfold InDifficulty
    rw [hnext, hmax]
    omega

lemma inDifficulty_clamp (d : UInt32) : InDifficulty (clampDifficulty d) := by
  have hmax : LUKE_DIFFICULTY_MAX.toNat = 10 := rfl
  unfold clampDifficulty
  split
  · exact ⟨by decide, by decide⟩
  · rename_i hzero
    have hpos : 0 < d.toNat := Nat.pos_of_ne_zero fun h => hzero (UInt32.toNat_inj.mp h)
    split
    · exact ⟨by decide, by decide⟩
    · rename_i hle
      rw [UInt32.not_lt, UInt32.le_iff_toNat_le, show (10 : UInt32).toNat = 10 from rfl] at hle
      unfold InDifficulty
      rw [UInt32.toNat_toUInt8, hmax]
      omega

lemma ranged_button (hled : 64 ≤ ledCnt.toNat) (h : Ranged ledCnt ⟨s, compared⟩) :
    Ranged ledCnt ⟨{ s with vars := incrDifficulty ledCnt s.vars }, compared⟩ := by
  have hnext := inDifficulty_next s.vars.difficulty
  have hpoints : (incrDifficulty ledCnt s.vars).points.toNat =
      (nextDifficulty s.vars.difficulty).toNat * ledCnt.toNat / 10 :=
    toNat_difficultyPoints hnext.2
  have hlow := Nat.mul_le_mul_right ledCnt.toNat hnext.1
  have hhigh : (nextDifficulty s.vars.difficulty).toNat * ledCnt.toNat ≤ 10 * ledCnt.toNat :=
    Nat.mul_le_mul_right _ hnext.2
  refine ⟨?_, hnext, h.assigns, h.stores, h.sleeps, h.main, h.handler, fun hcompared => ?_⟩
  · dsimp only
    omega
  · refine ⟨(h.compared hcompared).1, ?_⟩
    dsimp only
    omega

lemma ranged_request {handler : Handler} (h : Ranged ledCnt ⟨s, compared⟩)
    (hassigns : ∀ d ∈ handler.assigns, InDifficulty d) (hholds : handler.holds = false) :
    Ranged ledCnt ⟨{ s with handler := handler }, compared⟩ :=
  ⟨h.points, h.difficulty, hassigns, h.stores, h.sleeps, h.main,
    imp_of_false hholds, h.compared⟩

lemma pointsRequest_assigns (pdu : Pdu) : (pointsRequest pdu).assigns = none := by
  rcases pointsRequest_cases pdu with h | h | ⟨p, h⟩
  all_goals
    rw [h]
    rfl

lemma difficultyRequest_assigns (pdu : Pdu) :
    ∀ d ∈ (difficultyRequest pdu).assigns, InDifficulty d := by
  intro d hd
  unfold difficultyRequest at hd
  split at hd
  · split at hd
    · cases hd
    · obtain rfl := Option.some.inj hd
      exact inDifficulty_clamp _
  · cases hd

lemma ranged_thread {e : ThreadEvent} (hled : 64 ≤ ledCnt.toNat)
    (h : Ranged ledCnt ⟨s, compared⟩) (hload : e.isMain = true → s.main ≠ .load)
    (hs : threadStep ledCnt s e = some t) : Ranged ledCnt ⟨t, compared⟩ := by
  cases e with
  | points pdu =>
    obtain ⟨-, hs⟩ := Option.ite_none_right_eq_some.mp hs
    obtain rfl := Option.some.inj hs
    exact ranged_request h (not_mem_none (pointsRequest_assigns pdu)) (pointsRequest_quiet pdu).1
  | difficulty pdu =>
    obtain ⟨-, hs⟩ := Option.ite_none_right_eq_some.mp hs
    obtain rfl := Option.some.inj hs
    exact ranged_request h (difficultyRequest_assigns pdu) (difficultyRequest_quiet pdu).1
  | handler obs => exact ranged_handler h hs
  | main obs now later res =>
    obtain ⟨-, hs⟩ := Option.ite_none_left_eq_some.mp hs
    exact ranged_main h (hload rfl) hs
  | button =>
    obtain rfl := Option.some.inj hs
    exact ranged_button hled h

lemma ranged_step {e : ThreadEvent} {s t : Split} (hled : 64 ≤ ledCnt.toNat) (h : Ranged ledCnt s)
    (hs : splitStep ledCnt s e = some t) : Ranged ledCnt t := by
  unfold splitStep at hs
  split at hs
  · rename_i hat
    obtain ⟨-, hs⟩ := Option.ite_none_left_eq_some.mp hs
    obtain rfl := Option.some.inj hs
    exact ranged_load h hat.2
  · rename_i hat
    obtain ⟨u, hu, rfl⟩ := Option.map_eq_some_iff.mp hs
    exact ranged_thread hled h (fun hmain hload => hat ⟨hmain, hload⟩) hu

/-- The counter, the index that `_display_points` writes at, the difficulty, and the timeouts that
are and would be computed. -/
structure InRanges (ledCnt : UInt16) (s : Threads) : Prop where
  points : s.vars.points.toNat ≤ ledCnt.toNat
  leds : ∀ i < s.vars.points.toNat / LUKE_POINTS_PER_LED.toNat, i < ledCnt.toNat
  difficulty : InDifficulty s.vars.difficulty
  timeout : (timeout s.vars).toNat = 1000000 - 1000000 * (s.vars.difficulty.toNat - 1) / 10
  inTimeout : InTimeout (Display.timeout s.vars)
  sleeps : ∀ us ∈ s.main.sleeps, InTimeout us

def NeverLeavesRanges (ledCnt : UInt16) : Prop :=
  ∀ s, (displaySplit ledCnt).Reach (fun _ _ => True) .init s → InRanges ledCnt s.threads

/-- With at least the LEDs that the counter starts with, nothing leaves its range. -/
theorem neverLeavesRanges (ledCnt : UInt16) (hled : 64 ≤ ledCnt.toNat) :
    NeverLeavesRanges ledCnt := by
  intro s hreach
  have h := hreach.invariant (P := Ranged ledCnt) (ranged_init hled)
    fun _ _ _ h _ hs => ranged_step hled h hs
  refine ⟨h.points, ?_, h.difficulty, toNat_timeout h.difficulty, inTimeout_timeout h.difficulty,
    h.sleeps⟩
  intro i hi
  exact Nat.lt_of_lt_of_le hi (Nat.le_trans (Nat.div_le_self _ _) h.points)

theorem neverLeavesRanges_64 : NeverLeavesRanges 64 := neverLeavesRanges 64 (by decide)

end Display

end Luke

end RiotPlayground
