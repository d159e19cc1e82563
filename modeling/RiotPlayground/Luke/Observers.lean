import RiotPlayground.Luke.Wakeup

/-!
# When the observers of the difficulty are left behind

A POST reports the difficulty before it assigns the new one, and leaves the rest to the main loop.
-/

namespace RiotPlayground

open Directive

namespace Luke

namespace Display

/-- Main is still to read the difficulty, for a comparison or for a report. -/
def Main.early : Main → Bool
  | .compare _ => false
  | .notify (.store _ _) => false
  | .notify (.send _) => false
  | .timeout => false
  | .test _ => false
  | .wait => false
  | _ => true

/-- Main reads the difficulty once more before it blocks. -/
def Threads.Due (s : Threads) : Prop :=
  s.vars.flag = true ∨ s.main.early = true ∨
    (∃ difficulty, s.main = .compare difficulty ∧ difficulty ≠ s.vars.lastReportedDifficulty) ∨
    (s.main ≠ .wait ∧ 0 < s.vars.points)

instance (s : Threads) : Decidable s.Due := by
  have : Decidable (∃ difficulty, s.main = .compare difficulty ∧
      difficulty ≠ s.vars.lastReportedDifficulty) := by
    cases s.main with
    | compare d =>
      refine decidable_of_iff (d ≠ s.vars.lastReportedDifficulty) ⟨fun hne => ⟨d, rfl, hne⟩, ?_⟩
      rintro ⟨_, heq, hne⟩
      cases heq
      exact hne
    | _ =>
      refine .isFalse fun h => ?_
      obtain ⟨_, heq, -⟩ := h
      cases heq
  exact inferInstanceAs (Decidable (_ ∨ _ ∨ _ ∨ _))

/-- The value main leaves in `_last_reported_difficulty` if it does not read the difficulty
again. -/
def Threads.reported (s : Threads) : UInt8 :=
  match s.main with
  | .notify (.store _ difficulty) => difficulty
  | _ => s.vars.lastReportedDifficulty

/-- `gcoap_obs_init` succeeds. -/
def ObsInitOk : ThreadEvent → Prop
  | .handler obs => obs = true
  | .main obs _ _ _ => obs = true
  | _ => True

/-- A POST assigns a difficulty that main reads before it blocks, or that is reported already. -/
def Noticed (s : Threads) : ThreadEvent → Prop
  | .handler _ => ∀ d, s.handler = .assign d → s.Due ∨ d = s.reported
  | _ => True

/-- When main is blocked, the last value sent is the difficulty. -/
def ObserversCurrent (s : Threads) : Prop :=
  s.Asleep → s.vars.lastReportedDifficulty = s.vars.difficulty

instance : DecidablePred ObsInitOk
  | .handler obs | .main obs _ _ _ => inferInstanceAs (Decidable (obs = true))
  | .points _ | .difficulty _ | .button => .isTrue trivial

def Threads.assignNoticed (s : Threads) : Bool :=
  match s.handler with
  | .assign d => s.Due ∨ d = s.reported
  | _ => true

lemma assignNoticed_iff {s : Threads} (obs : Bool) :
    s.assignNoticed = true ↔ Noticed s (.handler obs) := by
  unfold Threads.assignNoticed Noticed
  cases s.handler with
  | assign d => simp
  | _ => simp

instance (s : Threads) : DecidablePred (Noticed s)
  | .handler obs => decidable_of_iff (s.assignNoticed = true) (assignNoticed_iff obs)
  | .points _ | .difficulty _ | .main _ _ _ _ | .button => .isTrue trivial

structure Reported (s : Threads) : Prop where
  seen : s.Due ∨ s.reported = s.vars.difficulty
  loaded : ∀ payload difficulty d, s.handler = .notify (.store payload difficulty) d →
    s.vars.flag = true ∨ difficulty = s.vars.difficulty

variable {ledCnt : UInt16} {s t : Threads}

lemma reported_init : Reported .init := ⟨.inl (.inr (.inl rfl)), nofun⟩

/-- What main, the flag, the counter and the last report decide. -/
lemma Due.congr (h : s.Due) (hmain : t.main = s.main) (hflag : t.vars.flag = s.vars.flag)
    (hpoints : t.vars.points = s.vars.points)
    (hlast : t.vars.lastReportedDifficulty = s.vars.lastReportedDifficulty) : t.Due := by
  unfold Threads.Due at h ⊢
  rwa [hmain, hflag, hpoints, hlast]

lemma reported_congr (hmain : t.main = s.main)
    (hlast : t.vars.lastReportedDifficulty = s.vars.lastReportedDifficulty) :
    t.reported = s.reported := by
  unfold Threads.reported
  rw [hmain, hlast]

lemma Reported.congr (h : Reported s) (hmain : t.main = s.main)
    (hflag : t.vars.flag = s.vars.flag) (hpoints : t.vars.points = s.vars.points)
    (hlast : t.vars.lastReportedDifficulty = s.vars.lastReportedDifficulty)
    (hdifficulty : t.vars.difficulty = s.vars.difficulty)
    (hnotify : ∀ payload difficulty d, t.handler ≠ .notify (.store payload difficulty) d) :
    Reported t where
  seen := by
    rw [reported_congr hmain hlast, hdifficulty]
    exact h.seen.imp_left fun hdue => Due.congr hdue hmain hflag hpoints hlast
  loaded payload difficulty d hstore := absurd hstore (hnotify payload difficulty d)

/-- The handler reports what it has read; main may be about to report something older. -/
lemma seen_store {payload : List Char} {difficulty d : UInt8} (h : Reported s)
    (hhandler : s.handler = .notify (.store payload difficulty) d)
    (hmain : t.main = s.main)
    (hvars : t.vars = { s.vars with lastReportedDifficulty := difficulty }) :
    t.Due ∨ t.reported = t.vars.difficulty := by
  rcases h.loaded payload difficulty d hhandler with hflag | hload
  · exact .inl (.inl (by rw [hvars]; exact hflag))
  · unfold Threads.reported
    rw [hmain, hvars]
    split
    · rename_i payload' difficulty' hstore
      have hseen := h.seen
      unfold Threads.Due Threads.reported at hseen
      unfold Threads.Due
      rw [hmain, hvars]
      rw [hstore] at hseen ⊢
      rcases hseen with (hflag | hearly | ⟨c, hc, -⟩ | hpoints) | hreported
      · exact .inl (.inl hflag)
      · cases hearly
      · cases hc
      · exact .inl (.inr (.inr (.inr hpoints)))
      · exact .inr hreported
    · exact .inr hload

lemma reported_handler (h : Reported s) (hawake : Awake s)
    (hC : Noticed s (.handler true)) (hs : handlerStep ledCnt true s = some t) : Reported t := by
  have hwrites := hawake.writes
  cases handlerMoves_of_step hs with
  | setFlag hat => exact ⟨.inl (.inl rfl), by simp⟩
  | @lock job hat howner =>
    refine h.congr rfl rfl rfl rfl rfl ?_
    cases job <;> simp [Job.start]
  | block hat howner => exact h.congr rfl rfl rfl rfl rfl (by simp)
  | add hat => exact h.congr rfl rfl rfl rfl rfl (by simp)
  | storeMax hat hfull =>
    rw [hat] at hwrites
    exact ⟨.inl (.inl (hwrites rfl)), by simp⟩
  | store hat hfits =>
    rw [hat] at hwrites
    exact ⟨.inl (.inl (hwrites rfl)), by simp⟩
  | count hat => exact h.congr rfl rfl rfl rfl rfl (by simp)
  | display hat =>
    obtain ⟨lastNotified, notified, hdisplay⟩ := displayPoints_eq true s.vars
    rw [hdisplay]
    exact h.congr rfl rfl rfl rfl rfl (by simp)
  | get hat => exact h.congr rfl rfl rfl rfl rfl (by simp)
  | unlock hat => exact h.congr rfl rfl rfl rfl rfl (by simp)
  | @notify at_ d hat =>
    cases at_ with
    | format => exact h.congr rfl rfl rfl rfl rfl (by simp [Notify.step])
    | load payload =>
      refine ⟨h.seen, ?_⟩
      intro payload' difficulty' d' hstore
      cases hstore
      exact .inr rfl
    | store payload difficulty => exact ⟨seen_store h hat rfl rfl, by simp [Notify.step]⟩
    | send payload => exact h.congr rfl rfl rfl rfl rfl (by simp [Notify.step])
  | @assign d hat =>
    refine ⟨?_, by simp⟩
    rcases hC d hat with hdue | hd
    · exact .inl (Due.congr hdue rfl rfl rfl rfl)
    · exact .inr hd.symm

/-- While main runs, the handler reports nothing. -/
lemma loaded_of_run {P : List Char → UInt8 → UInt8 → Prop} (hrun : s.handler.preempts = false) :
    ∀ payload difficulty d, s.handler = .notify (.store payload difficulty) d →
      P payload difficulty d := by
  intro payload difficulty d hhandler
  rw [hhandler] at hrun
  cases hrun

/-- Main is yet to read the difficulty. -/
lemma reported_of_early (hearly : t.main.early = true) (hrun : t.handler.preempts = false) :
    Reported t :=
  ⟨.inl (.inr (.inl hearly)), loaded_of_run hrun⟩

/-- Where main has read the difficulty for the last time, only the flag and the counter keep it from
blocking. -/
lemma Due.late (h : s.Due) (hearly : s.main.early = false)
    (hcompare : ∀ difficulty, s.main = .compare difficulty →
      difficulty = s.vars.lastReportedDifficulty) :
    s.vars.flag = true ∨ 0 < s.vars.points := by
  rcases h with hflag | hmain | ⟨difficulty, hmain, hne⟩ | ⟨-, hpoints⟩
  · exact .inl hflag
  · rw [hearly] at hmain
    cases hmain
  · exact absurd (hcompare difficulty hmain) hne
  · exact .inr hpoints

/-- Main goes on after its last look: what was due or reported still is. -/
lemma seen_late (h : Reported s) (hearly : s.main.early = false)
    (hcompare : ∀ difficulty, s.main = .compare difficulty →
      difficulty = s.vars.lastReportedDifficulty)
    (hflag : t.vars.flag = s.vars.flag) (hpoints : t.vars.points = s.vars.points)
    (hdifficulty : t.vars.difficulty = s.vars.difficulty) (hreported : t.reported = s.reported)
    (hawake : t.main ≠ .wait ∨ ¬ 0 < s.vars.points) : t.Due ∨ t.reported = t.vars.difficulty := by
  rw [hreported, hdifficulty]
  apply h.seen.imp_left
  intro hdue
  rcases Due.late hdue hearly hcompare with hset | hpos
  · exact .inl (hflag.trans hset)
  · refine .inr (.inr (.inr ⟨hawake.resolve_right fun hzero => hzero hpos, ?_⟩))
    rw [hpoints]
    exact hpos

/-- Main does not look at the difficulty between `_last_reported_difficulty` and its wait. -/
lemma reported_late {main : Main} (h : Reported s) (hat : s.main = main)
    (hearly : main.early = false)
    (hcompare : ∀ difficulty, main = .compare difficulty →
      difficulty = s.vars.lastReportedDifficulty)
    (hflag : t.vars.flag = s.vars.flag) (hpoints : t.vars.points = s.vars.points)
    (hdifficulty : t.vars.difficulty = s.vars.difficulty) (hreported : t.reported = s.reported)
    (hawake : t.main ≠ .wait ∨ ¬ 0 < s.vars.points) (hrun : t.handler.preempts = false) :
    Reported t := by
  rw [← hat] at hearly hcompare
  exact ⟨seen_late h hearly hcompare hflag hpoints hdifficulty hreported hawake,
    loaded_of_run hrun⟩

lemma reported_unlockMain (hrun : s.handler.preempts = false) : Reported (unlockMain s) := by
  unfold unlockMain
  split
  · rename_i job hhandler
    refine ⟨.inl (.inr (.inl rfl)), ?_⟩
    cases job <;> simp [Job.start]
  · exact reported_of_early rfl hrun

lemma reported_compare {difficulty : UInt8} (h : Reported s)
    (hrun : s.handler.preempts = false) (hat : s.main = .compare difficulty) :
    Reported { s with
      main :=
        if difficulty ≠ s.vars.lastReportedDifficulty then .notify .format else .timeout } := by
  by_cases hsame : difficulty = s.vars.lastReportedDifficulty
  · rw [if_neg (not_not.mpr hsame)]
    refine reported_late h hat rfl ?_ rfl rfl rfl ?_ (.inl (by simp)) hrun
    · intro d hd
      cases hd
      exact hsame
    · unfold Threads.reported
      rw [hat]
  · rw [if_pos hsame]
    exact reported_of_early rfl hrun

lemma reported_main {now later : UInt32} {res : ℕ} (h : Reported s)
    (hrun : s.handler.preempts = false) (hs : mainStep ledCnt true now later res s = some t) :
    Reported t := by
  cases mainMoves_of_step hs with
  | check hat =>
    cases hvictory : s.vars.victory with
    | true => exact reported_of_early rfl hrun
    | false => exact reported_of_early rfl hrun
  | post hat => exact reported_of_early rfl hrun
  | lock hat howner => exact reported_of_early rfl hrun
  | load hat => exact reported_of_early rfl hrun
  | store hat => exact reported_of_early rfl hrun
  | reset hat => exact reported_of_early rfl hrun
  | display hat => exact reported_of_early rfl hrun
  | unlock hat => exact reported_unlockMain hrun
  | compareLoad hat =>
    refine ⟨?_, loaded_of_run hrun⟩
    by_cases hsame : s.vars.difficulty = s.vars.lastReportedDifficulty
    · exact .inr hsame.symm
    · exact .inl (.inr (.inr (.inl ⟨s.vars.difficulty, rfl, hsame⟩)))
  | compare hat => exact reported_compare h hrun hat
  | @notify at_ hat =>
    cases at_ with
    | format => exact reported_of_early rfl hrun
    | load payload => exact ⟨.inr rfl, loaded_of_run hrun⟩
    | store payload difficulty =>
      refine reported_late h hat rfl (by simp) rfl rfl rfl ?_ (.inl (by simp [Notify.step])) hrun
      unfold Threads.reported
      rw [hat]
      rfl
    | send payload =>
      refine reported_late h hat rfl (by simp) rfl rfl rfl ?_ (.inl (by simp [Notify.step])) hrun
      unfold Threads.reported
      rw [hat]
      rfl
  | timeout hat =>
    refine reported_late h hat rfl (by simp) rfl rfl rfl ?_ (.inl (by simp)) hrun
    unfold Threads.reported
    rw [hat]
  | test hat =>
    by_cases hpoints : 0 < s.vars.points
    · rw [if_pos hpoints]
      exact reported_of_early rfl hrun
    · rw [if_neg hpoints]
      refine reported_late h hat rfl (by simp) rfl rfl rfl ?_ (.inr hpoints) hrun
      unfold Threads.reported
      rw [hat]
  | periodic hat => exact reported_of_early rfl hrun
  | wait hat hflag => exact reported_of_early rfl hrun

/-- A request has nothing in hand when it arrives. -/
lemma pointsRequest_ne_store (pdu : Pdu) (payload : List Char) (difficulty d : UInt8) :
    pointsRequest pdu ≠ .notify (.store payload difficulty) d := by
  rcases pointsRequest_cases pdu with h | h | ⟨p, h⟩
  all_goals
    rw [h]
    exact nofun

lemma difficultyRequest_ne_store (pdu : Pdu) (payload : List Char) (difficulty d : UInt8) :
    difficultyRequest pdu ≠ .notify (.store payload difficulty) d := by
  rcases difficultyRequest_cases pdu with h | ⟨d', h⟩
  all_goals
    rw [h]
    exact nofun

lemma reported_step {e : ThreadEvent} (h : Reported s) (hawake : Awake s) (hobs : ObsInitOk e)
    (hC : Noticed s e) (hs : threadStep ledCnt s e = some t) : Reported t := by
  cases e with
  | points pdu =>
    obtain ⟨hidle, hs⟩ := Option.ite_none_right_eq_some.mp hs
    obtain rfl := Option.some.inj hs
    exact h.congr rfl rfl rfl rfl rfl (pointsRequest_ne_store pdu)
  | difficulty pdu =>
    obtain ⟨hidle, hs⟩ := Option.ite_none_right_eq_some.mp hs
    obtain rfl := Option.some.inj hs
    exact h.congr rfl rfl rfl rfl rfl (difficultyRequest_ne_store pdu)
  | handler obs =>
    obtain rfl : obs = true := hobs
    exact reported_handler h hawake hC hs
  | main obs now later res =>
    obtain rfl : obs = true := hobs
    obtain ⟨hrun, hs⟩ := Option.ite_none_left_eq_some.mp hs
    exact reported_main h (Bool.eq_false_iff.mpr hrun) hs
  | button =>
    obtain rfl := Option.some.inj hs
    exact ⟨.inl (.inl rfl), fun _ _ _ _ => .inl rfl⟩

lemma reported_reach
    (h : (displayThreads ledCnt).Reach (fun s e => ObsInitOk e ∧ Noticed s e) .init s) :
    Awake s ∧ Reported s := by
  refine h.invariant (P := fun s => Awake s ∧ Reported s) ⟨awake_init, reported_init⟩ ?_
  intro s e t hinv hC hs
  exact ⟨awake_step hinv.1 hs, reported_step hinv.2 hinv.1 hC.1 hC.2 hs⟩

/-- The button is always noticed. -/
theorem observersCurrent_noticed {es : List ThreadEvent} {s : Threads}
    (hC : (displayThreads ledCnt).Meets (fun s e => ObsInitOk e ∧ Noticed s e) .init es)
    (hrun : (displayThreads ledCnt).run .init es = some s) : ObserversCurrent s := by
  intro hasleep
  obtain ⟨hmain, hflag, -⟩ := hasleep
  have hseen := (reported_reach (TransitionSystem.reach_of_run hC hrun)).2.seen
  unfold Threads.Due Threads.reported at hseen
  rw [hmain, hflag] at hseen
  rcases hseen with (hset | hearly | ⟨d, hd, -⟩ | ⟨hne, -⟩) | hreported
  · cases hset
  · cases hearly
  · cases hd
  · exact absurd rfl hne
  · exact hreported

/-- A POST of a difficulty. -/
def postDifficulty (d : UInt32) : ThreadEvent :=
  .difficulty ⟨.post, COAP_FORMAT_JSON, sprintf LUKE_DIFFICULTY_FMT [d], []⟩

/-- The button is pressed twice, main counts the 6 points down, and difficulty 5 is posted while it
sleeps. -/
def postWhileAsleep : List ThreadEvent :=
  [.button, .button] ++ List.replicate 51 (.main true 0 0 0) ++ [postDifficulty 5] ++
    List.replicate 5 (.handler true)

/-- The observers have been told 1, and nobody tells them 5. -/
theorem observersCurrent_postWhileAsleep : ¬ ∀ es s,
    (displayThreads 64).Meets (fun _ e => ObsInitOk e) .init es →
      (displayThreads 64).run .init es = some s → ObserversCurrent s := by
  intro h
  obtain ⟨s, hs, hasleep, hstale⟩ : ∃ s, (displayThreads 64).run .init postWhileAsleep = some s ∧
      s.Asleep ∧ (s.vars.lastReportedDifficulty, s.vars.difficulty) = (1, 5) := by
    have hfinal : ((displayThreads 64).run .init postWhileAsleep).map (fun s =>
        (s.main, s.vars.flag, s.handler, s.vars.lastReportedDifficulty, s.vars.difficulty)) =
        some (.wait, false, .idle, 1, 5) := by decide +kernel
    obtain ⟨s, hs, heq⟩ := Option.map_eq_some_iff.mp hfinal
    obtain ⟨hmain, hrest⟩ := Prod.mk.inj heq
    obtain ⟨hflag, hrest⟩ := Prod.mk.inj hrest
    obtain ⟨hhandler, hstale⟩ := Prod.mk.inj hrest
    exact ⟨s, hs, ⟨hmain, hflag, hhandler⟩, hstale⟩
  have hcurrent := h _ s (by decide +kernel) hs hasleep
  have hone : s.vars.lastReportedDifficulty = 1 := congrArg Prod.fst hstale
  have hfive : s.vars.difficulty = 5 := congrArg Prod.snd hstale
  rw [hone, hfive] at hcurrent
  exact absurd hcurrent (by decide)

/-- The same POST while main still counts the points down. -/
def postWhileAwake : List ThreadEvent :=
  [.button, .button, postDifficulty 5] ++ List.replicate 5 (.handler true) ++
    List.replicate 51 (.main true 0 0 0)

theorem observersCurrent_postWhileAwake : ∃ s,
    (displayThreads 64).run .init postWhileAwake = some s ∧ s.Asleep ∧ s.vars.difficulty = 5 ∧
      s.vars.lastReportedDifficulty = s.vars.difficulty := by
  have hfinal : ((displayThreads 64).run .init postWhileAwake).map (fun s =>
      (s.main, s.vars.flag, s.handler, s.vars.difficulty)) = some (.wait, false, .idle, 5) := by
    decide +kernel
  obtain ⟨s, hs, heq⟩ := Option.map_eq_some_iff.mp hfinal
  obtain ⟨hmain, hrest⟩ := Prod.mk.inj heq
  obtain ⟨hflag, hrest⟩ := Prod.mk.inj hrest
  obtain ⟨hhandler, hfive⟩ := Prod.mk.inj hrest
  have hasleep : s.Asleep := ⟨hmain, hflag, hhandler⟩
  exact ⟨s, hs, hasleep, hfive, observersCurrent_noticed (by decide +kernel) hs hasleep⟩

end Display

end Luke

end RiotPlayground
