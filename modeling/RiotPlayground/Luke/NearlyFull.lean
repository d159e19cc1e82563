import RiotPlayground.Luke.DisplayRanges

/-!
# A victory comes with a nearly full counter

`_in_victory_cond` against the counter, in every order of the threads' statements. The button
interrupt may come between the two statements with which a handler counts a win.
-/

namespace RiotPlayground

open Directive

namespace Luke

namespace Display

variable {ledCnt : UInt16}

/-- A victory counts, or main is about to report one. In the middle of `_decrement_points` the
counter is written, and `_in_victory_cond` is to be. -/
def Threads.HasVictory (s : Threads) : Prop :=
  s.main = .post ∨ s.main ≠ .reset ∧ 0 < s.vars.inVictoryCond

instance (s : Threads) : Decidable s.HasVictory :=
  inferInstanceAs (Decidable (_ ∨ _ ∧ _))

/-- Nearly full is the counter from the reset threshold on. -/
def NearlyFull (ledCnt : UInt16) (s : Split) : Prop :=
  s.threads.HasVictory → ledCnt.toNat ≤ s.threads.vars.points.toNat + 3

/-- As an `int`, what is posted is not negative. -/
def NonNegative : ThreadEvent → Prop
  | .points pdu => ∀ p, pdu.scanPoints = some p → p < 0x80000000
  | _ => True

/-- While there is a victory, the 16 bits of a posted sum do not wrap to below the threshold. The
first win is counted before a press has taken the counter below it. -/
def Handler.KeepsFull (ledCnt : UInt16) (s : Threads) : Handler → Prop
  | .store sum => s.HasVictory → ledCnt.toNat ≤ sum.toNat + 3
  | .count => s.main ≠ .reset → s.vars.inVictoryCond = 0 →
      ledCnt.toNat ≤ s.vars.points.toNat + 3
  | _ => True

/-- While there is a victory, a press of the button asks for a difficulty at which the counter is
nearly full. -/
def KeepsFull (ledCnt : UInt16) (s : Split) : ThreadEvent → Prop
  | .button => s.threads.HasVictory →
      (10 - (nextDifficulty s.threads.vars.difficulty).toNat) * ledCnt.toNat ≤ 30
  | .handler _ => s.threads.handler.KeepsFull ledCnt s.threads
  | _ => True

instance (s : Threads) (handler : Handler) : Decidable (handler.KeepsFull ledCnt s) := by
  cases handler <;> unfold Handler.KeepsFull <;> infer_instance

instance (s : Split) (e : ThreadEvent) : Decidable (KeepsFull ledCnt s e) := by
  cases e <;> unfold KeepsFull <;> infer_instance

section Step

variable {s t : Threads} {compared compared' : Bool}

/-- Neither the counter nor the condition is written. -/
lemma NearlyFull.frame (h : NearlyFull ledCnt ⟨s, compared⟩)
    (hpoints : t.vars.points = s.vars.points) (hvictory : t.HasVictory → s.HasVictory) :
    NearlyFull ledCnt ⟨t, compared'⟩ := by
  intro ht
  have hfull : ledCnt.toNat ≤ s.vars.points.toNat + 3 := h (hvictory ht)
  dsimp only
  rwa [hpoints]

lemma hasVictory_congr (hmain : t.main = s.main)
    (hcond : t.vars.inVictoryCond = s.vars.inVictoryCond) : t.HasVictory → s.HasVictory := by
  unfold Threads.HasVictory
  rw [hmain, hcond]
  exact id

lemma nearlyFull_button :
    NearlyFull ledCnt ⟨{ s with vars := incrDifficulty ledCnt s.vars }, compared⟩ ↔
      KeepsFull ledCnt ⟨s, compared⟩ .button := by
  have hle := (inDifficulty_next s.vars.difficulty).2
  have hproduct : (nextDifficulty s.vars.difficulty).toNat * ledCnt.toNat ≤ 10 * ledCnt.toNat :=
    Nat.mul_le_mul_right ledCnt.toNat hle
  unfold NearlyFull KeepsFull incrDifficulty
  dsimp only
  rw [toNat_difficultyPoints hle, Nat.sub_mul]
  apply imp_congr_right
  intro _
  omega

/-- The first win must still find the counter nearly full. -/
lemma nearlyFull_count (h : NearlyFull ledCnt ⟨s, compared⟩) (hat : s.handler = .count)
    (obs : Bool) :
    NearlyFull ledCnt ⟨{ s with
      vars := { s.vars with inVictoryCond := s.vars.inVictoryCond + 1 }
      handler := .display }, compared⟩ ↔ KeepsFull ledCnt ⟨s, compared⟩ (.handler obs) := by
  have hkeeps : KeepsFull ledCnt ⟨s, compared⟩ (.handler obs) ↔
      (s.main ≠ .reset → s.vars.inVictoryCond = 0 → ledCnt.toNat ≤ s.vars.points.toNat + 3) := by
    unfold KeepsFull
    dsimp only
    rw [hat]
    rfl
  rw [hkeeps]
  constructor
  · intro ht hreset hcond
    refine ht (.inr ⟨hreset, ?_⟩)
    dsimp only
    rw [hcond]
    decide
  · intro hC ht
    by_cases hhas : s.HasVictory
    · exact h hhas
    · -- no victory counts yet, so that this is the first
      have hreset : s.main ≠ .reset := by
        rintro hreset
        rcases ht with hpost | hcounts
        · exact hhas (.inl hpost)
        · exact hcounts.1 hreset
      have hcond : s.vars.inVictoryCond = 0 := by
        by_contra hne
        exact hhas (.inr ⟨hreset, UInt8.pos_iff_ne_zero.mpr hne⟩)
      exact hC hreset hcond

lemma nearlyFull_handler {obs : Bool} (h : NearlyFull ledCnt ⟨s, compared⟩)
    (hs : handlerStep ledCnt obs s = some t) :
    NearlyFull ledCnt ⟨t, compared⟩ ↔ KeepsFull ledCnt ⟨s, compared⟩ (.handler obs) := by
  have hfree {handler : Handler} (hat : s.handler = handler)
      (hcount : handler ≠ .count) (hstore : ∀ sum, handler ≠ .store sum) :
      KeepsFull ledCnt ⟨s, compared⟩ (.handler obs) := by
    unfold KeepsFull
    dsimp only
    rw [hat]
    cases handler with
    | store sum => exact absurd rfl (hstore sum)
    | count => exact absurd rfl hcount
    | _ => trivial
  cases handlerMoves_of_step hs with
  | setFlag hat | lock hat | block hat | add hat | get hat | unlock hat | assign hat =>
    exact iff_of_true (h.frame rfl (hasVictory_congr rfl rfl))
      (hfree hat (by simp) (by simp))
  | display hat =>
    have hvars := displayPoints_vars obs s.vars
    exact iff_of_true (h.frame hvars.1 (hasVictory_congr rfl hvars.2))
      (hfree hat (by simp) (by simp))
  | @notify at_ d hat =>
    have hcond : (at_.step obs s.vars).2.inVictoryCond = s.vars.inVictoryCond := by
      cases at_ with
      | format => cases obs <;> rfl
      | load | store | send => rfl
    exact iff_of_true (h.frame (notifyStep_vars obs s.vars at_).1 (hasVictory_congr rfl hcond))
      (hfree hat (by simp) (by simp))
  | @storeMax sum hat hfull =>
    have hsum : ledCnt.toNat < sum.toNat := by
      rw [points_max_eq, UInt16.toUInt32_lt] at hfull
      exact UInt16.lt_iff_toNat_lt.mp hfull
    refine iff_of_true (fun _ => ?_) ?_
    · dsimp only
      rw [points_max_eq, UInt16.toUInt16_toUInt32]
      omega
    · unfold KeepsFull
      dsimp only
      rw [hat]
      exact fun _ => by omega
  | @store sum hat hfits =>
    have hkeeps : KeepsFull ledCnt ⟨s, compared⟩ (.handler obs) ↔
        (s.HasVictory → ledCnt.toNat ≤ sum.toNat + 3) := by
      unfold KeepsFull
      dsimp only
      rw [hat]
      rfl
    rw [hkeeps]
    exact Iff.rfl
  | count hat => exact nearlyFull_count h hat obs

/-- `_decrement_points` keeps the condition only with a counter that is not below the threshold. -/
lemma nearlyFull_reset (hreset : t.main = .display) (hvars : t.vars = resetVictory ledCnt s.vars) :
    NearlyFull ledCnt ⟨t, compared⟩ := by
  intro ht
  have hpos : 0 < (resetVictory ledCnt s.vars).inVictoryCond := by
    rcases ht with hpost | hcounts
    · rw [hreset] at hpost
      cases hpost
    · exact hvars ▸ hcounts.2
  dsimp only
  rw [hvars, (resetVictory_vars s.vars).1]
  unfold resetVictory at hpos
  by_cases hbelow : s.vars.points.toUInt32 < LUKE_POINTS_MAX ledCnt - LUKE_VICTORY_RESET_THRESHOLD
  · rw [if_pos hbelow] at hpos
    exact absurd hpos (UInt8.lt_irrefl 0)
  · have hnot : belowThreshold ledCnt s.vars = false := decide_eq_false hbelow
    exact ((belowThreshold_eq_false_iff ledCnt s.vars).mp hnot).2

/-- Main does not report a victory that does not count. -/
lemma nearlyFull_main {obs : Bool} {now later : UInt32} {res : ℕ}
    (h : NearlyFull ledCnt ⟨s, compared⟩) (hs : mainStep ledCnt obs now later res s = some t) :
    NearlyFull ledCnt ⟨t, compared⟩ := by
  have hstill {main : Main} (hmain : s.main = main) (hpost : main ≠ .post) (hreset : main ≠ .reset)
      (hpoints : t.vars.points = s.vars.points)
      (hcond : t.vars.inVictoryCond = s.vars.inVictoryCond) (hnext : t.main ≠ .post) :
      NearlyFull ledCnt ⟨t, compared⟩ := by
    refine h.frame hpoints fun ht => .inr ⟨?_, hcond ▸ (ht.resolve_left hnext).2⟩
    rwa [hmain]
  cases mainMoves_of_step hs with
  | check hat =>
    refine h.frame rfl fun ht => .inr ⟨by rw [hat]; simp, ?_⟩
    rcases ht with hpost | hcounts
    · cases hvictory : s.vars.victory with
      | true =>
        have hfive : LUKE_VICTORY_COND ≤ s.vars.inVictoryCond := of_decide_eq_true hvictory
        exact UInt8.lt_of_lt_of_le (by decide) hfive
      | false =>
        rw [hvictory] at hpost
        cases hpost
    · exact hcounts.2
  | post hat => exact h.frame rfl fun _ => .inl hat
  | lock hat howner => exact hstill hat (by simp) (by simp) rfl rfl (by simp)
  | load hat => exact hstill hat (by simp) (by simp) rfl rfl (by simp)
  | store hat =>
    intro ht
    rcases ht with hpost | hcounts
    · cases hpost
    · exact absurd rfl hcounts.1
  | reset hat => exact nearlyFull_reset rfl rfl
  | display hat =>
    have hvars := displayPoints_vars obs s.vars
    exact hstill hat (by simp) (by simp) hvars.1 hvars.2 (by simp)
  | unlock hat =>
    have hunlock : (unlockMain s).vars = s.vars ∧ (unlockMain s).main = .compareLoad := by
      unfold unlockMain
      split <;> exact ⟨rfl, rfl⟩
    refine hstill hat (by simp) (by simp) (congrArg Vars.points hunlock.1)
      (congrArg Vars.inVictoryCond hunlock.1) ?_
    rw [hunlock.2]
    simp
  | compareLoad hat => exact hstill hat (by simp) (by simp) rfl rfl (by simp)
  | compare hat =>
    refine hstill hat (by simp) (by simp) rfl rfl ?_
    dsimp only
    split <;> simp
  | @notify at_ hat =>
    have hcond : (at_.step obs s.vars).2.inVictoryCond = s.vars.inVictoryCond := by
      cases at_ with
      | format => cases obs <;> rfl
      | load | store | send => rfl
    refine hstill hat (by simp) (by simp) (notifyStep_vars obs s.vars at_).1 hcond ?_
    dsimp only
    cases (at_.step obs s.vars).1 <;> simp
  | timeout hat => exact hstill hat (by simp) (by simp) rfl rfl (by simp)
  | test hat =>
    refine hstill hat (by simp) (by simp) rfl rfl ?_
    dsimp only
    split <;> simp
  | periodic hat => exact hstill hat (by simp) (by simp) rfl rfl (by simp)
  | wait hat hflag => exact hstill hat (by simp) (by simp) rfl rfl (by simp)

lemma nearlyFull_load (h : NearlyFull ledCnt ⟨s, compared⟩) (hload : s.main = .load) :
    NearlyFull ledCnt (loadStep ⟨s, compared⟩) := by
  have hcounts {main : Main} (hpost : main ≠ .post) :
      ({ s with main := main } : Threads).HasVictory → s.HasVictory := by
    intro ht
    refine .inr ⟨by rw [hload]; simp, (ht.resolve_left hpost).2⟩
  unfold loadStep
  dsimp only
  split
  · exact h.frame rfl (hcounts (by simp))
  · split
    · exact h.frame rfl (hcounts (by simp))
    · exact h

end Step

lemma nearlyFull_step (s : Split) (e : ThreadEvent) (t : Split) (h : NearlyFull ledCnt s)
    (hs : splitStep ledCnt s e = some t) : NearlyFull ledCnt t ↔ KeepsFull ledCnt s e := by
  obtain ⟨s, compared⟩ := s
  unfold splitStep at hs
  split at hs
  · rename_i hat
    obtain ⟨-, hs⟩ := Option.ite_none_left_eq_some.mp hs
    obtain rfl := Option.some.inj hs
    cases e with
    | main obs now later res => exact iff_of_true (nearlyFull_load h hat.2) trivial
    | _ => exact absurd hat.1 Bool.false_ne_true
  · obtain ⟨u, hu, rfl⟩ := Option.map_eq_some_iff.mp hs
    cases e with
    | points pdu =>
      obtain ⟨-, hu⟩ := Option.ite_none_right_eq_some.mp hu
      obtain rfl := Option.some.inj hu
      exact iff_of_true (h.frame rfl (hasVictory_congr rfl rfl)) trivial
    | difficulty pdu =>
      obtain ⟨-, hu⟩ := Option.ite_none_right_eq_some.mp hu
      obtain rfl := Option.some.inj hu
      exact iff_of_true (h.frame rfl (hasVictory_congr rfl rfl)) trivial
    | handler obs => exact nearlyFull_handler h hu
    | main obs now later res =>
      obtain ⟨-, hu⟩ := Option.ite_none_left_eq_some.mp hu
      exact iff_of_true (nearlyFull_main h hu) trivial
    | button =>
      obtain rfl := Option.some.inj hu
      exact nearlyFull_button

/-- In every state of a run a victory comes with a nearly full counter, if and only if every sum
that is stored, every first win that is counted and every press of the button in the run keeps it
so. -/
theorem nearlyFull_iff {es : List ThreadEvent} {s : Split}
    (h : (displaySplit ledCnt).run .init es = some s) :
    (displaySplit ledCnt).Holds (NearlyFull ledCnt) .init es ↔
      (displaySplit ledCnt).Meets (KeepsFull ledCnt) .init es := by
  refine TransitionSystem.holds_iff_meets nearlyFull_step (fun hvictory => ?_) h
  exact absurd hvictory (by decide)

/-- A POST of 1 that is handled with nothing in between. -/
def postOne : List ThreadEvent :=
  .points ⟨.post, COAP_FORMAT_JSON, sprintf LUKE_POINTS_FMT [1], []⟩ ::
    List.replicate 7 (.handler true)

/-- The press asks for difficulty 10, and main decrements the points then. -/
def pressAfterWin : List ThreadEvent := postOne ++ .button :: List.replicate 9 (.main true 0 0 0)

theorem nearlyFull_pressAfterWin :
    (displaySplit 64).Holds (NearlyFull 64) .init pressAfterWin := by
  obtain ⟨s, hs⟩ : ∃ s, (displaySplit 64).run .init pressAfterWin = some s := ⟨_, rfl⟩
  exact (nearlyFull_iff hs).mpr (by decide +kernel)

/-- Five wins, two presses of the button that set the counter to 6, and the check of main. -/
def pressInVictory : List ThreadEvent :=
  postOne ++ postOne ++ postOne ++ postOne ++ postOne ++ [.button, .button, .main true 0 0 0]

/-- Main is to report a victory with 6 points of 64. -/
theorem nearlyFull_pressInVictory :
    ¬ ∀ s, (displaySplit 64).Reach (fun _ e => NonNegative e) .init s → NearlyFull 64 s := by
  intro h
  have hfinal : ((displaySplit 64).run .init pressInVictory).map
      (fun s => (s.threads.main, s.threads.vars.points)) = some (.post, 6) := by decide +kernel
  obtain ⟨s, hs, heq⟩ := Option.map_eq_some_iff.mp hfinal
  have hone : NonNegative (.points ⟨.post, COAP_FORMAT_JSON, sprintf LUKE_POINTS_FMT [1], []⟩) := by
    intro p hp
    have hp' : some 1 = some p := hp
    rw [← Option.some.inj hp']
    decide
  have hpost : ∀ e ∈ postOne, NonNegative e := by
    intro e he
    rcases List.mem_cons.mp he with rfl | he
    · exact hone
    · rw [List.eq_of_mem_replicate he]
      trivial
  have hall : ∀ e ∈ pressInVictory, NonNegative e := by
    simp only [pressInVictory, List.forall_mem_append, List.forall_mem_cons]
    exact ⟨⟨⟨⟨⟨hpost, hpost⟩, hpost⟩, hpost⟩, hpost⟩, trivial, trivial, trivial, nofun⟩
  have hmeets : (displaySplit 64).Meets (fun _ e => NonNegative e) .init pressInVictory :=
    TransitionSystem.meets_of_forall fun e he _ => hall e he
  have hfull := h s (TransitionSystem.reach_of_run hmeets hs) (.inl (congrArg Prod.fst heq))
  rw [show s.threads.vars.points = 6 from congrArg Prod.snd heq] at hfull
  exact absurd hfull (by decide)

end Display

end Luke

end RiotPlayground
