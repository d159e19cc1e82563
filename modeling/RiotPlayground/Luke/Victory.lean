import RiotPlayground.Luke.Display

/-!
# When the display declares a victory

`_in_victory_cond` against the accepted POSTs that left the counter at its maximum.
-/

namespace RiotPlayground

open Directive

namespace Luke

namespace Display

variable {ledCnt : UInt16}

/-- Points are posted and decay; nobody touches the difficulty. -/
def OnlyPoints : Event → Prop
  | .difficulty _ _ => False
  | .button => False
  | _ => True

/-- The POST is counted as it should be: it does not reach the maximum exactly before five are
counted, and does not run over the `uint8_t`. -/
def Counts (ledCnt : UInt16) (s : State) : Event → Prop
  | .points pdu _ => ∀ p, pdu.method = .post → pdu.scanPoints = some p →
      (newPoints p s.vars = ledCnt → LUKE_VICTORY_COND ≤ s.vars.inVictoryCond) ∧
      (ledCnt < newPoints p s.vars → s.vars.inVictoryCond ≠ 255)
  | _ => True

/-- A decay step leaves the counter below the threshold. -/
def Lapses (ledCnt : UInt16) (e : Event) (t : State) : Prop :=
  (∃ obs obs', e = .decay obs obs') ∧ belowThreshold ledCnt t.vars = true

/-- At the check of the main loop the victory branch is taken exactly when it is earned. -/
def VictoryEarned (s : State) : Prop :=
  s.loop = .check → (s.vars.victory = true ↔ 5 ≤ s.wins)

/-- A victory lasts until it lapses. -/
def VictoryLasts (ledCnt : UInt16) (s : State) (e : Event) : Prop :=
  ∀ t, step ledCnt s e = some t → s.vars.victory = true →
    t.vars.victory = true ∨ Lapses ledCnt e t

instance : DecidablePred OnlyPoints
  | .difficulty _ _ | .button => .isFalse id
  | .points _ _ | .decay _ _ | .check _ _ _ | .wake | .flagged => .isTrue trivial

instance (s : State) : DecidablePred (Counts ledCnt s)
  | .points pdu _ =>
    match hscan : pdu.scanPoints with
    | none => .isTrue fun _ _ hp => nomatch hscan.symm.trans hp
    | some p =>
      decidable_of_iff (pdu.method = .post →
          (newPoints p s.vars = ledCnt → LUKE_VICTORY_COND ≤ s.vars.inVictoryCond) ∧
          (ledCnt < newPoints p s.vars → s.vars.inVictoryCond ≠ 255))
        ⟨fun h _ hpost hp => Option.some.inj (hscan.symm.trans hp) ▸ h hpost,
          fun h hpost => h p hpost hscan⟩
  | .difficulty _ _ | .button | .decay _ _ | .check _ _ _ | .wake | .flagged => .isTrue trivial

/-- Below five the count is exact. -/
def Tally (cond : UInt8) (wins : ℕ) : Prop :=
  if cond.toNat < 5 then wins = cond.toNat else 5 ≤ wins

lemma victory_iff (s : Vars) : s.victory = true ↔ 5 ≤ s.inVictoryCond.toNat := by
  unfold Vars.victory
  rw [decide_eq_true_eq, UInt8.le_iff_toNat_le]
  rfl

lemma Tally.victory {s : State} (h : Tally s.vars.inVictoryCond s.wins) :
    s.vars.victory = true ↔ 5 ≤ s.wins := by
  rw [victory_iff]
  unfold Tally at h
  split at h <;> omega

lemma toNat_succ_cond {cond : UInt8} (h : cond ≠ 255) : (cond + 1).toNat = cond.toNat + 1 := by
  have hlt := cond.toNat_lt
  have hne : cond.toNat ≠ 255 := fun hc => h (UInt8.toNat_inj.mp hc)
  rw [UInt8.toNat_add, UInt8.toNat_one]
  omega

lemma Tally.succ {cond : UInt8} {wins : ℕ} (h : Tally cond wins) (hroom : cond ≠ 255) :
    Tally (cond + 1) (wins + 1) := by
  have hsucc := toNat_succ_cond hroom
  unfold Tally at h ⊢
  rw [hsucc]
  split at h <;> split <;> omega

lemma Tally.uncounted {cond : UInt8} {wins : ℕ} (h : Tally cond wins)
    (hwon : LUKE_VICTORY_COND ≤ cond) : Tally cond (wins + 1) := by
  have hfive : 5 ≤ cond.toNat := UInt8.le_iff_toNat_le.mp hwon
  unfold Tally at h ⊢
  split at h <;> split <;> omega

lemma atMaximum_iff (s : Vars) : atMaximum ledCnt s = true ↔ s.points = ledCnt := by
  unfold atMaximum
  rw [points_max_eq, decide_eq_true_eq, UInt16.toUInt32_inj]

/-- The cases of an accepted POST: a sum above the maximum, at the maximum, below it. -/
lemma incrementPoints_cases (p : UInt32) (obs : Bool) (s : Vars) :
    (ledCnt < newPoints p s ∧ atMaximum ledCnt (incrementPoints ledCnt p obs s) = true ∧
      (incrementPoints ledCnt p obs s).inVictoryCond = s.inVictoryCond + 1) ∨
    (newPoints p s = ledCnt ∧ atMaximum ledCnt (incrementPoints ledCnt p obs s) = true ∧
      (incrementPoints ledCnt p obs s).inVictoryCond = s.inVictoryCond) ∨
    (newPoints p s < ledCnt ∧ atMaximum ledCnt (incrementPoints ledCnt p obs s) = false ∧
      (incrementPoints ledCnt p obs s).inVictoryCond = s.inVictoryCond) := by
  obtain ⟨hpoints, hcond⟩ := incrementPoints_vars ledCnt obs s p
  by_cases hfull : ledCnt < newPoints p s
  · rw [if_pos hfull] at hpoints hcond
    exact .inl ⟨hfull, (atMaximum_iff _).mpr hpoints, hcond⟩
  · rw [if_neg hfull] at hpoints hcond
    by_cases heq : newPoints p s = ledCnt
    · exact .inr (.inl ⟨heq, (atMaximum_iff _).mpr (hpoints.trans heq), hcond⟩)
    · have hlt : newPoints p s < ledCnt :=
        UInt16.lt_of_le_of_ne (UInt16.not_lt.mp hfull) heq
      refine .inr (.inr ⟨hlt, ?_, hcond⟩)
      exact Bool.eq_false_iff.mpr fun h => heq (hpoints.symm.trans ((atMaximum_iff _).mp h))

lemma tally_points {pdu : Pdu} {obs : Bool} {s t : State} (h : Tally s.vars.inVictoryCond s.wins)
    (hC : Counts ledCnt s (.points pdu obs)) (hs : step ledCnt s (.points pdu obs) = some t) :
    Tally t.vars.inVictoryCond t.wins ∧ (s.vars.victory = true → t.vars.victory = true) := by
  obtain rfl := Option.some.inj hs
  rcases lukePoints_cases ledCnt obs s.vars pdu with ⟨p, hpost, hscan, heq⟩ | ⟨heq, hwon, -⟩
  · have hwon : won ledCnt pdu (lukePoints ledCnt pdu obs s.vars) =
        atMaximum ledCnt (incrementPoints ledCnt p obs s.vars) := by
      rw [won, hpost, heq]
      rfl
    obtain ⟨hexact, hroom⟩ := hC p hpost hscan
    rw [victory_iff, victory_iff]
    dsimp only
    rw [hwon, heq]
    dsimp only
    rcases incrementPoints_cases p obs s.vars with ⟨hsum, hmax, hcond⟩ | ⟨hsum, hmax, hcond⟩ |
      ⟨-, hmax, hcond⟩
    · rw [hmax, hcond, if_pos rfl]
      refine ⟨h.succ (hroom hsum), fun hvictory => ?_⟩
      rw [toNat_succ_cond (hroom hsum)]
      exact Nat.le_succ_of_le hvictory
    · rw [hmax, hcond, if_pos rfl]
      exact ⟨h.uncounted (hexact hsum), id⟩
    · rw [hmax, hcond, if_neg Bool.false_ne_true]
      exact ⟨h, id⟩
  · dsimp only
    rw [hwon, heq, if_neg Bool.false_ne_true]
    exact ⟨h, id⟩

lemma tally_decay {obs obs' : Bool} {s t : State} (h : Tally s.vars.inVictoryCond s.wins)
    (hs : step ledCnt s (.decay obs obs') = some t) :
    Tally t.vars.inVictoryCond t.wins ∧
    (s.vars.victory = true → t.vars.victory = true ∨ belowThreshold ledCnt t.vars = true) := by
  obtain rfl := Option.some.inj (Option.ite_none_right_eq_some.mp hs).2
  have hcond := (decay_vars ledCnt obs s.vars obs').2
  rw [victory_iff, victory_iff]
  dsimp only
  rw [hcond]
  cases belowThreshold ledCnt (decay ledCnt obs obs' s.vars) with
  | true =>
    rw [if_pos rfl, if_pos rfl]
    exact ⟨rfl, fun _ => .inr rfl⟩
  | false =>
    rw [if_neg Bool.false_ne_true, if_neg Bool.false_ne_true]
    exact ⟨h, .inl⟩

/-- Waking up changes where the loop stands, nothing else. -/
lemma vars_wake {s t : State} (hs : step ledCnt s .wake = some t) :
    t.vars = s.vars ∧ t.wins = s.wins := by
  unfold step at hs
  dsimp only at hs
  split at hs
  · obtain rfl := Option.some.inj hs
    exact ⟨rfl, rfl⟩
  · cases hs

lemma tally_step {s t : State} {e : Event} (h : Tally s.vars.inVictoryCond s.wins)
    (honly : OnlyPoints e) (hC : Counts ledCnt s e) (hs : step ledCnt s e = some t) :
    Tally t.vars.inVictoryCond t.wins ∧
    (s.vars.victory = true → t.vars.victory = true ∨ Lapses ledCnt e t) := by
  cases e with
  | points pdu obs =>
    obtain ⟨htally, hlasts⟩ := tally_points h hC hs
    exact ⟨htally, fun hvictory => .inl (hlasts hvictory)⟩
  | difficulty pdu obs => cases honly
  | button => cases honly
  | check now later res =>
    obtain rfl := Option.some.inj (Option.ite_none_right_eq_some.mp hs).2
    have hcond : (checkVictory now later res s.vars).inVictoryCond = s.vars.inVictoryCond := by
      unfold checkVictory
      split <;> rfl
    rw [victory_iff, victory_iff]
    dsimp only
    rw [hcond]
    exact ⟨h, .inl⟩
  | decay obs obs' =>
    obtain ⟨htally, hlasts⟩ := tally_decay h hs
    exact ⟨htally, fun hvictory => (hlasts hvictory).imp_right fun hlow => ⟨⟨obs, obs', rfl⟩, hlow⟩⟩
  | wake =>
    obtain ⟨hvars, hwins⟩ := vars_wake hs
    rw [hvars, hwins]
    exact ⟨h, .inl⟩
  | flagged =>
    obtain rfl := Option.some.inj (Option.ite_none_right_eq_some.mp hs).2
    exact ⟨h, .inl⟩

lemma tally_reach {s : State}
    (h : (display ledCnt).Reach (fun s e => OnlyPoints e ∧ Counts ledCnt s e) init s) :
    Tally s.vars.inVictoryCond s.wins := by
  refine h.invariant (P := fun s => Tally s.vars.inVictoryCond s.wins) rfl ?_
  exact fun s e t htally hC hs => (tally_step htally hC.1 hC.2 hs).1

/-- Runs of POSTs of points and decay steps, of any length, in which every POST that fills the
counter is counted. -/
theorem victoryEarned_counts {es : List Event} {s : State}
    (hC : (display ledCnt).Meets (fun s e => OnlyPoints e ∧ Counts ledCnt s e) init es)
    (hrun : (display ledCnt).run init es = some s) :
    VictoryEarned s ∧ ∀ e, OnlyPoints e → Counts ledCnt s e → VictoryLasts ledCnt s e := by
  have htally := tally_reach (TransitionSystem.reach_of_run hC hrun)
  exact ⟨fun _ => htally.victory, fun e honly hC t hs => (tally_step htally honly hC hs).2⟩

/-- A POST of `points`. -/
def postPoints (points : UInt32) : Event :=
  .points ⟨.post, COAP_FORMAT_JSON, sprintf LUKE_POINTS_FMT [points], []⟩ true

/-- From 62 points, one POST fills the counter exactly and four more overfill it. -/
def exactlyFull : List Event :=
  [.check 0 0 0, .decay true true, postPoints 2, postPoints 1, postPoints 1, postPoints 1,
    postPoints 1, .wake]

/-- Five POSTs have left the counter at its maximum, and no victory is declared. -/
theorem victoryEarned_exactlyFull : ¬ ∀ es s,
    (display 64).Meets (fun _ e => OnlyPoints e) init es → (display 64).run init es = some s →
      VictoryEarned s ∧ ∀ e, OnlyPoints e → VictoryLasts 64 s e := by
  intro h
  obtain ⟨s, hs, hloop, hvictory, hwins⟩ : ∃ s, (display 64).run init exactlyFull = some s ∧
      s.loop = .check ∧ s.vars.victory = false ∧ s.wins = 5 := by
    have hfinal : ((display 64).run init exactlyFull).map
        (fun s => (s.loop, s.vars.victory, s.wins)) = some (.check, false, 5) := by decide +kernel
    obtain ⟨s, hs, heq⟩ := Option.map_eq_some_iff.mp hfinal
    exact ⟨s, hs, congrArg Prod.fst heq, congrArg (·.2.1) heq, congrArg (·.2.2) heq⟩
  have hearned := ((h _ s (by decide +kernel) hs).1 hloop).mpr (Nat.le_of_eq hwins.symm)
  rw [hvictory] at hearned
  cases hearned

/-- From 62 points, five POSTs overfill the counter. -/
def overfull : List Event :=
  [.check 0 0 0, .decay true true] ++ List.replicate 5 (postPoints 3) ++ [.wake]

theorem victoryEarned_overfull : ∃ s, (display 64).run init overfull = some s ∧
    s.loop = .check ∧ s.wins = 5 ∧ s.vars.victory = true ∧ VictoryEarned s ∧
      VictoryLasts 64 s (postPoints 1) := by
  have hfinal : ((display 64).run init overfull).map
      (fun s => (s.loop, s.wins, s.vars.victory, decide (Counts 64 s (postPoints 1)))) =
      some (.check, 5, true, true) := by decide +kernel
  obtain ⟨s, hs, heq⟩ := Option.map_eq_some_iff.mp hfinal
  obtain ⟨hloop, heq⟩ := Prod.mk.inj heq
  obtain ⟨hwins, heq⟩ := Prod.mk.inj heq
  obtain ⟨hvictory, hcounts⟩ := Prod.mk.inj heq
  obtain ⟨hearned, hlasts⟩ := victoryEarned_counts (by decide +kernel) hs
  exact ⟨s, hs, hloop, hwins, hvictory, hearned, hlasts _ trivial (of_decide_eq_true hcounts)⟩

end Display

end Luke

end RiotPlayground
