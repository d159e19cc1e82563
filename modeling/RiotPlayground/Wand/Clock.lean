import RiotPlayground.Wand.Modes
import Mathlib.Data.Int.ModEq

/-!
# The clock is set to what was dialled

A record of the session is kept beside the run: what the clock showed when `BTN_TIME` was pushed,
and how often each dial was turned since. Hours are dialled modulo 12 and quarters modulo 8, and
`_time_set` rounds the 7.5 minutes of a quarter such that `_time_get` finds the quarter again.
-/

namespace RiotPlayground

namespace Wand

/-- What has happened since `_btn_time_push` read the clock. -/
structure Session where
  hour : UInt8
  quarter : UInt8
  hourIncrements : ℕ
  hourDecrements : ℕ
  quarterIncrements : ℕ
  quarterDecrements : ℕ
  /-- What `rtc_set_time` had been called with by then. -/
  rtcSets : List Tm

def Session.init : Session := ⟨0, 0, 0, 0, 0, 0, []⟩

def Session.increment (session : Session) : SetTimeMode → Session
  | .off => session
  | .quarters => { session with quarterIncrements := session.quarterIncrements + 1 }
  | .hours => { session with hourIncrements := session.hourIncrements + 1 }

def Session.decrement (session : Session) : SetTimeMode → Session
  | .off => session
  | .quarters => { session with quarterDecrements := session.quarterDecrements + 1 }
  | .hours => { session with hourDecrements := session.hourDecrements + 1 }

/-- A session begins when `_btn_time_push` runs, `_do_increment` and `_do_decrement` are counted. -/
def Session.note (session : Session) (s : State) (e : Event) (_ : State) : Session :=
  match s.handler e with
  | some .btnTimePush => ⟨(timeGet s).curHour, (timeGet s).curQuarter, 0, 0, 0, 0, s.rtcSets⟩
  | some .doIncrement => session.increment s.setTimeMode
  | some .doDecrement => session.decrement s.setTimeMode
  | _ => session

/-- The hour the session asks for. -/
def Session.dialledHour (session : Session) : ℤ :=
  session.hour.toNat + session.hourIncrements - session.hourDecrements

/-- The quarter the session asks for. -/
def Session.dialledQuarter (session : Session) : ℤ :=
  session.quarter.toNat + session.quarterIncrements - session.quarterDecrements

/-- The wand and a record of its session. -/
def wandSession : TransitionSystem (State × Session) Event := wand.recording Session.note

/-- `SET_TIME_CHANNEL` expires while the quarters are set and the wand is not blinking. -/
def Confirms (s : State) (e : Event) : Prop :=
  (∃ batv, e = .expire .setTime batv) ∧ s.setTimeMode = .quarters ∧ s.blinking = false

/-- From the push of `BTN_TIME` to the end of set time mode, or to the release before it. -/
def State.InSession (s : State) : Prop := s.setTimeMode ≠ .off ∨ s.timer1.setTime ≠ none

/-- The dials show what the session asks for, and nothing has been written yet. -/
structure Dialled (s : State) (session : Session) : Prop where
  matching : Matching s
  rtc_hour : s.rtc.tmHour < 24
  rtc_min : s.rtc.tmMin < 60
  hour_le : s.curHour.toNat ≤ hourMax
  quarter_lt : s.curQuarter.toNat < quarterMax
  hour : s.curHour.toNat ≡ session.dialledHour [ZMOD hourMax]
  quarter : s.curQuarter.toNat ≡ session.dialledQuarter [ZMOD quarterMax]
  rtcSets : s.InSession → s.rtcSets = session.rtcSets

variable {s t : State} {e : Event} {session : Session}

section Dial

variable {n x : ℕ} {a : ℤ}

lemma turnUp_modEq (h : x ≡ a [ZMOD n]) : ((x + 1) % n : ℕ) ≡ a + 1 [ZMOD n] := by
  push_cast
  exact (Int.mod_modEq _ _).trans (h.add_right 1)

lemma turnDown_modEq (hn : 0 < n) (h : x ≡ a [ZMOD n]) :
    (if 0 < x then x - 1 else n - 1 : ℕ) ≡ a - 1 [ZMOD n] := by
  have hx := h.sub_right 1
  split
  · rename_i hpos
    rwa [Nat.cast_sub hpos]
  · rename_i hzero
    obtain rfl : x = 0 := by omega
    rw [Nat.cast_sub hn]
    calc (n : ℤ) - (1 : ℕ) ≡ 0 - 1 [ZMOD n] := (Int.ModEq.sub_right _ (by simp [Int.ModEq]))
      _ ≡ a - 1 [ZMOD n] := hx

end Dial

lemma toNat_turnUp {x : UInt8} {n : ℕ} (hn : 0 < n) (hle : n ≤ 256) :
    ((x.toNat + 1) % n).toUInt8.toNat = (x.toNat + 1) % n := by
  have hlt := Nat.mod_lt (x.toNat + 1) hn
  exact UInt8.toNat_ofNat_of_lt' (show _ < 256 by omega)

lemma toNat_turnDown {x : UInt8} {n : ℕ} (hle : n ≤ 256) :
    (if x > 0 then x - 1 else (n - 1).toUInt8).toNat =
      if 0 < x.toNat then x.toNat - 1 else n - 1 := by
  by_cases hx : x > 0
  · have hpos : 0 < x.toNat := hx
    rw [if_pos hx, if_pos hpos]
    exact UInt8.toNat_sub_of_le _ _ hpos
  · have hpos : ¬ 0 < x.toNat := hx
    rw [if_neg hx, if_neg hpos]
    exact UInt8.toNat_ofNat_of_lt' (show _ < 256 by omega)

lemma toNat_timeGet_hour (h : s.rtc.tmHour < 24) :
    (timeGet s).curHour.toNat =
      if s.rtc.tmHour > hourMax then s.rtc.tmHour - hourMax else s.rtc.tmHour := by
  unfold timeGet hourMax
  dsimp only
  split
  · exact UInt8.toNat_ofNat_of_lt' (show _ < 256 by omega)
  · exact UInt8.toNat_ofNat_of_lt' (show _ < 256 by omega)

lemma toNat_timeGet_quarter (h : s.rtc.tmMin < 60) :
    (timeGet s).curQuarter.toNat = s.rtc.tmMin * 10 / 75 :=
  UInt8.toNat_ofNat_of_lt' (show s.rtc.tmMin * 10 / 75 < 256 by omega)

/-- What `_time_set` writes for a quarter lies in that quarter. -/
lemma quarter_timeSet {q : ℕ} (h : q < quarterMax) :
    (if q % 2 ≠ 0 then q * 75 / 10 + 1 else q * 75 / 10) < 60 ∧
      (if q % 2 ≠ 0 then q * 75 / 10 + 1 else q * 75 / 10) * 10 / 75 = q := by
  unfold quarterMax at h
  split
  · omega
  · omega

lemma Dialled.congr (h : Dialled s session) (hmatching : Matching t) (hrtc : t.rtc = s.rtc)
    (hhour : t.curHour = s.curHour) (hquarter : t.curQuarter = s.curQuarter)
    (hsets : t.rtcSets = s.rtcSets) (hin : t.InSession → s.InSession) : Dialled t session where
  matching := hmatching
  rtc_hour := hrtc ▸ h.rtc_hour
  rtc_min := hrtc ▸ h.rtc_min
  hour_le := hhour ▸ h.hour_le
  quarter_lt := hquarter ▸ h.quarter_lt
  hour := hhour ▸ h.hour
  quarter := hquarter ▸ h.quarter
  rtcSets ht := hsets.trans (h.rtcSets (hin ht))

lemma note_handler {cb : Handler} (h : s.handler e = some cb) (hpush : cb ≠ .btnTimePush)
    (hincrement : cb ≠ .doIncrement) (hdecrement : cb ≠ .doDecrement) :
    session.note s e t = session := by
  unfold Session.note
  rw [h]
  cases cb with
  | btnTimePush => exact absurd rfl hpush
  | doIncrement => exact absurd rfl hincrement
  | doDecrement => exact absurd rfl hdecrement
  | _ => rfl

lemma note_none (h : s.handler e = none) : session.note s e t = session := by
  unfold Session.note
  rw [h]

lemma note_doIncrement {mode : SetTimeMode} (h : s.handler e = some .doIncrement)
    (hmode : s.setTimeMode = mode) : session.note s e t = session.increment mode := by
  unfold Session.note
  rw [h, hmode]

lemma note_doDecrement {mode : SetTimeMode} (h : s.handler e = some .doDecrement)
    (hmode : s.setTimeMode = mode) : session.note s e t = session.decrement mode := by
  unfold Session.note
  rw [h, hmode]

lemma dialledHour_increment :
    (session.increment .hours).dialledHour = session.dialledHour + 1 := by
  unfold Session.dialledHour Session.increment
  dsimp only
  omega

lemma dialledHour_decrement :
    (session.decrement .hours).dialledHour = session.dialledHour - 1 := by
  unfold Session.dialledHour Session.decrement
  dsimp only
  omega

lemma dialledQuarter_increment :
    (session.increment .quarters).dialledQuarter = session.dialledQuarter + 1 := by
  unfold Session.dialledQuarter Session.increment
  dsimp only
  omega

lemma dialledQuarter_decrement :
    (session.decrement .quarters).dialledQuarter = session.dialledQuarter - 1 := by
  unfold Session.dialledQuarter Session.decrement
  dsimp only
  omega

lemma dialled_start (rtc : RtcTime) : Dialled (start rtc) .init where
  matching := matching_start rtc
  rtc_hour := rtc.hour_lt
  rtc_min := rtc.min_lt
  hour_le := Nat.zero_le _
  quarter_lt := Nat.succ_pos _
  hour := rfl
  quarter := rfl
  rtcSets _ := rfl

/-- A dial turned in set time mode: the hour changes and the quarter stays, or the other way. -/
lemma Dialled.turnHour (h : Dialled s session) (next : Session) (hset : s.setTimeMode ≠ .off)
    (hmatching : Matching t) (hrtc : t.rtc = s.rtc) (hsets : t.rtcSets = s.rtcSets)
    (hquarter : t.curQuarter = s.curQuarter) (hnext : next.dialledQuarter = session.dialledQuarter)
    (hnextSets : next.rtcSets = session.rtcSets) (hle : t.curHour.toNat ≤ hourMax)
    (hhour : t.curHour.toNat ≡ next.dialledHour [ZMOD hourMax]) : Dialled t next where
  matching := hmatching
  rtc_hour := hrtc ▸ h.rtc_hour
  rtc_min := hrtc ▸ h.rtc_min
  hour_le := hle
  quarter_lt := hquarter ▸ h.quarter_lt
  hour := hhour
  quarter := by
    rw [hquarter, hnext]
    exact h.quarter
  rtcSets _ := by
    rw [hsets, hnextSets]
    exact h.rtcSets (.inl hset)

lemma Dialled.turnQuarter (h : Dialled s session) (next : Session) (hset : s.setTimeMode ≠ .off)
    (hmatching : Matching t) (hrtc : t.rtc = s.rtc) (hsets : t.rtcSets = s.rtcSets)
    (hhour : t.curHour = s.curHour) (hnext : next.dialledHour = session.dialledHour)
    (hnextSets : next.rtcSets = session.rtcSets) (hlt : t.curQuarter.toNat < quarterMax)
    (hquarter : t.curQuarter.toNat ≡ next.dialledQuarter [ZMOD quarterMax]) : Dialled t next where
  matching := hmatching
  rtc_hour := hrtc ▸ h.rtc_hour
  rtc_min := hrtc ▸ h.rtc_min
  hour_le := hhour ▸ h.hour_le
  quarter_lt := hlt
  hour := by
    rw [hhour, hnext]
    exact h.hour
  quarter := hquarter
  rtcSets _ := by
    rw [hsets, hnextSets]
    exact h.rtcSets (.inl hset)

lemma turnDown_le {x : UInt8} {n : ℕ} (hle : n ≤ 256) (hx : x.toNat ≤ n) :
    (if x > 0 then x - 1 else (n - 1).toUInt8).toNat ≤ n - 1 := by
  rw [toNat_turnDown hle]
  split
  · omega
  · omega

/-- The dials start at the time of the clock. -/
lemma timeGet_le (hhour : s.rtc.tmHour < 24) (hmin : s.rtc.tmMin < 60) :
    (timeGet s).curHour.toNat ≤ hourMax ∧ (timeGet s).curQuarter.toNat < quarterMax := by
  rw [toNat_timeGet_hour hhour, toNat_timeGet_quarter hmin]
  unfold hourMax quarterMax
  constructor
  · split
    · omega
    · omega
  · omega

lemma dialled_does (h : Dialled s session) (hdoes : Does s e t) :
    Dialled t (session.note s e t) := by
  have hmatching := matching_does h.matching hdoes
  cases hdoes with
  | idlePush btn hflank =>
    rw [note_none (handler_idlePush hflank)]
    cases btn <;> exact h.congr hmatching rfl rfl rfl rfl id
  | idleRelease btn hflank =>
    rw [note_none (handler_idleRelease hflank)]
    cases btn <;> exact h.congr hmatching rfl rfl rfl rfl id
  | btnLightPush hmode hpin =>
    rw [note_handler (handler_push hpin) nofun nofun nofun]
    exact h.congr hmatching rfl rfl rfl rfl id
  | btnLightRelease hmode hpin =>
    rw [note_handler (handler_release hpin) nofun nofun nofun]
    exact h.congr hmatching rfl rfl rfl rfl id
  | showPowerOff _ hmode hpin =>
    rw [note_handler (handler_release hpin) nofun nofun nofun]
    exact h.congr hmatching rfl rfl rfl rfl id
  | btnTimePush _ hmode hpin =>
    unfold Session.note
    rw [handler_push hpin]
    obtain ⟨hle, hlt⟩ := timeGet_le h.rtc_hour h.rtc_min
    refine ⟨hmatching, h.rtc_hour, h.rtc_min, hle, hlt, ?_, ?_, fun _ => rfl⟩
    · show ((timeGet s).curHour.toNat : ℤ) ≡ (timeGet s).curHour.toNat + 0 - 0 [ZMOD hourMax]
      rw [add_zero, sub_zero]
    · show ((timeGet s).curQuarter.toNat : ℤ) ≡ (timeGet s).curQuarter.toNat + 0 - 0
        [ZMOD quarterMax]
      rw [add_zero, sub_zero]
  | btnTimeRelease _ hmode hpin =>
    rw [note_handler (handler_release hpin) nofun nofun nofun]
    exact h.congr hmatching rfl rfl rfl rfl fun hin =>
      hin.elim .inl fun harmed => absurd rfl harmed
  | decrement _ hmode hpin =>
    rw [note_handler (handler_push hpin) nofun nofun nofun]
    exact h.congr hmatching rfl rfl rfl rfl fun _ => .inl hmode
  | increment _ hmode hpin =>
    rw [note_handler (handler_push hpin) nofun nofun nofun]
    exact h.congr hmatching rfl rfl rfl rfl fun _ => .inl hmode
  | blink _ _ _ hmode =>
    exact h.congr hmatching rfl rfl rfl rfl fun _ => .inl hmode
  | showPower =>
    exact h.congr hmatching rfl rfl rfl rfl id
  | cancel =>
    exact h.congr hmatching rfl rfl rfl rfl fun hin =>
      hin.elim (absurd rfl) (absurd rfl)
  | setHours _ _ _ _ harmed =>
    exact h.congr hmatching rfl rfl rfl rfl fun _ => .inr harmed
  | setQuarters _ _ _ hmode _ harmed =>
    exact h.congr hmatching rfl rfl rfl rfl fun _ => .inr harmed
  | decrementHours _ _ hmode hpin =>
    have hset : s.setTimeMode ≠ .off := by rw [hmode]; exact nofun
    rw [note_doDecrement (handler_release hpin) hmode]
    apply h.turnHour (session.decrement .hours) hset hmatching rfl rfl rfl rfl rfl
    · exact (turnDown_le (by decide) h.hour_le).trans (Nat.sub_le _ 1)
    · dsimp only
      rw [toNat_turnDown (by decide), dialledHour_decrement]
      exact turnDown_modEq (by decide) h.hour
  | decrementQuarters _ _ hmode hpin =>
    have hset : s.setTimeMode ≠ .off := by rw [hmode]; exact nofun
    rw [note_doDecrement (handler_release hpin) hmode]
    apply h.turnQuarter (session.decrement .quarters) hset hmatching rfl rfl rfl rfl rfl
    · exact Nat.lt_of_le_pred (by decide) (turnDown_le (by decide) h.quarter_lt.le)
    · dsimp only
      rw [toNat_turnDown (by decide), dialledQuarter_decrement]
      exact turnDown_modEq (by decide) h.quarter
  | incrementHours _ _ hmode hpin =>
    have hset : s.setTimeMode ≠ .off := by rw [hmode]; exact nofun
    have hturn := toNat_turnUp (x := s.curHour) (n := hourMax) (by decide) (by decide)
    rw [note_doIncrement (handler_release hpin) hmode]
    apply h.turnHour (session.increment .hours) hset hmatching rfl rfl rfl rfl rfl
    · dsimp only
      rw [hturn]
      exact (Nat.mod_lt _ (by decide)).le
    · dsimp only
      rw [hturn, dialledHour_increment]
      exact turnUp_modEq h.hour
  | incrementQuarters _ _ hmode hpin =>
    have hset : s.setTimeMode ≠ .off := by rw [hmode]; exact nofun
    have hturn := toNat_turnUp (x := s.curQuarter) (n := quarterMax) (by decide) (by decide)
    rw [note_doIncrement (handler_release hpin) hmode]
    apply h.turnQuarter (session.increment .quarters) hset hmatching rfl rfl rfl rfl rfl
    · dsimp only
      rw [hturn]
      exact Nat.mod_lt _ (by decide)
    · dsimp only
      rw [hturn, dialledQuarter_increment]
      exact turnUp_modEq h.quarter
  | confirm =>
    refine ⟨hmatching, ?_, ?_, h.hour_le, h.quarter_lt, h.hour, h.quarter, fun hin =>
      hin.elim (absurd rfl) (absurd rfl)⟩
    · exact h.hour_le.trans_lt (by decide)
    · exact (quarter_timeSet h.quarter_lt).1
  | tick rtc =>
    exact ⟨hmatching, rtc.hour_lt, rtc.min_lt, h.hour_le, h.quarter_lt, h.hour, h.quarter,
      h.rtcSets⟩

theorem dialled_step (h : Dialled s session) (hs : step s e = some t) :
    Dialled t (session.note s e t) :=
  dialled_does h (does_of_step h.matching hs)

/-- Only a confirmation calls `rtc_set_time`. -/
lemma rtcSets_does (hdoes : Does s e t) (hconfirms : ¬ Confirms s e) :
    t.rtcSets = s.rtcSets ∧ ((∀ rtc, e ≠ .tick rtc) → t.rtc = s.rtc) := by
  cases hdoes with
  | idlePush btn => cases btn <;> exact ⟨rfl, fun _ => rfl⟩
  | idleRelease btn => cases btn <;> exact ⟨rfl, fun _ => rfl⟩
  | confirm batv _ _ hmode hblinking =>
    exact absurd ⟨⟨batv, rfl⟩, hmode, hblinking⟩ hconfirms
  | tick rtc => exact ⟨rfl, fun h => absurd rfl (h rtc)⟩
  | _ => exact ⟨rfl, fun _ => rfl⟩

/-- A confirmation writes a time that reads as what the dials show. -/
lemma readBack_does (h : Dialled s session) (hdoes : Does s e t) (hconfirms : Confirms s e) :
    t.rtcSets = s.rtcSets ++ [t.rtc] ∧
      (timeGet t).curHour.toNat = s.curHour.toNat ∧
      (timeGet t).curQuarter.toNat = s.curQuarter.toNat := by
  obtain ⟨⟨batv, rfl⟩, hmode, hblinking⟩ := hconfirms
  cases hdoes with
  | confirm =>
    have hle := h.hour_le
    have hquarter := quarter_timeSet h.quarter_lt
    refine ⟨rfl, ?_, ?_⟩
    · apply (toNat_timeGet_hour (hle.trans_lt (by decide))).trans
      exact if_neg (Nat.not_lt_of_le hle)
    · exact (toNat_timeGet_quarter hquarter.1).trans hquarter.2
  | blink _ _ _ _ hb => exact absurd (hb.symm.trans hblinking) nofun
  | setHours _ _ _ hoff => exact absurd (hoff.symm.trans hmode) nofun
  | setQuarters _ _ _ hhours => exact absurd (hhours.symm.trans hmode) nofun

/-- In every run `rtc_set_time` is called by confirmations only, once in a session, with a time that
reads as the hour and the quarter dialled. -/
theorem clock_dialled {rtc : RtcTime} {es : List Event} {s t : State} {e : Event}
    (hrun : wand.run (start rtc) es = some s) (hs : wand.step s e = some t) :
    ∃ session, wandSession.run (start rtc, .init) es = some (s, session) ∧
      (¬ Confirms s e → t.rtcSets = s.rtcSets ∧ ((∀ rtc, e ≠ .tick rtc) → t.rtc = s.rtc)) ∧
      (¬ Confirms s e → s.InSession → t.rtcSets = session.rtcSets) ∧
      (Confirms s e → t.rtcSets = session.rtcSets ++ [t.rtc] ∧
        (timeGet t).curHour.toNat ≡ session.dialledHour [ZMOD hourMax] ∧
        (timeGet t).curQuarter.toNat ≡ session.dialledQuarter [ZMOD quarterMax]) := by
  obtain ⟨session, hsession⟩ :=
    TransitionSystem.exists_recording_run Session.note .init hrun
  have hreach := TransitionSystem.reach_of_run (TransitionSystem.meets_true _ _) hsession
  have hdialled : Dialled s session := by
    refine hreach.invariant (P := fun p => Dialled p.1 p.2) (dialled_start rtc) ?_
    intro p e q h _ hstep
    obtain ⟨hstep, hnote⟩ := TransitionSystem.recording_step.mp hstep
    rw [hnote]
    exact dialled_step h hstep
  have hdoes := does_of_step hdialled.matching hs
  refine ⟨session, hsession, rtcSets_does hdoes, ?_, ?_⟩
  · intro hconfirms hin
    rw [(rtcSets_does hdoes hconfirms).1]
    exact hdialled.rtcSets hin
  · intro hconfirms
    have hin : s.InSession := .inl (by rw [hconfirms.2.1]; exact nofun)
    obtain ⟨hsets, hhour, hquarter⟩ := readBack_does hdialled hdoes hconfirms
    rw [hsets, hdialled.rtcSets hin, hhour, hquarter]
    exact ⟨rfl, hdialled.hour, hdialled.quarter⟩

/-- At 10:20 the hour is dialled up once and the quarter down once. -/
theorem clock_dialled_1108 :
    ∃ s t session,
      wandSession.run (start ⟨⟨10, 20, 5⟩, by decide, by decide⟩, .init)
        [.push .time, .expire .setTime none, .release .time, .push .time, .release .time,
          .push .time, .expire .setTime none, .release .time, .push .light, .release .light,
          .push .time] = some (s, session) ∧
      wand.step s (.expire .setTime none) = some t ∧ t.rtc = ⟨11, 8, 0⟩ ∧
      t.rtcSets = session.rtcSets ++ [t.rtc] ∧
      (timeGet t).curHour.toNat ≡ session.dialledHour [ZMOD hourMax] ∧
      (timeGet t).curQuarter.toNat ≡ session.dialledQuarter [ZMOD quarterMax] := by
  have hfinal :
      ((wand.run (start ⟨⟨10, 20, 5⟩, by decide, by decide⟩)
        [.push .time, .expire .setTime none, .release .time, .push .time, .release .time,
          .push .time, .expire .setTime none, .release .time, .push .light, .release .light,
          .push .time]).bind fun s => (wand.step s (.expire .setTime none)).map fun t =>
            (s.setTimeMode, s.blinking, t.rtc)) = some (.quarters, false, ⟨11, 8, 0⟩) := by
    decide +kernel
  obtain ⟨s, hrun, hstep⟩ := Option.bind_eq_some_iff.mp hfinal
  obtain ⟨t, hs, hdata⟩ := Option.map_eq_some_iff.mp hstep
  obtain ⟨hmode, hblinking, hrtc⟩ : s.setTimeMode = .quarters ∧ s.blinking = false ∧
      t.rtc = ⟨11, 8, 0⟩ := by
    simpa only [Prod.mk.injEq] using hdata
  obtain ⟨session, hsession, -, -, hconfirmed⟩ := clock_dialled hrun hs
  exact ⟨s, t, session, hsession, hs, hrtc, hconfirmed ⟨⟨none, rfl⟩, hmode, hblinking⟩⟩

end Wand

end RiotPlayground
