import RiotPlayground.Wand.Modes

/-!
# What becomes of the light

`_lights_on` is toggled when `BTN_LIGHT` is pushed in normal mode. The timeout of the power bar
toggles it back, and so does the timeout that cancels set time mode, where it was never toggled.
-/

namespace RiotPlayground

namespace Wand

/-- What `_lights_on` was when set time mode was entered last, and for each stay in set time mode
that is over, what it was when the mode was entered and when it was left. -/
structure Stays where
  entered : Bool
  finished : List (Bool × Bool)

def Stays.init : Stays := ⟨false, []⟩

def Stays.note (stays : Stays) (s : State) (_ : Event) (t : State) : Stays :=
  if s.setTimeMode = .off ∧ t.setTimeMode ≠ .off then { stays with entered := t.lightsOn }
  else if s.setTimeMode ≠ .off ∧ t.setTimeMode = .off then
    { stays with finished := stays.finished ++ [(stays.entered, t.lightsOn)] }
  else stays

/-- The wand and a record of its stays in set time mode. -/
def wandStays : TransitionSystem (State × Stays) Event := wand.recording Stays.note

/-- While `BTN_LIGHT` is released in normal mode the LED shows `_lights_on`, and every stay in set
time mode has left `_lights_on` as it was. -/
def LightKept (p : State × Stays) : Prop :=
  (p.1.setTimeMode = .off → p.1.btnLight.pressed = false → p.1.ledLight = p.1.lightsOn) ∧
    ∀ stay ∈ p.2.finished, stay.2 = stay.1

/-- `POWER_BAR_CHANNEL` expires in set time mode while the wand is not blinking. -/
def Cancels (s : State) (e : Event) : Prop :=
  (∃ batv, e = .expire .powerBar batv) ∧ s.setTimeMode ≠ .off ∧ s.blinking = false

instance (s : State) (e : Event) : Decidable (Cancels s e) :=
  match e with
  | .expire .powerBar batv =>
    decidable_of_iff (s.setTimeMode ≠ .off ∧ s.blinking = false)
      ⟨fun h => ⟨⟨batv, rfl⟩, h⟩, And.right⟩
  | .expire .setTime _ | .push _ | .release _ | .tick _ =>
    .isFalse fun h => nomatch h.1.choose_spec

/-- Which of the toggles of `_lights_on` the LED has followed. -/
structure Lit (s : State) (stays : Stays) : Prop where
  matching : Matching s
  held : s.btnLight.flank = .rising → s.btnLight.pressed = true
  pushed : s.setTimeMode = .off → s.btnLight.cb = .btnLightRelease → s.ledLight = !s.lightsOn
  shown : s.setTimeMode = .off → s.btnLight.cb ≠ .btnLightRelease → s.ledLight = s.lightsOn
  armed : s.setTimeMode = .off → s.timer1.powerBar ≠ none → s.btnLight.cb = .btnLightRelease
  entered : s.setTimeMode ≠ .off → stays.entered = s.lightsOn
  finished : ∀ stay ∈ stays.finished, stay.2 = stay.1

variable {s t : State} {e : Event} {stays : Stays}

lemma note_same (h : s.setTimeMode = .off ↔ t.setTimeMode = .off) : stays.note s e t = stays := by
  unfold Stays.note
  rw [if_neg fun hmode => hmode.2 (h.mp hmode.1), if_neg fun hmode => hmode.1 (h.mpr hmode.2)]

lemma note_enter (hs : s.setTimeMode = .off) (ht : t.setTimeMode ≠ .off) :
    stays.note s e t = { stays with entered := t.lightsOn } :=
  if_pos ⟨hs, ht⟩

lemma note_leave (hs : s.setTimeMode ≠ .off) (ht : t.setTimeMode = .off) :
    stays.note s e t =
      { stays with finished := stays.finished ++ [(stays.entered, t.lightsOn)] } := by
  unfold Stays.note
  rw [if_neg fun hmode => hs hmode.1, if_pos ⟨hs, ht⟩]

/-- A step that leaves the light, its button and its timeout alone. -/
lemma Lit.congr (h : Lit s stays) (hmatching : Matching t) (hmode : t.setTimeMode = s.setTimeMode)
    (hlights : t.lightsOn = s.lightsOn) (hled : t.ledLight = s.ledLight)
    (hcb : t.btnLight.cb = s.btnLight.cb)
    (hheld : t.btnLight.flank = .rising → t.btnLight.pressed = true)
    (hpowerBar : t.timer1.powerBar = s.timer1.powerBar) : Lit t (stays.note s e t) := by
  rw [note_same (by rw [hmode])]
  refine ⟨hmatching, hheld, ?_, ?_, ?_, ?_, h.finished⟩
  · rw [hmode, hcb, hled, hlights]
    exact h.pushed
  · rw [hmode, hcb, hled, hlights]
    exact h.shown
  · rw [hmode, hcb, hpowerBar]
    exact h.armed
  · rw [hmode, hlights]
    exact h.entered

/-- In set time mode only `_lights_on` matters. -/
lemma Lit.setTime (h : Lit s stays) (hmatching : Matching t) (hs : s.setTimeMode ≠ .off)
    (ht : t.setTimeMode ≠ .off) (hlights : t.lightsOn = s.lightsOn)
    (hheld : t.btnLight.flank = .rising → t.btnLight.pressed = true) :
    Lit t (stays.note s e t) := by
  rw [note_same (iff_of_false hs ht)]
  refine ⟨hmatching, hheld, fun hoff => absurd hoff ht, fun hoff => absurd hoff ht,
    fun hoff => absurd hoff ht, fun _ => ?_, h.finished⟩
  rw [hlights]
  exact h.entered hs

/-- In normal mode the LED has to match the handler of `BTN_LIGHT`. -/
lemma Lit.normal (h : Lit s stays) (hmatching : Matching t) (hs : s.setTimeMode = .off)
    (ht : t.setTimeMode = .off) (hheld : t.btnLight.flank = .rising → t.btnLight.pressed = true)
    (hpushed : t.btnLight.cb = .btnLightRelease → t.ledLight = !t.lightsOn)
    (hshown : t.btnLight.cb ≠ .btnLightRelease → t.ledLight = t.lightsOn)
    (harmed : t.timer1.powerBar ≠ none → t.btnLight.cb = .btnLightRelease) :
    Lit t (stays.note s e t) := by
  rw [note_same (iff_of_true hs ht)]
  exact ⟨hmatching, hheld, fun _ => hpushed, fun _ => hshown, fun _ => harmed,
    fun hset => absurd ht hset, h.finished⟩

lemma Lit.enter (h : Lit s stays) (hmatching : Matching t) (hs : s.setTimeMode = .off)
    (ht : t.setTimeMode ≠ .off) (hheld : t.btnLight.flank = .rising → t.btnLight.pressed = true) :
    Lit t (stays.note s e t) := by
  rw [note_enter hs ht]
  exact ⟨hmatching, hheld, fun hoff => absurd hoff ht, fun hoff => absurd hoff ht,
    fun hoff => absurd hoff ht, fun _ => rfl, h.finished⟩

lemma Lit.leave (h : Lit s stays) (hmatching : Matching t) (hs : s.setTimeMode ≠ .off)
    (ht : t.setTimeMode = .off) (hcb : t.btnLight.registered = (.falling, .btnLightPush))
    (hled : t.ledLight = t.lightsOn) (hlights : t.lightsOn = s.lightsOn)
    (hpowerBar : t.timer1.powerBar = none) : Lit t (stays.note s e t) := by
  obtain ⟨hflank, hcb⟩ := Prod.mk.inj hcb
  rw [note_leave hs ht]
  refine ⟨hmatching, fun hrising => ?_, fun _ hrelease => ?_, fun _ _ => hled,
    fun _ harmed => absurd hpowerBar harmed, fun hset => absurd ht hset, fun stay hstay => ?_⟩
  · exact absurd (hrising.symm.trans hflank) nofun
  · exact absurd (hrelease.symm.trans hcb) nofun
  · rcases List.mem_append.mp hstay with hstay | hstay
    · exact h.finished stay hstay
    · obtain rfl := List.mem_singleton.mp hstay
      rw [hlights]
      exact (h.entered hs).symm

/-- The handler that waits for a release in normal mode finds the button pushed. -/
lemma Lit.pressed (h : Lit s stays) (hmode : s.setTimeMode = .off)
    (hcb : s.btnLight.cb ≠ .btnLightPush) : s.btnLight.pressed = true := by
  apply h.held
  rcases h.matching.light_off hmode with hpin | hpin | hpin
  · exact absurd (congrArg Prod.snd hpin) hcb
  · exact flank_of_registered hpin
  · exact flank_of_registered hpin

lemma lightKept_of_lit (h : Lit s stays) : LightKept (s, stays) := by
  refine ⟨fun hmode hpressed => h.shown hmode fun hcb => ?_, h.finished⟩
  have hheld := h.pressed hmode (by rw [hcb]; exact nofun)
  exact absurd (hheld.symm.trans hpressed) nofun

lemma lit_start (rtc : RtcTime) : Lit (start rtc) .init where
  matching := matching_start rtc
  held := nofun
  pushed _ := nofun
  shown _ _ := rfl
  armed _ h := absurd rfl h
  entered h := absurd rfl h
  finished := nofun

lemma lit_does (h : Lit s stays) (hdoes : Does s e t) (hcancels : ¬ Cancels s e) :
    Lit t (stays.note s e t) := by
  have hmatching := matching_does h.matching hdoes
  cases hdoes with
  | idlePush btn =>
    cases btn with
    | light => exact h.congr hmatching rfl rfl rfl rfl (fun _ => rfl) rfl
    | time => exact h.congr hmatching rfl rfl rfl rfl h.held rfl
  | idleRelease btn hflank =>
    cases btn with
    | light =>
      exact h.congr hmatching rfl rfl rfl rfl
        (fun hrising => absurd (hrising.symm.trans hflank) nofun) rfl
    | time => exact h.congr hmatching rfl rfl rfl rfl h.held rfl
  | btnLightPush hmode hpin =>
    have hcb : s.btnLight.cb = .btnLightPush := congrArg Prod.snd hpin
    have hled := h.shown hmode (by rw [hcb]; exact nofun)
    exact h.normal hmatching hmode hmode (fun _ => rfl)
      (fun _ => hled.trans (Bool.not_not _).symm) (fun hne => absurd rfl hne) (fun _ => rfl)
  | btnLightRelease hmode hpin =>
    exact h.normal hmatching hmode hmode nofun nofun (fun _ => rfl)
      (fun harmed => absurd rfl harmed)
  | showPowerOff _ hmode hpin =>
    have hcb : s.btnLight.cb = .showPowerOff := congrArg Prod.snd hpin
    have hled := h.shown hmode (by rw [hcb]; exact nofun)
    exact h.normal hmatching hmode hmode nofun nofun (fun _ => hled)
      (fun harmed => absurd (hcb.symm.trans (h.armed hmode harmed)) nofun)
  | btnTimePush => exact h.congr hmatching rfl rfl rfl rfl h.held rfl
  | btnTimeRelease => exact h.congr hmatching rfl rfl rfl rfl h.held rfl
  | decrement _ hmode => exact h.setTime hmatching hmode hmode rfl fun _ => rfl
  | increment _ hmode => exact h.setTime hmatching hmode hmode rfl h.held
  | decrementHours _ _ hmode | decrementQuarters _ _ hmode =>
    have hset : s.setTimeMode ≠ .off := by rw [hmode]; exact nofun
    exact h.setTime hmatching hset hset rfl nofun
  | incrementHours _ _ hmode | incrementQuarters _ _ hmode =>
    have hset : s.setTimeMode ≠ .off := by rw [hmode]; exact nofun
    exact h.setTime hmatching hset hset rfl h.held
  | blink _ _ _ hmode => exact h.setTime hmatching hmode hmode rfl h.held
  | showPower _ _ hmode harmed =>
    have hcb := h.armed hmode harmed
    have hpressed := h.pressed hmode (by rw [hcb]; exact nofun)
    exact h.normal hmatching hmode hmode (fun _ => hpressed) nofun
      (fun _ => h.pushed hmode hcb) (fun hpowerBar => absurd rfl hpowerBar)
  | cancel batv _ hmode hblinking => exact absurd ⟨⟨batv, rfl⟩, hmode, hblinking⟩ hcancels
  | setHours _ _ _ hmode => exact h.enter hmatching hmode nofun nofun
  | setQuarters _ _ _ hmode =>
    have hset : s.setTimeMode ≠ .off := by rw [hmode]; exact nofun
    exact h.setTime hmatching hset nofun rfl nofun
  | confirm _ _ _ hmode =>
    have hset : s.setTimeMode ≠ .off := by rw [hmode]; exact nofun
    exact h.leave hmatching hset rfl rfl rfl rfl rfl
  | tick => exact h.congr hmatching rfl rfl rfl rfl h.held rfl

/-- A cancelled stay leaves `_lights_on` toggled. -/
lemma not_lightKept_cancel (h : Lit s stays) (hdoes : Does s e t) (hcancels : Cancels s e) :
    ¬ LightKept (t, stays.note s e t) := by
  obtain ⟨⟨batv, rfl⟩, hmode, hblinking⟩ := hcancels
  cases hdoes with
  | cancel =>
    intro hkept
    rw [note_leave hmode rfl] at hkept
    have hstay := hkept.2 _ (List.mem_append_right _ (List.mem_singleton_self _))
    rw [h.entered hmode] at hstay
    exact Bool.not_ne_self _ hstay
  | blink _ _ _ _ hb => exact absurd (hb.symm.trans hblinking) nofun
  | showPower _ _ hoff => exact absurd hoff hmode

/-- The light is kept along a run exactly when no stay in set time mode is cancelled in it. -/
theorem lightKept_iff {rtc : RtcTime} {es : List Event} {s : State}
    (h : wand.run (start rtc) es = some s) :
    wandStays.Holds LightKept (start rtc, .init) es ↔
      wand.Meets (fun s e => ¬ Cancels s e) (start rtc) es := by
  obtain ⟨stays, hstays⟩ := TransitionSystem.exists_recording_run Stays.note .init h
  rw [← TransitionSystem.meets_recording]
  refine TransitionSystem.holds_iff_meets_of_invariant (I := fun p => Lit p.1 p.2)
    (fun p => lightKept_of_lit) ?_ ?_ (lit_start rtc) hstays
  · intro p e q hlit hcancels hstep
    obtain ⟨hstep, hnote⟩ := TransitionSystem.recording_step.mp hstep
    rw [hnote]
    exact lit_does hlit (does_of_step hlit.matching hstep) hcancels
  · intro p e q hlit hstep hkept hcancels
    obtain ⟨hstep, hnote⟩ := TransitionSystem.recording_step.mp hstep
    apply not_lightKept_cancel hlit (does_of_step hlit.matching hstep) hcancels
    rw [← hnote]
    exact hkept

/-- The light is toggled, the clock is set and confirmed, the power bar is shown. -/
def confirmedStay : List Event :=
  [.push .light, .release .light, .push .time, .expire .setTime none, .expire .powerBar none,
    .release .time, .push .time, .expire .setTime none, .release .time, .push .time,
    .expire .setTime none, .release .time, .push .light, .expire .powerBar none, .release .light]

theorem lightKept_confirmedStay :
    wandStays.Holds LightKept (start ⟨⟨10, 20, 5⟩, by decide, by decide⟩, .init) confirmedStay := by
  obtain ⟨s, hs⟩ : ∃ s, wand.run (start ⟨⟨10, 20, 5⟩, by decide, by decide⟩) confirmedStay =
      some s := by
    apply Option.isSome_iff_exists.mp
    decide +kernel
  apply (lightKept_iff hs).mpr
  decide +kernel

/-- A long press of `BTN_LIGHT` in set time mode. -/
def cancelledStay : List Event :=
  [.push .time, .expire .setTime none, .release .time, .push .light, .expire .powerBar none,
    .release .light]

/-- Both buttons are released, the light is off and `_lights_on` is set. -/
theorem lightKept_cancelledStay :
    ¬ ∀ rtc es s, wand.run (start rtc) es = some s →
      wandStays.Holds LightKept (start rtc, .init) es := by
  intro h
  have hfinal : (wand.run (start ⟨⟨10, 20, 5⟩, by decide, by decide⟩) cancelledStay).map
      (fun s => (s.setTimeMode, s.btnLight.pressed, s.ledLight, s.lightsOn)) =
        some (.off, false, false, true) := by decide +kernel
  obtain ⟨s, hs, hdata⟩ := Option.map_eq_some_iff.mp hfinal
  obtain ⟨hmode, hpressed, hled, hlights⟩ : s.setTimeMode = .off ∧ s.btnLight.pressed = false ∧
      s.ledLight = false ∧ s.lightsOn = true := by
    simpa only [Prod.mk.injEq] using hdata
  obtain ⟨stays, hstays⟩ := TransitionSystem.exists_recording_run Stays.note .init hs
  have hkept := (h _ _ s hs).last hstays
  exact absurd (hled.symm.trans ((hkept.1 hmode hpressed).trans hlights)) nofun

end Wand

end RiotPlayground
