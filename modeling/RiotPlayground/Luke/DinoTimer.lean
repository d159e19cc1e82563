import RiotPlayground.Luke.Dino
import RiotPlayground.Lib.TransitionSystem

/-!
# The motor of the dino and its timer

`_set_dino` runs in the main thread once, and in the thread of the requests for each POST, which has
the higher priority. The button and the timer interrupt both between any two statements.
-/

namespace RiotPlayground

namespace Luke

namespace Dino

/-- `5 * US_PER_SEC` -/
def clearDelay : ℕ := 5000000

/-- Which statement of `_set_dino` is next. -/
inductive SetDino
  | led
  | pin
  | timer
  | returned
  deriving DecidableEq

/-- The LED, the pin of the motor and when `_clear_timer` expires, with where both threads stand. -/
structure Board where
  now : ℕ
  led0 : Bool
  movePin : Bool
  clearTimer : Option ℕ
  main : SetDino
  handler : SetDino

def Board.boot : Board := ⟨0, false, false, none, .led, .returned⟩

/-- One statement of `_set_dino`. -/
def SetDino.step (s : Board) : SetDino → Option (SetDino × Board)
  | .led => some (.pin, { s with led0 := true })
  | .pin => some (.timer, { s with movePin := true })
  | .timer => some (.returned, { s with clearTimer := some (s.now + clearDelay) })
  | .returned => none

def clearDino (s : Board) : Board := { s with led0 := false, movePin := false, clearTimer := none }

def toggleDino (s : Board) : Board :=
  { s with
    led0 := !s.led0
    movePin := !s.movePin
    clearTimer := some (s.now + clearDelay) }

/-- `post` is a POST of points that calls `_set_dino`. -/
inductive Event
  | pass (n : ℕ)
  | expire
  | press
  | post
  | handler
  | main

/-- Time passes up to where the timer expires. Main runs when there is no request. -/
def boardStep (s : Board) : Event → Option Board
  | .pass n =>
    if s.clearTimer.all fun due => s.now + n ≤ due then some { s with now := s.now + n } else none
  | .expire => if s.clearTimer = some s.now then some (clearDino s) else none
  | .press => some (toggleDino s)
  | .post => if s.handler = .returned then some { s with handler := .led } else none
  | .handler => (SetDino.step s s.handler).map fun p => { p.2 with handler := p.1 }
  | .main =>
    if s.handler = .returned then (SetDino.step s s.main).map fun p => { p.2 with main := p.1 }
    else none

def board : TransitionSystem Board Event := ⟨boardStep⟩

/-- When `xtimer_set` was called last. -/
def noteSet (last : ℕ) (s : Board) (e : Event) (_ : Board) : ℕ :=
  match e with
  | .press => s.now
  | .handler => if s.handler = .timer then s.now else last
  | .main => if s.main = .timer then s.now else last
  | _ => last

def timedBoard : TransitionSystem (Board × ℕ) Event := board.recording noteSet

variable {s t : Board} {e : Event}

def Board.state (s : Board) (notified : List (List Char)) : State :=
  ⟨s.led0, s.movePin, s.clearTimer.isSome, notified⟩

/-- Without an interruption the statements are `setDino`. -/
lemma setDino_handler (h : s.handler = .returned) (notified : List (List Char)) :
    (board.run s [.post, .handler, .handler, .handler]).map (Board.state · notified) =
      some (setDino (s.state notified)) := by
  obtain ⟨now, led0, movePin, clearTimer, main, handler⟩ := s
  cases h
  rfl

/-- What a statement of `_set_dino` does. -/
inductive Sets (s : Board) : SetDino → SetDino → Board → Prop
  | led : Sets s .led .pin { s with led0 := true }
  | pin : Sets s .pin .timer { s with movePin := true }
  | timer : Sets s .timer .returned { s with clearTimer := some (s.now + clearDelay) }

lemma sets_of_step {at_ next : SetDino} (h : SetDino.step s at_ = some (next, t)) :
    Sets s at_ next t := by
  cases at_ with
  | returned => cases h
  | led =>
    obtain ⟨rfl, rfl⟩ := Prod.mk.inj (Option.some.inj h)
    exact .led
  | pin =>
    obtain ⟨rfl, rfl⟩ := Prod.mk.inj (Option.some.inj h)
    exact .pin
  | timer =>
    obtain ⟨rfl, rfl⟩ := Prod.mk.inj (Option.some.inj h)
    exact .timer

/-- What a step can do. -/
inductive Moves (s : Board) : Event → Board → Prop
  | pass (n : ℕ) (hdue : ∀ due, s.clearTimer = some due → s.now + n ≤ due) :
      Moves s (.pass n) { s with now := s.now + n }
  | expire (hdue : s.clearTimer = some s.now) : Moves s .expire (clearDino s)
  | press : Moves s .press (toggleDino s)
  | post (hidle : s.handler = .returned) : Moves s .post { s with handler := .led }
  | handler {next : SetDino} {u : Board} (hsets : Sets s s.handler next u) :
      Moves s .handler { u with handler := next }
  | main {next : SetDino} {u : Board} (hidle : s.handler = .returned)
      (hsets : Sets s s.main next u) : Moves s .main { u with main := next }

theorem moves_of_step (hs : boardStep s e = some t) : Moves s e t := by
  cases e with
  | pass n =>
    obtain ⟨hdue, hs⟩ := Option.ite_none_right_eq_some.mp hs
    obtain rfl := Option.some.inj hs
    refine .pass n fun due hsome => ?_
    rw [hsome] at hdue
    simpa using hdue
  | expire =>
    obtain ⟨hdue, hs⟩ := Option.ite_none_right_eq_some.mp hs
    obtain rfl := Option.some.inj hs
    exact .expire hdue
  | press =>
    obtain rfl := Option.some.inj hs
    exact .press
  | post =>
    obtain ⟨hidle, hs⟩ := Option.ite_none_right_eq_some.mp hs
    obtain rfl := Option.some.inj hs
    exact .post hidle
  | handler =>
    obtain ⟨⟨next, u⟩, hstep, rfl⟩ := Option.map_eq_some_iff.mp hs
    exact .handler (sets_of_step hstep)
  | main =>
    obtain ⟨hidle, hs⟩ := Option.ite_none_right_eq_some.mp hs
    obtain ⟨⟨next, u⟩, hstep, rfl⟩ := Option.map_eq_some_iff.mp hs
    exact .main hidle (sets_of_step hstep)

/-- `_set_dino` has begun, and the timer is not set yet. -/
def SetDino.Begun (d : SetDino) : Prop := d = .pin ∨ d = .timer

lemma not_begun_returned : ¬ SetDino.returned.Begun := by
  simp [SetDino.Begun]

def Board.Setting (s : Board) : Prop := s.main.Begun ∨ s.handler.Begun

/-- The timer runs for as long as after it was set, and whatever is on will be cleared by it. -/
structure Armed (p : Board × ℕ) : Prop where
  due : ∀ due, p.1.clearTimer = some due → due = p.2 + clearDelay ∧ p.1.now ≤ due
  on : p.1.led0 = true ∨ p.1.movePin = true → p.1.clearTimer ≠ none ∨ p.1.Setting

lemma armed_boot : Armed (.boot, 0) where
  due _ hdue := by cases hdue
  on hon := by
    rcases hon with hon | hon
    · cases hon
    · cases hon

/-- After a statement of `_set_dino` the timer is set, or the next statement will set it. -/
lemma Sets.armed {at_ next : SetDino} {u : Board} (h : Sets s at_ next u) :
    u.clearTimer ≠ none ∨ next.Begun := by
  cases h with
  | led => exact .inr (.inl rfl)
  | pin => exact .inr (.inr rfl)
  | timer => exact .inl (Option.some_ne_none _)

/-- Only the last statement sets the timer, and it is noted then. -/
lemma Sets.due {at_ next : SetDino} {u : Board} {last : ℕ} (h : Sets s at_ next u)
    (hdue : ∀ due, s.clearTimer = some due → due = last + clearDelay ∧ s.now ≤ due) :
    ∀ due, u.clearTimer = some due →
      due = (if at_ = .timer then s.now else last) + clearDelay ∧ u.now ≤ due := by
  intro due hsome
  cases h with
  | led => exact hdue due hsome
  | pin => exact hdue due hsome
  | timer =>
    obtain rfl := Option.some.inj hsome
    exact ⟨rfl, Nat.le_add_right _ _⟩

lemma armed_step (p : Board × ℕ) (e : Event) (q : Board × ℕ) (h : Armed p) (_ : True)
    (hs : timedBoard.step p e = some q) : Armed q := by
  obtain ⟨s, last⟩ := p
  obtain ⟨t, last'⟩ := q
  obtain ⟨hstep, hnote⟩ := TransitionSystem.recording_step.mp hs
  change last' = noteSet last s e t at hnote
  subst hnote
  cases moves_of_step hstep with
  | pass n hdue => exact ⟨fun due hsome => ⟨(h.due due hsome).1, hdue due hsome⟩, h.on⟩
  | expire hdue => constructor <;> simp
  | press =>
    constructor
    · intro due hsome
      obtain rfl := Option.some.inj hsome
      exact ⟨rfl, Nat.le_add_right _ _⟩
    · exact fun _ => .inl (Option.some_ne_none _)
  | post hidle =>
    refine ⟨h.due, fun hon => ?_⟩
    rcases h.on hon with harmed | hmain | hhandler
    · exact .inl harmed
    · exact .inr (.inl hmain)
    · change s.handler = .returned at hidle
      change s.handler.Begun at hhandler
      rw [hidle] at hhandler
      exact absurd hhandler not_begun_returned
  | handler hsets => exact ⟨hsets.due h.due, fun _ => hsets.armed.imp_right .inr⟩
  | main hidle hsets => exact ⟨hsets.due h.due, fun _ => hsets.armed.imp_right .inl⟩

/-- Once nobody is in `_set_dino`, whatever is on is off again five seconds after the timer was set
last. -/
theorem motor_stops {es : List Event} {last : ℕ}
    (hrun : timedBoard.run (.boot, 0) es = some (s, last)) (hset : ¬ s.Setting)
    (hon : s.led0 = true ∨ s.movePin = true) :
    s.clearTimer = some (last + clearDelay) ∧ s.now ≤ last + clearDelay := by
  have h : Armed (s, last) := (TransitionSystem.reach_of_run
    (TransitionSystem.meets_true _ es) hrun).invariant armed_boot armed_step
  obtain ⟨due, hdue⟩ := Option.ne_none_iff_exists'.mp ((h.on hon).resolve_right hset)
  obtain ⟨rfl, hle⟩ := h.due due hdue
  exact ⟨hdue, hle⟩

theorem motor_stops_interrupted :
    let s : Board := ⟨3, true, true, some 5000003, .returned, .returned⟩
    timedBoard.run (.boot, 0)
        [.main, .pass 3, .post, .handler, .handler, .press, .handler, .press, .main, .main] =
        some (s, 3) ∧
      s.clearTimer = some (3 + clearDelay) ∧ s.now ≤ 3 + clearDelay := by
  intro s
  have hrun : timedBoard.run (.boot, 0)
      [.main, .pass 3, .post, .handler, .handler, .press, .handler, .press, .main, .main] =
      some (s, 3) := rfl
  exact ⟨hrun, motor_stops hrun (by simp [s, Board.Setting, SetDino.Begun]) (.inl rfl)⟩

/-! ### The LED shows the motor -/

/-- A thread is between `LED0_ON` and `gpio_set`. -/
def Board.Between (s : Board) : Prop := s.main = .pin ∨ s.handler = .pin

/-- Unless it is just being switched on, the motor runs when the LED is on. -/
def Board.Agree (s : Board) : Prop := ¬ s.Between → s.led0 = s.movePin

/-- A `gpio_set` after which no thread is in between finds the LED on. -/
def LedKept (s : Board) : Event → Prop
  | .handler => s.handler = .pin → s.main ≠ .pin → s.led0 = true
  | .main => s.main = .pin → s.led0 = true
  | _ => True

instance (s : Board) : ∀ e, Decidable (LedKept s e)
  | .pass _ => .isTrue trivial
  | .expire => .isTrue trivial
  | .press => .isTrue trivial
  | .post => .isTrue trivial
  | .handler => inferInstanceAs (Decidable (_ → _ → _))
  | .main => inferInstanceAs (Decidable (_ → _))

/-- A step that switches nothing and takes no thread out of between. -/
lemma Board.Agree.of_between (h : s.Agree) (hin : s.Between → t.Between) (hled : t.led0 = s.led0)
    (hpin : t.movePin = s.movePin) : t.Agree := by
  intro hout
  rw [hled, hpin]
  exact h fun hs => hout (hin hs)

theorem agree_iff_ledKept (hs : board.step s e = some t) (h : s.Agree) :
    t.Agree ↔ LedKept s e := by
  cases moves_of_step hs with
  | pass n hdue => exact iff_of_true h trivial
  | expire hdue => exact iff_of_true (fun _ => rfl) trivial
  | press =>
    refine iff_of_true (fun hout => ?_) trivial
    change (!s.led0) = (!s.movePin)
    rw [h hout]
  | post hidle =>
    refine iff_of_true (h.of_between (fun hin => ?_) rfl rfl) trivial
    exact .inl (hin.resolve_right (by simp [hidle]))
  | handler hsets =>
    generalize hat : s.handler = at_ at hsets
    cases hsets with
    | led => exact iff_of_true (fun hout => absurd (.inr rfl) hout) (by simp [LedKept, hat])
    | pin => simp [Board.Agree, Board.Between, LedKept, hat]
    | timer =>
      refine iff_of_true (h.of_between (fun hin => ?_) rfl rfl) (by simp [LedKept, hat])
      exact .inl (hin.resolve_right (by simp [hat]))
  | main hidle hsets =>
    generalize hat : s.main = at_ at hsets
    cases hsets with
    | led => exact iff_of_true (fun hout => absurd (.inl rfl) hout) (by simp [LedKept, hat])
    | pin => simp [Board.Agree, Board.Between, LedKept, hat, hidle]
    | timer =>
      refine iff_of_true (h.of_between (fun hin => ?_) rfl rfl) (by simp [LedKept, hat])
      exact .inr (hin.resolve_left (by simp [hat]))

theorem led_shows_motor_iff {es : List Event} (hrun : board.run .boot es = some s) :
    board.Holds Board.Agree .boot es ↔ board.Meets LedKept .boot es :=
  TransitionSystem.holds_iff_meets (fun _ _ _ h hs => agree_iff_ledKept hs h) (fun _ => rfl) hrun

/-- The button is pressed between `LED0_ON` and `gpio_set`. -/
theorem led_shows_motor_iff_pressed :
    board.run .boot [.main, .press, .main] =
        some ⟨0, false, true, some 5000000, .timer, .returned⟩ ∧
      ¬ board.Holds Board.Agree .boot [.main, .press, .main] := by
  have hrun : board.run .boot [.main, .press, .main] =
      some ⟨0, false, true, some 5000000, .timer, .returned⟩ := rfl
  exact ⟨hrun, fun hall => absurd ((led_shows_motor_iff hrun).mp hall) (by decide)⟩

end Dino

end Luke

end RiotPlayground
