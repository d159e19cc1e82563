import RiotPlayground.Lib.TransitionSystem

/-!
# The switch of the client: `_gpio_irq`, `_check_switch` and `main` of `client/main.c`

The interrupt of the pin posts an event and sets the LED. The event and the command `switch` tell
the state of the switch, in two threads.
-/

namespace RiotPlayground

namespace Client

/-- `_gpio_irq`: before `event_post`, before `gpio_read`, and before the LED is set. -/
inductive GpioIrq
  | idle
  | posting
  | reading
  | setting (pin : Bool)
  deriving DecidableEq

/-- `_check_switch_event_handler`: before `gpio_read`, and before `puts`. -/
inductive EventHandler
  | idle
  | reading
  | telling (pin : Bool)
  deriving DecidableEq

/-- `main` behind `gpio_init_int`: before its `gpio_read`, before it sets the LED, in the shell, and
in `_check_switch`. -/
inductive MainThread
  | booting
  | setting (pin : Bool)
  | prompt
  | reading
  | telling (pin : Bool)
  deriving DecidableEq

/-- The pin is high when the switch is off. `edge` is the flag of the interrupt, `queued` whether
the event is in its queue, and `told` the pin that the last line stands for. -/
structure Board where
  pin : Bool
  edge : Bool
  irq : GpioIrq
  queued : Bool
  handler : EventHandler
  main : MainThread
  led0 : Bool
  told : Option Bool
  deriving DecidableEq

def Board.boot (pin : Bool) : Board := ⟨pin, false, .idle, false, .idle, .booting, false, none⟩

inductive BoardEvent
  | flip
  | irq
  | handler
  | command
  | main

/-- The interrupt preempts the threads. -/
def Board.threadsRun (s : Board) : Bool := s.edge = false ∧ s.irq = .idle

def irqStep (s : Board) : Option Board :=
  match s.irq with
  | .idle => if s.edge then some { s with edge := false, irq := .posting } else none
  | .posting => some { s with queued := true, irq := .reading }
  | .reading => some { s with irq := .setting s.pin }
  | .setting pin => some { s with irq := .idle, led0 := !pin }

def handlerStep (s : Board) : Option Board :=
  match s.handler with
  | .idle => if s.queued then some { s with queued := false, handler := .reading } else none
  | .reading => some { s with handler := .telling s.pin }
  | .telling pin => some { s with handler := .idle, told := some pin }

def mainStep (s : Board) : Option Board :=
  match s.main with
  | .booting => some { s with main := .setting s.pin }
  | .setting pin => some { s with main := .prompt, led0 := !pin }
  | .prompt => none
  | .reading => some { s with main := .telling s.pin }
  | .telling pin => some { s with main := .prompt, told := some pin }

def boardStep (s : Board) : BoardEvent → Option Board
  | .flip => some { s with pin := !s.pin, edge := true }
  | .irq => irqStep s
  | .handler => if s.threadsRun then handlerStep s else none
  | .command => if s.threadsRun ∧ s.main = .prompt then some { s with main := .reading } else none
  | .main => if s.threadsRun then mainStep s else none

def board : TransitionSystem Board BoardEvent := ⟨boardStep⟩

/-- Nothing is under way. -/
def Board.AtRest (s : Board) : Prop :=
  s.threadsRun = true ∧ s.queued = false ∧ s.handler = .idle ∧ s.main = .prompt

/-- What a step can do. -/
inductive Moves (s : Board) : BoardEvent → Board → Prop
  | flip : Moves s .flip { s with pin := !s.pin, edge := true }
  | enter (hirq : s.irq = .idle) (hedge : s.edge = true) :
      Moves s .irq { s with edge := false, irq := .posting }
  | eventPost (hirq : s.irq = .posting) : Moves s .irq { s with queued := true, irq := .reading }
  | irqRead (hirq : s.irq = .reading) : Moves s .irq { s with irq := .setting s.pin }
  | irqSet {pin : Bool} (hirq : s.irq = .setting pin) :
      Moves s .irq { s with irq := .idle, led0 := !pin }
  | take (hrun : s.threadsRun = true) (hidle : s.handler = .idle) (hqueued : s.queued = true) :
      Moves s .handler { s with queued := false, handler := .reading }
  | handlerRead (hrun : s.threadsRun = true) (hreads : s.handler = .reading) :
      Moves s .handler { s with handler := .telling s.pin }
  | handlerTell {pin : Bool} (hrun : s.threadsRun = true) (htells : s.handler = .telling pin) :
      Moves s .handler { s with handler := .idle, told := some pin }
  | command (hrun : s.threadsRun = true) (hmain : s.main = .prompt) :
      Moves s .command { s with main := .reading }
  | mainRead (hrun : s.threadsRun = true) (hmain : s.main = .booting) :
      Moves s .main { s with main := .setting s.pin }
  | mainSet {pin : Bool} (hrun : s.threadsRun = true) (hmain : s.main = .setting pin) :
      Moves s .main { s with main := .prompt, led0 := !pin }
  | commandRead (hrun : s.threadsRun = true) (hmain : s.main = .reading) :
      Moves s .main { s with main := .telling s.pin }
  | commandTell {pin : Bool} (hrun : s.threadsRun = true) (hmain : s.main = .telling pin) :
      Moves s .main { s with main := .prompt, told := some pin }

variable {s t : Board} {e : BoardEvent}

lemma moves_of_irqStep (hs : irqStep s = some t) : Moves s .irq t := by
  unfold irqStep at hs
  split at hs
  case h_1 hirq =>
    obtain ⟨hedge, hs⟩ := Option.ite_none_right_eq_some.mp hs
    obtain rfl := Option.some.inj hs
    exact .enter hirq hedge
  case h_2 hirq =>
    obtain rfl := Option.some.inj hs
    exact .eventPost hirq
  case h_3 hirq =>
    obtain rfl := Option.some.inj hs
    exact .irqRead hirq
  case h_4 pin hirq =>
    obtain rfl := Option.some.inj hs
    exact .irqSet hirq

lemma moves_of_handlerStep (hrun : s.threadsRun = true) (hs : handlerStep s = some t) :
    Moves s .handler t := by
  unfold handlerStep at hs
  split at hs
  case h_1 hidle =>
    obtain ⟨hqueued, hs⟩ := Option.ite_none_right_eq_some.mp hs
    obtain rfl := Option.some.inj hs
    exact .take hrun hidle hqueued
  case h_2 hreads =>
    obtain rfl := Option.some.inj hs
    exact .handlerRead hrun hreads
  case h_3 pin htells =>
    obtain rfl := Option.some.inj hs
    exact .handlerTell hrun htells

lemma moves_of_mainStep (hrun : s.threadsRun = true) (hs : mainStep s = some t) :
    Moves s .main t := by
  unfold mainStep at hs
  split at hs
  case h_1 hmain =>
    obtain rfl := Option.some.inj hs
    exact .mainRead hrun hmain
  case h_2 pin hmain =>
    obtain rfl := Option.some.inj hs
    exact .mainSet hrun hmain
  case h_3 => cases hs
  case h_4 hmain =>
    obtain rfl := Option.some.inj hs
    exact .commandRead hrun hmain
  case h_5 pin hmain =>
    obtain rfl := Option.some.inj hs
    exact .commandTell hrun hmain

theorem moves_of_step (hs : board.step s e = some t) : Moves s e t := by
  cases e with
  | flip =>
    obtain rfl := Option.some.inj hs
    exact .flip
  | irq => exact moves_of_irqStep hs
  | handler =>
    obtain ⟨hrun, hs⟩ := Option.ite_none_right_eq_some.mp hs
    exact moves_of_handlerStep hrun hs
  | command =>
    obtain ⟨hready, hs⟩ := Option.ite_none_right_eq_some.mp hs
    obtain rfl := Option.some.inj hs
    exact .command hready.1 hready.2
  | main =>
    obtain ⟨hrun, hs⟩ := Option.ite_none_right_eq_some.mp hs
    exact moves_of_mainStep hrun hs

lemma threadsRun_iff : s.threadsRun = true ↔ s.edge = false ∧ s.irq = .idle := decide_eq_true_iff

/-- The event will be handled from its beginning. -/
def Board.Fresh (s : Board) : Prop := s.edge = true ∨ s.irq = .posting ∨ s.queued = true

/-- The last line, or the switch at the start if there is none, is right when nothing is under
way. -/
def Board.LineRight (start : Bool) (s : Board) : Prop :=
  s.AtRest → s.told.getD start = s.pin

/-- What the command `switch` tells is the state of the switch, or the event is still handled. -/
def CommandKept (s : Board) : BoardEvent → Prop
  | .main => ∀ pin, s.main = .telling pin →
      pin = s.pin ∨ s.queued = true ∨ s.handler ≠ .idle
  | _ => True

/-- The last line is right unless the event is under way, and so is what the handler has read. -/
structure Told (start : Bool) (s : Board) : Prop where
  line : s.told.getD start = s.pin ∨ s.Fresh ∨ s.handler ≠ .idle
  handler : ∀ pin, s.handler = .telling pin → pin = s.pin ∨ s.Fresh

lemma told_boot (start : Bool) : Told start (.boot start) := ⟨.inl rfl, nofun⟩

lemma not_fresh (hrun : s.threadsRun = true) (hqueued : s.queued = false) : ¬ s.Fresh := by
  obtain ⟨hedge, hirq⟩ := threadsRun_iff.mp hrun
  simp [Board.Fresh, hedge, hirq, hqueued]

variable {start : Bool}

lemma Told.lineRight (h : Told start s) : s.LineRight start := by
  intro hrest
  obtain ⟨hrun, hqueued, hidle, -⟩ := hrest
  have hbusy : ¬ (s.Fresh ∨ s.handler ≠ .idle) :=
    not_or.mpr ⟨not_fresh hrun hqueued, not_not.mpr hidle⟩
  exact h.line.resolve_right hbusy

/-- A step that leaves the lines and the handler alone and forgets no event. -/
lemma Told.of_fresh (h : Told start s) (htold : t.told = s.told) (hpin : t.pin = s.pin)
    (hhandler : t.handler = s.handler) (hfresh : s.Fresh → t.Fresh) : Told start t where
  line := by
    rw [htold, hpin, hhandler]
    exact h.line.imp_right (Or.imp_left hfresh)
  handler pin htells := by
    rw [hpin]
    exact (h.handler pin (hhandler ▸ htells)).imp_right hfresh

theorem Told.step (h : Told start s) (hC : CommandKept s e) (hmoves : Moves s e t) :
    Told start t := by
  cases hmoves with
  | flip => exact ⟨.inr (.inl (.inl rfl)), fun _ _ => .inr (.inl rfl)⟩
  | enter => exact h.of_fresh rfl rfl rfl fun _ => .inr (.inl rfl)
  | eventPost => exact h.of_fresh rfl rfl rfl fun _ => .inr (.inr rfl)
  | irqRead hirq =>
    refine h.of_fresh rfl rfl rfl (Or.imp_right (Or.imp_left fun hposting => ?_))
    rw [hirq] at hposting
    cases hposting
  | irqSet hirq =>
    refine h.of_fresh rfl rfl rfl (Or.imp_right (Or.imp_left fun hposting => ?_))
    rw [hirq] at hposting
    cases hposting
  | take => exact ⟨.inr (.inr nofun), nofun⟩
  | handlerRead =>
    exact ⟨.inr (.inr nofun), fun _ htells => .inl (EventHandler.telling.inj htells).symm⟩
  | handlerTell _ htells =>
    exact ⟨(h.handler _ htells).imp_right Or.inl, nofun⟩
  | command => exact h.of_fresh rfl rfl rfl id
  | mainRead => exact h.of_fresh rfl rfl rfl id
  | mainSet => exact h.of_fresh rfl rfl rfl id
  | commandRead => exact h.of_fresh rfl rfl rfl id
  | commandTell _ hmain =>
    refine ⟨?_, h.handler⟩
    exact (hC _ hmain).imp_right (Or.imp_left fun hqueued => .inr (.inr hqueued))

lemma commandKept_of_lineRight (hmoves : Moves s e t) (ht : t.LineRight start) :
    CommandKept s e := by
  cases hmoves with
  | commandTell hrun hmain =>
    intro pin hpin
    obtain rfl : _ = pin := MainThread.telling.inj (hmain.symm.trans hpin)
    by_contra hkept
    obtain ⟨hne, hqueued, hidle⟩ := not_or.mp hkept |>.imp_right not_or.mp
    exact hne (ht ⟨hrun, Bool.not_eq_true _ ▸ hqueued, not_not.mp hidle, rfl⟩)
  | mainRead _ hmain =>
    intro pin hpin
    rw [hmain] at hpin
    cases hpin
  | mainSet _ hmain =>
    intro pin hpin
    rw [hmain] at hpin
    cases hpin
  | commandRead _ hmain =>
    intro pin hpin
    rw [hmain] at hpin
    cases hpin
  | flip | enter | eventPost | irqRead | irqSet | take | handlerRead | handlerTell | command =>
    trivial

/-- Whenever nothing is under way, the last line tells the switch, if and only if no command
`switch` is overtaken between its reading and its line. -/
theorem last_line_right_iff {es : List BoardEvent} (hrun : board.run (.boot start) es = some s) :
    board.Holds (Board.LineRight start) (.boot start) es ↔
      board.Meets CommandKept (.boot start) es :=
  TransitionSystem.holds_iff_meets_of_invariant (fun _ h => h.lineRight)
    (fun _ _ _ h hC hs => h.step hC (moves_of_step hs))
    (fun _ _ _ _ hs ht => commandKept_of_lineRight (moves_of_step hs) ht) (told_boot start) hrun

/-- The switch is turned on while a command tells that it is off. -/
def overtaken : List BoardEvent :=
  [.main, .main, .command, .main, .flip, .irq, .irq, .irq, .irq, .handler, .handler, .handler,
    .main]

theorem last_line_right_iff_overtaken :
    board.run (.boot true) overtaken =
        some ⟨false, false, .idle, false, .idle, .prompt, true, some true⟩ ∧
      ¬ board.Meets CommandKept (.boot true) overtaken := by
  have hrun : board.run (.boot true) overtaken =
      some ⟨false, false, .idle, false, .idle, .prompt, true, some true⟩ := rfl
  refine ⟨hrun, fun hkept => ?_⟩
  have hlast := ((last_line_right_iff hrun).mpr hkept).last hrun
  exact absurd (hlast ⟨rfl, rfl, rfl, rfl⟩) (by decide)

/-! ### The LED -/

/-- The LED is set for the first time. -/
def MainThread.booted : MainThread → Bool
  | .booting => false
  | .setting _ => false
  | _ => true

/-- Unless the interrupt is still to run, the LED is on when the switch is. -/
def Board.LedRight (s : Board) : Prop :=
  s.main.booted = true → s.threadsRun = true → s.led0 = !s.pin

/-- What `main` has read is still so when it sets the LED. -/
def BootKept (s : Board) : BoardEvent → Prop
  | .main => ∀ pin, s.main = .setting pin → pin = s.pin
  | _ => True

structure Lit (s : Board) : Prop where
  led : s.main.booted = true → s.led0 = (!s.pin) ∨ s.edge = true ∨ s.irq ≠ .idle
  irq : ∀ pin, s.irq = .setting pin → pin = s.pin ∨ s.edge = true

lemma lit_boot (start : Bool) : Lit (.boot start) := ⟨nofun, nofun⟩

lemma Lit.ledRight (h : Lit s) : s.LedRight := by
  intro hbooted hrun
  obtain ⟨hedge, hirq⟩ := threadsRun_iff.mp hrun
  exact (h.led hbooted).resolve_right (by simp [hedge, hirq])

theorem Lit.step (h : Lit s) (hC : BootKept s e) (hmoves : Moves s e t) : Lit t := by
  cases hmoves with
  | flip => exact ⟨fun _ => .inr (.inl rfl), fun _ _ => .inr rfl⟩
  | enter => exact ⟨fun _ => .inr (.inr nofun), nofun⟩
  | eventPost => exact ⟨fun _ => .inr (.inr nofun), nofun⟩
  | irqRead =>
    exact ⟨fun _ => .inr (.inr nofun), fun _ hset => .inl (GpioIrq.setting.inj hset).symm⟩
  | irqSet hirq =>
    refine ⟨fun _ => (h.irq _ hirq).imp (fun hpin => ?_) .inl, nofun⟩
    rw [hpin]
  | take => exact ⟨h.led, h.irq⟩
  | handlerRead => exact ⟨h.led, h.irq⟩
  | handlerTell => exact ⟨h.led, h.irq⟩
  | command _ hmain => exact ⟨fun _ => h.led (by rw [hmain]; rfl), h.irq⟩
  | mainRead => exact ⟨nofun, h.irq⟩
  | mainSet _ hmain =>
    refine ⟨fun _ => .inl ?_, h.irq⟩
    rw [hC _ hmain]
  | commandRead _ hmain => exact ⟨fun _ => h.led (by rw [hmain]; rfl), h.irq⟩
  | commandTell _ hmain => exact ⟨fun _ => h.led (by rw [hmain]; rfl), h.irq⟩

lemma bootKept_of_ledRight (hmoves : Moves s e t) (ht : t.LedRight) : BootKept s e := by
  cases hmoves with
  | mainSet hrun hmain =>
    intro pin hpin
    obtain rfl : _ = pin := MainThread.setting.inj (hmain.symm.trans hpin)
    exact Bool.not_inj (ht rfl hrun)
  | mainRead _ hmain =>
    intro pin hpin
    rw [hmain] at hpin
    cases hpin
  | commandRead _ hmain =>
    intro pin hpin
    rw [hmain] at hpin
    cases hpin
  | commandTell _ hmain =>
    intro pin hpin
    rw [hmain] at hpin
    cases hpin
  | flip | enter | eventPost | irqRead | irqSet | take | handlerRead | handlerTell | command =>
    trivial

/-- The LED shows the switch from `shell_run` on, but for the interrupts, if and only if the switch
is the same when `main` reads it and when it sets the LED. -/
theorem led_shows_switch_iff {es : List BoardEvent}
    (hrun : board.run (.boot start) es = some s) :
    board.Holds Board.LedRight (.boot start) es ↔ board.Meets BootKept (.boot start) es :=
  TransitionSystem.holds_iff_meets_of_invariant (fun _ => Lit.ledRight)
    (fun _ _ _ h hC hs => Lit.step h hC (moves_of_step hs))
    (fun _ _ _ _ hs ht => bootKept_of_ledRight (moves_of_step hs) ht) (lit_boot start) hrun

/-- The switch is turned on between the two. -/
theorem led_shows_switch_iff_turned :
    board.run (.boot true) [.main, .flip, .irq, .irq, .irq, .irq, .main] =
        some ⟨false, false, .idle, true, .idle, .prompt, false, none⟩ ∧
      ¬ board.Meets BootKept (.boot true) [.main, .flip, .irq, .irq, .irq, .irq, .main] := by
  have hrun : board.run (.boot true) [.main, .flip, .irq, .irq, .irq, .irq, .main] =
      some ⟨false, false, .idle, true, .idle, .prompt, false, none⟩ := rfl
  refine ⟨hrun, fun hkept => ?_⟩
  have hlast := ((led_shows_switch_iff hrun).mpr hkept).last hrun
  exact absurd (hlast rfl rfl) (by decide)

end Client

end RiotPlayground
