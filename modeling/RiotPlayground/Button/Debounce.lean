import RiotPlayground.Lib.SendLimit
import RiotPlayground.Button.Button

/-!
# The debounced button: `_button_press`, `_enable_button` and `_coap_client`

The interrupt of the button turns itself off until a timer expires, and wakes the main thread, which
has no message queue: what is sent to it while it does something else is lost.
-/

namespace RiotPlayground

open Luke Clock

namespace Button

/-- `500U * US_PER_MS` -/
def BUTTON_DEBOUNCE_INTERVAL : ℕ := 500000

/-- Where the main thread is: before `_coap_client`, in `msg_receive`, with a message, in
`_post_to_target` behind the first reading of the clock, or behind it. -/
inductive MainThread
  | starting
  | receiving
  | woken
  | reading (now : UInt32)
  | posted
  deriving DecidableEq

/-- It has a message, and the call of `_post_to_target` is not over. -/
def MainThread.serves : MainThread → Bool
  | .woken => true
  | .reading _ => true
  | _ => false

/-- It is in the loop of `_coap_client`, but not in `msg_receive`. -/
def MainThread.busy (m : MainThread) : Bool := m.serves || m = .posted

/-- The board from `gpio_init_int` on. -/
structure Device where
  now : ℕ
  irq : Bool
  debounceTimer : Option ℕ
  main : MainThread
  vars : Vars

def Device.boot : Device := ⟨0, true, none, .starting, .init⟩

inductive DeviceEvent
  | pass (n : ℕ)
  | press
  | expire
  | request (pdu : TargetPdu)
  | receive
  | check
  | post

/-- `_button_press`: the message is taken only in `msg_receive`. -/
def buttonPress (s : Device) : Device :=
  { s with
    irq := false
    debounceTimer := some (s.now + BUTTON_DEBOUNCE_INTERVAL)
    main := if s.main = .receiving then .woken else s.main }

def enableButton (s : Device) : Device := { s with irq := true, debounceTimer := none }

section

variable (P : Packages)

/-- Time passes up to where the timer expires. -/
def deviceStep (s : Device) : DeviceEvent → Option Device
  | .pass n =>
    if s.debounceTimer.all fun due => s.now + n ≤ due then some { s with now := s.now + n }
    else none
  | .press => if s.irq then some (buttonPress s) else none
  | .expire => if s.debounceTimer = some s.now then some (enableButton s) else none
  | .request pdu => some { s with vars := (setTarget P pdu s.vars).2 }
  | .receive =>
    if s.main = .starting ∨ s.main = .posted then some { s with main := .receiving } else none
  | .check => if s.main = .woken then some { s with main := .reading (reading s.now) } else none
  | .post =>
    match s.main with
    | .reading now =>
      some { s with main := .posted, vars := (s.vars.postToTarget now (reading s.now)).2 }
    | _ => none

def device : TransitionSystem Device DeviceEvent := ⟨deviceStep P⟩

/-- When the interrupt was taken, when it was since the main thread first called `msg_receive`, and
when a call of `_post_to_target` was over, the latest first. -/
structure Log where
  pressed : List ℕ
  since : List ℕ
  served : List ℕ

def Log.empty : Log := ⟨[], [], []⟩

def note (log : Log) (s : Device) (e : DeviceEvent) (_ : Device) : Log :=
  match e with
  | .press =>
    { log with
      pressed := s.now :: log.pressed
      since := if s.main = .starting then log.since else s.now :: log.since }
  | .post => { log with served := s.now :: log.served }
  | _ => log

def logged : TransitionSystem (Device × Log) DeviceEvent := (device P).recording note

end

variable {P : Packages} {s t : Device} {log : Log} {e : DeviceEvent}

/-- What a step can do. -/
inductive Moves (s : Device) (log : Log) : DeviceEvent → Device → Log → Prop
  | pass (n : ℕ) (hdue : ∀ due, s.debounceTimer = some due → s.now + n ≤ due) :
      Moves s log (.pass n) { s with now := s.now + n } log
  | press (hirq : s.irq = true) : Moves s log .press (buttonPress s)
      ⟨s.now :: log.pressed, if s.main = .starting then log.since else s.now :: log.since,
        log.served⟩
  | expire (hdue : s.debounceTimer = some s.now) : Moves s log .expire (enableButton s) log
  | request (pdu : TargetPdu) (vars : Vars) :
      Moves s log (.request pdu) { s with vars := vars } log
  | receive (hmain : s.main = .starting ∨ s.main = .posted) :
      Moves s log .receive { s with main := .receiving } log
  | check (hmain : s.main = .woken) :
      Moves s log .check { s with main := .reading (reading s.now) } log
  | post (now : UInt32) (hmain : s.main = .reading now) (vars : Vars) :
      Moves s log .post { s with main := .posted, vars := vars }
        ⟨log.pressed, log.since, s.now :: log.served⟩

theorem moves_of_step {log' : Log} (hs : (logged P).step (s, log) e = some (t, log')) :
    Moves s log e t log' := by
  obtain ⟨hs, hnote⟩ := TransitionSystem.recording_step.mp hs
  dsimp only at hs hnote
  cases e with
  | pass n =>
    obtain ⟨hdue, hs⟩ := Option.ite_none_right_eq_some.mp hs
    obtain rfl := Option.some.inj hs
    rw [hnote]
    refine .pass n fun due hsome => ?_
    rw [hsome] at hdue
    simpa using hdue
  | press =>
    obtain ⟨hirq, hs⟩ := Option.ite_none_right_eq_some.mp hs
    obtain rfl := Option.some.inj hs
    rw [hnote]
    exact .press hirq
  | expire =>
    obtain ⟨hdue, hs⟩ := Option.ite_none_right_eq_some.mp hs
    obtain rfl := Option.some.inj hs
    rw [hnote]
    exact .expire hdue
  | request pdu =>
    obtain rfl := Option.some.inj hs
    rw [hnote]
    exact .request pdu _
  | receive =>
    obtain ⟨hmain, hs⟩ := Option.ite_none_right_eq_some.mp hs
    obtain rfl := Option.some.inj hs
    rw [hnote]
    exact .receive hmain
  | check =>
    obtain ⟨hmain, hs⟩ := Option.ite_none_right_eq_some.mp hs
    obtain rfl := Option.some.inj hs
    rw [hnote]
    exact .check hmain
  | post =>
    change deviceStep P s .post = some t at hs
    unfold deviceStep at hs
    dsimp only at hs
    split at hs
    case h_1 now hmain =>
      obtain rfl := Option.some.inj hs
      rw [hnote]
      exact .post now hmain _
    case h_2 => cases hs

/-- The interrupt is off exactly while the timer runs, which is half a second from the last press
on. -/
structure Debounced (s : Device) (log : Log) : Prop where
  off : s.irq = false ↔ s.debounceTimer ≠ none
  due : ∀ due, s.debounceTimer = some due → s.now ≤ due ∧
    ∃ last earlier, log.pressed = last :: earlier ∧ last ≤ s.now ∧
      due = last + BUTTON_DEBOUNCE_INTERVAL
  apart : log.pressed.Pairwise fun later earlier => earlier + BUTTON_DEBOUNCE_INTERVAL ≤ later
  past : s.irq = true → ∀ earlier ∈ log.pressed, earlier + BUTTON_DEBOUNCE_INTERVAL ≤ s.now

lemma debounced_boot : Debounced .boot .empty where
  off := by simp [Device.boot]
  due _ hdue := by cases hdue
  apart := .nil
  past _ _ hmem := absurd hmem List.not_mem_nil

lemma Debounced.press (h : Debounced s log) (hirq : s.irq = true) (since : List ℕ) :
    Debounced (buttonPress s) ⟨s.now :: log.pressed, since, log.served⟩ where
  off := by simp [buttonPress]
  due _ hdue := by
    obtain rfl := Option.some.inj hdue
    exact ⟨Nat.le_add_right _ _, s.now, log.pressed, rfl, Nat.le_refl _, rfl⟩
  apart := List.pairwise_cons.mpr ⟨h.past hirq, h.apart⟩
  past hon := by cases hon

lemma Debounced.expire (h : Debounced s log) (hdue : s.debounceTimer = some s.now) :
    Debounced (enableButton s) log where
  off := by simp [enableButton]
  due _ hnone := by cases hnone
  apart := h.apart
  past _ earlier hmem := by
    obtain ⟨-, last, rest, hpressed, -, hnow⟩ := h.due _ hdue
    have happart := h.apart
    rw [hpressed] at hmem happart
    change earlier + BUTTON_DEBOUNCE_INTERVAL ≤ s.now
    obtain rfl | hrest := List.mem_cons.mp hmem
    · exact Nat.le_of_eq hnow.symm
    · have hlast := (List.pairwise_cons.mp happart).1 earlier hrest
      omega

lemma Debounced.pass (h : Debounced s log) {n : ℕ}
    (hdue : ∀ due, s.debounceTimer = some due → s.now + n ≤ due) :
    Debounced { s with now := s.now + n } log where
  off := h.off
  due due hsome := by
    obtain ⟨-, last, earlier, hpressed, hlast, heq⟩ := h.due due hsome
    exact ⟨hdue due hsome, last, earlier, hpressed, Nat.le_add_right_of_le hlast, heq⟩
  apart := h.apart
  past hirq earlier hmem := Nat.le_add_right_of_le (h.past hirq earlier hmem)

theorem Debounced.step {log' : Log} (h : Debounced s log) (hmoves : Moves s log e t log') :
    Debounced t log' := by
  cases hmoves with
  | pass n hdue => exact h.pass hdue
  | press hirq => exact h.press hirq _
  | expire hdue => exact h.expire hdue
  | request => exact ⟨h.off, h.due, h.apart, h.past⟩
  | receive => exact ⟨h.off, h.due, h.apart, h.past⟩
  | check => exact ⟨h.off, h.due, h.apart, h.past⟩
  | post => exact ⟨h.off, h.due, h.apart, h.past⟩

lemma debounced_of_reach {C : Device × Log → DeviceEvent → Prop} {p : Device × Log}
    (h : (logged P).Reach C (.boot, .empty) p) : Debounced p.1 p.2 := by
  apply h.invariant (P := fun p => Debounced p.1 p.2)
  · exact debounced_boot
  · intro s e t hs _ hstep
    exact hs.step (moves_of_step hstep)

/-- However the button bounces, it is heard once in half a second at most, and the interrupt is on
again no later than half a second after the last press that was heard. -/
theorem presses_apart {C : Device × Log → DeviceEvent → Prop}
    (h : (logged P).Reach C (.boot, .empty) (s, log)) :
    log.pressed.Pairwise (fun later earlier => earlier + BUTTON_DEBOUNCE_INTERVAL ≤ later) ∧
      (s.irq = false → ∃ last, log.pressed.head? = some last ∧
        s.debounceTimer = some (last + BUTTON_DEBOUNCE_INTERVAL) ∧
        s.now ≤ last + BUTTON_DEBOUNCE_INTERVAL) := by
  have hdebounced := debounced_of_reach h
  refine ⟨hdebounced.apart, fun hirq => ?_⟩
  obtain ⟨due, hdue⟩ := Option.ne_none_iff_exists'.mp (hdebounced.off.mp hirq)
  obtain ⟨hnow, last, earlier, hpressed, -, heq⟩ := hdebounced.due due hdue
  rw [heq] at hdue hnow
  exact ⟨last, by rw [hpressed]; rfl, hdue, hnow⟩

/-- A call of `_post_to_target` takes 20 ms, and the button is pressed again as soon as it can. -/
def pressTwice : List DeviceEvent :=
  [.receive, .press, .check, .pass 20000, .post, .receive, .pass 480000, .expire, .press]

/-- The packages of a board that no request reaches. -/
def noPackages : Packages := ⟨fun _ => none, fun ep _ => (false, ep)⟩

def pressedTwice : Device × Log :=
  ((logged noPackages).run (.boot, .empty) pressTwice).getD (.boot, .empty)

lemma run_pressTwice :
    (logged noPackages).run (.boot, .empty) pressTwice = some pressedTwice := rfl

theorem presses_apart_twice :
    [500000, 0].Pairwise fun later earlier => earlier + BUTTON_DEBOUNCE_INTERVAL ≤ later :=
  (presses_apart (s := pressedTwice.1) (TransitionSystem.reach_of_run
    (TransitionSystem.meets_true _ _) run_pressTwice)).1

/-! ### What the main thread hears -/

/-- When a call of `_post_to_target` was over, and the press it was for. -/
def InTime (served press : ℕ) : Prop :=
  press ≤ served ∧ served ≤ press + BUTTON_DEBOUNCE_INTERVAL

/-- When the timer expires, the main thread is back in `msg_receive`. -/
def BackInTime (p : Device × Log) : DeviceEvent → Prop
  | .expire => p.1.main.busy = false
  | _ => True

instance (p : Device × Log) : DecidablePred (BackInTime p)
  | .expire => inferInstanceAs (Decidable (_ = _))
  | .pass _ | .press | .request _ | .receive | .check | .post => .isTrue trivial

/-- Away from `msg_receive` the main thread is protected by the timer. What it has not served yet is
the last press. -/
structure Heard (s : Device) (log : Log) : Prop where
  busy : s.main.busy = true → s.debounceTimer ≠ none
  pending : s.main.serves = true → ∃ last earlier, log.pressed.head? = some last ∧
    log.since = last :: earlier ∧ List.Forall₂ InTime log.served earlier
  caughtUp : s.main.serves = false → List.Forall₂ InTime log.served log.since

lemma heard_boot : Heard .boot .empty where
  busy hbusy := by cases hbusy
  pending hserves := by cases hserves
  caughtUp _ := .nil

lemma serves_of_not_busy {m : MainThread} (h : m.busy = false) : m.serves = false := by
  cases m <;> first | rfl | cases h

lemma Heard.press (h : Heard s log) (hdebounced : Debounced s log) (hirq : s.irq = true) :
    Heard (buttonPress s) ⟨s.now :: log.pressed,
      if s.main = .starting then log.since else s.now :: log.since, log.served⟩ := by
  have hidle : s.main.busy = false := by
    rw [← Bool.not_eq_true]
    intro hbusy
    have hoff := hdebounced.off.mpr (h.busy hbusy)
    rw [hirq] at hoff
    cases hoff
  have hcaught := h.caughtUp (serves_of_not_busy hidle)
  unfold buttonPress
  cases hmain : s.main with
  | starting =>
    rw [hmain] at hidle
    exact ⟨fun _ => Option.some_ne_none _, nofun, fun _ => hcaught⟩
  | receiving =>
    exact ⟨fun _ => Option.some_ne_none _, fun _ => ⟨s.now, log.since, rfl, rfl, hcaught⟩, nofun⟩
  | woken =>
    rw [hmain] at hidle
    cases hidle
  | reading now =>
    rw [hmain] at hidle
    cases hidle
  | posted =>
    rw [hmain] at hidle
    cases hidle

lemma Heard.post (h : Heard s log) (hdebounced : Debounced s log) {now : UInt32}
    (hmain : s.main = .reading now) (vars : Vars) :
    Heard { s with main := .posted, vars := vars }
      ⟨log.pressed, log.since, s.now :: log.served⟩ := by
  have htimer : s.debounceTimer ≠ none := h.busy (by rw [hmain]; rfl)
  obtain ⟨last, earlier, hhead, hsince, hserved⟩ := h.pending (by rw [hmain]; rfl)
  obtain ⟨due, hdue⟩ := Option.ne_none_iff_exists'.mp htimer
  obtain ⟨hnow, first, rest, hpressed, hle, rfl⟩ := hdebounced.due due hdue
  rw [hpressed] at hhead
  obtain rfl : first = last := Option.some.inj hhead
  refine ⟨fun _ => htimer, nofun, fun _ => ?_⟩
  rw [hsince]
  exact .cons ⟨hle, hnow⟩ hserved

theorem Heard.step {log' : Log} (h : Heard s log) (hdebounced : Debounced s log)
    (hC : BackInTime (s, log) e) (hmoves : Moves s log e t log') : Heard t log' := by
  cases hmoves with
  | pass => exact ⟨h.busy, h.pending, h.caughtUp⟩
  | request => exact ⟨h.busy, h.pending, h.caughtUp⟩
  | press hirq => exact h.press hdebounced hirq
  | post now hmain vars => exact h.post hdebounced hmain vars
  | expire =>
    have hidle : s.main.busy = false := hC
    refine ⟨fun hbusy => ?_, h.pending, h.caughtUp⟩
    rw [enableButton, hidle] at hbusy
    cases hbusy
  | receive hmain =>
    refine ⟨nofun, nofun, fun _ => h.caughtUp ?_⟩
    obtain hmain | hmain := hmain
    · rw [hmain]
      rfl
    · rw [hmain]
      rfl
  | check hmain =>
    refine ⟨fun _ => h.busy ?_, fun _ => h.pending ?_, nofun⟩
    · rw [hmain]
      rfl
    · rw [hmain]
      rfl

/-- As long as the main thread is back in `msg_receive` whenever the timer expires, each press since
its first call of `msg_receive` is followed by one call of `_post_to_target` within half a second,
but for the press it serves now. -/
theorem presses_served (h : (logged P).Reach BackInTime (.boot, .empty) (s, log)) :
    if s.main.serves = true then
      ∃ last earlier, log.since = last :: earlier ∧ s.now ≤ last + BUTTON_DEBOUNCE_INTERVAL ∧
        List.Forall₂ InTime log.served earlier
    else List.Forall₂ InTime log.served log.since := by
  have hall : Debounced s log ∧ Heard s log := by
    apply h.invariant (P := fun p => Debounced p.1 p.2 ∧ Heard p.1 p.2)
    · exact ⟨debounced_boot, heard_boot⟩
    · intro p e q hp hC hstep
      have hmoves := moves_of_step hstep
      exact ⟨hp.1.step hmoves, hp.2.step hp.1 hC hmoves⟩
  obtain ⟨hdebounced, hheard⟩ := hall
  split
  case isTrue hserves =>
    obtain ⟨last, earlier, hhead, hsince, hserved⟩ := hheard.pending hserves
    have hbusy : s.main.busy = true := by
      unfold MainThread.busy
      rw [hserves]
      rfl
    obtain ⟨due, hdue⟩ := Option.ne_none_iff_exists'.mp (hheard.busy hbusy)
    obtain ⟨hnow, first, rest, hpressed, -, rfl⟩ := hdebounced.due due hdue
    rw [hpressed] at hhead
    obtain rfl : first = last := Option.some.inj hhead
    exact ⟨first, earlier, hsince, hnow, hserved⟩
  case isFalse hserves => exact hheard.caughtUp (Bool.not_eq_true _ ▸ hserves)

theorem presses_served_twice : ∃ last earlier, [500000, 0] = last :: earlier ∧
    500000 ≤ last + BUTTON_DEBOUNCE_INTERVAL ∧ List.Forall₂ InTime [20000] earlier := by
  have hback : (logged noPackages).Meets BackInTime (.boot, .empty) pressTwice := by
    decide +kernel
  exact presses_served (s := pressedTwice.1) (TransitionSystem.reach_of_run hback run_pressTwice)

end Button

end RiotPlayground
