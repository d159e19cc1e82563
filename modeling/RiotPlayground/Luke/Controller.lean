import RiotPlayground.Lib.TransitionSystem
import RiotPlayground.Luke.Common

/-!
# The controller: `controller/main.c`

The button interrupt, the timers, the thread that runs `_client` and the CoAP thread, interleaved
in atomic steps.
-/

namespace RiotPlayground

namespace Luke

namespace Controller

@[simp] abbrev LUKE_MSG_TYPE_SEND_POINTS : UInt16 := 0x4d41
@[simp] abbrev US_PER_MS : UInt32 := 1000
@[simp] abbrev LUKE_SEND_TIMEOUT : UInt32 := 100 * US_PER_MS
@[simp] abbrev LUKE_SEND_REMAINING_DEFAULT : UInt32 := US_PER_SEC / LUKE_SEND_TIMEOUT
@[simp] abbrev LUKE_START_VALUE : UInt32 := 0

@[simp] abbrev MSG_Q_SIZE : ℕ := 1

/-- Where `_increment_counter` stands, if it is running. -/
inductive Isr
  | idle
  | counted
  | schedule
  deriving DecidableEq

/-- Where `_client` stands. It is `waiting` when it is blocked in `msg_receive`. -/
inductive Client
  | receive
  | waiting
  | received (type : UInt16)
  | taken (counter : UInt32)
  | schedule (counter : UInt32)
  | post (counter : UInt32)

/-- `presses` counts the button presses and `sent` the points in requests that were sent. -/
structure State where
  counter : UInt32
  sendsRemaining : UInt32
  buttonEnabled : Bool
  timerArmed : Bool
  queue : List UInt16
  isr : Isr
  client : Client
  common : Common
  presses : ℕ
  sent : ℕ

def init : State where
  counter := LUKE_START_VALUE
  sendsRemaining := 0
  buttonEnabled := true
  timerArmed := false
  queue := []
  isr := .idle
  client := .receive
  common := Common.init
  presses := 0
  sent := 0

/-- The expired timer sends its message from an interrupt: it goes to a thread that waits for it,
else into the queue, and is dropped when that is full. -/
def deliver (type : UInt16) (s : State) : State :=
  match s.client with
  | .waiting => { s with client := .received type }
  | _ => if s.queue.length < MSG_Q_SIZE then { s with queue := s.queue ++ [type] } else s

/-- The steps, in the order of the source. `enableButton` and `expire` are the two timers. A `post`
reads the clock twice, and `gcoap_req_send2` returns `res`. `setTarget` is the CoAP thread. -/
inductive Event
  | press
  | isrExchange
  | isrSchedule
  | enableButton
  | expire
  | receive
  | takeCounter
  | decrement
  | schedule
  | post (now later : UInt32) (res : ℕ)
  | setTarget (remote : SockUdpEp) (path : ℕ → UInt8)

/-- Up to the `atomic_fetch_add`. The button is disabled until its debounce timer expires. -/
def press (s : State) : Option State :=
  if s.buttonEnabled ∧ s.isr = .idle then
    some { s with
      buttonEnabled := false
      counter := s.counter + 1
      isr := .counted
      presses := s.presses + 1 }
  else none

def isrExchange (s : State) : Option State :=
  if s.isr = .counted then
    some { s with
      sendsRemaining := LUKE_SEND_REMAINING_DEFAULT
      isr := if s.sendsRemaining = 0 then .schedule else .idle }
  else none

def isrSchedule (s : State) : Option State :=
  if s.isr = .schedule then some { s with timerArmed := true, isr := .idle } else none

def enableButton (s : State) : Option State :=
  if s.buttonEnabled then none else some { s with buttonEnabled := true }

def expire (s : State) : Option State :=
  if s.timerArmed then some (deliver LUKE_MSG_TYPE_SEND_POINTS { s with timerArmed := false })
  else none

def receive (s : State) : Option State :=
  match s.client, s.queue with
  | .receive, [] => some { s with client := .waiting }
  | .receive, type :: queue => some { s with client := .received type, queue := queue }
  | _, _ => none

def takeCounter (s : State) : Option State :=
  match s.client with
  | .received type =>
    if type = LUKE_MSG_TYPE_SEND_POINTS then
      some { s with client := .taken s.counter, counter := LUKE_START_VALUE }
    else some { s with client := .receive }
  | _ => none

def decrement (s : State) : Option State :=
  match s.client with
  | .taken counter =>
    some { s with
      sendsRemaining := s.sendsRemaining - 1
      client := if 1 < s.sendsRemaining then .schedule counter else .post counter }
  | _ => none

def schedule (s : State) : Option State :=
  match s.client with
  | .schedule counter => some { s with timerArmed := true, client := .post counter }
  | _ => none

def post (now later : UInt32) (res : ℕ) (s : State) : Option State :=
  match s.client with
  | .post counter =>
    let posted := s.common.postPointsToTarget counter now later res
    some { s with
      common := posted.common
      client := .receive
      sent := if posted.result = 0 then s.sent else s.sent + counter.toNat }
  | _ => none

def step (s : State) : Event → Option State
  | .press => press s
  | .isrExchange => isrExchange s
  | .isrSchedule => isrSchedule s
  | .enableButton => enableButton s
  | .expire => expire s
  | .receive => receive s
  | .takeCounter => takeCounter s
  | .decrement => decrement s
  | .schedule => schedule s
  | .post now later res => post now later res s
  | .setTarget remote path =>
    some { s with common := { s.common with targetRemote := remote, targetPath := path } }

def controller : TransitionSystem State Event := ⟨step⟩

end Controller

end Luke

end RiotPlayground
