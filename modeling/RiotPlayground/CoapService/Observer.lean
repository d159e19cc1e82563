import Mathlib.Data.List.DropRight
import Mathlib.Logic.Function.Basic
import RiotPlayground.CoapService.Client

/-!
# `coap_service.py`: `Observer`

`Observer.request` is a coroutine; `resume` runs it from the await it is suspended at to the
next one. An observation counts as over once aiocoap has called its errback, and as cancelled
once its `cancel()` was called: from either moment on aiocoap calls back no more, and a cancelled
observation does not call its errback.
-/

namespace RiotPlayground

namespace CoapService

/-- What `incoming_observation` uses of aiocoap and the standard library: `media_types` with its
default, the references in a payload, and `netloc` and `path` of one. `none` stands for an
exception. -/
structure Libs where
  mediaType : Option ℕ → List Char
  linkformat : List UInt8 → Option (List (List Char))
  urlparse : List Char → Option (List Char × List Char)

structure Response where
  successful : Bool
  contentFormat : Option ℕ
  payload : List UInt8
deriving DecidableEq, Repr

structure Link where
  href : List Char
  addr : List Char
  path : List Char
deriving DecidableEq, Repr

/-- A call `register(config_node, target_node)`: `config_node["target"]["href"]` and
`target_node["points"]`. -/
structure Register where
  target : List Char
  points : Link
deriving DecidableEq, Repr

/-- A websocket: whether it is in `CoapObserveHandler.websockets`, and whether tornado can still
write to it. -/
structure Socket where
  listed : Bool
  connected : Bool
deriving DecidableEq, Repr

def Socket.isClosed (w : Socket) : Bool := !w.listed

def addReboot (reboots : List (List Char)) (href path : List Char) : List (List Char) :=
  if "reboot".toList <:+ path ∧ !reboots.contains href then reboots ++ [href] else reboots

def addLink (links : List Link) (link : Link) : List Link :=
  if links.any fun l => l.href = link.href then links else links ++ [link]

/-- The loop over `ls.links`: `reboot_resources` and `links`, `none` if `urlparse` raises. -/
def readLinks (L : Libs) :
    List (List Char) → List (List Char) → List Link → List (List Char) × Option (List Link)
  | [], reboots, links => (reboots, some links)
  | href :: hrefs, reboots, links =>
    match L.urlparse href with
    | none => (reboots, none)
    | some (addr, path) =>
      readLinks L hrefs (addReboot reboots href path) (addLink links ⟨href, addr, path⟩)

/-- `path.strip("/").split("/")` -/
def segments (path : List Char) : List (List Char) :=
  ((path.dropWhile (· = '/')).rdropWhile (· = '/')).splitOn '/'

/-- `nodes[node][resource]`, the last link of that path which is not link-local. -/
def nodeLink (links : List Link) (node resource : String) : Option Link :=
  links.reverse.find? fun link => ¬ "[fe80::".toList <+: link.addr ∧
    (segments link.path).take 2 = [node.toList, resource.toList]

def registerOf (links : List Link) (config target : String) : List Register :=
  match nodeLink links config "target", nodeLink links target "points" with
  | some t, some p => [⟨t.href, p⟩]
  | _, _ => []

def registers (links : List Link) : List Register :=
  registerOf links "btn" "dsp" ++ registerOf links "dsp" "dino"

/-- What a call of `incoming_observation` leaves behind; `registers` are spawned and `message`
is written to the websocket. -/
structure Incoming where
  reboots : List (List Char)
  raised : Bool
  registers : List Register
  message : Option (List UInt8)
deriving DecidableEq, Repr

def mimeType (L : Libs) (resp : Response) : List Char :=
  (L.mediaType resp.contentFormat).takeWhile (· ≠ ';')

/-- The links of a successful response. -/
def responseLinks (L : Libs) (reboots : List (List Char)) (resp : Response) :
    List (List Char) × Option (List Link) :=
  if mimeType L resp = "application/link-format".toList then
    match L.linkformat resp.payload with
    | none => (reboots, none)
    | some hrefs => readLinks L hrefs reboots []
  else (reboots, some [])

def incomingObservation (L : Libs) (websocket : Option Socket) (reboots : List (List Char))
    (resp : Response) : Incoming :=
  if resp.successful then
    match responseLinks L reboots resp with
    | (reboots, none) => ⟨reboots, true, [], none⟩
    | (reboots, some links) =>
      match websocket with
      | some w =>
        if w.isClosed then ⟨reboots, false, [], none⟩
        else if w.connected then ⟨reboots, false, [], some resp.payload⟩
        else ⟨reboots, true, [], none⟩
      | none => ⟨reboots, false, registers links, none⟩
  else ⟨reboots, false, [], none⟩

/-! ### `Observer.request` -/

inductive ObservationStatus
  | active
  | isOver
  | cancelled
deriving DecidableEq, Repr

/-- An observation and the observer whose `incoming_observation` is its callback. -/
structure Observation where
  observer : ℕ
  status : ObservationStatus
deriving DecidableEq, Repr

/-- `pr` is known by the number of its observation. -/
structure Observer where
  resource : List Char
  websocket : Option Socket
  pr : Option ℕ
deriving DecidableEq, Repr

/-- What the coroutines share. `left` has the observations whose `request` has returned or
raised. -/
structure Globals where
  ctxs : Contexts
  observers : ℕ
  observer : ℕ → Observer
  observations : ℕ
  observation : ℕ → Observation
  rebootResources : List (List Char)
  registers : List Register
  left : List ℕ

/-- Where a call of `request` is: at one of its awaits, or at its end. The last await is the
`sleep(50)` of the finally block. -/
inductive Progress
  | client
  | response (n : ℕ)
  | isOver (n : ℕ)
  | sleep (n : ℕ) (raised : Bool)
  | returned
  | raised
deriving DecidableEq, Repr

namespace Globals

def init : Globals :=
  ⟨.init, 0, fun _ => ⟨[], none, none⟩, 0, fun _ => ⟨0, .isOver⟩, [], [], []⟩

def setCtxs (g : Globals) (ctxs : Contexts) : Globals := { g with ctxs := ctxs }

def setObserver (g : Globals) (o : ℕ) (ob : Observer) : Globals :=
  { g with observer := Function.update g.observer o ob }

def setPr (g : Globals) (o : ℕ) (pr : Option ℕ) : Globals :=
  g.setObserver o { g.observer o with pr := pr }

def setStatus (g : Globals) (n : ℕ) (status : ObservationStatus) : Globals :=
  { g with
    observation := Function.update g.observation n { g.observation n with status := status } }

def newObserver (g : Globals) (resource : List Char) (websocket : Option Socket) : Globals :=
  { g with
    observers := g.observers + 1
    observer := Function.update g.observer g.observers ⟨resource, websocket, none⟩ }

/-- `Observer.cancel`, with the value it returns; an observation that is over counts as
cancelled for aiocoap. -/
def cancel (g : Globals) (o : ℕ) : Globals × Bool :=
  match (g.observer o).pr with
  | some n => if (g.observation n).status = .active then (g.setStatus n .cancelled, true)
    else (g, false)
  | none => (g, false)

/-- `self.websocket.close()`, if there is a websocket. -/
def closeWebsocket (g : Globals) (o : ℕ) : Globals :=
  match (g.observer o).websocket with
  | some w => g.setObserver o
      { g.observer o with websocket := some { w with connected := false } }
  | none => g

def incoming (L : Libs) (g : Globals) (o : ℕ) (resp : Response) : Globals × Bool :=
  let i := incomingObservation L (g.observer o).websocket g.rebootResources resp
  ({ g with rebootResources := i.reboots, registers := g.registers ++ i.registers }, i.raised)

/-- The end of the finally block. -/
def leave (g : Globals) (o n : ℕ) (raised : Bool) : Globals × Progress :=
  ({ g.closeWebsocket o with left := n :: g.left }, if raised then .raised else .returned)

def finallyBlock (g : Globals) (o n : ℕ) (raised : Bool) : Globals × Progress :=
  let c := (g.setPr o none).cancel o
  if c.2 then (c.1, .sleep n raised) else c.1.leave o n raised

/-- `request` from the call of `coap_client.request` to the await of the response. -/
def register (g : Globals) (o : ℕ) : Globals × Progress :=
  ({ g.setPr o (some g.observations) with
    observations := g.observations + 1
    observation := Function.update g.observation g.observations ⟨o, .active⟩ },
    .response g.observations)

def gotClient (g : Globals) (o : ℕ) : Globals × Progress :=
  match (g.observer o).websocket with
  | some w => if w.isClosed then (g, .returned) else g.register o
  | none => g.register o

def request (g : Globals) (o : ℕ) : Globals × Progress :=
  if (g.observer o).pr = none then
    match getCoapClient g.ctxs with
    | some _ => g.gotClient o
    | none => (g, .client)
  else (g, .returned)

end Globals

/-- How an await of `request` ends. -/
inductive Resume
  | created
  | createRaised
  | response (resp : Response)
  | responseRaised
  | isOver
  | slept
deriving DecidableEq, Repr

namespace Globals

def resume (L : Libs) (g : Globals) (o : ℕ) : Progress → Resume → Option (Globals × Progress)
  | .client, .created => some ((g.setCtxs (assignClient g.ctxs).1).gotClient o)
  | .client, .createRaised => some (g, .raised)
  | .response n, .response resp =>
    let i := g.incoming L o resp
    some (if i.2 then i.1.finallyBlock o n true else (i.1, .isOver n))
  | .response n, .responseRaised => some (g.finallyBlock o n true)
  | .isOver n, .isOver =>
    if (g.observation n).status = .isOver then some (g.finallyBlock o n false) else none
  | .sleep n raised, .slept => some (g.leave o n raised)
  | _, _ => none

/-- aiocoap calls back for observation `n`; an exception of the callback stays there. -/
def notify (L : Libs) (g : Globals) (n : ℕ) (resp : Response) : Option Globals :=
  if n < g.observations ∧ (g.observation n).status = .active then
    some (g.incoming L (g.observation n).observer resp).1
  else none

/-- aiocoap calls the errback of observation `n`. -/
def observationOver (g : Globals) (n : ℕ) : Option Globals :=
  if n < g.observations ∧ (g.observation n).status = .active then some (g.setStatus n .isOver)
  else none

@[simp] lemma setPr_observer_self (g : Globals) (o : ℕ) (pr : Option ℕ) :
    (g.setPr o pr).observer o = { g.observer o with pr := pr } := Function.update_self ..

@[simp] lemma setPr_observer_of_ne (g : Globals) {o o' : ℕ} (pr : Option ℕ) (h : o' ≠ o) :
    (g.setPr o pr).observer o' = g.observer o' := Function.update_of_ne h ..

@[simp] lemma setStatus_observation_self (g : Globals) (n : ℕ) (status : ObservationStatus) :
    (g.setStatus n status).observation n = { g.observation n with status := status } :=
  Function.update_self ..

@[simp] lemma setStatus_observation_of_ne (g : Globals) {n n' : ℕ} (status : ObservationStatus)
    (h : n' ≠ n) : (g.setStatus n status).observation n' = g.observation n' :=
  Function.update_of_ne h ..

@[simp] lemma register_observation_self (g : Globals) (o : ℕ) :
    (g.register o).1.observation g.observations = ⟨o, .active⟩ := Function.update_self ..

@[simp] lemma register_observation_of_ne (g : Globals) (o : ℕ) {n : ℕ} (h : n ≠ g.observations) :
    (g.register o).1.observation n = g.observation n := Function.update_of_ne h ..

@[simp] lemma newObserver_observer_self (g : Globals) (resource : List Char)
    (websocket : Option Socket) :
    (g.newObserver resource websocket).observer g.observers = ⟨resource, websocket, none⟩ :=
  Function.update_self ..

@[simp] lemma newObserver_observer_of_ne (g : Globals) (resource : List Char)
    (websocket : Option Socket) {o : ℕ} (h : o ≠ g.observers) :
    (g.newObserver resource websocket).observer o = g.observer o := Function.update_of_ne h ..

/-- `_pr` is `None` by the time the finally block calls `cancel()`. -/
lemma finallyBlock_eq (g : Globals) (o n : ℕ) (raised : Bool) :
    g.finallyBlock o n raised = (g.setPr o none).leave o n raised := by
  have hcancel : (g.setPr o none).cancel o = (g.setPr o none, false) := by
    rw [cancel, setPr_observer_self]
  rw [finallyBlock, hcancel]
  rfl

end Globals

end CoapService

end RiotPlayground
