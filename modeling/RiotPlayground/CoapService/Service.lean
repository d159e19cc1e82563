import RiotPlayground.CoapService.Observer

/-!
# `coap_service.py`: `main`, `RebootHandler` and the websockets

All coroutines of the service on one event loop. A step is what runs between two suspensions:
the start of a spawned callback, or the rest of a coroutine up to its next await. Main tasks and
observers are numbered in the order they appear in, a reboot takes a number that is not in use,
and a websocket is known by its observer.
-/

namespace RiotPlayground

namespace CoapService

structure MainArgs where
  corerdAddr : List Char
  wwwDir : List Char
  httpPort : ℕ
deriving DecidableEq, Repr

/-- The arguments `main` restarts itself with: `http_port` is left to its default. -/
def restartArgs (args : MainArgs) : MainArgs := { args with httpPort := 5656 }

/-- `coap_service.json` -/
structure ServiceJson where
  url : List Char
  anchor : List Char
  port : ℕ
deriving DecidableEq, Repr

def corerdAnchor (args : MainArgs) : List Char :=
  "coap://[".toList ++ args.corerdAddr ++ "]".toList

def corerd (args : MainArgs) : List Char := corerdAnchor args ++ "/resource-lookup".toList

inductive Main
  | spawned (args : MainArgs)
  | request (args : MainArgs) (o : ℕ) (p : Progress)
  | shutdown (args : MainArgs) (ctx : ℕ)
  | ended
deriving DecidableEq, Repr

/-- The callback `self.observer.request` of a websocket. -/
inductive Callback
  | none
  | spawned
  | running (p : Progress)
deriving DecidableEq, Repr

inductive Reboot
  | client
  | posts
  | sleep
  | ended
deriving DecidableEq, Repr

/-- `cancels` counts the spawned `cancel_observation` callbacks of a websocket, `callers` the
other coroutines that await `create_client_context`. -/
structure Service where
  globals : Globals
  mainObserver : Option ℕ
  mainArgs : Option MainArgs
  json : Option ServiceJson
  mains : ℕ
  main : ℕ → Main
  calls : ℕ → Callback
  cancels : ℕ → ℕ
  reboot : ℕ → Reboot
  callers : ℕ

namespace Service

variable (L : Libs)

def init (args : MainArgs) : Service where
  globals := .init
  mainObserver := none
  mainArgs := none
  json := none
  mains := 1
  main := Function.update (fun _ => .ended) 0 (.spawned args)
  calls := fun _ => .none
  cancels := fun _ => 0
  reboot := fun _ => .ended
  callers := 0

def setGlobals (s : Service) (g : Globals) : Service := { s with globals := g }

def setMain (s : Service) (i : ℕ) (m : Main) : Service :=
  { s with main := Function.update s.main i m }

def setReboot (s : Service) (r : ℕ) (m : Reboot) : Service :=
  { s with reboot := Function.update s.reboot r m }

def setCall (s : Service) (o : ℕ) (c : Callback) : Service :=
  { s with calls := Function.update s.calls o c }

def spawnMain (s : Service) (args : MainArgs) : Service :=
  { s with mains := s.mains + 1, main := Function.update s.main s.mains (.spawned args) }

/-- The end of `main`, after `shutdown_coap_client`. -/
def restart (s : Service) (i : ℕ) (args : MainArgs) : Service :=
  (s.setMain i .ended).spawnMain (restartArgs args)

/-- `main` goes on after `main_observer.request()` has got to `p`. -/
def mainAfter (s : Service) (i : ℕ) (args : MainArgs) (o : ℕ) (p : Progress) : Service :=
  match p with
  | .returned =>
    match shutdownCoapClient s.globals.ctxs with
    | some ctx => s.setMain i (.shutdown args ctx)
    | none => s.restart i args
  | .raised => s.setMain i .ended
  | p => s.setMain i (.request args o p)

/-- `main` up to its call of `main_observer.request()`, with the observer it is called on. -/
def prepareMain (s : Service) (args : MainArgs) : Service × ℕ :=
  let s := { s with
    mainArgs := some args
    json := some ⟨corerd args, corerdAnchor args, args.httpPort⟩ }
  match s.mainObserver with
  | some o => (s, o)
  | none =>
    ({ s with
      mainObserver := some s.globals.observers
      globals := s.globals.newObserver (corerd args) none }, s.globals.observers)

def beginMain (s : Service) (i : ℕ) (args : MainArgs) : Service :=
  let (s, o) := s.prepareMain args
  let (g, p) := s.globals.request o
  (s.setGlobals g).mainAfter i args o p

def cancelMainObserver (s : Service) : Service :=
  match s.mainObserver with
  | some o => { s.setGlobals (s.globals.cancel o).1 with mainObserver := none }
  | none => s

/-- `websocket.close()` for every websocket in `CoapObserveHandler.websockets`. -/
def closeWebsockets (g : Globals) : Globals :=
  { g with
    observer := fun o => { g.observer o with
      websocket := (g.observer o).websocket.map fun w =>
        if w.listed then { w with connected := false } else w } }

/-- `post` after the nodes have been told to reboot, up to its `sleep(10)`. -/
def restartNodes (s : Service) (r : ℕ) : Service :=
  let s := s.cancelMainObserver
  (s.setGlobals (closeWebsockets s.globals)).setReboot r .sleep

/-- `post` once it has the client. -/
def postReboots (s : Service) (r : ℕ) : Service :=
  if s.globals.rebootResources = [] then s.restartNodes r else s.setReboot r .posts

/-- `spawn_callback(main, **RebootHandler.main_args)`; before the first `main` the arguments are
missing. -/
def respawn (s : Service) : Service :=
  match s.mainArgs with
  | some args => s.spawnMain args
  | none => s

/-! ### Steps -/

/-- The steps of the service: spawned callbacks that begin, awaits that end, new websockets and
requests, and what aiocoap calls. -/
inductive Event
  | begin (i : ℕ)
  | openRaised (i : ℕ)
  | main (i : ℕ) (r : Resume)
  | shutDown (i : ℕ)
  | connect (resource : List Char)
  | request (o : ℕ)
  | socket (o : ℕ) (r : Resume)
  | closed (o : ℕ)
  | cancelObservation (o : ℕ)
  | reboot (r : ℕ)
  | rebootCreated (r : ℕ)
  | rebootRaised (r : ℕ)
  | rebootPosted (r : ℕ)
  | rebootSlept (r : ℕ)
  | call
  | callCreated
  | callRaised
  | register
  | notify (n : ℕ) (resp : Response)
  | isOver (n : ℕ)
deriving DecidableEq, Repr

def stepMain (s : Service) (i : ℕ) (r : Resume) : Option Service :=
  match s.main i with
  | .request args o p =>
    (s.globals.resume L o p r).map fun (g, p) => (s.setGlobals g).mainAfter i args o p
  | _ => none

def stepSocket (s : Service) (o : ℕ) (r : Resume) : Option Service :=
  match s.calls o with
  | .running p =>
    (s.globals.resume L o p r).map fun (g, p) => (s.setGlobals g).setCall o (.running p)
  | _ => none

/-- `CoapObserveHandler.get` and `open`. -/
def connect (s : Service) (resource : List Char) : Service :=
  (s.setGlobals (s.globals.newObserver resource (some ⟨true, true⟩))).setCall
    s.globals.observers .spawned

/-- `CoapObserveHandler.on_close` -/
def onClose (s : Service) (o : ℕ) : Option Service :=
  match (s.globals.observer o).websocket with
  | some w =>
    if w.listed then
      some { s with
        globals := s.globals.setObserver o
          { s.globals.observer o with websocket := some ⟨false, false⟩ }
        cancels := Function.update s.cancels o (s.cancels o + 1) }
    else none
  | none => none

/-- Another coroutine calls `get_coap_client`. -/
def callClient (s : Service) : Service :=
  match getCoapClient s.globals.ctxs with
  | some _ => s
  | none => { s with callers := s.callers + 1 }

def assign (s : Service) : Service :=
  s.setGlobals (s.globals.setCtxs (assignClient s.globals.ctxs).1)

def step (s : Service) : Event → Option Service
  | .begin i =>
    match s.main i with
    | .spawned args => some (s.beginMain i args)
    | _ => none
  | .openRaised i =>
    match s.main i with
    | .spawned args => some ({ s with mainArgs := some args }.setMain i .ended)
    | _ => none
  | .main i r => s.stepMain L i r
  | .shutDown i =>
    match s.main i with
    | .shutdown args ctx =>
      some ((s.setGlobals (s.globals.setCtxs (clearClient s.globals.ctxs ctx))).restart i args)
    | _ => none
  | .connect resource => some (s.connect resource)
  | .request o =>
    if s.calls o = .spawned then
      let (g, p) := s.globals.request o
      some ((s.setGlobals g).setCall o (.running p))
    else none
  | .socket o r => s.stepSocket L o r
  | .closed o => s.onClose o
  | .cancelObservation o =>
    if s.cancels o = 0 then none
    else some { s with
      globals := (s.globals.cancel o).1
      cancels := Function.update s.cancels o (s.cancels o - 1) }
  | .reboot r =>
    if s.reboot r = .ended then
      match getCoapClient s.globals.ctxs with
      | some _ => some (s.postReboots r)
      | none => some (s.setReboot r .client)
    else none
  | .rebootCreated r => if s.reboot r = .client then some (s.assign.postReboots r) else none
  | .rebootRaised r => if s.reboot r = .client then some (s.setReboot r .ended) else none
  | .rebootPosted r => if s.reboot r = .posts then some (s.restartNodes r) else none
  | .rebootSlept r => if s.reboot r = .sleep then some ((s.setReboot r .ended).respawn) else none
  | .call => some s.callClient
  | .callCreated =>
    if s.callers = 0 then none else some { s.assign with callers := s.callers - 1 }
  | .callRaised => if s.callers = 0 then none else some { s with callers := s.callers - 1 }
  | .register =>
    match s.globals.registers with
    | [] => none
    | _ :: rest => some (s.setGlobals { s.globals with registers := rest }).callClient
  | .notify n resp => (s.globals.notify L n resp).map s.setGlobals
  | .isOver n => (s.globals.observationOver n).map s.setGlobals

def system : TransitionSystem Service Event := ⟨step L⟩

/-- What an event makes of the service, where it can happen. -/
inductive Does (s : Service) : Event → Service → Prop
  | begin {i : ℕ} {args : MainArgs} (hmain : s.main i = .spawned args) :
      Does s (.begin i) (s.beginMain i args)
  | openRaised {i : ℕ} {args : MainArgs} (hmain : s.main i = .spawned args) :
      Does s (.openRaised i) ({ s with mainArgs := some args }.setMain i .ended)
  | main {i o : ℕ} {r : Resume} {args : MainArgs} {p p' : Progress} {g : Globals}
      (hmain : s.main i = .request args o p) (hres : s.globals.resume L o p r = some (g, p')) :
      Does s (.main i r) ((s.setGlobals g).mainAfter i args o p')
  | shutDown {i ctx : ℕ} {args : MainArgs} (hmain : s.main i = .shutdown args ctx) :
      Does s (.shutDown i)
        ((s.setGlobals (s.globals.setCtxs (clearClient s.globals.ctxs ctx))).restart i args)
  | connect (resource : List Char) : Does s (.connect resource) (s.connect resource)
  | request {o : ℕ} (hcall : s.calls o = .spawned) :
      Does s (.request o) ((s.setGlobals (s.globals.request o).1).setCall o
        (.running (s.globals.request o).2))
  | socket {o : ℕ} {r : Resume} {p p' : Progress} {g : Globals} (hcall : s.calls o = .running p)
      (hres : s.globals.resume L o p r = some (g, p')) :
      Does s (.socket o r) ((s.setGlobals g).setCall o (.running p'))
  | closed {o : ℕ} {w : Socket} (hwebsocket : (s.globals.observer o).websocket = some w)
      (hlisted : w.listed = true) :
      Does s (.closed o) { s with
        globals := s.globals.setObserver o
          { s.globals.observer o with websocket := some ⟨false, false⟩ }
        cancels := Function.update s.cancels o (s.cancels o + 1) }
  | cancelObservation {o : ℕ} (hcancels : s.cancels o ≠ 0) :
      Does s (.cancelObservation o) { s with
        globals := (s.globals.cancel o).1
        cancels := Function.update s.cancels o (s.cancels o - 1) }
  | reboot {r ctx : ℕ} (hreboot : s.reboot r = .ended)
      (hclient : getCoapClient s.globals.ctxs = some ctx) : Does s (.reboot r) (s.postReboots r)
  | rebootAwaits {r : ℕ} (hreboot : s.reboot r = .ended)
      (hclient : getCoapClient s.globals.ctxs = none) :
      Does s (.reboot r) (s.setReboot r .client)
  | rebootCreated {r : ℕ} (hreboot : s.reboot r = .client) :
      Does s (.rebootCreated r) (s.assign.postReboots r)
  | rebootRaised {r : ℕ} (hreboot : s.reboot r = .client) :
      Does s (.rebootRaised r) (s.setReboot r .ended)
  | rebootPosted {r : ℕ} (hreboot : s.reboot r = .posts) :
      Does s (.rebootPosted r) (s.restartNodes r)
  | rebootSlept {r : ℕ} (hreboot : s.reboot r = .sleep) :
      Does s (.rebootSlept r) (s.setReboot r .ended).respawn
  | call : Does s .call s.callClient
  | callCreated (hcallers : s.callers ≠ 0) :
      Does s .callCreated { s.assign with callers := s.callers - 1 }
  | callRaised (hcallers : s.callers ≠ 0) :
      Does s .callRaised { s with callers := s.callers - 1 }
  | register {first : Register} {rest : List Register}
      (hregisters : s.globals.registers = first :: rest) :
      Does s .register (s.setGlobals { s.globals with registers := rest }).callClient
  | notify {n : ℕ} (resp : Response) (hn : n < s.globals.observations)
      (hactive : (s.globals.observation n).status = .active) : Does s (.notify n resp)
        (s.setGlobals (s.globals.incoming L (s.globals.observation n).observer resp).1)
  | isOver {n : ℕ} (hn : n < s.globals.observations)
      (hactive : (s.globals.observation n).status = .active) :
      Does s (.isOver n) (s.setGlobals (s.globals.setStatus n .isOver))

lemma does_of_step {s t : Service} {e : Event} (h : step L s e = some t) : Does L s e t := by
  cases e with
  | begin i =>
    simp only [step] at h
    split at h
    · rename_i args hmain
      obtain rfl := Option.some.inj h
      exact .begin hmain
    · cases h
  | openRaised i =>
    simp only [step] at h
    split at h
    · rename_i args hmain
      obtain rfl := Option.some.inj h
      exact .openRaised hmain
    · cases h
  | main i r =>
    simp only [step, stepMain] at h
    split at h
    · rename_i args o p hmain
      obtain ⟨⟨g, p'⟩, hres, rfl⟩ := Option.map_eq_some_iff.mp h
      exact .main hmain hres
    · cases h
  | shutDown i =>
    simp only [step] at h
    split at h
    · rename_i args ctx hmain
      obtain rfl := Option.some.inj h
      exact .shutDown hmain
    · cases h
  | connect resource =>
    obtain rfl := Option.some.inj h
    exact .connect resource
  | request o =>
    obtain ⟨hcall, h⟩ := Option.ite_none_right_eq_some.mp h
    obtain rfl := Option.some.inj h
    exact .request hcall
  | socket o r =>
    simp only [step, stepSocket] at h
    split at h
    · rename_i p hcall
      obtain ⟨⟨g, p'⟩, hres, rfl⟩ := Option.map_eq_some_iff.mp h
      exact .socket hcall hres
    · cases h
  | closed o =>
    simp only [step, onClose] at h
    split at h
    · rename_i w hwebsocket
      obtain ⟨hlisted, h⟩ := Option.ite_none_right_eq_some.mp h
      obtain rfl := Option.some.inj h
      exact .closed hwebsocket hlisted
    · cases h
  | cancelObservation o =>
    obtain ⟨hcancels, h⟩ := Option.ite_none_left_eq_some.mp h
    obtain rfl := Option.some.inj h
    exact .cancelObservation hcancels
  | reboot r =>
    obtain ⟨hreboot, h⟩ := Option.ite_none_right_eq_some.mp h
    split at h
    · rename_i ctx hclient
      obtain rfl := Option.some.inj h
      exact .reboot hreboot hclient
    · rename_i hclient
      obtain rfl := Option.some.inj h
      exact .rebootAwaits hreboot hclient
  | rebootCreated r =>
    obtain ⟨hreboot, h⟩ := Option.ite_none_right_eq_some.mp h
    obtain rfl := Option.some.inj h
    exact .rebootCreated hreboot
  | rebootRaised r =>
    obtain ⟨hreboot, h⟩ := Option.ite_none_right_eq_some.mp h
    obtain rfl := Option.some.inj h
    exact .rebootRaised hreboot
  | rebootPosted r =>
    obtain ⟨hreboot, h⟩ := Option.ite_none_right_eq_some.mp h
    obtain rfl := Option.some.inj h
    exact .rebootPosted hreboot
  | rebootSlept r =>
    obtain ⟨hreboot, h⟩ := Option.ite_none_right_eq_some.mp h
    obtain rfl := Option.some.inj h
    exact .rebootSlept hreboot
  | call =>
    obtain rfl := Option.some.inj h
    exact .call
  | callCreated =>
    obtain ⟨hcallers, h⟩ := Option.ite_none_left_eq_some.mp h
    obtain rfl := Option.some.inj h
    exact .callCreated hcallers
  | callRaised =>
    obtain ⟨hcallers, h⟩ := Option.ite_none_left_eq_some.mp h
    obtain rfl := Option.some.inj h
    exact .callRaised hcallers
  | register =>
    simp only [step] at h
    split at h
    · cases h
    · rename_i hregisters
      obtain rfl := Option.some.inj h
      exact .register hregisters
  | notify n resp =>
    obtain ⟨g, hg, rfl⟩ := Option.map_eq_some_iff.mp h
    obtain ⟨⟨hn, hactive⟩, hg⟩ := Option.ite_none_right_eq_some.mp hg
    obtain rfl := Option.some.inj hg
    exact .notify resp hn hactive
  | isOver n =>
    obtain ⟨g, hg, rfl⟩ := Option.map_eq_some_iff.mp h
    obtain ⟨⟨hn, hactive⟩, hg⟩ := Option.ite_none_right_eq_some.mp hg
    obtain rfl := Option.some.inj hg
    exact .isOver hn hactive

@[simp] lemma setMain_main_self (s : Service) (i : ℕ) (m : Main) : (s.setMain i m).main i = m :=
  Function.update_self ..

@[simp] lemma setMain_main_of_ne (s : Service) {i j : ℕ} (m : Main) (h : j ≠ i) :
    (s.setMain i m).main j = s.main j := Function.update_of_ne h ..

@[simp] lemma setReboot_reboot_self (s : Service) (r : ℕ) (m : Reboot) :
    (s.setReboot r m).reboot r = m := Function.update_self ..

@[simp] lemma setReboot_reboot_of_ne (s : Service) {r r' : ℕ} (m : Reboot) (h : r' ≠ r) :
    (s.setReboot r m).reboot r' = s.reboot r' := Function.update_of_ne h ..

@[simp] lemma setCall_calls_self (s : Service) (o : ℕ) (c : Callback) :
    (s.setCall o c).calls o = c := Function.update_self ..

@[simp] lemma setCall_calls_of_ne (s : Service) {o o' : ℕ} (c : Callback) (h : o' ≠ o) :
    (s.setCall o c).calls o' = s.calls o' := Function.update_of_ne h ..

@[simp] lemma spawnMain_main_self (s : Service) (args : MainArgs) :
    (s.spawnMain args).main s.mains = .spawned args := Function.update_self ..

@[simp] lemma spawnMain_main_of_ne (s : Service) (args : MainArgs) {i : ℕ} (h : i ≠ s.mains) :
    (s.spawnMain args).main i = s.main i := Function.update_of_ne h ..

lemma init_main_of_ne (args : MainArgs) {i : ℕ} (h : i ≠ 0) : (init args).main i = .ended := by
  simp [init, h]

/-- No main task has begun at the start. -/
lemma init_request {args args' : MainArgs} {i o : ℕ} {p : Progress} :
    (init args).main i ≠ .request args' o p := by
  by_cases hi : i = 0
  · subst hi
    nofun
  · rw [init_main_of_ne args hi]
    nofun

lemma setMain_request {s : Service} {i j : ℕ} {m : Main} {args : MainArgs} {o : ℕ} {p : Progress}
    (h : (s.setMain i m).main j = .request args o p) :
    s.main j = .request args o p ∨ j = i ∧ m = .request args o p := by
  by_cases hj : j = i
  · subst hj
    rw [setMain_main_self] at h
    exact .inr ⟨rfl, h⟩
  · rw [setMain_main_of_ne s m hj] at h
    exact .inl h

lemma spawnMain_request {s : Service} {args' args : MainArgs} {j o : ℕ} {p : Progress}
    (h : (s.spawnMain args').main j = .request args o p) : s.main j = .request args o p := by
  by_cases hj : j = s.mains
  · subst hj
    rw [spawnMain_main_self] at h
    cases h
  · rwa [spawnMain_main_of_ne s args' hj] at h

/-- The requests of main tasks after one of them has got to `p`. -/
lemma mainAfter_request {s : Service} {i : ℕ} {args : MainArgs} {o : ℕ} {p : Progress} {j : ℕ}
    {args' : MainArgs} {o' : ℕ} {p' : Progress}
    (h : (s.mainAfter i args o p).main j = .request args' o' p') :
    s.main j = .request args' o' p' ∨ j = i ∧ o' = o ∧ p' = p := by
  unfold mainAfter at h
  split at h
  · split at h
    · exact .inl ((setMain_request h).resolve_right (nomatch ·.2))
    · exact .inl ((setMain_request (spawnMain_request h)).resolve_right (nomatch ·.2))
  · exact .inl ((setMain_request h).resolve_right (nomatch ·.2))
  · refine (setMain_request h).imp id fun ⟨hj, hm⟩ => ⟨hj, ?_⟩
    obtain ⟨-, rfl, rfl⟩ := Main.request.inj hm
    exact ⟨rfl, rfl⟩

/-- What `main` does after its request leaves everything but the main tasks alone. -/
lemma mainAfter_frame (s : Service) (i : ℕ) (args : MainArgs) (o : ℕ) (p : Progress) :
    (s.mainAfter i args o p).globals = s.globals ∧ (s.mainAfter i args o p).calls = s.calls ∧
      (s.mainAfter i args o p).cancels = s.cancels ∧
      (s.mainAfter i args o p).mainObserver = s.mainObserver := by
  unfold mainAfter
  split
  · split <;> exact ⟨rfl, rfl, rfl, rfl⟩
  · exact ⟨rfl, rfl, rfl, rfl⟩
  · exact ⟨rfl, rfl, rfl, rfl⟩

end Service

end CoapService

end RiotPlayground
