import RiotPlayground.CoapService.Service

/-!
# How `main` is called

From the command line and after a reboot `main` gets keywords only, and what is no parameter of its
own goes into `kwargs`, one level deeper with each reboot. When it restarts itself, it leaves
`http_port` out.
-/

namespace RiotPlayground

namespace CoapService

/-- The names that arguments of `main` are passed under. -/
inductive Key
  | corerdAddr
  | wwwDir
  | httpPort
  | args
  | kwargs
deriving DecidableEq

inductive Value
  | str (text : List Char)
  | int (n : ℕ)
  | tuple (values : List Value)
  | dict (entries : List (Key × Value))

structure Arguments where
  positional : List Value
  keywords : List (Key × Value)

/-- The arguments in `main`, and what `locals()` returns at its start. -/
structure Locals where
  corerdAddr : Value
  wwwDir : Value
  httpPort : Value
  args : List Value
  kwargs : List (Key × Value)

namespace Arguments

def keyword (c : Arguments) (k : Key) : Option Value :=
  (c.keywords.find? fun e => e.1 = k).map Prod.snd

/-- A parameter is given by its position or by its name. -/
def param (c : Arguments) (i : ℕ) (k : Key) (default : Option Value) : Option Value :=
  match c.positional[i]?, c.keyword k with
  | none, none => default
  | none, some v => some v
  | some v, none => some v
  | some _, some _ => none

/-- The call `main(*positional, **keywords)`; `none` is the `TypeError`. -/
def bindMain (c : Arguments) : Option Locals := do
  let corerdAddr ← c.param 0 .corerdAddr none
  let wwwDir ← c.param 1 .wwwDir none
  let httpPort ← c.param 2 .httpPort (some (.int 5656))
  some ⟨corerdAddr, wwwDir, httpPort, c.positional.drop 3, c.keywords.filter fun e =>
    e.1 ≠ .corerdAddr ∧ e.1 ≠ .wwwDir ∧ e.1 ≠ .httpPort⟩

/-- `vars(args)` of the command line. -/
def ofCommandLine (a : MainArgs) : Arguments :=
  ⟨[], [(.corerdAddr, .str a.corerdAddr), (.wwwDir, .str a.wwwDir), (.httpPort, .int a.httpPort)]⟩

/-- `**RebootHandler.main_args` -/
def ofLocals (l : Locals) : Arguments :=
  ⟨[], [(.corerdAddr, l.corerdAddr), (.wwwDir, l.wwwDir), (.httpPort, l.httpPort),
    (.args, .tuple l.args), (.kwargs, .dict l.kwargs)]⟩

/-- `corerd_addr, www_dir, *args, **kwargs` -/
def ofRestart (l : Locals) : Arguments := ⟨[l.corerdAddr, l.wwwDir] ++ l.args, l.kwargs⟩

end Arguments

/-- The parameters are these, no argument is left over, and all that is in `kwargs` are the other
two variables of an earlier call. -/
structure Locals.Is (l : Locals) (a : MainArgs) : Prop where
  corerdAddr : l.corerdAddr = .str a.corerdAddr
  wwwDir : l.wwwDir = .str a.wwwDir
  httpPort : l.httpPort = .int a.httpPort
  args : l.args = []
  kwargs : ∀ e ∈ l.kwargs, e.1 = .args ∨ e.1 = .kwargs

/-- The call succeeds, with these parameters. -/
def Arguments.Binds (c : Arguments) (a : MainArgs) : Prop := ∃ l, c.bindMain = some l ∧ l.Is a

namespace Arguments

lemma binds_ofCommandLine (a : MainArgs) : (ofCommandLine a).Binds a := by
  refine ⟨_, rfl, rfl, rfl, rfl, rfl, ?_⟩
  intro e he
  cases he

lemma binds_ofLocals {l : Locals} {a : MainArgs} (h : l.Is a) : (ofLocals l).Binds a := by
  refine ⟨_, rfl, h.corerdAddr, h.wwwDir, h.httpPort, rfl, ?_⟩
  intro e he
  simp [ofLocals] at he
  rcases he with rfl | rfl
  · exact .inl rfl
  · exact .inr rfl

lemma keyword_of_kwargs {l : Locals} {a : MainArgs} (h : l.Is a) {k : Key} (hargs : k ≠ .args)
    (hkwargs : k ≠ .kwargs) : (ofRestart l).keyword k = none := by
  unfold keyword
  rw [List.find?_eq_none.mpr, Option.map_none]
  intro e he
  rcases h.kwargs e he with hk | hk
  · simp [hk, Ne.symm hargs]
  · simp [hk, Ne.symm hkwargs]

lemma binds_ofRestart {l : Locals} {a : MainArgs} (h : l.Is a) :
    (ofRestart l).Binds (restartArgs a) := by
  have haddr := keyword_of_kwargs h (k := .corerdAddr) (by decide) (by decide)
  have hdir := keyword_of_kwargs h (k := .wwwDir) (by decide) (by decide)
  have hport := keyword_of_kwargs h (k := .httpPort) (by decide) (by decide)
  have hpos : (ofRestart l).positional = [l.corerdAddr, l.wwwDir] := by
    rw [ofRestart, h.args, List.append_nil]
  have hbind : (ofRestart l).bindMain = some ⟨l.corerdAddr, l.wwwDir, .int 5656, [],
      l.kwargs.filter fun e => e.1 ≠ .corerdAddr ∧ e.1 ≠ .wwwDir ∧ e.1 ≠ .httpPort⟩ := by
    simp only [bindMain, param, hpos, haddr, hdir, hport]
    rfl
  refine ⟨_, hbind, h.corerdAddr, h.wwwDir, rfl, rfl, ?_⟩
  intro e he
  exact h.kwargs e (List.mem_of_mem_filter he)

end Arguments

inductive Task
  | spawned (c : Arguments)
  | running (l : Locals)
  | ended

/-- The main tasks with their arguments. `json` has the arguments of the one that wrote
`coap_service.json` last. -/
structure Tasks where
  mainArgs : Option Locals
  json : Option Locals
  count : ℕ
  task : ℕ → Task

namespace Tasks

inductive Event
  | begin (i : ℕ)
  | openRaised (i : ℕ)
  | restart (i : ℕ)
  | raised (i : ℕ)
  | reboot

def init (a : MainArgs) : Tasks where
  mainArgs := none
  json := none
  count := 1
  task := Function.update (fun _ => .ended) 0 (.spawned (.ofCommandLine a))

def setTask (s : Tasks) (i : ℕ) (m : Task) : Tasks :=
  { s with task := Function.update s.task i m }

def spawn (s : Tasks) (c : Arguments) : Tasks :=
  { s with count := s.count + 1, task := Function.update s.task s.count (.spawned c) }

/-- A task begins, cannot open its file, ends and restarts itself, or ends with an exception, or a
reboot restarts `main`. -/
def step (s : Tasks) : Event → Option Tasks
  | .begin i =>
    match s.task i with
    | .spawned c =>
      match c.bindMain with
      | some l => some ({ s with mainArgs := some l, json := some l }.setTask i (.running l))
      | none => some (s.setTask i .ended)
    | _ => none
  | .openRaised i =>
    match s.task i with
    | .spawned c =>
      match c.bindMain with
      | some l => some ({ s with mainArgs := some l }.setTask i .ended)
      | none => some (s.setTask i .ended)
    | _ => none
  | .restart i =>
    match s.task i with
    | .running l => some ((s.setTask i .ended).spawn (.ofRestart l))
    | _ => none
  | .raised i =>
    match s.task i with
    | .running _ => some (s.setTask i .ended)
    | _ => none
  | .reboot =>
    match s.mainArgs with
    | some l => some (s.spawn (.ofLocals l))
    | none => some s

def system : TransitionSystem Tasks Event := ⟨step⟩

/-- `coap_service.json` names the port, if it has been written. -/
def NamesPort (port : ℕ) (s : Tasks) : Prop := ∀ l, s.json = some l → l.httpPort = .int port

/-- A task that begins got an `http_port`, or the default is right. -/
def PassesPort (port : ℕ) (s : Tasks) : Event → Prop
  | .begin i => ∀ c, s.task i = .spawned c → (c.keyword .httpPort).isSome = true ∨ port = 5656
  | .openRaised i => ∀ c, s.task i = .spawned c → (c.keyword .httpPort).isSome = true ∨ port = 5656
  | _ => True

/-- A call gets the right port, if any. -/
def Fits (port : ℕ) (c : Arguments) : Prop :=
  ∃ a, c.Binds a ∧ a.httpPort = if (c.keyword .httpPort).isSome then port else 5656

def Serves (port : ℕ) (l : Locals) : Prop := ∃ a, l.Is a ∧ a.httpPort = port

def Task.Ok (port : ℕ) : Task → Prop
  | .spawned c => Fits port c
  | .running l => Serves port l
  | .ended => True

structure Served (port : ℕ) (s : Tasks) : Prop where
  json : ∀ l, s.json = some l → Serves port l
  mainArgs : ∀ l, s.mainArgs = some l → Serves port l
  task : ∀ i, Task.Ok port (s.task i)

variable {port : ℕ} {s : Tasks}

lemma fits_ofCommandLine (a : MainArgs) : Fits a.httpPort (.ofCommandLine a) :=
  ⟨a, Arguments.binds_ofCommandLine a, rfl⟩

lemma fits_ofLocals {l : Locals} (h : Serves port l) : Fits port (.ofLocals l) := by
  obtain ⟨a, ha, hport⟩ := h
  exact ⟨a, Arguments.binds_ofLocals ha, hport⟩

lemma fits_ofRestart {l : Locals} (h : Serves port l) : Fits port (.ofRestart l) := by
  obtain ⟨a, ha, -⟩ := h
  have hkey := Arguments.keyword_of_kwargs ha (k := .httpPort) (by decide) (by decide)
  refine ⟨restartArgs a, Arguments.binds_ofRestart ha, ?_⟩
  rw [hkey]
  rfl

lemma Served.update (h : Served port s) (i : ℕ) {m : Task} (hm : Task.Ok port m) :
    ∀ j, Task.Ok port (Function.update s.task i m j) := by
  intro j
  by_cases hj : j = i
  · rw [hj, Function.update_self]
    exact hm
  · rw [Function.update_of_ne hj]
    exact h.task j

lemma served_init (a : MainArgs) : Served a.httpPort (init a) := by
  refine ⟨?_, ?_, ?_⟩
  · intro l hl
    cases hl
  · intro l hl
    cases hl
  · intro i
    by_cases hi : i = 0
    · subst hi
      exact fits_ofCommandLine a
    · have htask : (init a).task i = .ended := by simp [init, hi]
      rw [htask]
      trivial

/-- A call that got a port, or needs none, binds it. -/
lemma Fits.bind {c : Arguments} (h : Fits port c)
    (hpass : (c.keyword .httpPort).isSome = true ∨ port = 5656) :
    ∃ l, c.bindMain = some l ∧ Serves port l := by
  obtain ⟨a, ⟨l, hbind, hl⟩, hport⟩ := h
  refine ⟨l, hbind, a, hl, ?_⟩
  rw [hport]
  split
  · rfl
  · rename_i hkey
    exact (hpass.resolve_left hkey).symm

lemma Served.bind (h : Served port s) {i : ℕ} {c : Arguments} (htask : s.task i = .spawned c)
    (hpass : (c.keyword .httpPort).isSome = true ∨ port = 5656) :
    ∃ l, c.bindMain = some l ∧ Serves port l := by
  have hfits := h.task i
  rw [htask] at hfits
  exact hfits.bind hpass

lemma served_step {t : Tasks} {e : Event} (h : Served port s) (hC : PassesPort port s e)
    (hs : step s e = some t) : Served port t := by
  cases e with
  | begin i =>
    simp only [step] at hs
    split at hs
    · rename_i c htask
      obtain ⟨l, hbind, hl⟩ := h.bind htask (hC c htask)
      rw [hbind] at hs
      rw [← Option.some.inj hs]
      refine ⟨?_, ?_, h.update i hl⟩
      · rintro _ ⟨⟩
        exact hl
      · rintro _ ⟨⟩
        exact hl
    · cases hs
  | openRaised i =>
    simp only [step] at hs
    split at hs
    · rename_i c htask
      obtain ⟨l, hbind, hl⟩ := h.bind htask (hC c htask)
      rw [hbind] at hs
      rw [← Option.some.inj hs]
      refine ⟨h.json, ?_, h.update i trivial⟩
      rintro _ ⟨⟩
      exact hl
    · cases hs
  | restart i =>
    simp only [step] at hs
    split at hs
    · rename_i l htask
      have hl := h.task i
      rw [htask] at hl
      have hended : Served port (s.setTask i .ended) := ⟨h.json, h.mainArgs, h.update i trivial⟩
      rw [← Option.some.inj hs]
      exact ⟨h.json, h.mainArgs, hended.update s.count (fits_ofRestart hl)⟩
    · cases hs
  | raised i =>
    simp only [step] at hs
    split at hs
    · rw [← Option.some.inj hs]
      exact ⟨h.json, h.mainArgs, h.update i trivial⟩
    · cases hs
  | reboot =>
    simp only [step] at hs
    split at hs
    · rename_i l hargs
      rw [← Option.some.inj hs]
      exact ⟨h.json, h.mainArgs, h.update s.count (fits_ofLocals (h.mainArgs l hargs))⟩
    · rw [← Option.some.inj hs]
      exact h

lemma Served.namesPort (h : Served port s) : NamesPort port s := by
  intro l hl
  obtain ⟨a, ha, rfl⟩ := h.json l hl
  exact ha.httpPort

lemma holds_of_meets {events : List Event} (h : Served port s)
    (hC : system.Meets (PassesPort port) s events) : system.Holds (NamesPort port) s events := by
  induction events generalizing s with
  | nil => exact h.namesPort
  | cons e events ih =>
    refine ⟨h.namesPort, ?_⟩
    intro t ht
    exact ih (served_step h hC.1 ht) (hC.2 t ht)

lemma passesPort_default (h : port = 5656) (s : Tasks) (e : Event) : PassesPort port s e := by
  cases e with
  | begin i => exact fun _ _ => .inr h
  | openRaised i => exact fun _ _ => .inr h
  | restart i => trivial
  | raised i => trivial
  | reboot => trivial

/-- A task that ends and restarts itself. -/
def restarted : List Event := [.begin 0, .restart 0, .begin 1]

lemma restarted_json (a : MainArgs) : ∃ s l, system.run (init a) restarted = some s ∧
    s.json = some l ∧ l.httpPort = .int 5656 := ⟨_, _, rfl, rfl, rfl⟩

/-- The file names the port in all runs exactly when the port is the default, and in runs in which
no task begins that has restarted itself. -/
theorem namesPort_iff (a : MainArgs) :
    ((∀ events, system.Holds (NamesPort a.httpPort) (init a) events) ↔ a.httpPort = 5656) ∧
    ∀ events, system.Meets (PassesPort a.httpPort) (init a) events →
      system.Holds (NamesPort a.httpPort) (init a) events := by
  refine ⟨⟨?_, ?_⟩, fun events => holds_of_meets (served_init a)⟩
  · intro h
    obtain ⟨s, l, hrun, hjson, hport⟩ := restarted_json a
    have hnamed := (h restarted).last hrun l hjson
    rw [hport] at hnamed
    exact (Value.int.inj hnamed).symm
  · intro hport events
    apply holds_of_meets (served_init a)
    apply TransitionSystem.meets_of_forall
    intro e _ s
    exact passesPort_default hport s e

/-- With port 8080 on the command line, `coap_service.json` names port 5656 after a restart. -/
theorem restarted_default : ∃ s, system.run (init ⟨"fd00::1".toList, "www".toList, 8080⟩)
    restarted = some s ∧ ¬ NamesPort 8080 s := by
  obtain ⟨s, l, hrun, hjson, hport⟩ := restarted_json ⟨"fd00::1".toList, "www".toList, 8080⟩
  refine ⟨s, hrun, fun hnamed => ?_⟩
  have hsame := hnamed l hjson
  rw [hport] at hsame
  exact absurd (Value.int.inj hsame) (by decide)

end Tasks

end CoapService

end RiotPlayground
