import Mathlib.Data.List.Infix
import RiotPlayground.Lib.Dict
import RiotPlayground.Lib.PyText
import RiotPlayground.Lib.TransitionSystem

/-!
# The node registry of `webfrontend/js/luke.js`

The frontend observes the resource directory and keeps an object for every node that is listed
there. Handlers, widgets and the requests that are sent once are left out.
-/

namespace RiotPlayground

namespace Webfrontend

/-- A link of a resource-lookup document, as `parseLink` returns it. -/
structure Link where
  anchor : Text
  url : Text
deriving DecidableEq

inductive NodeName
  | controller
  | dino
  | corerd
  | display
  | undefined
deriving DecidableEq

inductive ResourceName
  | points
  | target
  | difficulty
  | reboot
  | resourceLookup
  | undefined
deriving DecidableEq

def getNodeName (url : Text) : NodeName :=
  if "/btn/".toList <:+: url then .controller
  else if "/dino/".toList <:+: url then .dino
  else if "/resource-lookup".toList <:+ url then .corerd
  else if "/dsp/".toList <:+: url then .display
  else .undefined

def getResourceName (url : Text) : ResourceName :=
  if "/points".toList <:+ url then .points
  else if "/target".toList <:+ url then .target
  else if "/dif".toList <:+ url then .difficulty
  else if "/reboot".toList <:+ url then .reboot
  else if "/resource-lookup".toList <:+ url then .resourceLookup
  else .undefined

/-- A `CoAPResource`. -/
structure Resource where
  url : Text
  observing : Bool

/-- A `CoAPNode` that has its name: it is `null` only inside the constructor. -/
structure Node where
  anchor : Text
  name : NodeName
  resources : Dict ResourceName Resource

abbrev Nodes := Dict Text Node

/-- `add_resource` on a node with a name. -/
def Node.addResource (node : Node) (r : Link) : Node :=
  { node with resources := node.resources.set (getResourceName r.url) ⟨r.url, false⟩ }

/-- `new CoAPNode(resource)`, which removes the entries with the same name. -/
def newNode (nodes : Nodes) (r : Link) : Nodes × Node :=
  (nodes.filter fun node => node.name ≠ getNodeName r.url,
    Node.addResource ⟨r.anchor, getNodeName r.url, .empty⟩ r)

/-- The nodes, the resource URLs for which a `WebSocket` was opened, and how many widgets of
controllers are still being loaded. -/
structure Frontend where
  nodes : Nodes
  sockets : List Text
  widgets : ℕ

namespace Frontend

/-- `observe()` of a resource of the node at an anchor, if it has it. -/
def observe (s : Frontend) (anchor : Text) (k : ResourceName) : Frontend :=
  match s.nodes.get anchor with
  | none => s
  | some node =>
    match node.resources.get k with
    | none => s
    | some res =>
      if res.observing then s
      else
        { s with
          nodes := s.nodes.set anchor
            { node with resources := node.resources.set k { res with observing := true } }
          sockets := s.sockets ++ [res.url] }

/-- `get_node_by_name`, as the key of the node. -/
def getNodeByName (s : Frontend) (name : NodeName) : Option Text :=
  (s.nodes.entries.find? fun e => e.2.name = name).map Prod.fst

def loadTarget (s : Frontend) (name : NodeName) : Frontend :=
  match s.getNodeByName name with
  | none => s
  | some anchor =>
    let s := s.observe anchor .points
    if name = .display then s.observe anchor .difficulty else s

def NODES_ORDERED : List NodeName := [.controller, .display, .dino]

def loadTargets (s : Frontend) : Frontend := NODES_ORDERED.foldl loadTarget s

/-- What the handler does for one link. -/
def register (s : Frontend) (r : Link) : Frontend :=
  match s.nodes.get r.anchor with
  | some node => { s with nodes := s.nodes.set r.anchor (node.addResource r) }
  | none =>
    let made := newNode s.nodes r
    { s with
      nodes := made.1.set r.anchor made.2
      widgets := if made.2.name = .controller then s.widgets + 1 else s.widgets }

/-- What every object inherits: for these `in` says yes, and no node is found. -/
def objectPrototype : List Text :=
  ["constructor".toList, "__defineGetter__".toList, "__defineSetter__".toList,
    "hasOwnProperty".toList, "__lookupGetter__".toList, "__lookupSetter__".toList,
    "isPrototypeOf".toList, "propertyIsEnumerable".toList, "toString".toList, "valueOf".toList,
    "__proto__".toList, "toLocaleString".toList]

/-- The handler throws at a link that could not be parsed or has an inherited anchor. -/
def Throws (l : Option Link) : Prop := ∀ r, l = some r → r.anchor ∈ objectPrototype

lemma throws_none : Throws none := fun r h => absurd h.symm (Option.some_ne_none r)

lemma throws_some (r : Link) : Throws (some r) ↔ objectPrototype.contains r.anchor = true := by
  rw [List.contains_iff_mem]
  constructor
  · exact fun h => h r rfl
  · rintro h _ ⟨⟩
    exact h

instance : DecidablePred Throws
  | none => .isTrue throws_none
  | some r => decidable_of_iff' (objectPrototype.contains r.anchor = true) (throws_some r)

/-- The nodes after the links up to the first that throws, and whether none does. -/
def registerAll : Frontend → List (Option Link) → Frontend × Bool
  | s, [] => (s, true)
  | s, none :: _ => (s, false)
  | s, some r :: doc => if Throws (some r) then (s, false) else registerAll (s.register r) doc

/-- `get_handlers["resource-lookup"]` -/
def resourceLookup (s : Frontend) (doc : List (Option Link)) : Frontend :=
  let after := registerAll s doc
  if after.2 then after.1.loadTargets else after.1

/-- After `run_luke`, with `config.corerd`. -/
def init (corerd : Link) : Frontend :=
  let made := newNode .empty corerd
  observe ⟨made.1.set corerd.anchor made.2, [], 0⟩ corerd.anchor .resourceLookup

/-- A notification of the resource directory, or the widget of a controller has been loaded. -/
inductive Event
  | notification (doc : List (Option Link))
  | widgetLoaded

def step (s : Frontend) : Event → Option Frontend
  | .notification doc => some (s.resourceLookup doc)
  | .widgetLoaded =>
    if s.widgets = 0 then none else some { s.loadTargets with widgets := s.widgets - 1 }

def system : TransitionSystem Frontend Event := ⟨step⟩

end Frontend

end Webfrontend

end RiotPlayground
