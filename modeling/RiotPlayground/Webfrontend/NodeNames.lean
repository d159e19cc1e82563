import Mathlib.Logic.Function.Basic
import RiotPlayground.Webfrontend.Registry

/-!
# The names of nodes

The constructor of `CoAPNode` deletes the nodes with its name before it is inserted. A record of
the nodes constructed tells which node has a name, and which name a node has.
-/

namespace RiotPlayground

namespace Webfrontend

/-- The anchors and names of the nodes constructed, the latest first. -/
abbrev Built := List (Text × NodeName)

namespace Built

/-- The anchor of the latest node with a name. -/
def anchorOf (built : Built) (name : NodeName) : Option Text :=
  (built.find? fun b => b.2 = name).map Prod.fst

/-- The name of the latest node with an anchor. -/
def nameOf (built : Built) (anchor : Text) : Option NodeName :=
  (built.find? fun b => b.1 = anchor).map Prod.snd

lemma anchorOf_cons (built : Built) (anchor : Text) (name k : NodeName) :
    anchorOf ((anchor, name) :: built) k = if name = k then some anchor else built.anchorOf k := by
  unfold anchorOf
  by_cases hk : name = k <;> simp [hk]

lemma nameOf_append {added : Built} {anchor : Text} (h : ∀ b ∈ added, b.1 ≠ anchor)
    (built : Built) : nameOf (added ++ built) anchor = built.nameOf anchor := by
  unfold nameOf
  have hnone : added.find? (fun b => b.1 = anchor) = none := by
    apply List.find?_eq_none.mpr
    intro b hb
    simp [h b hb]
  rw [List.find?_append, hnone, Option.none_or]

lemma nameOf_cons (built : Built) (anchor a : Text) (name : NodeName) :
    nameOf ((anchor, name) :: built) a = if anchor = a then some name else built.nameOf a := by
  unfold nameOf
  by_cases ha : anchor = a <;> simp [ha]

end Built

namespace Frontend

/-- The record after a link. -/
def record (s : Frontend) (built : Built) (r : Link) : Built :=
  if (s.nodes.get r.anchor).isSome then built
  else (r.anchor, (newNode s.nodes r).2.name) :: built

/-- The record after the links up to the first that throws. -/
def recordAll : Frontend → Built → List (Option Link) → Built
  | _, built, [] => built
  | _, built, none :: _ => built
  | s, built, some r :: doc =>
    if Throws (some r) then built else recordAll (s.register r) (s.record built r) doc

def recordEvent (built : Built) (s : Frontend) (e : Event) (_ : Frontend) : Built :=
  match e with
  | .notification doc => s.recordAll built doc
  | .widgetLoaded => built

/-- The system together with the record, which `run_luke` starts. -/
def recorded : TransitionSystem (Frontend × Built) Event := system.recording recordEvent

def recordedInit (corerd : Link) : Frontend × Built :=
  (init corerd, [(corerd.anchor, (newNode .empty corerd).2.name)])

/-- The anchors and names that the nodes carry. -/
def labels (s : Frontend) (anchor : Text) : Option (Text × NodeName) :=
  (s.nodes.get anchor).map fun node => (node.anchor, node.name)

lemma labels_set (nodes : Nodes) (anchor : Text) (node : Node) (sockets : List Text)
    (widgets : ℕ) :
    labels ⟨nodes.set anchor node, sockets, widgets⟩ =
      Function.update (labels ⟨nodes, sockets, widgets⟩) anchor
        (some (node.anchor, node.name)) := by
  funext a
  unfold labels
  by_cases ha : a = anchor
  · rw [ha, Dict.get_set_self, Function.update_self]
    rfl
  · rw [Dict.get_set_ne ha, Function.update_of_ne ha]

/-- A node that stays what it is but for its resources. -/
lemma labels_set_same {s : Frontend} {anchor : Text} {old node : Node}
    (hold : s.nodes.get anchor = some old) (ha : node.anchor = old.anchor)
    (hn : node.name = old.name) (sockets : List Text) :
    labels { s with nodes := s.nodes.set anchor node, sockets := sockets } = s.labels := by
  rw [labels_set, Function.update_eq_iff]
  refine ⟨?_, fun _ _ => rfl⟩
  unfold labels
  rw [hold, ha, hn]
  rfl

lemma labels_observe (s : Frontend) (anchor : Text) (k : ResourceName) :
    (s.observe anchor k).labels = s.labels := by
  unfold observe
  split
  · rfl
  · rename_i node hnode
    split
    · rfl
    · split
      · rfl
      · apply labels_set_same hnode
        · rfl
        · rfl

lemma labels_loadTarget (s : Frontend) (name : NodeName) :
    (s.loadTarget name).labels = s.labels := by
  unfold loadTarget
  split
  · rfl
  · dsimp only
    split
    · rw [labels_observe, labels_observe]
    · rw [labels_observe]

lemma labels_loadTargets (s : Frontend) : s.loadTargets.labels = s.labels :=
  (labels_loadTarget _ .dino).trans
    ((labels_loadTarget _ .display).trans (labels_loadTarget s .controller))

lemma labels_register_old {s : Frontend} {r : Link} {node : Node}
    (h : s.nodes.get r.anchor = some node) : (s.register r).labels = s.labels := by
  unfold register
  rw [h]
  apply labels_set_same h
  · rfl
  · rfl

lemma labels_register_new {s : Frontend} {r : Link} (h : s.nodes.get r.anchor = none) :
    (s.register r).labels =
      Function.update (fun a => (s.labels a).filter fun l => l.2 ≠ getNodeName r.url) r.anchor
        (some (r.anchor, getNodeName r.url)) := by
  unfold register
  rw [h]
  dsimp only
  rw [labels_set]
  congr 1
  funext a
  unfold labels newNode
  dsimp only
  rw [Dict.get_filter, Option.filter_map]
  rfl

/-- The labels agree with the record. -/
structure Named (labels : Text → Option (Text × NodeName)) (built : Built) : Prop where
  anchor : ∀ a l, labels a = some l → l.1 = a
  latest : ∀ a k, labels a = some (a, k) ↔ built.anchorOf k = some a
  name : ∀ a l, labels a = some l → built.nameOf a = some l.2

lemma named_new {labels : Text → Option (Text × NodeName)} {built : Built} {anchor : Text}
    (k : NodeName) (h : Named labels built) (hnone : labels anchor = none) :
    Named (Function.update (fun a => (labels a).filter fun l => l.2 ≠ k) anchor (some (anchor, k)))
      ((anchor, k) :: built) := by
  constructor
  · intro a l hl
    by_cases ha : a = anchor
    · subst ha
      rw [Function.update_self] at hl
      rw [← Option.some.inj hl]
    · rw [Function.update_of_ne ha] at hl
      exact h.anchor a l (Option.filter_eq_some_iff.mp hl).1
  · intro a k'
    rw [Built.anchorOf_cons]
    by_cases ha : a = anchor
    · subst ha
      rw [Function.update_self]
      have hnot : built.anchorOf k' ≠ some a := by
        rw [ne_eq, ← h.latest, hnone]
        exact Option.some_ne_none _ ∘ Eq.symm
      by_cases hk : k = k' <;> simp [hk, hnot]
    · rw [Function.update_of_ne ha, Option.filter_eq_some_iff, h.latest]
      by_cases hk : k = k'
      · simp [hk, Ne.symm ha]
      · simp [hk, Ne.symm hk]
  · intro a l hl
    rw [Built.nameOf_cons]
    by_cases ha : a = anchor
    · subst ha
      rw [Function.update_self] at hl
      rw [if_pos rfl, ← Option.some.inj hl]
    · rw [Function.update_of_ne ha] at hl
      rw [if_neg (Ne.symm ha)]
      exact h.name a l (Option.filter_eq_some_iff.mp hl).1

lemma named_register {s : Frontend} {built : Built} (h : Named s.labels built) (r : Link) :
    Named (s.register r).labels (s.record built r) := by
  unfold record
  cases hnode : s.nodes.get r.anchor with
  | some node =>
    rw [labels_register_old hnode]
    exact h
  | none =>
    rw [labels_register_new hnode]
    apply named_new _ h
    unfold labels
    rw [hnode]
    rfl

lemma named_registerAll {s : Frontend} {built : Built} (h : Named s.labels built)
    (doc : List (Option Link)) : Named (s.registerAll doc).1.labels (s.recordAll built doc) := by
  induction doc generalizing s built with
  | nil => exact h
  | cons l doc ih =>
    cases l with
    | none => exact h
    | some r =>
      unfold registerAll recordAll
      split
      · exact h
      · exact ih (named_register h r)

lemma named_init (corerd : Link) :
    Named (recordedInit corerd).1.labels (recordedInit corerd).2 := by
  have hempty : Named (labels ⟨.empty, [], 0⟩) [] := by
    constructor
    · intro a l hl
      cases hl
    · intro a k
      exact iff_of_false (Option.some_ne_none _ ∘ Eq.symm) (Option.some_ne_none _ ∘ Eq.symm)
    · intro a l hl
      cases hl
  have hlabels : (recordedInit corerd).1.labels =
      (register ⟨.empty, [], 0⟩ corerd).labels := labels_observe ..
  rw [hlabels]
  exact named_register hempty corerd

lemma named_step {p q : Frontend × Built} {e : Event} (h : Named p.1.labels p.2)
    (hs : recorded.step p e = some q) : Named q.1.labels q.2 := by
  obtain ⟨hstep, hq⟩ := TransitionSystem.recording_step.mp hs
  rw [hq]
  cases e with
  | notification doc =>
    rw [← Option.some.inj hstep]
    have hall := named_registerAll h doc
    unfold resourceLookup
    dsimp only
    split
    · rw [labels_loadTargets]
      exact hall
    · exact hall
  | widgetLoaded =>
    obtain ⟨-, ht⟩ := Option.ite_none_left_eq_some.mp hstep
    rw [← Option.some.inj ht]
    have hlabels : ({ p.1.loadTargets with widgets := p.1.widgets - 1 } : Frontend).labels =
        p.1.labels := labels_loadTargets p.1
    rw [hlabels]
    exact h

lemma labels_of_mem {s : Frontend} {built : Built} (h : Named s.labels built) {e : Text × Node}
    (he : e ∈ s.nodes.entries) : s.labels e.1 = some (e.1, e.2.name) := by
  have hget : s.nodes.get e.1 = some e.2 := Dict.get_eq_some_iff.mpr he
  have hlabel : s.labels e.1 = some (e.2.anchor, e.2.name) := by
    unfold labels
    rw [hget]
    rfl
  have hanchor : e.2.anchor = e.1 := h.anchor _ _ hlabel
  rw [hlabel, hanchor]

/-- The first node with a name, in the order of the keys, is the latest. -/
lemma getNodeByName_eq {s : Frontend} {built : Built} (h : Named s.labels built) (k : NodeName) :
    s.getNodeByName k = built.anchorOf k := by
  ext a
  rw [← h.latest]
  unfold getNodeByName
  constructor
  · intro hfound
    obtain ⟨e, he, rfl⟩ := Option.map_eq_some_iff.mp hfound
    have hname : e.2.name = k := by simpa using List.find?_some he
    rw [labels_of_mem h (List.mem_of_find?_eq_some he), hname]
  · intro hlabel
    obtain ⟨node, hnode, heq⟩ := Option.map_eq_some_iff.mp hlabel
    have hname : node.name = k := (Prod.mk.inj heq).2
    have hmem : (a, node) ∈ s.nodes.entries := Dict.get_eq_some_iff.mp hnode
    cases hfind : s.nodes.entries.find? fun e => e.2.name = k with
    | none => exact absurd (List.find?_eq_none.mp hfind _ hmem) (by simp [hname])
    | some e =>
      have hname' : e.2.name = k := by simpa using List.find?_some hfind
      have hlabel' := labels_of_mem h (List.mem_of_find?_eq_some hfind)
      rw [hname', h.latest] at hlabel'
      rw [h.latest, hlabel'] at hlabel
      exact hlabel

/-- What is constructed is put in front. -/
lemma suffix_recordAll (s : Frontend) (built : Built) (doc : List (Option Link)) :
    built <:+ s.recordAll built doc := by
  induction doc generalizing s built with
  | nil => exact List.suffix_refl built
  | cons l doc ih =>
    cases l with
    | none => exact List.suffix_refl built
    | some r =>
      have hrecord : built <:+ s.record built r := by
        unfold record
        split
        · exact List.suffix_refl built
        · exact List.suffix_cons ..
      unfold recordAll
      split
      · exact List.suffix_refl built
      · exact hrecord.trans (ih _ _)

lemma suffix_step {p q : Frontend × Built} {e : Event} (hs : recorded.step p e = some q) :
    p.2 <:+ q.2 := by
  rw [(TransitionSystem.recording_step.mp hs).2]
  cases e with
  | notification doc => exact suffix_recordAll p.1 p.2 doc
  | widgetLoaded => exact List.suffix_refl p.2

lemma named_run {p q : Frontend × Built} {events : List Event} (h : Named p.1.labels p.2)
    (hrun : recorded.run p events = some q) : Named q.1.labels q.2 ∧ p.2 <:+ q.2 := by
  have hreach := TransitionSystem.reach_of_run (TransitionSystem.meets_true _ _) hrun
  apply hreach.invariant (P := fun q => Named q.1.labels q.2 ∧ p.2 <:+ q.2)
  · exact ⟨h, List.suffix_refl _⟩
  · intro _ _ _ hp _ hs
    exact ⟨named_step hp.1 hs, hp.2.trans (suffix_step hs)⟩

/-- Names are unique, nodes are under their anchors and keep their names until there is a new node,
and a name stands for the node constructed last. -/
theorem names_unique (corerd : Link) (events : List Event) {s : Frontend} {built : Built}
    (h : recorded.run (recordedInit corerd) events = some (s, built)) :
    (∀ a b node node', s.nodes.get a = some node → s.nodes.get b = some node' →
      node.name = node'.name → a = b) ∧
    (∀ a node, s.nodes.get a = some node → node.anchor = a) ∧
    (∀ later t built', recorded.run (s, built) later = some (t, built') → ∃ added,
      built' = added ++ built ∧ ∀ a node node', s.nodes.get a = some node →
        t.nodes.get a = some node' → (∀ b ∈ added, b.1 ≠ a) → node'.name = node.name) ∧
    ∀ k, s.getNodeByName k = built.anchorOf k := by
  have hnamed : Named s.labels built := (named_run (named_init corerd) h).1
  have hlabel {s : Frontend} {built : Built} (hnamed : Named s.labels built) {a : Text}
      {node : Node} (hnode : s.nodes.get a = some node) : s.labels a = some (a, node.name) :=
    labels_of_mem (e := (a, node)) hnamed (Dict.get_eq_some_iff.mp hnode)
  refine ⟨?_, ?_, ?_, getNodeByName_eq hnamed⟩
  · intro a b node node' ha hb hname
    have hla := hlabel hnamed ha
    have hlb := hlabel hnamed hb
    rw [hnamed.latest] at hla hlb
    rw [hname, hlb] at hla
    exact (Option.some.inj hla).symm
  · intro a node hnode
    apply hnamed.anchor a (node.anchor, node.name)
    unfold labels
    rw [hnode]
    rfl
  · intro later t built' hrun
    obtain ⟨hlater, added, hadded⟩ := named_run hnamed hrun
    have hadded : added ++ built = built' := hadded
    refine ⟨added, hadded.symm, ?_⟩
    intro a node node' hnode hnode' hnone
    have hname := hnamed.name a _ (hlabel hnamed hnode)
    have hname' : built'.nameOf a = some node'.name := hlater.name a _ (hlabel hlater hnode')
    rw [← hadded, Built.nameOf_append hnone, hname] at hname'
    exact (Option.some.inj hname').symm

/-- The dino moves to another anchor. -/
def movedDino : List Event :=
  [.notification [some ⟨"coap://[::1]".toList, "coap://[::1]/dino/points".toList⟩],
    .notification [some ⟨"coap://[::3]".toList, "coap://[::3]/dino/points".toList⟩]]

theorem names_unique_movedDino : ∃ s built, recorded.run
    (recordedInit ⟨"coap://[::2]".toList, "coap://[::2]/resource-lookup".toList⟩) movedDino =
      some (s, built) ∧ s.getNodeByName .dino = built.anchorOf .dino := by
  have hsome : (recorded.run
      (recordedInit ⟨"coap://[::2]".toList, "coap://[::2]/resource-lookup".toList⟩)
        movedDino).isSome = true := by decide +kernel
  obtain ⟨⟨s, built⟩, h⟩ := Option.isSome_iff_exists.mp hsome
  exact ⟨s, built, h, (names_unique _ _ h).2.2.2 .dino⟩

end Frontend

end Webfrontend

end RiotPlayground
