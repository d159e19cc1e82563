import RiotPlayground.Webfrontend.Registry

/-!
# What is registered

A registry without its objects: what does not show whether a resource is observed.
-/

namespace RiotPlayground

namespace Webfrontend

/-- A registry as its anchors, each with the name of its node and the URLs of its resources. -/
abbrev View := Text → Option (NodeName × (ResourceName → Option Text))

def Node.view (node : Node) : NodeName × (ResourceName → Option Text) :=
  (node.name, fun k => (node.resources.get k).map Resource.url)

def Frontend.view (s : Frontend) : View := fun anchor => (s.nodes.get anchor).map Node.view

namespace View

/-- What one link does to a view. -/
def register (v : View) (r : Link) : View :=
  match v r.anchor with
  | some (name, urls) => Function.update v r.anchor
      (some (name, Function.update urls (getResourceName r.url) (some r.url)))
  | none => Function.update (fun anchor => (v anchor).filter fun n => n.1 ≠ getNodeName r.url)
      r.anchor (some (getNodeName r.url,
        Function.update (fun _ => none) (getResourceName r.url) (some r.url)))

/-- What the links up to the first that throws do to a view. -/
def registerAll : View → List (Option Link) → View
  | v, [] => v
  | v, none :: _ => v
  | v, some r :: doc => if Frontend.Throws (some r) then v else registerAll (v.register r) doc

end View

lemma view_addResource (node : Node) (r : Link) : (node.addResource r).view =
    (node.name, Function.update node.view.2 (getResourceName r.url) (some r.url)) := by
  refine Prod.ext rfl (funext fun k => ?_)
  change ((node.resources.set _ _).get k).map Resource.url =
    Function.update node.view.2 (getResourceName r.url) (some r.url) k
  by_cases hk : k = getResourceName r.url
  · rw [hk, Dict.get_set_self, Function.update_self]
    rfl
  · rw [Dict.get_set_ne hk, Function.update_of_ne hk]
    rfl

lemma view_set (nodes : Nodes) (anchor : Text) (node : Node) (sockets : List Text) (widgets : ℕ) :
    Frontend.view ⟨nodes.set anchor node, sockets, widgets⟩ =
      Function.update (fun a => (nodes.get a).map Node.view) anchor (some node.view) := by
  funext a
  change ((nodes.set anchor node).get a).map Node.view = _
  by_cases ha : a = anchor
  · rw [ha, Dict.get_set_self, Function.update_self]
    rfl
  · rw [Dict.get_set_ne ha, Function.update_of_ne ha]

lemma view_register (s : Frontend) (r : Link) : (s.register r).view = s.view.register r := by
  unfold Frontend.register View.register
  have hview : s.view r.anchor = (s.nodes.get r.anchor).map Node.view := rfl
  cases hnode : s.nodes.get r.anchor with
  | some node =>
    rw [hview, hnode]
    dsimp only [Option.map_some]
    rw [view_set, view_addResource]
    rfl
  | none =>
    rw [hview, hnode]
    dsimp only [Option.map_none]
    rw [view_set]
    unfold newNode
    rw [view_addResource]
    congr 1
    funext a
    rw [Dict.get_filter]
    change _ = ((s.nodes.get a).map Node.view).filter _
    rw [Option.filter_map]
    rfl

lemma view_registerAll (s : Frontend) (doc : List (Option Link)) :
    (Frontend.registerAll s doc).1.view = s.view.registerAll doc := by
  induction doc generalizing s with
  | nil => rfl
  | cons l doc ih =>
    cases l with
    | none => rfl
    | some r =>
      unfold Frontend.registerAll View.registerAll
      split
      · rfl
      · rw [ih, view_register]

/-- Observing does not show in a view. -/
lemma view_observe (s : Frontend) (anchor : Text) (k : ResourceName) :
    (s.observe anchor k).view = s.view := by
  unfold Frontend.observe
  split
  · rfl
  · rename_i node hnode
    split
    · rfl
    · rename_i res hres
      split
      · rfl
      · rw [view_set]
        refine (Function.update_eq_iff.mpr ⟨?_, fun _ _ => rfl⟩)
        change _ = (s.nodes.get anchor).map Node.view
        rw [hnode]
        refine congrArg some (Prod.ext rfl (funext fun k' => ?_))
        change ((node.resources.set k _).get k').map Resource.url =
          (node.resources.get k').map Resource.url
        by_cases hk : k' = k
        · rw [hk, Dict.get_set_self, hres]
          rfl
        · rw [Dict.get_set_ne hk]

lemma view_loadTarget (s : Frontend) (name : NodeName) : (s.loadTarget name).view = s.view := by
  unfold Frontend.loadTarget
  split
  · rfl
  · dsimp only
    split
    · rw [view_observe, view_observe]
    · rw [view_observe]

lemma view_resourceLookup (s : Frontend) (doc : List (Option Link)) :
    (s.resourceLookup doc).view = s.view.registerAll doc := by
  have hload : ∀ t : Frontend, t.loadTargets.view = t.view := fun t =>
    (view_loadTarget _ .dino).trans ((view_loadTarget _ .display).trans
      (view_loadTarget t .controller))
  unfold Frontend.resourceLookup
  dsimp only
  split
  · rw [hload, view_registerAll]
  · exact view_registerAll s doc

end Webfrontend

end RiotPlayground
