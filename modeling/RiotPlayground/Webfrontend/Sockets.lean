import RiotPlayground.Webfrontend.Registry

/-!
# One websocket per resource

`observing` belongs to an object that is replaced whenever its link is listed again.
-/

namespace RiotPlayground

namespace Webfrontend

/-- Observed by `load_targets` at some node. -/
def Watched (url : Text) : Prop :=
  getResourceName url = .points ∨ getResourceName url = .difficulty

instance : DecidablePred Watched := fun _ => inferInstanceAs (Decidable (_ ∨ _))

namespace Frontend

/-- The node at `anchor` has the resource `res` under the name `k`. -/
def Has (s : Frontend) (anchor : Text) (k : ResourceName) (res : Resource) : Prop :=
  ∃ node, s.nodes.get anchor = some node ∧ node.resources.get k = some res

def Listed (s : Frontend) (anchor url : Text) : Prop :=
  ∃ k res, s.Has anchor k res ∧ res.url = url

/-- At most one websocket is opened for a URL. -/
def OneSocket (s : Frontend) : Prop := s.sockets.Nodup

/-- A notification lists no watched URL that has a websocket already, and none under two anchors, be
it in the notification or in what is registered. -/
def Calm (s : Frontend) : Event → Prop
  | .notification doc => ∀ r, some r ∈ doc → Watched r.url → r.url ∉ s.sockets ∧
      ∀ anchor, s.Listed anchor r.url ∨ some ⟨anchor, r.url⟩ ∈ doc → anchor = r.anchor
  | .widgetLoaded => True

def dinoPoints : Link := ⟨"coap://[::1]".toList, "coap://[::1]/dino/points".toList⟩

def directory : Link := ⟨"coap://[::2]".toList, "coap://[::2]/resource-lookup".toList⟩

/-- The same link twice, in two notifications. -/
theorem relisted_twoSockets : ¬ ∀ corerd es s, system.run (init corerd) es = some s →
    OneSocket s := by
  intro h
  have hrun : ((system.run (init directory) [.notification [some dinoPoints],
      .notification [some dinoPoints]]).map Frontend.sockets) =
        some [directory.url, dinoPoints.url, dinoPoints.url] := by decide +kernel
  obtain ⟨s, hs, hsockets⟩ := Option.map_eq_some_iff.mp hrun
  have hnodup := h directory _ s hs
  unfold OneSocket at hnodup
  rw [hsockets] at hnodup
  exact absurd hnodup (by decide)

variable {s : Frontend}

/-- Opens a websocket for a resource that is not observed yet, or does nothing. -/
lemma observe_cases (s : Frontend) (anchor : Text) (k : ResourceName) :
    s.observe anchor k = s ∨ ∃ res, s.Has anchor k res ∧ res.observing = false ∧
      (s.observe anchor k).sockets = s.sockets ++ [res.url] ∧
      ∀ anchor' k' res', (s.observe anchor k).Has anchor' k' res' →
        anchor' = anchor ∧ k' = k ∧ res' = { res with observing := true } ∨
        ¬ (anchor' = anchor ∧ k' = k) ∧ s.Has anchor' k' res' := by
  unfold observe
  cases hnode : s.nodes.get anchor with
  | none => exact .inl rfl
  | some node =>
    cases hres : node.resources.get k with
    | none =>
      left
      dsimp only
      rw [hres]
    | some res =>
      dsimp only
      rw [hres]
      dsimp only
      cases hobserving : res.observing with
      | true => exact .inl rfl
      | false =>
        refine .inr ⟨res, ⟨node, hnode, hres⟩, hobserving, rfl, ?_⟩
        rintro anchor' k' res' ⟨node', hnode', hres'⟩
        change (s.nodes.set anchor _).get anchor' = some node' at hnode'
        by_cases ha : anchor' = anchor
        · subst ha
          rw [Dict.get_set_self] at hnode'
          obtain rfl := Option.some.inj hnode'
          by_cases hk : k' = k
          · subst hk
            exact .inl ⟨rfl, rfl, Option.some.inj (hres'.symm.trans (Dict.get_set_self ..))⟩
          · rw [Dict.get_set_ne hk] at hres'
            exact .inr ⟨fun h => hk h.2, node, hnode, hres'⟩
        · rw [Dict.get_set_ne ha] at hnode'
          exact .inr ⟨fun h => ha h.1, node', hnode', hres'⟩

/-- A registered link is the one new resource. -/
lemma has_register {r : Link} {anchor : Text} {k : ResourceName} {res : Resource}
    (h : (s.register r).Has anchor k res) :
    anchor = r.anchor ∧ k = getResourceName r.url ∧ res = ⟨r.url, false⟩ ∨ s.Has anchor k res := by
  obtain ⟨node, hnode, hres⟩ := h
  unfold register at hnode
  cases hold : s.nodes.get r.anchor with
  | some old =>
    rw [hold] at hnode
    change (s.nodes.set r.anchor (old.addResource r)).get anchor = some node at hnode
    by_cases ha : anchor = r.anchor
    · subst ha
      rw [Dict.get_set_self] at hnode
      obtain rfl := Option.some.inj hnode
      by_cases hk : k = getResourceName r.url
      · subst hk
        exact .inl ⟨rfl, rfl, Option.some.inj (hres.symm.trans (Dict.get_set_self ..))⟩
      · exact .inr ⟨old, hold, (Dict.get_set_ne hk _).symm.trans hres⟩
    · rw [Dict.get_set_ne ha] at hnode
      exact .inr ⟨node, hnode, hres⟩
  | none =>
    rw [hold] at hnode
    change ((newNode s.nodes r).1.set r.anchor (newNode s.nodes r).2).get anchor = some node
      at hnode
    by_cases ha : anchor = r.anchor
    · subst ha
      rw [Dict.get_set_self] at hnode
      obtain rfl := Option.some.inj hnode
      by_cases hk : k = getResourceName r.url
      · subst hk
        exact .inl ⟨rfl, rfl, Option.some.inj (hres.symm.trans (Dict.get_set_self ..))⟩
      · exact nomatch (Dict.get_set_ne hk _).symm.trans hres
    · rw [Dict.get_set_ne ha] at hnode
      unfold newNode at hnode
      rw [Dict.get_filter] at hnode
      exact .inr ⟨node, (Option.filter_eq_some_iff.mp hnode).1, hres⟩

@[simp] lemma sockets_register (s : Frontend) (r : Link) :
    (s.register r).sockets = s.sockets := by
  unfold register
  split <;> rfl

/-- What holds in a calm run. -/
structure Sound (s : Frontend) : Prop where
  nodup : s.sockets.Nodup
  named : ∀ anchor k res, s.Has anchor k res → k = getResourceName res.url
  fresh : ∀ anchor k res, s.Has anchor k res → res.observing = false → Watched res.url →
    res.url ∉ s.sockets
  owner : ∀ url anchor anchor', Watched url → s.Listed anchor url → s.Listed anchor' url →
    anchor = anchor'

lemma sound_observe (h : Sound s) {anchor : Text} {k : ResourceName}
    (hnew : ∀ res, s.Has anchor k res → res.observing = false → res.url ∉ s.sockets) :
    Sound (s.observe anchor k) := by
  rcases observe_cases s anchor k with hsame | ⟨res, hres, hobserving, hsockets, hhas⟩
  · rw [hsame]
    exact h
  · have hold : ∀ anchor' k' res', (s.observe anchor k).Has anchor' k' res' →
        ∃ old, s.Has anchor' k' old ∧ old.url = res'.url := by
      intro anchor' k' res' hres'
      rcases hhas anchor' k' res' hres' with ⟨rfl, rfl, rfl⟩ | ⟨-, hold⟩
      · exact ⟨res, hres, rfl⟩
      · exact ⟨res', hold, rfl⟩
    have hlisted : ∀ anchor' url, (s.observe anchor k).Listed anchor' url →
        s.Listed anchor' url := by
      rintro anchor' url ⟨k', res', hres', rfl⟩
      obtain ⟨old, hold, hurl⟩ := hold anchor' k' res' hres'
      exact ⟨k', old, hold, hurl⟩
    refine ⟨?_, ?_, ?_, fun url a a' hw ha ha' => h.owner url a a' hw (hlisted a url ha)
      (hlisted a' url ha')⟩
    · rw [hsockets]
      exact List.nodup_append'.mpr ⟨h.nodup, List.nodup_singleton _,
        List.disjoint_singleton.mpr (hnew res hres hobserving)⟩
    · intro anchor' k' res' hres'
      obtain ⟨old, hold, hurl⟩ := hold anchor' k' res' hres'
      rw [h.named anchor' k' old hold, hurl]
    · intro anchor' k' res' hres' hobserving' hw
      rcases hhas anchor' k' res' hres' with ⟨-, -, rfl⟩ | ⟨hother, hhas'⟩
      · cases hobserving'
      · rw [hsockets, List.mem_append, List.mem_singleton]
        rintro (hmem | hurl)
        · exact h.fresh anchor' k' res' hhas' hobserving' hw hmem
        · refine hother ⟨?_, ?_⟩
          · exact h.owner res'.url anchor' anchor hw ⟨k', res', hhas', rfl⟩
              ⟨k, res, hres, hurl.symm⟩
          · rw [h.named anchor' k' res' hhas', h.named anchor k res hres, hurl]

lemma sound_register (h : Sound s) {r : Link}
    (hr : Watched r.url → r.url ∉ s.sockets ∧ ∀ anchor, s.Listed anchor r.url → anchor = r.anchor) :
    Sound (s.register r) := by
  have hlisted : ∀ anchor url, (s.register r).Listed anchor url →
      anchor = r.anchor ∧ url = r.url ∨ s.Listed anchor url := by
    rintro anchor url ⟨k, res, hres, rfl⟩
    rcases has_register hres with ⟨ha, -, rfl⟩ | hold
    · exact .inl ⟨ha, rfl⟩
    · exact .inr ⟨k, res, hold, rfl⟩
  refine ⟨by rw [sockets_register]; exact h.nodup, ?_, ?_, ?_⟩
  · intro anchor k res hres
    rcases has_register hres with ⟨-, hk, rfl⟩ | hold
    · exact hk
    · exact h.named anchor k res hold
  · intro anchor k res hres hobserving hw
    rw [sockets_register]
    rcases has_register hres with ⟨-, -, rfl⟩ | hold
    · exact (hr hw).1
    · exact h.fresh anchor k res hold hobserving hw
  · intro url anchor anchor' hw ha ha'
    rcases hlisted anchor url ha with ⟨hanchor, rfl⟩ | hold
    · rcases hlisted anchor' _ ha' with ⟨hanchor', -⟩ | hold'
      · rw [hanchor, hanchor']
      · rw [hanchor, (hr hw).2 anchor' hold']
    · rcases hlisted anchor' url ha' with ⟨hanchor', rfl⟩ | hold'
      · rw [hanchor', (hr hw).2 anchor hold]
      · exact h.owner url anchor anchor' hw hold hold'

lemma calm_register {r : Link} {doc : List (Option Link)}
    (hC : Calm s (.notification (some r :: doc))) :
    Calm (s.register r) (.notification doc) := by
  intro r' hr' hw
  obtain ⟨hsocket, howner⟩ := hC r' (List.mem_cons_of_mem _ hr') hw
  refine ⟨by rwa [sockets_register], fun anchor hanchor => howner anchor ?_⟩
  rcases hanchor with ⟨k, res, hres, hurl⟩ | hdoc
  · rcases has_register hres with ⟨rfl, -, rfl⟩ | hold
    · right
      rw [← hurl]
      exact List.mem_cons_self
    · exact .inl ⟨k, res, hold, hurl⟩
  · exact .inr (List.mem_cons_of_mem _ hdoc)

lemma sound_registerAll {doc : List (Option Link)} (h : Sound s)
    (hC : Calm s (.notification doc)) : Sound (registerAll s doc).1 := by
  induction doc generalizing s with
  | nil => exact h
  | cons l doc ih =>
    cases l with
    | none => exact h
    | some r =>
      unfold registerAll
      split
      · exact h
      · refine ih (sound_register h fun hw => ?_) (calm_register hC)
        obtain ⟨hsocket, howner⟩ := hC r List.mem_cons_self hw
        exact ⟨hsocket, fun anchor hlisted => howner anchor (.inl hlisted)⟩

lemma sound_loadTarget (h : Sound s) (name : NodeName) : Sound (s.loadTarget name) := by
  have hobserve : ∀ {t : Frontend}, Sound t → ∀ anchor k, k = .points ∨ k = .difficulty →
      Sound (t.observe anchor k) := by
    intro t ht anchor k hk
    apply sound_observe ht
    intro res hres hobserving
    apply ht.fresh anchor k res hres hobserving
    unfold Watched
    rw [← ht.named anchor k res hres]
    exact hk
  unfold loadTarget
  split
  · exact h
  · rename_i anchor _
    dsimp only
    split
    · exact hobserve (hobserve h anchor .points (.inl rfl)) anchor .difficulty (.inr rfl)
    · exact hobserve h anchor .points (.inl rfl)

lemma sound_loadTargets (h : Sound s) : Sound s.loadTargets :=
  sound_loadTarget (sound_loadTarget (sound_loadTarget h .controller) .display) .dino

lemma sound_init (corerd : Link) : Sound (init corerd) := by
  have hnone : Sound ⟨.empty, [], 0⟩ :=
    ⟨List.nodup_nil, nofun, fun _ _ _ _ _ _ => List.not_mem_nil, nofun⟩
  have hregister : Sound (register ⟨.empty, [], 0⟩ corerd) :=
    sound_register hnone fun _ => ⟨List.not_mem_nil, nofun⟩
  have hnew : Sound
      ⟨(newNode .empty corerd).1.set corerd.anchor (newNode .empty corerd).2, [], 0⟩ :=
    ⟨List.nodup_nil, hregister.named, fun _ _ _ _ _ _ => List.not_mem_nil, hregister.owner⟩
  exact sound_observe hnew fun _ _ _ => List.not_mem_nil

lemma sound_step {t : Frontend} {e : Event} (h : Sound s) (hC : Calm s e)
    (hs : step s e = some t) : Sound t := by
  cases e with
  | notification doc =>
    obtain rfl := Option.some.inj hs
    unfold resourceLookup
    dsimp only
    split
    · exact sound_loadTargets (sound_registerAll h hC)
    · exact sound_registerAll h hC
  | widgetLoaded =>
    obtain ⟨-, ht⟩ := Option.ite_none_left_eq_some.mp hs
    obtain rfl := Option.some.inj ht
    obtain ⟨hnodup, hnamed, hfresh, howner⟩ := sound_loadTargets h
    exact ⟨hnodup, hnamed, hfresh, howner⟩

/-- Calm runs open at most one websocket for a URL. -/
theorem oneSocket_of_calm {corerd : Link} {es : List Event} {s : Frontend}
    (hC : system.Meets Calm (init corerd) es) (hrun : system.run (init corerd) es = some s) :
    OneSocket s := by
  have h : Sound s := (TransitionSystem.reach_of_run hC hrun).invariant (sound_init corerd)
    fun _ _ _ h hC hs => sound_step h hC hs
  exact h.nodup

/-- The page starts with the resource directory only. -/
lemma listed_init {corerd : Link} {anchor url : Text} (h : (init corerd).Listed anchor url) :
    url = corerd.url := by
  obtain ⟨k, res, hres, rfl⟩ := h
  have hmade : ∀ anchor k res, (register ⟨.empty, [], 0⟩ corerd).Has anchor k res →
      res.url = corerd.url := by
    intro anchor k res hhas
    rcases has_register hhas with ⟨-, -, rfl⟩ | ⟨node, hnode, -⟩
    · rfl
    · cases hnode
  unfold init at hres
  dsimp only at hres
  rcases observe_cases _ _ _ with hsame | ⟨old, hold, -, -, hhas⟩
  · rw [hsame] at hres
    exact hmade anchor k res hres
  · rcases hhas anchor k res hres with ⟨rfl, rfl, rfl⟩ | ⟨-, hkept⟩
    · exact hmade _ _ old hold
    · exact hmade anchor k res hkept

/-- The same link in one notification. -/
theorem oneSocket_listedOnce : ∃ s,
    system.run (init directory) [.notification [some dinoPoints]] = some s ∧
      s.sockets = [directory.url, dinoPoints.url] ∧ OneSocket s := by
  have hrun : (system.run (init directory) [.notification [some dinoPoints]]).map
      Frontend.sockets = some [directory.url, dinoPoints.url] := by decide +kernel
  obtain ⟨s, hs, hsockets⟩ := Option.map_eq_some_iff.mp hrun
  have hcalm : Calm (init directory) (.notification [some dinoPoints]) := by
    intro r hr _
    obtain rfl := Option.some.inj (List.mem_singleton.mp hr)
    refine ⟨by decide +kernel, ?_⟩
    rintro anchor (hlisted | hmem)
    · exact absurd (listed_init hlisted) (by decide +kernel)
    · exact congrArg Link.anchor (Option.some.inj (List.mem_singleton.mp hmem))
  have hmeets : system.Meets Calm (init directory) [.notification [some dinoPoints]] :=
    ⟨hcalm, fun _ _ => trivial⟩
  exact ⟨s, hs, hsockets, oneSocket_of_calm hmeets hs⟩

end Frontend

end Webfrontend

end RiotPlayground
