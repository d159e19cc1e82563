import Mathlib.Data.List.Perm.Basic
import Mathlib.Data.Set.Insert
import Mathlib.Data.Set.List
import RiotPlayground.Webfrontend.View

/-!
# The order of the links

A node has the name of the first of its links. `/reboot`, which every node has, names none.
-/

namespace RiotPlayground

namespace Webfrontend

/-- The links in any other order lead to the same registry. -/
def OrderFree (s : Frontend) (doc : List (Option Link)) : Prop :=
  ∀ doc', doc'.Perm doc → (s.resourceLookup doc').view = (s.resourceLookup doc).view

/-- No two anchors carry the identifying path of one kind of node. -/
def DistinctKinds (doc : List (Option Link)) : Prop :=
  ∀ r r', some r ∈ doc → some r' ∈ doc → getNodeName r.url = getNodeName r'.url →
    getNodeName r.url ≠ .undefined → r.anchor = r'.anchor

def rebootLink : Link := ⟨"coap://[::1]".toList, "coap://[::1]/reboot".toList⟩

def pointsLink : Link := ⟨"coap://[::1]".toList, "coap://[::1]/dino/points".toList⟩

def rdLink : Link := ⟨"coap://[::2]".toList, "coap://[::2]/resource-lookup".toList⟩

/-- The dino is not recognised if its `/reboot` comes first. -/
theorem rebootFirst_not_orderFree :
    ¬ ∀ corerd doc, DistinctKinds doc → OrderFree (Frontend.init corerd) doc := by
  intro h
  have hdistinct : DistinctKinds [some pointsLink, some rebootLink] := by
    have hanchor : ∀ r, some r ∈ [some pointsLink, some rebootLink] →
        r.anchor = "coap://[::1]".toList := by
      intro r hr
      simp only [List.mem_cons, List.not_mem_nil, Option.some.injEq, or_false] at hr
      rcases hr with rfl | rfl
      · rfl
      · rfl
    intro r r' hr hr' _ _
    rw [hanchor r hr, hanchor r' hr']
  have hsame := h rdLink _ hdistinct [some rebootLink, some pointsLink] (List.Perm.swap ..)
  have hname := congrArg (fun v : View => (v pointsLink.anchor).map Prod.fst) hsame
  have hpoints : (((Frontend.init rdLink).resourceLookup [some pointsLink, some rebootLink]).view
      pointsLink.anchor).map Prod.fst = some .dino := by decide +kernel
  have hreboot : (((Frontend.init rdLink).resourceLookup [some rebootLink, some pointsLink]).view
      pointsLink.anchor).map Prod.fst = some .undefined := by decide +kernel
  exact nomatch (hreboot.symm.trans hname).trans hpoints

/-- The name of the node at the anchor of a link, or the one the link gives it. -/
def View.nameOf (v : View) (r : Link) : NodeName :=
  match v r.anchor with
  | some n => n.1
  | none => getNodeName r.url

/-- The links of an anchor agree on the name of its node and on the URLs of its resources, and a new
anchor shares its name with no other one that is listed. -/
structure Settled (v : View) (links : Set Link) : Prop where
  name : ∀ r ∈ links, ∀ r' ∈ links, r.anchor = r'.anchor → v.nameOf r = v.nameOf r'
  distinct : ∀ r ∈ links, ∀ r' ∈ links, v r'.anchor = none → v.nameOf r = v.nameOf r' →
    r.anchor = r'.anchor
  url : ∀ r ∈ links, ∀ r' ∈ links, r.anchor = r'.anchor →
    getResourceName r.url = getResourceName r'.url → r.url = r'.url

/-- The link is registered already. -/
def Known (v : View) (r : Link) : Prop :=
  ∃ n, v r.anchor = some n ∧ n.2 (getResourceName r.url) = some r.url

/-- No link throws and they are settled, or some link throws and the others say nothing new. -/
def OrderSettled (s : Frontend) (doc : List (Option Link)) : Prop :=
  (∀ l ∈ doc, ¬ Frontend.Throws l) ∧ Settled s.view {r | some r ∈ doc} ∨
  (∃ l ∈ doc, Frontend.Throws l) ∧
    ∀ r, some r ∈ doc → ¬ Frontend.Throws (some r) → Known s.view r

namespace View

variable {v : View} {r : Link}

lemma register_some {n : NodeName × (ResourceName → Option Text)} (h : v r.anchor = some n) :
    v.register r = Function.update v r.anchor
      (some (n.1, Function.update n.2 (getResourceName r.url) (some r.url))) := by
  unfold register
  rw [h]

lemma register_none (h : v r.anchor = none) : v.register r =
    Function.update (fun anchor => (v anchor).filter fun n => n.1 ≠ getNodeName r.url) r.anchor
      (some (getNodeName r.url,
        Function.update (fun _ => none) (getResourceName r.url) (some r.url))) := by
  unfold register
  rw [h]

lemma nameOf_some {n : NodeName × (ResourceName → Option Text)} (h : v r.anchor = some n) :
    v.nameOf r = n.1 := by
  unfold nameOf
  rw [h]

lemma nameOf_none (h : v r.anchor = none) : v.nameOf r = getNodeName r.url := by
  unfold nameOf
  rw [h]

/-- A link that was just registered is known. -/
lemma known_register (v : View) (r : Link) : Known (v.register r) r := by
  cases h : v r.anchor with
  | some n =>
    rw [register_some h]
    exact ⟨_, Function.update_self .., Function.update_self ..⟩
  | none =>
    rw [register_none h]
    refine ⟨_, Function.update_self .., ?_⟩
    exact Function.update_self (getResourceName r.url) (some r.url) fun _ => none

/-- The node has the name of its anchor, or of the link. -/
lemma register_anchor (v : View) (r : Link) :
    ∃ urls, v.register r r.anchor = some (v.nameOf r, urls) := by
  cases h : v r.anchor with
  | some n =>
    rw [register_some h, nameOf_some h]
    exact ⟨_, Function.update_self ..⟩
  | none =>
    rw [register_none h, nameOf_none h]
    exact ⟨_, Function.update_self ..⟩

lemma register_of_known (h : Known v r) : v.register r = v := by
  obtain ⟨n, hn, hurl⟩ := h
  rw [register_some hn]
  refine Function.update_eq_iff.mpr ⟨?_, fun _ _ => rfl⟩
  have hsame : Function.update n.2 (getResourceName r.url) (some r.url) = n.2 :=
    Function.update_eq_iff.mpr ⟨hurl.symm, fun _ _ => rfl⟩
  rw [hsame, hn]

lemma register_none_of_ne {anchor : Text} (hne : anchor ≠ r.anchor) (h : v anchor = none) :
    v.register r anchor = none := by
  cases hr : v r.anchor with
  | some n => rw [register_some hr, Function.update_of_ne hne, h]
  | none => rw [register_none hr, Function.update_of_ne hne, h, Option.filter_none]

lemma foldl_none {links : List Link} {anchor : Text} (hne : ∀ r ∈ links, r.anchor ≠ anchor)
    (h : v anchor = none) : links.foldl register v anchor = none := by
  induction links generalizing v with
  | nil => exact h
  | cons r links ih =>
    exact ih (fun r' hr' => hne r' (List.mem_cons_of_mem r hr'))
      (register_none_of_ne (hne r List.mem_cons_self).symm h)

lemma foldl_name {links : List Link} {anchor : Text} {name : NodeName}
    {urls : ResourceName → Option Text} (heq : ∀ r ∈ links, r.anchor = anchor)
    (h : v anchor = some (name, urls)) :
    ∃ urls', links.foldl register v anchor = some (name, urls') := by
  induction links generalizing v urls with
  | nil => exact ⟨urls, h⟩
  | cons r links ih =>
    obtain rfl := heq r List.mem_cons_self
    obtain ⟨urls', hurls'⟩ := register_anchor v r
    rw [nameOf_some h] at hurls'
    exact ih (fun r' hr' => heq r' (List.mem_cons_of_mem r hr')) hurls'

end View

/-- The URL of a resource after `links`: that of its link, or the one it had. -/
def UrlAfter (v : View) (links : Set Link) (anchor : Text) (k : ResourceName) (url : Text) :
    Prop :=
  (∃ r ∈ links, r.anchor = anchor ∧ getResourceName r.url = k ∧ r.url = url) ∨
  (∀ r ∈ links, r.anchor = anchor → getResourceName r.url ≠ k) ∧
    ((v anchor).bind fun n => n.2 k) = some url

/-- The view after `links`, in any order. -/
structure Final (v : View) (links : Set Link) (w : View) : Prop where
  name : ∀ r ∈ links, ∃ urls, w r.anchor = some (v.nameOf r, urls)
  urls : ∀ anchor n, w anchor = some n → ∀ k u, n.2 k = some u ↔ UrlAfter v links anchor k u
  others : ∀ anchor, (∀ r ∈ links, r.anchor ≠ anchor) → ∀ n, w anchor = some n ↔
    v anchor = some n ∧ ∀ r ∈ links, v r.anchor = none → v.nameOf r ≠ n.1

section Final

variable {v w w' : View} {links : Set Link} {r : Link}

lemma final_empty (v : View) : Final v ∅ v := by
  refine ⟨nofun, fun anchor n hn k u => ?_, fun anchor _ n => ?_⟩
  · unfold UrlAfter
    rw [hn]
    simp
  · simp

lemma Final.unique (h : Final v links w) (h' : Final v links w') : w = w' := by
  funext anchor
  by_cases hlisted : ∃ r ∈ links, r.anchor = anchor
  · obtain ⟨r, hr, rfl⟩ := hlisted
    obtain ⟨urls, hurls⟩ := h.name r hr
    obtain ⟨urls', hurls'⟩ := h'.name r hr
    have hsame : urls = urls' := by
      funext k
      ext u
      exact (h.urls _ _ hurls k u).trans (h'.urls _ _ hurls' k u).symm
    rw [hurls, hurls', hsame]
  · have hno : ∀ r ∈ links, r.anchor ≠ anchor := fun r hr heq => hlisted ⟨r, hr, heq⟩
    ext n
    exact (h.others anchor hno n).trans (h'.others anchor hno n).symm

lemma Settled.mono {links' : Set Link} (h : Settled v links') (hsub : links ⊆ links') :
    Settled v links :=
  ⟨fun r hr r' hr' => h.name r (hsub hr) r' (hsub hr'),
    fun r hr r' hr' => h.distinct r (hsub hr) r' (hsub hr'),
    fun r hr r' hr' => h.url r (hsub hr) r' (hsub hr')⟩

/-- A link of another resource does not matter. -/
lemma urlAfter_insert_of_skip {anchor : Text} {k : ResourceName}
    (hskip : r.anchor = anchor → getResourceName r.url ≠ k) (u : Text) :
    UrlAfter v (insert r links) anchor k u ↔ UrlAfter v links anchor k u := by
  refine or_congr ⟨?_, ?_⟩ (and_congr_left fun _ => ⟨fun hno r' hr' =>
    hno r' (Set.mem_insert_of_mem r hr'), fun hno r' hr' ha => ?_⟩)
  · rintro ⟨r', rfl | hr', ha, hk, hu⟩
    · exact absurd hk (hskip ha)
    · exact ⟨r', hr', ha, hk, hu⟩
  · rintro ⟨r', hr', hrest⟩
    exact ⟨r', Set.mem_insert_of_mem r hr', hrest⟩
  · rcases hr' with rfl | hr'
    · exact hskip ha
    · exact hno r' hr' ha

/-- The URL of a resource after its link. -/
lemma urlAfter_insert_self (hS : Settled v (insert r links)) (u : Text) :
    UrlAfter v (insert r links) r.anchor (getResourceName r.url) u ↔ r.url = u := by
  have hmem := Set.mem_insert r links
  constructor
  · rintro (⟨r', hr', ha, hk, rfl⟩ | ⟨hno, -⟩)
    · exact hS.url r hmem r' hr' ha.symm hk.symm
    · exact absurd rfl (hno r hmem rfl)
  · exact fun hu => .inl ⟨r, hmem, rfl, rfl, hu⟩

/-- The URLs of an anchor after another link of it. -/
lemma urlAfter_update {urls : ResourceName → Option Text} (hS : Settled v (insert r links))
    (hurls : ∀ k u, urls k = some u ↔ UrlAfter v links r.anchor k u) (k : ResourceName)
    (u : Text) : Function.update urls (getResourceName r.url) (some r.url) k = some u ↔
      UrlAfter v (insert r links) r.anchor k u := by
  by_cases hk : k = getResourceName r.url
  · subst hk
    rw [Function.update_self, Option.some.injEq, urlAfter_insert_self hS]
  · rw [Function.update_of_ne hk, hurls, urlAfter_insert_of_skip fun _ heq => hk heq.symm]

/-- A node that is there is listed, or it was there before. -/
lemma Final.listed_or_old {n : NodeName × (ResourceName → Option Text)} (h : Final v links w)
    (hw : w r.anchor = some n) :
    (∃ r₀ ∈ links, r₀.anchor = r.anchor) ∨ v r.anchor = some n := by
  by_cases hl : ∃ r₀ ∈ links, r₀.anchor = r.anchor
  · exact .inl hl
  · exact .inr ((h.others r.anchor (fun r₀ hr₀ ha => hl ⟨r₀, hr₀, ha⟩) _).mp hw).1

/-- Its name is that of its links. -/
lemma Final.nameOf_eq {n : NodeName × (ResourceName → Option Text)} (h : Final v links w)
    (hS : Settled v (insert r links)) (hw : w r.anchor = some n) : v.nameOf r = n.1 := by
  rcases h.listed_or_old hw with ⟨r₀, hr₀, ha⟩ | hv
  · obtain ⟨urls₀, hurls₀⟩ := h.name r₀ hr₀
    rw [ha, hw] at hurls₀
    rw [Option.some.inj hurls₀]
    exact hS.name r (Set.mem_insert r links) r₀ (Set.mem_insert_of_mem r hr₀) ha.symm
  · exact View.nameOf_some hv

/-- A node that is not there is not listed. -/
lemma Final.not_listed (h : Final v links w) (hw : w r.anchor = none) :
    ∀ r' ∈ links, r'.anchor ≠ r.anchor := by
  intro r' hr' ha
  obtain ⟨urls, hurls⟩ := h.name r' hr'
  rw [ha, hw] at hurls
  cases hurls

/-- It was not there before either: nothing that is listed could have removed it. -/
lemma Final.new_of_none (h : Final v links w) (hS : Settled v (insert r links))
    (hw : w r.anchor = none) : v r.anchor = none := by
  cases hv : v r.anchor with
  | none => rfl
  | some n =>
    have hgone : ¬ (v r.anchor = some n ∧ ∀ r' ∈ links, v r'.anchor = none →
        v.nameOf r' ≠ n.1) := by
      rw [← h.others r.anchor (h.not_listed hw) n, hw]
      exact Option.some_ne_none n ∘ Eq.symm
    refine absurd ⟨hv, fun r' hr' hnone heq => ?_⟩ hgone
    have hclash := hS.distinct r (Set.mem_insert r links) r' (Set.mem_insert_of_mem r hr') hnone
      ((View.nameOf_some hv).trans heq.symm)
    rw [← hclash, hv] at hnone
    cases hnone

/-- A link of a node that is there. -/
lemma Final.register_some {n : NodeName × (ResourceName → Option Text)} (h : Final v links w)
    (hS : Settled v (insert r links)) (hw : w r.anchor = some n) :
    Final v (insert r links) (w.register r) := by
  obtain ⟨name, urls⟩ := n
  have hmem := Set.mem_insert r links
  have hname : v.nameOf r = name := h.nameOf_eq hS hw
  have hother : ∀ anchor, anchor ≠ r.anchor → w.register r anchor = w anchor := fun anchor ha => by
    rw [View.register_some hw, Function.update_of_ne ha]
  refine ⟨fun r' hr' => ?_, fun anchor n hn k u => ?_, fun anchor hno n => ?_⟩
  · by_cases ha : r'.anchor = r.anchor
    · rw [hS.name r' hr' r hmem ha, ha, View.register_some hw, hname]
      exact ⟨_, Function.update_self ..⟩
    · rw [hother _ ha]
      exact h.name r' (hr'.resolve_left fun heq => ha (heq ▸ rfl))
  · by_cases ha : anchor = r.anchor
    · subst ha
      rw [View.register_some hw, Function.update_self] at hn
      obtain rfl := Option.some.inj hn
      exact urlAfter_update hS (h.urls r.anchor _ hw) k u
    · rw [hother anchor ha] at hn
      rw [h.urls anchor n hn k u, urlAfter_insert_of_skip fun heq => absurd heq.symm ha]
  · have ha := (hno r hmem).symm
    rw [hother anchor ha, h.others anchor (fun r' hr' => hno r' (Set.mem_insert_of_mem r hr')) n]
    refine and_congr_right fun _ => ⟨fun hall r' hr' hnew => ?_, fun hall r' hr' =>
      hall r' (Set.mem_insert_of_mem r hr')⟩
    rcases hr' with rfl | hr'
    · rcases h.listed_or_old hw with ⟨r₀, hr₀, ha₀⟩ | hv
      · rw [← hS.name r₀ (Set.mem_insert_of_mem _ hr₀) r' hmem ha₀]
        exact hall r₀ hr₀ (by rw [ha₀, hnew])
      · rw [hv] at hnew
        cases hnew
    · exact hall r' hr' hnew

/-- The first link of a node. -/
lemma Final.register_none (h : Final v links w) (hS : Settled v (insert r links))
    (hw : w r.anchor = none) : Final v (insert r links) (w.register r) := by
  have hmem := Set.mem_insert r links
  have hfirst := h.not_listed hw
  have hnew := h.new_of_none hS hw
  have hname := View.nameOf_none hnew
  have hself : w.register r r.anchor = some (getNodeName r.url,
      Function.update (fun _ => none) (getResourceName r.url) (some r.url)) := by
    rw [View.register_none hw, Function.update_self]
  have hother : ∀ anchor, anchor ≠ r.anchor →
      w.register r anchor = (w anchor).filter fun n => n.1 ≠ getNodeName r.url := by
    intro anchor ha
    rw [View.register_none hw, Function.update_of_ne ha]
  refine ⟨fun r' hr' => ?_, fun anchor n hn k u => ?_, fun anchor hno n => ?_⟩
  · rcases hr' with rfl | hr'
    · rw [hself, hname]
      exact ⟨_, rfl⟩
    · obtain ⟨urls, hurls⟩ := h.name r' hr'
      have hkept : v.nameOf r' ≠ getNodeName r.url := fun heq =>
        hfirst r' hr' (hS.distinct r' (Set.mem_insert_of_mem r hr') r hmem hnew
          (heq.trans hname.symm))
      rw [hother _ (hfirst r' hr'), hurls, Option.filter_some_pos (by simpa using hkept)]
      exact ⟨urls, rfl⟩
  · by_cases ha : anchor = r.anchor
    · subst ha
      rw [hself] at hn
      obtain rfl := Option.some.inj hn
      have hnone : ∀ k u, (fun _ : ResourceName => (none : Option Text)) k = some u ↔
          UrlAfter v links r.anchor k u := fun k u => by
        apply iff_of_false nofun
        rintro (⟨r', hr', ha', -⟩ | ⟨-, hold⟩)
        · exact hfirst r' hr' ha'
        · rw [hnew] at hold
          cases hold
      exact urlAfter_update hS hnone k u
    · rw [hother anchor ha] at hn
      rw [h.urls anchor n (Option.filter_eq_some_iff.mp hn).1 k u,
        urlAfter_insert_of_skip fun heq => absurd heq.symm ha]
  · have ha := (hno r hmem).symm
    rw [hother anchor ha, Option.filter_eq_some_iff,
      h.others anchor (fun r' hr' => hno r' (Set.mem_insert_of_mem r hr')) n, and_assoc]
    refine and_congr_right fun _ => ⟨fun ⟨hall, hkept⟩ r' hr' hnone => ?_, fun hall =>
      ⟨fun r' hr' => hall r' (Set.mem_insert_of_mem r hr'), ?_⟩⟩
    · rcases hr' with rfl | hr'
      · rw [hname]
        exact (of_decide_eq_true hkept).symm
      · exact hall r' hr' hnone
    · exact decide_eq_true (hname ▸ hall r hmem hnew).symm

lemma Final.register (h : Final v links w) (hS : Settled v (insert r links)) :
    Final v (insert r links) (w.register r) := by
  cases hw : w r.anchor with
  | some n => exact h.register_some hS hw
  | none => exact h.register_none hS hw

lemma Final.foldl (ls : List Link) (h : Final v links w) (hS : Settled v (links ∪ {r | r ∈ ls})) :
    Final v (links ∪ {r | r ∈ ls}) (ls.foldl View.register w) := by
  induction ls generalizing links w with
  | nil =>
    have hnone : links ∪ {r | r ∈ ([] : List Link)} = links := by simp
    rw [hnone]
    exact h
  | cons r ls ih =>
    have hinsert : links ∪ {r' | r' ∈ r :: ls} = insert r links ∪ {r | r ∈ ls} := by
      ext r'
      simp only [Set.mem_union, Set.mem_ofPred_eq, List.mem_cons, Set.mem_insert_iff]
      rw [← or_assoc, or_comm (a := r' ∈ links)]
    rw [hinsert] at hS ⊢
    exact ih (h.register (hS.mono Set.subset_union_left)) hS

/-- Settled links can be registered in any order. -/
lemma foldl_of_settled {ls ls' : List Link} (hS : Settled v {r | r ∈ ls}) (hperm : ls'.Perm ls) :
    ls'.foldl View.register v = ls.foldl View.register v := by
  have hrun : ∀ l : List Link, Settled v {r | r ∈ l} →
      Final v {r | r ∈ l} (l.foldl View.register v) := by
    intro l hl
    have h := (final_empty v).foldl l (by rwa [Set.empty_union])
    rwa [Set.empty_union] at h
  have hset : {r | r ∈ ls'} = {r | r ∈ ls} := Set.ext fun r => hperm.mem_iff
  have h' := hrun ls' (hset ▸ hS)
  rw [hset] at h'
  exact h'.unique (hrun ls hS)

end Final

/-! ### Links in any order -/

section Orders

variable {v F : View} {links : List Link} {r r' : Link}

/-- The link, the others of its anchor, and the rest. -/
lemma exists_split (hr : r ∈ links) :
    ∃ same others, (r :: same ++ others).Perm links ∧ (∀ r' ∈ same, r'.anchor = r.anchor) ∧
      ∀ r' ∈ others, r'.anchor ≠ r.anchor := by
  refine ⟨(links.erase r).filter fun r' => r'.anchor = r.anchor,
    (links.erase r).filter fun r' => !decide (r'.anchor = r.anchor), ?_, ?_, ?_⟩
  · rw [List.cons_append]
    exact ((List.filter_append_perm _ _).cons r).trans (List.perm_cons_erase hr).symm
  · intro r' hr'
    exact of_decide_eq_true (List.mem_filter.mp hr').2
  · intro r' hr'
    simpa using (List.mem_filter.mp hr').2

variable (hF : ∀ ls : List Link, ls.Perm links → ls.foldl View.register v = F)

include hF

/-- Every link is known in the end: it could have been the last. -/
lemma known_final (hr : r ∈ links) :
    Known F r := by
  have hlast : (links.erase r ++ [r]).Perm links :=
    (List.perm_append_singleton r _).trans (List.perm_cons_erase hr).symm
  rw [← hF _ hlast, List.foldl_append]
  exact View.known_register _ r

/-- A new node has the name that any of its links gives it: each could have been the first. -/
lemma name_final (hr : r ∈ links)
    (hnew : v r.anchor = none) : ∃ urls, F r.anchor = some (getNodeName r.url, urls) := by
  obtain ⟨same, others, hperm, hsame, hothers⟩ := exists_split hr
  have hnone : others.foldl View.register v r.anchor = none := View.foldl_none hothers hnew
  obtain ⟨urls, hurls⟩ := View.register_anchor (others.foldl View.register v) r
  rw [View.nameOf_none hnone] at hurls
  rw [← hF _ (List.perm_append_comm.trans hperm), List.foldl_append, List.foldl_cons]
  exact View.foldl_name hsame hurls

/-- A new node would remove the other one of its name. -/
lemma distinct_final (hr : r ∈ links)
    (hr' : r' ∈ links) (hnew : v r'.anchor = none) (hname : v.nameOf r = v.nameOf r') :
    r.anchor = r'.anchor := by
  by_contra hne
  obtain ⟨same, others, hperm, hsame, hothers⟩ := exists_split hr
  have hmem : r' ∈ others := by
    have h := hperm.mem_iff.mpr hr'
    rw [List.cons_append, List.mem_cons, List.mem_append] at h
    rcases h with rfl | h | h
    · exact absurd rfl hne
    · exact absurd (hsame r' h).symm hne
    · exact h
  have horder : (r :: same ++ r' :: others.erase r').Perm links :=
    ((List.perm_cons_erase hmem).symm.append_left _).trans hperm
  have hanchors : ∀ r₀ ∈ r :: same, r₀.anchor = r.anchor := by
    intro r₀ hr₀
    rcases List.mem_cons.mp hr₀ with rfl | hr₀
    · rfl
    · exact hsame r₀ hr₀
  have hnone : (r :: same).foldl View.register v r'.anchor = none :=
    View.foldl_none (fun r₀ hr₀ ha => hne ((hanchors r₀ hr₀).symm.trans ha)) hnew
  obtain ⟨urls₀, hurls₀⟩ := View.register_anchor v r
  obtain ⟨urls, hurls⟩ : ∃ urls, (r :: same).foldl View.register v r.anchor =
      some (v.nameOf r, urls) := by
    rw [List.foldl_cons]
    exact View.foldl_name hsame hurls₀
  have hremoved : ((r :: same).foldl View.register v).register r' r.anchor = none := by
    rw [View.register_none hnone, Function.update_of_ne hne, hurls, hname, View.nameOf_none hnew]
    exact Option.filter_some_neg (by simp)
  obtain ⟨n, hn, -⟩ := known_final hF hr
  rw [← hF _ horder, List.foldl_append, List.foldl_cons, View.foldl_none
    (fun r₀ hr₀ => hothers r₀ (List.mem_of_mem_erase hr₀)) hremoved] at hn
  cases hn

/-- Only settled links can be registered in any order. -/
lemma settled_of_foldl : Settled v {r | r ∈ links} := by
  refine ⟨fun r hr r' hr' ha => ?_, fun r hr r' hr' => distinct_final hF hr hr',
    fun r hr r' hr' ha hk => ?_⟩
  · cases hv : v r.anchor with
    | some n => rw [View.nameOf_some hv, View.nameOf_some (ha ▸ hv)]
    | none =>
      have hv' : v r'.anchor = none := ha ▸ hv
      obtain ⟨urls, hurls⟩ := name_final hF hr hv
      obtain ⟨urls', hurls'⟩ := name_final hF hr' hv'
      rw [ha, hurls'] at hurls
      rw [View.nameOf_none hv, View.nameOf_none hv']
      exact (Prod.mk.inj (Option.some.inj hurls)).1.symm
  · obtain ⟨n, hn, hurl⟩ := known_final hF hr
    obtain ⟨n', hn', hurl'⟩ := known_final hF hr'
    rw [← ha, hn] at hn'
    obtain rfl := Option.some.inj hn'
    rw [← hk, hurl] at hurl'
    exact Option.some.inj hurl'

end Orders

lemma exists_links {doc : List (Option Link)} (h : ∀ l ∈ doc, ¬ Frontend.Throws l) :
    ∃ links : List Link, links.map some = doc := by
  have hrange : doc ∈ Set.range (List.map (some : Link → Option Link)) := by
    rw [Set.range_list_map]
    intro l hl
    cases l with
    | none => exact absurd Frontend.throws_none (h none hl)
    | some r => exact ⟨r, rfl⟩
  exact hrange

namespace View

variable {v : View}

lemma registerAll_some {links : List Link} (h : ∀ r ∈ links, ¬ Frontend.Throws (some r)) :
    v.registerAll (links.map some) = links.foldl register v := by
  induction links generalizing v with
  | nil => rfl
  | cons r links ih =>
    rw [List.map_cons, registerAll, if_neg (h r List.mem_cons_self), List.foldl_cons,
      ih fun r' hr' => h r' (List.mem_cons_of_mem r hr')]

lemma registerAll_throws {l : Option Link} (h : Frontend.Throws l) (doc : List (Option Link)) :
    v.registerAll (l :: doc) = v := by
  cases l with
  | none => rfl
  | some r => rw [registerAll, if_pos h]

lemma registerAll_of_known {doc : List (Option Link)}
    (h : ∀ r, some r ∈ doc → ¬ Frontend.Throws (some r) → Known v r) : v.registerAll doc = v := by
  induction doc with
  | nil => rfl
  | cons l doc ih =>
    by_cases hl : Frontend.Throws l
    · exact registerAll_throws hl doc
    · cases l with
      | none => exact absurd Frontend.throws_none hl
      | some r =>
        rw [registerAll, if_neg hl, register_of_known (h r List.mem_cons_self hl)]
        exact ih fun r' hr' => h r' (List.mem_cons_of_mem _ hr')

/-- If a link throws, any other could have been the only one that is registered. -/
lemma known_of_throws {doc : List (Option Link)} {l : Option Link} {r : Link}
    (hfree : ∀ doc', doc'.Perm doc → v.registerAll doc' = v.registerAll doc)
    (hl : l ∈ doc) (hthrows : Frontend.Throws l) (hr : some r ∈ doc)
    (hparsed : ¬ Frontend.Throws (some r)) : Known v r := by
  have hmem : some r ∈ doc.erase l :=
    (List.mem_erase_of_ne (by rintro rfl; exact hparsed hthrows)).mpr hr
  have hfirst : (l :: some r :: (doc.erase l).erase (some r)).Perm doc :=
    ((List.perm_cons_erase hmem).symm.cons l).trans (List.perm_cons_erase hl).symm
  have hnone : v.registerAll doc = v := by
    rw [← hfree _ hfirst, registerAll_throws hthrows]
  have hone := hfree _ ((List.Perm.swap l (some r) _).trans hfirst)
  rw [hnone, registerAll, if_neg hparsed, registerAll_throws hthrows] at hone
  have hknown := known_register v r
  rwa [hone] at hknown

end View

/-- The registry does not depend on the order of the links exactly when they are settled, or when
only known ones are listed along with one that throws. -/
theorem orderFree_iff (s : Frontend) (doc : List (Option Link)) :
    OrderFree s doc ↔ OrderSettled s doc := by
  have hfree : OrderFree s doc ↔
      ∀ doc', doc'.Perm doc → s.view.registerAll doc' = s.view.registerAll doc := by
    apply forall₂_congr
    intro doc' _
    rw [view_resourceLookup, view_resourceLookup]
  rw [hfree]
  by_cases hthrows : ∃ l ∈ doc, Frontend.Throws l
  · constructor
    · intro h
      obtain ⟨l, hl, hlthrows⟩ := hthrows
      exact .inr ⟨⟨l, hl, hlthrows⟩, fun r hr => View.known_of_throws h hl hlthrows hr⟩
    · rintro (⟨hno, -⟩ | ⟨-, hknown⟩)
      · obtain ⟨l, hl, hlthrows⟩ := hthrows
        exact absurd hlthrows (hno l hl)
      · intro doc' hperm
        rw [View.registerAll_of_known hknown,
          View.registerAll_of_known fun r hr => hknown r (hperm.mem_iff.mp hr)]
  · have hno : ∀ l ∈ doc, ¬ Frontend.Throws l := fun l hl hlthrows => hthrows ⟨l, hl, hlthrows⟩
    obtain ⟨links, rfl⟩ := exists_links hno
    have hlinks : ∀ r ∈ links, ¬ Frontend.Throws (some r) := fun r hr =>
      hno _ (List.mem_map_of_mem hr)
    have hset : {r | some r ∈ links.map some} = {r | r ∈ links} := by
      ext r
      exact List.mem_map_of_injective (Option.some_injective Link)
    constructor
    · intro h
      refine .inl ⟨hno, ?_⟩
      rw [hset]
      apply settled_of_foldl (F := s.view.registerAll (links.map some))
      intro ls hperm
      rw [← View.registerAll_some fun r hr => hlinks r (hperm.mem_iff.mp hr)]
      exact h _ (hperm.map some)
    · rintro (⟨-, hS⟩ | ⟨hl, -⟩)
      · intro doc' hperm
        rw [hset] at hS
        obtain ⟨ls, rfl⟩ := exists_links fun l hl => hno l (hperm.mem_iff.mp hl)
        have hls := (List.map_perm_map_iff (Option.some_injective Link)).mp hperm
        rw [View.registerAll_some fun r hr => hlinks r (hls.mem_iff.mp hr),
          View.registerAll_some hlinks]
        exact foldl_of_settled hS hls
      · exact absurd hl hthrows

end Webfrontend

end RiotPlayground
