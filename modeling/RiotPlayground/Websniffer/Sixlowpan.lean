import Mathlib.Data.List.AList
import Mathlib.Data.List.Sort
import Mathlib.Data.Rat.Defs
import Mathlib.Algebra.Order.Ring.Unbundled.Rat
import RiotPlayground.Lib.TransitionSystem
import RiotPlayground.Lib.FirstWins

/-!
# `websniffer/sixlowpan.py`

The reassembly buffer of the web sniffer: two dictionaries, `_fragments` and `_gcs`, and the
`_timeout` tasks of the event loop. A task is known by its index in creation order, which is
what `_gcs` holds.
-/

namespace RiotPlayground

/-- The fragmentation layer `add` picks in a frame: `LoWPANFragmentationFirst` when the frame
has one, else `LoWPANFragmentationSubsequent`. -/
inductive FragLayer
  | first (datagramSize datagramTag : ℕ) (payload : List UInt8)
  | subsequent (datagramSize datagramTag datagramOffset : ℕ) (payload : List UInt8)
deriving DecidableEq, Repr

namespace FragLayer

def datagramSize : FragLayer → ℕ
  | first size _ _ => size
  | subsequent size _ _ _ => size

def datagramTag : FragLayer → ℕ
  | first _ tag _ => tag
  | subsequent _ tag _ _ => tag

/-- The offset the loop of `add` sorts by, in units of eight bytes. -/
def offset : FragLayer → ℕ
  | first _ _ _ => 0
  | subsequent _ _ datagramOffset _ => datagramOffset

def payload : FragLayer → List UInt8
  | first _ _ payload => payload
  | subsequent _ _ _ payload => payload

def isFirst : FragLayer → Bool
  | first _ _ _ => true
  | subsequent _ _ _ _ => false

end FragLayer

/-- A received frame; `mac` stands for its IEEE 802.15.4 layers, stripped of their payload. -/
structure Frame (Mac : Type) where
  mac : Mac
  srcAddr : ℕ
  lowpan : Option FragLayer
deriving DecidableEq, Repr

/-- What `add` uses of scapy: `dot15d4 hdrs bytes` is `Dot15d4(raw(hdrs / bytes))`, and
`ipv6 pkt` is its IPv6 layer, if `IPv6 in pkt`. -/
structure Scapy (Mac Pkt IPv6 : Type) where
  dot15d4 : Mac → List UInt8 → Pkt
  ipv6 : Pkt → Option IPv6
  plen : IPv6 → ℕ

/-- One element of a list in `_fragments`. -/
structure Entry (Mac τ : Type) where
  layer : FragLayer
  time : τ
  frame : Frame Mac
deriving DecidableEq, Repr

inductive TaskState
  | pending
  | cancelled
  | done
deriving DecidableEq, Repr

/-- A `_timeout` task, due `MAX_AGE` after its creation. -/
structure TimeoutTask where
  src : ℕ
  tag : ℕ
  due : ℚ
  state : TaskState
deriving DecidableEq, Repr

structure SixlowpanReassembly (Mac τ : Type) where
  fragments : AList fun _ : ℕ × ℕ => List (Entry Mac τ)
  gcs : AList fun _ : ℕ × ℕ => ℕ
  tasks : List TimeoutTask
  now : ℚ

namespace SixlowpanReassembly

variable {Mac Pkt IPv6 τ : Type}

def MAX_AGE : ℚ := 10

def init (now : ℚ) : SixlowpanReassembly Mac τ := ⟨∅, ∅, [], now⟩

/-- `_remove`: drops the pair from both dictionaries. -/
def dropPair (s : SixlowpanReassembly Mac τ) (src tag : ℕ) : SixlowpanReassembly Mac τ :=
  { s with fragments := s.fragments.erase (src, tag), gcs := s.gcs.erase (src, tag) }

def getitem (s : SixlowpanReassembly Mac τ) (src tag : ℕ) : Option (List (τ × Frame Mac)) :=
  (s.fragments.lookup (src, tag)).map fun es => es.map fun e => (e.time, e.frame)

/-- The fragments left after dropping repeated offsets, sorted by offset. -/
def distinctByOffset (es : List (Entry Mac τ)) : List (Entry Mac τ) :=
  (firstWins (fun e : Entry Mac τ => e.layer.offset) es).insertionSort
    fun a b => a.layer.offset ≤ b.layer.offset

/-- `pkt` before the headers are put in front of it. -/
def payloadBytes (es : List (Entry Mac τ)) : List UInt8 :=
  (distinctByOffset es).flatMap fun e => e.layer.payload

/-- The packet `add` makes of the entries of a pair when `fragment`, announcing `size`,
was the last one to arrive. -/
def reassemble (S : Scapy Mac Pkt IPv6) (es : List (Entry Mac τ)) (fragment : Frame Mac)
    (size : ℕ) : Option Pkt :=
  if payloadBytes es = [] then none
  else
    let pkt := S.dot15d4 fragment.mac (payloadBytes es)
    match S.ipv6 pkt with
    | some ip => if S.plen ip + 40 = size then some pkt else none
    | none => none

/-- The entries of a pair once `entry` has been added. -/
def appended (s : SixlowpanReassembly Mac τ) (src tag : ℕ) (entry : Entry Mac τ) :
    List (Entry Mac τ) :=
  match s.fragments.lookup (src, tag) with
  | some es => es ++ [entry]
  | none => [entry]

/-- The buffer after `add` stored an entry and started its `_timeout` task. -/
def store (s : SixlowpanReassembly Mac τ) (src tag : ℕ) (entry : Entry Mac τ) :
    SixlowpanReassembly Mac τ :=
  { s with
    fragments := s.fragments.insert (src, tag) (s.appended src tag entry)
    gcs := s.gcs.insert (src, tag) s.tasks.length
    tasks := s.tasks ++ [⟨src, tag, s.now + MAX_AGE, .pending⟩] }

def add (S : Scapy Mac Pkt IPv6) (s : SixlowpanReassembly Mac τ) (time : τ)
    (fragment : Frame Mac) :
    SixlowpanReassembly Mac τ × Option ℕ × Option ℕ × Option Pkt :=
  match fragment.lowpan with
  | none => (s, none, none, none)
  | some layer =>
    let src := fragment.srcAddr
    let tag := layer.datagramTag
    let entry := ⟨layer, time, fragment⟩
    (s.store src tag entry, some src, some tag,
      reassemble S (s.appended src tag entry) fragment layer.datagramSize)

/-- `Task.cancel` has no effect on a task that is already done. -/
def cancelTask (tasks : List TimeoutTask) (i : ℕ) : List TimeoutTask :=
  tasks.modify i fun t => if t.state = .pending then { t with state := .cancelled } else t

def remove (s : SixlowpanReassembly Mac τ) (src tag : ℕ) : SixlowpanReassembly Mac τ :=
  let s := match s.gcs.lookup (src, tag) with
    | some i => { s with tasks := cancelTask s.tasks i }
    | none => s
  s.dropPair src tag

def cancel (s : SixlowpanReassembly Mac τ) : SixlowpanReassembly Mac τ :=
  { s with
    tasks := (s.gcs.entries.map Sigma.snd).foldl cancelTask s.tasks
    fragments := ∅ }

/-- The end of `_timeout` of task `i`, once its sleep is over. -/
def timeout (s : SixlowpanReassembly Mac τ) (i : ℕ) : Option (SixlowpanReassembly Mac τ) :=
  match s.tasks[i]? with
  | some t =>
    if t.state = .pending ∧ t.due ≤ s.now then
      some (({ s with tasks := s.tasks.set i { t with state := .done } }).dropPair t.src t.tag)
    else none
  | none => none

/-- What happens to a buffer: the methods of the class, an expired timeout, time passing. -/
inductive Event (Mac τ : Type)
  | add (time : τ) (fragment : Frame Mac)
  | timeout (i : ℕ)
  | remove (src tag : ℕ)
  | cancel
  | tick (d : ℚ)

/-- Time does not pass beyond the moment at which a task is due. -/
def mayTick (s : SixlowpanReassembly Mac τ) (d : ℚ) : Bool :=
  0 ≤ d ∧ ∀ t ∈ s.tasks, t.state = .pending → s.now + d ≤ t.due

def step (S : Scapy Mac Pkt IPv6) (s : SixlowpanReassembly Mac τ) :
    Event Mac τ → Option (SixlowpanReassembly Mac τ)
  | .add time fragment => some (add S s time fragment).1
  | .timeout i => s.timeout i
  | .remove src tag => some (s.remove src tag)
  | .cancel => some s.cancel
  | .tick d => if s.mayTick d then some { s with now := s.now + d } else none

def system (S : Scapy Mac Pkt IPv6) :
    TransitionSystem (SixlowpanReassembly Mac τ) (Event Mac τ) := ⟨step S⟩

def buffered (s : SixlowpanReassembly Mac τ) (src tag : ℕ) : List (Entry Mac τ) :=
  (s.fragments.lookup (src, tag)).getD []

lemma appended_eq (s : SixlowpanReassembly Mac τ) (src tag : ℕ) (entry : Entry Mac τ) :
    s.appended src tag entry = s.buffered src tag ++ [entry] := by
  unfold appended buffered
  split <;> simp [*]

lemma lookup_store (s : SixlowpanReassembly Mac τ) (src tag : ℕ) (entry : Entry Mac τ) :
    (s.store src tag entry).fragments.lookup (src, tag) = some (s.appended src tag entry) :=
  AList.lookup_insert _

lemma buffered_store (s : SixlowpanReassembly Mac τ) (src tag : ℕ) (entry : Entry Mac τ) :
    (s.store src tag entry).buffered src tag = s.buffered src tag ++ [entry] := by
  rw [buffered, lookup_store, appended_eq, Option.getD_some]

lemma buffered_store_ne (s : SixlowpanReassembly Mac τ) {src tag src' tag' : ℕ}
    (entry : Entry Mac τ) (h : (src', tag') ≠ (src, tag)) :
    (s.store src tag entry).buffered src' tag' = s.buffered src' tag' := by
  rw [buffered, buffered, store, AList.lookup_insert_ne h]

lemma buffered_dropPair (s : SixlowpanReassembly Mac τ) (src tag src' tag' : ℕ) :
    (s.dropPair src tag).buffered src' tag' =
      if (src', tag') = (src, tag) then [] else s.buffered src' tag' := by
  unfold buffered dropPair
  split
  · rename_i h
    rw [h, AList.lookup_erase, Option.getD_none]
  · rename_i h
    rw [AList.lookup_erase_ne h]

lemma remove_fragments (s : SixlowpanReassembly Mac τ) (src tag : ℕ) :
    (s.remove src tag).fragments = s.fragments.erase (src, tag) := by
  unfold remove
  dsimp only
  split <;> rfl

lemma add_some {S : Scapy Mac Pkt IPv6} {s s' : SixlowpanReassembly Mac τ} {time : τ}
    {fragment : Frame Mac} {src tag : ℕ} {pkt : Pkt}
    (h : add S s time fragment = (s', some src, some tag, some pkt)) :
    ∃ layer, fragment.lowpan = some layer ∧ fragment.srcAddr = src ∧ layer.datagramTag = tag ∧
      s.store src tag ⟨layer, time, fragment⟩ = s' ∧
      reassemble S (s.appended src tag ⟨layer, time, fragment⟩) fragment layer.datagramSize =
        some pkt := by
  unfold add at h
  split at h
  · cases h
  · rename_i layer hl
    obtain ⟨rfl, hsrc, htag, hr⟩ := by simpa only [Prod.mk.injEq, Option.some.injEq] using h
    subst hsrc htag
    exact ⟨layer, hl, rfl, rfl, rfl, hr⟩

lemma reassemble_some {S : Scapy Mac Pkt IPv6} {es : List (Entry Mac τ)} {fragment : Frame Mac}
    {size : ℕ} {pkt : Pkt} (h : reassemble S es fragment size = some pkt) :
    ∃ ip, S.ipv6 (S.dot15d4 fragment.mac (payloadBytes es)) = some ip ∧
      S.plen ip + 40 = size := by
  unfold reassemble at h
  split at h
  · cases h
  · dsimp only at h
    split at h
    · rename_i ip hip
      split at h
      · exact ⟨ip, hip, by assumption⟩
      · cases h
    · cases h

lemma mem_distinctByOffset {es : List (Entry Mac τ)} {e : Entry Mac τ} :
    e ∈ distinctByOffset es ↔ e ∈ firstWins (fun e : Entry Mac τ => e.layer.offset) es := by
  simp [distinctByOffset]

lemma mem_of_mem_distinctByOffset {es : List (Entry Mac τ)} {e : Entry Mac τ}
    (h : e ∈ distinctByOffset es) : e ∈ es :=
  (firstWins_sublist es).subset (mem_distinctByOffset.mp h)

lemma distinctByOffset_pairwise (es : List (Entry Mac τ)) :
    (distinctByOffset es).Pairwise fun a b => a.layer.offset < b.layer.offset := by
  have hle : (distinctByOffset es).Pairwise fun a b => a.layer.offset ≤ b.layer.offset := by
    have : Std.Total fun a b : Entry Mac τ => a.layer.offset ≤ b.layer.offset :=
      ⟨fun a b => le_total _ _⟩
    have : IsTrans (Entry Mac τ) fun a b => a.layer.offset ≤ b.layer.offset :=
      ⟨fun a b c => le_trans⟩
    exact List.pairwise_insertionSort _ _
  have hne : (distinctByOffset es).Pairwise fun a b => a.layer.offset ≠ b.layer.offset :=
    (List.perm_insertionSort _ _).symm.pairwise (firstWins_pairwise es) fun h => h.symm
  exact hle.imp₂ (fun _ _ h1 h2 => lt_of_le_of_ne h1 h2) hne

/-- What a step can do to the entries of a pair: keep them, drop them, or append the
fragment that was added. -/
lemma step_buffered {S : Scapy Mac Pkt IPv6} {s s' : SixlowpanReassembly Mac τ}
    {e : Event Mac τ} (h : step S s e = some s') (src tag : ℕ) :
    s'.buffered src tag = s.buffered src tag ∨ s'.buffered src tag = [] ∨
    ∃ time fragment layer, e = .add time fragment ∧ fragment.lowpan = some layer ∧
      fragment.srcAddr = src ∧ layer.datagramTag = tag ∧
      s'.buffered src tag = s.buffered src tag ++ [⟨layer, time, fragment⟩] := by
  cases e with
  | add time fragment =>
    obtain rfl := Option.some.inj h
    cases hl : fragment.lowpan with
    | none => left; simp [add, hl]
    | some layer =>
      simp only [add, hl]
      by_cases hk : (src, tag) = (fragment.srcAddr, layer.datagramTag)
      · obtain ⟨rfl, rfl⟩ := Prod.mk.inj hk
        exact .inr (.inr ⟨time, fragment, layer, rfl, hl, rfl, rfl, buffered_store s _ _ _⟩)
      · exact .inl (buffered_store_ne s _ hk)
  | timeout i =>
    simp only [step, timeout] at h
    split at h
    · split at h
      · obtain rfl := Option.some.inj h
        rw [buffered_dropPair]
        split
        · exact .inr (.inl rfl)
        · exact .inl rfl
      · cases h
    · cases h
  | remove src' tag' =>
    obtain rfl := Option.some.inj h
    have heq : (s.remove src' tag').buffered src tag = (s.dropPair src' tag').buffered src tag := by
      simp only [buffered, remove_fragments, dropPair]
    rw [heq, buffered_dropPair]
    split
    · exact .inr (.inl rfl)
    · exact .inl rfl
  | cancel =>
    obtain rfl := Option.some.inj h
    exact .inr (.inl (by simp [buffered, cancel]))
  | tick d =>
    simp only [step] at h
    split at h
    · obtain rfl := Option.some.inj h
      exact .inl rfl
    · cases h

end SixlowpanReassembly

end RiotPlayground
