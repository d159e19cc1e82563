import RiotPlayground.StackComparison.SendProbe
import RiotPlayground.Lib.TransitionSystem
import Mathlib.Data.Nat.Find

/-!
# Which start time a frame is compared with

`exp_run` goes on while the stack is still sending, so between `conn_udp_sendto` and the last frame
of a packet others may have been prepared. The time of a packet is kept in one of
`TIMER_WINDOW_SIZE` slots, chosen by its id, and the ids start again with each payload size.
-/

namespace RiotPlayground

open Buffer

namespace TxExp

/-- `exp.h`, with what its `#error` lines exclude. `fits`: `payload_size` does not wrap around. -/
structure Sweep where
  minPayload : ℕ
  maxPayload : ℕ
  payloadStep : ℕ
  runs : ℕ
  min_le : 5 ≤ minPayload
  fits : maxPayload + payloadStep < 65536
  minFits : minPayload < 65536

/-- `EXP_MIN_PAYLOAD` and its neighbours, as they are by default. -/
def Sweep.default : Sweep := ⟨8, 1232, 8, 1000, by decide, by decide, by decide⟩

/-- A packet that was handed to the stack, and when. -/
structure Packet where
  id : ℕ
  size : UInt16
  payload : List UInt8
  start : UInt32

def Packet.slot (p : Packet) : ℕ := p.id % TIMER_WINDOW_SIZE

/-- The variables of `exp_run`, the packets so far, and the output for each frame. -/
structure Probe where
  vars : State
  id : ℕ
  sent : List Packet
  printed : List String

def Probe.init (w : Sweep) : Probe where
  vars := ⟨fun _ => 0, fun _ => 0, UInt16.ofNat w.minPayload⟩
  id := 0
  sent := []
  printed := []

inductive Event
  | send (now : UInt32)
  | frame (stop : UInt32) (v : Vec)

/-- The loops after the body. -/
def Probe.next (w : Sweep) (s : Probe) : Probe :=
  if s.id + 1 < w.runs then { s with id := s.id + 1 }
  else
    { s with
      id := 0
      vars := { s.vars with payloadSize := s.vars.payloadSize + UInt16.ofNat w.payloadStep } }

variable (w : Sweep) (b : Build)

def probeStep (s : Probe) : Event → Option Probe
  | .send now =>
    if s.vars.payloadSize.toNat ≤ w.maxPayload ∧ s.id < w.runs then
      let vars := preparePacket b s.id now s.vars
      let packet := ⟨s.id, vars.payloadSize, vars.payload, now⟩
      some ({ s with vars := vars, sent := s.sent ++ [packet] }.next w)
    else none
  | .frame stop v =>
    some { s with printed := s.printed ++ [(netdev2Send b s.vars.timerWindow stop v).output] }

def probe : TransitionSystem Probe Event := ⟨probeStep w b⟩

/-- The last buffer of the frame ends in a piece of the payload that is longer than the tail. -/
def Completes (v : Vec) (p : Packet) : Prop :=
  ∃ piece, piece <:+ p.payload ∧ piece <:+ v.last.bytes ∧ TAIL_LEN < piece.length

/-- How many packets may be sent from a packet on before one of them gets its slot. -/
def reuse (id : ℕ) : ℕ :=
  if id + TIMER_WINDOW_SIZE < w.runs then TIMER_WINDOW_SIZE
  else w.runs - id + id % TIMER_WINDOW_SIZE

variable {w b} {s t : Probe} {e : Event}

/-- A slot has the time of the last packet that got it. -/
def SlotsRecent (s : Probe) : Prop :=
  ∀ (k : ℕ) (p : Packet), s.sent[k]? = some p →
    (∀ (i : ℕ) (q : Packet), k < i → s.sent[i]? = some q → q.slot ≠ p.slot) →
      s.vars.timerWindow p.slot = p.start

/-- The ids count up to `EXP_RUNS`, again and again. -/
structure Counted (w : Sweep) (s : Probe) : Prop where
  id : w.runs ≠ 0 → s.id = s.sent.length % w.runs
  ids : ∀ k p, s.sent[k]? = some p → p.id = k % w.runs ∧ w.runs ≠ 0
  size : 5 ≤ s.vars.payloadSize.toNat

/-- What a packet is made of. -/
structure Packet.Marked (b : Build) (p : Packet) : Prop where
  le : 5 ≤ p.size.toNat
  payload : p.payload = List.replicate (p.size.toNat - TAIL_LEN) (UInt8.ofNat p.id) ++
    (b.store p.size ++ honeyguide)

structure Sound (w : Sweep) (b : Build) (s : Probe) : Prop where
  slots : SlotsRecent s
  counted : Counted w s
  marked : ∀ p ∈ s.sent, p.Marked b

lemma init_sound : Sound w b (Probe.init w) where
  slots := by
    intro k p hp
    simp [Probe.init] at hp
  counted := by
    refine ⟨fun _ => (Nat.zero_mod _).symm, ?_, ?_⟩
    · intro k p hp
      simp [Probe.init] at hp
    · have := w.min_le
      have := w.minFits
      simp [Probe.init]
      omega
  marked := by
    intro p hp
    simp [Probe.init] at hp

lemma next_sent : (s.next w).sent = s.sent := by
  unfold Probe.next
  split <;> rfl

lemma next_timerWindow : (s.next w).vars.timerWindow = s.vars.timerWindow := by
  unfold Probe.next
  split <;> rfl

lemma next_size (hmin : 5 ≤ s.vars.payloadSize.toNat)
    (hmax : s.vars.payloadSize.toNat ≤ w.maxPayload) : 5 ≤ (s.next w).vars.payloadSize.toNat := by
  unfold Probe.next
  split
  · exact hmin
  · have hfits := w.fits
    rw [UInt16.toNat_add, UInt16.toNat_ofNat']
    omega

lemma next_id {n : ℕ} (hid : s.id = n % w.runs) (hlt : s.id < w.runs) :
    (s.next w).id = (n + 1) % w.runs := by
  have hn := Nat.mod_add_div n w.runs
  rw [← hid] at hn
  unfold Probe.next
  by_cases hnext : s.id + 1 < w.runs
  · rw [if_pos hnext, ← hn, Nat.add_right_comm, Nat.add_mul_mod_self_left,
      Nat.mod_eq_of_lt hnext]
  · have hlast : s.id + 1 = w.runs := by omega
    rw [if_neg hnext, ← hn, Nat.add_right_comm, Nat.add_mul_mod_self_left, hlast, Nat.mod_self]

lemma getElem?_append_singleton {α : Type*} {xs : List α} {x y : α} {k : ℕ}
    (h : (xs ++ [x])[k]? = some y) : xs[k]? = some y ∨ k = xs.length ∧ y = x := by
  by_cases hk : k < xs.length
  · rw [List.getElem?_append_left hk] at h
    exact .inl h
  · rw [List.getElem?_append_right (Nat.not_lt.mp hk), List.getElem?_singleton] at h
    split at h
    · exact .inr ⟨by omega, (Option.some.inj h).symm⟩
    · cases h

/-- The packet that `exp_run` sends now. -/
def Probe.packet (b : Build) (s : Probe) (now : UInt32) : Packet :=
  ⟨s.id, s.vars.payloadSize, (preparePacket b s.id now s.vars).payload, now⟩

lemma probeStep_send {now : UInt32} (hs : probeStep w b s (.send now) = some t) :
    s.vars.payloadSize.toNat ≤ w.maxPayload ∧ s.id < w.runs ∧
      t = { s with
        vars := preparePacket b s.id now s.vars
        sent := s.sent ++ [s.packet b now] }.next w := by
  change (if s.vars.payloadSize.toNat ≤ w.maxPayload ∧ s.id < w.runs then
    some ({ s with
      vars := preparePacket b s.id now s.vars
      sent := s.sent ++ [s.packet b now] }.next w) else none) = some t at hs
  by_cases h : s.vars.payloadSize.toNat ≤ w.maxPayload ∧ s.id < w.runs
  · rw [if_pos h] at hs
    exact ⟨h.1, h.2, (Option.some.inj hs).symm⟩
  · rw [if_neg h] at hs
    cases hs

lemma slots_send (h : SlotsRecent s) (now : UInt32) :
    SlotsRecent { s with
      vars := preparePacket b s.id now s.vars
      sent := s.sent ++ [s.packet b now] } := by
  intro k p hp hlater
  change Function.update s.vars.timerWindow (s.id % TIMER_WINDOW_SIZE) now p.slot = p.start
  obtain hp | ⟨-, rfl⟩ := getElem?_append_singleton hp
  · have hk : k < s.sent.length := (List.getElem?_eq_some_iff.mp hp).1
    have hnew : s.id % TIMER_WINDOW_SIZE ≠ p.slot :=
      hlater s.sent.length (s.packet b now) hk (by simp)
    rw [Function.update_of_ne hnew.symm]
    apply h k p hp
    intro i q hi hq
    apply hlater i q hi
    rw [List.getElem?_append_left (List.getElem?_eq_some_iff.mp hq).1, hq]
  · exact Function.update_self _ _ _

lemma counted_send (h : Counted w s) {now : UInt32} (hlt : s.id < w.runs)
    (hmax : s.vars.payloadSize.toNat ≤ w.maxPayload) :
    Counted w ({ s with
      vars := preparePacket b s.id now s.vars
      sent := s.sent ++ [s.packet b now] }.next w) where
  id := by
    intro hruns
    rw [next_sent, List.length_append, List.length_singleton]
    exact next_id (h.id hruns) hlt
  ids := by
    intro k p hp
    rw [next_sent] at hp
    obtain hp | ⟨rfl, rfl⟩ := getElem?_append_singleton hp
    · exact h.ids k p hp
    · have hruns : w.runs ≠ 0 := by omega
      exact ⟨h.id hruns, hruns⟩
  size := next_size h.size hmax

lemma sound_step (s : Probe) (e : Event) (t : Probe) (h : Sound w b s) (_ : True)
    (hs : probeStep w b s e = some t) : Sound w b t := by
  cases e with
  | send now =>
    obtain ⟨hmax, hlt, rfl⟩ := probeStep_send hs
    refine ⟨?_, counted_send h.counted hlt hmax, ?_⟩
    · have hslots := slots_send (b := b) h.slots now
      unfold SlotsRecent at hslots ⊢
      rw [next_sent, next_timerWindow]
      exact hslots
    · intro p hp
      rw [next_sent] at hp
      cases List.mem_append.mp hp with
      | inl hp => exact h.marked p hp
      | inr hp =>
        rw [List.mem_singleton.mp hp]
        have hsize := h.counted.size
        exact ⟨hsize, payload_preparePacket b s.id now (Nat.le_of_succ_le hsize)⟩
  | frame stop v =>
    obtain rfl := Option.some.inj hs
    exact ⟨h.slots, ⟨h.counted.id, h.counted.ids, h.counted.size⟩, h.marked⟩

/-- The next packet with the slot of a packet is `reuse` packets later. -/
lemma reuse_spec {r : ℕ} (hr : r < w.runs) :
    (r + reuse w r) % w.runs % TIMER_WINDOW_SIZE = r % TIMER_WINDOW_SIZE ∧
      ∀ d, 0 < d → d < reuse w r →
        (r + d) % w.runs % TIMER_WINDOW_SIZE ≠ r % TIMER_WINDOW_SIZE := by
  unfold reuse
  simp only [TIMER_WINDOW_SIZE]
  split
  · rename_i hlt
    refine ⟨?_, fun d hpos hd => ?_⟩
    · rw [Nat.mod_eq_of_lt hlt]
      omega
    · rw [Nat.mod_eq_of_lt (show r + d < w.runs by omega)]
      omega
  · rename_i hge
    have hwrap : ∀ d, r + d - w.runs < w.runs → w.runs ≤ r + d →
        (r + d) % w.runs = r + d - w.runs := by
      intro d hlt hle
      rw [Nat.mod_eq_sub_mod hle, Nat.mod_eq_of_lt hlt]
    refine ⟨?_, fun d hpos hd => ?_⟩
    · rw [hwrap _ (by omega) (by omega)]
      omega
    · by_cases hlast : r + d < w.runs
      · rw [Nat.mod_eq_of_lt hlast]
        omega
      · rw [hwrap d (by omega) (by omega)]
        omega

lemma exists_last {P : ℕ → Prop} [DecidablePred P] {k n : ℕ} (hk : k < n) (h : P k) :
    ∃ j, k ≤ j ∧ j < n ∧ P j ∧ ∀ i, j < i → i < n → ¬ P i := by
  refine ⟨Nat.findGreatest P (n - 1), Nat.le_findGreatest (by omega) h, ?_,
    Nat.findGreatest_spec (by omega) h, ?_⟩
  · have := Nat.findGreatest_le (P := P) (n - 1)
    omega
  · intro i hj hi
    exact Nat.findGreatest_is_greatest hj (by omega)

lemma Counted.slot_eq (h : Counted w s) {k : ℕ} {p : Packet} (hp : s.sent[k]? = some p) :
    p.slot = k % w.runs % TIMER_WINDOW_SIZE := by
  rw [Packet.slot, (h.ids k p hp).1]

lemma Sound.output (h : Sound w b s) {k : ℕ} {p : Packet} (hp : s.sent[k]? = some p) {v : Vec}
    (hv : Completes v p) (stop : UInt32) :
    (netdev2Send b s.vars.timerWindow stop v).output = if b.stacktest then "" else
      line p.size (stop - s.vars.timerWindow p.slot) := by
  obtain ⟨piece, ⟨front, hfront⟩, hends, hlen⟩ := hv
  have hmarked := h.marked p (List.mem_of_getElem? hp)
  have htail : (b.store p.size ++ honeyguide).length = TAIL_LEN := by
    rw [List.length_append, length_store]
    rfl
  have hslot : (UInt8.ofNat p.id).toNat % TIMER_WINDOW_SIZE = p.slot := by
    simp [Packet.slot]
  have hcut := (cut_tail (hfront.trans hmarked.payload) (by rw [htail]; exact hlen)).2
  have hsent := (sent_tail b (f := ⟨s.vars.timerWindow, stop, v⟩) (hcut.trans hends)).2
  rw [hslot] at hsent
  exact hsent

/-- The line for the frame that completes a packet has the size of the packet and the start time of
the last packet that got its slot, which is the packet itself as long as at most `reuse` packets
were sent from it on. -/
theorem traversal_time {es : List Event} (hrun : (probe w b).run (.init w) es = some s) {k : ℕ}
    {p : Packet} (hp : s.sent[k]? = some p) {v : Vec} (hv : Completes v p) (stop : UInt32) :
    ∃ j q, s.sent[j]? = some q ∧ q.slot = p.slot ∧
      (∀ (i : ℕ) (r : Packet), j < i → s.sent[i]? = some r → r.slot ≠ p.slot) ∧
      (probe w b).step s (.frame stop v) = some { s with
        printed := s.printed ++
          [if b.stacktest then "" else line p.size (stop - q.start)] } ∧
      (j = k ↔ s.sent.length ≤ k + reuse w p.id) := by
  have h : Sound w b s := (TransitionSystem.reach_of_run (TransitionSystem.meets_true _ es)
    hrun).invariant init_sound sound_step
  have hk : k < s.sent.length := (List.getElem?_eq_some_iff.mp hp).1
  obtain ⟨hid, hruns⟩ := h.counted.ids k p hp
  obtain ⟨j, hkj, hj, hslot, hlast⟩ := exists_last (P := fun i =>
    i % w.runs % TIMER_WINDOW_SIZE = k % w.runs % TIMER_WINDOW_SIZE) hk rfl
  have hq : s.sent[j]? = some s.sent[j] := List.getElem?_eq_getElem hj
  have hqp : s.sent[j].slot = p.slot := by
    rw [h.counted.slot_eq hq, h.counted.slot_eq hp]
    exact hslot
  have hlater : ∀ (i : ℕ) (r : Packet), j < i → s.sent[i]? = some r → r.slot ≠ p.slot := by
    intro i r hi hr
    rw [h.counted.slot_eq hr, h.counted.slot_eq hp]
    exact hlast i hi (List.getElem?_eq_some_iff.mp hr).1
  refine ⟨j, s.sent[j], hq, hqp, hlater, ?_, ?_⟩
  · have hstart := h.slots j s.sent[j] hq (by rw [hqp]; exact hlater)
    rw [← hstart, hqp, ← h.output hp hv stop]
    rfl
  · obtain ⟨hagain, hbefore⟩ := reuse_spec (w := w) (Nat.mod_lt k (Nat.pos_of_ne_zero hruns))
    rw [hid]
    constructor
    · rintro rfl
      have hpos : 0 < reuse w (j % w.runs) := by
        have := Nat.mod_lt j (Nat.pos_of_ne_zero hruns)
        unfold reuse
        simp only [TIMER_WINDOW_SIZE]
        split <;> omega
      by_contra hlt
      rw [Nat.mod_add_mod] at hagain
      exact hlast (j + reuse w (j % w.runs)) (by omega) (by omega) hagain
    · intro hle
      by_contra hne
      apply hbefore (j - k) (by omega) (by omega)
      rw [Nat.mod_add_mod, Nat.add_sub_cancel' hkj]
      exact hslot

/-- A frame with nothing but the first payload. -/
def firstFrame : Vec :=
  ⟨[], fun i => ([0, 0, 0, 0, 8, 0, 0x2d, 0x4e] : List UInt8).getD i.toNat 0, 8⟩

theorem traversal_time_firstFrame : ∃ s p j q,
    (probe .default ⟨false, false⟩).run (.init .default) [.send 100, .send 120] = some s ∧
      s.sent[0]? = some p ∧ s.sent[j]? = some q ∧
      (j = 0 ↔ s.sent.length ≤ 0 + reuse .default p.id) := by
  obtain ⟨s, hrun⟩ : ∃ s, (probe .default ⟨false, false⟩).run (.init .default)
      [.send 100, .send 120] = some s := ⟨_, rfl⟩
  obtain ⟨p, hp, hpayload⟩ : ∃ p, s.sent[0]? = some p ∧ p.payload = firstFrame.last.bytes := by
    obtain rfl := Option.some.inj hrun
    exact ⟨_, rfl, by decide⟩
  have hv : Completes firstFrame p :=
    ⟨p.payload, List.suffix_rfl, hpayload ▸ List.suffix_rfl, by rw [hpayload]; decide⟩
  obtain ⟨j, q, hq, -, -, -, hj⟩ := traversal_time hrun hp hv 130
  exact ⟨s, p, j, q, hrun, hp, hq, hj⟩

/-- With the default of 1000 runs the last eight ids are used again after eight packets. -/
example : (List.range 1000).filter (fun id => reuse .default id ≠ 24 && reuse .default id ≠ 16) =
    [992, 993, 994, 995, 996, 997, 998, 999] := by decide +kernel

end TxExp

end RiotPlayground
