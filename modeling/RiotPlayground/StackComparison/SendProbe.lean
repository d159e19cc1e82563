import RiotPlayground.Lib.Buffer
import Mathlib.Algebra.Ring.Nat
import Mathlib.Data.List.Infix

/-!
# The send probe: `time_tx/gnrc/exp.c`

`exp_run` marks the end of each payload, and `_netdev2_send` recognizes by that mark the frame that
completes a packet. The result is counted twice for such a frame.
-/

namespace RiotPlayground

open Buffer

namespace TxExp

@[simp] abbrev TIMER_WINDOW_SIZE : ℕ := 16

def honeyguide : List UInt8 := [0x2d, 0x4e]

@[simp] abbrev HONEYGUIDE_LEN : ℕ := 2

/-- The size of the payload stands in front of the honeyguide. -/
@[simp] abbrev TAIL_LEN : ℕ := HONEYGUIDE_LEN + 2

/-- What is fixed when the experiment is compiled. -/
structure Build where
  bigEndian : Bool
  stacktest : Bool

/-- A `uint16_t` in memory. -/
def Build.store (b : Build) (n : UInt16) : List UInt8 :=
  if b.bigEndian then [(n >>> 8).toUInt8, n.toUInt8] else [n.toUInt8, (n >>> 8).toUInt8]

def Build.load (b : Build) (x y : UInt8) : UInt16 :=
  if b.bigEndian then x.toUInt16 <<< 8 ||| y.toUInt16 else y.toUInt16 <<< 8 ||| x.toUInt16

/-- Memory is read from `iov_base` on, at any distance. -/
structure Iovec where
  base : ℤ → UInt8
  len : ℕ

/-- At least one buffer, in the order sent. -/
structure Vec where
  front : List Iovec
  last : Iovec

def Vec.buffers (v : Vec) : List Iovec := v.front ++ [v.last]

def Vec.total (v : Vec) : ℕ := (v.buffers.map Iovec.len).sum

/-- A call of `_netdev2_send`: its result, the indices it reads of the last buffer, and its
output. -/
structure Sent where
  res : Int32
  reads : List ℤ
  output : String

/-- Both loops over the vector. -/
def accumulate (res : Int32) (iovs : List Iovec) : Int32 :=
  iovs.foldl (fun res iov => res + Int32.ofNat iov.len) res

def line (payloadLen : UInt16) (time : UInt32) : String :=
  toString payloadLen.toNat ++ "," ++ toString time.toNat ++ "\n"

variable (b : Build)

/-- Where `_hg` points to. -/
def Vec.hg (v : Vec) : List ℤ := [v.last.len - HONEYGUIDE_LEN, v.last.len - HONEYGUIDE_LEN + 1]

/-- Where the length and the id are read. -/
def Vec.tail (v : Vec) : List ℤ :=
  [v.last.len - TAIL_LEN, v.last.len - TAIL_LEN + 1, v.last.len - TAIL_LEN - 1]

/-- The frame gets past both filters. -/
def Vec.Passes (v : Vec) : Prop := TAIL_LEN ≤ v.last.len ∧ v.hg.map v.last.base = honeyguide

instance (v : Vec) : Decidable v.Passes := inferInstanceAs (Decidable (_ ∧ _))

def netdev2Send (timerWindow : ℕ → UInt32) (stop : UInt32) (v : Vec) : Sent :=
  let payload := v.last.base
  let payloadLen : ℤ := v.last.len
  let res := accumulate 0 v.buffers
  if v.last.len < TAIL_LEN then ⟨res, [], ""⟩
  else if v.hg.map payload ≠ honeyguide then ⟨res, v.hg, ""⟩
  else
    let expPayloadLen := b.load (payload (payloadLen - TAIL_LEN))
      (payload (payloadLen - TAIL_LEN + 1))
    let id := payload (payloadLen - TAIL_LEN - 1)
    let res := accumulate res v.buffers
    let start := timerWindow (id.toNat % TIMER_WINDOW_SIZE)
    ⟨res, v.hg ++ v.tail, if b.stacktest then "" else line expPayloadLen (stop - start)⟩

/-- The static variables. -/
structure State where
  payloadBuffer : ℕ → UInt8
  timerWindow : ℕ → UInt32
  payloadSize : UInt16

def State.payload (s : State) : List UInt8 := slice s.payloadBuffer 0 s.payloadSize.toNat

/-- The loop over `j`. -/
def fill (x : UInt8) (buf : ℕ → UInt8) : ℕ → ℕ → UInt8
  | 0 => buf
  | n + 1 => Function.update (fill x buf n) n x

/-- The body of the inner loop of `exp_run`, up to `conn_udp_sendto`. -/
def preparePacket (id : ℕ) (now : UInt32) (s : State) : State :=
  let size := s.payloadSize.toNat
  let buf := fill (UInt8.ofNat (id &&& 0xff)) s.payloadBuffer (size - TAIL_LEN)
  let buf := poke buf (size - TAIL_LEN) (b.store s.payloadSize)
  let buf := poke buf (size - HONEYGUIDE_LEN) honeyguide
  { s with
    payloadBuffer := buf
    timerWindow := Function.update s.timerWindow (id % TIMER_WINDOW_SIZE) now }

lemma accumulate_eq (res : Int32) (iovs : List Iovec) :
    accumulate res iovs = res + Int32.ofNat (iovs.map Iovec.len).sum := by
  induction iovs generalizing res with
  | nil => simp [accumulate]
  | cons iov iovs ih =>
    have hstep : accumulate res (iov :: iovs) = accumulate (res + Int32.ofNat iov.len) iovs := rfl
    rw [hstep, ih, List.map_cons, List.sum_cons, Int32.ofNat_add, Int32.add_assoc]

section Send

variable (timerWindow : ℕ → UInt32) (stop : UInt32) {v : Vec}

lemma accumulate_buffers : accumulate 0 v.buffers = Int32.ofNat v.total := by
  rw [accumulate_eq, Int32.zero_add, Vec.total]

lemma netdev2Send_of_passes (h : v.Passes) : netdev2Send b timerWindow stop v =
    { res := Int32.ofNat (v.total + v.total)
      reads := v.hg ++ v.tail
      output :=
        if b.stacktest then ""
        else line
          (b.load (v.last.base (v.last.len - TAIL_LEN)) (v.last.base (v.last.len - TAIL_LEN + 1)))
          (stop - timerWindow
            ((v.last.base (v.last.len - TAIL_LEN - 1)).toNat % TIMER_WINDOW_SIZE)) } := by
  unfold netdev2Send
  rw [if_neg (Nat.not_lt.mpr h.1), if_neg (not_not.mpr h.2), accumulate_eq, accumulate_buffers,
    ← Vec.total, ← Int32.ofNat_add]

lemma netdev2Send_of_not_passes (h : ¬ v.Passes) : netdev2Send b timerWindow stop v =
    ⟨Int32.ofNat v.total, if v.last.len < TAIL_LEN then [] else v.hg, ""⟩ := by
  unfold netdev2Send
  simp only [accumulate_buffers]
  split
  · rfl
  · rename_i hlen
    have hhg : v.hg.map v.last.base ≠ honeyguide := fun hhg => h ⟨Nat.not_lt.mp hlen, hhg⟩
    rw [if_pos hhg]

lemma toInt_ofNat_eq_iff (n m : ℕ) : (Int32.ofNat n).toInt = m ↔
    m < 2 ^ 31 ∧ (n - m : ℤ) % 4294967296 = 0 := by
  rw [Int32.toInt_ofNat', Int.bmod_def]
  have hsize : Int32.size = 4294967296 := rfl
  simp only [hsize]
  split <;> omega

lemma le_total : v.last.len ≤ v.total := by
  simp only [Vec.total, Vec.buffers, List.map_append, List.sum_append, List.map_cons,
    List.map_nil, List.sum_cons, List.sum_nil]
  omega

lemma res_of_passes (h : v.Passes) : (netdev2Send b timerWindow stop v).res.toInt ≠ v.total := by
  have hpos : 4 ≤ v.last.len := h.1
  have hle := le_total (v := v)
  rw [netdev2Send_of_passes b timerWindow stop h, ne_eq, toInt_ofNat_eq_iff]
  omega

lemma res_of_not_passes (h : ¬ v.Passes) :
    (netdev2Send b timerWindow stop v).res.toInt = v.total ↔ v.total < 2 ^ 31 := by
  rw [netdev2Send_of_not_passes b timerWindow stop h, toInt_ofNat_eq_iff]
  omega

/-- The reads of a frame that passes reach in front of a buffer of `TAIL_LEN` bytes. -/
theorem reads_inBounds_iff : (∀ i ∈ (netdev2Send b timerWindow stop v).reads,
    0 ≤ i ∧ i < v.last.len) ↔ ¬ (v.Passes ∧ v.last.len = TAIL_LEN) := by
  by_cases h : v.Passes
  · have hlen : 4 ≤ v.last.len := h.1
    rw [netdev2Send_of_passes b timerWindow stop h]
    simp [Vec.hg, Vec.tail, h]
    omega
  · rw [netdev2Send_of_not_passes b timerWindow stop h]
    simp only [h, false_and, not_false_iff, iff_true]
    intro i hi
    split at hi
    · simp at hi
    · rename_i hlen
      have hlen : 4 ≤ v.last.len := Nat.not_lt.mp hlen
      simp [Vec.hg] at hi
      omega

theorem netdev2Send_transparent_iff : ((netdev2Send b timerWindow stop v).res.toInt = v.total ∧
    ∀ i ∈ (netdev2Send b timerWindow stop v).reads, 0 ≤ i ∧ i < v.last.len) ↔
      ¬ v.Passes ∧ v.total < 2 ^ 31 := by
  rw [reads_inBounds_iff]
  by_cases h : v.Passes
  · simp [h, res_of_passes b timerWindow stop h]
  · simp [h, res_of_not_passes b timerWindow stop h]

/-- A buffer of `TAIL_LEN` bytes that ends in the honeyguide. -/
def tailOnly : Vec := ⟨[], fun i => if i = 2 then 0x2d else if i = 3 then 0x4e else 0, 4⟩

theorem tailOnly_not_transparent : (netdev2Send ⟨false, false⟩ (fun _ => 0) 0 tailOnly).res = 8 ∧
    tailOnly.total = 4 ∧
    ¬ ∀ i ∈ (netdev2Send ⟨false, false⟩ (fun _ => 0) 0 tailOnly).reads, 0 ≤ i := by
  decide +kernel

end Send

/-! ### The frames of a packet -/

def Iovec.bytes (v : Iovec) : List UInt8 := (List.range v.len).map fun (i : ℕ) => v.base i

/-- A frame, with the slots and the time at which it is sent. -/
structure Frame where
  timerWindow : ℕ → UInt32
  stop : UInt32
  vec : Vec

def Frame.sent (f : Frame) : Sent := netdev2Send b f.timerWindow f.stop f.vec

/-- A piece of the payload and the frame it is sent in. -/
structure Part where
  piece : List UInt8
  frame : Frame

/-- A stack cuts the payload into pieces of at least two bytes, with the whole tail and one more
byte in the last. Each piece is at the end of its frame's last buffer. -/
structure Cut (payload : List UInt8) (parts : List Part) : Prop where
  pieces : (parts.map Part.piece).flatten = payload
  ends : ∀ part ∈ parts, part.piece <:+ part.frame.vec.last.bytes
  two_le : ∀ part ∈ parts, 2 ≤ part.piece.length
  tail_lt : ∀ part ∈ parts.getLast?, TAIL_LEN < part.piece.length

lemma slice_fill (x : UInt8) (buf : ℕ → UInt8) (n : ℕ) :
    slice (fill x buf n) 0 n = List.replicate n x := by
  induction n with
  | zero => rfl
  | succ n ih =>
    have hone : [x].length = 1 := rfl
    rw [fill, update_eq_poke, List.replicate_succ', ← ih, ← slice_poke_append, hone]

lemma length_store (n : UInt16) : (b.store n).length = 2 := by
  unfold Build.store
  split <;> rfl

lemma and_ff (id : ℕ) : UInt8.ofNat (id &&& 0xff) = UInt8.ofNat id := by
  have hand : id &&& 255 = id % 256 := Nat.and_two_pow_sub_one_eq_mod id 8
  apply UInt8.toNat_inj.mp
  simp [hand]

lemma payload_preparePacket (id : ℕ) (now : UInt32) {s : State}
    (h : TAIL_LEN ≤ s.payloadSize.toNat) : (preparePacket b id now s).payload =
      List.replicate (s.payloadSize.toNat - TAIL_LEN) (UInt8.ofNat id) ++
        (b.store s.payloadSize ++ honeyguide) := by
  obtain ⟨n, hn⟩ := Nat.exists_eq_add_of_le' h
  have hfill : n + TAIL_LEN - TAIL_LEN = n := Nat.add_sub_cancel n TAIL_LEN
  have hhg : n + TAIL_LEN - HONEYGUIDE_LEN = n + (b.store s.payloadSize).length := by
    rw [length_store]
    rfl
  have hlen : n + TAIL_LEN = n + (b.store s.payloadSize ++ honeyguide).length := by
    rw [List.length_append, length_store]
    rfl
  simp only [State.payload, preparePacket, hn, and_ff]
  rw [hfill, hhg, poke_append, hlen, slice_poke_append, slice_fill]

/-- The byte in front of the last `r.length`. -/
lemma base_of_bytes {v : Iovec} {l r : List UInt8} {y : UInt8} {k : ℤ}
    (h : v.bytes = l ++ y :: r) (hk : k = v.len - (r.length + 1)) : v.base k = y := by
  have hlen : v.len = l.length + r.length + 1 := by
    have := congrArg List.length h
    simp [Iovec.bytes] at this
    omega
  have hlt : l.length < v.len := by omega
  have hget := congrArg (·[l.length]?) h
  simp only [Iovec.bytes, List.getElem?_map, List.getElem?_range hlt, Option.map_some,
    List.getElem?_append_right (Nat.le_refl _), Nat.sub_self, List.getElem?_cons_zero] at hget
  have hpos : k = l.length := by omega
  rw [hpos]
  exact Option.some.inj hget

/-- Where the last two bytes of a buffer are, as `_hg` sees them. -/
lemma hg_of_bytes {v : Vec} {l : List UInt8} {x y : UInt8} (h : v.last.bytes = l ++ [x, y]) :
    v.hg.map v.last.base = [x, y] := by
  have hx := base_of_bytes (k := v.last.len - HONEYGUIDE_LEN) h (by simp)
  have hy := base_of_bytes (k := v.last.len - HONEYGUIDE_LEN + 1) (r := [])
    (h.trans (List.append_cons l x [y])) (by simp; omega)
  rw [Vec.hg, List.map_cons, List.map_cons, List.map_nil, hx, hy]

/-- An earlier piece is made of one byte only, and the honeyguide of two. -/
lemma not_passes_of_fill {v : Vec} {piece : List UInt8} {x : UInt8} (hall : ∀ y ∈ piece, y = x)
    (hends : piece <:+ v.last.bytes) (hlen : 2 ≤ piece.length) : ¬ v.Passes := by
  rintro ⟨-, hhg⟩
  obtain ⟨front, hfront⟩ := hends
  obtain ⟨n, hn⟩ := Nat.exists_eq_add_of_le' hlen
  have hpiece : piece = List.replicate n x ++ [x, x] := by
    rw [List.eq_replicate_iff.mpr ⟨hn, hall⟩, List.replicate_add]
    rfl
  rw [hpiece, ← List.append_assoc] at hfront
  rw [hg_of_bytes hfront.symm, honeyguide] at hhg
  have hx := (List.cons.inj hhg).1
  have hy := (List.cons.inj (List.cons.inj hhg).2).1
  rw [hx] at hy
  exact absurd hy (by decide)

lemma join_bytes (n : UInt16) :
    (n >>> 8).toUInt8.toUInt16 <<< 8 ||| n.toUInt8.toUInt16 = n := by
  apply UInt16.toNat_inj.mp
  have hlt := n.toNat_lt
  have hhi : n.toNat / 256 % 256 = n.toNat / 256 := by omega
  have hshift : (n.toNat / 256) <<< 8 % 65536 = (n.toNat / 256) <<< 8 := by
    rw [Nat.shiftLeft_eq]
    omega
  have hor : (n.toNat / 256) <<< 8 ||| n.toNat % 256 = n.toNat := by
    have hlo : n.toNat % 256 < 2 ^ 8 := Nat.mod_lt _ (by decide)
    rw [← Nat.shiftLeft_add_eq_or_of_lt hlo, Nat.shiftLeft_eq]
    omega
  simp [Nat.shiftRight_eq_div_pow, hhi, hshift, hor]

lemma load_store (n : UInt16) : ∃ x y, b.store n = [x, y] ∧ b.load x y = n := by
  unfold Build.store Build.load
  cases b.bigEndian with
  | true => exact ⟨_, _, rfl, join_bytes n⟩
  | false => exact ⟨_, _, rfl, join_bytes n⟩

/-- The frame of the last piece. -/
lemma sent_tail {f : Frame} {x : UInt8} {size : UInt16}
    (hends : x :: (b.store size ++ honeyguide) <:+ f.vec.last.bytes) : f.vec.Passes ∧
      (f.sent b).output = if b.stacktest then "" else
        line size (f.stop - f.timerWindow (x.toNat % TIMER_WINDOW_SIZE)) := by
  obtain ⟨front, hfront⟩ := hends
  obtain ⟨y, z, hstore, hload⟩ := load_store b size
  rw [hstore] at hfront
  have hbytes : f.vec.last.bytes = front ++ [x, y, z, 0x2d, 0x4e] := hfront.symm
  have hlen : f.vec.last.len = front.length + 5 := by
    have := congrArg List.length hbytes
    simpa [Iovec.bytes] using this
  have hid := base_of_bytes (k := f.vec.last.len - TAIL_LEN - 1) hbytes (by simp; omega)
  have hy := base_of_bytes (l := front ++ [x]) (y := y) (r := [z, 0x2d, 0x4e])
    (k := f.vec.last.len - TAIL_LEN) (by simpa using hbytes) (by simp)
  have hz := base_of_bytes (l := front ++ [x, y]) (y := z) (r := [0x2d, 0x4e])
    (k := f.vec.last.len - TAIL_LEN + 1) (by simpa using hbytes) (by simp; omega)
  have hpasses : f.vec.Passes := by
    refine ⟨by simp [hlen], ?_⟩
    apply hg_of_bytes (l := front ++ [x, y, z])
    simpa using hbytes
  refine ⟨hpasses, ?_⟩
  rw [Frame.sent, netdev2Send_of_passes b f.timerWindow f.stop hpasses, hid, hy, hz, hload]

/-- What is left of a payload once the last piece is taken off. -/
lemma cut_tail {front last tail : List UInt8} {x : UInt8} {n : ℕ}
    (h : front ++ last = List.replicate n x ++ tail) (hlen : tail.length < last.length) :
    (∀ y ∈ front, y = x) ∧ x :: tail <:+ last := by
  rcases List.append_eq_append_iff.mp h with ⟨mid, hfill, hlast⟩ | ⟨mid, -, htail⟩
  · obtain ⟨-, hfront, hmid⟩ := List.append_eq_replicate_iff.mp hfill.symm
    constructor
    · intro y hy
      rw [hfront] at hy
      exact List.eq_of_mem_replicate hy
    · have hpos : mid.length ≠ 0 := by
        rw [hlast, List.length_append] at hlen
        omega
      obtain ⟨k, hk⟩ := Nat.exists_eq_succ_of_ne_zero hpos
      rw [hk, List.replicate_succ'] at hmid
      exact ⟨List.replicate k x, by rw [hlast, hmid, List.append_assoc, List.singleton_append]⟩
  · rw [htail, List.length_append] at hlen
    omega

/-- Only the frame with the last piece passes, and it is attributed to the slot of its packet. -/
theorem one_frame_passes (id : ℕ) (now : UInt32) {s : State} {parts : List Part}
    (hsize : 5 ≤ s.payloadSize.toNat)
    (hcut : Cut (preparePacket b id now s).payload parts) :
    (preparePacket b id now s).timerWindow (id % TIMER_WINDOW_SIZE) = now ∧
    ∃ earlier last, parts = earlier ++ [last] ∧
      (∀ part ∈ earlier, ¬ part.frame.vec.Passes ∧ (part.frame.sent b).output = "") ∧
      last.frame.vec.Passes ∧ (last.frame.sent b).output = if b.stacktest then "" else
        line s.payloadSize
          (last.frame.stop - last.frame.timerWindow (id % TIMER_WINDOW_SIZE)) := by
  have htail : (b.store s.payloadSize ++ honeyguide).length = TAIL_LEN := by
    rw [List.length_append, length_store]
    rfl
  have hpayload := hcut.pieces
  rw [payload_preparePacket b id now (by simp; omega)] at hpayload
  have hslot : (UInt8.ofNat id).toNat % TIMER_WINDOW_SIZE = id % TIMER_WINDOW_SIZE := by
    simp
  refine ⟨Function.update_self .., ?_⟩
  rcases List.eq_nil_or_concat parts with rfl | ⟨earlier, last, rfl⟩
  · have hlen := congrArg List.length hpayload
    simp [htail] at hlen
  · rw [List.concat_eq_append] at hcut hpayload
    rw [List.map_append, List.flatten_append, List.map_singleton,
      List.flatten_singleton] at hpayload
    have hlast := hcut.tail_lt last (by simp)
    obtain ⟨hfill, htl⟩ := cut_tail hpayload (by rw [htail]; exact hlast)
    obtain ⟨hpasses, hsent⟩ := sent_tail b (htl.trans (hcut.ends last (by simp)))
    rw [hslot] at hsent
    refine ⟨earlier, last, List.concat_eq_append, ?_, hpasses, hsent⟩
    intro part hpart
    have hmem : part ∈ earlier ++ [last] := List.mem_append_left _ hpart
    have hall : ∀ y ∈ part.piece, y = UInt8.ofNat id := by
      intro y hy
      exact hfill y (List.mem_flatten.mpr ⟨_, List.mem_map_of_mem hpart, hy⟩)
    have hnot := not_passes_of_fill hall (hcut.ends part hmem) (hcut.two_le part hmem)
    refine ⟨hnot, ?_⟩
    rw [Frame.sent, netdev2Send_of_not_passes b _ _ hnot]

/-- Seven bytes of payload in two frames, each with a header byte in front. -/
def twoFrames : List Part :=
  [[44, 44], [44, 7, 0, 0x2d, 0x4e]].map fun piece =>
    ⟨piece, fun _ => 100, 130, [], fun i => (0x60 :: piece).getD i.toNat 0, piece.length + 1⟩

theorem one_frame_passes_twoFrames :
    ∃ earlier last, twoFrames = earlier ++ [last] ∧
      (∀ part ∈ earlier, ¬ part.frame.vec.Passes ∧ (part.frame.sent ⟨false, false⟩).output = "") ∧
      last.frame.vec.Passes ∧ (last.frame.sent ⟨false, false⟩).output =
        line 7 (last.frame.stop - last.frame.timerWindow 12) := by
  have hcut : Cut (preparePacket ⟨false, false⟩ 300 100 ⟨fun _ => 0, fun _ => 0, 7⟩).payload
      twoFrames :=
    { pieces := by decide
      ends := by decide
      two_le := by decide
      tail_lt := by decide }
  exact (one_frame_passes ⟨false, false⟩ 300 100 (by decide) hcut).2

end TxExp

end RiotPlayground
