import RiotPlayground.Lib.BitField

/-!
# The two layouts of a NIB entry

One program keeps the small fields of an entry in `flags` and takes them apart with macros, the
other one declares them as bit-fields. Only these fields are modelled, the addresses are the same in
both programs. A value is an `unsigned long`, which has at least 32 bits.
-/

namespace RiotPlayground

namespace BitfieldTest

inductive NibField
  | pfxLen
  | l2addrLen
  | nudState
  | isRouter
  | iface
  | arState
  | useForComp
  | cid
  deriving DecidableEq

variable {k : ℕ}

namespace Flags

/-- `GNRC_IPV6_NIB_FLAGS_PFX_LEN_MASK`, which comes without a position. -/
def pfxLen : BitField 32 where
  mask := 0x000000ff
  pos := 0
  width := 8
  getLsbD_mask := by decide
  fits := by decide

def l2addrLen : BitField 32 where
  mask := 0x00000f00
  pos := 8
  width := 4
  getLsbD_mask := by decide
  fits := by decide

def nudState : BitField 32 where
  mask := 0x00007000
  pos := 12
  width := 3
  getLsbD_mask := by decide
  fits := by decide

def isRouter : BitField 32 where
  mask := 0x00008000
  pos := 15
  width := 1
  getLsbD_mask := by decide
  fits := by decide

def iface : BitField 32 where
  mask := 0x001f0000
  pos := 16
  width := 5
  getLsbD_mask := by decide
  fits := by decide

def arState : BitField 32 where
  mask := 0x00600000
  pos := 21
  width := 2
  getLsbD_mask := by decide
  fits := by decide

def useForComp : BitField 32 where
  mask := 0x00800000
  pos := 23
  width := 1
  getLsbD_mask := by decide
  fits := by decide

def cid : BitField 32 where
  mask := 0x0f000000
  pos := 24
  width := 4
  getLsbD_mask := by decide
  fits := by decide

def field : NibField → BitField 32
  | .pfxLen => pfxLen
  | .l2addrLen => l2addrLen
  | .nudState => nudState
  | .isRouter => isRouter
  | .iface => iface
  | .arState => arState
  | .useForComp => useForComp
  | .cid => cid

/-- `flags &= ~MASK; flags |= (v << POS) & MASK` -/
def write (flags : BitVec 32) (i : NibField) (v : BitVec (32 + k)) : BitVec 32 :=
  (field i).write flags v

/-- `(flags & MASK) >> POS`, or `(bool)(flags & FLAG)`. -/
def read (flags : BitVec 32) : NibField → ℕ
  | .pfxLen => (pfxLen.read flags).toNat
  | .l2addrLen => (l2addrLen.read flags).toNat
  | .nudState => (nudState.read flags).toNat
  | .isRouter => (isRouter.readFlag flags).toNat
  | .iface => (iface.read flags).toNat
  | .arState => (arState.read flags).toNat
  | .useForComp => (useForComp.readFlag flags).toNat
  | .cid => (cid.read flags).toNat

end Flags

structure Nib where
  pfxLen : BitVec 8
  l2addrLen : BitVec 4
  nudState : BitVec 3
  isRouter : Bool
  iface : BitVec 5
  arState : BitVec 2
  useForComp : Bool
  cid : BitVec 4

namespace Nib

def zero : Nib := ⟨0, 0, 0, false, 0, 0, false, 0⟩

/-- An assignment converts the value: to `bool`, or to the width of an unsigned bit-field. -/
def write (nib : Nib) (i : NibField) (v : BitVec (32 + k)) : Nib :=
  match i with
  | .pfxLen => { nib with pfxLen := v.setWidth 8 }
  | .l2addrLen => { nib with l2addrLen := v.setWidth 4 }
  | .nudState => { nib with nudState := v.setWidth 3 }
  | .isRouter => { nib with isRouter := v ≠ 0 }
  | .iface => { nib with iface := v.setWidth 5 }
  | .arState => { nib with arState := v.setWidth 2 }
  | .useForComp => { nib with useForComp := v ≠ 0 }
  | .cid => { nib with cid := v.setWidth 4 }

def read (nib : Nib) : NibField → ℕ
  | .pfxLen => nib.pfxLen.toNat
  | .l2addrLen => nib.l2addrLen.toNat
  | .nudState => nib.nudState.toNat
  | .isRouter => nib.isRouter.toNat
  | .iface => nib.iface.toNat
  | .arState => nib.arState.toNat
  | .useForComp => nib.useForComp.toNat
  | .cid => nib.cid.toNat

end Nib

def NibField.isBool : NibField → Bool
  | .isRouter | .useForComp => true
  | _ => false

/-- The macros keep the lowest bits of a value. -/
def Flags.stored (i : NibField) (v : BitVec (32 + k)) : ℕ :=
  v.toNat % 2 ^ (Flags.field i).width

/-- So does an unsigned bit-field, while a `bool` is whether the value is not zero. -/
def Nib.stored (i : NibField) (v : BitVec (32 + k)) : ℕ :=
  if i.isBool then (decide (v ≠ 0)).toNat else v.toNat % 2 ^ (Flags.field i).width

variable {flags : BitVec 32} {i j : NibField}

lemma masks_disjoint (i j : NibField) :
    i ≠ j → (Flags.field i).mask &&& (Flags.field j).mask = 0#32 := by
  cases i <;> cases j <;> decide

lemma width_of_isBool (h : i.isBool = true) : (Flags.field i).width = 1 := by
  cases i with
  | isRouter | useForComp => rfl
  | _ => cases h

/-- A single bit that is read as a `bool` is read as it is. -/
lemma toNat_readFlag {f : BitField 32} (hf : f.width = 1) {n : ℕ}
    (h : (f.read flags).toNat = n % 2 ^ f.width) :
    (f.readFlag flags).toNat = n % 2 ^ f.width := by
  rw [BitField.readFlag_eq, h, hf]
  obtain hbit | hbit := Nat.mod_two_eq_zero_or_one n
  · rw [pow_one, hbit]
    rfl
  · rw [pow_one, hbit]
    rfl

lemma Flags.read_write (v : BitVec (32 + k)) :
    Flags.read (Flags.write flags i v) i = Flags.stored i v := by
  have hread : ∀ f : BitField 32, (f.read (f.write flags v)).toNat = v.toNat % 2 ^ f.width :=
    fun f => f.toNat_read_write v
  cases i with
  | isRouter => exact toNat_readFlag rfl (hread isRouter)
  | useForComp => exact toNat_readFlag rfl (hread useForComp)
  | _ => exact hread _

lemma Flags.read_congr {flags' : BitVec 32}
    (h : flags &&& (Flags.field j).mask = flags' &&& (Flags.field j).mask) :
    Flags.read flags j = Flags.read flags' j := by
  have hread : (Flags.field j).read flags = (Flags.field j).read flags' := BitField.read_congr h
  cases j with
  | isRouter | useForComp =>
    unfold Flags.read
    dsimp only
    rw [BitField.readFlag_eq, BitField.readFlag_eq]
    exact congrArg (fun word => (decide (word.toNat ≠ 0)).toNat) hread
  | _ => exact congrArg BitVec.toNat hread

theorem Flags.implements : Implements Flags.read (Flags.write (k := k)) Flags.stored := by
  intro flags i v
  funext j
  by_cases hij : i = j
  · subst hij
    rw [Function.update_self]
    exact Flags.read_write v
  · rw [Function.update_of_ne (Ne.symm hij)]
    exact Flags.read_congr (BitField.write_and_mask (masks_disjoint i j hij) v)

theorem Nib.implements : Implements Nib.read (Nib.write (k := k)) Nib.stored := by
  intro nib i v
  funext j
  by_cases hij : i = j
  · subst hij
    rw [Function.update_self]
    cases i with
    | isRouter | useForComp => rfl
    | _ => exact BitVec.toNat_setWidth _ v
  · rw [Function.update_of_ne (Ne.symm hij)]
    cases i <;> cases j <;> first | rfl | exact absurd rfl hij

/-- A value that is neither zero nor odd is lost for a single bit, but `true` for a `bool`. -/
lemma stored_eq_iff (i : NibField) (v : BitVec (32 + k)) : Flags.stored i v = Nib.stored i v ↔
    (i.isBool = true → v = 0 ∨ v.toNat % 2 = 1) := by
  unfold Flags.stored Nib.stored
  by_cases hbool : i.isBool = true
  · rw [if_pos hbool, width_of_isBool hbool, pow_one]
    by_cases hv : v = 0
    · rw [hv]
      simp
    · have htrue : (decide (v ≠ 0)).toNat = 1 := by
        rw [decide_eq_true hv]
        rfl
      rw [htrue]
      exact ⟨fun h _ => .inr h, fun h => (h hbool).resolve_left hv⟩
  · rw [if_neg hbool]
    simp [hbool]

/-- The macros read the same as the bit-fields, but for a `bool` exactly if the last value that was
written to it is zero or odd. A write to one field disturbs no other one. -/
theorem flags_read_eq_nib_read_iff (vs : List (NibField × BitVec (32 + k))) :
    (∀ i, Flags.read (writes Flags.write 0 vs) i = Nib.read (writes Nib.write .zero vs) i ↔
      (i.isBool = true → ∀ v ∈ lastWritten vs i, v = 0 ∨ v.toNat % 2 = 1)) ∧
      (∀ (flags : BitVec 32) (i j : NibField) (v : BitVec (32 + k)), i ≠ j →
        Flags.read (Flags.write flags i v) j = Flags.read flags j) ∧
      ∀ (nib : Nib) (i j : NibField) (v : BitVec (32 + k)), i ≠ j →
        Nib.read (Nib.write nib i v) j = Nib.read nib j := by
  refine ⟨fun i => ?_, fun flags i j v hij => Flags.implements.read_of_ne hij flags v,
    fun nib i j v hij => Nib.implements.read_of_ne hij nib v⟩
  rw [Flags.implements.read_writes, Nib.implements.read_writes]
  cases hlast : lastWritten vs i with
  | none =>
    have hzero : Flags.read 0 i = Nib.read .zero i := by cases i <;> rfl
    exact iff_of_true hzero fun _ => nofun
  | some v =>
    have hv : (∀ v' ∈ some v, v' = 0 ∨ v'.toNat % 2 = 1) ↔ (v = 0 ∨ v.toNat % 2 = 1) := by simp
    rw [hv]
    exact stored_eq_iff i v

/-- With 2 the masked value of `is_router` is 0, and the `bool` is true. -/
theorem isRouter_two_differs : ¬ ∀ (k : ℕ) (vs : List (NibField × BitVec (32 + k))),
    Flags.read (writes Flags.write 0 vs) = Nib.read (writes Nib.write .zero vs) := by
  intro h
  have hrouter := congrFun (h 0 [(.isRouter, 2)]) .isRouter
  exact absurd hrouter (by decide)

/-- What the programs write, and print. -/
example :
    [.pfxLen, .l2addrLen, .nudState, .isRouter, .iface, .arState, .useForComp, .cid].map
      (Flags.read (writes (Flags.write (k := 0)) 0
        [(.pfxLen, 45), (.l2addrLen, 3), (.nudState, 3), (.isRouter, 1), (.iface, 5),
          (.arState, 2), (.useForComp, 1), (.cid, 6)])) = [45, 3, 3, 1, 5, 2, 1, 6] := by
  decide

end BitfieldTest

end RiotPlayground
