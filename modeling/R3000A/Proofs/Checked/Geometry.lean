import R3000A.Proofs.Checked.Arithmetic
import R3000A.Proofs.Geometry.Unseen

/-!
# Checked results of the geometry engine

The commands of the geometry engine compute over exact integers. Here and in the modules that build
on this one they are carried out once more with their sums, differences, products and shifts in
integers of 64 bits, and the scaled distance of the projection plane in 32 bits. The bounds start at
the registers: a lane has 16 bits, a component 8 and a word 32. The last steps of a command are
checked here already:

* `laneFlagChecked`: the shift of the flag of the first lane by the number of the lane, in 32 bits.
* `macFlagChecked`, `irFlagChecked`, `colorFlagChecked`: that shift, if the flag is raised. The
  comparisons with the limits compute nothing.
* `setLaneChecked`, `setLanesChecked`: the flags. Values are cut to the low 32 bits on purpose.
* `pushColorChecked`: the shifts of MAC1 to MAC3 to the right, in 32 bits with a sign, and the
  flags.

The numbers of registers and the bytes and halves of a word are not checked, since their types bound
them.
-/

namespace R3000A.Geometry

open Checked (Yields)

/-! ### How far from zero a register can be -/

theorem natAbs_lowSigned (w : Word) : w.lowSigned.natAbs ≤ 0x8000 := by
  have h := w.lowSigned_mem
  omega

theorem natAbs_highSigned (w : Word) : w.highSigned.natAbs ≤ 0x8000 := by
  have h := w.highSigned_mem
  omega

theorem natAbs_signed (w : Word) : w.signed.natAbs ≤ 0x80000000 := by
  have h := w.signed_mem
  omega

theorem lowUnsigned_lt (w : Word) : w.lowUnsigned < 0x10000 := w.toUInt16.toNat_lt

theorem natAbs_clampIr (positive : Bool) (v : Int) : (clampIr positive v).natAbs ≤ 0x8000 := by
  cases positive <;> grind [clampIr, clamp, irMin]

theorem forall_lanes {p : Fin 3 → Prop} (h₀ : p 0) (h₁ : p 1) (h₂ : p 2) (lane : Fin 3) :
    p lane :=
  match lane with
  | 0 => h₀
  | 1 => h₁
  | 2 => h₂

def Within (n : Nat) (v : Vec) : Prop := ∀ lane, (v lane).natAbs ≤ n

def MatWithin (n : Nat) (m : Mat) : Prop := ∀ row, Within n (m row)

variable (g : Geometry)

theorem within_vertex (n : Fin 3) : Within 0x8000 (g.vertex n) :=
  forall_lanes (natAbs_lowSigned _) (natAbs_highSigned _) (natAbs_lowSigned _)

theorem within_ir : Within 0x8000 g.ir := fun _ => natAbs_lowSigned _

theorem within_mac : Within 0x80000000 g.mac := fun _ => natAbs_signed _

theorem within_controlVector (base : Fin 24) : Within 0x80000000 (g.controlVector base) :=
  fun _ => natAbs_signed _

theorem within_packedMatrix (base : Fin 24) : MatWithin 0x8000 (g.packedMatrix base) := by
  intro row column
  rw [packedMatrix]
  split
  · exact natAbs_lowSigned _
  · exact natAbs_highSigned _

theorem within_components (w : Word) : Within 0xff (components w) := by
  have hbyte (b : UInt8) : ((b.toNat : Nat) : Int).natAbs ≤ 0xff := Nat.le_of_lt_succ b.toNat_lt
  exact forall_lanes (hbyte _) (hbyte _) (hbyte _)

theorem within_matrix (m : MatrixChoice) : MatWithin 0x8000 (g.matrix m) := by
  cases m with
  | rotation | lights | lightColors => exact within_packedMatrix g _
  | zero => exact fun _ _ => Nat.zero_le _

theorem within_vector (v : VectorChoice) : Within 0x8000 (g.vector v) := by
  cases v with
  | vertex n => exact within_vertex g n
  | ir => exact within_ir g

theorem within_addend (c : AddendChoice) : Within 0x80000000 (g.addend c) := by
  cases c with
  | translation | background | farColor => exact within_controlVector g _
  | zero => exact fun _ => Nat.zero_le _

/-! ### Lanes -/

def lanesChecked {α : Type} (f : Fin 3 → Checked α) : Checked (Fin 3 → α) := do
  let a ← f 0
  let b ← f 1
  let c ← f 2
  return fun
    | 0 => a
    | 1 => b
    | 2 => c

theorem lanesChecked_eq {α : Type} {f : Fin 3 → Checked α} {v : Fin 3 → α}
    (h : ∀ lane, f lane = .ok (v lane)) : lanesChecked f = .ok v := by
  rw [lanesChecked, h, h, h]
  exact congrArg Except.ok (funext (forall_lanes rfl rfl rfl))

/-! ### Flags of a lane -/

/-- The flag of a lane, which stands as many bits below that of the first lane. -/
def laneFlagChecked (first : Word) (lane : Fin 3) : Checked Word :=
  Checked.shiftRight first lane

def macFlagChecked (lane : Fin 3) (v : Int) : Checked Word :=
  if 0x7fffffff < v then laneFlagChecked (Flag.macOverflow 0) lane
  else if v < -0x80000000 then laneFlagChecked (Flag.macUnderflow 0) lane
  else return 0

/-- The flag of a lane whose value is not between `lo` and `hi`. -/
def outsideChecked (lo hi : Int) (first : Word) (lane : Fin 3) (v : Int) : Checked Word :=
  if v < lo ∨ hi < v then laneFlagChecked first lane else return 0

def irFlagChecked (positive : Bool) (lane : Fin 3) (v : Int) : Checked Word :=
  outsideChecked (irMin positive) 0x7fff (Flag.irSaturated 0) lane v

def colorFlagChecked (lane : Fin 3) (v : Int) : Checked Word :=
  outsideChecked 0 0xff (Flag.colorSaturated 0) lane v

theorem laneFlagChecked_eq (first : Word) (lane : Fin 3) :
    laneFlagChecked first lane = .ok (first >>> UInt32.ofNat lane) :=
  Checked.shiftRight_eq _ (by omega)

theorem macFlagChecked_eq (lane : Fin 3) (v : Int) : macFlagChecked lane v = .ok (macFlag lane v) := by
  have hfirst : Flag.macOverflow 0 >>> UInt32.ofNat lane = Flag.macOverflow lane ∧
      Flag.macUnderflow 0 >>> UInt32.ofNat lane = Flag.macUnderflow lane := by
    revert lane
    decide
  rw [macFlagChecked, macFlag, overflow, laneFlagChecked_eq, laneFlagChecked_eq, hfirst.1, hfirst.2]
  split
  · rfl
  · split <;> rfl

theorem outsideChecked_eq {first : Word} {lane : Fin 3} {flag : Word}
    (hflag : first >>> UInt32.ofNat lane = flag) (lo hi v : Int) :
    outsideChecked lo hi first lane v = .ok (outside lo hi flag v) := by
  rw [outsideChecked, outside, laneFlagChecked_eq, hflag]
  split <;> rfl

theorem irFlagChecked_eq (positive : Bool) (lane : Fin 3) (v : Int) :
    irFlagChecked positive lane v = .ok (irFlag positive lane v) :=
  outsideChecked_eq (by revert lane; decide) ..

theorem colorFlagChecked_eq (lane : Fin 3) (v : Int) :
    colorFlagChecked lane v = .ok (colorFlag lane v) :=
  outsideChecked_eq (by revert lane; decide) ..

/-! ### Results -/

def setLaneChecked (positive : Bool) (lane : Fin 3) (v : Int) (g : Geometry) : Checked Geometry := do
  let kept := (Word.ofInt v).signed
  let sum ← macFlagChecked lane v
  let cut ← irFlagChecked positive lane kept
  return ((g.store (macReg lane) (Word.ofInt v)).store (irReg lane)
    (Word.ofInt (clampIr positive kept))).raise (sum ||| cut)

def setLanesChecked (positive : Bool) (v : Fin 3 → Checked Int) (g : Geometry) :
    Checked Geometry := do
  let v ← lanesChecked v
  let g ← setLaneChecked positive 0 (v 0) g
  let g ← setLaneChecked positive 1 (v 1) g
  setLaneChecked positive 2 (v 2) g

def pushColorChecked (shift : Nat) (g : Geometry) : Checked Geometry := do
  let value ← lanesChecked fun lane => Checked.shr .int32 (pure (g.mac lane)) shift
  let flag ← lanesChecked fun lane => colorFlagChecked lane (value lane)
  let entry := Word.ofBytes
    [UInt8.ofNat (clampColor (value 0)).toNat, UInt8.ofNat (clampColor (value 1)).toNat,
      UInt8.ofNat (clampColor (value 2)).toNat, g.code]
  return (((g.store (colorReg 0) (g.data.read (colorReg 1))).store (colorReg 1)
    (g.data.read (colorReg 2))).store (colorReg 2) entry).raiseLanes flag

theorem setLaneChecked_eq (positive : Bool) (lane : Fin 3) (v : Int) :
    g.setLaneChecked positive lane v = .ok (g.setLane positive lane v) := by
  rw [setLaneChecked, macFlagChecked_eq, irFlagChecked_eq]
  rfl

theorem setLanesChecked_eq {positive : Bool} {v : Fin 3 → Checked Int} {w : Vec}
    (h : ∀ lane, v lane = .ok (w lane)) :
    g.setLanesChecked positive v = .ok (g.setLanes positive w) := by
  rw [setLanesChecked, lanesChecked_eq h]
  simp only [Checked.ok_bind, setLaneChecked_eq]
  rfl

theorem pushColorChecked_eq {shift : Nat} (h : shift < 32) :
    g.pushColorChecked shift = .ok (g.pushColor shift) := by
  have hvalue (lane : Fin 3) :
      Checked.shr .int32 (pure (g.mac lane)) shift = .ok (g.mac lane >>> shift) :=
    ((Yields.of_le (g.within_mac lane)).shr h).eq_ok
  rw [pushColorChecked, lanesChecked_eq hvalue, Checked.ok_bind,
    lanesChecked_eq fun lane => colorFlagChecked_eq ..]
  rfl

end R3000A.Geometry
