import R3000A.Proofs.Geometry.Written
import R3000A.Proofs.Word.Signed

/-!
# What the steps of a command leave

For each kind of result there is one lemma about the registers that hold it afterwards, and one
about the flag: which bit it is and when it is set. Registers that a step stays out of are the
business of `Reaches`.
-/

namespace R3000A.Geometry

/-! ### Bits of the flags -/

theorem bit_overflow {above below : Word} {n a b : Nat} (ha : above.bit n = decide (n = a))
    (hb : below.bit n = decide (n = b)) (v : Int) :
    (overflow above below v).bit n = true ↔
      n = a ∧ 0x7fffffff < v ∨ n = b ∧ v < -0x80000000 := by
  unfold overflow
  split
  case isTrue h =>
    rw [ha, decide_eq_true_iff]
    omega
  case isFalse h =>
    split
    case isTrue h' =>
      rw [hb, decide_eq_true_iff]
      omega
    case isFalse h' =>
      rw [Word.bit_zero]
      simp only [Bool.false_eq_true, false_iff]
      omega

theorem bit_outside {flag : Word} {n a : Nat} (hflag : flag.bit n = decide (n = a)) (lo hi v : Int) :
    (outside lo hi flag v).bit n = true ↔ n = a ∧ (v < lo ∨ hi < v) := by
  unfold outside
  split
  case isTrue h =>
    rw [hflag, decide_eq_true_iff]
    exact ⟨fun hn => ⟨hn, h⟩, fun hn => hn.1⟩
  case isFalse h =>
    rw [Word.bit_zero]
    exact ⟨fun hn => absurd hn Bool.false_ne_true, fun hn => absurd hn.2 h⟩

section

variable {n : Nat} (hn : n < 32)
include hn

theorem bit_macFlag (lane : Fin 3) (v : Int) :
    (macFlag lane v).bit n = true ↔
      n = 30 - lane.val ∧ 0x7fffffff < v ∨ n = 27 - lane.val ∧ v < -0x80000000 :=
  bit_overflow (by revert n lane; decide) (by revert n lane; decide) v

theorem bit_irFlag (positive : Bool) (lane : Fin 3) (v : Int) :
    (irFlag positive lane v).bit n = true ↔
      n = 24 - lane.val ∧ (v < irMin positive ∨ 0x7fff < v) :=
  bit_outside (by revert n lane; decide) _ _ v

theorem bit_mac0Flag (v : Int) :
    (mac0Flag v).bit n = true ↔ n = 16 ∧ 0x7fffffff < v ∨ n = 15 ∧ v < -0x80000000 :=
  bit_overflow (by revert n; decide) (by revert n; decide) v

theorem bit_depthFlag (v : Int) :
    (depthFlag v).bit n = true ↔ n = 18 ∧ (v < 0 ∨ 0xffff < v) :=
  bit_outside (by revert n; decide) _ _ v

theorem bit_screenXFlag (v : Int) :
    (screenXFlag v).bit n = true ↔ n = 14 ∧ (v < -0x400 ∨ 0x3ff < v) :=
  bit_outside (by revert n; decide) _ _ v

theorem bit_screenYFlag (v : Int) :
    (screenYFlag v).bit n = true ↔ n = 13 ∧ (v < -0x400 ∨ 0x3ff < v) :=
  bit_outside (by revert n; decide) _ _ v

theorem bit_ir0Flag (v : Int) :
    (ir0Flag v).bit n = true ↔ n = 12 ∧ (v < 0 ∨ 0x1000 < v) :=
  bit_outside (by revert n; decide) _ _ v

theorem bit_colorFlag (lane : Fin 3) (v : Int) :
    (colorFlag lane v).bit n = true ↔ n = 21 - lane.val ∧ (v < 0 ∨ 0xff < v) :=
  bit_outside (by revert n lane; decide) _ _ v

theorem bit_divisorFlag (h z : Nat) : (divisorFlag h z).bit n = true ↔ n = 17 ∧ z ≤ h / 2 := by
  unfold divisorFlag
  split
  case isTrue hz =>
    have hflag : Flag.divideOverflow.bit n = decide (n = 17) := by
      revert n
      decide
    rw [hflag, decide_eq_true_iff]
    exact ⟨fun h => ⟨h, hz⟩, fun h => h.1⟩
  case isFalse hz =>
    rw [Word.bit_zero]
    exact ⟨fun h => absurd h Bool.false_ne_true, fun h => absurd h.2 hz⟩

end

/-! ### Clamped values -/

theorem clamp_eq_max_min {lo hi : Int} (h : lo ≤ hi) (v : Int) :
    clamp lo hi v = max lo (min hi v) := by
  unfold clamp
  omega

/-! ### Registers -/

theorem data_raise (g : Geometry) (bits : Word) : (g.raise bits).data = g.data := rfl

theorem flags_raise (g : Geometry) (bits : Word) : (g.raise bits).flags = g.flags ||| bits :=
  flags_setFlags ..

theorem readControl_setFlags (g : Geometry) (bits : Word) {r : Reg} (h : flagReg ≠ r) :
    (g.setFlags bits).control.read r = g.control.read r :=
  Bank.read_write_of_ne _ _ h

section

variable (positive : Bool) (g : Geometry) (v : Vec)

theorem setLanes_eq :
    g.setLanes positive v =
      ((g.setLane positive 0 (v 0)).setLane positive 1 (v 1)).setLane positive 2 (v 2) := rfl

theorem read_setLane (lane : Fin 3) (x : Int) (r : Reg) :
    (g.setLane positive lane x).data.read r =
      if irReg lane = r then Word.ofInt (clampIr positive (Word.ofInt x).signed)
      else if macReg lane = r then Word.ofInt x else g.data.read r := by
  rw [← read_store g, ← read_store]
  rfl

theorem flags_setLane (lane : Fin 3) (x : Int) :
    (g.setLane positive lane x).flags =
      g.flags ||| (macFlag lane x ||| irFlag positive lane (Word.ofInt x).signed) := by
  rw [setLane_eq, flags_raise]
  rfl

theorem read_macReg_setLanes (lane : Fin 3) :
    (g.setLanes positive v).data.read (macReg lane) = Word.ofInt (v lane) := by
  simp only [setLanes_eq, read_setLane]
  rcases lane with ⟨_ | _ | _ | _, hlane⟩
  · rfl
  · rfl
  · rfl
  · omega

theorem read_irReg_setLanes (lane : Fin 3) :
    (g.setLanes positive v).data.read (irReg lane) =
      Word.ofInt (clampIr positive (Word.ofInt (v lane)).signed) := by
  simp only [setLanes_eq, read_setLane]
  rcases lane with ⟨_ | _ | _ | _, hlane⟩
  · rfl
  · rfl
  · rfl
  · omega

theorem read_setLanes_of_ne {r : Reg} (hr : ∀ lane, macReg lane ≠ r ∧ irReg lane ≠ r) :
    (g.setLanes positive v).data.read r = g.data.read r := by
  simp only [setLanes_eq, read_setLane, if_neg (hr _).1, if_neg (hr _).2]

theorem flags_setLanes :
    (g.setLanes positive v).flags = g.flags |||
      (macFlag 0 (v 0) ||| irFlag positive 0 (Word.ofInt (v 0)).signed) |||
      (macFlag 1 (v 1) ||| irFlag positive 1 (Word.ofInt (v 1)).signed) |||
      (macFlag 2 (v 2) ||| irFlag positive 2 (Word.ofInt (v 2)).signed) := by
  rw [setLanes_eq, flags_setLane, flags_setLane, flags_setLane]

/-- The flags that a vector result raises, lane by lane. -/
theorem bit_flags_setLanes {n : Nat} (hn : n < 32) :
    (g.setLanes positive v).flags.bit n = true ↔ g.flags.bit n = true ∨ ∃ lane : Fin 3,
      (n = 30 - lane.val ∧ 0x7fffffff < v lane ∨ n = 27 - lane.val ∧ v lane < -0x80000000) ∨
        n = 24 - lane.val ∧ ((Word.ofInt (v lane)).signed < irMin positive ∨
          0x7fff < (Word.ofInt (v lane)).signed) := by
  simp only [flags_setLanes, Word.bit_or, Bool.or_eq_true, bit_macFlag hn, bit_irFlag hn,
    Fin.exists_fin_succ, Fin.exists_fin_zero, or_assoc, or_false]
  rfl

end

section

variable (g : Geometry)

theorem depth_pushDepth (z : UInt16) :
    (∀ n : Fin 3, (g.pushDepth z).depth n.castSucc = g.depth n.succ) ∧
      (g.pushDepth z).depth 3 = z.toNat := by
  have hlow (w : Word) (half : UInt16) : (w.withLow half).lowUnsigned = half.toNat :=
    congrArg UInt16.toNat (Word.toUInt16_withLow w half)
  rw [pushDepth_eq]
  simp only [depth, read_store]
  refine ⟨fun n => ?_, hlow ..⟩
  rcases n with ⟨_ | _ | _ | _, hn⟩
  · exact hlow ..
  · exact hlow ..
  · exact hlow ..
  · omega

theorem read_pushDepth_of_ne (z : UInt16) {r : Reg} (hr : ∀ n, depthReg n ≠ r) :
    (g.pushDepth z).data.read r = g.data.read r := by
  simp only [pushDepth_eq, read_store, if_neg (hr _)]

theorem read_pushScreen (xy : Word) :
    (g.pushScreen xy).data.read (screenReg 0) = g.data.read (screenReg 1) ∧
      (g.pushScreen xy).data.read (screenReg 1) = g.data.read (screenReg 2) ∧
      (g.pushScreen xy).data.read (screenReg 2) = xy := by
  simp only [pushScreen_eq, read_store]
  exact ⟨rfl, rfl, rfl⟩

theorem read_pushScreen_of_ne (xy : Word) {r : Reg} (hr : ∀ n, screenReg n ≠ r) :
    (g.pushScreen xy).data.read r = g.data.read r := by
  simp only [pushScreen_eq, read_store, if_neg (hr _)]

theorem read_setMac0 (v : Int) (r : Reg) :
    (g.setMac0 v).data.read r = if mac0Reg = r then Word.ofInt v else g.data.read r :=
  Bank.read_write ..

theorem flags_setMac0 (v : Int) : (g.setMac0 v).flags = g.flags ||| mac0Flag v :=
  flags_raise ..

theorem read_setIr0 (v : Int) (r : Reg) :
    (g.setIr0 v).data.read r = if ir0Reg = r then Word.ofInt (clampIr0 v) else g.data.read r :=
  Bank.read_write ..

theorem flags_setIr0 (v : Int) : (g.setIr0 v).flags = g.flags ||| ir0Flag v :=
  flags_raise ..

/-- The last steps of a projection write the screen queue, MAC0 and IR0. -/
theorem read_projectPoint_of_ne (z : Nat) {r : Reg} (hscreen : ∀ n, screenReg n ≠ r)
    (hmac0 : mac0Reg ≠ r) (hir0 : ir0Reg ≠ r) :
    (g.projectPoint z).data.read r = g.data.read r := by
  rw [projectPoint, read_setIr0, if_neg hir0, read_setMac0, if_neg hmac0, data_raise,
    read_pushScreen_of_ne _ _ hscreen]

/-- What a projection keeps of the vector it begins with. -/
theorem read_project_of_ne (n : Fin 3) {r : Reg} (hscreen : ∀ n, screenReg n ≠ r)
    (hdepth : ∀ n, depthReg n ≠ r) (hmac0 : mac0Reg ≠ r) (hir0 : ir0Reg ≠ r) :
    (g.project n).data.read r =
      (g.setLanes false (product 12 g.rotation (g.vertex n) g.translation)).data.read r := by
  rw [project, read_projectPoint_of_ne _ _ hscreen hmac0 hir0, data_raise,
    read_pushDepth_of_ne _ _ hdepth]

end

end R3000A.Geometry
