import R3000A.Proofs.Geometry.Result
import Mathlib.Tactic.IntervalCases

/-!
# The perspective transformation

`Perspective` gives the transformation of the first vertex as its documentation does: sums over
exact integers with floor division, each cut to a range of its own, and a table that tells for
every flag which quantity is out of range when it is set. The command computes just these
(`command_rtps`), through a chain of steps that read each other's results out of registers.
-/

namespace R3000A.Geometry

/-! ### The documented transformation -/

namespace Perspective

def limit (lo hi v : Int) : Int := max lo (min hi v)

/-- `v` wrapped around to a signed number of 32 bits. -/
def wrap (v : Int) : Int := v.bmod (2 ^ 32)

def Above (v : Int) : Prop := 0x7fffffff < v

def Below (v : Int) : Prop := v < -0x80000000

def Outside (lo hi v : Int) : Prop := v < lo ∨ hi < v

variable (g : Geometry)

/-- The entries of the rotation matrix, two to a control register. -/
def entry : Fin 3 → Fin 3 → Int
  | 0, 0 => (g.control.read 0).lowSigned
  | 0, 1 => (g.control.read 0).highSigned
  | 0, 2 => (g.control.read 1).lowSigned
  | 1, 0 => (g.control.read 1).highSigned
  | 1, 1 => (g.control.read 2).lowSigned
  | 1, 2 => (g.control.read 2).highSigned
  | 2, 0 => (g.control.read 3).lowSigned
  | 2, 1 => (g.control.read 3).highSigned
  | 2, 2 => (g.control.read 4).lowSigned

def translated : Fin 3 → Int
  | 0 => (g.control.read 5).signed
  | 1 => (g.control.read 6).signed
  | 2 => (g.control.read 7).signed

def rotated (lane : Fin 3) : Int :=
  let x := (g.data.read 0).lowSigned
  let y := (g.data.read 0).highSigned
  let z := (g.data.read 1).lowSigned
  (4096 * translated g lane + (entry g lane 0 * x + entry g lane 1 * y + entry g lane 2 * z)) / 4096

def mac (lane : Fin 3) : Int := wrap (rotated g lane)

def ir (lane : Fin 3) : Int := limit (-0x8000) 0x7fff (mac g lane)

def depth : Int := limit 0 0xffff (mac g 2)

def halfPlane : Int := (g.plane : Int) / 2

/-- The depth that divides, which is no less than half the distance of the projection plane. -/
def distance : Int := if halfPlane g < depth g then depth g else max 1 (halfPlane g)

def factor : Int := 65536 * (g.plane : Int) / distance g

def sumX : Int := g.offsetX + ir g 0 * factor g

def sumY : Int := g.offsetY + ir g 1 * factor g

def cue : Int := g.cueOffset + g.cueSlope * factor g

/-- The flags between the unused ones and the sum, each with the quantity that it is about. -/
def OutOfRange : Nat → Prop
  | 30 => Above (rotated g 0)
  | 29 => Above (rotated g 1)
  | 28 => Above (rotated g 2)
  | 27 => Below (rotated g 0)
  | 26 => Below (rotated g 1)
  | 25 => Below (rotated g 2)
  | 24 => Outside (-0x8000) 0x7fff (mac g 0)
  | 23 => Outside (-0x8000) 0x7fff (mac g 1)
  | 22 => Outside (-0x8000) 0x7fff (mac g 2)
  | 18 => Outside 0 0xffff (mac g 2)
  | 17 => depth g ≤ halfPlane g
  | 16 => Above (sumX g) ∨ Above (sumY g) ∨ Above (cue g)
  | 15 => Below (sumX g) ∨ Below (sumY g) ∨ Below (cue g)
  | 14 => Outside (-0x400) 0x3ff (sumX g / 65536)
  | 13 => Outside (-0x400) 0x3ff (sumY g / 65536)
  | 12 => Outside 0 0x1000 (wrap (cue g) / 4096)
  | _ => False

/-- The data registers of `k` hold the perspective transformation of the first vertex of `g`. -/
structure Results (g k : Geometry) : Prop where
  mac : ∀ lane, (k.data.read (macReg lane)).signed = Perspective.mac g lane
  ir : ∀ lane, (k.data.read (irReg lane)).signed = Perspective.ir g lane
  depths : ∀ n : Fin 3, k.depth n.castSucc = g.depth n.succ
  depth : (k.depth 3 : Int) = Perspective.depth g
  points : k.data.read (screenReg 0) = g.data.read (screenReg 1) ∧
    k.data.read (screenReg 1) = g.data.read (screenReg 2)
  x : k.screenX 2 = limit (-0x400) 0x3ff (sumX g / 65536)
  y : k.screenY 2 = limit (-0x400) 0x3ff (sumY g / 65536)
  mac0 : (k.data.read mac0Reg).signed = wrap (cue g)
  ir0 : (k.data.read ir0Reg).signed = limit 0 0x1000 (wrap (cue g) / 4096)

/-- The registers `k` are what the transformation leaves of `g`. Bit 31 of the flags sums up those
that are errors. -/
structure Transforms (g k : Geometry) : Prop extends Results g k where
  flag : ∀ n < 31, k.flags.bit n = true ↔ OutOfRange g n
  error : k.flags.bit 31 = true ↔
    ∃ n, (23 ≤ n ∧ n ≤ 30 ∨ 13 ≤ n ∧ n ≤ 18) ∧ OutOfRange g n

/-! ### The steps of the command -/

theorem product_eq : product 12 g.rotation (g.vertex 0) g.translation = rotated g := by
  funext lane
  rw [product, Int.shiftRight_eq_div_pow]
  match lane with
  | 0 => rfl
  | 1 => rfl
  | 2 => rfl

theorem clampIr_eq (lane : Fin 3) :
    clampIr false (Word.ofInt (rotated g lane)).signed = ir g lane := by
  rw [clampIr, clamp_eq_max_min (by decide), Word.signed_ofInt]
  rfl

theorem mem_ir (lane : Fin 3) : -0x8000 ≤ ir g lane ∧ ir g lane < 0x8000 := by
  unfold ir limit
  omega

theorem mem_depth : 0 ≤ depth g ∧ depth g < 0x10000 := by
  unfold depth limit
  omega

def moved : Geometry := g.setLanes false (rotated g)

def queued : Geometry :=
  ((moved g).pushDepth (UInt16.ofNat (depth g).toNat)).raise (depthFlag (mac g 2))

theorem project_eq : g.project 0 = (queued g).projectPoint (depth g).toNat := by
  have hz : (moved g).mac 2 = mac g 2 := by
    rw [Geometry.mac, moved, read_macReg_setLanes, Word.signed_ofInt]
    rfl
  have hdepth : clampDepth (mac g 2) = depth g := clamp_eq_max_min (by decide) _
  rw [Geometry.project, product_eq]
  change (((moved g).pushDepth (UInt16.ofNat (clampDepth ((moved g).mac 2)).toNat)).raise
    (depthFlag ((moved g).mac 2))).projectPoint (clampDepth ((moved g).mac 2)).toNat = _
  rw [hz, hdepth, queued]

theorem readControl_queued {r : Reg} (hr : r ≠ flagReg) :
    (queued g).control.read r = g.control.read r := by
  have hany : Reaches (fun _ => true) g (queued g) :=
    ((Reaches.refl.setLanes (fun _ => ⟨rfl, rfl⟩) false _).pushDepth (fun _ => rfl) _).raise
      (depthFlag_and_checks _)
  exact hany.readControl_eq hr

theorem depthReg_ne (n : Fin 4) :
    (∀ lane, depthReg n ≠ macReg lane ∧ depthReg n ≠ irReg lane) ∧
      ∀ m, depthReg n ≠ screenReg m := by
  revert n
  decide

theorem read_irReg_queued (lane : Fin 3) :
    (queued g).data.read (irReg lane) = Word.ofInt (ir g lane) :=
  (read_pushDepth_of_ne _ _ fun n => ((depthReg_ne n).1 lane).2).trans
    ((read_irReg_setLanes ..).trans (congrArg Word.ofInt (clampIr_eq g lane)))

theorem ir_queued (lane : Fin 3) : (queued g).ir lane = ir g lane := by
  have hmem := mem_ir g lane
  rw [Geometry.ir, read_irReg_queued, Word.lowSigned_ofInt_of_mem hmem.1 hmem.2]

/-- The scale of the command is the documented factor. -/
theorem perspective_queued : ((perspective (queued g).plane (depth g).toNat : Nat) : Int) = factor g := by
  have hplane : (queued g).plane = g.plane :=
    congrArg Word.lowUnsigned (readControl_queued g (by decide))
  have hdepth : (((depth g).toNat : Nat) : Int) = depth g := Int.toNat_of_nonneg (mem_depth g).1
  have hdistance : ((divisor g.plane (depth g).toNat : Nat) : Int) = distance g := by
    rw [divisor, distance, halfPlane]
    split <;> split <;> omega
  rw [hplane, perspective, Int.natCast_ediv, hdistance, factor]
  push_cast
  rw [Int.mul_comm]

/-- The screen point as the words of the queue have it. -/
def point : Word :=
  Word.ofHalves (Word.ofInt (limit (-0x400) 0x3ff (sumX g / 65536))).toUInt16
    (Word.ofInt (limit (-0x400) 0x3ff (sumY g / 65536))).toUInt16

def pointFlags : Word :=
  divisorFlag g.plane (depth g).toNat ||| mac0Flag (sumX g) ||| screenXFlag (sumX g / 65536) |||
    mac0Flag (sumY g) ||| screenYFlag (sumY g / 65536)

theorem projectPoint_queued :
    (queued g).projectPoint (depth g).toNat =
      ((((queued g).pushScreen (point g)).raise (pointFlags g)).setMac0 (cue g)).setIr0
        (wrap (cue g) / 4096) := by
  have hread {r : Reg} (hr : r ≠ flagReg) := readControl_queued g hr
  have hplane : (queued g).plane = g.plane := congrArg Word.lowUnsigned (hread (by decide))
  have hx : (queued g).offsetX = g.offsetX := congrArg Word.signed (hread (by decide))
  have hy : (queued g).offsetY = g.offsetY := congrArg Word.signed (hread (by decide))
  have hslope : (queued g).cueSlope = g.cueSlope := congrArg Word.lowSigned (hread (by decide))
  have hoffset : (queued g).cueOffset = g.cueOffset := congrArg Word.signed (hread (by decide))
  have hclamp (v : Int) : clampScreen v = limit (-0x400) 0x3ff v := clamp_eq_max_min (by decide) v
  have hfactor := perspective_queued g
  rw [hplane] at hfactor
  simp only [Geometry.projectPoint, hplane, hx, hy, hslope, hoffset, hfactor, ir_queued, hclamp,
    Word.signed_ofInt]
  rfl

theorem flags_project :
    (g.project 0).flags =
      g.flags |||
      (macFlag 0 (rotated g 0) ||| irFlag false 0 (mac g 0)) |||
      (macFlag 1 (rotated g 1) ||| irFlag false 1 (mac g 1)) |||
      (macFlag 2 (rotated g 2) ||| irFlag false 2 (mac g 2)) |||
      depthFlag (mac g 2) ||| pointFlags g ||| mac0Flag (cue g) ||| ir0Flag (wrap (cue g) / 4096) := by
  have hmac (lane : Fin 3) : (Word.ofInt (rotated g lane)).signed = mac g lane :=
    Word.signed_ofInt _
  have hpushScreen (k : Geometry) (xy : Word) : (k.pushScreen xy).flags = k.flags := rfl
  have hpushDepth (k : Geometry) (z : UInt16) : (k.pushDepth z).flags = k.flags := rfl
  rw [project_eq, projectPoint_queued, flags_setIr0, flags_setMac0, flags_raise, hpushScreen,
    queued, flags_raise, hpushDepth, moved, flags_setLanes, hmac, hmac, hmac]

/-- Every flag that the command raises stands for its quantity in the table. -/
theorem bit_flags_project {n : Nat} (hn : n < 32) :
    (g.project 0).flags.bit n = true ↔ g.flags.bit n = true ∨ OutOfRange g n := by
  have hdistance : (depth g).toNat ≤ g.plane / 2 ↔ depth g ≤ halfPlane g := by
    have hmem := mem_depth g
    rw [halfPlane]
    omega
  simp only [flags_project, pointFlags, Word.bit_or, Bool.or_eq_true, bit_macFlag hn, bit_irFlag hn,
    bit_depthFlag hn, bit_divisorFlag hn, bit_mac0Flag hn, bit_screenXFlag hn, bit_screenYFlag hn,
    bit_ir0Flag hn, hdistance, or_assoc]
  interval_cases n <;> simp [OutOfRange, Above, Below, Outside, irMin]

/-! ### The results of the command -/

theorem read_project {r : Reg} (hscreen : ∀ n, screenReg n ≠ r) (hmac0 : mac0Reg ≠ r)
    (hir0 : ir0Reg ≠ r) : (g.project 0).data.read r = (queued g).data.read r := by
  rw [project_eq, read_projectPoint_of_ne _ _ hscreen hmac0 hir0]

theorem signed_macReg_project (lane : Fin 3) :
    ((g.project 0).data.read (macReg lane)).signed = mac g lane := by
  have hne : (∀ n, screenReg n ≠ macReg lane) ∧ mac0Reg ≠ macReg lane ∧ ir0Reg ≠ macReg lane := by
    revert lane
    decide
  have hread : (queued g).data.read (macReg lane) = Word.ofInt (rotated g lane) :=
    (read_pushDepth_of_ne _ _ fun n => ((depthReg_ne n).1 lane).1).trans (read_macReg_setLanes ..)
  rw [read_project g hne.1 hne.2.1 hne.2.2, hread, Word.signed_ofInt]
  rfl

theorem signed_irReg_project (lane : Fin 3) :
    ((g.project 0).data.read (irReg lane)).signed = ir g lane := by
  have hne : (∀ n, screenReg n ≠ irReg lane) ∧ mac0Reg ≠ irReg lane ∧ ir0Reg ≠ irReg lane := by
    revert lane
    decide
  have hmem := mem_ir g lane
  rw [read_project g hne.1 hne.2.1 hne.2.2, read_irReg_queued,
    Word.signed_ofInt_of_mem (by omega) (by omega)]

theorem depth_project :
    (∀ n : Fin 3, (g.project 0).depth n.castSucc = g.depth n.succ) ∧
      ((g.project 0).depth 3 : Int) = depth g := by
  obtain ⟨z, hz⟩ : ∃ z, z = UInt16.ofNat (depth g).toNat := ⟨_, rfl⟩
  have hproject (n : Fin 4) :
      (g.project 0).data.read (depthReg n) = ((moved g).pushDepth z).data.read (depthReg n) := by
    rw [read_project g (by revert n; decide) (by revert n; decide) (by revert n; decide), queued,
      data_raise, hz]
  have hmoved (n : Fin 4) : (moved g).data.read (depthReg n) = g.data.read (depthReg n) :=
    read_setLanes_of_ne _ _ _ fun lane =>
      ⟨((depthReg_ne n).1 lane).1.symm, ((depthReg_ne n).1 lane).2.symm⟩
  obtain ⟨hnext, hnew⟩ := depth_pushDepth (moved g) z
  have hmem := mem_depth g
  simp only [Geometry.depth, hproject, hmoved] at hnext hnew ⊢
  refine ⟨hnext, ?_⟩
  rw [hnew, hz, UInt16.toNat_ofNat']
  omega

theorem read_screenReg_project :
    (g.project 0).data.read (screenReg 0) = g.data.read (screenReg 1) ∧
      (g.project 0).data.read (screenReg 1) = g.data.read (screenReg 2) ∧
      (g.project 0).data.read (screenReg 2) = point g := by
  have hproject (n : Fin 3) : (g.project 0).data.read (screenReg n) =
      ((queued g).pushScreen (point g)).data.read (screenReg n) := by
    rw [project_eq, projectPoint_queued, read_setIr0, if_neg (by revert n; decide), read_setMac0,
      if_neg (by revert n; decide), data_raise]
  have hqueued (n : Fin 3) : (queued g).data.read (screenReg n) = g.data.read (screenReg n) :=
    (read_pushDepth_of_ne _ _ fun m => (depthReg_ne m).2 n).trans
      (read_setLanes_of_ne _ _ _ (by revert n; decide))
  have hqueue := read_pushScreen (queued g) (point g)
  rw [hproject, hproject, hproject]
  exact ⟨hqueue.1.trans (hqueued 1), hqueue.2.1.trans (hqueued 2), hqueue.2.2⟩

theorem screen_point :
    (point g).lowSigned = limit (-0x400) 0x3ff (sumX g / 65536) ∧
      (point g).highSigned = limit (-0x400) 0x3ff (sumY g / 65536) := by
  have hhalf (v : Int) : (Word.ofInt (limit (-0x400) 0x3ff v)).lowSigned = limit (-0x400) 0x3ff v :=
    Word.lowSigned_ofInt_of_mem (by unfold limit; omega) (by unfold limit; omega)
  rw [point, Word.lowSigned_ofHalves, Word.highSigned_ofHalves]
  exact ⟨hhalf _, hhalf _⟩

theorem signed_mac0Reg_project : ((g.project 0).data.read mac0Reg).signed = wrap (cue g) := by
  rw [project_eq, projectPoint_queued, read_setIr0, if_neg (by decide), read_setMac0, if_pos rfl,
    Word.signed_ofInt]
  rfl

theorem signed_ir0Reg_project :
    ((g.project 0).data.read ir0Reg).signed = limit 0 0x1000 (wrap (cue g) / 4096) := by
  have hclamp (v : Int) : clampIr0 v = limit 0 0x1000 v := clamp_eq_max_min (by decide) v
  rw [project_eq, projectPoint_queued, read_setIr0, if_pos rfl, hclamp]
  exact Word.signed_ofInt_of_mem (by unfold limit; omega) (by unfold limit; omega)

theorem results_project : Results g (g.project 0) where
  mac := signed_macReg_project g
  ir := signed_irReg_project g
  depths := (depth_project g).1
  depth := (depth_project g).2
  points := ⟨(read_screenReg_project g).1, (read_screenReg_project g).2.1⟩
  x := (congrArg Word.lowSigned (read_screenReg_project g).2.2).trans (screen_point g).1
  y := (congrArg Word.highSigned (read_screenReg_project g).2.2).trans (screen_point g).2
  mac0 := signed_mac0Reg_project g
  ir0 := signed_ir0Reg_project g

variable {g} in
theorem Results.setFlags {k : Geometry} (h : Results g k) (bits : Word) :
    Results g (k.setFlags bits) :=
  ⟨h.mac, h.ir, h.depths, h.depth, h.points, h.x, h.y, h.mac0, h.ir0⟩

theorem transforms_of_flags_eq_zero (hflags : g.flags = 0) :
    Transforms g ((g.project 0).setFlags (Flag.summarize (g.project 0).flags)) := by
  have hsum : (g.project 0).flags &&& ~~~Flag.checks = 0 := by
    have hreach : Reaches Operation.rtps.writes g (g.project 0) :=
      Reaches.refl.project rfl rfl rfl 0
    rw [hreach.flags_and, hflags, UInt32.zero_and]
  have hflag {n : Nat} (hn : n < 31) :
      (Flag.summarize (g.project 0).flags).bit n = true ↔ OutOfRange g n := by
    rw [Flag.bit_summarize_of_lt _ hn, bit_flags_project g (by omega), hflags, Word.bit_zero]
    simp only [Bool.false_eq_true, false_or]
  refine ⟨(results_project g).setFlags _, fun n hn => ?_, ?_⟩
  · rw [flags_setFlags]
    exact hflag hn
  · rw [flags_setFlags, Flag.bit_error_summarize hsum]
    exact exists_congr fun n => and_congr_right fun hn => hflag (by omega)

/-! ### The flags before -/

section

variable (bits : Word)

theorem rotated_setFlags : rotated (g.setFlags bits) = rotated g := by
  have hread {r : Reg} (hr : flagReg ≠ r) := g.readControl_setFlags bits hr
  have hentry (lane column : Fin 3) : entry (g.setFlags bits) lane column = entry g lane column := by
    unfold entry
    split <;> rw [hread (by decide)]
  have htranslated (lane : Fin 3) : translated (g.setFlags bits) lane = translated g lane := by
    unfold translated
    split <;> rw [hread (by decide)]
  funext lane
  simp only [rotated, hentry, htranslated]
  rfl

theorem mac_setFlags : mac (g.setFlags bits) = mac g := by
  funext lane
  rw [mac, mac, rotated_setFlags]

theorem ir_setFlags : ir (g.setFlags bits) = ir g := by
  funext lane
  rw [ir, ir, mac_setFlags]

theorem depth_setFlags : depth (g.setFlags bits) = depth g := by
  rw [depth, depth, mac_setFlags]

theorem plane_setFlags : (g.setFlags bits).plane = g.plane :=
  congrArg Word.lowUnsigned (g.readControl_setFlags bits (by decide))

theorem halfPlane_setFlags : halfPlane (g.setFlags bits) = halfPlane g := by
  rw [halfPlane, halfPlane, plane_setFlags]

theorem factor_setFlags : factor (g.setFlags bits) = factor g := by
  rw [factor, factor, distance, distance, plane_setFlags, depth_setFlags, halfPlane_setFlags]

theorem sums_setFlags :
    sumX (g.setFlags bits) = sumX g ∧ sumY (g.setFlags bits) = sumY g ∧
      cue (g.setFlags bits) = cue g := by
  have hread {r : Reg} (hr : flagReg ≠ r) := g.readControl_setFlags bits hr
  have hx : (g.setFlags bits).offsetX = g.offsetX := congrArg Word.signed (hread (by decide))
  have hy : (g.setFlags bits).offsetY = g.offsetY := congrArg Word.signed (hread (by decide))
  have hslope : (g.setFlags bits).cueSlope = g.cueSlope :=
    congrArg Word.lowSigned (hread (by decide))
  have hoffset : (g.setFlags bits).cueOffset = g.cueOffset :=
    congrArg Word.signed (hread (by decide))
  simp only [sumX, sumY, cue, hx, hy, hslope, hoffset, ir_setFlags, factor_setFlags, and_self]

/-- The transformation does not read the flags. -/
theorem Transforms.of_setFlags {k : Geometry} (h : Transforms (g.setFlags bits) k) :
    Transforms g k := by
  obtain ⟨hx, hy, hcue⟩ := sums_setFlags g bits
  have hflag (n : Nat) : OutOfRange (g.setFlags bits) n ↔ OutOfRange g n := by
    unfold OutOfRange
    split <;>
      simp only [rotated_setFlags, mac_setFlags, depth_setFlags, halfPlane_setFlags, hx, hy, hcue]
  obtain ⟨⟨hmac, hir, hdepths, hdepth, hpoints, hpx, hpy, hmac0, hir0⟩, hflags, herror⟩ := h
  rw [mac_setFlags] at hmac
  rw [ir_setFlags] at hir
  rw [depth_setFlags] at hdepth
  rw [hx] at hpx
  rw [hy] at hpy
  rw [hcue] at hmac0 hir0
  simp only [hflag] at hflags herror
  exact ⟨⟨hmac, hir, hdepths, hdepth, hpoints, hpx, hpy, hmac0, hir0⟩, hflags, herror⟩

end

/-- The perspective transformation is what its documentation says, for all registers. -/
theorem command_rtps {w : Word} (h : Operation.commandBits w = 0x0180001) :
    ∃ k, g.command? w = some k ∧ Transforms g k := by
  have ho : Operation.ofWord? w = some .rtps := by
    rw [← Operation.ofWord?_commandBits, h]
    decide
  refine ⟨complete (·.apply .rtps) g, (run_eq ho g).1, ?_⟩
  exact (transforms_of_flags_eq_zero _ (flags_setFlags g 0)).of_setFlags g 0

/-- A vertex at a quarter of the distance of the projection plane, in front of an eye that looks
straight ahead. -/
def near : Geometry :=
  (((((((Geometry.zero.writeControl 0 0x1000).writeControl 2 0x1000).writeControl 4
    0x1000).writeControl 26 1000).writeControl 24 0x1000000).writeControl 25 0x800000).writeData 0
    100).writeData 1 250

/-- The nearest distance doubles the coordinates, and the flags say so. -/
theorem command_rtps_of_near :
    ∃ k, near.command? 0x4a180001 = some k ∧ k.screenX 2 = 256 + 200 ∧ k.screenY 2 = 128 ∧
      k.flags.bit 17 = true ∧ k.flags.bit 31 = true := by
  obtain ⟨k, hk, h⟩ := command_rtps near (by decide : Operation.commandBits 0x4a180001 = 0x0180001)
  have hflag : OutOfRange near 17 := by
    change depth near ≤ halfPlane near
    decide
  refine ⟨k, hk, h.x.trans (by decide), h.y.trans (by decide), (h.flag 17 (by decide)).2 hflag, ?_⟩
  exact h.error.2 ⟨17, by decide, hflag⟩

end Perspective

end R3000A.Geometry
