import R3000A.Proofs.Geometry.ColorQueue

/-!
# IR and colors follow MAC

A chain of steps may clamp IR several times on its way, each time to another vector. The last step
that writes a vector writes all of MAC1 to MAC3 and of IR1 to IR3, and none of the steps after it
writes them again. So IR is MAC clamped in the end (`Clamped`), and since a color is pushed after
that, the newest color packs the MAC that is still there (`Colored`).
-/

namespace R3000A.Geometry

open Perspective (limit)

namespace Operation

/-- The least value that a command leaves in IR1 to IR3, if it has a vector as its result. -/
def irLeast? : Operation → Option Int
  | nclip | avsz3 | avsz4 => none
  | rtps | rtpt | op _ | dpcs | dpct | intpl | gpf _ | gpl _ => some (-0x8000)
  | mvmva _ _ _ _ positive => some (if positive then 0 else -0x8000)
  | sqr _ | ncs | nct | nccs | ncct | ncds | ncdt | cc | cdp => some 0

/-- The lowest bits of MAC that a command drops from the colors it pushes. -/
def colorShift : Operation → Nat
  | intpl => 0
  | _ => 4

end Operation

/-! ### Vectors -/

def Clamped (least : Int) (k : Geometry) : Prop :=
  ∀ lane, (k.data.read (irReg lane)).signed =
    limit least 0x7fff (k.data.read (macReg lane)).signed

theorem Clamped.congr {least : Int} {g k : Geometry} (h : Clamped least g)
    (hread : ∀ lane, k.data.read (irReg lane) = g.data.read (irReg lane) ∧
      k.data.read (macReg lane) = g.data.read (macReg lane)) : Clamped least k := by
  intro lane
  rw [(hread lane).1, (hread lane).2, h lane]

theorem clamped_setLanes (positive : Bool) (g : Geometry) (v : Vec) :
    Clamped (irMin positive) (g.setLanes positive v) := by
  intro lane
  obtain ⟨kept, hkept⟩ : ∃ kept, kept = (Word.ofInt (v lane)).signed := ⟨_, rfl⟩
  have hmin : -0x8000 ≤ irMin positive ∧ irMin positive ≤ 0 := by
    unfold irMin
    omega
  have hclamp : clampIr positive kept = limit (irMin positive) 0x7fff kept :=
    clamp_eq_max_min (by omega) kept
  rw [read_irReg_setLanes, read_macReg_setLanes, ← hkept, hclamp]
  apply Word.signed_ofInt_of_mem <;> unfold limit <;> omega

theorem clamped_fade (positive : Bool) (base gap : Vec) (g : Geometry) :
    Clamped (irMin positive) (g.fade positive base gap) := by
  rw [Geometry.fade]
  exact clamped_setLanes positive _ _

theorem clamped_outerProduct (shift : Nat) (g : Geometry) :
    Clamped (irMin false) (g.outerProduct shift) := by
  rw [outerProduct]
  exact clamped_setLanes false g _

theorem clamped_square (shift : Nat) (g : Geometry) : Clamped (irMin true) (g.square shift) := by
  rw [square]
  exact clamped_setLanes true g _

theorem clamped_project (n : Fin 3) (g : Geometry) : Clamped (irMin false) (g.project n) := by
  refine (clamped_setLanes false g (product 12 g.rotation (g.vertex n) g.translation)).congr
    fun lane => ⟨?_, ?_⟩
  all_goals
    apply read_project_of_ne <;> revert lane <;> decide

/-! ### Colors -/

def SameColors (g k : Geometry) : Prop := ∀ n, k.data.read (colorReg n) = g.data.read (colorReg n)

theorem lane_ne_colorReg (n : Fin 3) (lane : Fin 3) :
    macReg lane ≠ colorReg n ∧ irReg lane ≠ colorReg n := by
  revert n lane
  decide

namespace SameColors

variable {g k : Geometry}

theorem refl : SameColors g g := fun _ => rfl

theorem setLanes (h : SameColors g k) (positive : Bool) (v : Vec) :
    SameColors g (k.setLanes positive v) :=
  fun n => (read_setLanes_of_ne _ _ _ (lane_ne_colorReg n)).trans (h n)

theorem fade (h : SameColors g k) (positive : Bool) (base gap : Vec) :
    SameColors g (k.fade positive base gap) :=
  fun n => (read_fade _ _ _ _ (lane_ne_colorReg n)).trans (h n)

theorem light (n : Fin 3) : SameColors g (g.light n) := refl.setLanes _ _

theorem lightColor (h : SameColors g k) : SameColors g k.lightColor := h.setLanes _ _

end SameColors

/-- The registers `k` are what a command leaves of `g` that pushes one color at its end. -/
structure Colored (least : Int) (shift : Nat) (g k : Geometry) : Prop where
  ir : Clamped least k
  newest : Packs shift k (k.data.read (colorReg 2))
  middle : k.data.read (colorReg 1) = g.data.read (colorReg 2)
  oldest : k.data.read (colorReg 0) = g.data.read (colorReg 1)

/-- A push leaves alone what it packs. -/
theorem colored_pushColor {least : Int} {g k : Geometry} (hir : Clamped least k)
    (hcolors : SameColors g k) (shift : Nat) : Colored least shift g (k.pushColor shift) := by
  have hpushed := colorPushed_pushColor shift k
  have hlanes (lane : Fin 3) :
      (k.pushColor shift).data.read (macReg lane) = k.data.read (macReg lane) ∧
        (k.pushColor shift).data.read (irReg lane) = k.data.read (irReg lane) :=
    ⟨hpushed.data _ fun n => (lane_ne_colorReg n lane).1.symm,
      hpushed.data _ fun n => (lane_ne_colorReg n lane).2.symm⟩
  have hcode := hpushed.data colorCodeReg (by decide)
  constructor
  case ir => exact hir.congr fun lane => (hlanes lane).symm
  case newest =>
    constructor
    case color =>
      intro lane
      rw [hpushed.newest.color, component, component, (hlanes lane).1]
    case code => rw [hpushed.newest.code, hcode]
  case middle => exact hpushed.middle.trans (hcolors 2)
  case oldest => exact hpushed.oldest.trans (hcolors 1)

section

variable {g k : Geometry}

theorem colored_setLanes (h : SameColors g k) (positive : Bool) (v : Vec) (shift : Nat) :
    Colored (irMin positive) shift g ((k.setLanes positive v).pushColor shift) :=
  colored_pushColor (clamped_setLanes positive k v) (h.setLanes positive v) shift

theorem colored_fade (h : SameColors g k) (positive : Bool) (base gap : Vec) (shift : Nat) :
    Colored (irMin positive) shift g ((k.fade positive base gap).pushColor shift) :=
  colored_pushColor (clamped_fade positive base gap k) (h.fade positive base gap) shift

theorem colored_lightColor (h : SameColors g k) :
    Colored (irMin true) 4 g (k.lightColor.pushColor 4) := by
  rw [Geometry.lightColor]
  exact colored_setLanes h true _ 4

theorem colored_modulate (h : SameColors g k) :
    Colored (irMin true) 4 g (k.modulate.pushColor 4) := by
  rw [Geometry.modulate]
  exact colored_setLanes h true _ 4

theorem colored_modulateAndFade (h : SameColors g k) :
    Colored (irMin true) 4 g (k.modulateAndFade.pushColor 4) := by
  rw [Geometry.modulateAndFade]
  exact colored_fade h true _ _ 4

end

theorem colored_depthCue (color : Vec) (g : Geometry) :
    Colored (irMin false) 4 g (g.depthCue color) := by
  rw [Geometry.depthCue]
  exact colored_fade .refl false _ _ 4

theorem colored_interpolate (g : Geometry) : Colored (irMin false) 0 g g.interpolate := by
  rw [Geometry.interpolate]
  exact colored_fade .refl false _ _ 0

theorem colored_scaleIr (shift : Nat) (g : Geometry) :
    Colored (irMin false) 4 g (g.scaleIr shift) := by
  rw [Geometry.scaleIr]
  exact colored_setLanes .refl false _ 4

theorem colored_scaleIrOntoMac (shift : Nat) (g : Geometry) :
    Colored (irMin false) 4 g (g.scaleIrOntoMac shift) := by
  rw [Geometry.scaleIrOntoMac]
  exact colored_setLanes .refl false _ 4

/-! ### The commands -/

/-- In `k`, which the command `o` left of `g`, the saturated results are those of MAC. A command
that pushes a single color moves the queue on by one. -/
structure FollowsMac (o : Operation) (g k : Geometry) : Prop where
  ir : ∀ least, o.irLeast? = some least → Clamped least k
  newest : o.colors = true → Packs o.colorShift k (k.data.read (colorReg 2))
  older : o.colors = true → o.passes = 1 →
    k.data.read (colorReg 1) = g.data.read (colorReg 2) ∧
      k.data.read (colorReg 0) = g.data.read (colorReg 1)

/-- Flags, before and after, have no part in this. -/
theorem FollowsMac.setFlags {o : Operation} {g k : Geometry} {before : Word}
    (h : FollowsMac o (g.setFlags before) k) (after : Word) :
    FollowsMac o g (k.setFlags after) where
  ir := h.ir
  newest hcolors := ⟨(h.newest hcolors).color, (h.newest hcolors).code⟩
  older := h.older

section

variable {o : Operation} {least : Int} {g k : Geometry}

theorem Clamped.followsMac (h : Clamped least k) (hleast : o.irLeast? = some least)
    (hcolors : o.colors = false) : FollowsMac o g k := by
  constructor
  case ir =>
    intro other hother
    rw [hleast, Option.some.injEq] at hother
    exact hother ▸ h
  all_goals
    intro hpushes
    rw [hcolors] at hpushes
    cases hpushes

theorem Colored.followsMac {m : Geometry} (h : Colored least o.colorShift m k)
    (hleast : o.irLeast? = some least) (honce : o.passes = 1 → m = g) : FollowsMac o g k := by
  constructor
  case ir =>
    intro other hother
    rw [hleast, Option.some.injEq] at hother
    exact hother ▸ h.ir
  case newest => exact fun _ => h.newest
  case older =>
    intro _ hpasses
    rw [← honce hpasses]
    exact ⟨h.middle, h.oldest⟩

end

theorem followsMac_apply (g : Geometry) (o : Operation) : FollowsMac o g (g.apply o) := by
  have hlit (n : Fin 3) (k : Geometry) : SameColors k (k.light n).lightColor :=
    (SameColors.light n).lightColor
  -- Of three passes only the last counts, whatever registers it starts from.
  cases o with
  | rtps => exact (clamped_project 0 g).followsMac rfl rfl
  | rtpt => exact (clamped_project 2 _).followsMac rfl rfl
  | nclip => exact ⟨nofun, nofun, nofun⟩
  | op shift => exact (clamped_outerProduct shift g).followsMac rfl rfl
  | dpcs => exact (colored_depthCue _ g).followsMac rfl fun _ => rfl
  | dpct => exact (colored_depthCue _ _).followsMac rfl nofun
  | intpl => exact (colored_interpolate g).followsMac rfl fun _ => rfl
  | mvmva shift m v c positive =>
    have hir := clamped_setLanes positive g (product shift (g.matrix m) (g.vector v) (g.addend c))
    exact hir.followsMac rfl rfl
  | ncs => exact (colored_lightColor (SameColors.light 0)).followsMac rfl fun _ => rfl
  | nct => exact (colored_lightColor (SameColors.light 2)).followsMac rfl nofun
  | nccs => exact (colored_modulate (hlit 0 g)).followsMac rfl fun _ => rfl
  | ncct => exact (colored_modulate (hlit 2 _)).followsMac rfl nofun
  | ncds => exact (colored_modulateAndFade (hlit 0 g)).followsMac rfl fun _ => rfl
  | ncdt => exact (colored_modulateAndFade (hlit 2 _)).followsMac rfl nofun
  | cc => exact (colored_modulate SameColors.refl.lightColor).followsMac rfl fun _ => rfl
  | cdp => exact (colored_modulateAndFade SameColors.refl.lightColor).followsMac rfl fun _ => rfl
  | sqr shift => exact (clamped_square shift g).followsMac rfl rfl
  | avsz3 => exact ⟨nofun, nofun, nofun⟩
  | avsz4 => exact ⟨nofun, nofun, nofun⟩
  | gpf shift => exact (colored_scaleIr shift g).followsMac rfl fun _ => rfl
  | gpl shift => exact (colored_scaleIrOntoMac shift g).followsMac rfl fun _ => rfl

/-- A command with a vector as its result leaves in IR1 to IR3 what it leaves in MAC1 to MAC3,
clamped, and if it pushes a color, that is the color of MAC1 to MAC3. -/
theorem results_follow_mac (g : Geometry) {w : Word} {o : Operation}
    (ho : Operation.ofWord? w = some o) : ∃ k, g.command? w = some k ∧ FollowsMac o g k :=
  ⟨_, (run_eq ho g).1, (followsMac_apply (g.setFlags 0) o).setFlags _⟩

/-- IR0 and IR1 at their greatest, and all of MAC1 in use. -/
def brimming : Geometry :=
  ((((Geometry.zero.writeData 8 0x7fff).writeData 9 0x7fff).writeData 25 0x7fffffff).writeData
    6 0x2c808080).writeData 22 0x11223344

/-- The sum in MAC1 turns negative where it is cut to 32 bits, and so IR1 and the red of the color
are at their least. -/
theorem results_follow_mac_of_brimming :
    ∃ k, brimming.command? 0x1a0003e = some k ∧ (k.data.read 25).signed = -0x40010000 ∧
      (k.data.read 9).signed = -0x8000 ∧ ((k.data.read 22).byte 0).toNat = 0 ∧
      (k.data.read 22).byte 3 = 0x2c ∧ k.data.read 21 = 0x11223344 := by
  have ho : Operation.ofWord? 0x1a0003e = some (.gpl 0) := by decide
  obtain ⟨k, hk, h⟩ := results_follow_mac brimming ho
  have hrun : k = brimming.execute (.gpl 0) := eq_execute ho hk
  have hmac : (k.data.read 25).signed = -0x40010000 := by
    rw [hrun]
    decide
  have hcode : (k.data.read colorCodeReg).byte 3 = 0x2c := by
    rw [hrun]
    decide
  have hir : (k.data.read 9).signed = limit (-0x8000) 0x7fff (k.data.read 25).signed :=
    h.ir (-0x8000) rfl 0
  have hpacks : Packs 4 k (k.data.read 22) := h.newest rfl
  have hred : (((k.data.read 22).byte 0).toNat : Int) =
      limit 0 0xff ((k.data.read 25).signed / 2 ^ 4) := hpacks.color 0
  have hmiddle : k.data.read 21 = brimming.data.read 22 := (h.older rfl rfl).1
  rw [hmac] at hir hred
  refine ⟨k, hk, hmac, hir.trans (by decide), Int.ofNat_inj.1 (hred.trans (by decide)),
    hpacks.code.trans hcode, hmiddle.trans (by decide)⟩

end R3000A.Geometry
