import R3000A.Proofs.Geometry.Visible

/-!
# Commands see only what shows

Every command of the geometry engine leads from alike registers to alike registers. A command is a
chain of steps that read lanes and control registers and write through `setLanes`, `setMac0` and the
queues, so each step takes a few rewrites with what its operands show.
-/

namespace R3000A.Geometry.Alike

variable {g k : Geometry}

theorem rotation (h : g.Alike k) : g.rotation = k.rotation :=
  h.controlled Geometry.rotation fun _ _ _ => rfl

theorem farColor (h : g.Alike k) : g.farColor = k.farColor :=
  h.controlled Geometry.farColor fun _ _ _ => rfl

/-! ### Coordinates -/

theorem projectPoint (h : g.Alike k) (z : Nat) : (g.projectPoint z).Alike (k.projectPoint z) := by
  have hplane : g.plane = k.plane := h.controlled plane fun _ _ _ => rfl
  have hx : g.offsetX = k.offsetX := h.controlled offsetX fun _ _ _ => rfl
  have hy : g.offsetY = k.offsetY := h.controlled offsetY fun _ _ _ => rfl
  have hslope : g.cueSlope = k.cueSlope := h.controlled cueSlope fun _ _ _ => rfl
  have hcue : g.cueOffset = k.cueOffset := h.controlled cueOffset fun _ _ _ => rfl
  simp only [Geometry.projectPoint, hplane, hx, hy, hslope, hcue, h.ir]
  exact (((h.pushScreen _).raise _).setMac0 _).setIr0 _

theorem project (h : g.Alike k) (n : Fin 3) : (g.project n).Alike (k.project n) := by
  have htranslation : g.translation = k.translation := h.controlled translation fun _ _ _ => rfl
  have hmoved := h.setLanes false (product 12 k.rotation (k.vertex n) k.translation)
  simp only [Geometry.project, h.rotation, h.vertex, htranslation, hmoved.mac]
  exact ((hmoved.pushDepth _).raise _).projectPoint _

theorem outerProduct (h : g.Alike k) (shift : Nat) :
    (g.outerProduct shift).Alike (k.outerProduct shift) := by
  simp only [Geometry.outerProduct, h.rotation, h.ir]
  exact h.setLanes false _

theorem square (h : g.Alike k) (shift : Nat) : (g.square shift).Alike (k.square shift) := by
  simp only [Geometry.square, h.ir]
  exact h.setLanes true _

theorem average (h : g.Alike k) (scale sum : Int) :
    (g.average scale sum).Alike (k.average scale sum) :=
  ((h.setMac0 _).write _ rfl).raise _

/-! ### Light and color -/

theorem light (h : g.Alike k) (n : Fin 3) : (g.light n).Alike (k.light n) := by
  have hlights : g.lights = k.lights := h.controlled lights fun _ _ _ => rfl
  simp only [Geometry.light, hlights, h.vertex]
  exact h.setLanes true _

theorem lightColor (h : g.Alike k) : g.lightColor.Alike k.lightColor := by
  have hcolors : g.lightColors = k.lightColors := h.controlled lightColors fun _ _ _ => rfl
  have hbackground : g.background = k.background := h.controlled background fun _ _ _ => rfl
  simp only [Geometry.lightColor, hcolors, hbackground, h.ir]
  exact h.setLanes true _

theorem modulate (h : g.Alike k) : g.modulate.Alike k.modulate := by
  simp only [Geometry.modulate, h.color, h.ir]
  exact h.setLanes true _

theorem fade (h : g.Alike k) (positive : Bool) (base gap : Vec) :
    (g.fade positive base gap).Alike (k.fade positive base gap) := by
  simp only [Geometry.fade, h.ir0]
  exact (h.raise _).setLanes positive _

theorem modulateAndFade (h : g.Alike k) : g.modulateAndFade.Alike k.modulateAndFade := by
  simp only [Geometry.modulateAndFade, h.color, h.ir, h.farColor]
  exact h.fade true _ _

theorem depthCue (h : g.Alike k) (color : Vec) : (g.depthCue color).Alike (k.depthCue color) := by
  simp only [Geometry.depthCue, h.farColor]
  exact (h.fade false _ _).pushColor 4

theorem interpolate (h : g.Alike k) : g.interpolate.Alike k.interpolate := by
  simp only [Geometry.interpolate, h.ir, h.farColor]
  exact (h.fade false _ _).pushColor 0

theorem normalColor (h : g.Alike k) (n : Fin 3) : (g.normalColor n).Alike (k.normalColor n) :=
  (h.light n).lightColor.pushColor 4

theorem normalColorColor (h : g.Alike k) (n : Fin 3) :
    (g.normalColorColor n).Alike (k.normalColorColor n) :=
  (h.light n).lightColor.modulate.pushColor 4

theorem normalColorDepth (h : g.Alike k) (n : Fin 3) :
    (g.normalColorDepth n).Alike (k.normalColorDepth n) :=
  (h.light n).lightColor.modulateAndFade.pushColor 4

theorem scaleIr (h : g.Alike k) (shift : Nat) : (g.scaleIr shift).Alike (k.scaleIr shift) := by
  simp only [Geometry.scaleIr, h.ir0, h.ir]
  exact (h.setLanes false _).pushColor 4

theorem scaleIrOntoMac (h : g.Alike k) (shift : Nat) :
    (g.scaleIrOntoMac shift).Alike (k.scaleIrOntoMac shift) := by
  simp only [Geometry.scaleIrOntoMac, h.ir0, h.ir, h.mac]
  exact (h.setLanes false _).pushColor 4

/-! ### Whole commands -/

theorem thrice {f : Fin 3 → Geometry → Geometry}
    (hf : ∀ n {g k : Geometry}, g.Alike k → (f n g).Alike (f n k)) (h : g.Alike k) :
    (g.thrice f).Alike (k.thrice f) :=
  hf 2 (hf 1 (hf 0 h))

theorem matrix (h : g.Alike k) (m : MatrixChoice) : g.matrix m = k.matrix m := by
  refine h.controlled (Geometry.matrix · m) fun _ _ _ => ?_
  cases m <;> rfl

theorem vector (h : g.Alike k) (v : VectorChoice) : g.vector v = k.vector v := by
  cases v with
  | vertex n => exact h.vertex n
  | ir => exact h.ir

theorem addend (h : g.Alike k) (c : AddendChoice) : g.addend c = k.addend c := by
  refine h.controlled (Geometry.addend · c) fun _ _ _ => ?_
  cases c <;> rfl

theorem apply (h : g.Alike k) (o : Operation) : (g.apply o).Alike (k.apply o) := by
  unfold Geometry.apply
  cases o with
  | rtps => exact h.project 0
  | rtpt => exact h.thrice fun n _ _ h => h.project n
  | nclip =>
      simp only [h.winding]
      exact h.setMac0 _
  | op shift => exact h.outerProduct shift
  | dpcs =>
      simp only [h.color]
      exact h.depthCue _
  | dpct =>
      refine h.thrice fun _ _ _ h => ?_
      rw [h.oldestColor]
      exact h.depthCue _
  | intpl => exact h.interpolate
  | mvmva shift m v c positive =>
      simp only [h.matrix, h.vector, h.addend]
      exact h.setLanes positive _
  | ncs => exact h.normalColor 0
  | nct => exact h.thrice fun n _ _ h => h.normalColor n
  | nccs => exact h.normalColorColor 0
  | ncct => exact h.thrice fun n _ _ h => h.normalColorColor n
  | ncds => exact h.normalColorDepth 0
  | ncdt => exact h.thrice fun n _ _ h => h.normalColorDepth n
  | cc => exact h.lightColor.modulate.pushColor 4
  | cdp => exact h.lightColor.modulateAndFade.pushColor 4
  | sqr shift => exact h.square shift
  | avsz3 =>
      have hscale : g.scale3 = k.scale3 := h.controlled scale3 fun _ _ _ => rfl
      simp only [depthSum3, hscale, h.depth]
      exact h.average _ _
  | avsz4 =>
      have hscale : g.scale4 = k.scale4 := h.controlled scale4 fun _ _ _ => rfl
      simp only [depthSum4, hscale, h.depth]
      exact h.average _ _
  | gpf shift => exact h.scaleIr shift
  | gpl shift => exact h.scaleIrOntoMac shift

theorem execute (h : g.Alike k) (o : Operation) : (g.execute o).Alike (k.execute o) := by
  have hdone := (h.setFlags 0).apply o
  simp only [Geometry.execute, hdone.flags]
  exact hdone.setFlags _

/-- A command word does the same to registers that are alike, and a word that is no command does
nothing to either. -/
theorem command (h : g.Alike k) (w : Word) :
    ((g.command? w).getD g).Alike ((k.command? w).getD k) := by
  rw [command?, command?]
  cases Operation.ofWord? w with
  | none => exact h
  | some o => exact h.execute o

end R3000A.Geometry.Alike
