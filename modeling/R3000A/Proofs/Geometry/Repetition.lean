import R3000A.Proofs.Geometry.Result
import R3000A.Proofs.Geometry.Visible

/-!
# A command done again

Most commands read none of their own results. Doing such a command a second time therefore leaves
every register as it was after the first time, the flags among them, but for the queues, which get
the same entries once more (`command_repeats`).

The proof runs the command on both register files side by side, step by step (`InStep`). In the
beginning they differ in the results of the command, which are `stale` in the second file. Every
store of the command freshens one of them, a step reads only what is not stale, and the entries
pushed on both sides are the same because what they are made of is.
-/

namespace R3000A.Geometry

/-! ### Queues -/

def pushed {α : Type} (queue entries : List α) : List α := (queue ++ entries).drop entries.length

theorem pushed_pushed {α : Type} (queue first second : List α) :
    pushed (pushed queue first) second = pushed queue (first ++ second) := by
  have hroom : first.length ≤ (queue ++ first).length := by
    rw [List.length_append]
    omega
  rw [pushed, pushed, pushed, ← List.drop_append_of_le_length hroom, List.drop_drop,
    List.append_assoc, List.length_append]

/-- The queues `a` and `b` became `a'` and `b'` by a push of the same `n` entries. -/
def SamePushed {α : Type} (n : Nat) (a b a' b' : List α) : Prop :=
  ∃ entries : List α, entries.length = n ∧ a' = pushed a entries ∧ b' = pushed b entries

namespace SamePushed

variable {α : Type} {n : Nat} {a b a' b' : List α}

theorem zero : SamePushed 0 a b a b := by
  refine ⟨[], rfl, ?_, ?_⟩ <;> exact (List.append_nil _).symm

theorem congr {c d : List α} (h : SamePushed n a b a' b') (hc : c = a') (hd : d = b') :
    SamePushed n a b c d := by
  rw [hc, hd]
  exact h

theorem push (h : SamePushed n a b a' b') (entry : α) :
    SamePushed (n + 1) a b (pushed a' [entry]) (pushed b' [entry]) := by
  obtain ⟨entries, hlength, rfl, rfl⟩ := h
  refine ⟨entries ++ [entry], ?_, pushed_pushed .., pushed_pushed ..⟩
  rw [List.length_append, hlength]
  rfl

end SamePushed

section

variable (g : Geometry)

def points : List Word := List.ofFn fun n => g.data.read (screenReg n)

def depths : List Nat := List.ofFn g.depth

def colors : List Word := List.ofFn fun n => g.data.read (colorReg n)

theorem points_pushScreen (xy : Word) : (g.pushScreen xy).points = pushed g.points [xy] := by
  obtain ⟨holdest, hmiddle, hnewest⟩ := read_pushScreen g xy
  simp only [points, List.ofFn_succ, List.ofFn_zero]
  exact congrArg₂ List.cons holdest (congrArg₂ List.cons hmiddle (congrArg (· :: []) hnewest))

theorem depths_pushDepth (z : UInt16) : (g.pushDepth z).depths = pushed g.depths [z.toNat] := by
  obtain ⟨hnext, hnewest⟩ := depth_pushDepth g z
  simp only [depths, List.ofFn_succ, List.ofFn_zero]
  exact congrArg₂ List.cons (hnext 0) (congrArg₂ List.cons (hnext 1) (congrArg₂ List.cons (hnext 2)
    (congrArg (· :: []) hnewest)))

theorem colors_pushColor (shift : Nat) :
    (g.pushColor shift).colors = pushed g.colors [colorEntry shift g.mac g.code] := by
  obtain ⟨holdest, hmiddle, hnewest⟩ := read_pushColor shift g
  simp only [colors, List.ofFn_succ, List.ofFn_zero]
  exact congrArg₂ List.cons holdest (congrArg₂ List.cons hmiddle (congrArg (· :: []) hnewest))

end

section

variable {g k : Geometry}

theorem points_congr (h : ∀ n, k.data.read (screenReg n) = g.data.read (screenReg n)) :
    k.points = g.points :=
  congrArg List.ofFn (funext h)

theorem depths_congr (h : ∀ n, k.data.read (depthReg n) = g.data.read (depthReg n)) :
    k.depths = g.depths :=
  congrArg List.ofFn (funext fun n => congrArg Word.lowUnsigned (h n))

theorem colors_congr (h : ∀ n, k.data.read (colorReg n) = g.data.read (colorReg n)) :
    k.colors = g.colors :=
  congrArg List.ofFn (funext h)

end

def queueRegs : List Reg := List.ofFn screenReg ++ List.ofFn depthReg ++ List.ofFn colorReg

theorem ne_of_not_mem_queueRegs {r : Reg} (hr : r ∉ queueRegs) :
    (∀ n, screenReg n ≠ r) ∧ (∀ n, depthReg n ≠ r) ∧ ∀ n, colorReg n ≠ r := by
  revert r
  decide

/-! ### Two runs side by side -/

def laneRegs : List Reg := [macReg 0, irReg 0, macReg 1, irReg 1, macReg 2, irReg 2]

/-- From `g₀` and `k₀`, the same steps have led to `g` and `k`: the registers agree outside the
queues and those that are `stale`, and the queues got the same entries, so many `points`, `depths`
and `colors`. -/
structure InStep (stale : List Reg) (points depths colors : Nat) (g₀ k₀ g k : Geometry) : Prop where
  data : ∀ r, r ∉ queueRegs → r ∉ stale → k.data.read r = g.data.read r
  control : k.control = g.control
  points : SamePushed points g₀.points k₀.points g.points k.points
  depths : SamePushed depths g₀.depths k₀.depths g.depths k.depths
  colors : SamePushed colors g₀.colors k₀.colors g.colors k.colors

namespace InStep

variable {r : Reg} {stale : List Reg} {p d c : Nat} {g₀ k₀ g k : Geometry}

/-! ### What both sides read -/

/-- What is read off the control registers alone. -/
theorem controlled {α : Type} (h : InStep stale p d c g₀ k₀ g k) (f : Geometry → α)
    (hf : ∀ data data' control, f ⟨data, control⟩ = f ⟨data', control⟩) : f k = f g :=
  controlled_congr f hf h.control

theorem flags (h : InStep stale p d c g₀ k₀ g k) : k.flags = g.flags :=
  h.controlled Geometry.flags fun _ _ _ => rfl

theorem ir (h : InStep stale p d c g₀ k₀ g k) (hstale : ∀ lane, irReg lane ∉ stale) :
    k.ir = g.ir := by
  funext lane
  exact congrArg Word.lowSigned (h.data _ (by revert lane; decide) (hstale lane))

theorem mac (h : InStep stale p d c g₀ k₀ g k) (hstale : ∀ lane, macReg lane ∉ stale) :
    k.mac = g.mac := by
  funext lane
  exact congrArg Word.signed (h.data _ (by revert lane; decide) (hstale lane))

theorem ir0 (h : InStep stale p d c g₀ k₀ g k) (hstale : ir0Reg ∉ stale) : k.ir0 = g.ir0 :=
  congrArg Word.lowSigned (h.data _ (by decide) hstale)

/-- The inputs of the commands, which are never stale. -/
theorem given (h : InStep stale p d c g₀ k₀ g k) (hstale : ∀ r ∈ stale, 7 ≤ r.val)
    (hr : r.val < 7) : k.data.read r = g.data.read r := by
  refine h.data r (fun hqueue => ?_) fun hmem => ?_
  · have hlow : ∀ r ∈ queueRegs, 7 ≤ r.val := by decide
    exact absurd (hlow r hqueue) (by omega)
  · exact absurd (hstale r hmem) (by omega)

theorem color (h : InStep stale p d c g₀ k₀ g k) (hstale : ∀ r ∈ stale, 7 ≤ r.val) :
    k.color = g.color :=
  congrArg components (h.given hstale (by decide))

theorem code (h : InStep stale p d c g₀ k₀ g k) (hstale : ∀ r ∈ stale, 7 ≤ r.val) :
    k.code = g.code :=
  congrArg (Word.byte · 3) (h.given hstale (by decide))

theorem vertex (h : InStep stale p d c g₀ k₀ g k) (hstale : ∀ r ∈ stale, 7 ≤ r.val) (n : Fin 3) :
    k.vertex n = g.vertex n := by
  have hlow : ∀ n, (vertexXyReg n).val < 7 ∧ (vertexZReg n).val < 7 := by decide
  rw [vertex_eq, vertex_eq, h.given hstale (hlow n).1, h.given hstale (hlow n).2]

/-! ### Steps -/

theorem mono {stale' : List Reg} (h : InStep stale p d c g₀ k₀ g k) (hstale : stale ⊆ stale') :
    InStep stale' p d c g₀ k₀ g k where
  data r hqueue hr := h.data r hqueue fun hmem => hr (hstale hmem)
  control := h.control
  points := h.points
  depths := h.depths
  colors := h.colors

theorem setFlags (h : InStep stale p d c g₀ k₀ g k) (bits : Word) :
    InStep stale p d c g₀ k₀ (g.setFlags bits) (k.setFlags bits) where
  data := h.data
  control := congrArg (Bank.write · flagReg bits) h.control
  points := h.points
  depths := h.depths
  colors := h.colors

theorem raise (h : InStep stale p d c g₀ k₀ g k) (bits : Word) :
    InStep stale p d c g₀ k₀ (g.raise bits) (k.raise bits) := by
  rw [Geometry.raise, Geometry.raise, h.flags]
  exact h.setFlags _

theorem raiseLanes (h : InStep stale p d c g₀ k₀ g k) (bits : Fin 3 → Word) :
    InStep stale p d c g₀ k₀ (g.raiseLanes bits) (k.raiseLanes bits) :=
  h.raise _

/-- A store of the same word on both sides freshens its register. -/
theorem store (h : InStep (r :: stale) p d c g₀ k₀ g k) (hr : r ∉ queueRegs) (v : Word) :
    InStep stale p d c g₀ k₀ (g.store r v) (k.store r v) := by
  obtain ⟨hscreen, hdepth, hcolor⟩ := ne_of_not_mem_queueRegs hr
  have hread (g : Geometry) {s : Reg} (hs : s ≠ r) : (g.store r v).data.read s = g.data.read s := by
    rw [read_store, if_neg hs.symm]
  have hpoints (g : Geometry) : (g.store r v).points = g.points :=
    points_congr fun n => hread g (hscreen n)
  have hdepths (g : Geometry) : (g.store r v).depths = g.depths :=
    depths_congr fun n => hread g (hdepth n)
  have hcolors (g : Geometry) : (g.store r v).colors = g.colors :=
    colors_congr fun n => hread g (hcolor n)
  constructor
  case data =>
    intro s hqueue hs
    rw [read_store, read_store]
    split
    case isTrue => rfl
    case isFalse hne =>
      refine h.data s hqueue fun hmem => ?_
      rcases List.mem_cons.1 hmem with heq | hmem
      · exact hne heq.symm
      · exact hs hmem
  case control => exact h.control
  case points => exact h.points.congr (hpoints g) (hpoints k)
  case depths => exact h.depths.congr (hdepths g) (hdepths k)
  case colors => exact h.colors.congr (hcolors g) (hcolors k)

theorem setLane {lane : Fin 3} (h : InStep (macReg lane :: irReg lane :: stale) p d c g₀ k₀ g k)
    (positive : Bool) (v : Int) :
    InStep stale p d c g₀ k₀ (g.setLane positive lane v) (k.setLane positive lane v) := by
  have hqueue : ∀ lane, macReg lane ∉ queueRegs ∧ irReg lane ∉ queueRegs := by decide
  rw [setLane_eq, setLane_eq]
  exact ((h.store (hqueue lane).1 _).store (hqueue lane).2 _).raise _

theorem setLanes (h : InStep (laneRegs ++ stale) p d c g₀ k₀ g k) (positive : Bool) (v : Vec) :
    InStep stale p d c g₀ k₀ (g.setLanes positive v) (k.setLanes positive v) := by
  rw [setLanes_eq, setLanes_eq]
  exact ((h.setLane positive _).setLane positive _).setLane positive _

theorem setMac0 (h : InStep (mac0Reg :: stale) p d c g₀ k₀ g k) (v : Int) :
    InStep stale p d c g₀ k₀ (g.setMac0 v) (k.setMac0 v) :=
  (h.store (by decide) (Word.ofInt v)).raise (mac0Flag v)

theorem setIr0 (h : InStep (ir0Reg :: stale) p d c g₀ k₀ g k) (v : Int) :
    InStep stale p d c g₀ k₀ (g.setIr0 v) (k.setIr0 v) :=
  (h.store (by decide) (Word.ofInt (clampIr0 v))).raise (ir0Flag v)

theorem pushScreen (h : InStep stale p d c g₀ k₀ g k) (xy : Word) :
    InStep stale (p + 1) d c g₀ k₀ (g.pushScreen xy) (k.pushScreen xy) := by
  have hread (g : Geometry) {r : Reg} (hr : ∀ n, screenReg n ≠ r) :
      (g.pushScreen xy).data.read r = g.data.read r :=
    read_pushScreen_of_ne g xy hr
  have hdepths (g : Geometry) : (g.pushScreen xy).depths = g.depths :=
    depths_congr fun n => hread g (by revert n; decide)
  have hcolors (g : Geometry) : (g.pushScreen xy).colors = g.colors :=
    colors_congr fun n => hread g (by revert n; decide)
  constructor
  case data =>
    intro r hqueue hr
    have hne := (ne_of_not_mem_queueRegs hqueue).1
    rw [hread k hne, hread g hne, h.data r hqueue hr]
  case control => exact h.control
  case points =>
    rw [points_pushScreen, points_pushScreen]
    exact h.points.push xy
  case depths => exact h.depths.congr (hdepths g) (hdepths k)
  case colors => exact h.colors.congr (hcolors g) (hcolors k)

theorem pushDepth (h : InStep stale p d c g₀ k₀ g k) (z : UInt16) :
    InStep stale p (d + 1) c g₀ k₀ (g.pushDepth z) (k.pushDepth z) := by
  have hread (g : Geometry) {r : Reg} (hr : ∀ n, depthReg n ≠ r) :
      (g.pushDepth z).data.read r = g.data.read r :=
    read_pushDepth_of_ne g z hr
  have hpoints (g : Geometry) : (g.pushDepth z).points = g.points :=
    points_congr fun n => hread g (by revert n; decide)
  have hcolors (g : Geometry) : (g.pushDepth z).colors = g.colors :=
    colors_congr fun n => hread g (by revert n; decide)
  constructor
  case data =>
    intro r hqueue hr
    have hne := (ne_of_not_mem_queueRegs hqueue).2.1
    rw [hread k hne, hread g hne, h.data r hqueue hr]
  case control => exact h.control
  case points => exact h.points.congr (hpoints g) (hpoints k)
  case depths =>
    rw [depths_pushDepth, depths_pushDepth]
    exact h.depths.push z.toNat
  case colors => exact h.colors.congr (hcolors g) (hcolors k)

theorem pushColor (h : InStep [] p d c g₀ k₀ g k) (shift : Nat) :
    InStep [] p d (c + 1) g₀ k₀ (g.pushColor shift) (k.pushColor shift) := by
  have hread (g : Geometry) {r : Reg} (hr : ∀ n, colorReg n ≠ r) :
      (g.pushColor shift).data.read r = g.data.read r :=
    read_pushColor_of_ne shift g hr
  have hpoints (g : Geometry) : (g.pushColor shift).points = g.points :=
    points_congr fun n => hread g (by revert n; decide)
  have hdepths (g : Geometry) : (g.pushColor shift).depths = g.depths :=
    depths_congr fun n => hread g (by revert n; decide)
  constructor
  case data =>
    intro r hqueue hr
    have hne := (ne_of_not_mem_queueRegs hqueue).2.2
    rw [hread k hne, hread g hne, h.data r hqueue hr]
  case control =>
    rw [pushColor_eq, pushColor_eq, h.mac (by decide)]
    exact (h.raise _).control
  case points => exact h.points.congr (hpoints g) (hpoints k)
  case depths => exact h.depths.congr (hdepths g) (hdepths k)
  case colors =>
    rw [colors_pushColor, colors_pushColor, h.mac (by decide), h.code (by decide)]
    exact h.colors.push _

/-! ### Chains of steps -/

theorem fade (h : InStep laneRegs p d c g₀ k₀ g k) (positive : Bool) (base gap : Vec) :
    InStep [] p d c g₀ k₀ (g.fade positive base gap) (k.fade positive base gap) := by
  rw [Geometry.fade, Geometry.fade, h.ir0 (by decide)]
  exact (h.raiseLanes _).setLanes positive _

theorem depthCue (h : InStep laneRegs p d c g₀ k₀ g k) (color : Vec) :
    InStep [] p d (c + 1) g₀ k₀ (g.depthCue color) (k.depthCue color) := by
  rw [Geometry.depthCue, Geometry.depthCue, h.controlled farColor fun _ _ _ => rfl]
  exact (h.fade false _ _).pushColor 4

theorem light (h : InStep laneRegs p d c g₀ k₀ g k) (n : Fin 3) :
    InStep [] p d c g₀ k₀ (g.light n) (k.light n) := by
  rw [Geometry.light, Geometry.light, h.controlled lights fun _ _ _ => rfl, h.vertex (by decide)]
  exact h.setLanes true _

theorem lightColor (h : InStep [] p d c g₀ k₀ g k) :
    InStep [] p d c g₀ k₀ g.lightColor k.lightColor := by
  rw [Geometry.lightColor, Geometry.lightColor, h.controlled lightColors fun _ _ _ => rfl,
    h.controlled background fun _ _ _ => rfl, h.ir (by decide)]
  exact (h.mono (List.nil_subset laneRegs)).setLanes true _

theorem modulate (h : InStep [] p d c g₀ k₀ g k) :
    InStep [] p d c g₀ k₀ g.modulate k.modulate := by
  rw [Geometry.modulate, Geometry.modulate, h.color (by decide), h.ir (by decide)]
  exact (h.mono (List.nil_subset laneRegs)).setLanes true _

theorem modulateAndFade (h : InStep [] p d c g₀ k₀ g k) :
    InStep [] p d c g₀ k₀ g.modulateAndFade k.modulateAndFade := by
  rw [Geometry.modulateAndFade, Geometry.modulateAndFade, h.color (by decide), h.ir (by decide),
    h.controlled farColor fun _ _ _ => rfl]
  exact (h.mono (List.nil_subset laneRegs)).fade true _ _

theorem normalColor (h : InStep laneRegs p d c g₀ k₀ g k) (n : Fin 3) :
    InStep [] p d (c + 1) g₀ k₀ (g.normalColor n) (k.normalColor n) :=
  (h.light n).lightColor.pushColor 4

theorem normalColorColor (h : InStep laneRegs p d c g₀ k₀ g k) (n : Fin 3) :
    InStep [] p d (c + 1) g₀ k₀ (g.normalColorColor n) (k.normalColorColor n) :=
  (h.light n).lightColor.modulate.pushColor 4

theorem normalColorDepth (h : InStep laneRegs p d c g₀ k₀ g k) (n : Fin 3) :
    InStep [] p d (c + 1) g₀ k₀ (g.normalColorDepth n) (k.normalColorDepth n) :=
  (h.light n).lightColor.modulateAndFade.pushColor 4

theorem projectPoint (h : InStep [mac0Reg, ir0Reg] p d c g₀ k₀ g k) (z : Nat) :
    InStep [] (p + 1) d c g₀ k₀ (g.projectPoint z) (k.projectPoint z) := by
  rw [Geometry.projectPoint, Geometry.projectPoint, h.ir (by decide),
    h.controlled plane fun _ _ _ => rfl, h.controlled offsetX fun _ _ _ => rfl,
    h.controlled offsetY fun _ _ _ => rfl, h.controlled cueSlope fun _ _ _ => rfl,
    h.controlled cueOffset fun _ _ _ => rfl]
  exact (((h.pushScreen _).raise _).setMac0 _).setIr0 _

theorem project (h : InStep (laneRegs ++ [mac0Reg, ir0Reg]) p d c g₀ k₀ g k) (n : Fin 3) :
    InStep [] (p + 1) (d + 1) c g₀ k₀ (g.project n) (k.project n) := by
  obtain ⟨v, hv⟩ : ∃ v, v = product 12 g.rotation (g.vertex n) g.translation := ⟨_, rfl⟩
  have hproduct : product 12 k.rotation (k.vertex n) k.translation = v := by
    rw [hv, h.controlled rotation fun _ _ _ => rfl, h.controlled translation fun _ _ _ => rfl,
      h.vertex (by decide)]
  have hmoved := h.setLanes false v
  have hz : (k.setLanes false v).mac 2 = (g.setLanes false v).mac 2 :=
    congrFun (hmoved.mac (by decide)) 2
  simp only [Geometry.project, hproduct, ← hv, hz]
  exact ((hmoved.pushDepth _).raise _).projectPoint _

theorem average (h : InStep [mac0Reg, averageReg] p d c g₀ k₀ g k) (scale sum : Int) :
    InStep [] p d c g₀ k₀ (g.average scale sum) (k.average scale sum) :=
  ((h.setMac0 (scale * sum)).store (by decide) _).raise _

/-- A step that takes part in all three passes of a command. What it freshens in the first pass
stays fresh. -/
theorem thrice (f : Fin 3 → Geometry → Geometry) (vertices entries : Nat)
    (hf : ∀ {p d c g k} n, InStep stale p d c g₀ k₀ g k →
      InStep [] (p + vertices) (d + vertices) (c + entries) g₀ k₀ (f n g) (f n k))
    (h : InStep stale p d c g₀ k₀ g k) :
    InStep [] (p + vertices + vertices + vertices) (d + vertices + vertices + vertices)
      (c + entries + entries + entries) g₀ k₀ (g.thrice f) (k.thrice f) :=
  hf 2 ((hf 1 ((hf 0 h).mono (List.nil_subset stale))).mono (List.nil_subset stale))

theorem multiply (h : InStep laneRegs p d c g₀ k₀ g k) (shift : Nat) (m : MatrixChoice) (n : Fin 3)
    (a : AddendChoice) (positive : Bool) :
    InStep [] p d c g₀ k₀ (g.apply (.mvmva shift m (.vertex n) a positive))
      (k.apply (.mvmva shift m (.vertex n) a positive)) := by
  have hmatrix : k.matrix m = g.matrix m :=
    h.controlled (matrix · m) fun _ _ _ => by cases m <;> rfl
  have hvector : k.vector (.vertex n) = g.vector (.vertex n) := h.vertex (by decide) n
  have haddend : k.addend a = g.addend a :=
    h.controlled (addend · a) fun _ _ _ => by cases a <;> rfl
  rw [apply, apply, hmatrix, hvector, haddend]
  exact h.setLanes positive _

end InStep

/-! ### Commands -/

namespace Operation

/-- The commands whose results do not depend on what was in the registers that they write. -/
def repeats : Operation → Bool
  | rtps | rtpt | nclip | avsz3 | avsz4 | dpcs | ncs | nct | nccs | ncct | ncds | ncdt => true
  | mvmva _ _ (.vertex _) _ _ => true
  | _ => false

/-- How many points, and as many depths, a command pushes. -/
def verticesPushed (o : Operation) : Nat := if o.projects then o.passes else 0

def colorsPushed (o : Operation) : Nat := if o.colors then o.passes else 0

/-- The data registers outside the queues that a command may change. -/
def results (o : Operation) : List Reg :=
  (laneRegs ++ [mac0Reg, ir0Reg, averageReg]).filter o.writes

theorem writes_eq_false {o : Operation} {r : Reg} (hqueue : r ∉ queueRegs) (hr : r ∉ o.results) :
    o.writes r = false := by
  by_cases hlisted : r ∈ laneRegs ++ [mac0Reg, ir0Reg, averageReg]
  case pos => exact Bool.eq_false_iff.2 fun hwrites => hr (List.mem_filter.2 ⟨hlisted, hwrites⟩)
  case neg =>
    -- What is left are the inputs and the registers that show something else, which no command
    -- writes.
    have hval : r.val < 7 ∨ r.val = 15 ∨ r.val = 23 ∨ 28 ≤ r.val := by
      clear hr
      revert r
      decide
    unfold writes
    split
    case h_20 => rfl
    all_goals omega

end Operation

/-- A command leaves two register files in step that agree on all that it does not write. -/
theorem inStep_apply {o : Operation} (ho : o.repeats = true) {g k : Geometry}
    (hdata : ∀ r, o.writes r = false → k.data.read r = g.data.read r)
    (hcontrol : k.control = g.control) :
    InStep [] o.verticesPushed o.verticesPushed o.colorsPushed g k (g.apply o) (k.apply o) := by
  have hstart : InStep o.results 0 0 0 g k g k :=
    ⟨fun r hqueue hr => hdata r (Operation.writes_eq_false hqueue hr), hcontrol, .zero, .zero,
      .zero⟩
  cases o with
  | rtps => exact hstart.project 0
  | rtpt => exact hstart.thrice project 1 0 fun n h => h.project n
  -- The queues are read here, and not written.
  | nclip =>
    have hwinding : k.winding = g.winding := by
      have hpoint (n : Fin 3) := hdata (screenReg n) (by revert n; decide)
      simp only [winding, screenX, screenY, hpoint]
    rw [apply, apply, hwinding]
    exact hstart.setMac0 _
  | avsz3 =>
    have hscale : k.scale3 = g.scale3 := hstart.controlled scale3 fun _ _ _ => rfl
    have hsum : k.depthSum3 = g.depthSum3 := by
      have hdepth (n : Fin 4) := hdata (depthReg n) (by revert n; decide)
      simp only [depthSum3, depth, hdepth]
    rw [apply, apply, hscale, hsum]
    exact hstart.average _ _
  | avsz4 =>
    have hscale : k.scale4 = g.scale4 := hstart.controlled scale4 fun _ _ _ => rfl
    have hsum : k.depthSum4 = g.depthSum4 := by
      have hdepth (n : Fin 4) := hdata (depthReg n) (by revert n; decide)
      simp only [depthSum4, depth, hdepth]
    rw [apply, apply, hscale, hsum]
    exact hstart.average _ _
  | dpcs =>
    rw [apply, apply, hstart.color (by decide)]
    exact hstart.depthCue _
  | ncs => exact hstart.normalColor 0
  | nct => exact hstart.thrice normalColor 0 1 fun n h => h.normalColor n
  | nccs => exact hstart.normalColorColor 0
  | ncct => exact hstart.thrice normalColorColor 0 1 fun n h => h.normalColorColor n
  | ncds => exact hstart.normalColorDepth 0
  | ncdt => exact hstart.thrice normalColorDepth 0 1 fun n h => h.normalColorDepth n
  | mvmva shift m v a positive =>
    cases v with
    | vertex n => exact hstart.multiply shift m n a positive
    | ir => cases ho
  | op | dpct | intpl | cc | cdp | sqr | gpf | gpl => cases ho

theorem InStep.execute {o : Operation} {p d c : Nat} {g₀ k₀ g k : Geometry}
    (h : InStep [] p d c g₀ k₀ ((g.setFlags 0).apply o) ((k.setFlags 0).apply o)) :
    InStep [] p d c g₀ k₀ (g.execute o) (k.execute o) := by
  rw [Geometry.execute, Geometry.execute, h.flags]
  exact h.setFlags _

theorem Commanded.control_setFlags {o : Operation} {g k : Geometry} (h : Commanded o g k)
    (bits : Word) : (k.setFlags bits).control = (g.setFlags bits).control := by
  refine Bank.ext fun r => ?_
  by_cases hr : r = flagReg
  case pos =>
    rw [hr]
    exact (flags_setFlags k bits).trans (flags_setFlags g bits).symm
  case neg =>
    rw [readControl_setFlags _ _ (Ne.symm hr), readControl_setFlags _ _ (Ne.symm hr),
      h.control r hr]

/-- The command `o` led from `g` to `h` and then from `h` to `k`. The second time changed the queues
alone, and pushed what had been pushed the first time. -/
structure Repeats (o : Operation) (g h k : Geometry) : Prop where
  data : ∀ r, r ∉ queueRegs → k.data.read r = h.data.read r
  control : k.control = h.control
  points : SamePushed o.verticesPushed g.points h.points h.points k.points
  depths : SamePushed o.verticesPushed g.depths h.depths h.depths k.depths
  colors : SamePushed o.colorsPushed g.colors h.colors h.colors k.colors

/-- A command that reads none of its results changes nothing when it is done again, except that it
pushes its entries again. -/
theorem command_repeats (g : Geometry) {w : Word} {o : Operation}
    (ho : Operation.ofWord? w = some o) (hrepeats : o.repeats = true) :
    ∃ h k, g.command? w = some h ∧ h.command? w = some k ∧ Repeats o g h k := by
  obtain ⟨h, hh⟩ : ∃ h, h = g.execute o := ⟨_, rfl⟩
  have hcommanded : Commanded o g h := hh ▸ commanded_execute g o
  have happly : InStep [] o.verticesPushed o.verticesPushed o.colorsPushed (g.setFlags 0)
      (h.setFlags 0) ((g.setFlags 0).apply o) ((h.setFlags 0).apply o) :=
    inStep_apply hrepeats hcommanded.data (hcommanded.control_setFlags 0)
  have hstep := happly.execute
  rw [← hh] at hstep
  refine ⟨h, h.execute o, ?_, ?_, ?_⟩
  · rw [command?, ho, hh]
    rfl
  · rw [command?, ho]
    rfl
  · exact ⟨fun r hqueue => hstep.data r hqueue List.not_mem_nil, hstep.control, hstep.points,
      hstep.depths, hstep.colors⟩

/-- Three vertices at depths 100, 200 and 300, and a depth of 9 from before. -/
def receding : Geometry :=
  (((((Geometry.zero.writeControl 4 0x1000).writeControl 26 0x100).writeData 1 100).writeData
    3 200).writeData 5 300).writeData 19 9

/-- Projected again, the vertices fill the depth queue with the same three depths, behind the last
of the first time. One of them is too near, which the flags say both times. -/
theorem command_repeats_of_receding :
    ∃ h k, receding.command? 0x0280030 = some h ∧ h.command? 0x0280030 = some k ∧
      h.depths = [9, 100, 200, 300] ∧ k.depths = [300, 100, 200, 300] ∧
      h.flags = 0x80020000 ∧ k.flags = 0x80020000 := by
  have ho : Operation.ofWord? 0x0280030 = some .rtpt := by decide
  obtain ⟨h, k, hh, hk, hrepeats⟩ := command_repeats receding ho rfl
  have hrun : h = receding.execute .rtpt := eq_execute ho hh
  have hdepths : h.depths = [9, 100, 200, 300] := by
    rw [hrun]
    decide
  have hflags : h.flags = 0x80020000 := by
    rw [hrun]
    decide
  obtain ⟨entries, hlength, hfirst, hagain⟩ := hrepeats.depths
  have hpushed (queue : List Nat) : pushed queue entries = (queue ++ entries).drop 3 := by
    rw [pushed, hlength]
    rfl
  have hentries : [100, 200, 300] = entries := by
    rw [hdepths, hpushed] at hfirst
    exact (List.cons.inj hfirst).2
  refine ⟨h, k, hh, hk, hdepths, ?_, hflags, ?_⟩
  · rw [hagain, hpushed, hdepths, ← hentries]
    rfl
  · exact (congrArg (Bank.read · flagReg) hrepeats.control).trans hflags

end R3000A.Geometry
