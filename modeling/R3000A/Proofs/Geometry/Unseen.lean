import R3000A.Geometry.Execute
import R3000A.Proofs.Word.Bytes

/-!
# What commands neither see nor undo

The steps of a command read the data registers from IR0 on, the code of the given color and the
control registers; they write data registers from the average on and add flags. A change `σ` of the
registers is `Unseen` if it stays out of all that: it may put other words into the vertices, another
color beside the code, and it may raise flags. A step then does the same after such a change as
before it, so step and change can trade places, and this goes for the chains that the commands are.

Two kinds of steps read a little more. `project` and `light` take a vertex, so they are given it as
a vector here (`projectVector`, `lightVector`), and `modulate` takes the given color, which a change
must leave alone to be unseen by it: `Overlooks` is said of the steps that ask for no more than
that.
-/

namespace R3000A.Geometry

/-! ### Flags -/

theorem flags_setFlags (g : Geometry) (bits : Word) : (g.setFlags bits).flags = bits :=
  Bank.read_write_self ..

theorem setFlags_setFlags (g : Geometry) (a b : Word) :
    (g.setFlags a).setFlags b = g.setFlags b := by
  rw [setFlags, setFlags, setFlags, Bank.write_write_self]

theorem setFlags_flags (g : Geometry) : g.setFlags g.flags = g :=
  congrArg (Geometry.mk g.data) (Bank.write_read g.control flagReg)

theorem raise_comm (g : Geometry) (a b : Word) : (g.raise a).raise b = (g.raise b).raise a := by
  rw [raise, raise, raise, raise, flags_setFlags, flags_setFlags, setFlags_setFlags,
    setFlags_setFlags, UInt32.or_assoc, UInt32.or_assoc, UInt32.or_comm a]

/-! ### Control registers

No matrix and no vector takes in the flags. -/

section

variable {g k : Geometry} (h : ∀ r, r ≠ flagReg → k.control.read r = g.control.read r)
include h

theorem packedMatrix_congr (base : Fin 24) : k.packedMatrix base = g.packedMatrix base := by
  have hread (n : Nat) (hn : n < 9) :
      k.control.read ⟨base + n / 2, by omega⟩ = g.control.read ⟨base + n / 2, by omega⟩ := by
    refine h _ fun hflag => ?_
    have hval : base.val + n / 2 = 31 := congrArg Fin.val hflag
    omega
  funext row column
  simp only [packedMatrix, hread (3 * row.val + column.val) (by omega)]

theorem controlVector_congr (base : Fin 24) : k.controlVector base = g.controlVector base := by
  funext lane
  refine congrArg Word.signed (h _ fun hflag => ?_)
  have hval : base.val + lane.val = 31 := congrArg Fin.val hflag
  omega

end

/-! ### Single registers -/

/-- The registers with `v` in data register `r` and nothing else done. -/
def store (g : Geometry) (r : Reg) (v : Word) : Geometry := { g with data := g.data.write r v }

theorem read_store (g : Geometry) (r s : Reg) (v : Word) :
    (g.store r v).data.read s = if r = s then v else g.data.read s :=
  Bank.read_write ..

theorem setLane_eq (positive : Bool) (g : Geometry) (lane : Fin 3) (v : Int) :
    g.setLane positive lane v =
      ((g.store (macReg lane) (Word.ofInt v)).store (irReg lane)
        (Word.ofInt (clampIr positive (Word.ofInt v).signed))).raise
        (macFlag lane v ||| irFlag positive lane (Word.ofInt v).signed) := rfl

theorem pushScreen_eq (g : Geometry) (xy : Word) :
    g.pushScreen xy =
      ((g.store (screenReg 0) (g.data.read (screenReg 1))).store (screenReg 1)
        (g.data.read (screenReg 2))).store (screenReg 2) xy := rfl

theorem pushDepth_eq (g : Geometry) (z : UInt16) :
    g.pushDepth z =
      (((g.store (depthReg 0)
        ((g.data.read (depthReg 0)).withLow (g.data.read (depthReg 1)).toUInt16)).store (depthReg 1)
        ((g.data.read (depthReg 1)).withLow (g.data.read (depthReg 2)).toUInt16)).store (depthReg 2)
        ((g.data.read (depthReg 2)).withLow (g.data.read (depthReg 3)).toUInt16)).store (depthReg 3)
        ((g.data.read (depthReg 3)).withLow z) := rfl

def colorEntry (shift : Nat) (mac : Vec) (code : UInt8) : Word :=
  Word.ofBytes
    [UInt8.ofNat (clampColor (mac 0 >>> shift)).toNat,
      UInt8.ofNat (clampColor (mac 1 >>> shift)).toNat,
      UInt8.ofNat (clampColor (mac 2 >>> shift)).toNat, code]

theorem pushColor_eq (shift : Nat) (g : Geometry) :
    g.pushColor shift =
      (((g.store (colorReg 0) (g.data.read (colorReg 1))).store (colorReg 1)
        (g.data.read (colorReg 2))).store (colorReg 2)
        (colorEntry shift g.mac g.code)).raiseLanes
        fun lane => colorFlag lane (g.mac lane >>> shift) := rfl

theorem read_pushColor (shift : Nat) (g : Geometry) :
    (g.pushColor shift).data.read (colorReg 0) = g.data.read (colorReg 1) ∧
      (g.pushColor shift).data.read (colorReg 1) = g.data.read (colorReg 2) ∧
      (g.pushColor shift).data.read (colorReg 2) = colorEntry shift g.mac g.code := by
  rw [pushColor_eq]
  change (store _ _ _).data.read _ = _ ∧ (store _ _ _).data.read _ = _ ∧ (store _ _ _).data.read _ = _
  simp only [read_store]
  exact ⟨rfl, rfl, rfl⟩

theorem read_pushColor_of_ne (shift : Nat) (g : Geometry) {r : Reg} (hr : ∀ n, colorReg n ≠ r) :
    (g.pushColor shift).data.read r = g.data.read r := by
  rw [pushColor_eq]
  change (store _ _ _).data.read _ = _
  simp only [read_store, if_neg (hr _)]

/-- The registers with the given color replaced by that of `w`. The code stays. -/
def recolor (g : Geometry) (w : Word) : Geometry :=
  g.store colorCodeReg (Word.ofBytes [w.byte 0, w.byte 1, w.byte 2, g.code])

theorem code_recolor (g : Geometry) (w : Word) : (g.recolor w).code = g.code := by
  have hread : (g.recolor w).data.read colorCodeReg =
      Word.ofBytes [w.byte 0, w.byte 1, w.byte 2, g.code] := Bank.read_write_self ..
  rw [code, hread, Word.byte_ofBytes]
  rfl

theorem color_recolor (g : Geometry) (w : Word) : (g.recolor w).color = components w := by
  have hread : (g.recolor w).data.read colorCodeReg =
      Word.ofBytes [w.byte 0, w.byte 1, w.byte 2, g.code] := Bank.read_write_self ..
  rw [color, hread]
  funext lane
  rcases lane with ⟨_ | _ | _ | _, hlane⟩
  · exact congrArg (fun b : UInt8 => (b.toNat : Int)) (Word.byte_ofBytes _ _ _ _ 0)
  · exact congrArg (fun b : UInt8 => (b.toNat : Int)) (Word.byte_ofBytes _ _ _ _ 1)
  · exact congrArg (fun b : UInt8 => (b.toNat : Int)) (Word.byte_ofBytes _ _ _ _ 2)
  · omega

/-! ### Changes that are not seen -/

/-- The change `σ` stays out of what the steps of a command read and write. -/
structure Unseen (σ : Geometry → Geometry) : Prop where
  read : ∀ g (r : Reg), 7 ≤ r.val → (σ g).data.read r = g.data.read r
  code : ∀ g, (σ g).code = g.code
  readControl : ∀ g r, r ≠ flagReg → (σ g).control.read r = g.control.read r
  store : ∀ g (r : Reg) v, 7 ≤ r.val → (σ g).store r v = σ (g.store r v)
  raise : ∀ g bits, (σ g).raise bits = σ (g.raise bits)

/-- The step `f` does the same after a change that is unseen and leaves the given color alone. -/
def Overlooks (f : Geometry → Geometry) : Prop :=
  ∀ σ, Unseen σ → (∀ g, (σ g).color = g.color) → ∀ g, f (σ g) = σ (f g)

namespace Unseen

theorem raising (bits : Word) : Unseen (·.raise bits) where
  read _ _ _ := rfl
  code _ := rfl
  readControl _ _ h := Bank.read_write_of_ne _ _ h.symm
  store _ _ _ _ := rfl
  raise g more := g.raise_comm bits more

/-- Registers below IR0 are not written, and the code is in none of the vertices. -/
theorem storing {r : Reg} (hr : r.val < 6) (v : Word) : Unseen (·.store r v) := by
  have hne {s : Reg} (hs : 6 ≤ s.val) : r ≠ s := Fin.ne_of_val_ne (by omega)
  constructor
  case read => exact fun g s hs => Bank.read_write_of_ne _ _ (hne (by omega))
  case code => exact fun g => congrArg (Word.byte · 3) (Bank.read_write_of_ne _ _ (hne (Nat.le_refl 6)))
  case store =>
    intro g s w hs
    rw [Geometry.store, Geometry.store, Geometry.store, Geometry.store,
      g.data.write_comm (hne (by omega)) v w]
  all_goals intros; rfl

theorem recoloring (w : Word) : Unseen (·.recolor w) := by
  have hne {s : Reg} (hs : 7 ≤ s.val) : colorCodeReg ≠ s :=
    Fin.ne_of_val_ne (by simp [colorCodeReg]; omega)
  constructor
  case read => exact fun g s hs => Bank.read_write_of_ne _ _ (hne hs)
  case code => exact fun g => g.code_recolor w
  case store =>
    intro g s v hs
    have hcode : (g.store s v).code = g.code :=
      congrArg (Word.byte · 3) (Bank.read_write_of_ne _ _ (hne hs).symm)
    rw [recolor, recolor, hcode, Geometry.store, Geometry.store, Geometry.store, Geometry.store,
      g.data.write_comm (hne hs)]
  all_goals intros; rfl

theorem comp {σ τ : Geometry → Geometry} (hσ : Unseen σ) (hτ : Unseen τ) :
    Unseen fun g => σ (τ g) where
  read g r hr := (hσ.read (τ g) r hr).trans (hτ.read g r hr)
  code g := (hσ.code (τ g)).trans (hτ.code g)
  readControl g r hr := (hσ.readControl (τ g) r hr).trans (hτ.readControl g r hr)
  store g r v hr := (hσ.store (τ g) r v hr).trans (congrArg σ (hτ.store g r v hr))
  raise g bits := (hσ.raise (τ g) bits).trans (congrArg σ (hτ.raise g bits))

variable {σ : Geometry → Geometry}

/-! ### What steps read -/

theorem ir (h : Unseen σ) (g : Geometry) : (σ g).ir = g.ir := by
  funext lane
  exact congrArg Word.lowSigned (h.read g _ (by revert lane; decide))

theorem ir0 (h : Unseen σ) (g : Geometry) : (σ g).ir0 = g.ir0 :=
  congrArg Word.lowSigned (h.read g _ (by decide))

theorem mac (h : Unseen σ) (g : Geometry) : (σ g).mac = g.mac := by
  funext lane
  exact congrArg Word.signed (h.read g _ (by revert lane; decide))

theorem packedMatrix (h : Unseen σ) (g : Geometry) (base : Fin 24) :
    (σ g).packedMatrix base = g.packedMatrix base :=
  packedMatrix_congr (h.readControl g) base

theorem controlVector (h : Unseen σ) (g : Geometry) (base : Fin 24) :
    (σ g).controlVector base = g.controlVector base :=
  controlVector_congr (h.readControl g) base

/-! ### What steps write -/

theorem raiseLanes (h : Unseen σ) (g : Geometry) (bits : Fin 3 → Word) :
    (σ g).raiseLanes bits = σ (g.raiseLanes bits) :=
  h.raise g _

theorem setMac0 (h : Unseen σ) (g : Geometry) (v : Int) : (σ g).setMac0 v = σ (g.setMac0 v) :=
  (congrArg (Geometry.raise · _) (h.store g mac0Reg _ (by decide))).trans (h.raise _ _)

theorem setIr0 (h : Unseen σ) (g : Geometry) (v : Int) : (σ g).setIr0 v = σ (g.setIr0 v) :=
  (congrArg (Geometry.raise · _) (h.store g ir0Reg _ (by decide))).trans (h.raise _ _)

theorem setLanes (h : Unseen σ) (positive : Bool) (g : Geometry) (v : Vec) :
    (σ g).setLanes positive v = σ (g.setLanes positive v) := by
  have hlane (k : Geometry) (lane : Fin 3) (x : Int) :
      (σ k).setLane positive lane x = σ (k.setLane positive lane x) := by
    have hregs : 7 ≤ (macReg lane).val ∧ 7 ≤ (irReg lane).val := by revert lane; decide
    rw [setLane_eq, setLane_eq, h.store _ _ _ hregs.1, h.store _ _ _ hregs.2, h.raise]
  rw [Geometry.setLanes, Geometry.setLanes, hlane, hlane, hlane]

theorem pushScreen (h : Unseen σ) (g : Geometry) (xy : Word) :
    (σ g).pushScreen xy = σ (g.pushScreen xy) := by
  have hread (n : Fin 3) := h.read g (screenReg n) (by revert n; decide)
  have hstore (k : Geometry) (n : Fin 3) (v : Word) :=
    h.store k (screenReg n) v (by revert n; decide)
  rw [pushScreen_eq, pushScreen_eq, hread, hread, hstore, hstore, hstore]

theorem pushDepth (h : Unseen σ) (g : Geometry) (z : UInt16) :
    (σ g).pushDepth z = σ (g.pushDepth z) := by
  have hread (n : Fin 4) := h.read g (depthReg n) (by revert n; decide)
  have hstore (k : Geometry) (n : Fin 4) (v : Word) :=
    h.store k (depthReg n) v (by revert n; decide)
  rw [pushDepth_eq, pushDepth_eq]
  simp only [hread, hstore]

theorem pushColor (h : Unseen σ) (shift : Nat) (g : Geometry) :
    (σ g).pushColor shift = σ (g.pushColor shift) := by
  have hread (n : Fin 3) := h.read g (colorReg n) (by revert n; decide)
  have hstore (k : Geometry) (n : Fin 3) (v : Word) :=
    h.store k (colorReg n) v (by revert n; decide)
  rw [pushColor_eq, pushColor_eq]
  simp only [hread, hstore, h.mac, h.code, h.raiseLanes]

theorem fade (h : Unseen σ) (positive : Bool) (base gap : Vec) (g : Geometry) :
    (σ g).fade positive base gap = σ (g.fade positive base gap) := by
  simp only [Geometry.fade, h.ir0, h.raiseLanes, h.setLanes]

theorem depthCue (h : Unseen σ) (color : Vec) (g : Geometry) :
    (σ g).depthCue color = σ (g.depthCue color) := by
  simp only [Geometry.depthCue, farColor, h.controlVector, h.fade, h.pushColor]

theorem lightColor (h : Unseen σ) (g : Geometry) : (σ g).lightColor = σ g.lightColor := by
  simp only [Geometry.lightColor, lightColors, background, h.packedMatrix, h.controlVector, h.ir,
    h.setLanes]

theorem projectPoint (h : Unseen σ) (g : Geometry) (z : Nat) :
    (σ g).projectPoint z = σ (g.projectPoint z) := by
  have hcontrol (r : Reg) (hr : r ≠ flagReg) := h.readControl g r hr
  simp only [Geometry.projectPoint, plane, offsetX, offsetY, cueSlope, cueOffset,
    hcontrol planeReg (by decide), hcontrol offsetXReg (by decide), hcontrol offsetYReg (by decide),
    hcontrol cueSlopeReg (by decide), hcontrol cueOffsetReg (by decide), h.ir, h.pushScreen,
    h.raise, h.setMac0, h.setIr0]

end Unseen

/-! ### Chains of steps -/

def projectVector (v : Vec) (g : Geometry) : Geometry :=
  let moved := g.setLanes false (product 12 g.rotation v g.translation)
  let z := moved.mac 2
  let queued := (moved.pushDepth (UInt16.ofNat (clampDepth z).toNat)).raise (depthFlag z)
  queued.projectPoint (clampDepth z).toNat

def lightVector (v : Vec) (g : Geometry) : Geometry :=
  g.setLanes true (product 12 g.lights v fun _ => 0)

namespace Overlooks

theorem comp {f k : Geometry → Geometry} (hf : Overlooks f) (hk : Overlooks k) :
    Overlooks fun g => f (k g) :=
  fun σ hσ hcolor g => (congrArg f (hk σ hσ hcolor g)).trans (hf σ hσ hcolor (k g))

theorem projectVector (v : Vec) : Overlooks (projectVector v) := by
  intro σ hσ _ g
  simp only [Geometry.projectVector, rotation, translation, hσ.packedMatrix, hσ.controlVector,
    hσ.setLanes, hσ.mac, hσ.pushDepth, hσ.raise, hσ.projectPoint]

theorem lightVector (v : Vec) : Overlooks (lightVector v) := by
  intro σ hσ _ g
  simp only [Geometry.lightVector, lights, hσ.packedMatrix, hσ.setLanes]

theorem lightColor : Overlooks lightColor := fun _ hσ _ => hσ.lightColor

theorem pushColor (shift : Nat) : Overlooks (pushColor shift) := fun _ hσ _ => hσ.pushColor shift

theorem modulate : Overlooks modulate := by
  intro σ hσ hcolor g
  simp only [Geometry.modulate, hcolor, hσ.ir, hσ.setLanes]

theorem modulateAndFade : Overlooks modulateAndFade := by
  intro σ hσ hcolor g
  simp only [Geometry.modulateAndFade, hcolor, farColor, hσ.ir, hσ.controlVector, hσ.fade]

end Overlooks

/-- A step leaves alone what it overlooks. -/
theorem read_of_commutes {f : Geometry → Geometry} {r : Reg}
    (h : ∀ v g, f (g.store r v) = (f g).store r v) (g : Geometry) :
    (f g).data.read r = g.data.read r := by
  have hsame : g.store r (g.data.read r) = g :=
    congrArg (Geometry.mk · g.control) (Bank.write_read g.data r)
  have hread : ((f g).store r (g.data.read r)).data.read r = g.data.read r :=
    Bank.read_write_self ..
  rwa [← h, hsame] at hread

end R3000A.Geometry
