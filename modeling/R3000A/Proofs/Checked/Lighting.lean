import R3000A.Proofs.Checked.Transform

/-!
# Checked light and color

The steps of the color commands in 64 bits. What is far from zero is a product of a color and a
vector, or the accumulator that a product is added onto, and both stay below two to the power of 45.
In each lane the following is checked:

* `modulateChecked`, `scaleIrChecked`: the product and its shift to the right.
* `scaleIrOntoMacChecked`: the shift of MAC to the left, the product, the sum, and the shift to the
  right.
* `fadeChecked`: the product of IR0 and the clamped gap, the sum with the base, its shift to the
  right, and the flag of the gap. The base and the gap are checked as they come.
* `modulateAndFadeChecked`: for the base the shift of the color to the left and the product, for the
  gap the product, its shift to the right and the difference.
* `depthCueChecked`, `interpolateChecked`: for the base a shift to the left, for the gap the
  difference, and in the former the shift of the color to the left.

The others check nothing but what they are put together from.
-/

namespace R3000A.Geometry

open Checked (Yields)

variable (g : Geometry)

def lightChecked (n : Fin 3) (g : Geometry) : Checked Geometry :=
  g.setLanesChecked true (productChecked 12 g.lights (g.vertex n) fun _ => 0)

def lightColorChecked (g : Geometry) : Checked Geometry :=
  g.setLanesChecked true (productChecked 12 g.lightColors g.ir g.background)

def modulateChecked (g : Geometry) : Checked Geometry :=
  g.setLanesChecked true fun lane =>
    Checked.shr .int64 (Checked.mul .int64 (pure (g.color lane)) (pure (g.ir lane))) 8

def fadeChecked (positive : Bool) (base gap : Fin 3 → Checked Int) (g : Geometry) :
    Checked Geometry := do
  let gap ← lanesChecked gap
  let flag ← lanesChecked fun lane => irFlagChecked false lane (gap lane)
  (g.raiseLanes flag).setLanesChecked positive fun lane =>
    Checked.shr .int64 (Checked.add .int64 (base lane)
      (Checked.mul .int64 (pure g.ir0) (pure (clampIr false (gap lane))))) 12

def modulateAndFadeChecked (g : Geometry) : Checked Geometry :=
  let c lane : Checked Int := pure (g.color lane)
  let v lane : Checked Int := pure (g.ir lane)
  g.fadeChecked true (fun lane => Checked.mul .int64 (Checked.shl .int64 (c lane) 4) (v lane))
    fun lane => Checked.sub .int64 (pure (g.farColor lane))
      (Checked.shr .int64 (Checked.mul .int64 (c lane) (v lane)) 8)

def depthCueChecked (color : Vec) (g : Geometry) : Checked Geometry := do
  let g ← g.fadeChecked false (fun lane => Checked.shl .int64 (pure (color lane)) 16)
    fun lane => Checked.sub .int64 (pure (g.farColor lane))
      (Checked.shl .int64 (pure (color lane)) 4)
  g.pushColorChecked 4

def interpolateChecked (g : Geometry) : Checked Geometry := do
  let g ← g.fadeChecked false (fun lane => Checked.shl .int64 (pure (g.ir lane)) 12)
    fun lane => Checked.sub .int64 (pure (g.farColor lane)) (pure (g.ir lane))
  g.pushColorChecked 0

def normalColorChecked (n : Fin 3) (g : Geometry) : Checked Geometry := do
  let g ← g.lightChecked n
  let g ← g.lightColorChecked
  g.pushColorChecked 4

def colorColorChecked (g : Geometry) : Checked Geometry := do
  let g ← g.lightColorChecked
  let g ← g.modulateChecked
  g.pushColorChecked 4

def colorDepthChecked (g : Geometry) : Checked Geometry := do
  let g ← g.lightColorChecked
  let g ← g.modulateAndFadeChecked
  g.pushColorChecked 4

def normalColorColorChecked (n : Fin 3) (g : Geometry) : Checked Geometry := do
  let g ← g.lightChecked n
  g.colorColorChecked

def normalColorDepthChecked (n : Fin 3) (g : Geometry) : Checked Geometry := do
  let g ← g.lightChecked n
  g.colorDepthChecked

def scaleIrChecked (shift : Nat) (g : Geometry) : Checked Geometry := do
  let g ← g.setLanesChecked false fun lane =>
    Checked.shr .int64 (Checked.mul .int64 (pure g.ir0) (pure (g.ir lane))) shift
  g.pushColorChecked 4

def scaleIrOntoMacChecked (shift : Nat) (g : Geometry) : Checked Geometry := do
  let g ← g.setLanesChecked false fun lane =>
    Checked.shr .int64 (Checked.add .int64 (Checked.shl .int64 (pure (g.mac lane)) shift)
      (Checked.mul .int64 (pure g.ir0) (pure (g.ir lane)))) shift
  g.pushColorChecked 4

theorem lightChecked_eq (n : Fin 3) : g.lightChecked n = .ok (g.light n) :=
  g.setLanesChecked_eq (productChecked_eq (by decide) (g.within_packedMatrix _) (g.within_vertex n)
    fun _ => Nat.zero_le _)

theorem lightColorChecked_eq : g.lightColorChecked = .ok g.lightColor :=
  g.setLanesChecked_eq (productChecked_eq (by decide) (g.within_packedMatrix _) g.within_ir
    (g.within_controlVector _))

theorem within_color : Within 0xff g.color := within_components _

theorem yields_tint (lane : Fin 3) :
    Yields (Checked.mul .int64 (pure (g.color lane)) (pure (g.ir lane)))
      (g.color lane * g.ir lane) (0xff * 0x8000) :=
  (Yields.of_le (g.within_color lane)).mul (.of_le (g.within_ir lane)) (by decide)

theorem yields_toned (lane : Fin 3) :
    Yields (Checked.shr .int64 (Checked.mul .int64 (pure (g.color lane)) (pure (g.ir lane))) 8)
      (g.color lane * g.ir lane / 256) (0xff * 0x8000) :=
  ((g.yields_tint lane).shr (by decide)).cast (Int.shiftRight_eq_div_pow _ 8)

theorem modulateChecked_eq : g.modulateChecked = .ok g.modulate := by
  rw [modulateChecked, modulate]
  exact g.setLanesChecked_eq fun lane => (g.yields_toned lane).eq_ok

variable {g} in
theorem fadeChecked_eq {positive : Bool} {base gap : Fin 3 → Checked Int} {b d : Vec} {n : Nat}
    (hbase : ∀ lane, Yields (base lane) (b lane) n) (hn : n + 0x40000000 < 2 ^ 63)
    (hgap : ∀ lane, gap lane = .ok (d lane)) :
    g.fadeChecked positive base gap = .ok (g.fade positive b d) := by
  have hweight (lane : Fin 3) : Yields
      (Checked.mul .int64 (pure g.ir0) (pure (clampIr false (d lane))))
      (g.ir0 * clampIr false (d lane)) 0x40000000 :=
    (Yields.of_le (natAbs_lowSigned _)).mul (.of_le (natAbs_clampIr _ _)) (by decide)
  have hlane (lane : Fin 3) := ((((hbase lane).add (hweight lane) hn).shr (t := .int64) (k := 12)
    (by decide)).cast (Int.shiftRight_eq_div_pow _ 12)).eq_ok
  rw [fadeChecked, lanesChecked_eq hgap, Checked.ok_bind,
    lanesChecked_eq fun lane => irFlagChecked_eq .., Checked.ok_bind, fade]
  exact setLanesChecked_eq _ hlane

theorem modulateAndFadeChecked_eq : g.modulateAndFadeChecked = .ok g.modulateAndFade := by
  have hbase (lane : Fin 3) := ((Yields.of_le (g.within_color lane)).shl (k := 4) (by decide)
    (by decide)).mul (.of_le (g.within_ir lane)) (by decide)
  have hgap (lane : Fin 3) := ((Yields.of_le (g.within_controlVector 21 lane)).sub
    (g.yields_toned lane) (by decide)).eq_ok
  rw [modulateAndFadeChecked, modulateAndFade]
  exact fadeChecked_eq hbase (by decide) hgap

/-- The last step of a command that leaves a color. -/
theorem bind_pushColorChecked {x : Checked Geometry} {g : Geometry} (hx : x = .ok g) {shift : Nat}
    (hshift : shift < 32) : (x >>= pushColorChecked shift) = .ok (g.pushColor shift) := by
  rw [hx]
  exact g.pushColorChecked_eq hshift

theorem depthCueChecked_eq {color : Vec} (hcolor : Within 0xff color) :
    g.depthCueChecked color = .ok (g.depthCue color) := by
  have hbase (lane : Fin 3) : Yields (Checked.shl .int64 (pure (color lane)) 16)
      (65536 * color lane) (0xff * 2 ^ 16) :=
    ((Yields.of_le (hcolor lane)).shl (by decide) (by decide)).cast (Int.mul_comm ..)
  have hscaled (lane : Fin 3) : Yields (Checked.shl .int64 (pure (color lane)) 4)
      (16 * color lane) (0xff * 2 ^ 4) :=
    ((Yields.of_le (hcolor lane)).shl (by decide) (by decide)).cast (Int.mul_comm ..)
  have hgap (lane : Fin 3) := ((Yields.of_le (g.within_controlVector 21 lane)).sub (hscaled lane)
    (by decide)).eq_ok
  exact bind_pushColorChecked (fadeChecked_eq hbase (by decide) hgap) (by decide)

theorem interpolateChecked_eq : g.interpolateChecked = .ok g.interpolate := by
  have hbase (lane : Fin 3) : Yields (Checked.shl .int64 (pure (g.ir lane)) 12)
      (4096 * g.ir lane) (0x8000 * 2 ^ 12) :=
    ((Yields.of_le (g.within_ir lane)).shl (by decide) (by decide)).cast (Int.mul_comm ..)
  have hgap (lane : Fin 3) := ((Yields.of_le (g.within_controlVector 21 lane)).sub
    (.of_le (g.within_ir lane)) (by decide)).eq_ok
  exact bind_pushColorChecked (fadeChecked_eq hbase (by decide) hgap) (by decide)

theorem normalColorChecked_eq (n : Fin 3) :
    g.normalColorChecked n = .ok (g.normalColor n) := by
  rw [normalColorChecked, lightChecked_eq, Checked.ok_bind]
  exact bind_pushColorChecked (lightColorChecked_eq _) (by decide)

theorem colorColorChecked_eq :
    g.colorColorChecked = .ok (pushColor 4 (modulate (lightColor g))) := by
  rw [colorColorChecked, lightColorChecked_eq, Checked.ok_bind]
  exact bind_pushColorChecked (modulateChecked_eq _) (by decide)

theorem colorDepthChecked_eq :
    g.colorDepthChecked = .ok (pushColor 4 (modulateAndFade (lightColor g))) := by
  rw [colorDepthChecked, lightColorChecked_eq, Checked.ok_bind]
  exact bind_pushColorChecked (modulateAndFadeChecked_eq _) (by decide)

theorem normalColorColorChecked_eq (n : Fin 3) :
    g.normalColorColorChecked n = .ok (g.normalColorColor n) := by
  rw [normalColorColorChecked, lightChecked_eq, Checked.ok_bind]
  exact colorColorChecked_eq _

theorem normalColorDepthChecked_eq (n : Fin 3) :
    g.normalColorDepthChecked n = .ok (g.normalColorDepth n) := by
  rw [normalColorDepthChecked, lightChecked_eq, Checked.ok_bind]
  exact colorDepthChecked_eq _

theorem yields_scaled (lane : Fin 3) :
    Yields (Checked.mul .int64 (pure g.ir0) (pure (g.ir lane))) (g.ir0 * g.ir lane) 0x40000000 :=
  (Yields.of_le (natAbs_lowSigned _)).mul (.of_le (g.within_ir lane)) (by decide)

theorem scaleIrChecked_eq {shift : Nat} (hshift : shift < 64) :
    g.scaleIrChecked shift = .ok (g.scaleIr shift) := by
  have hlane (lane : Fin 3) := ((g.yields_scaled lane).shr (t := .int64) hshift).eq_ok
  exact bind_pushColorChecked (g.setLanesChecked_eq hlane) (by decide)

theorem scaleIrOntoMacChecked_eq {shift : Nat} (hshift : shift ≤ 12) :
    g.scaleIrOntoMacChecked shift = .ok (g.scaleIrOntoMac shift) := by
  have hpow : 2 ^ shift ≤ 2 ^ 12 := Nat.pow_le_pow_right (by decide) hshift
  have hbase (lane : Fin 3) : Yields (Checked.shl .int64 (pure (g.mac lane)) shift)
      (g.mac lane <<< shift) (0x80000000 * 2 ^ shift) :=
    ((Yields.of_le (g.within_mac lane)).shl (by omega) (by omega)).cast
      (Int.shiftLeft_eq _ _).symm
  have hlane (lane : Fin 3) := (((hbase lane).add (g.yields_scaled lane) (by omega)).shr
    (t := .int64) (k := shift) (Nat.lt_of_le_of_lt hshift (by decide))).eq_ok
  exact bind_pushColorChecked (g.setLanesChecked_eq hlane) (by decide)

end R3000A.Geometry
