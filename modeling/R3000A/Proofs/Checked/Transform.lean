import R3000A.Proofs.Checked.Geometry

/-!
# Checked products, projection and averages

The sums and products of coordinates stay far from the ends of 64 bits. The projection divides in
32 bits: the divisor is never zero, and because a near point counts as one at half the distance of
the projection plane, the quotient is at most three, with sixteen fraction bits. Three is reached
where that distance is three and its half is rounded down to one. In 64 bits, if nothing else is
said, the following is checked:

* `dotChecked`: the three products and their sum, which starts at zero.
* `productChecked`: the shift of the addend to the left, the sum, and the shift to the right.
* `perspectiveChecked`: the half of the distance of the plane in 16 bits, the shift of the distance
  to the left and the quotient in 32 bits.
* `projectedChecked`: the product and the sum.
* `screenPointChecked`: the shift of the row to the left, in 32 bits.
* `projectPointChecked`: the shifts of the column, the row and the depth cue to the right.
* `windingChecked`: the six products, the two sums and the three differences.
* `outerProductChecked`, `squareChecked`: in each lane the products, the difference if there is one,
  and the shift to the right.
* `depthSumChecked`, `averageChecked`: the sum, which starts at zero, the product with the scale,
  and the shift to the right.

`projectChecked` adds nothing to what it is put together from. What has been clamped is cut to the
bits of its register without a check.
-/

namespace R3000A.Geometry

open Checked (Yields)

/-! ### Products -/

def dotChecked (a b : Vec) : Checked Int :=
  Checked.sum .int64 [0, 1, 2] fun lane => Checked.mul .int64 (pure (a lane)) (pure (b lane))

def productChecked (shift : Nat) (m : Mat) (v c : Vec) (row : Fin 3) : Checked Int :=
  Checked.shr .int64
    (Checked.add .int64 (Checked.shl .int64 (pure (c row)) 12) (dotChecked (m row) v)) shift

theorem yields_dotChecked {a b : Vec} (ha : Within 0x8000 a) (hb : Within 0x8000 b) :
    Yields (dotChecked a b) (dot a b) (0x40000000 * 3) := by
  have hterm (lane : Fin 3) : Yields (Checked.mul .int64 (pure (a lane)) (pure (b lane)))
      (a lane * b lane) 0x40000000 :=
    (Yields.of_le (ha lane)).mul (.of_le (hb lane)) (by decide)
  have hsum := Yields.sum hterm [0, 1, 2] (by decide)
  refine hsum.cast ?_
  simp only [List.map_cons, List.map_nil, List.sum_cons, List.sum_nil, dot]
  omega

theorem productChecked_eq {shift : Nat} {m : Mat} {v c : Vec} (hshift : shift < 64)
    (hm : MatWithin 0x8000 m) (hv : Within 0x8000 v) (hc : Within 0x80000000 c) (row : Fin 3) :
    productChecked shift m v c row = .ok (product shift m v c row) := by
  have hbase : Yields (Checked.shl .int64 (pure (c row)) 12) (4096 * c row) (0x80000000 * 2 ^ 12) :=
    ((Yields.of_le (hc row)).shl (by decide) (by decide)).cast (Int.mul_comm ..)
  exact ((hbase.add (yields_dotChecked (hm row) hv) (by decide)).shr (t := .int64) hshift).eq_ok

/-! ### The scale of the projection -/

theorem divisor_pos (h z : Nat) : 0 < divisor h z := by
  grind [divisor]

/-- An odd distance of the projection plane counts for almost three times its half. -/
theorem le_three_mul_divisor (h z : Nat) : h ≤ 3 * divisor h z := by
  grind [divisor]

theorem perspective_le (h z : Nat) : perspective h z ≤ 0x30000 := by
  have hplane := le_three_mul_divisor h z
  have hscaled : h * 65536 ≤ divisor h z * 0x30000 := by omega
  exact Nat.div_le_of_le_mul hscaled

example : perspective 3 0 = 0x30000 := rfl

/-- The scale of a point at depth `z`. The half of the distance of the plane is rounded down. -/
def perspectiveChecked (h z : Nat) : Checked Int := do
  let half ← Checked.div .uint16 (pure h) (pure 2)
  let divisor : Int := if z ≤ half then (if half = 0 then 1 else half) else z
  Checked.div .uint32 (Checked.shl .uint32 (pure h) 16) (pure divisor)

theorem perspectiveChecked_eq {h : Nat} (hh : h < 0x10000) (z : Nat) :
    perspectiveChecked h z = .ok (perspective h z) := by
  have hplane : (h : Int) ≤ IntType.uint16.greatest := by
    change _ ≤ (0xffff : Int)
    omega
  have hhalf : Checked.div .uint16 (pure h) (pure 2) = .ok (h / 2 : Nat) :=
    Checked.div_natCast rfl rfl (by decide) hplane
  have hscaled : ((h * 65536 : Nat) : Int) ≤ IntType.uint32.greatest := by
    change _ ≤ (0xffffffff : Int)
    omega
  have hdivisor : (if (z : Int) ≤ (h / 2 : Nat) then
      (if ((h / 2 : Nat) : Int) = 0 then 1 else ((h / 2 : Nat) : Int)) else (z : Int)) =
      (divisor h z : Nat) := by
    grind [divisor]
  rw [perspectiveChecked, hhalf, Checked.ok_bind, perspective]
  refine Checked.div_natCast (Checked.shl_natCast rfl (by decide) hscaled) ?_ (divisor_pos h z)
    hscaled
  exact congrArg Except.ok hdivisor

/-! ### Projection -/

variable (g : Geometry)

/-- A coordinate on the screen or the depth cue, scaled by `f`. -/
def projectedChecked (base factor f : Int) : Checked Int :=
  Checked.add .int64 (pure base) (Checked.mul .int64 (pure factor) (pure f))

def screenPointChecked (column row : Int) : Checked Word := do
  let x := (Word.ofInt (clampScreen column)).toUInt16
  let y := (Word.ofInt (clampScreen row)).toUInt16
  let high ← Checked.shl .uint32 (pure y.toNat) 16
  return x.toUInt32 ||| UInt32.ofNat high.toNat

def projectPointChecked (z : Nat) (g : Geometry) : Checked Geometry := do
  let f ← perspectiveChecked g.plane z
  let x ← projectedChecked g.offsetX (g.ir 0) f
  let column ← Checked.shr .int64 (pure x) 16
  let y ← projectedChecked g.offsetY (g.ir 1) f
  let row ← Checked.shr .int64 (pure y) 16
  let cue ← projectedChecked g.cueOffset g.cueSlope f
  let weight ← Checked.shr .int64 (pure (Word.ofInt cue).signed) 12
  let point ← screenPointChecked column row
  let shown := (g.pushScreen point).raise (divisorFlag g.plane z ||| mac0Flag x |||
    screenXFlag column ||| mac0Flag y ||| screenYFlag row)
  return (shown.setMac0 cue).setIr0 weight

def projectChecked (n : Fin 3) (g : Geometry) : Checked Geometry := do
  let moved ← g.setLanesChecked false (productChecked 12 g.rotation (g.vertex n) g.translation)
  let z := moved.mac 2
  let queued := (moved.pushDepth (UInt16.ofNat (clampDepth z).toNat)).raise (depthFlag z)
  queued.projectPointChecked (clampDepth z).toNat

theorem plane_lt : g.plane < 0x10000 := lowUnsigned_lt _

theorem projectedChecked_eq (base factor : Int) {f : Int} (hbase : base.natAbs ≤ 0x80000000)
    (hfactor : factor.natAbs ≤ 0x8000) (hf : f.natAbs ≤ 0x30000) :
    projectedChecked base factor f = .ok (base + factor * f) :=
  ((Yields.of_le hbase).add ((Yields.of_le hfactor).mul (.of_le hf) (by decide)) (by decide)).eq_ok

/-- A half has room above it in a word. -/
theorem shl_half (half : UInt16) :
    Checked.shl .uint32 (pure (half.toNat : Int)) 16 = .ok (half.toUInt32 <<< 16).toNat := by
  have hlt : half.toNat < 0x10000 := half.toNat_lt
  have hfits : ((half.toNat * 2 ^ 16 : Nat) : Int) ≤ IntType.uint32.greatest := by
    change _ ≤ (0xffffffff : Int)
    omega
  have hshifted : (half.toUInt32 <<< 16).toNat = half.toNat * 2 ^ 16 := by
    rw [UInt32.toNat_shiftLeft, UInt16.toNat_toUInt32, Nat.shiftLeft_eq]
    change half.toNat * 2 ^ 16 % 2 ^ 32 = _
    omega
  rw [hshifted]
  exact Checked.shl_natCast rfl (by decide) hfits

theorem screenPointChecked_eq (column row : Int) :
    screenPointChecked column row =
      .ok (Word.ofHalves (Word.ofInt (clampScreen column)).toUInt16
        (Word.ofInt (clampScreen row)).toUInt16) := by
  rw [screenPointChecked, shl_half, Checked.ok_bind, Int.toNat_natCast, UInt32.ofNat_toNat]
  rfl

theorem projectPointChecked_eq (z : Nat) :
    g.projectPointChecked z = .ok (g.projectPoint z) := by
  have hf : ((perspective g.plane z : Nat) : Int).natAbs ≤ 0x30000 := perspective_le ..
  have hx := projectedChecked_eq g.offsetX (g.ir 0) (natAbs_signed _) (g.within_ir 0) hf
  have hy := projectedChecked_eq g.offsetY (g.ir 1) (natAbs_signed _) (g.within_ir 1) hf
  have hcue := projectedChecked_eq g.cueOffset g.cueSlope (natAbs_signed _) (natAbs_lowSigned _) hf
  rw [projectPointChecked, perspectiveChecked_eq g.plane_lt, Checked.ok_bind,
    hx, Checked.ok_bind, Checked.shr_pure _ (by decide), Checked.ok_bind,
    hy, Checked.ok_bind, Checked.shr_pure _ (by decide), Checked.ok_bind,
    hcue, Checked.ok_bind, Checked.shr_pure _ (by decide), Checked.ok_bind,
    screenPointChecked_eq, Checked.ok_bind]
  rfl

theorem projectChecked_eq (n : Fin 3) : g.projectChecked n = .ok (g.project n) := by
  have hrotated := productChecked_eq (by decide : 12 < 64) (g.within_packedMatrix 0)
    (g.within_vertex n) (g.within_controlVector 5)
  rw [projectChecked]
  refine (congrArg (· >>= _) (g.setLanesChecked_eq hrotated)).trans ?_
  exact projectPointChecked_eq _ _

/-! ### Other products and averages -/

def windingChecked (g : Geometry) : Checked Int :=
  let term (m n : Fin 3) : Checked Int :=
    Checked.mul .int64 (pure (g.screenX m)) (pure (g.screenY n))
  Checked.sub .int64 (Checked.sub .int64 (Checked.sub .int64
    (Checked.add .int64 (Checked.add .int64 (term 0 1) (term 1 2)) (term 2 0))
    (term 0 2)) (term 1 0)) (term 2 1)

def outerProductChecked (shift : Nat) (g : Geometry) : Checked Geometry :=
  let d : Vec := fun lane => g.rotation lane lane
  let v := g.ir
  let entry (m n : Fin 3) : Checked Int :=
    Checked.shr .int64 (Checked.sub .int64 (Checked.mul .int64 (pure (d m)) (pure (v n)))
      (Checked.mul .int64 (pure (d n)) (pure (v m)))) shift
  g.setLanesChecked false fun
    | 0 => entry 1 2
    | 1 => entry 2 0
    | 2 => entry 0 1

def squareChecked (shift : Nat) (g : Geometry) : Checked Geometry :=
  let v := g.ir
  g.setLanesChecked true fun lane =>
    Checked.shr .int64 (Checked.mul .int64 (pure (v lane)) (pure (v lane))) shift

def averageChecked (scale : Int) (sum : Checked Int) (g : Geometry) : Checked Geometry := do
  let total ← Checked.mul .int64 (pure scale) sum
  let z ← Checked.shr .int64 (pure (Word.ofInt total).signed) 12
  let stored := g.setMac0 total
  return { stored with
    data := stored.data.write averageReg (Word.ofInt (clampDepth z)) }.raise (depthFlag z)

def depthSumChecked (ns : List (Fin 4)) (g : Geometry) : Checked Int :=
  Checked.sum .int64 ns fun n => pure (g.depth n)

theorem windingChecked_eq : g.windingChecked = .ok g.winding := by
  have hterm (m n : Fin 3) : Yields (Checked.mul .int64 (pure (g.screenX m)) (pure (g.screenY n)))
      (g.screenX m * g.screenY n) 0x40000000 :=
    (Yields.of_le (natAbs_lowSigned _)).mul (.of_le (natAbs_highSigned _)) (by decide)
  have hsum := ((hterm 0 1).add (hterm 1 2) (by decide)).add (hterm 2 0) (by decide)
  exact (((hsum.sub (hterm 0 2) (by decide)).sub (hterm 1 0) (by decide)).sub (hterm 2 1)
    (by decide)).eq_ok

theorem outerProductChecked_eq {shift : Nat} (hshift : shift < 64) :
    g.outerProductChecked shift = .ok (g.outerProduct shift) := by
  have hterm (m n : Fin 3) :
      Yields (Checked.mul .int64 (pure (g.rotation m m)) (pure (g.ir n)))
        (g.rotation m m * g.ir n) 0x40000000 :=
    (Yields.of_le (g.within_packedMatrix 0 m m)).mul (.of_le (g.within_ir n)) (by decide)
  have hentry (m n : Fin 3) :=
    (((hterm m n).sub (hterm n m) (by decide)).shr (t := .int64) hshift).eq_ok
  rw [outerProductChecked, outerProduct]
  exact g.setLanesChecked_eq (forall_lanes (hentry 1 2) (hentry 2 0) (hentry 0 1))

theorem squareChecked_eq {shift : Nat} (hshift : shift < 64) :
    g.squareChecked shift = .ok (g.square shift) := by
  have hlane (lane : Fin 3) := (((Yields.of_le (g.within_ir lane)).mul
    (.of_le (g.within_ir lane)) (by decide)).shr (t := .int64) hshift).eq_ok
  rw [squareChecked, square]
  exact g.setLanesChecked_eq hlane

theorem averageChecked_eq {scale sum : Int} {x : Checked Int} (hscale : scale.natAbs ≤ 0x8000)
    (hsum : Yields x sum 0x40000) : g.averageChecked scale x = .ok (g.average scale sum) := by
  have htotal := ((Yields.of_le hscale).mul hsum (by decide)).eq_ok
  rw [averageChecked, htotal, Checked.ok_bind, Checked.shr_pure _ (by decide)]
  rfl

theorem yields_depthSumChecked {ns : List (Fin 4)} (hns : ns.length ≤ 4) :
    Yields (g.depthSumChecked ns) (ns.map fun n => (g.depth n : Int)).sum 0x40000 := by
  have hterm (n : Fin 4) : Yields (pure (g.depth n : Int)) (g.depth n) 0x10000 :=
    .of_le (Nat.le_of_lt (lowUnsigned_lt _))
  have hsum := Yields.sum hterm ns (by omega)
  exact ⟨hsum.eq_ok, Nat.le_trans hsum.bound (by omega)⟩

end R3000A.Geometry
