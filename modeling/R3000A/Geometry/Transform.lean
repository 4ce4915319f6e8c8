import R3000A.Geometry.Registers

/-!
# Products, projection and averages

The commands that work on coordinates. A product of a matrix and a vector is exact until its low
bits are dropped, which rounds toward negative infinity. The projection divides the distance of
the projection plane by the depth of the point; a point nearer than half that distance is treated
as if it stood there.
-/

namespace R3000A.Geometry

def dot (a b : Vec) : Int := a 0 * b 0 + a 1 * b 1 + a 2 * b 2

/-- `4096 * c + m * v` row by row, without the lowest `shift` bits. -/
def product (shift : Nat) (m : Mat) (v c : Vec) : Vec := fun row =>
  (4096 * c row + dot (m row) v) >>> shift

def divisor (h z : Nat) : Nat := if z ≤ h / 2 then max 1 (h / 2) else z

/-- The flag of a point that is too near to the eye. -/
def divisorFlag (h z : Nat) : Word := if z ≤ h / 2 then Flag.divideOverflow else 0

/-- The scale of a point at depth `z`, with sixteen fraction bits. -/
def perspective (h z : Nat) : Nat := h * 65536 / divisor h z

/-- The screen point and the depth cue of a point at depth `z` whose rotated coordinates are in IR1
to IR3. -/
def projectPoint (g : Geometry) (z : Nat) : Geometry :=
  let f : Int := perspective g.plane z
  let x := g.offsetX + g.ir 0 * f
  let y := g.offsetY + g.ir 1 * f
  let cue := g.cueOffset + g.cueSlope * f
  let point := Word.ofHalves (Word.ofInt (clampScreen (x / 65536))).toUInt16
    (Word.ofInt (clampScreen (y / 65536))).toUInt16
  let shown := (g.pushScreen point).raise (divisorFlag g.plane z ||| mac0Flag x |||
    screenXFlag (x / 65536) ||| mac0Flag y ||| screenYFlag (y / 65536))
  let cued := shown.setMac0 cue
  cued.setIr0 ((Word.ofInt cue).signed / 4096)

def project (n : Fin 3) (g : Geometry) : Geometry :=
  let moved := g.setLanes false (product 12 g.rotation (g.vertex n) g.translation)
  let z := moved.mac 2
  let queued := (moved.pushDepth (UInt16.ofNat (clampDepth z).toNat)).raise (depthFlag z)
  queued.projectPoint (clampDepth z).toNat

/-- Twice the signed area of the triangle of the three points in the screen queue. -/
def winding (g : Geometry) : Int :=
  g.screenX 0 * g.screenY 1 + g.screenX 1 * g.screenY 2 + g.screenX 2 * g.screenY 0 -
    g.screenX 0 * g.screenY 2 - g.screenX 1 * g.screenY 0 - g.screenX 2 * g.screenY 1

/-- The cross product of the diagonal of the rotation matrix with IR. -/
def outerProduct (shift : Nat) (g : Geometry) : Geometry :=
  let d : Vec := fun lane => g.rotation lane lane
  let v := g.ir
  g.setLanes false fun
    | 0 => (d 1 * v 2 - d 2 * v 1) >>> shift
    | 1 => (d 2 * v 0 - d 0 * v 2) >>> shift
    | 2 => (d 0 * v 1 - d 1 * v 0) >>> shift

def square (shift : Nat) (g : Geometry) : Geometry :=
  let v := g.ir
  g.setLanes true fun lane => (v lane * v lane) >>> shift

def average (scale sum : Int) (g : Geometry) : Geometry :=
  let total := scale * sum
  let z := (Word.ofInt total).signed / 4096
  let stored := g.setMac0 total
  { stored with
    data := stored.data.write averageReg (Word.ofInt (clampDepth z)) }.raise (depthFlag z)

def depthSum3 (g : Geometry) : Int := g.depth 1 + g.depth 2 + g.depth 3

def depthSum4 (g : Geometry) : Int := g.depth 0 + g.depth 1 + g.depth 2 + g.depth 3

end R3000A.Geometry
