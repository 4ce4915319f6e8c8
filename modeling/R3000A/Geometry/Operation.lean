import R3000A.Word

/-!
# Commands of the geometry engine

A command word has 25 bits. Most commands are accepted in one fixed encoding only, the rest by their
function and operation code with some fields free. `Operation.ofWord?` reads a word; words that no
software uses are no operation.
-/

namespace R3000A.Geometry

/-- The matrix that a general product multiplies by. -/
inductive MatrixChoice where
  | rotation
  | lights
  | lightColors
  | zero
  deriving DecidableEq, Repr

/-- The vector that a general product multiplies. -/
inductive VectorChoice where
  | vertex (n : Fin 3)
  | ir
  deriving DecidableEq, Repr

/-- The vector that a general product adds. -/
inductive AddendChoice where
  | translation
  | background
  | farColor
  | zero
  deriving DecidableEq, Repr

/-- The commands. `shift` is the number of fraction bits dropped from the results. -/
inductive Operation where
  /-- Perspective transformation of vertex 0. -/
  | rtps
  /-- Perspective transformation of all three vertices. -/
  | rtpt
  /-- Winding of the three points in the screen queue. -/
  | nclip
  /-- Outer product of IR and the diagonal of the rotation matrix. -/
  | op (shift : Nat)
  /-- Depth cueing of the given color. -/
  | dpcs
  /-- Depth cueing of the colors in the queue. -/
  | dpct
  /-- Interpolation between IR and the far color. -/
  | intpl
  | mvmva (shift : Nat) (matrix : MatrixChoice) (vector : VectorChoice) (addend : AddendChoice)
      (positive : Bool)
  /-- Color of a normal. -/
  | ncs
  /-- Colors of three normals. -/
  | nct
  /-- Color of a normal, modulated by the given color. -/
  | nccs
  /-- Colors of three normals, modulated by the given color. -/
  | ncct
  /-- Color of a normal, modulated by the given color, with depth cueing. -/
  | ncds
  /-- Colors of three normals, modulated by the given color, with depth cueing. -/
  | ncdt
  /-- Color of IR, modulated by the given color. -/
  | cc
  /-- Color of IR, modulated by the given color, with depth cueing. -/
  | cdp
  /-- Square of IR. -/
  | sqr (shift : Nat)
  /-- Average of three depths. -/
  | avsz3
  /-- Average of four depths. -/
  | avsz4
  /-- Product of IR0 and IR. -/
  | gpf (shift : Nat)
  /-- Product of IR0 and IR, plus MAC. -/
  | gpl (shift : Nat)
  deriving DecidableEq, Repr

namespace Operation

/-- The commands that are accepted in fixed encodings. -/
def fixed : List (Word × Operation) :=
  [(0x0180001, rtps), (0x0280030, rtpt), (0x0400006, nclip), (0x1400006, nclip),
   (0x0155cc6, nclip), (0x0780010, dpcs), (0x0f8002a, dpct), (0x0980011, intpl),
   (0x0c8041e, ncs), (0x0d80420, nct), (0x108041b, nccs), (0x108043f, ncct), (0x118043f, ncct),
   (0x0e80413, ncds), (0x0f80416, ncdt), (0x138041c, cc), (0x1280414, cdp), (0x158002d, avsz3),
   (0x168002e, avsz4)]

def commandBits (w : Word) : Word := w &&& 0x1ffffff

/-- The fraction bits dropped by a command: twelve if bit 19 is set. -/
def shiftOf (w : Word) : Nat := if w.bit 19 then 12 else 0

def matrixOf (w : Word) : MatrixChoice :=
  match w.bit 18, w.bit 17 with
  | false, false => .rotation
  | false, true => .lights
  | true, false => .lightColors
  | true, true => .zero

def vectorOf (w : Word) : VectorChoice :=
  match w.bit 16, w.bit 15 with
  | false, false => .vertex 0
  | false, true => .vertex 1
  | true, false => .vertex 2
  | true, true => .ir

def addendOf (w : Word) : AddendChoice :=
  match w.bit 14, w.bit 13 with
  | false, false => .translation
  | false, true => .background
  | true, false => .farColor
  | true, true => .zero

/-- The commands that are told apart by their function (bits 5 to 0) and operation code
(bits 24 to 20). -/
def general? (w : Word) : Option Operation :=
  match (w &&& 0x3f).toNat, ((w >>> 20) &&& 0x1f).toNat with
  | 0x0c, 0x17 => some (op (shiftOf w))
  | 0x12, 0x04 => some (mvmva (shiftOf w) (matrixOf w) (vectorOf w) (addendOf w) (w.bit 10))
  | 0x28, 0x0a => if w.bit 10 then some (sqr (shiftOf w)) else none
  | 0x3d, 0x09 => some (gpf (shiftOf w))
  | 0x3d, 0x19 => some (gpf (shiftOf w))
  | 0x3e, 0x1a => some (gpl (shiftOf w))
  | _, _ => none

def ofWord? (w : Word) : Option Operation :=
  (fixed.lookup (commandBits w)).or (general? w)

end Operation

end R3000A.Geometry
