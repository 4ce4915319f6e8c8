import R3000A.Bank
import R3000A.Geometry.Limit

/-!
# Registers of the geometry engine

Coprocessor 2 has a bank of data registers and a bank of control registers, kept as the words that
were written. Programs see some data registers through a view (`readData`) and some writes reach
further than their register (`writeData`); the commands read the lanes they need and push their
results into three queues for depths, screen points and colors.
-/

namespace R3000A

/-- The two register banks of the geometry engine. -/
structure Geometry where
  data : Bank
  control : Bank
  deriving DecidableEq, Repr, Inhabited

namespace Geometry

/-- A vector of exact integers, one for each lane. -/
abbrev Vec := Fin 3 → Int

abbrev Mat := Fin 3 → Fin 3 → Int

def zero : Geometry := ⟨.zero, .zero⟩

/-! ### Register numbers -/

def vertexXyReg (n : Fin 3) : Reg := ⟨2 * n, by omega⟩

def vertexZReg (n : Fin 3) : Reg := ⟨2 * n + 1, by omega⟩

def colorCodeReg : Reg := 6

def averageReg : Reg := 7

def ir0Reg : Reg := 8

def irReg (lane : Fin 3) : Reg := ⟨9 + lane, by omega⟩

def screenReg (n : Fin 3) : Reg := ⟨12 + n, by omega⟩

def depthReg (n : Fin 4) : Reg := ⟨16 + n, by omega⟩

def colorReg (n : Fin 3) : Reg := ⟨20 + n, by omega⟩

def mac0Reg : Reg := 24

def macReg (lane : Fin 3) : Reg := ⟨25 + lane, by omega⟩

def countReg : Reg := 31

def offsetXReg : Reg := 24

def offsetYReg : Reg := 25

def planeReg : Reg := 26

def cueSlopeReg : Reg := 27

def cueOffsetReg : Reg := 28

def scale3Reg : Reg := 29

def scale4Reg : Reg := 30

def flagReg : Reg := 31

/-! ### What programs read and write -/

/-- The color packed from the stored words of IR1, IR2 and IR3, five bits each. -/
def packedColor (g : Geometry) : Word :=
  let red : Word := (g.data.read (irReg 0) >>> 7) &&& 0x1f
  let green : Word := (g.data.read (irReg 1) >>> 2) &&& 0x3e0
  let blue : Word := (g.data.read (irReg 2) <<< 3) &&& 0x7c00
  red ||| green ||| blue

/-- What a program reads from data register `r`. The Z coordinates and IR0 to IR3 are signed
halves, depths are unsigned halves, register 15 shows the newest screen point and register 29 the
packed color. -/
def readData (g : Geometry) (r : Reg) : Word :=
  match r.val with
  | 1 | 3 | 5 | 8 | 9 | 10 | 11 => (g.data.read r).extendHalf
  | 7 | 16 | 17 | 18 | 19 => g.data.read r &&& 0xffff
  | 15 => g.data.read (screenReg 2)
  | 29 => g.packedColor
  | _ => g.data.read r

def leadingZeros (w : Word) : Nat := if w = 0 then 32 else 31 - w.toNat.log2

/-- The number of leading bits that equal the sign bit. -/
def leadingSigns (w : Word) : Nat := if w.bit 31 then leadingZeros (~~~w) else leadingZeros w

def pushScreen (g : Geometry) (xy : Word) : Geometry :=
  { g with
    data := ((g.data.write (screenReg 0) (g.data.read (screenReg 1))).write (screenReg 1)
      (g.data.read (screenReg 2))).write (screenReg 2) xy }

/-- The registers after a program has written `v` into data register `r`. A write to register 15
pushes the screen queue, one to register 28 spreads a packed color over IR1 to IR3, and one to
register 30 counts leading bits. -/
def writeData (g : Geometry) (r : Reg) (v : Word) : Geometry :=
  let g := { g with data := g.data.write r v }
  match r.val with
  | 15 => g.pushScreen v
  | 28 =>
    { g with
      data := ((g.data.write (irReg 0) ((v &&& 0x1f) <<< 4)).write (irReg 1)
        ((v &&& 0x3e0) >>> 1)).write (irReg 2) ((v &&& 0x7c00) >>> 6) }
  | 30 => { g with data := g.data.write countReg (UInt32.ofNat (leadingSigns v)) }
  | _ => g

def readControl (g : Geometry) (r : Reg) : Word := g.control.read r

def writeControl (g : Geometry) (r : Reg) (v : Word) : Geometry :=
  { g with control := g.control.write r v }

/-! ### Flags -/

def flags (g : Geometry) : Word := g.control.read flagReg

def setFlags (g : Geometry) (bits : Word) : Geometry :=
  { g with control := g.control.write flagReg bits }

def raise (g : Geometry) (bits : Word) : Geometry := g.setFlags (g.flags ||| bits)

def raiseLanes (g : Geometry) (bits : Fin 3 → Word) : Geometry :=
  g.raise (bits 0 ||| bits 1 ||| bits 2)

/-! ### What commands read -/

def vertex (g : Geometry) (n : Fin 3) : Vec
  | 0 => (g.data.read (vertexXyReg n)).lowSigned
  | 1 => (g.data.read (vertexXyReg n)).highSigned
  | 2 => (g.data.read (vertexZReg n)).lowSigned

def ir0 (g : Geometry) : Int := (g.data.read ir0Reg).lowSigned

def ir (g : Geometry) : Vec := fun lane => (g.data.read (irReg lane)).lowSigned

def mac (g : Geometry) : Vec := fun lane => (g.data.read (macReg lane)).signed

def components (w : Word) : Vec
  | 0 => (w.byte 0).toNat
  | 1 => (w.byte 1).toNat
  | 2 => (w.byte 2).toNat

def color (g : Geometry) : Vec := components (g.data.read colorCodeReg)

def oldestColor (g : Geometry) : Vec := components (g.data.read (colorReg 0))

def code (g : Geometry) : UInt8 := (g.data.read colorCodeReg).byte 3

def depth (g : Geometry) (n : Fin 4) : Nat := (g.data.read (depthReg n)).lowUnsigned

def screenX (g : Geometry) (n : Fin 3) : Int := (g.data.read (screenReg n)).lowSigned

def screenY (g : Geometry) (n : Fin 3) : Int := (g.data.read (screenReg n)).highSigned

/-- The matrix packed row by row, two entries to a register, from control register `base` on. -/
def packedMatrix (g : Geometry) (base : Fin 24) : Mat := fun row column =>
  let k := 3 * row.val + column.val
  let w := g.control.read ⟨base + k / 2, by omega⟩
  if k % 2 = 0 then w.lowSigned else w.highSigned

def controlVector (g : Geometry) (base : Fin 24) : Vec := fun lane =>
  (g.control.read ⟨base + lane, by omega⟩).signed

def rotation (g : Geometry) : Mat := g.packedMatrix 0

def lights (g : Geometry) : Mat := g.packedMatrix 8

def lightColors (g : Geometry) : Mat := g.packedMatrix 16

def translation (g : Geometry) : Vec := g.controlVector 5

def background (g : Geometry) : Vec := g.controlVector 13

def farColor (g : Geometry) : Vec := g.controlVector 21

def plane (g : Geometry) : Nat := (g.control.read planeReg).lowUnsigned

def offsetX (g : Geometry) : Int := (g.control.read offsetXReg).signed

def offsetY (g : Geometry) : Int := (g.control.read offsetYReg).signed

def cueSlope (g : Geometry) : Int := (g.control.read cueSlopeReg).lowSigned

def cueOffset (g : Geometry) : Int := (g.control.read cueOffsetReg).signed

def scale3 (g : Geometry) : Int := (g.control.read scale3Reg).lowSigned

def scale4 (g : Geometry) : Int := (g.control.read scale4Reg).lowSigned

/-! ### What commands write -/

/-- The registers with the low 32 bits of `v` in MAC0, and the flag of a `v` that needs more. -/
def setMac0 (g : Geometry) (v : Int) : Geometry :=
  { g with data := g.data.write mac0Reg (Word.ofInt v) }.raise (mac0Flag v)

def setIr0 (g : Geometry) (v : Int) : Geometry :=
  { g with data := g.data.write ir0Reg (Word.ofInt (clampIr0 v)) }.raise (ir0Flag v)

/-- The registers with `v` in one MAC lane and its clamped form in the IR of the lane. The value is
cut to 32 bits before it is clamped. -/
def setLane (positive : Bool) (g : Geometry) (lane : Fin 3) (v : Int) : Geometry :=
  let kept := (Word.ofInt v).signed
  { g with
    data := (g.data.write (macReg lane) (Word.ofInt v)).write (irReg lane)
      (Word.ofInt (clampIr positive kept)) }.raise
    (macFlag lane v ||| irFlag positive lane kept)

def setLanes (positive : Bool) (g : Geometry) (v : Vec) : Geometry :=
  setLane positive (setLane positive (setLane positive g 0 (v 0)) 1 (v 1)) 2 (v 2)

/-- The depth queue moved on by one, with `z` as the newest entry. Only the low halves move. -/
def pushDepth (g : Geometry) (z : UInt16) : Geometry :=
  let next (n : Fin 4) (half : UInt16) : Word := (g.data.read (depthReg n)).withLow half
  { g with
    data := (((g.data.write (depthReg 0) (next 0 (g.data.read (depthReg 1)).toUInt16)).write
      (depthReg 1) (next 1 (g.data.read (depthReg 2)).toUInt16)).write
      (depthReg 2) (next 2 (g.data.read (depthReg 3)).toUInt16)).write
      (depthReg 3) (next 3 z) }

/-- The color queue moved on by one. The newest entry is MAC1 to MAC3 without their lowest `shift`
bits, clamped, with the current code. -/
def pushColor (shift : Nat) (g : Geometry) : Geometry :=
  let value : Vec := fun lane => g.mac lane >>> shift
  let entry := Word.ofBytes
    [UInt8.ofNat (clampColor (value 0)).toNat, UInt8.ofNat (clampColor (value 1)).toNat,
      UInt8.ofNat (clampColor (value 2)).toNat, g.code]
  { g with
    data := ((g.data.write (colorReg 0) (g.data.read (colorReg 1))).write (colorReg 1)
      (g.data.read (colorReg 2))).write (colorReg 2) entry }.raiseLanes
    fun lane => colorFlag lane (value lane)

end Geometry

end R3000A
