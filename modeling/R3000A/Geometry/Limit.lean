import R3000A.Geometry.Flag

/-!
# Range checks of the geometry engine

The engine computes over exact integers. Each kind of result has a range; `clamp` brings a value
into it and `outside` is the flag that says so. A MAC value is not clamped: it keeps its low 32
bits, and its flag tells on which side it left the range.
-/

namespace R3000A.Geometry

def clamp (lo hi v : Int) : Int := if v < lo then lo else if hi < v then hi else v

/-- `flag` if `v` is not between `lo` and `hi`, and no flag otherwise. -/
def outside (lo hi : Int) (flag : Word) (v : Int) : Word := if v < lo ∨ hi < v then flag else 0

theorem le_clamp {lo hi : Int} (h : lo ≤ hi) (v : Int) : lo ≤ clamp lo hi v := by
  grind [clamp]

theorem clamp_le {lo hi : Int} (h : lo ≤ hi) (v : Int) : clamp lo hi v ≤ hi := by
  grind [clamp]

/-- The flag of a value that leaves the signed 32-bit range: `above` or `below`. -/
def overflow (above below : Word) (v : Int) : Word :=
  if 0x7fffffff < v then above else if v < -0x80000000 then below else 0

/-! ### The ranges of the results

The clamped form of each kind of result and the flag of one that had to be clamped. Sums on their
way into MAC keep their low bits instead. -/

def macFlag (lane : Fin 3) (v : Int) : Word :=
  overflow (Flag.macOverflow lane) (Flag.macUnderflow lane) v

def mac0Flag (v : Int) : Word := overflow Flag.mac0Overflow Flag.mac0Underflow v

/-- The least value of IR1, IR2 and IR3: zero if only `positive` values are wanted. -/
def irMin (positive : Bool) : Int := if positive then 0 else -0x8000

def clampIr (positive : Bool) (v : Int) : Int := clamp (irMin positive) 0x7fff v

def irFlag (positive : Bool) (lane : Fin 3) (v : Int) : Word :=
  outside (irMin positive) 0x7fff (Flag.irSaturated lane) v

def clampColor (v : Int) : Int := clamp 0 0xff v

def colorFlag (lane : Fin 3) (v : Int) : Word := outside 0 0xff (Flag.colorSaturated lane) v

def clampDepth (v : Int) : Int := clamp 0 0xffff v

def depthFlag (v : Int) : Word := outside 0 0xffff Flag.depthSaturated v

def clampScreen (v : Int) : Int := clamp (-0x400) 0x3ff v

def screenXFlag (v : Int) : Word := outside (-0x400) 0x3ff Flag.screenXSaturated v

def screenYFlag (v : Int) : Word := outside (-0x400) 0x3ff Flag.screenYSaturated v

def clampIr0 (v : Int) : Int := clamp 0 0x1000 v

def ir0Flag (v : Int) : Word := outside 0 0x1000 Flag.ir0Saturated v

end R3000A.Geometry
