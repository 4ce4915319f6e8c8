import R3000A.Word

/-!
# Flags of the geometry engine

Every command starts with a clear flag register, and each range check on the way records a value
that did not fit. Bit 31 sums up the flags in `errors`. The lanes of a vector are numbered 0 to 2;
the flags of lane `n` stand `n` bits below those of lane 0.
-/

namespace R3000A.Geometry.Flag

def error : Word := 0x80000000

/-- MAC1, MAC2 or MAC3 was above the signed 32-bit range. -/
def macOverflow (lane : Fin 3) : Word := 0x40000000 >>> UInt32.ofNat lane

def macUnderflow (lane : Fin 3) : Word := 0x08000000 >>> UInt32.ofNat lane

def irSaturated (lane : Fin 3) : Word := 0x01000000 >>> UInt32.ofNat lane

def colorSaturated (lane : Fin 3) : Word := 0x00200000 >>> UInt32.ofNat lane

def depthSaturated : Word := 0x00040000

/-- The projection had to push a point away from the eye. -/
def divideOverflow : Word := 0x00020000

def mac0Overflow : Word := 0x00010000

def mac0Underflow : Word := 0x00008000

def screenXSaturated : Word := 0x00004000

def screenYSaturated : Word := 0x00002000

def ir0Saturated : Word := 0x00001000

/-- The flags summed up in `error`. -/
def errors : Word := 0x7f87e000

def named : List (String × Word) :=
  [("ERROR", error),
   ("MAC1_OVERFLOW", macOverflow 0), ("MAC2_OVERFLOW", macOverflow 1),
   ("MAC3_OVERFLOW", macOverflow 2),
   ("MAC1_UNDERFLOW", macUnderflow 0), ("MAC2_UNDERFLOW", macUnderflow 1),
   ("MAC3_UNDERFLOW", macUnderflow 2),
   ("IR1_SATURATED", irSaturated 0), ("IR2_SATURATED", irSaturated 1),
   ("IR3_SATURATED", irSaturated 2),
   ("R_SATURATED", colorSaturated 0), ("G_SATURATED", colorSaturated 1),
   ("B_SATURATED", colorSaturated 2),
   ("Z_SATURATED", depthSaturated), ("DIVIDE_OVERFLOW", divideOverflow),
   ("MAC0_OVERFLOW", mac0Overflow), ("MAC0_UNDERFLOW", mac0Underflow),
   ("SX2_SATURATED", screenXSaturated), ("SY2_SATURATED", screenYSaturated),
   ("IR0_SATURATED", ir0Saturated)]

def names (bits : Word) : List String :=
  (named.filter fun (_, flag) => bits &&& flag == flag).map (·.1)

/-- The flags with bit 31 brought up to date. -/
def summarize (bits : Word) : Word := if bits &&& errors != 0 then bits ||| error else bits

end R3000A.Geometry.Flag
