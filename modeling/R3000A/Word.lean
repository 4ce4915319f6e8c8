/-!
# Machine words

A word is 32 bits without a sign. Arithmetic that the hardware carries out on signed numbers goes
through the exact integers: `Word.signed` reads a word in two's complement, `Word.ofInt` keeps the
low 32 bits of an integer, and whatever happens between the two cannot overflow. The halves and
bytes of a word are read the same way.
-/

namespace R3000A

/-- A 32-bit machine word. -/
abbrev Word := UInt32

/-! ### Counts of small index types

Bytes of a word, lanes of a vector and registers of a bank are numbered by `Fin`. These instances
let their numbers be written as literals, and come before any other so that a literal is the same
term wherever it stands. -/

/-- There is a first lane. -/
instance (priority := 2000) laneCount : @NeZero Nat Zero.ofOfNat0 3 := ⟨by decide⟩

/-- There is a first byte. -/
instance (priority := 2000) byteCount : @NeZero Nat Zero.ofOfNat0 4 := ⟨by decide⟩

/-- There is a first register. -/
instance (priority := 2000) registerCount : @NeZero Nat Zero.ofOfNat0 32 := ⟨by decide⟩

namespace Word

/-- The value of a word read as a two's complement number. -/
def signed (w : Word) : Int := w.toInt32.toInt

/-- The low 32 bits of an integer. -/
def ofInt (v : Int) : Word := UInt32.ofInt v

def lowSigned (w : Word) : Int := w.toUInt16.toInt16.toInt

def highSigned (w : Word) : Int := (w >>> 16).toUInt16.toInt16.toInt

def lowUnsigned (w : Word) : Nat := w.toUInt16.toNat

def withLow (w : Word) (half : UInt16) : Word := (w &&& 0xffff0000) ||| half.toUInt32

def ofHalves (low high : UInt16) : Word := low.toUInt32 ||| (high.toUInt32 <<< 16)

/-- Byte `i` of a word, counted from the least significant one. -/
def byte (w : Word) (i : Fin 4) : UInt8 := (w >>> (8 * UInt32.ofNat i)).toUInt8

/-- The word whose bytes, least significant first, are `bs`. -/
def ofBytes : List UInt8 → Word
  | [] => 0
  | b :: bs => b.toUInt32 ||| (ofBytes bs <<< 8)

def toBytes (w : Word) : List UInt8 := [w.byte 0, w.byte 1, w.byte 2, w.byte 3]

/-- The low byte repeated through its sign bit. -/
def extendByte (w : Word) : Word := ofInt w.toUInt8.toInt8.toInt

def extendHalf (w : Word) : Word := ofInt w.lowSigned

def bit (w : Word) (n : Nat) : Bool := w &&& ((1 : Word) <<< UInt32.ofNat n) != 0

/-- The five-bit field whose lowest bit is bit `n`. -/
def field5 (w : Word) (n : Nat) : Fin 32 := Fin.ofNat 32 (w.toNat >>> n)

def ofBool (b : Bool) : Word := if b then 1 else 0

end Word

end R3000A
