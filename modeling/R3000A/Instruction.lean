import R3000A.Bank

/-!
# Instructions

The instructions by what they do. Forms that differ in where an operand comes from only are one
constructor: ADDI is an `alu` instruction like ADD, with an immediate operand.
-/

namespace R3000A

/-- The operations of the arithmetic and logic unit. -/
inductive AluOp where
  /-- Addition that reports overflow. -/
  | add
  /-- Addition modulo 2 ^ 32. -/
  | addu
  /-- Subtraction that reports overflow. -/
  | sub
  /-- Subtraction modulo 2 ^ 32. -/
  | subu
  | and
  | or
  | xor
  | nor
  /-- One if the first operand is less than the second as a signed number, else zero. -/
  | slt
  /-- One if the first operand is less than the second as an unsigned number, else zero. -/
  | sltu
  /-- Shift to the left. -/
  | sll
  /-- Shift to the right that brings in zeros. -/
  | srl
  /-- Shift to the right that repeats the sign bit. -/
  | sra
  deriving DecidableEq, Repr

/-- An exact result as a word, if the signed range holds it. -/
def Word.ofInt? (v : Int) : Option Word :=
  if -0x80000000 ≤ v ∧ v ≤ 0x7fffffff then some (Word.ofInt v) else none

/-- The result of an operation, or nothing if it overflows. Shifts use the low five bits of their
second operand as the amount. -/
def AluOp.result? (op : AluOp) (a b : Word) : Option Word :=
  match op with
  | add => Word.ofInt? (a.signed + b.signed)
  | addu => some (a + b)
  | sub => Word.ofInt? (a.signed - b.signed)
  | subu => some (a - b)
  | and => some (a &&& b)
  | or => some (a ||| b)
  | xor => some (a ^^^ b)
  | nor => some (~~~(a ||| b))
  | slt => some (Word.ofBool (decide (a.signed < b.signed)))
  | sltu => some (Word.ofBool (decide (a < b)))
  | sll => some (a <<< (b &&& 0x1f))
  | srl => some (a >>> (b &&& 0x1f))
  | sra => some (Word.ofInt (a.signed >>> (b &&& 0x1f).toNat))

inductive Operand where
  | reg (r : Reg)
  | immediate (v : Word)
  deriving DecidableEq, Repr

def Operand.value (regs : Bank) : Operand → Word
  | reg r => regs.read r
  | immediate v => v

/-- The conditions of branches. -/
inductive Test where
  | eq (rs rt : Reg)
  | ne (rs rt : Reg)
  /-- Not positive. -/
  | lez (rs : Reg)
  /-- Positive. -/
  | gtz (rs : Reg)
  /-- Negative. -/
  | ltz (rs : Reg)
  /-- Not negative. -/
  | gez (rs : Reg)
  deriving DecidableEq, Repr

def Test.holds (regs : Bank) : Test → Bool
  | eq rs rt => regs.read rs == regs.read rt
  | ne rs rt => regs.read rs != regs.read rt
  | lez rs => decide ((regs.read rs).signed ≤ 0)
  | gtz rs => decide (0 < (regs.read rs).signed)
  | ltz rs => decide ((regs.read rs).signed < 0)
  | gez rs => decide (0 ≤ (regs.read rs).signed)

/-- The loads into general purpose registers. -/
inductive LoadOp where
  | byte
  | byteUnsigned
  | half
  | halfUnsigned
  | word
  /-- The bytes of an aligned word from its first to the addressed one, as the most significant
  bytes of the register. -/
  | wordLeft
  /-- The bytes of an aligned word from the addressed one to its last, as the least significant
  bytes of the register. -/
  | wordRight
  deriving DecidableEq, Repr

/-- The stores of general purpose registers. -/
inductive StoreOp where
  | byte
  | half
  | word
  /-- The counterpart of `LoadOp.wordLeft`. -/
  | wordLeft
  /-- The counterpart of `LoadOp.wordRight`. -/
  | wordRight
  deriving DecidableEq, Repr

inductive ControlOp where
  /-- Read control register `rd` into `rt`. -/
  | moveFrom (rt rd : Reg)
  /-- Write `rt` into control register `rd`. -/
  | moveTo (rt rd : Reg)
  /-- Give back the mode that an exception interrupted. -/
  | returnFromException
  /-- A command that is not supported. -/
  | unknownCommand
  /-- A transfer that is not supported. -/
  | unknownMove
  deriving DecidableEq, Repr

inductive GeometryOp where
  | moveFromData (rt rd : Reg)
  | moveFromControl (rt rd : Reg)
  | moveToData (rt rd : Reg)
  | moveToControl (rt rd : Reg)
  /-- Run the command in the low bits of a word. -/
  | command (w : Word)
  /-- A transfer that is not supported. -/
  | unknownMove
  deriving DecidableEq, Repr

/-- The instructions. Addresses are given by a base register and a signed offset. -/
inductive Instruction where
  /-- Combine `rs` and an operand into `rd`. -/
  | alu (op : AluOp) (rd rs : Reg) (operand : Operand)
  /-- Put a constant into `rt`. -/
  | loadUpper (rt : Reg) (v : Word)
  | moveFromHi (rd : Reg)
  | moveFromLo (rd : Reg)
  | moveToHi (rs : Reg)
  | moveToLo (rs : Reg)
  /-- Multiply into HI and LO. -/
  | multiply (signed : Bool) (rs rt : Reg)
  /-- Divide into LO with the remainder in HI. -/
  | divide (signed : Bool) (rs rt : Reg)
  /-- Jump to an address within the current 256 MiB, with the return address in register 31 if
  `link` is true. -/
  | jump (target : Word) (link : Bool)
  /-- Jump to the address in `rs`, with the return address in `link`. -/
  | jumpRegister (rs : Reg) (link : Option Reg)
  /-- Branch by an offset from the delay slot if the condition holds, with the return address in
  register 31 in either case if `link` is true. -/
  | branch (test : Test) (offset : Word) (link : Bool)
  | systemCall
  | breakpoint
  /-- A call that the bus serves. -/
  | hostCall
  /-- A call by number that the bus serves. -/
  | libraryCall (code : UInt16)
  /-- An instruction without effect. -/
  | nothing
  | control (op : ControlOp)
  /-- Any instruction of coprocessor 1, which does not exist. -/
  | coprocessor1
  | geometry (op : GeometryOp)
  | load (op : LoadOp) (rt base : Reg) (offset : Word)
  | store (op : StoreOp) (rt base : Reg) (offset : Word)
  | loadCoprocessor1
  | storeCoprocessor1
  | loadGeometry (rt base : Reg) (offset : Word)
  | storeGeometry (rt base : Reg) (offset : Word)
  | illegal
  deriving DecidableEq, Repr

end R3000A
