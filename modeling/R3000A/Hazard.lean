import R3000A.Bank

/-!
# Delay slots

Two effects of the pipeline are visible to programs: the instruction after a branch still runs, and
a load in such a slot writes its register only after the next instruction. At most one write is
outstanding at any time, so one slot holds it: nothing, a register that a load will write, or the
program counter that a branch will set. Programs of the host see the slot as a number and a value.
The value of an empty slot has no effect but can be read, so it is kept.
-/

namespace R3000A

/-- What is waiting to be written. -/
inductive Pending where
  | none
  /-- A load waits to write a register other than register 0. -/
  | load (r : Reg) (nonzero : r ≠ 0)
  /-- A branch waits to set the program counter. -/
  | branch
  deriving DecidableEq, Repr

namespace Pending

instance : Inhabited Pending := ⟨none⟩

/-- The outcome of scheduling a write to register `r`, which is nothing for register 0. -/
def ofReg (r : Reg) : Pending := if h : r = 0 then none else load r h

/-- The number by which the host knows what is waiting: 0 for nothing, 1 to 31 for a register and
32 for a branch. -/
def number : Pending → Word
  | none => 0
  | load r _ => UInt32.ofNat r
  | branch => 32

def ofNumber? (n : Word) : Option Pending :=
  if h : n.toNat < 32 then some (ofReg ⟨n.toNat, h⟩)
  else if n = 32 then some branch
  else Option.none

end Pending

/-- The outstanding write: what is waiting and with which value. -/
structure Hazard where
  pending : Pending
  value : Word
  deriving DecidableEq, Repr, Inhabited

def Hazard.empty : Hazard := ⟨.none, 0⟩

end R3000A
