import R3000A.Hazard
import R3000A.SystemControl
import R3000A.Geometry.Registers

/-!
# The processor core

`Core` is the state that belongs to the program: what a snapshot holds and a restored snapshot
resumes. Instructions leave it in one of five ways: `advance`, `write`, `writeDelayed`, `branch` and
`raise`. Each of them first settles the outstanding write in its own way, so that a load is never
lost and a branch is taken exactly once.
-/

namespace R3000A

/-- Where the processor starts after a reset: the beginning of the boot ROM. -/
def resetAddress : Word := 0xbfc00000

/-- The state of the processor that belongs to the program. -/
structure Core where
  pc : Word := resetAddress
  /-- The general purpose registers, of which register 0 is always zero. -/
  regs : Bank := .zero
  hi : Word := 0
  lo : Word := 0
  hazard : Hazard := .empty
  /-- Where the last instruction stood that was not a NOP in a delay slot. -/
  previousPc : Word := 0xffffffff
  word : Word := 0
  control : SystemControl := .zero
  geometry : Geometry := .zero
  /-- Whether the last slice was ended early by an instruction. -/
  stopped : Bool := false
  deriving DecidableEq, Repr

namespace Core

instance : Inhabited Core := ⟨{}⟩

def reg (c : Core) (r : Reg) : Word := c.regs.read r

def setReg (c : Core) (r : Reg) (v : Word) : Core :=
  { c with regs := (c.regs.write r v).write 0 0 }

def branchPending (c : Core) : Bool := c.hazard.pending = .branch

def commitLoad (c : Core) : Core :=
  match c.hazard.pending with
  | .load r _ => { c with regs := c.regs.write r c.hazard.value, hazard := .empty }
  | _ => c

def upcomingReg (c : Core) (r : Reg) : Word :=
  match c.hazard.pending with
  | .load s _ => if s = r then c.hazard.value else c.reg r
  | _ => c.reg r

/-- The core at `target`, with any outstanding write dropped. -/
def jumpTo (c : Core) (target : Word) : Core := { c with pc := target, hazard := .empty }

/-- The core at the next instruction: the target of an outstanding branch, or else the following
word, with an outstanding load written. -/
def advance (c : Core) : Core :=
  if c.branchPending then c.jumpTo c.hazard.value
  else
    let c := c.commitLoad
    { c with pc := c.pc + 4 }

def write (c : Core) (r : Reg) (v : Word) : Core := c.advance.setReg r v

/-- The core at the next instruction with `v` on its way into register `r`. In the delay slot of a
branch the write stays outstanding during the next instruction, elsewhere it is done at once, so
that of two loads in a row none is lost. -/
def writeDelayed (c : Core) (r : Reg) (v : Word) : Core :=
  if c.branchPending then
    { c.jumpTo c.hazard.value with hazard := ⟨.ofReg r, v⟩ }
  else c.write r v

def branch (c : Core) (target : Word) : Core :=
  let c := c.commitLoad
  { c with pc := c.pc + 4, hazard := ⟨.branch, target⟩ }

def link (c : Core) : Option (Reg × Word) → Core
  | none => c
  | some (r, v) => c.setReg r v

/-- Where a handler returns to: the instruction, or the branch whose delay slot it stands in. -/
def resumeAddress (c : Core) : Word := if c.branchPending then c.pc - 4 else c.pc

def raise (c : Core) (f : Fault) : Core :=
  let entered := c.control.enter f.code c.resumeAddress c.branchPending
  ({ c.commitLoad with control := entered.note f }).jumpTo c.control.handler

def refuses (c : Core) (align address : Word) : Bool :=
  address &&& (c.control.privilegeMask ||| align) != 0

/-- What is wrong once the status or the cause register has been written: an interrupt has become
due, or the mode no longer allows the address of the next instruction. -/
def modeFault? (c : Core) : Option Fault :=
  if c.control.interruptPending then some .interrupt
  else if !c.branchPending && c.refuses 3 c.pc then some (.loadAddress c.pc)
  else none

/-- The core after a reset. The general purpose registers and the geometry engine keep what they
hold. -/
def reset (c : Core) : Core :=
  { c with
    pc := resetAddress
    hazard := .empty
    control := c.control.reset
    previousPc := 0xffffffff
    stopped := false }

/-- The core that has fetched `w`. A NOP in a delay slot does not count as the last instruction. -/
def fetched (c : Core) (w : Word) : Core :=
  { c with
    previousPc := if c.hazard.pending = .none ∨ w ≠ 0 then c.pc else c.previousPc
    word := w }

end Core

end R3000A
