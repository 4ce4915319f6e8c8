import R3000A.Error
import R3000A.Processor

/-!
# Registers by number

A host can read and write every register that a program can see. Registers have stable numbers
from 1 to 133: the program counter, the value and the kind of the outstanding write, HI, LO, and
then the four banks of 32. A `RegisterId` names a register by its bank and an index that may be out
of range; `Register` is one that exists.
-/

namespace R3000A

inductive Register where
  | pc
  /-- The value of the outstanding write. -/
  | pendingValue
  /-- The kind of the outstanding write. -/
  | pendingKind
  | hi
  | lo
  | general (r : Reg)
  | control (r : Reg)
  | geometryData (r : Reg)
  | geometryControl (r : Reg)
  deriving DecidableEq, Repr

/-- A register as the host names it. -/
inductive RegisterId where
  | pc
  | pendingValue
  | pendingKind
  | hi
  | lo
  | general (n : UInt8)
  | control (n : UInt8)
  | geometryData (n : UInt8)
  | geometryControl (n : UInt8)
  deriving DecidableEq, Repr

namespace RegisterId

/-- The position of a register in the numbering, whether or not its index is in range. -/
def position : RegisterId → Nat
  | pc => 1
  | pendingValue => 2
  | pendingKind => 3
  | hi => 4
  | lo => 5
  | general n => 6 + n.toNat
  | control n => 38 + n.toNat
  | geometryData n => 70 + n.toNat
  | geometryControl n => 102 + n.toNat

def resolve (id : RegisterId) : Except MachineError Register :=
  let bank (n : UInt8) (register : Reg → Register) : Except MachineError Register :=
    if h : n.toNat < 32 then .ok (register ⟨n.toNat, h⟩) else .error (.badRegister id.position)
  match id with
  | pc => .ok .pc
  | pendingValue => .ok .pendingValue
  | pendingKind => .ok .pendingKind
  | hi => .ok .hi
  | lo => .ok .lo
  | general n => bank n .general
  | control n => bank n .control
  | geometryData n => bank n .geometryData
  | geometryControl n => bank n .geometryControl

def number? (id : RegisterId) : Option Nat :=
  match id.resolve with
  | .ok _ => some id.position
  | .error _ => none

/-- The number of a register, if it exists and its number is at most `max`. -/
def numberUpTo? (max : Nat) (id : RegisterId) : Option Nat := id.number?.filter (· ≤ max)

def ofNumber? (n : Int) : Option RegisterId :=
  if n < 1 then none
  else if n = 1 then some pc
  else if n = 2 then some pendingValue
  else if n = 3 then some pendingKind
  else if n = 4 then some hi
  else if n = 5 then some lo
  else if n < 38 then some (general (UInt8.ofNat (n - 6).toNat))
  else if n < 70 then some (control (UInt8.ofNat (n - 38).toNat))
  else if n < 102 then some (geometryData (UInt8.ofNat (n - 70).toNat))
  else if n < 134 then some (geometryControl (UInt8.ofNat (n - 102).toNat))
  else none

def ofNumber (n : Nat) : Except MachineError RegisterId :=
  match ofNumber? n with
  | some id => .ok id
  | none => .error (.badRegister n)

def text : RegisterId → String
  | pc => "Pc"
  | pendingValue => "DelayV"
  | pendingKind => "DelayR"
  | hi => "Hi"
  | lo => "Lo"
  | general n => s!"Gpr({n.toNat})"
  | control n => s!"Cp0({n.toNat})"
  | geometryData n => s!"Cp2Data({n.toNat})"
  | geometryControl n => s!"Cp2Control({n.toNat})"

end RegisterId

/-- What the host reads from a register. Those of the geometry engine look as they do to a
program. -/
def Core.get (c : Core) : Register → Word
  | .pc => c.pc
  | .pendingValue => c.hazard.value
  | .pendingKind => c.hazard.pending.number
  | .hi => c.hi
  | .lo => c.lo
  | .general r => c.reg r
  | .control r => c.control.read r
  | .geometryData r => c.geometry.readData r
  | .geometryControl r => c.geometry.readControl r

namespace Processor

def getRegister (p : Processor) (id : RegisterId) : Except MachineError Word :=
  id.resolve.map p.core.get

/-- The processor after the host has written `v` into a register. A write to the program counter
drops the outstanding write; one to the status or the cause register can cause an interrupt. -/
def set (p : Processor) (r : Register) (v : Word) : Except MachineError Processor :=
  match r with
  | .pc => .ok (p.modifyCore (·.jumpTo v))
  | .pendingValue => .ok (p.modifyCore fun c => { c with hazard := { c.hazard with value := v } })
  | .pendingKind =>
    match Pending.ofNumber? v with
    | some kind =>
      .ok (p.modifyCore fun c => { c with hazard := { c.hazard with pending := kind } })
    | none => .error (.badPending v)
  | .hi => .ok (p.modifyCore fun c => { c with hi := v })
  | .lo => .ok (p.modifyCore fun c => { c with lo := v })
  | .general r => .ok (p.modifyCore (·.setReg r v))
  | .control r =>
    match p.writeControl r v with
    | (p, .active) => .ok (p.record (.accessInterrupted r))
    | (p, .idle) => .ok p
  | .geometryData r => .ok (p.modifyCore fun c => { c with geometry := c.geometry.writeData r v })
  | .geometryControl r =>
    .ok (p.modifyCore fun c => { c with geometry := c.geometry.writeControl r v })

def setRegister (p : Processor) (id : RegisterId) (v : Word) : Except MachineError Processor :=
  id.resolve.bind fun r => p.set r v

end Processor

end R3000A
