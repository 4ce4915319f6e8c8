import R3000A.Bus
import R3000A.Core
import R3000A.Event
import R3000A.Geometry.Execute
import R3000A.Instruction
import R3000A.Settings

/-!
# What an instruction does

Before anything is changed, an instruction is turned into its `Effect`: the operands are read, the
addresses are computed and checked, and what remains is one transition of the core and at most one
access to the bus. Whether an instruction raises an exception is decided here, so an effect is
either `raise` or free of faults, apart from the interrupts that a new mode lets in.
-/

namespace R3000A

/-- What remains to be done for an instruction. -/
inductive Effect where
  /-- Nothing but to move on. -/
  | retire
  | write (r : Reg) (v : Word)
  /-- Write a register the way a load does. -/
  | writeDelayed (r : Reg) (v : Word)
  | writeHiLo (hi lo : Word)
  | branch (target : Word) (link : Option (Reg × Word))
  /-- Raise an exception. A branch that is refused still keeps its return address. -/
  | raise (f : Fault) (link : Option (Reg × Word))
  /-- Read from the bus and load what `extend` makes of the value. -/
  | load (width : Width) (address : Word) (r : Reg) (extend : Word → Word)
  /-- Write to the bus. -/
  | store (width : Width) (address v : Word)
  /-- Read a word from the bus and write back what `merge` makes of it. -/
  | storeMerged (address : Word) (merge : Word → Word)
  /-- Read a word from the bus into a data register of the geometry engine. -/
  | loadGeometry (address : Word) (r : Reg)
  | writeGeometryData (r : Reg) (v : Word)
  | writeGeometryControl (r : Reg) (v : Word)
  | geometryCommand (w : Word)
  /-- Write a register of the system control coprocessor. -/
  | writeControl (r : Reg) (v : Word)
  /-- Give back the mode that an exception interrupted. -/
  | returnFromException
  /-- Report an operation that is not supported and move on. -/
  | unsupported (what : Unsupported)
  /-- End the slice without moving on. -/
  | halt
  /-- Let the bus serve a host call. -/
  | hostCall
  /-- Let the bus serve a library call. -/
  | libraryCall (code : UInt16)

namespace LoadOp

def width : LoadOp → Width
  | byte | byteUnsigned => .byte
  | half | halfUnsigned => .half
  | word | wordLeft | wordRight => .word

/-- The address bits that must be clear. The partial loads align the address themselves, and for
whole words it is not checked. -/
def alignMask : LoadOp → Word
  | half | halfUnsigned => Width.half.alignMask
  | _ => 0

def checked : LoadOp → Bool
  | word => false
  | _ => true

def busAddress (op : LoadOp) (reverse : Bool) (address : Word) : Word :=
  match op with
  | wordLeft | wordRight => address &&& ~~~3
  | _ => if reverse then address ^^^ op.width.reverseMask else address

end LoadOp

/-- Eight times the position of a byte in its word: the number of bits below it. -/
def bitsBelow (address : Word) : Word := (address &&& 3) * 8

/-- The value that a load leaves in its register. `old` is what the register holds before and
`memory` what was read. -/
def LoadOp.result (op : LoadOp) (reverse : Bool) (address old memory : Word) : Word :=
  match op with
  | byte => memory.extendByte
  | byteUnsigned => memory &&& 0xff
  | half => memory.extendHalf
  | halfUnsigned => memory &&& 0xffff
  | word => memory
  | wordLeft =>
    let keep : Word := 0x00ffffff >>> bitsBelow address
    let taken := if reverse then memory &&& ~~~keep else memory <<< (24 - bitsBelow address)
    (old &&& keep) ||| taken
  | wordRight =>
    let take : Word := 0xffffffff >>> bitsBelow address
    let taken := if reverse then memory &&& take else memory >>> bitsBelow address
    (old &&& ~~~take) ||| taken

namespace StoreOp

def width : StoreOp → Width
  | byte => .byte
  | half => .half
  | word | wordLeft | wordRight => .word

def alignMask : StoreOp → Word
  | half => Width.half.alignMask
  | _ => 0

def checked : StoreOp → Bool
  | word => false
  | _ => true

/-- The word that a partial store leaves in memory. `v` is the register and `memory` the word
before. -/
def merged (op : StoreOp) (reverse : Bool) (address v memory : Word) : Word :=
  match op with
  | wordLeft =>
    if reverse then
      let keep : Word := 0x00ffffff >>> bitsBelow address
      (memory &&& keep) ||| (v &&& ~~~keep)
    else
      let shift : Word := 24 - bitsBelow address
      (memory &&& ~~~(0xffffffff >>> shift)) ||| (v >>> shift)
  | wordRight =>
    if reverse then
      let take : Word := 0xffffffff >>> bitsBelow address
      (memory &&& ~~~take) ||| (v &&& take)
    else
      let take : Word := 0xffffffff <<< bitsBelow address
      (memory &&& ~~~take) ||| (v <<< bitsBelow address)
  | _ => v

end StoreOp

namespace Core

def effectiveAddress (c : Core) (base : Reg) (offset : Word) : Word := c.reg base + offset

def returnAddress (c : Core) : Word := c.pc + 8

/-- A taken branch, or the exception it causes if its target is refused. -/
def branchEffect (c : Core) (target : Word) (link : Option (Reg × Word)) : Effect :=
  if c.refuses 3 target then .raise (.loadAddress target) link else .branch target link

def product (signed : Bool) (a b : Word) : Word × Word :=
  if signed then
    let p := a.signed * b.signed
    (Word.ofInt (p >>> (32 : Nat)), Word.ofInt p)
  else
    let p := a.toNat * b.toNat
    (UInt32.ofNat (p >>> (32 : Nat)), UInt32.ofNat p)

/-- HI and LO after a division by something other than zero, with the quotient rounded toward
zero. -/
def quotient (signed : Bool) (a b : Word) : Word × Word :=
  if signed then (Word.ofInt (a.signed.tmod b.signed), Word.ofInt (a.signed.tdiv b.signed))
  else (a % b, a / b)

/-- An effect of coprocessor `n`, or the exception it causes if it may not be used. -/
def ifUsable (c : Core) (n : Fin 4) (e : Effect) : Effect :=
  if c.control.usable n then e else .raise (.coprocessorUnusable n) none

def loadEffect (c : Core) (op : LoadOp) (rt base : Reg) (offset : Word) : Effect :=
  let address := c.effectiveAddress base offset
  let reverse := c.control.reverseEndian
  if c.control.cacheIsolated then .unsupported .isolatedLoad
  else if op.checked && c.refuses op.alignMask address then .raise (.loadAddress address) none
  else
    .load op.width (op.busAddress reverse address) rt
      (op.result reverse address (c.upcomingReg rt))

/-- The effect of a store. A store of a whole word is dropped without a word while the cache is
isolated, because programs clear the cache that way. -/
def storeEffect (c : Core) (op : StoreOp) (rt base : Reg) (offset : Word) : Effect :=
  let address := c.effectiveAddress base offset
  let reverse := c.control.reverseEndian
  let v := c.reg rt
  if c.control.cacheIsolated then
    if op = .word then .retire else .unsupported .isolatedStore
  else if op.checked && c.refuses op.alignMask address then .raise (.storeAddress address) none
  else
    match op with
    | .wordLeft | .wordRight =>
      .storeMerged (address &&& ~~~3) (op.merged reverse address v)
    | _ =>
      .store op.width (if reverse then address ^^^ op.width.reverseMask else address) v

def controlEffect (c : Core) : ControlOp → Effect
  | .moveFrom rt rd => .writeDelayed rt (c.control.read rd)
  | .moveTo rt rd => .writeControl rd (c.control.masked rd (c.reg rt))
  | .returnFromException => .returnFromException
  | .unknownCommand => .unsupported .controlCommand
  | .unknownMove => .unsupported .controlMove

def geometryEffect (c : Core) : GeometryOp → Effect
  | .moveFromData rt rd => .writeDelayed rt (c.geometry.readData rd)
  | .moveFromControl rt rd => .writeDelayed rt (c.geometry.readControl rd)
  | .moveToData rt rd => .writeGeometryData rd (c.reg rt)
  | .moveToControl rt rd => .writeGeometryControl rd (c.reg rt)
  | .command w => .geometryCommand w
  | .unknownMove => .unsupported .geometryMove

def effect (c : Core) (settings : Settings) : Instruction → Effect
  | .alu op rd rs operand =>
    match op.result? (c.reg rs) (operand.value c.regs) with
    | some v => .write rd v
    | none => .raise .overflow none
  | .loadUpper rt v => .write rt v
  | .moveFromHi rd => .write rd c.hi
  | .moveFromLo rd => .write rd c.lo
  | .moveToHi rs => .writeHiLo (c.reg rs) c.lo
  | .moveToLo rs => .writeHiLo c.hi (c.reg rs)
  | .multiply signed rs rt =>
    let p := product signed (c.reg rs) (c.reg rt)
    .writeHiLo p.1 p.2
  | .divide signed rs rt =>
    if c.reg rt = 0 then .retire
    else
      let q := quotient signed (c.reg rs) (c.reg rt)
      .writeHiLo q.1 q.2
  | .jump target link =>
    c.branchEffect (((c.pc + 4) &&& 0xf0000000) ||| target)
      (if link then some (31, c.returnAddress) else none)
  | .jumpRegister rs link =>
    c.branchEffect (c.reg rs) (link.map fun r => (r, c.returnAddress))
  | .branch test offset link =>
    if test.holds c.regs then
      c.branchEffect (c.pc + 4 + offset) (if link then some (31, c.returnAddress) else none)
    else if link then .write 31 c.returnAddress
    else .retire
  | .systemCall => .raise .systemCall none
  | .breakpoint =>
    match settings.breakMode with
    | .exception => .raise .breakpoint none
    | .halt => .halt
  | .hostCall => .hostCall
  | .libraryCall code => .libraryCall code
  | .nothing => .retire
  | .control op => c.ifUsable 0 (c.controlEffect op)
  | .coprocessor1 => c.ifUsable 1 (.unsupported .coprocessor1)
  | .geometry op => c.ifUsable 2 (c.geometryEffect op)
  | .load op rt base offset => c.loadEffect op rt base offset
  | .store op rt base offset => c.storeEffect op rt base offset
  | .loadCoprocessor1 => .unsupported .loadCoprocessor1
  | .storeCoprocessor1 => .unsupported .storeCoprocessor1
  | .loadGeometry rt base offset =>
    let address := c.effectiveAddress base offset
    c.ifUsable 2 <|
      if c.control.cacheIsolated then .unsupported .isolatedGeometryLoad
      else if c.refuses 3 address then .raise (.loadAddress address) none
      else .loadGeometry address rt
  | .storeGeometry rt base offset =>
    let address := c.effectiveAddress base offset
    c.ifUsable 2 <|
      if c.control.cacheIsolated then .unsupported .isolatedGeometryStore
      else if c.refuses 3 address then .raise (.storeAddress address) none
      else .store .word address (c.geometry.readData rt)
  | .illegal => .raise .illegalInstruction none

end Core

end R3000A
