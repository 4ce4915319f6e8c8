import R3000A.Effect
import R3000A.Instruction.Decode
import R3000A.Processor

/-!
# Running on a bus

A system is a processor together with the state of the bus it is connected to. `step` fetches the
word at the program counter, works out what the instruction in it does and does it.
-/

namespace R3000A

/-- A processor and the state of its bus. -/
structure System (β : Type) where
  cpu : Processor
  bus : β

namespace System

variable {β : Type}

def modify (s : System β) (f : Processor → Processor) : System β :=
  let ⟨cpu, bus⟩ := s
  { cpu := f cpu, bus }

def modifyCore (s : System β) (f : Core → Core) : System β := s.modify (·.modifyCore f)

/-- The system of a processor and the bus that has answered it, with the requests of the devices
waiting. -/
def answered {α : Type} (cpu : Processor) (r : Reply β α) : System β :=
  { cpu := cpu.post r.requests, bus := r.bus }

def read (B : Bus β) (width : Width) (address : Word) : System β → Word × System β
  | ⟨cpu, bus⟩ =>
    let r := B.read width address bus
    (width.truncate r.value, answered cpu r)

def write (B : Bus β) (width : Width) (address v : Word) : System β → System β
  | ⟨cpu, bus⟩ => answered cpu (B.write width address (width.truncate v) bus)

def hostCall (B : Bus β) : System β → System β
  | ⟨cpu, bus⟩ =>
    let r := B.hostCall cpu.core.pc cpu.core.regs bus
    let (regs, target) := r.value
    (answered cpu r).modifyCore fun c =>
      let c := { c with regs := regs }
      let c := match target with
        | some t => c.jumpTo t
        | none => c.advance
      { c with regs := c.regs.write 0 0 }

def libraryCall (B : Bus β) (code : UInt16) : System β → System β
  | ⟨cpu, bus⟩ =>
    let r := B.libraryCall cpu.core.pc code cpu.core.regs bus
    (answered cpu r).modifyCore fun c => Core.advance { c with regs := r.value.write 0 0 }

def perform (B : Bus β) (s : System β) : Effect → System β
  | .retire => s.modifyCore Core.advance
  | .write r v => s.modifyCore (·.write r v)
  | .writeDelayed r v => s.modifyCore (·.writeDelayed r v)
  | .writeHiLo hi lo => s.modifyCore fun c => Core.advance { c with hi := hi, lo := lo }
  | .branch target link => s.modifyCore fun c => (c.branch target).link link
  | .raise f link =>
    s.modify fun p =>
      let p := if f = .illegalInstruction then p.record (.illegal p.core.word p.core.pc) else p
      (p.raise f).modifyCore (·.link link)
  | .load width address r extend =>
    let (v, s) := s.read B width address
    s.modifyCore (·.writeDelayed r (extend v))
  | .store width address v => (s.write B width address v).modifyCore Core.advance
  | .storeMerged address merge =>
    let (v, s) := s.read B .word address
    (s.write B .word address (merge v)).modifyCore Core.advance
  | .loadGeometry address r =>
    let (v, s) := s.read B .word address
    s.modifyCore fun c => Core.advance { c with geometry := c.geometry.writeData r v }
  | .writeGeometryData r v =>
    s.modifyCore fun c => Core.advance { c with geometry := c.geometry.writeData r v }
  | .writeGeometryControl r v =>
    s.modifyCore fun c => Core.advance { c with geometry := c.geometry.writeControl r v }
  | .geometryCommand w =>
    match s.cpu.core.geometry.command? w with
    | some g => s.modifyCore fun c => Core.advance { c with geometry := g }
    | none => (s.modify (·.record (.unknownCommand w))).modifyCore Core.advance
  | .writeControl r v => s.modify (·.moveToControl r v)
  | .returnFromException => s.modify Processor.returnFromException
  | .unsupported what => (s.modify (·.reportUnsupported what)).modifyCore Core.advance
  | .halt => s.modify fun p => (p.record (.halted p.core.pc)).stop
  | .hostCall => s.hostCall B
  | .libraryCall code => s.libraryCall B code

def fetch (B : Bus β) (s : System β) : System β :=
  let (w, s) := s.read B .word s.cpu.core.pc
  s.modifyCore (·.fetched w)

def step (B : Bus β) (s : System β) : System β :=
  let s := s.fetch B
  s.perform B (s.cpu.core.effect s.cpu.settings (Instruction.decode s.cpu.core.word))

end System

end R3000A
