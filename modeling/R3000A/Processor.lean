import R3000A.Core
import R3000A.Event
import R3000A.Settings

/-!
# The processor and its host

Around the core stands what belongs to the host: its settings, the requests that devices have left,
the callback that it has called when a line is asserted, and the journal in which the processor
tells what happens. None of this is part of a snapshot, and nothing in the journal ever influences
the core.
-/

namespace R3000A

/-- What the processor has told its host since the host last looked, oldest first. -/
structure Journal where
  events : Array Event := #[]
  /-- The lines with which the callback was called. -/
  asserted : Array Line := #[]
  deriving DecidableEq, Repr, Inhabited

/-- The core with everything that belongs to its host. -/
structure Processor where
  core : Core := {}
  settings : Settings := {}
  /-- The requests that wait for the end of the instruction, oldest first. -/
  requests : List Request := []
  callback : Option Callback := none
  journal : Journal := {}
  /-- The handle that leads to this processor. -/
  handle : Handle := ⟨0⟩

namespace Processor

instance : Inhabited Processor := ⟨{}⟩

def record (p : Processor) (e : Event) : Processor :=
  { p with journal := { p.journal with events := p.journal.events.push e } }

def modifyCore (p : Processor) (f : Core → Core) : Processor := { p with core := f p.core }

@[simp] theorem core_modifyCore (p : Processor) (f : Core → Core) :
    (p.modifyCore f).core = f p.core := rfl

def post (p : Processor) (rs : List Request) : Processor :=
  { p with requests := p.requests ++ rs }

def raise (p : Processor) (f : Fault) : Processor :=
  (p.record (.exception f.code p.core.resumeAddress p.core.word p.core.control.handler)).modifyCore
    (·.raise f)

@[simp] theorem core_raise (p : Processor) (f : Fault) : (p.raise f).core = p.core.raise f := rfl

/-- The processor after a write to the status or the cause register has taken effect: an interrupt
that is due is taken, and an address that the new mode forbids raises an exception. -/
def settleMode (p : Processor) : Processor × InterruptState :=
  match p.core.modeFault? with
  | none => (p, .idle)
  | some .interrupt => (p.raise .interrupt, .active)
  | some f => (p.raise f, .idle)

/-- The processor with `v` in register `r` of the system control coprocessor, and whether this
caused an interrupt. -/
def writeControl (p : Processor) (r : Reg) (v : Word) : Processor × InterruptState :=
  let p := p.modifyCore fun c => { c with control := c.control.write r v }
  if r = SystemControl.statusReg ∨ r = SystemControl.causeReg then p.settleMode else (p, .idle)

/-- The processor after the callback, if the host has set one, has been called with a line. What it
asks for waits like everything else that is asked for. -/
def call (p : Processor) (l : Line) : Processor :=
  match p.callback with
  | none => p
  | some f =>
    { p.post (f.reply [] l) with
      callback := some (f.called l)
      journal := { p.journal with asserted := p.journal.asserted.push l } }

/-- The processor with an interrupt line at a level, and whether this caused an interrupt. The
callback is called for an asserted line when an interrupt has already been taken. -/
def setLine (p : Processor) (l : Line) (level : Bool) : Processor × InterruptState :=
  let cause := p.core.control.cause
  let (p, state) := p.writeControl SystemControl.causeReg
    (if level then cause ||| l.causeMask else cause &&& ~~~l.causeMask)
  (if level then p.call l else p, state)

/-- The processor after a device has changed a line. -/
def deliverLine (p : Processor) (l : Line) (level : Bool) : Processor :=
  match p.setLine l level with
  | (p, .active) => p.record (.lineInterrupted l p.core.pc)
  | (p, .idle) => p

def deliver (p : Processor) : Processor :=
  if p.requests.isEmpty then p
  else
    (Request.changes p.requests).foldl (fun p (l, level) => p.deliverLine l level)
      { p with requests := [] }

/-- The processor after an instruction has ended the slice. -/
def stop (p : Processor) : Processor := p.modifyCore fun c => { c with stopped := true }

def reportUnsupported (p : Processor) (what : Unsupported) : Processor :=
  let p := p.record (.unsupported what p.core.pc p.core.word)
  if p.settings.stopOnUnsupported then p.stop else p

/-- The processor after a program has written `v` into register `r` of the system control
coprocessor. It moves on first, so that an interrupt returns to the next instruction. -/
def moveToControl (p : Processor) (r : Reg) (v : Word) : Processor :=
  match (p.modifyCore Core.advance).writeControl r v with
  | (p, .active) => p.record (.moveInterrupted r)
  | (p, .idle) => p

/-- The processor after a program has given back the mode that an exception interrupted. An
interrupt that the old mode lets in is taken at once. -/
def returnFromException (p : Processor) : Processor :=
  let popped := (p.modifyCore Core.advance).modifyCore fun c => { c with control := c.control.leave }
  match popped.writeControl SystemControl.statusReg popped.core.control.status with
  | (p, .active) => p.record .returnInterrupted
  | (p, .idle) => p

def reset (p : Processor) : Processor := (p.record .reset).modifyCore Core.reset

end Processor

end R3000A
