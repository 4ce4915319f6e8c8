import R3000A.Proofs.Core.Transition
import R3000A.Proofs.Processor.Callback

/-!
# Writes to the status and the cause register

Every write to one of these two registers is followed by a look at what it has brought about: an
interrupt that is now due, or an address that the new mode forbids. The functions on cores here say
what becomes of such a write, and the equations below say that the processor does just that and
tells its host about it. `writeControl_eq` splits a write accordingly, into the bare write and the
exception that it may lead to.
-/

namespace R3000A

namespace SystemControl

theorem write_read (c : SystemControl) (r : Reg) : c.write r (c.read r) = c :=
  congrArg mk (Bank.write_read c.regs r)

/-- Whether the processor looks at a register after it has been written. -/
def Watched (r : Reg) : Prop := r = statusReg ∨ r = causeReg

instance (r : Reg) : Decidable (Watched r) := inferInstanceAs (Decidable (_ ∨ _))

end SystemControl

namespace Core

def raiseIf (c : Core) : Option Fault → Core
  | none => c
  | some f => c.raise f

/-- The core with `v` in register `r` of the system control coprocessor and nothing else done. -/
def storeControl (c : Core) (r : Reg) (v : Word) : Core :=
  { c with control := c.control.write r v }

/-- The fault that a write to register `r` of the system control coprocessor leads to. -/
def writeFault? (c : Core) (r : Reg) (v : Word) : Option Fault :=
  if SystemControl.Watched r then (c.storeControl r v).modeFault? else none

def writeControl (c : Core) (r : Reg) (v : Word) : Core :=
  (c.storeControl r v).raiseIf (c.writeFault? r v)

/-- The core at the next instruction with the interrupted mode given back, before anything is made
of it. -/
def leaveHandler (c : Core) : Core := { c.advance with control := c.control.leave }

end Core

namespace Processor

/-- What became of a write that led to the fault `f`, if there is one. -/
def stateOf (f? : Option Fault) : InterruptState := if f? = some .interrupt then .active else .idle

def storeControl (p : Processor) (r : Reg) (v : Word) : Processor :=
  p.modifyCore (·.storeControl r v)

def raiseIf (p : Processor) : Option Fault → Processor
  | none => p
  | some f => p.raise f

@[simp] theorem core_storeControl (p : Processor) (r : Reg) (v : Word) :
    (p.storeControl r v).core = p.core.storeControl r v := rfl

@[simp] theorem core_raiseIf (p : Processor) (f? : Option Fault) :
    (p.raiseIf f?).core = p.core.raiseIf f? := by
  cases f? <;> rfl

theorem settleMode_eq (p : Processor) :
    p.settleMode = (p.raiseIf p.core.modeFault?, stateOf p.core.modeFault?) := by
  cases h : p.core.modeFault? with
  | none => simp [settleMode, h, raiseIf, stateOf]
  | some f => cases f <;> simp [settleMode, h, raiseIf, stateOf]

/-- A write is the bare write, followed by the exception that it leads to. -/
theorem writeControl_eq (p : Processor) (r : Reg) (v : Word) :
    p.writeControl r v =
      ((p.storeControl r v).raiseIf (p.core.writeFault? r v),
        stateOf (p.core.writeFault? r v)) := by
  by_cases h : SystemControl.Watched r
  · have hfault : p.core.writeFault? r v = (p.storeControl r v).core.modeFault? := by
      rw [Core.writeFault?, if_pos h]
      rfl
    rw [hfault, ← settleMode_eq]
    rw [SystemControl.Watched] at h
    simp [writeControl, storeControl, Core.storeControl, h]
  · have hfault : p.core.writeFault? r v = none := by
      rw [Core.writeFault?, if_neg h]
    rw [hfault]
    rw [SystemControl.Watched] at h
    simp [writeControl, storeControl, Core.storeControl, h, raiseIf, stateOf]

@[simp] theorem core_writeControl (p : Processor) (r : Reg) (v : Word) :
    (p.writeControl r v).1.core = p.core.writeControl r v := by
  rw [writeControl_eq, core_raiseIf, core_storeControl, Core.writeControl]

theorem core_reportUnsupported (p : Processor) (what : Unsupported) :
    (p.reportUnsupported what).core =
      { p.core with stopped := p.settings.stopOnUnsupported || p.core.stopped } := by
  cases h : p.settings.stopOnUnsupported <;> simp [reportUnsupported, record, h, stop, modifyCore]

def drive (l : Line) (level : Bool) (cause : Word) : Word :=
  if level then cause ||| l.causeMask else cause &&& ~~~l.causeMask

/-- Driving a line is a write to the cause register, and an asserted line is one to call for. -/
theorem setLine_fst (p : Processor) (l : Line) (level : Bool) :
    (p.setLine l level).1 =
      if level then
        (p.writeControl SystemControl.causeReg (drive l level p.core.control.cause)).1.call l
      else (p.writeControl SystemControl.causeReg (drive l level p.core.control.cause)).1 := rfl

theorem core_setLine (p : Processor) (l : Line) (level : Bool) :
    (p.setLine l level).1.core =
      p.core.writeControl SystemControl.causeReg (drive l level p.core.control.cause) := by
  rw [← core_writeControl, setLine_fst]
  split
  · exact core_call ..
  · rfl

/-- Driving a line takes an interrupt if the write to the cause register leads to one. -/
theorem setLine_snd (p : Processor) (l : Line) (level : Bool) :
    (p.setLine l level).2 =
      stateOf (p.core.writeFault? SystemControl.causeReg (drive l level p.core.control.cause)) := by
  rw [setLine, ← drive, writeControl_eq]

theorem eq_some_interrupt_of_stateOf {f? : Option Fault} (h : stateOf f? = .active) :
    f? = some .interrupt := by
  rw [stateOf] at h
  split at h
  · assumption
  · cases h

def tell (p : Processor) (e : Event) : InterruptState → Processor
  | .active => p.record e
  | .idle => p

@[simp] theorem core_tell (p : Processor) (e : Event) (state : InterruptState) :
    (p.tell e state).core = p.core := by
  cases state <;> rfl

theorem moveToControl_eq (p : Processor) (r : Reg) (v : Word) :
    p.moveToControl r v =
      (((p.modifyCore Core.advance).storeControl r v).raiseIf
        (p.core.advance.writeFault? r v)).tell (.moveInterrupted r)
        (stateOf (p.core.advance.writeFault? r v)) := by
  rw [moveToControl, writeControl_eq, core_modifyCore]
  cases stateOf (p.core.advance.writeFault? r v) <;> rfl

theorem returnFromException_eq (p : Processor) :
    p.returnFromException =
      ((p.modifyCore Core.leaveHandler).raiseIf p.core.leaveHandler.modeFault?).tell
        .returnInterrupted (stateOf p.core.leaveHandler.modeFault?) := by
  have hpopped : (p.modifyCore Core.advance).modifyCore
      (fun c => { c with control := c.control.leave }) = p.modifyCore Core.leaveHandler := by
    simp [modifyCore, Core.leaveHandler]
  have hsame : (p.modifyCore Core.leaveHandler).storeControl SystemControl.statusReg
      (p.modifyCore Core.leaveHandler).core.control.status = p.modifyCore Core.leaveHandler := by
    simp [storeControl, Core.storeControl, modifyCore, SystemControl.status,
      SystemControl.write_read]
  have hwatched : SystemControl.Watched SystemControl.statusReg := Or.inl rfl
  have hfault : (p.modifyCore Core.leaveHandler).core.writeFault? SystemControl.statusReg
      (p.modifyCore Core.leaveHandler).core.control.status = p.core.leaveHandler.modeFault? := by
    rw [Core.writeFault?, if_pos hwatched, ← core_storeControl, hsame, core_modifyCore]
  rw [returnFromException, hpopped, writeControl_eq, hsame, hfault]
  cases stateOf p.core.leaveHandler.modeFault? <;> rfl

/-! ### The host

What an instruction does to the core reaches the host through the journal alone. -/

theorem sameHost_raiseIf (p : Processor) (f? : Option Fault) : (p.raiseIf f?).SameHost p := by
  cases f? <;> exact ⟨rfl, rfl, rfl, rfl⟩

theorem sameHost_tell (p : Processor) (e : Event) (state : InterruptState) :
    (p.tell e state).SameHost p := by
  cases state <;> exact ⟨rfl, rfl, rfl, rfl⟩

theorem sameHost_reportUnsupported (p : Processor) (what : Unsupported) :
    (p.reportUnsupported what).SameHost p := by
  rw [reportUnsupported]
  split <;> exact ⟨rfl, rfl, rfl, rfl⟩

theorem sameHost_writeControl (p : Processor) (r : Reg) (v : Word) :
    (p.writeControl r v).1.SameHost p := by
  rw [writeControl_eq]
  exact (sameHost_raiseIf ..).trans ⟨rfl, rfl, rfl, rfl⟩

theorem sameHost_moveToControl (p : Processor) (r : Reg) (v : Word) :
    (p.moveToControl r v).SameHost p := by
  rw [moveToControl_eq]
  exact (sameHost_tell ..).trans ((sameHost_raiseIf ..).trans ⟨rfl, rfl, rfl, rfl⟩)

theorem sameHost_returnFromException (p : Processor) : p.returnFromException.SameHost p := by
  rw [returnFromException_eq]
  exact (sameHost_tell ..).trans ((sameHost_raiseIf ..).trans ⟨rfl, rfl, rfl, rfl⟩)

@[simp] theorem requests_modifyCore (p : Processor) (f : Core → Core) :
    (p.modifyCore f).requests = p.requests := rfl

@[simp] theorem requests_raise (p : Processor) (f : Fault) : (p.raise f).requests = p.requests :=
  rfl

@[simp] theorem requests_reportUnsupported (p : Processor) (what : Unsupported) :
    (p.reportUnsupported what).requests = p.requests := (p.sameHost_reportUnsupported what).requests

@[simp] theorem requests_moveToControl (p : Processor) (r : Reg) (v : Word) :
    (p.moveToControl r v).requests = p.requests := (p.sameHost_moveToControl r v).requests

@[simp] theorem requests_returnFromException (p : Processor) :
    p.returnFromException.requests = p.requests := p.sameHost_returnFromException.requests

end Processor

end R3000A
