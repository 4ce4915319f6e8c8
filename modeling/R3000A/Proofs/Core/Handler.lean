import R3000A.Proofs.Processor.Settle

/-!
# In a handler

An exception leaves the core at the first instruction of its handler, in kernel mode, without
interrupts and with nothing outstanding. There nothing comes of a write to the cause register: no
interrupt is taken, and kernel mode reaches every handler. So whatever the lines do next, the core
stays where the exception has put it.
-/

namespace R3000A

namespace SystemControl

theorem userMode_eq (c : SystemControl) : c.userMode = (c.status &&& userBit != 0) := rfl

section

variable (c : SystemControl) (v : Word)

theorem status_write_causeReg : (c.write causeReg v).status = c.status := by
  simp [status, causeReg, statusReg]

theorem epc_write_causeReg : (c.write causeReg v).epc = c.epc := by
  simp [epc, causeReg, epcReg]

theorem handler_write_causeReg : (c.write causeReg v).handler = c.handler := by
  rw [handler, handler, status_write_causeReg]

end

end SystemControl

namespace Core

/-- The core stands at the first instruction of an exception handler. -/
structure InHandler (c : Core) : Prop where
  kernel : c.control.userMode = false
  disabled : c.control.status &&& SystemControl.interruptEnable = 0
  hazard : c.hazard = .empty
  pc : c.pc = c.control.handler

theorem inHandler_raise (c : Core) (f : Fault) : (c.raise f).InHandler := by
  have hstatus : (c.raise f).control.status = SystemControl.pushMode c.control.status := by
    rw [control_raise, SystemControl.status_afterFault]
  constructor
  case kernel =>
    have hlow : SystemControl.userBit = 0x3 &&& SystemControl.userBit := by decide
    rw [SystemControl.userMode_eq, hstatus, hlow, ← UInt32.and_assoc,
      SystemControl.pushMode_and_current, UInt32.zero_and]
    rfl
  case disabled => rw [hstatus, SystemControl.pushMode_and_interruptEnable]
  case hazard => rw [raise_eq]
  case pc =>
    -- The bit that chooses among the handlers lies outside of the stack of modes.
    have hvectors : SystemControl.bootVectors = ~~~(0x3f : Word) &&& SystemControl.bootVectors := by
      decide
    have hsame : SystemControl.pushMode c.control.status &&& SystemControl.bootVectors =
        c.control.status &&& SystemControl.bootVectors := by
      rw [hvectors, ← UInt32.and_assoc, SystemControl.pushMode_and_rest, UInt32.and_assoc]
    rw [SystemControl.handler, hstatus, hsame, raise_eq, SystemControl.handler]

namespace InHandler

variable {c : Core}

theorem link (h : c.InHandler) (link : Option (Reg × Word)) : (c.link link).InHandler := by
  rw [link_eq]
  exact ⟨h.kernel, h.disabled, h.hazard, h.pc⟩

theorem storeControl_causeReg (h : c.InHandler) (v : Word) :
    (c.storeControl SystemControl.causeReg v).InHandler := by
  have hstatus := c.control.status_write_causeReg v
  constructor
  case kernel =>
    rw [SystemControl.userMode, storeControl, hstatus]
    exact h.kernel
  case disabled => rw [storeControl, hstatus, h.disabled]
  case hazard => exact h.hazard
  case pc => rw [storeControl, SystemControl.handler_write_causeReg, h.pc]

theorem modeFault?_eq_none (h : c.InHandler) : c.modeFault? = none := by
  have huser : c.control.status &&& SystemControl.userBit = 0 := by
    simpa [SystemControl.userMode_eq] using h.kernel
  have hidle : c.control.interruptPending = false := by
    simp [SystemControl.interruptPending, h.disabled]
  have hreached : c.refuses 3 c.pc = false := by
    rw [refuses, h.pc, SystemControl.privilegeMask, huser, SystemControl.handler]
    split <;> decide
  rw [modeFault?, hidle, hreached, Bool.and_false]
  rfl

/-- In a handler nothing comes of a line that is driven. -/
theorem writeFault?_eq_none (h : c.InHandler) (v : Word) :
    c.writeFault? SystemControl.causeReg v = none := by
  have hwatched : SystemControl.Watched SystemControl.causeReg := .inr rfl
  rw [writeFault?, if_pos hwatched]
  exact (h.storeControl_causeReg v).modeFault?_eq_none

end InHandler

end Core

end R3000A
