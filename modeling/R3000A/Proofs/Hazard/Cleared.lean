import R3000A.Proofs.Instruction.Fault
import R3000A.Proofs.System.Outcome

/-!
# The same instruction with an empty hazard slot

What an outstanding write means is told by comparing two runs of one instruction: from a core, and
from the same core with an empty slot. Both fetch the same word and both ask the bus the same, since
operands are read from the registers and never from the slot. The partial loads are the exception,
which merge what memory holds with what their register is about to hold.
-/

namespace R3000A

/-- Whether a load keeps a part of what its register is about to hold. -/
def LoadOp.merges : LoadOp → Bool
  | wordLeft | wordRight => true
  | _ => false

theorem LoadOp.result_of_not_merges {op : LoadOp} (h : op.merges = false) (reverse : Bool)
    (address old old' : Word) : op.result reverse address old = op.result reverse address old' := by
  cases op with
  | wordLeft => cases h
  | wordRight => cases h
  | _ => rfl

theorem LoadOp.width_of_merges {op : LoadOp} (h : op.merges = true) : op.width = .word := by
  cases op with
  | wordLeft => rfl
  | wordRight => rfl
  | _ => cases h

theorem LoadOp.busAddress_of_merges {op : LoadOp} (h : op.merges = true) (reverse : Bool)
    (address : Word) : op.busAddress reverse address = address &&& ~~~3 := by
  cases op with
  | wordLeft => rfl
  | wordRight => rfl
  | _ => cases h

namespace Core

def cleared (c : Core) : Core := { c with hazard := .empty }

def clearedAt (c : Core) (p : Word) : Core := { c.cleared with previousPc := p }

variable (c : Core)

theorem upcomingReg_cleared (r : Reg) : c.cleared.upcomingReg r = c.reg r := rfl

theorem fetched_cleared (w : Word) :
    c.cleared.fetched w = (c.fetched w).clearedAt c.pc := by
  simp [fetched, clearedAt, cleared, Hazard.empty]

/-- Whether a load gets as far as the bus. -/
def loads (c : Core) (op : LoadOp) (base : Reg) (offset : Word) : Bool :=
  !c.control.cacheIsolated &&
    !(op.checked && c.refuses op.alignMask (c.effectiveAddress base offset))

theorem loadEffect_of_loads {op : LoadOp} {base : Reg} {offset : Word}
    (h : c.loads op base offset = true) (rt : Reg) :
    c.loadEffect op rt base offset =
      .load op.width (op.busAddress c.control.reverseEndian (c.reg base + offset)) rt
        (op.result c.control.reverseEndian (c.reg base + offset) (c.upcomingReg rt)) := by
  simp only [loads, Bool.and_eq_true, Bool.not_eq_true'] at h
  rw [loadEffect, if_neg (by simp [h.1]), if_neg (by simp [h.2])]
  rfl

/-- The effect of a load that stops short of the bus. -/
def stoppedLoad (c : Core) (base : Reg) (offset : Word) : Effect :=
  if c.control.cacheIsolated then .unsupported .isolatedLoad
  else .raise (.loadAddress (c.effectiveAddress base offset)) none

theorem loadEffect_of_not_loads {op : LoadOp} {base : Reg} {offset : Word}
    (h : c.loads op base offset = false) (rt : Reg) :
    c.loadEffect op rt base offset = c.stoppedLoad base offset := by
  rw [loadEffect, stoppedLoad]
  by_cases hcache : c.control.cacheIsolated = true
  · exact (if_pos hcache).trans (if_pos hcache).symm
  · have hrefused : (op.checked && c.refuses op.alignMask (c.effectiveAddress base offset)) = true := by
      simpa [loads, hcache] using h
    rw [if_neg hcache, if_neg hcache]
    exact if_pos hrefused

/-- The effect of an instruction does not depend on what is outstanding, unless it is a load that
merges with it. -/
theorem effect_cleared (settings : Settings) {i : Instruction}
    (h : ∀ op rt base offset, i = .load op rt base offset → op.merges = true →
      c.upcomingReg rt = c.reg rt) : c.cleared.effect settings i = c.effect settings i := by
  cases i with
  | load op rt base offset =>
      have hresult (reverse : Bool) (address : Word) :
          op.result reverse address (c.cleared.upcomingReg rt) =
            op.result reverse address (c.upcomingReg rt) := by
        cases hmerges : op.merges with
        | true => rw [upcomingReg_cleared, h op rt base offset rfl hmerges]
        | false => exact LoadOp.result_of_not_merges hmerges _ _ _ _
      simp only [effect, loadEffect, hresult]
      rfl
  | _ => rfl

end Core

namespace System

variable {β : Type}

def cleared (s : System β) : System β := s.modifyCore Core.cleared

theorem instruction_cleared (B : Bus β) (s : System β) :
    s.cleared.instruction B = s.instruction B := rfl

theorem instructionAnswer_cleared (B : Bus β) (s : System β)
    (h : ∀ bus, (s.cleared.effect B).served B s.cpu.core.pc s.cpu.core.regs bus =
      (s.effect B).served B s.cpu.core.pc s.cpu.core.regs bus) :
    s.cleared.instructionAnswer B = s.instructionAnswer B := h _

theorem instructionAnswer_cleared_of_effect {B : Bus β} {s : System β}
    (h : s.cleared.effect B = s.effect B) :
    s.cleared.instructionAnswer B = s.instructionAnswer B := by
  apply instructionAnswer_cleared
  intro bus
  rw [h]

/-- Instructions that are answered the same do the same to the bus. -/
theorem access_cleared {B : Bus β} {s : System β}
    (h : s.cleared.instructionAnswer B = s.instructionAnswer B) :
    (s.step B).bus = (s.cleared.step B).bus ∧
      (s.step B).cpu.requests = (s.cleared.step B).cpu.requests := by
  constructor
  · rw [bus_step, bus_step, h]
  · rw [requests_step, requests_step, h]
    rfl

theorem core_step_cleared (B : Bus β) (s : System β) :
    (s.cleared.step B).cpu.core =
      ((s.cpu.core.fetched (s.fetchedWord B)).clearedAt s.cpu.core.pc).after s.cpu.settings
        (s.cleared.instructionAnswer B).value (s.cleared.effect B) := by
  rw [core_step, ← Core.fetched_cleared]
  rfl

/-- A word that is not zero is noted in a delay slot as anywhere else. -/
theorem previousPc_step_cleared (B : Bus β) {s : System β} (h : s.fetchedWord B ≠ 0) :
    (s.step B).cpu.core.previousPc = (s.cleared.step B).cpu.core.previousPc := by
  have hnoted (t : System β) (ht : t.fetchedWord B ≠ 0) :
      (t.step B).cpu.core.previousPc = t.cpu.core.pc := by
    rw [core_step, Core.previousPc_after]
    exact if_pos (Or.inr ht)
  exact (hnoted s h).trans (hnoted s.cleared h).symm

end System

end R3000A
