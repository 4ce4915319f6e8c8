import R3000A.Proofs.Privilege.Confinement
import R3000A.Proofs.SystemControl.Entry

/-!
# Bits out of reach of programs

`fixedBits` are the bits of the control registers that no instruction changes. MTC0 is masked, RFE
and exceptions move the stack of modes, and what else an exception writes into the cause register
are three fields of their own. Among the bits that are left are those of the lines, which change
only when a line is driven.
-/

namespace R3000A

namespace SystemControl

/-- The bits of register `r` that no instruction changes. -/
def fixedBits (r : Reg) : Word :=
  match r.val with
  | 1 | 15 => 0xffffffff
  | 12 => 0x0d8000c0
  | 13 => 0x4ffffc83
  | _ => 0

def SameFixed (c d : SystemControl) : Prop :=
  ∀ r, d.read r &&& fixedBits r = c.read r &&& fixedBits r

theorem SameFixed.refl (c : SystemControl) : SameFixed c c := fun _ => rfl

theorem SameFixed.trans {c d e : SystemControl} (h : SameFixed c d) (h' : SameFixed d e) :
    SameFixed c e :=
  fun r => (h' r).trans (h r)

/-- The bits of the lines in the cause register are fixed. -/
theorem SameFixed.bit_line {c d : SystemControl} (h : SameFixed c d) (l : Line) :
    d.cause.bit (10 + l) = c.cause.bit (10 + l) := by
  have hmask : fixedBits causeReg &&& l.causeMask = l.causeMask := by revert l; decide
  exact congrArg (· != 0) (Word.and_eq_of_subset (h causeReg) hmask)

theorem sameFixed_write (c : SystemControl) {r : Reg} {v : Word}
    (h : v &&& fixedBits r = c.read r &&& fixedBits r) : SameFixed c (c.write r v) := by
  intro s
  rw [read_write]
  split
  · rename_i hs
    rw [← hs, h]
  · rfl

/-- What programs can write has no fixed bit. -/
theorem sameFixed_write_masked (c : SystemControl) (r : Reg) (v : Word) :
    SameFixed c (c.write r (c.masked r v)) := by
  have hdisjoint : writableBits r &&& fixedBits r = 0 := by revert r; decide
  refine c.sameFixed_write (Word.replace_and_of_disjoint _ hdisjoint ?_)
  rw [UInt32.and_assoc, hdisjoint, UInt32.and_zero]

theorem sameFixed_afterFault (c : SystemControl) (f : Fault) (epc : Word) (inDelaySlot : Bool) :
    SameFixed c (c.afterFault f epc inDelaySlot) := by
  intro r
  by_cases hstatus : r = statusReg
  · have hpushed := pushMode_and_rest c.status
    rw [← status_afterFault c f epc inDelaySlot] at hpushed
    rw [hstatus]
    exact Word.and_eq_of_subset hpushed (by decide)
  by_cases hcause : r = causeReg
  · rw [hcause]
    exact c.cause_afterFault_and_of_disjoint f epc inDelaySlot (by decide) (by decide) (by decide)
  by_cases haddress : r = badAddressReg
  · rw [haddress, show fixedBits badAddressReg = 0 from rfl, UInt32.and_zero, UInt32.and_zero]
  by_cases hepc : r = epcReg
  · rw [hepc, show fixedBits epcReg = 0 from rfl, UInt32.and_zero, UInt32.and_zero]
  rw [c.read_afterFault_of_ne f epc inDelaySlot haddress hstatus hcause hepc]

theorem sameFixed_leave (c : SystemControl) : SameFixed c c.leave :=
  c.sameFixed_write (Word.and_eq_of_subset (popMode_and_rest c.status) (by decide))

end SystemControl

namespace Core

open SystemControl (SameFixed)

theorem sameFixed_raise (c : Core) (f : Fault) : SameFixed c.control (c.raise f).control := by
  rw [control_raise]
  exact c.control.sameFixed_afterFault f _ _

theorem sameFixed_raiseIf (c : Core) (f? : Option Fault) :
    SameFixed c.control (c.raiseIf f?).control := by
  cases f? with
  | none => exact SameFixed.refl _
  | some f => exact c.sameFixed_raise f

/-- A program that writes a control register leaves the bits that it cannot write. -/
theorem masked_of_effect_eq_writeControl {c : Core} {settings : Settings} {i : Instruction} {r : Reg}
    {v : Word} (h : c.effect settings i = .writeControl r v) : ∃ w, v = c.control.masked r w := by
  have horigin := c.origin_effect settings i
  rw [h] at horigin
  obtain ⟨rt, rd, rfl⟩ := horigin
  rw [effect, ifUsable] at h
  split at h
  · cases h
    exact ⟨_, rfl⟩
  · cases h

/-- No instruction changes a fixed bit. -/
theorem sameFixed_after (c : Core) (settings : Settings) (w : Word) (a : Answer) (i : Instruction) :
    SameFixed c.control ((c.fetched w).after settings a (c.effect settings i)).control := by
  have hadvance : (c.fetched w).advance.control = c.control := (c.fetched w).control_advance
  cases he : c.effect settings i with
  | raise f link =>
      rw [after, control_link]
      exact (c.fetched w).sameFixed_raise f
  | writeControl r v =>
      obtain ⟨x, rfl⟩ := masked_of_effect_eq_writeControl he
      refine SameFixed.trans ?_ (sameFixed_raiseIf ((c.fetched w).advance.storeControl r _) _)
      rw [storeControl, hadvance]
      exact c.control.sameFixed_write_masked r x
  | returnFromException =>
      exact c.control.sameFixed_leave.trans (sameFixed_raiseIf (c.fetched w).leaveHandler _)
  | _ =>
      rw [control_after (by simp [Effect.coprocessor?]) (by simp)]
      exact SameFixed.refl _

end Core

theorem System.sameFixed_step {β : Type} (B : Bus β) (s : System β) :
    SystemControl.SameFixed s.cpu.core.control (s.step B).cpu.core.control := by
  rw [core_step]
  exact s.cpu.core.sameFixed_after _ _ _ _

end R3000A
