import R3000A.Proofs.Word.Mask
import R3000A.SystemControl

/-!
# What entering a handler leaves behind

`afterFault c f epc inDelaySlot` is the system control coprocessor as the handler of the fault `f`
finds it. The handler can read off it all there is to know: the status register has its stack of
modes pushed once, the cause register names the fault, EPC says where to return to, and the address
register holds the address at fault if there is one. Every other bit of every register is as it was
before, and the current mode is kernel mode without interrupts, so that no interrupt is ever due
right after an entry.
-/

namespace R3000A

namespace Fault

def address? : Fault → Option Word
  | loadAddress a | storeAddress a => some a
  | _ => none

def coprocessor? : Fault → Option (Fin 4)
  | coprocessorUnusable n => some n
  | _ => none

theorem eq_coprocessorUnusable {f : Fault} {n : Fin 4} (h : f.coprocessor? = some n) :
    f = coprocessorUnusable n := by
  cases f with
  | coprocessorUnusable m => exact congrArg coprocessorUnusable (Option.some.inj h)
  | _ => cases h

end Fault

namespace SystemControl

/-- Inside the stack of modes, pushing is a shift by one pair. -/
theorem pushMode_and_modes (s : Word) : pushMode s &&& (0x3f : Word) = (s <<< 2) &&& 0x3f := by
  rw [pushMode, Word.replace_and_of_subset _ _ (by decide), UInt32.and_assoc, UInt32.and_self]

theorem pushMode_and_rest (s : Word) : pushMode s &&& ~~~(0x3f : Word) = s &&& ~~~(0x3f : Word) := by
  rw [pushMode, Word.replace_and_of_disjoint _ (by decide)]
  rw [UInt32.and_assoc, UInt32.and_not_self, UInt32.and_zero]

/-- The pair that is pushed is kernel mode without interrupts. -/
theorem pushMode_and_current (s : Word) : pushMode s &&& (0x3 : Word) = 0 := by
  have hlow : (0x3 : Word) = 0x3f &&& 0x3 := by decide
  rw [hlow, ← UInt32.and_assoc, pushMode_and_modes, UInt32.and_assoc, ← hlow]
  exact Word.shiftLeft_and_eq_zero s (by decide)

theorem pushMode_and_interruptEnable (s : Word) : pushMode s &&& interruptEnable = 0 := by
  have hlow : interruptEnable = 0x3 &&& interruptEnable := by decide
  rw [hlow, ← UInt32.and_assoc, pushMode_and_current, UInt32.zero_and]

theorem number_shiftLeft_and_codeBits (code : ExceptionCode) :
    code.number <<< 2 &&& codeBits = code.number <<< 2 := by
  cases code <;> decide

/-- Bits that are neither code nor delay slot bit survive in the cause register. -/
theorem causeOf_and_of_disjoint (cause : Word) (code : ExceptionCode) (inDelaySlot : Bool)
    {k : Word} (hcode : codeBits &&& k = 0) (hslot : delaySlotBit &&& k = 0) :
    causeOf cause code inDelaySlot &&& k = cause &&& k := by
  have hnumber : code.number <<< 2 &&& k = 0 := by
    rw [← number_shiftLeft_and_codeBits, UInt32.and_assoc, hcode, UInt32.and_zero]
  have hcoded : ((cause &&& ~~~codeBits) ||| (code.number <<< 2)) &&& k = cause &&& k :=
    Word.replace_and_of_disjoint _ hcode hnumber
  cases inDelaySlot with
  | true =>
      simp only [causeOf, if_true]
      rw [Word.or_and, hcoded, hslot, UInt32.or_zero]
  | false =>
      have hcleared := Word.replace_and_of_disjoint
        ((cause &&& ~~~codeBits) ||| (code.number <<< 2)) hslot (UInt32.zero_and (a := k))
      rw [UInt32.or_zero, hcoded] at hcleared
      simpa only [causeOf, Bool.false_eq_true, if_false] using hcleared

theorem causeOf_and_codeBits (cause : Word) (code : ExceptionCode) (inDelaySlot : Bool) :
    causeOf cause code inDelaySlot &&& codeBits = code.number <<< 2 := by
  have hcoded : ((cause &&& ~~~codeBits) ||| (code.number <<< 2)) &&& codeBits =
      code.number <<< 2 := by
    rw [Word.replace_and_of_subset _ _ UInt32.and_self, number_shiftLeft_and_codeBits]
  cases inDelaySlot with
  | true =>
      simp only [causeOf, if_true]
      rw [Word.or_and, hcoded, show delaySlotBit &&& codeBits = 0 by decide, UInt32.or_zero]
  | false =>
      simp only [causeOf, Bool.false_eq_true, if_false]
      rw [UInt32.and_assoc, show ~~~delaySlotBit &&& codeBits = codeBits by decide, hcoded]

theorem causeOf_and_delaySlotBit (cause : Word) (code : ExceptionCode) (inDelaySlot : Bool) :
    causeOf cause code inDelaySlot &&& delaySlotBit = if inDelaySlot then delaySlotBit else 0 := by
  cases inDelaySlot with
  | true =>
      simp only [causeOf, if_true]
      exact Word.or_and_self _ _
  | false =>
      simp only [causeOf, Bool.false_eq_true, if_false]
      rw [UInt32.and_assoc, UInt32.not_and_self, UInt32.and_zero]

/-- The registers as the handler of a fault finds them. -/
def afterFault (c : SystemControl) (f : Fault) (epc : Word) (inDelaySlot : Bool) : SystemControl :=
  (c.enter f.code epc inDelaySlot).note f

theorem read_note_of_ne (c : SystemControl) (f : Fault) {r : Reg} (haddress : r ≠ badAddressReg)
    (hcause : r ≠ causeReg) : (c.note f).read r = c.read r := by
  cases f <;> simp [note, setCoprocessor, haddress.symm, hcause.symm]

theorem number_shiftLeft_and_coprocessorBits :
    ∀ n : Fin 4, UInt32.ofNat n <<< 28 &&& coprocessorBits = UInt32.ofNat n <<< 28 := by
  decide

theorem cause_setCoprocessor (c : SystemControl) (n : Fin 4) :
    (c.setCoprocessor n).cause = (c.cause &&& ~~~coprocessorBits) ||| (UInt32.ofNat n <<< 28) := by
  simp [setCoprocessor, cause]

theorem cause_note_of_coprocessor?_eq_none (c : SystemControl) {f : Fault}
    (h : f.coprocessor? = none) : (c.note f).cause = c.cause := by
  cases f with
  | coprocessorUnusable n => cases h
  | loadAddress a => simp [note, cause, badAddressReg, causeReg]
  | storeAddress a => simp [note, cause, badAddressReg, causeReg]
  | _ => rfl

theorem status_enter (c : SystemControl) (code : ExceptionCode) (epc : Word) (inDelaySlot : Bool) :
    (c.enter code epc inDelaySlot).status = pushMode c.status := by
  simp [enter, status, statusReg, causeReg, epcReg]

theorem status_note (c : SystemControl) (f : Fault) : (c.note f).status = c.status :=
  read_note_of_ne c f (by decide) (by decide)

/-- What a fault reports leaves the cause register alone, apart from the coprocessor number. -/
theorem cause_note_and_of_disjoint (c : SystemControl) (f : Fault) {k : Word}
    (h : coprocessorBits &&& k = 0) : (c.note f).cause &&& k = c.cause &&& k := by
  cases hf : f.coprocessor? with
  | none => rw [cause_note_of_coprocessor?_eq_none c hf]
  | some n =>
      have hnumber : UInt32.ofNat n <<< 28 &&& k = 0 := by
        rw [← number_shiftLeft_and_coprocessorBits, UInt32.and_assoc, h, UInt32.and_zero]
      rw [Fault.eq_coprocessorUnusable hf, note, cause_setCoprocessor,
        Word.replace_and_of_disjoint _ h hnumber]

theorem status_reset (c : SystemControl) :
    c.reset.status =
      (c.status &&& ~~~(tlbShutdown ||| swapCaches ||| userBit ||| interruptEnable)) |||
        bootVectors := by
  simp [reset, status, statusReg, randomReg, processorIdReg]

section

variable (c : SystemControl) (f : Fault) (epc : Word) (inDelaySlot : Bool)

/-- A handler starts with the stack of modes pushed. -/
theorem status_afterFault : (c.afterFault f epc inDelaySlot).status = pushMode c.status := by
  rw [afterFault, status_note, status_enter]

theorem epc_afterFault : (c.afterFault f epc inDelaySlot).epc = epc := by
  rw [afterFault, SystemControl.epc, read_note_of_ne _ _ (by decide) (by decide)]
  simp [enter]

/-- Right after an entry no interrupt is due, because interrupts are disabled. -/
theorem interruptPending_afterFault :
    (c.afterFault f epc inDelaySlot).interruptPending = false := by
  simp [interruptPending, status_afterFault, pushMode_and_interruptEnable]

theorem badAddress_afterFault :
    (c.afterFault f epc inDelaySlot).read badAddressReg =
      f.address?.getD (c.read badAddressReg) := by
  cases f <;>
    simp [afterFault, note, setCoprocessor, enter, badAddressReg, statusReg, causeReg, epcReg,
      Fault.address?]

theorem read_afterFault_of_ne {r : Reg} (haddress : r ≠ badAddressReg) (hstatus : r ≠ statusReg)
    (hcause : r ≠ causeReg) (hepc : r ≠ epcReg) :
    (c.afterFault f epc inDelaySlot).read r = c.read r := by
  rw [afterFault, read_note_of_ne _ _ haddress hcause]
  simp [enter, hstatus.symm, hcause.symm, hepc.symm]

theorem cause_enter (code : ExceptionCode) :
    (c.enter code epc inDelaySlot).cause = causeOf c.cause code inDelaySlot := by
  simp [enter, cause, causeReg, epcReg]

theorem cause_afterFault_of_coprocessor?_eq_none (h : f.coprocessor? = none) :
    (c.afterFault f epc inDelaySlot).cause = causeOf c.cause f.code inDelaySlot := by
  rw [afterFault, cause_note_of_coprocessor?_eq_none _ h, cause_enter]

/-- Outside of its three fields the cause register is as before. -/
theorem cause_afterFault_and_of_disjoint {k : Word} (hcode : codeBits &&& k = 0)
    (hslot : delaySlotBit &&& k = 0) (hnumber : coprocessorBits &&& k = 0) :
    (c.afterFault f epc inDelaySlot).cause &&& k = c.cause &&& k := by
  rw [afterFault, cause_note_and_of_disjoint _ _ hnumber, cause_enter,
    causeOf_and_of_disjoint _ _ _ hcode hslot]

theorem cause_afterFault_and_codeBits :
    (c.afterFault f epc inDelaySlot).cause &&& codeBits = f.code.number <<< 2 := by
  rw [afterFault, cause_note_and_of_disjoint _ _ (by decide), cause_enter, causeOf_and_codeBits]

theorem cause_afterFault_and_delaySlotBit :
    (c.afterFault f epc inDelaySlot).cause &&& delaySlotBit =
      if inDelaySlot then delaySlotBit else 0 := by
  rw [afterFault, cause_note_and_of_disjoint _ _ (by decide), cause_enter,
    causeOf_and_delaySlotBit]

/-- The coprocessor number changes only if a coprocessor was unusable. -/
theorem cause_afterFault_and_coprocessorBits :
    (c.afterFault f epc inDelaySlot).cause &&& coprocessorBits =
      (f.coprocessor?.map fun n : Fin 4 => UInt32.ofNat n <<< 28).getD
        (c.cause &&& coprocessorBits) := by
  rw [afterFault]
  cases hf : f.coprocessor? with
  | none =>
      rw [cause_note_of_coprocessor?_eq_none _ hf, cause_enter,
        causeOf_and_of_disjoint _ _ _ (by decide) (by decide), Option.map_none, Option.getD_none]
  | some n =>
      rw [Fault.eq_coprocessorUnusable hf, note, cause_setCoprocessor,
        Word.replace_and_of_subset _ _ UInt32.and_self, number_shiftLeft_and_coprocessorBits,
        Option.map_some, Option.getD_some]

end

/-! ### Leaving

A handler that gives the mode back moves the two older pairs down. -/

theorem popMode_and_modes (s : Word) : popMode s &&& (0xf : Word) = (s >>> 2) &&& 0xf := by
  rw [popMode, Word.replace_and_of_subset _ _ (by decide), UInt32.and_assoc, UInt32.and_self]

theorem popMode_and_rest (s : Word) : popMode s &&& ~~~(0xf : Word) = s &&& ~~~(0xf : Word) := by
  rw [popMode, Word.replace_and_of_disjoint _ (by decide)]
  rw [UInt32.and_assoc, UInt32.and_not_self, UInt32.and_zero]

theorem status_leave (c : SystemControl) : c.leave.status = popMode c.status := by
  simp [leave, status]

theorem epc_leave (c : SystemControl) : c.leave.epc = c.epc := by
  simp [leave, epc, statusReg, epcReg]

end SystemControl

end R3000A
