import R3000A.Proofs.Exception.Precise

/-!
# Calls that the bus serves

A call hands the registers to the bus as they stand, with an outstanding load not yet written, and
the load is settled only after the bus has answered. So a call that moves on lets the older load win
over what the bus has put into the same register, and a call that the bus redirects drops the load.
`CallOrdered` is the order in which the load comes first and nothing is lost. A call keeps it
exactly if it would make no difference which of the two comes last, or whether the load is written
at all.
-/

namespace R3000A

variable {β : Type}

def Instruction.isCall : Instruction → Bool
  | hostCall | libraryCall _ => true
  | _ => false

namespace Core

/-- What register `r` holds after a call to which the bus has answered `a`. -/
def regAfterCall (c : Core) (a : Answer) (r : Reg) : Word :=
  if r = 0 then 0
  else if a.target = none then Core.upcomingReg { c with regs := a.regs } r
  else a.regs.read r

theorem regAfterCall_of_ne_load {c : Core} {a : Answer} {r : Reg} (hr : r ≠ 0)
    (h : ∀ hr : r ≠ 0, c.hazard.pending ≠ .load r hr) : c.regAfterCall a r = a.regs.read r := by
  rw [regAfterCall, if_neg hr, upcomingReg]
  split
  · split
    · rename_i s nonzero hpending
      refine if_neg ?_
      rintro rfl
      exact h nonzero hpending
    · rfl
  · rfl

theorem regAfterCall_of_load {c : Core} {a : Answer} {r : Reg} {hr : r ≠ 0}
    (h : c.hazard.pending = .load r hr) :
    c.regAfterCall a r = if a.target = none then c.hazard.value else a.regs.read r := by
  simp [regAfterCall, hr, upcomingReg, h]

/-- After a host call nothing is outstanding. -/
theorem after_hostCall (c : Core) (settings : Settings) (a : Answer) :
    (∀ r, (c.after settings a .hostCall).reg r = c.regAfterCall a r) ∧
      (c.after settings a .hostCall).hazard.pending = .none := by
  cases htarget : a.target with
  | none =>
      simp only [after, htarget, advance_eq]
      refine ⟨fun r => ?_, pending_settledHazard _⟩
      rw [reg, Bank.read_write, read_settledRegs, regAfterCall, if_pos htarget]
      simp only [eq_comm]
  | some target =>
      have hne : a.target ≠ none := by simp [htarget]
      simp only [after, htarget]
      refine ⟨fun r => ?_, rfl⟩
      rw [reg, Bank.read_write, regAfterCall, if_neg hne]
      simp only [eq_comm, jumpTo]

theorem after_libraryCall (c : Core) (settings : Settings) (a : Answer) (code : UInt16)
    (htarget : a.target = none) :
    (∀ r, (c.after settings a (.libraryCall code)).reg r = c.regAfterCall a r) ∧
      (c.after settings a (.libraryCall code)).hazard.pending = .none := by
  simp only [after, advance_eq]
  refine ⟨fun r => ?_, pending_settledHazard _⟩
  rw [reg, read_settledRegs, regAfterCall, if_pos htarget]
  by_cases hr : r = 0
  · rw [if_pos hr, hr, upcomingReg_zero]
    exact Bank.read_write_self ..
  · rw [if_neg hr, upcomingReg, upcomingReg]
    simp only [reg, Bank.read_write_of_ne _ _ (Ne.symm hr)]

end Core

namespace System

/-- The next instruction is a call that keeps the order in which an outstanding load comes before
what the call does. `written` are the registers that the bus writes. -/
structure CallOrdered (B : Bus β) (s : System β) (written : Reg → Prop) : Prop where
  /-- What the bus has written is not overwritten. -/
  call : ∀ r, r ≠ 0 → written r →
    (s.step B).cpu.core.reg r = (s.instructionAnswer B).value.regs.read r
  /-- A load into a register that the bus has not written is not lost. -/
  load : ∀ r h, s.cpu.core.hazard.pending = .load r h → ¬written r →
    (s.step B).cpu.core.reg r = s.cpu.core.hazard.value
  zero : (s.step B).cpu.core.reg 0 = 0

/-- What a call leaves in the registers, with nothing outstanding any more. -/
theorem core_step_of_isCall {B : Bus β} {s : System β} (hcall : (s.instruction B).isCall = true) :
    (∀ r, (s.step B).cpu.core.reg r =
        s.cpu.core.regAfterCall (s.instructionAnswer B).value r) ∧
      (s.step B).cpu.core.hazard.pending = .none := by
  rw [core_step]
  cases hi : s.instruction B with
  | hostCall =>
      have heffect : s.effect B = .hostCall := by rw [effect, hi]; rfl
      rw [heffect]
      exact Core.after_hostCall ..
  | libraryCall code =>
      have heffect : s.effect B = .libraryCall code := by rw [effect, hi]; rfl
      have htarget : (s.instructionAnswer B).value.target = none := by
        rw [instructionAnswer, heffect]
        rfl
      rw [heffect]
      exact Core.after_libraryCall _ _ _ _ htarget
  | _ => simp [hi, Instruction.isCall] at hcall

/-- A call leaves what the bus has put into a register, unless a load into it was outstanding and
the call moves on: then it leaves what was loaded. Register 0 stays zero and nothing stays
outstanding, so a load that is not written is lost. Hence the order is kept exactly if an
outstanding load brings into a register that the bus has written what the bus has put there, as long
as the call moves on, and into another what it holds already, as long as the bus redirects the call.
-/
theorem step_of_call {B : Bus β} {s : System β} {written : Reg → Prop}
    (hcall : (s.instruction B).isCall = true)
    (hkept : ∀ r, ¬written r →
      (s.instructionAnswer B).value.regs.read r = s.cpu.core.reg r) :
    (∀ r, (s.step B).cpu.core.reg r = s.cpu.core.regAfterCall (s.instructionAnswer B).value r) ∧
      (s.step B).cpu.core.hazard.pending = .none ∧
      (s.CallOrdered B written ↔
        ∀ r h, s.cpu.core.hazard.pending = .load r h →
          ((s.instructionAnswer B).value.target = none → written r →
            (s.instructionAnswer B).value.regs.read r = s.cpu.core.hazard.value) ∧
          ((s.instructionAnswer B).value.target ≠ none → ¬written r →
            s.cpu.core.reg r = s.cpu.core.hazard.value)) := by
  obtain ⟨hreg, hpending⟩ := core_step_of_isCall hcall
  refine ⟨hreg, hpending, ?_, ?_⟩
  · intro hordered r h hload
    constructor
    · intro htarget hwritten
      have hr := hordered.call r h hwritten
      rw [hreg, Core.regAfterCall_of_load hload, if_pos htarget] at hr
      exact hr.symm
    · intro htarget hwritten
      have hr := hordered.load r h hload hwritten
      rw [hreg, Core.regAfterCall_of_load hload, if_neg htarget, hkept r hwritten] at hr
      exact hr
  · intro hclash
    constructor
    case call =>
      intro r hr hwritten
      rw [hreg]
      by_cases hload : s.cpu.core.hazard.pending = .load r hr
      · rw [Core.regAfterCall_of_load hload]
        split
        · rename_i htarget
          exact ((hclash r hr hload).1 htarget hwritten).symm
        · rfl
      · exact Core.regAfterCall_of_ne_load hr fun _ => hload
    case load =>
      intro r hr hload hwritten
      rw [hreg, Core.regAfterCall_of_load hload]
      split
      · rfl
      · rename_i htarget
        rw [hkept r hwritten]
        exact (hclash r hr hload).2 htarget hwritten
    case zero =>
      rw [hreg]
      rfl

end System

/-- The bus on which every instruction is `w`, and every call puts 5 into register 2 and goes on at
`target`. -/
def Bus.calling (w : Word) (target : Option Word) : Bus Unit where
  read _ _ _ := { value := w, bus := () }
  write _ _ _ _ := { value := (), bus := () }
  hostCall _ regs _ := { value := (regs.write 2 5, target), bus := () }
  libraryCall _ _ regs _ := { value := regs.write 2 5, bus := () }

namespace System

def loading (r : Reg) (h : r ≠ 0) : System Unit :=
  { cpu := { core := { hazard := ⟨.load r h, 7⟩ } }, bus := () }

/-- A host call that moves on keeps the order of a load into another register. -/
theorem step_of_call_beside_load :
    (loading 3 (by decide)).CallOrdered (Bus.calling 0x0b none) (· = 2) := by
  refine (step_of_call (by decide) ?_).2.2.2 ?_
  · intro r hr
    exact Bank.read_write_of_ne _ _ (Ne.symm hr)
  · intro r h hload
    cases hload
    exact ⟨fun _ hr => absurd hr (by decide), fun htarget => absurd rfl htarget⟩

/-- The order is not kept by a host call that moves on, by one that is redirected, and by a library
call. -/
theorem not_callOrdered :
    ¬(loading 2 (by decide)).CallOrdered (Bus.calling 0x0b none) (· = 2) ∧
      ¬(loading 3 (by decide)).CallOrdered (Bus.calling 0x0b (some 0x80000020)) (· = 2) ∧
      ¬(loading 2 (by decide)).CallOrdered (Bus.calling 0x24001234 none) (· = 2) := by
  refine ⟨fun h => ?_, fun h => ?_, fun h => ?_⟩
  · exact absurd (h.call 2 (by decide) rfl) (by decide)
  · exact absurd (h.load 3 (by decide) rfl (by decide)) (by decide)
  · exact absurd (h.call 2 (by decide) rfl) (by decide)

end System

end R3000A
