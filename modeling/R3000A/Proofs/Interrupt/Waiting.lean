import R3000A.Proofs.Machine.Reachable
import R3000A.Proofs.Processor.HostWrite
import R3000A.Proofs.Slice.Invariant

/-!
# No interrupt is left waiting

Interrupts are looked for when the status or the cause register is written and at no other time, so
an interrupt that became due without such a look would wait for good. `NoInterruptDue` says that
none does. Entering a handler establishes it, because that disables interrupts; a watched write
establishes it, because what it has made due is taken at once; all else leaves both registers alone.
From there it holds after every instruction, after every delivery of requests and so at every point
of a slice.
-/

namespace R3000A

/-- No interrupt that is enabled waits to be taken. -/
def Core.NoInterruptDue (c : Core) : Prop := c.control.interruptPending = false

namespace Core

theorem NoInterruptDue.of_control_eq {c d : Core} (h : c.NoInterruptDue)
    (heq : d.control = c.control) : d.NoInterruptDue := by
  rw [NoInterruptDue, heq]
  exact h

/-- In a handler no interrupt is due, whatever led to it. -/
theorem noInterruptDue_raise (c : Core) (f : Fault) : (c.raise f).NoInterruptDue := by
  rw [NoInterruptDue, control_raise, SystemControl.interruptPending_afterFault]

theorem noInterruptDue_of_modeFault?_eq_none {c : Core} (h : c.modeFault? = none) :
    c.NoInterruptDue := by
  rw [NoInterruptDue]
  cases hp : c.control.interruptPending with
  | false => rfl
  | true => simp [modeFault?, hp] at h

theorem noInterruptDue_reset (c : Core) : c.reset.NoInterruptDue := by
  have hdisabled : c.control.reset.status &&& SystemControl.interruptEnable = 0 := by
    rw [SystemControl.status_reset, Word.replace_and_of_subset _ _ (by decide)]
    decide
  simp [NoInterruptDue, reset, SystemControl.interruptPending, hdisabled]

/-- A look at a new mode takes what has become due. -/
theorem noInterruptDue_raiseIf_modeFault? (c : Core) : (c.raiseIf c.modeFault?).NoInterruptDue := by
  cases h : c.modeFault? with
  | none => exact noInterruptDue_of_modeFault?_eq_none h
  | some f => exact noInterruptDue_raise c f

theorem noInterruptDue_writeControl {c : Core} (h : c.NoInterruptDue) (r : Reg) (v : Word) :
    (c.writeControl r v).NoInterruptDue := by
  rw [writeControl, writeFault?]
  by_cases hr : SystemControl.Watched r
  · rw [if_pos hr]
    exact noInterruptDue_raiseIf_modeFault? _
  · rw [if_neg hr, raiseIf]
    simp only [SystemControl.Watched, not_or] at hr
    simpa [NoInterruptDue, storeControl, SystemControl.interruptPending, SystemControl.status,
      SystemControl.cause, hr.1, hr.2] using h

theorem noInterruptDue_writeControl_causeReg (c : Core) (v : Word) :
    (c.writeControl SystemControl.causeReg v).NoInterruptDue := by
  have hwatched : SystemControl.Watched SystemControl.causeReg := Or.inr rfl
  rw [writeControl, writeFault?, if_pos hwatched]
  exact noInterruptDue_raiseIf_modeFault? _

theorem noInterruptDue_setLine (c : Core) (l : Line) (level : Bool) :
    (c.setLine l level).NoInterruptDue :=
  noInterruptDue_writeControl_causeReg _ _

/-- Of the registers that a host can write, two are looked at and the others decide nothing about
interrupts. -/
theorem NoInterruptDue.put {c : Core} (h : c.NoInterruptDue) (v : Word) (r : Register) :
    (c.put v r).NoInterruptDue := by
  cases r with
  | control r => exact noInterruptDue_writeControl h r v
  | _ => exact h

/-- No effect leaves an interrupt due: those that reach the status or the cause register end with a
look at them, and the others reach neither. -/
theorem NoInterruptDue.after {c : Core} (h : c.NoInterruptDue) (settings : Settings) (a : Answer)
    (e : Effect) : (c.after settings a e).NoInterruptDue := by
  cases e with
  | raise f link =>
      rw [Core.after]
      exact (noInterruptDue_raise c f).of_control_eq (control_link _ _)
  | writeControl r v => exact noInterruptDue_writeControl (h.of_control_eq c.control_advance) r v
  | returnFromException => exact noInterruptDue_raiseIf_modeFault? _
  | hostCall =>
      refine h.of_control_eq ?_
      simp only [Core.after]
      split
      · exact control_jumpTo ..
      · exact control_advance _
  | _ => exact h.of_control_eq (by simp [Core.after])

end Core

namespace Processor

theorem noInterruptDue_setLine (p : Processor) (l : Line) (level : Bool) :
    (p.setLine l level).1.core.NoInterruptDue := by
  rw [core_setLine]
  exact p.core.noInterruptDue_setLine l level

theorem noInterruptDue_set {p p' : Processor} {r : Register} {v : Word}
    (h : p.core.NoInterruptDue) (hset : p.set r v = .ok p') : p'.core.NoInterruptDue := by
  rw [core_of_set hset]
  exact h.put v r

end Processor

namespace System

variable {β : Type}

theorem noInterruptDue_step (B : Bus β) {s : System β} (h : s.cpu.core.NoInterruptDue) :
    (s.step B).cpu.core.NoInterruptDue := by
  have hfetched : (s.cpu.core.fetched (s.fetchedWord B)).NoInterruptDue := h
  rw [core_step]
  exact hfetched.after _ _ _

end System

namespace Slice

variable {β : Type}

theorem noInterruptDue_throughout (B : Bus β) {t : Slice β}
    (h : t.system.cpu.core.NoInterruptDue) : t.Throughout B Core.NoInterruptDue :=
  throughout (fun _ hs => System.noInterruptDue_step B hs)
    (fun c l level _ => c.noInterruptDue_setLine l level) h

theorem noInterruptDue_next (B : Bus β) {t : Slice β} (h : t.system.cpu.core.NoInterruptDue) :
    (t.next B).system.cpu.core.NoInterruptDue :=
  (noInterruptDue_throughout B h 0).2.2

/-- However far a slice has come, nothing is due. -/
theorem noInterruptDue_advance (B : Bus β) (n : Nat) {t : Slice β}
    (h : t.system.cpu.core.NoInterruptDue) : (t.advance B n).system.cpu.core.NoInterruptDue :=
  (noInterruptDue_throughout B h n).1

theorem noInterruptDue_run (B : Bus β) (budget : Int) {s : System β}
    (h : s.cpu.core.NoInterruptDue) : (run B budget s).system.cpu.core.NoInterruptDue :=
  noInterruptDue_advance B budget.toNat h

end Slice

namespace Machine

variable {β : Type}

/-- In a reachable machine no enabled interrupt is left waiting, and none is at any point of a slice
that it runs: after each instruction, and again once the requests have been delivered. -/
theorem Reachable.no_interrupt_waits {m : Machine β} (h : m.Reachable) :
    m.cpu.core.NoInterruptDue ∧
      ∀ (B : Bus β) (bus : β) (budget : Int) (n : Nat),
        let t := (Slice.start budget ⟨m.cpu, bus⟩).advance B n
        t.system.cpu.core.NoInterruptDue ∧
          (t.system.step B).cpu.core.NoInterruptDue ∧
          (t.next B).system.cpu.core.NoInterruptDue := by
  have hcore : m.cpu.core.NoInterruptDue :=
    h.core_invariant Core.NoInterruptDue rfl (fun c _ => c.noInterruptDue_reset)
      (fun B budget _ hs => Slice.noInterruptDue_run B budget hs)
      (fun p l level _ => Processor.noInterruptDue_setLine p l level)
      (fun _ _ _ _ hp hset => Processor.noInterruptDue_set hp hset)
  refine ⟨hcore, ?_⟩
  intro B bus budget n
  have hslice : ((Slice.start budget ⟨m.cpu, bus⟩).advance B n).system.cpu.core.NoInterruptDue :=
    Slice.noInterruptDue_advance B n hcore
  exact ⟨hslice, System.noInterruptDue_step B hslice, Slice.noInterruptDue_next B hslice⟩

/-- An asserted line whose interrupt was taken, and the slice in its handler. -/
theorem no_interrupt_waits_in_handler :
    ∃ m : Machine Unit, m.Reachable ∧ m.cpu.core.control.cause = 0x400 ∧
      m.cpu.core.pc = 0xbfc00180 ∧ m.cpu.core.NoInterruptDue :=
  have hreset : (Machine.new {} : Machine Unit).reset.Reachable := .reset (.new {})
  have hasserted := Reachable.setLine 0 true .active
    (.setRegister (.control 12) 0x00400401 hreset rfl) rfl
  ⟨_, hasserted, by decide, by decide, hasserted.no_interrupt_waits.1⟩

end Machine

end R3000A
