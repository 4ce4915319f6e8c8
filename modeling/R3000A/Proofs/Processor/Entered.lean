import R3000A.Proofs.Processor.Settle
import R3000A.Proofs.System.Access

/-!
# The exceptions that were entered

The journal of a processor tells which handlers it has entered. `entered` reads their codes off the
journal in the order in which they were entered, so that an instruction raises no exception if
`entered` stays the same and exactly one if it grows by one code. Only three effects can make it
grow: a refused instruction, and the two that give the processor a new mode.
-/

namespace R3000A

/-- The code of the exception that an event tells of. -/
def Event.entry? : Event → Option ExceptionCode
  | .exception code .. => some code
  | _ => none

namespace Processor

/-- The codes of the exceptions in the journal, oldest first. -/
def entered (p : Processor) : List ExceptionCode := p.journal.events.toList.filterMap Event.entry?

theorem entered_record (p : Processor) (e : Event) :
    (p.record e).entered = p.entered ++ e.entry?.toList := by
  cases h : e.entry? <;> simp [entered, record, h]

@[simp] theorem entered_record_of_entry?_eq_none (p : Processor) {e : Event}
    (h : e.entry? = none) : (p.record e).entered = p.entered := by
  rw [entered_record, h, Option.toList_none, List.append_nil]

@[simp] theorem entered_modifyCore (p : Processor) (f : Core → Core) :
    (p.modifyCore f).entered = p.entered := rfl

@[simp] theorem entered_call (p : Processor) (l : Line) : (p.call l).entered = p.entered := by
  rw [entered, entered, events_call]

@[simp] theorem entered_storeControl (p : Processor) (r : Reg) (v : Word) :
    (p.storeControl r v).entered = p.entered := rfl

@[simp] theorem entered_stop (p : Processor) : p.stop.entered = p.entered := rfl

@[simp] theorem entered_raise (p : Processor) (f : Fault) :
    (p.raise f).entered = p.entered ++ [f.code] := by
  rw [raise, entered_modifyCore, entered_record]
  rfl

@[simp] theorem entered_raiseIf (p : Processor) (f? : Option Fault) :
    (p.raiseIf f?).entered = p.entered ++ (f?.map Fault.code).toList := by
  cases f? with
  | none => rw [raiseIf, Option.map_none, Option.toList_none, List.append_nil]
  | some f => exact entered_raise p f

@[simp] theorem entered_tell (p : Processor) {e : Event} (state : InterruptState)
    (h : e.entry? = none) : (p.tell e state).entered = p.entered := by
  cases state with
  | idle => rfl
  | active => exact entered_record_of_entry?_eq_none p h

@[simp] theorem entered_reportUnsupported (p : Processor) (what : Unsupported) :
    (p.reportUnsupported what).entered = p.entered := by
  rw [reportUnsupported]
  split
  · rw [entered_stop, entered_record_of_entry?_eq_none p rfl]
  · exact entered_record_of_entry?_eq_none p rfl

theorem entered_moveToControl (p : Processor) (r : Reg) (v : Word) :
    (p.moveToControl r v).entered =
      p.entered ++ ((p.core.advance.writeFault? r v).map Fault.code).toList := by
  rw [moveToControl_eq, entered_tell _ _ rfl, entered_raiseIf, entered_storeControl,
    entered_modifyCore]

theorem entered_returnFromException (p : Processor) :
    p.returnFromException.entered =
      p.entered ++ (p.core.leaveHandler.modeFault?.map Fault.code).toList := by
  rw [returnFromException_eq, entered_tell _ _ rfl, entered_raiseIf, entered_modifyCore]

end Processor

end R3000A
