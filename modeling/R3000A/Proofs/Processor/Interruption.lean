import R3000A.Proofs.Core.Handler
import R3000A.Proofs.Processor.Deliver
import R3000A.Proofs.Processor.Entered

/-!
# Deliveries and exceptions

A line that is driven changes its bit of the cause register and may bring in an exception. After
that the processor stands in a handler, where further lines change their bits and nothing else.
So a delivery drives its lines and enters at most one handler on the way, which is what
`Processor.deliver_cases` says. Its two cases are `Undisturbed` and `EntersAmid`, which compare any
two processors of which one has become the other, so that they can be put together along a run.
-/

namespace R3000A

namespace SystemControl

def driven (c : SystemControl) (changes : List (Line × Bool)) : SystemControl :=
  changes.foldl (fun c (l, level) => c.write causeReg (Processor.drive l level c.cause)) c

theorem driven_append (c : SystemControl) (ls ls' : List (Line × Bool)) :
    c.driven (ls ++ ls') = (c.driven ls).driven ls' :=
  List.foldl_append

/-- Lines reach no register but the cause register. -/
theorem read_driven_of_ne (c : SystemControl) (ls : List (Line × Bool)) {r : Reg}
    (h : r ≠ causeReg) : (c.driven ls).read r = c.read r := by
  induction ls generalizing c with
  | nil => rfl
  | cons change ls ih => exact (ih _).trans (by rw [read_write, if_neg (Ne.symm h)])

theorem status_driven (c : SystemControl) (ls : List (Line × Bool)) :
    (c.driven ls).status = c.status :=
  c.read_driven_of_ne ls (by decide)

end SystemControl

namespace Processor

theorem entered_setLine (p : Processor) (l : Line) (level : Bool) :
    (p.setLine l level).1.entered =
      p.entered ++ ((p.core.writeFault? SystemControl.causeReg
        (drive l level p.core.control.cause)).map Fault.code).toList := by
  rw [← entered_storeControl p SystemControl.causeReg (drive l level p.core.control.cause),
    ← entered_raiseIf, setLine_fst, writeControl_eq]
  split
  · exact entered_call ..
  · rfl

theorem entered_deliverLine (p : Processor) (l : Line) (level : Bool) :
    (p.deliverLine l level).entered =
      p.entered ++ ((p.core.writeFault? SystemControl.causeReg
        (drive l level p.core.control.cause)).map Fault.code).toList := by
  rw [deliverLine_eq, entered_tell _ _ rfl, entered_setLine]

/-- The processor `p` has become `q` without an exception, and its system control coprocessor has
been reached by the lines `ls` only. -/
structure Undisturbed (p : Processor) (ls : List (Line × Bool)) (q : Processor) : Prop where
  entered : q.entered = p.entered
  control : q.core.control = p.core.control.driven ls

/-- The processor `p` has become `q` by one exception, the handler of which starts in `q`. Besides
it, the lines `ls` have reached the system control coprocessor before and the lines `ls'` after. -/
structure Enters (p : Processor) (ls : List (Line × Bool)) (f : Fault) (epc : Word)
    (inDelaySlot : Bool) (ls' : List (Line × Bool)) (q : Processor) : Prop where
  entered : q.entered = p.entered ++ [f.code]
  control : q.core.control = ((p.core.control.driven ls).afterFault f epc inDelaySlot).driven ls'
  handler : q.core.InHandler

/-- The processor `p` has become `q` by one exception amid the lines `ls`. -/
def EntersAmid (p : Processor) (ls : List (Line × Bool)) (q : Processor) : Prop :=
  ∃ before after f epc inDelaySlot,
    ls = before ++ after ∧ p.Enters before f epc inDelaySlot after q

section

variable {p q r : Processor} {ls ms : List (Line × Bool)}

theorem Undisturbed.refl (p : Processor) : p.Undisturbed [] p := ⟨rfl, rfl⟩

theorem Undisturbed.trans (h : p.Undisturbed ls q) (h' : q.Undisturbed ms r) :
    p.Undisturbed (ls ++ ms) r where
  entered := h'.entered.trans h.entered
  control := by rw [h'.control, h.control, SystemControl.driven_append]

theorem Undisturbed.entersAmid (h : p.Undisturbed ls q) (h' : q.EntersAmid ms r) :
    p.EntersAmid (ls ++ ms) r := by
  obtain ⟨before, after, f, epc, slot, rfl, hexception⟩ := h'
  refine ⟨ls ++ before, after, f, epc, slot, (List.append_assoc ..).symm, ?_⟩
  constructor
  case entered => rw [hexception.entered, h.entered]
  case control => rw [hexception.control, h.control, SystemControl.driven_append]
  case handler => exact hexception.handler

theorem Enters.undisturbed {f : Fault} {epc : Word} {inDelaySlot : Bool}
    (h : p.Enters ls f epc inDelaySlot [] q) (h' : q.Undisturbed ms r)
    (hhandler : r.core.InHandler) : p.Enters ls f epc inDelaySlot ms r where
  entered := by rw [h'.entered, h.entered]
  control := by rw [h'.control, h.control]; rfl
  handler := hhandler

end

section

variable {p : Processor}

theorem core_deliverLine_eq (p : Processor) (l : Line) (level : Bool) :
    (p.deliverLine l level).core =
      (p.core.storeControl SystemControl.causeReg (drive l level p.core.control.cause)).raiseIf
        (p.core.writeFault? SystemControl.causeReg (drive l level p.core.control.cause)) := by
  rw [core_deliverLine]
  rfl

theorem undisturbed_deliverLine {l : Line} {level : Bool}
    (h : p.core.writeFault? SystemControl.causeReg (drive l level p.core.control.cause) = none) :
    p.Undisturbed [(l, level)] (p.deliverLine l level) where
  entered := by rw [entered_deliverLine, h]; exact List.append_nil _
  control := by rw [core_deliverLine_eq, h]; rfl

theorem enters_deliverLine {l : Line} {level : Bool} {f : Fault}
    (h : p.core.writeFault? SystemControl.causeReg (drive l level p.core.control.cause) = some f) :
    p.Enters [(l, level)] f p.core.resumeAddress p.core.branchPending []
      (p.deliverLine l level) where
  entered := by rw [entered_deliverLine, h]; rfl
  control := by rw [core_deliverLine_eq, h]; exact Core.control_raise ..
  handler := by rw [core_deliverLine_eq, h]; exact Core.inHandler_raise ..

/-- In a handler lines are driven one after the other, and that is all. -/
theorem deliverLines_of_inHandler (h : p.core.InHandler) (ls : List (Line × Bool)) :
    p.Undisturbed ls (p.deliverLines ls) ∧ (p.deliverLines ls).core.InHandler := by
  induction ls generalizing p with
  | nil => exact ⟨.refl p, h⟩
  | cons change ls ih =>
      obtain ⟨l, level⟩ := change
      have hnone := h.writeFault?_eq_none (drive l level p.core.control.cause)
      have hnext : (p.deliverLine l level).core.InHandler := by
        rw [core_deliverLine_eq, hnone]
        exact h.storeControl_causeReg _
      obtain ⟨hrest, hhandler⟩ := ih hnext
      exact ⟨(undisturbed_deliverLine hnone).trans hrest, hhandler⟩

/-- The first line that brings in an exception is the last that does. -/
theorem deliverLines_cases (p : Processor) (ls : List (Line × Bool)) :
    p.Undisturbed ls (p.deliverLines ls) ∨ p.EntersAmid ls (p.deliverLines ls) := by
  induction ls generalizing p with
  | nil => exact .inl (.refl p)
  | cons change ls ih =>
      obtain ⟨l, level⟩ := change
      cases hfault : p.core.writeFault? SystemControl.causeReg
          (drive l level p.core.control.cause) with
      | none =>
          have hline := undisturbed_deliverLine hfault
          exact (ih (p.deliverLine l level)).imp hline.trans hline.entersAmid
      | some f =>
          have hline := enters_deliverLine hfault
          obtain ⟨hrest, hhandler⟩ := deliverLines_of_inHandler hline.handler ls
          exact .inr ⟨[(l, level)], ls, f, _, _, rfl, hline.undisturbed hrest hhandler⟩

/-- A delivery drives the lines that are asked for and enters at most one handler on the way. -/
theorem deliver_cases (p : Processor) :
    p.Undisturbed (Request.changes p.requests) p.deliver ∨
      p.EntersAmid (Request.changes p.requests) p.deliver := by
  rw [deliver_eq]
  rcases deliverLines_cases { p with requests := [] } (Request.changes p.requests) with
    h | ⟨before, after, f, epc, slot, hls, h⟩
  · exact .inl ⟨h.entered, h.control⟩
  · exact .inr ⟨before, after, f, epc, slot, hls, h.entered, h.control, h.handler⟩

theorem deliver_of_inHandler (h : p.core.InHandler) :
    p.Undisturbed (Request.changes p.requests) p.deliver ∧ p.deliver.core.InHandler := by
  have hwaiting : Core.InHandler { p with requests := [] }.core := h
  rw [deliver_eq]
  obtain ⟨hlines, hhandler⟩ := deliverLines_of_inHandler hwaiting (Request.changes p.requests)
  exact ⟨⟨hlines.entered, hlines.control⟩, hhandler⟩

end

end Processor

end R3000A
