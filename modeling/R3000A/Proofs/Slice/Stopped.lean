import R3000A.Proofs.Processor.Deliver
import R3000A.Proofs.System.Outcome

/-!
# The note of an ended slice

An instruction that ends the slice leaves a note in the core. Only unsupported operations and BREAK
do that, each under its setting. Everything else carries the note along, the delivery of requests
included.
-/

namespace R3000A

/-- Whether an effect ends the slice of a processor with these settings. -/
def Effect.stops (settings : Settings) : Effect → Bool
  | .halt => true
  | .unsupported _ => settings.stopOnUnsupported
  | _ => false

namespace Core

@[simp] theorem stopped_raiseIf (c : Core) (f? : Option Fault) :
    (c.raiseIf f?).stopped = c.stopped := by
  cases f? with
  | none => rfl
  | some f => exact (congrArg stopped (c.raise_besides c f) :)

theorem stopped_advance (c : Core) : c.advance.stopped = c.stopped :=
  (congrArg stopped (c.advance_besides c) :)

theorem stopped_writeDelayed (c : Core) (r : Reg) (v : Word) :
    (c.writeDelayed r v).stopped = c.stopped :=
  (congrArg stopped (c.writeDelayed_besides c r v) :)

theorem stopped_link (c : Core) (link : Option (Reg × Word)) :
    (c.link link).stopped = c.stopped :=
  (congrArg stopped (c.link_besides c link) :)

theorem stopped_writeControl (c : Core) (r : Reg) (v : Word) :
    (c.writeControl r v).stopped = c.stopped := by
  rw [writeControl, stopped_raiseIf]
  rfl

/-- Only an effect that stops the processor leaves the note. -/
theorem stopped_after (c : Core) (settings : Settings) (a : Answer) (e : Effect) :
    (c.after settings a e).stopped = (e.stops settings || c.stopped) := by
  cases e with
  | halt => rfl
  | unsupported what => exact stopped_advance _
  | write r v => exact (congrArg stopped (c.write_besides c r v) :)
  | writeDelayed r v => exact stopped_writeDelayed ..
  | load width address r extend => exact stopped_writeDelayed ..
  | branch target link =>
      exact (stopped_link ..).trans (congrArg stopped (c.branch_besides c target) :)
  | raise f link =>
      exact (stopped_link ..).trans (congrArg stopped (c.raise_besides c f) :)
  | writeControl r v => exact (stopped_writeControl ..).trans (stopped_advance _)
  | returnFromException => exact (stopped_raiseIf ..).trans (stopped_advance _)
  | hostCall =>
      simp only [after]
      split
      · rfl
      · exact stopped_advance _
  | _ => exact stopped_advance _

theorem stopped_setLines (c : Core) (changes : List (Line × Bool)) :
    (c.setLines changes).stopped = c.stopped :=
  setLines_induction (P := fun d => d.stopped = c.stopped)
    (fun _ _ _ hd => (stopped_writeControl ..).trans hd) rfl changes

end Core

theorem Processor.stopped_deliver (p : Processor) : p.deliver.core.stopped = p.core.stopped := by
  rw [core_deliver, Core.stopped_setLines]

namespace System

variable {β : Type}

theorem stopped_step (B : Bus β) (s : System β) :
    (s.step B).cpu.core.stopped =
      ((s.effect B).stops s.cpu.settings || s.cpu.core.stopped) := by
  rw [core_step, Core.stopped_after]
  rfl

end System

end R3000A
