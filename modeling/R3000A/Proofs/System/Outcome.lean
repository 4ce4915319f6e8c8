import R3000A.Proofs.Processor.Entered

/-!
# What comes of an effect

An effect has a bus side and a core side that meet in one place. `Effect.served` is the bus side:
the accesses of an effect and the answer to them, which the core enters only through the registers
and the program counter that a call hands over. `Core.after` is the core side: the core once the
answer is there. `Core.raised?` tells which exception is entered on the way. The equations at the
end say that `perform` is these three and nothing else, so that two runs can be compared without
looking into `perform` again.
-/

namespace R3000A

/-- What the bus answers to an effect: the word that was read, or the registers that a call hands
back with the address to go on at. -/
structure Answer where
  word : Word := 0
  regs : Bank := .zero
  target : Option Word := none

variable {β : Type}

/-- The accesses of an effect to the bus and what comes of them. The program counter and the
registers are handed over to calls only. -/
def Effect.served (B : Bus β) (pc : Word) (regs : Bank) (bus : β) : Effect → Reply β Answer
  | .load width address _ _ =>
    let r := B.read width address bus
    ⟨{ word := width.truncate r.value }, r.bus, r.requests⟩
  | .store width address v =>
    let r := B.write width address (width.truncate v) bus
    ⟨{}, r.bus, r.requests⟩
  | .storeMerged address merge =>
    let r := B.read .word address bus
    let w := B.write .word address (merge r.value) r.bus
    ⟨{}, w.bus, r.requests ++ w.requests⟩
  | .loadGeometry address _ =>
    let r := B.read .word address bus
    ⟨{ word := r.value }, r.bus, r.requests⟩
  | .hostCall =>
    let r := B.hostCall pc regs bus
    ⟨{ regs := r.value.1, target := r.value.2 }, r.bus, r.requests⟩
  | .libraryCall code =>
    let r := B.libraryCall pc code regs bus
    ⟨{ regs := r.value }, r.bus, r.requests⟩
  | _ => ⟨{}, bus, []⟩

namespace Core

/-- The core after an effect to which the bus has answered `a`. -/
def after (c : Core) (settings : Settings) (a : Answer) : Effect → Core
  | .retire => c.advance
  | .write r v => c.write r v
  | .writeDelayed r v => c.writeDelayed r v
  | .writeHiLo hi lo => Core.advance { c with hi := hi, lo := lo }
  | .branch target link => (c.branch target).link link
  | .raise f link => (c.raise f).link link
  | .load _ _ r extend => c.writeDelayed r (extend a.word)
  | .store .. | .storeMerged .. => c.advance
  | .loadGeometry _ r => Core.advance { c with geometry := c.geometry.writeData r a.word }
  | .writeGeometryData r v => Core.advance { c with geometry := c.geometry.writeData r v }
  | .writeGeometryControl r v =>
    Core.advance { c with geometry := c.geometry.writeControl r v }
  | .geometryCommand w =>
    Core.advance { c with geometry := (c.geometry.command? w).getD c.geometry }
  | .writeControl r v => c.advance.writeControl r v
  | .returnFromException => c.leaveHandler.raiseIf c.leaveHandler.modeFault?
  | .unsupported _ =>
    Core.advance { c with stopped := settings.stopOnUnsupported || c.stopped }
  | .halt => { c with stopped := true }
  | .hostCall =>
    let called := { c with regs := a.regs }
    let gone := match a.target with
      | some target => called.jumpTo target
      | none => called.advance
    { gone with regs := gone.regs.write 0 0 }
  | .libraryCall _ => Core.advance { c with regs := a.regs.write 0 0 }

theorem previousPc_raiseIf (c : Core) (f? : Option Fault) :
    (c.raiseIf f?).previousPc = c.previousPc := by
  cases f? with
  | none => rfl
  | some f => exact c.previousPc_raise f

/-- No effect forgets where the instruction stood. -/
theorem previousPc_after (c : Core) (settings : Settings) (a : Answer) (e : Effect) :
    (c.after settings a e).previousPc = c.previousPc := by
  cases e with
  | writeControl r v =>
      rw [after, writeControl, previousPc_raiseIf]
      exact c.previousPc_advance
  | returnFromException =>
      rw [after, previousPc_raiseIf]
      exact c.previousPc_advance
  | hostCall =>
      simp only [after]
      split
      · rfl
      · exact previousPc_advance _
  | _ => simp [after]

def raised? (c : Core) : Effect → Option Fault
  | .raise f _ => some f
  | .writeControl r v => c.advance.writeFault? r v
  | .returnFromException => c.leaveHandler.modeFault?
  | _ => none

theorem raised?_fetched (c : Core) (w : Word) (e : Effect) :
    (c.fetched w).raised? e = c.raised? e := by
  cases e with
  | writeControl r v =>
      rw [raised?, raised?, advance_eq, advance_eq]
      rfl
  | returnFromException =>
      rw [raised?, raised?, leaveHandler, leaveHandler, advance_eq, advance_eq]
      rfl
  | _ => rfl

end Core

namespace System

def answer (B : Bus β) (s : System β) (e : Effect) : Reply β Answer :=
  e.served B s.cpu.core.pc s.cpu.core.regs s.bus

/-- What an effect does to the bus is its accesses. -/
theorem bus_perform (B : Bus β) (s : System β) (e : Effect) :
    (s.perform B e).bus = (s.answer B e).bus := by
  cases e with
  | geometryCommand w =>
      simp only [perform]
      split <;> rfl
  | _ => rfl

/-- The requests that an effect leaves come from its accesses. -/
theorem requests_perform (B : Bus β) (s : System β) (e : Effect) :
    (s.perform B e).cpu.requests = s.cpu.requests ++ (s.answer B e).requests := by
  cases e with
  | load | store | loadGeometry | hostCall | libraryCall => rfl
  | storeMerged address merge => exact List.append_assoc ..
  | raise f link =>
      simp only [perform, cpu_modify, Processor.requests_modifyCore, Processor.requests_raise]
      split <;> exact (List.append_nil _).symm
  | geometryCommand w =>
      simp only [perform]
      split <;> exact (List.append_nil _).symm
  | writeControl r v =>
      simp only [perform, cpu_modify, Processor.requests_moveToControl]
      exact (List.append_nil _).symm
  | returnFromException =>
      simp only [perform, cpu_modify, Processor.requests_returnFromException]
      exact (List.append_nil _).symm
  | unsupported what =>
      simp only [perform, cpu_modifyCore, cpu_modify, Processor.requests_modifyCore,
        Processor.requests_reportUnsupported]
      exact (List.append_nil _).symm
  | _ => exact (List.append_nil _).symm

/-- What an effect does to the core is settled once the bus has answered. -/
theorem core_perform (B : Bus β) (s : System β) (e : Effect) :
    (s.perform B e).cpu.core = s.cpu.core.after s.cpu.settings (s.answer B e).value e := by
  cases e with
  | raise f link =>
      simp only [perform, cpu_modify, Processor.core_modifyCore, Processor.core_raise, Core.after]
      split <;> rfl
  | geometryCommand w =>
      simp only [perform, Core.after]
      cases s.cpu.core.geometry.command? w <;> rfl
  | writeControl r v =>
      simp only [perform, cpu_modify, Processor.moveToControl_eq, Processor.core_tell,
        Processor.core_raiseIf]
      rfl
  | returnFromException =>
      simp only [perform, cpu_modify, Processor.returnFromException_eq, Processor.core_tell,
        Processor.core_raiseIf]
      rfl
  | unsupported what =>
      simp only [perform, cpu_modifyCore, cpu_modify, Processor.core_modifyCore,
        Processor.core_reportUnsupported]
      rfl
  | _ => rfl

/-- An effect enters the handler of the fault it raises and no other. -/
theorem entered_perform (B : Bus β) (s : System β) (e : Effect) :
    (s.perform B e).cpu.entered =
      s.cpu.entered ++ ((s.cpu.core.raised? e).map Fault.code).toList := by
  cases e with
  | raise f link =>
      simp only [perform, cpu_modify, Processor.entered_modifyCore, Processor.entered_raise]
      split
      · rw [Processor.entered_record_of_entry?_eq_none _ rfl]
        rfl
      · rfl
  | writeControl r v => exact Processor.entered_moveToControl s.cpu r v
  | returnFromException => exact Processor.entered_returnFromException s.cpu
  | geometryCommand w =>
      simp only [perform]
      split
      · exact (List.append_nil _).symm
      · rw [cpu_modifyCore, cpu_modify, Processor.entered_modifyCore,
          Processor.entered_record_of_entry?_eq_none _ rfl]
        exact (List.append_nil _).symm
  | unsupported what =>
      simp only [perform, cpu_modifyCore, cpu_modify, Processor.entered_modifyCore,
        Processor.entered_reportUnsupported]
      exact (List.append_nil _).symm
  | halt =>
      simp only [perform, cpu_modify, Processor.entered_stop]
      rw [Processor.entered_record_of_entry?_eq_none _ rfl]
      exact (List.append_nil _).symm
  | _ => exact (List.append_nil _).symm

/-! ### Whole instructions

The fetch notes what was fetched and asks for a word from the bus. The rest is the effect of the
instruction on the core as it was. -/

def effect (B : Bus β) (s : System β) : Effect :=
  s.cpu.core.effect s.cpu.settings (s.instruction B)

def instructionAnswer (B : Bus β) (s : System β) : Reply β Answer :=
  (s.fetch B).answer B (s.effect B)

theorem core_step (B : Bus β) (s : System β) :
    (s.step B).cpu.core =
      (s.cpu.core.fetched (s.fetchedWord B)).after s.cpu.settings (s.instructionAnswer B).value
        (s.effect B) := by
  rw [step_eq, core_perform]
  rfl

theorem bus_step (B : Bus β) (s : System β) : (s.step B).bus = (s.instructionAnswer B).bus := by
  rw [step_eq, bus_perform]
  rfl

theorem requests_step (B : Bus β) (s : System β) :
    (s.step B).cpu.requests = (s.fetch B).cpu.requests ++ (s.instructionAnswer B).requests := by
  rw [step_eq, requests_perform]
  rfl

theorem entered_step (B : Bus β) (s : System β) :
    (s.step B).cpu.entered =
      s.cpu.entered ++ ((s.cpu.core.raised? (s.effect B)).map Fault.code).toList := by
  rw [step_eq, entered_perform, cpu_fetch, Processor.core_modifyCore, Processor.core_post,
    Core.raised?_fetched]
  rfl

theorem raised?_eq_none {B : Bus β} {s : System β}
    (h : (s.step B).cpu.entered = s.cpu.entered) : s.cpu.core.raised? (s.effect B) = none := by
  rw [entered_step] at h
  cases hraised : s.cpu.core.raised? (s.effect B) with
  | none => rfl
  | some f => simp [hraised] at h

end System

end R3000A
