import R3000A.Proofs.Geometry.Commands
import R3000A.Proofs.System.Outcome

/-!
# Cores that a program cannot tell apart

`Core.Alike` relates cores that differ only in what is noted about the program and in what does not
show of the geometry engine. An instruction has the same effect on both and leaves them alike.
Most of it follows from one fact: the ways out of an instruction commute with replacing all that
such cores may differ in.
-/

namespace R3000A.Core

/-- The cores differ only in their notes and in what does not show of the geometry engine. -/
structure Alike (c d : Core) : Prop where
  besides : d = c.besides d
  geometry : c.geometry.Alike d.geometry

namespace Alike

variable {c d : Core}

theorem pc (h : c.Alike d) : c.pc = d.pc := (congrArg Core.pc h.besides).symm

theorem regs (h : c.Alike d) : c.regs = d.regs := (congrArg Core.regs h.besides).symm

theorem control (h : c.Alike d) : c.control = d.control := (congrArg Core.control h.besides).symm

/-- A change that commutes with replacing the rest keeps cores alike. -/
theorem map (f : Core → Core) (hf : ∀ c d, f (c.besides d) = (f c).besides d) (h : c.Alike d) :
    (f c).Alike (f d) := by
  have hc : f c = (f c).besides c := hf c c
  have hd : f d = (f c).besides d := (congrArg f h.besides).trans (hf c d)
  constructor
  · rw [hd]
    rfl
  · rw [congrArg Core.geometry hc, congrArg Core.geometry hd]
    exact h.geometry

theorem withGeometry (h : c.Alike d) {g k : Geometry} (hg : g.Alike k) :
    Alike { c with geometry := g } { d with geometry := k } :=
  ⟨congrArg (fun e : Core => { e with geometry := k }) h.besides, hg⟩

theorem withStopped (h : c.Alike d) (b b' : Bool) :
    Alike { c with stopped := b } { d with stopped := b' } :=
  ⟨congrArg (fun e : Core => { e with stopped := b' }) h.besides, h.geometry⟩

theorem fetched (h : c.Alike d) (w w' : Word) : (c.fetched w).Alike (d.fetched w') :=
  ⟨congrArg (fun e : Core =>
    { e with previousPc := (d.fetched w').previousPc, word := w' }) h.besides, h.geometry⟩

theorem advance (h : c.Alike d) : c.advance.Alike d.advance := h.map Core.advance advance_besides

theorem jumpTo (h : c.Alike d) (target : Word) : (c.jumpTo target).Alike (d.jumpTo target) :=
  h.map (·.jumpTo target) fun _ _ => rfl

theorem withRegs (h : c.Alike d) (b : Bank) :
    Alike { c with regs := b } { d with regs := b } :=
  h.map (fun c => { c with regs := b }) fun _ _ => rfl

theorem writeDelayed (h : c.Alike d) (r : Reg) (v : Word) :
    (c.writeDelayed r v).Alike (d.writeDelayed r v) :=
  h.map (·.writeDelayed r v) fun c d => writeDelayed_besides c d r v

theorem link (h : c.Alike d) (l : Option (Reg × Word)) : (c.link l).Alike (d.link l) :=
  h.map (·.link l) fun c d => link_besides c d l

theorem raise (h : c.Alike d) (f : Fault) : (c.raise f).Alike (d.raise f) :=
  h.map (·.raise f) fun c d => raise_besides c d f

theorem storeControl (h : c.Alike d) (r : Reg) (v : Word) :
    (c.storeControl r v).Alike (d.storeControl r v) :=
  h.map (·.storeControl r v) fun _ _ => rfl

theorem raiseIf (h : c.Alike d) (f? : Option Fault) : (c.raiseIf f?).Alike (d.raiseIf f?) := by
  cases f? with
  | none => exact h
  | some f => exact h.raise f

theorem modeFault? (h : c.Alike d) : c.modeFault? = d.modeFault? := by
  rw [h.besides]
  rfl

theorem writeFault? (h : c.Alike d) (r : Reg) (v : Word) : c.writeFault? r v = d.writeFault? r v := by
  rw [h.besides]
  rfl

theorem writeControl (h : c.Alike d) (r : Reg) (v : Word) :
    (c.writeControl r v).Alike (d.writeControl r v) := by
  rw [Core.writeControl, Core.writeControl, h.writeFault?]
  exact (h.storeControl r v).raiseIf _

theorem leaveHandler (h : c.Alike d) : c.leaveHandler.Alike d.leaveHandler :=
  h.map Core.leaveHandler fun c d => by
    rw [Core.leaveHandler, advance_besides]
    rfl

theorem geometryEffect (h : c.Alike d) (op : GeometryOp) :
    c.geometryEffect op = d.geometryEffect op := by
  rw [h.besides]
  cases op with
  | moveFromData rt rd => exact congrArg (Effect.writeDelayed rt) (h.geometry.readData rd)
  | moveFromControl rt rd =>
      exact congrArg (fun control : Bank => Effect.writeDelayed rt (control.read rd))
        h.geometry.control
  | _ => rfl

/-- An instruction has the same effect on both. -/
theorem effect (h : c.Alike d) (settings : Settings) (i : Instruction) :
    c.effect settings i = d.effect settings i := by
  cases i with
  | geometry op =>
      rw [Core.effect, Core.effect, h.geometryEffect, ifUsable, ifUsable, h.control]
  | storeGeometry rt base offset =>
      simp only [Core.effect, h.geometry.readData]
      rw [h.besides]
      rfl
  | _ =>
      rw [h.besides]
      rfl

/-- An effect to which the bus answers the same leaves both alike. -/
theorem after (h : c.Alike d) (settings : Settings) (a : Answer) (e : Effect) :
    (c.after settings a e).Alike (d.after settings a e) := by
  cases e with
  | write r v => exact h.map (·.write r v) fun c d => write_besides c d r v
  | writeDelayed r v => exact h.writeDelayed r v
  | load width address r extend => exact h.writeDelayed r _
  | writeHiLo hi lo =>
      exact (h.map (fun c => { c with hi := hi, lo := lo }) fun _ _ => rfl).advance
  | branch target link =>
      exact (h.map (·.branch target) fun c d => branch_besides c d target).link link
  | raise f link => exact (h.raise f).link link
  | loadGeometry address r => exact (h.withGeometry (h.geometry.writeData r a.word)).advance
  | writeGeometryData r v => exact (h.withGeometry (h.geometry.writeData r v)).advance
  | writeGeometryControl r v => exact (h.withGeometry (h.geometry.writeControl r v)).advance
  | geometryCommand w => exact (h.withGeometry (h.geometry.command w)).advance
  | writeControl r v => exact h.advance.writeControl r v
  | returnFromException =>
      rw [Core.after, Core.after, h.leaveHandler.modeFault?]
      exact h.leaveHandler.raiseIf _
  | unsupported what => exact (h.withStopped _ _).advance
  | halt => exact h.withStopped true true
  | hostCall =>
      -- The call ends with register 0 set to zero, whichever way it went on.
      refine map (fun c => { c with regs := c.regs.write 0 0 }) (fun _ _ => rfl) ?_
      cases a.target with
      | none => exact (h.withRegs a.regs).advance
      | some target => exact (h.withRegs a.regs).jumpTo target
  | libraryCall code => exact (h.withRegs _).advance
  | _ => exact h.advance

end Alike

end R3000A.Core
