import R3000A.Core
import R3000A.Proofs.SystemControl.Entry

/-!
# The five ways out of an instruction

Each way in which an instruction leaves the core first settles the outstanding write and then does
its own part. The equations here write the outcome as one record over the old core, so that
everything an instruction leaves alone can be read off. What settling amounts to has three parts:
`settledRegs` are the registers with an outstanding load written, `nextPc` is where the core goes
on, and `settledHazard` is what is outstanding afterwards. In a delay slot nothing is left to write,
because the slot held the branch.
-/

namespace R3000A

namespace Core

def settledRegs (c : Core) : Bank :=
  match c.hazard.pending with
  | .load r _ => c.regs.write r c.hazard.value
  | _ => c.regs

/-- Where the core goes on: at the target of an outstanding branch, or else at the next word. -/
def nextPc (c : Core) : Word := if c.branchPending then c.hazard.value else c.pc + 4

/-- What is outstanding once the outstanding write is done. The value of an empty slot is kept. -/
def settledHazard (c : Core) : Hazard := if c.hazard.pending = .none then c.hazard else .empty

theorem pending_settledHazard (c : Core) : c.settledHazard.pending = .none := by
  by_cases h : c.hazard.pending = .none
  · simp [settledHazard, h]
  · simp [settledHazard, h, Hazard.empty]

theorem branchPending_iff (c : Core) : c.branchPending = true ↔ c.hazard.pending = .branch := by
  simp [branchPending]

theorem commitLoad_eq (c : Core) :
    c.commitLoad =
      { c with
        regs := c.settledRegs
        hazard := if c.branchPending then c.hazard else c.settledHazard } := by
  cases h : c.hazard.pending with
  | none => simp [commitLoad, settledRegs, settledHazard, branchPending, h]
  | load r nonzero => simp [commitLoad, settledRegs, settledHazard, branchPending, h]
  | branch => simp [commitLoad, settledRegs, branchPending, h]

theorem advance_eq (c : Core) :
    c.advance = { c with pc := c.nextPc, regs := c.settledRegs, hazard := c.settledHazard } := by
  cases h : c.hazard.pending with
  | none => simp [advance, commitLoad, nextPc, settledRegs, settledHazard, branchPending, h]
  | load r nonzero => simp [advance, commitLoad, nextPc, settledRegs, settledHazard, branchPending, h]
  | branch => simp [advance, jumpTo, nextPc, settledRegs, settledHazard, branchPending, h]

theorem write_eq (c : Core) (r : Reg) (v : Word) :
    c.write r v =
      { c with
        pc := c.nextPc
        regs := (c.settledRegs.write r v).write 0 0
        hazard := c.settledHazard } := by
  rw [write, advance_eq]
  rfl

theorem writeDelayed_of_branchPending (c : Core) (r : Reg) (v : Word) (h : c.branchPending = true) :
    c.writeDelayed r v =
      { c with pc := c.nextPc, regs := c.settledRegs, hazard := ⟨.ofReg r, v⟩ } := by
  have hpending : c.hazard.pending = .branch := c.branchPending_iff.1 h
  simp [writeDelayed, h, jumpTo, nextPc, settledRegs, hpending]

theorem writeDelayed_of_not_branchPending (c : Core) (r : Reg) (v : Word)
    (h : c.branchPending = false) : c.writeDelayed r v = c.write r v := by
  simp [writeDelayed, h]

theorem branch_eq (c : Core) (target : Word) :
    c.branch target =
      { c with pc := c.pc + 4, regs := c.settledRegs, hazard := ⟨.branch, target⟩ } := by
  rw [branch, commitLoad_eq]

theorem raise_eq (c : Core) (f : Fault) :
    c.raise f =
      { c with
        pc := c.control.handler
        regs := c.settledRegs
        hazard := .empty
        control := c.control.afterFault f c.resumeAddress c.branchPending } := by
  rw [raise, commitLoad_eq]
  rfl

theorem link_eq (c : Core) (link : Option (Reg × Word)) :
    c.link link = { c with regs := (c.link link).regs } := by
  cases link <;> rfl

/-! ### What instructions leave alone

No way out of an instruction looks at the geometry engine or at what is only noted about the
program, and none changes it. So each commutes with replacing all of that, and with `besides` of the
core itself this says that each part stays as it was. -/

def besides (c d : Core) : Core :=
  { c with
    previousPc := d.previousPc
    word := d.word
    geometry := d.geometry
    stopped := d.stopped }

theorem advance_besides (c d : Core) : (c.besides d).advance = c.advance.besides d := by
  rw [advance_eq, advance_eq]
  rfl

theorem write_besides (c d : Core) (r : Reg) (v : Word) :
    (c.besides d).write r v = (c.write r v).besides d := by
  rw [write_eq, write_eq]
  rfl

theorem writeDelayed_besides (c d : Core) (r : Reg) (v : Word) :
    (c.besides d).writeDelayed r v = (c.writeDelayed r v).besides d := by
  cases h : c.branchPending with
  | true =>
      rw [writeDelayed_of_branchPending c r v h,
        writeDelayed_of_branchPending (c.besides d) r v h]
      rfl
  | false =>
      rw [writeDelayed_of_not_branchPending c r v h,
        writeDelayed_of_not_branchPending (c.besides d) r v h, write_besides]

theorem branch_besides (c d : Core) (target : Word) :
    (c.besides d).branch target = (c.branch target).besides d := by
  rw [branch_eq, branch_eq]
  rfl

theorem raise_besides (c d : Core) (f : Fault) :
    (c.besides d).raise f = (c.raise f).besides d := by
  rw [raise_eq, raise_eq]
  rfl

theorem link_besides (c d : Core) (link : Option (Reg × Word)) :
    (c.besides d).link link = (c.link link).besides d := by
  cases link <;> rfl

/-! ### The system control coprocessor

Only an exception reaches it. -/

@[simp] theorem control_advance (c : Core) : c.advance.control = c.control := by
  rw [advance_eq]

theorem control_jumpTo (c : Core) (target : Word) : (c.jumpTo target).control = c.control := rfl

@[simp] theorem control_write (c : Core) (r : Reg) (v : Word) :
    (c.write r v).control = c.control := by
  rw [write_eq]

@[simp] theorem control_writeDelayed (c : Core) (r : Reg) (v : Word) :
    (c.writeDelayed r v).control = c.control := by
  cases h : c.branchPending with
  | true => rw [writeDelayed_of_branchPending c r v h]
  | false => rw [writeDelayed_of_not_branchPending c r v h, control_write]

@[simp] theorem control_branch (c : Core) (target : Word) :
    (c.branch target).control = c.control := by
  rw [branch_eq]

@[simp] theorem control_link (c : Core) (link : Option (Reg × Word)) :
    (c.link link).control = c.control := by
  rw [link_eq]

@[simp] theorem control_raise (c : Core) (f : Fault) :
    (c.raise f).control = c.control.afterFault f c.resumeAddress c.branchPending := by
  rw [raise_eq]

/-! ### The geometry engine

No way out of an instruction reaches it. -/

@[simp] theorem geometry_advance (c : Core) : c.advance.geometry = c.geometry :=
  (congrArg geometry (c.advance_besides c) :)

@[simp] theorem geometry_write (c : Core) (r : Reg) (v : Word) :
    (c.write r v).geometry = c.geometry :=
  (congrArg geometry (c.write_besides c r v) :)

@[simp] theorem geometry_writeDelayed (c : Core) (r : Reg) (v : Word) :
    (c.writeDelayed r v).geometry = c.geometry :=
  (congrArg geometry (c.writeDelayed_besides c r v) :)

@[simp] theorem geometry_branch (c : Core) (target : Word) :
    (c.branch target).geometry = c.geometry :=
  (congrArg geometry (c.branch_besides c target) :)

@[simp] theorem geometry_link (c : Core) (link : Option (Reg × Word)) :
    (c.link link).geometry = c.geometry :=
  (congrArg geometry (c.link_besides c link) :)

@[simp] theorem geometry_raise (c : Core) (f : Fault) : (c.raise f).geometry = c.geometry :=
  (congrArg geometry (c.raise_besides c f) :)

/-! ### Where the core has come from

Only a fetch notes that. -/

@[simp] theorem previousPc_advance (c : Core) : c.advance.previousPc = c.previousPc :=
  (congrArg previousPc (c.advance_besides c) :)

@[simp] theorem previousPc_write (c : Core) (r : Reg) (v : Word) :
    (c.write r v).previousPc = c.previousPc :=
  (congrArg previousPc (c.write_besides c r v) :)

@[simp] theorem previousPc_writeDelayed (c : Core) (r : Reg) (v : Word) :
    (c.writeDelayed r v).previousPc = c.previousPc :=
  (congrArg previousPc (c.writeDelayed_besides c r v) :)

@[simp] theorem previousPc_branch (c : Core) (target : Word) :
    (c.branch target).previousPc = c.previousPc :=
  (congrArg previousPc (c.branch_besides c target) :)

@[simp] theorem previousPc_link (c : Core) (link : Option (Reg × Word)) :
    (c.link link).previousPc = c.previousPc :=
  (congrArg previousPc (c.link_besides c link) :)

@[simp] theorem previousPc_raise (c : Core) (f : Fault) :
    (c.raise f).previousPc = c.previousPc :=
  (congrArg previousPc (c.raise_besides c f) :)

end Core

end R3000A
