import R3000A.Proofs.Hazard.Cleared

/-!
# The load delay law

A load in the delay slot of a branch writes its register only after the next instruction. That one
still computes with the old register, and the load comes between what it reads and what it writes.
`late` is this in one definition: the outcome of the instruction on an empty slot, with the older
load done afterwards unless its register has been written since. `after_of_load` says that this is
what every effect comes to, one case for each, and `step_of_load` reads the law off it.
-/

namespace R3000A

namespace Effect

def written? : Effect → Option Reg
  | .write r _ | .writeDelayed r _ | .load _ _ r _ => some r
  | .branch _ link | .raise _ link => link.map Prod.fst
  | _ => none

/-- Whether an effect ends with the outstanding write done and nothing handed over to the host. -/
def settles : Effect → Bool
  | .halt | .hostCall | .libraryCall _ => false
  | _ => true

end Effect

namespace Core

/-- The core `d`, which has come from `p`, once the older load of `v` into `r` is done as well. It
does not count if `r` has been written since. -/
def late (d : Core) (p : Word) (r : Reg) (v : Word) (written? : Option Reg) : Core :=
  { d with previousPc := p, regs := if written? = some r then d.regs else d.regs.write r v }

section

variable {d : Core} {p : Word} {r : Reg} {v : Word}

theorem late_none : d.late p r v none = { d with previousPc := p, regs := d.regs.write r v } := rfl

theorem setReg_late (hr : r ≠ 0) (q : Reg) (x : Word) :
    (d.late p r v none).setReg q x = (d.setReg q x).late p r v (some q) := by
  have hregs : ((d.regs.write r v).write q x).write 0 0 =
      if some q = some r then (d.regs.write q x).write 0 0
      else ((d.regs.write q x).write 0 0).write r v := by
    by_cases hq : q = r
    · rw [hq, if_pos rfl, Bank.write_write_self]
    · rw [if_neg (by simpa using hq), Bank.write_comm _ (Ne.symm hq), Bank.write_comm _ hr]
  simp only [late_none, setReg, hregs]
  rfl

theorem link_late (hr : r ≠ 0) (link : Option (Reg × Word)) :
    (d.late p r v none).link link = (d.link link).late p r v (link.map Prod.fst) := by
  cases link with
  | none => rfl
  | some l => exact setReg_late hr l.1 l.2

theorem raiseIf_late (h : d.hazard.pending = .none) (f? : Option Fault) :
    (d.late p r v none).raiseIf f? = (d.raiseIf f?).late p r v none := by
  cases f? with
  | none => rfl
  | some f =>
      rw [raiseIf, raiseIf, raise_eq, raise_eq, late_none, late_none]
      simp [settledRegs, branchPending, resumeAddress, h]

end

section

variable {c : Core} {r : Reg} {hr : r ≠ 0} {v : Word}

theorem advance_of_load (h : c.hazard = ⟨.load r hr, v⟩) (p : Word) :
    c.advance = (c.clearedAt p).advance.late c.previousPc r v none := by
  rw [advance_eq, advance_eq, late_none]
  simp [nextPc, settledRegs, settledHazard, branchPending, h, clearedAt, cleared, Hazard.empty]

theorem branch_of_load (h : c.hazard = ⟨.load r hr, v⟩) (p target : Word) :
    c.branch target = ((c.clearedAt p).branch target).late c.previousPc r v none := by
  rw [branch_eq, branch_eq, late_none]
  simp [settledRegs, h, clearedAt, cleared, Hazard.empty]

theorem raise_of_load (h : c.hazard = ⟨.load r hr, v⟩) (p : Word) (f : Fault) :
    c.raise f = ((c.clearedAt p).raise f).late c.previousPc r v none := by
  rw [raise_eq, raise_eq, late_none]
  simp [settledRegs, resumeAddress, branchPending, h, clearedAt, cleared, Hazard.empty]

theorem write_of_load (h : c.hazard = ⟨.load r hr, v⟩) (p : Word) (q : Reg) (x : Word) :
    c.write q x = ((c.clearedAt p).write q x).late c.previousPc r v (some q) := by
  rw [write, write, advance_of_load h p, setReg_late hr]

theorem writeDelayed_of_load (h : c.hazard = ⟨.load r hr, v⟩) (p : Word) (q : Reg) (x : Word) :
    c.writeDelayed q x = ((c.clearedAt p).writeDelayed q x).late c.previousPc r v (some q) := by
  have hbranch : c.branchPending = false := by simp [branchPending, h]
  rw [writeDelayed_of_not_branchPending c q x hbranch,
    writeDelayed_of_not_branchPending (c.clearedAt p) q x rfl, write_of_load h p]

/-- Whatever an effect does, the older load is done once and comes before the effect's own write. -/
theorem after_of_load (h : c.hazard = ⟨.load r hr, v⟩) (p : Word) (settings : Settings) (a : Answer)
    {e : Effect} (hsettles : e.settles = true) :
    c.after settings a e =
      ((c.clearedAt p).after settings a e).late c.previousPc r v e.written? := by
  cases e with
  | retire => exact advance_of_load h p
  | write q x => exact write_of_load h p q x
  | writeDelayed q x => exact writeDelayed_of_load h p q x
  | load width address q extend => exact writeDelayed_of_load h p q (extend a.word)
  | branch t link =>
      rw [after, branch_of_load h p, link_late hr]
      rfl
  | raise f link =>
      rw [after, raise_of_load h p, link_late hr]
      rfl
  | writeHiLo hi lo => exact advance_of_load (c := { c with hi := hi, lo := lo }) h p
  | store => exact advance_of_load h p
  | storeMerged => exact advance_of_load h p
  | loadGeometry address q =>
      exact advance_of_load (c := { c with geometry := c.geometry.writeData q a.word }) h p
  | writeGeometryData q x =>
      exact advance_of_load (c := { c with geometry := c.geometry.writeData q x }) h p
  | writeGeometryControl q x =>
      exact advance_of_load (c := { c with geometry := c.geometry.writeControl q x }) h p
  | geometryCommand w =>
      exact advance_of_load
        (c := { c with geometry := (c.geometry.command? w).getD c.geometry }) h p
  -- Nothing is outstanding once the core has moved on, so an exception that the new mode leads to
  -- does not do the load a second time.
  | writeControl q x =>
      rw [after, advance_of_load h p]
      exact raiseIf_late (d := (c.clearedAt p).advance.storeControl q x) rfl _
  | returnFromException =>
      rw [after, leaveHandler, advance_of_load h p]
      exact raiseIf_late (d := (c.clearedAt p).leaveHandler) rfl _
  | unsupported what =>
      exact advance_of_load
        (c := { c with stopped := settings.stopOnUnsupported || c.stopped }) h p
  | _ => cases hsettles

/-- An instruction has the same effect with and without the outstanding load, unless it is a load
that merges with it. -/
theorem effect_cleared_of_load (h : c.hazard = ⟨.load r hr, v⟩) (settings : Settings)
    {i : Instruction} (hmerges : ∀ op base offset, i = .load op r base offset → op.merges = true →
      c.loads op base offset = false) :
    c.cleared.effect settings i = c.effect settings i := by
  by_cases hload : ∃ op base offset, i = .load op r base offset ∧ op.merges = true
  · obtain ⟨op, base, offset, rfl, hop⟩ := hload
    have hloads := hmerges op base offset rfl hop
    exact (c.cleared.loadEffect_of_not_loads hloads r).trans (c.loadEffect_of_not_loads hloads r).symm
  · apply effect_cleared
    intro op rt base offset hi hop
    have hne : r ≠ rt := by
      rintro rfl
      exact hload ⟨op, base, offset, hi, hop⟩
    simp [upcomingReg, h, hne]

end

theorem written?_loadEffect (c : Core) (op : LoadOp) (rt base : Reg) (offset : Word) :
    (c.loadEffect op rt base offset).written? =
      if c.loads op base offset then some rt else none := by
  cases hloads : c.loads op base offset with
  | true =>
      rw [c.loadEffect_of_loads hloads]
      rfl
  | false =>
      rw [c.loadEffect_of_not_loads hloads, stoppedLoad]
      split <;> rfl

/-- Two cores that differ in register `r` at most. Where they have come from is not compared. -/
structure SameButFor (r : Reg) (c d : Core) : Prop where
  pc : c.pc = d.pc
  hazard : c.hazard = d.hazard
  hi : c.hi = d.hi
  lo : c.lo = d.lo
  word : c.word = d.word
  control : c.control = d.control
  geometry : c.geometry = d.geometry
  stopped : c.stopped = d.stopped
  regs : ∀ q, q ≠ r → c.reg q = d.reg q

theorem sameButFor_late (d : Core) (p : Word) (r : Reg) (v : Word) (written? : Option Reg) :
    (d.late p r v written?).SameButFor r d where
  pc := rfl
  hazard := rfl
  hi := rfl
  lo := rfl
  word := rfl
  control := rfl
  geometry := rfl
  stopped := rfl
  regs := by
    intro q hq
    rw [late, reg]
    split
    · rfl
    · exact Bank.read_write_of_ne _ _ (Ne.symm hq)

theorem reg_late (d : Core) (p : Word) (r : Reg) (v : Word) (written? : Option Reg) :
    (d.late p r v written?).reg r = if written? = some r then d.reg r else v := by
  rw [late, reg]
  split
  · rfl
  · exact Bank.read_write_self _ _ _

theorem sameButFor_write (c : Core) (r : Reg) (v w : Word) :
    (c.write r v).SameButFor r (c.write r w) := by
  have hregs (x : Word) (q : Reg) (hq : q ≠ r) :
      ((c.settledRegs.write r x).write 0 0).read q = (c.settledRegs.write 0 0).read q := by
    simp [Bank.read_write, Ne.symm hq]
  rw [write_eq, write_eq]
  constructor
  case regs =>
    intro q hq
    exact (hregs v q hq).trans (hregs w q hq).symm
  all_goals rfl

theorem reg_write_self (c : Core) {r : Reg} (hr : r ≠ 0) (v : Word) : (c.write r v).reg r = v := by
  rw [write_eq, reg]
  exact (Bank.read_write_of_ne _ _ (Ne.symm hr)).trans (Bank.read_write_self _ _ _)

theorem SameButFor.trans {r : Reg} {c d e : Core} (h : c.SameButFor r d) (h' : d.SameButFor r e) :
    c.SameButFor r e where
  pc := h.pc.trans h'.pc
  hazard := h.hazard.trans h'.hazard
  hi := h.hi.trans h'.hi
  lo := h.lo.trans h'.lo
  word := h.word.trans h'.word
  control := h.control.trans h'.control
  geometry := h.geometry.trans h'.geometry
  stopped := h.stopped.trans h'.stopped
  regs := fun q hq => (h.regs q hq).trans (h'.regs q hq)

/-- Every instruction settles, apart from the calls and from BREAK where it ends the slice. -/
theorem settles_effect {c : Core} {settings : Settings} {i : Instruction} (hhost : i ≠ .hostCall)
    (hlibrary : ∀ code, i ≠ .libraryCall code)
    (hbreak : i = .breakpoint → settings.breakMode ≠ .halt) :
    (c.effect settings i).settles = true := by
  have horigin := c.origin_effect settings i
  generalize c.effect settings i = e at horigin
  cases e with
  | halt => exact absurd horigin.2 (hbreak horigin.1)
  | hostCall => exact absurd horigin hhost
  | libraryCall code => exact absurd horigin (hlibrary code)
  | _ => rfl

end Core

namespace System

variable {β : Type}

section

variable (B : Bus β) (s : System β) {r : Reg} {hr : r ≠ 0} {v : Word}

theorem core_step_of_load (hpending : s.cpu.core.hazard = ⟨.load r hr, v⟩)
    (hsettles : (s.effect B).settles = true) :
    (s.step B).cpu.core =
      (((s.cpu.core.fetched (s.fetchedWord B)).clearedAt s.cpu.core.pc).after s.cpu.settings
        (s.instructionAnswer B).value (s.effect B)).late
          (s.cpu.core.fetched (s.fetchedWord B)).previousPc r v (s.effect B).written? := by
  have hfetched : (s.cpu.core.fetched (s.fetchedWord B)).hazard = ⟨.load r hr, v⟩ := hpending
  rw [core_step, Core.after_of_load hfetched s.cpu.core.pc _ _ hsettles]

theorem step_of_load_of_not_merges (hpending : s.cpu.core.hazard = ⟨.load r hr, v⟩)
    (hsettles : (s.effect B).settles = true)
    (heffect : s.cleared.effect B = s.effect B) :
    s.cleared.instructionAnswer B = s.instructionAnswer B ∧
      (s.step B).cpu.core = (s.cleared.step B).cpu.core.late
        (s.cpu.core.fetched (s.fetchedWord B)).previousPc r v (s.effect B).written? := by
  have hanswer := instructionAnswer_cleared_of_effect heffect
  refine ⟨hanswer, ?_⟩
  rw [core_step_of_load B s hpending hsettles, core_step_cleared, hanswer, heffect]

/-- A load that merges with the outstanding one finds its value in place of the old register. -/
theorem step_of_load_of_merges (hpending : s.cpu.core.hazard = ⟨.load r hr, v⟩)
    (hsettles : (s.effect B).settles = true) {op : LoadOp} {base : Reg} {offset : Word}
    (hi : s.instruction B = .load op r base offset) (hop : op.merges = true)
    (hloads : s.cpu.core.loads op base offset = true) :
    let address := s.cpu.core.reg base + offset
    let memory := (B.read .word (address &&& ~~~3) (s.fetch B).bus).value
    let reverse := s.cpu.core.control.reverseEndian
    s.cleared.instructionAnswer B = s.instructionAnswer B ∧
      (s.step B).cpu.core.SameButFor r (s.cleared.step B).cpu.core ∧
      (s.effect B).written? = some r ∧
      (s.step B).cpu.core.reg r = op.result reverse address v memory ∧
      (s.cleared.step B).cpu.core.reg r =
        op.result reverse address (s.cpu.core.reg r) memory := by
  intro address memory reverse
  have hupcoming : s.cpu.core.upcomingReg r = v := by simp [Core.upcomingReg, hpending]
  have heffect : s.effect B =
      .load .word (address &&& ~~~3) r (op.result reverse address v) := by
    rw [effect, hi, ← hupcoming, ← LoadOp.width_of_merges hop,
      ← LoadOp.busAddress_of_merges hop reverse]
    exact s.cpu.core.loadEffect_of_loads hloads r
  have hcleared : s.cleared.effect B =
      .load .word (address &&& ~~~3) r (op.result reverse address (s.cpu.core.reg r)) := by
    rw [effect, instruction_cleared, hi, ← LoadOp.width_of_merges hop,
      ← LoadOp.busAddress_of_merges hop reverse]
    exact s.cpu.core.cleared.loadEffect_of_loads hloads r
  have hanswer : s.cleared.instructionAnswer B = s.instructionAnswer B := by
    apply instructionAnswer_cleared
    intro bus
    rw [heffect, hcleared]
    rfl
  have hword : (s.instructionAnswer B).value.word = memory := by
    rw [instructionAnswer, heffect]
    rfl
  have hwritten : (s.effect B).written? = some r := by
    rw [heffect]
    rfl
  have hcore := core_step_of_load B s hpending hsettles
  have hcore' := core_step_cleared B s
  rw [hwritten, heffect, Core.after, hword, Core.writeDelayed_of_not_branchPending _ _ _ rfl] at hcore
  rw [hanswer, hcleared, Core.after, hword, Core.writeDelayed_of_not_branchPending _ _ _ rfl]
    at hcore'
  refine ⟨hanswer, ?_, hwritten, ?_, ?_⟩
  · rw [hcore, hcore']
    exact (Core.sameButFor_late _ _ _ _ _).trans (Core.sameButFor_write _ _ _ _)
  · rw [hcore, Core.reg_late, if_pos rfl, Core.reg_write_self _ hr]
  · rw [hcore', Core.reg_write_self _ hr]

end

/-- The load delay law. A system `s` in which a load of `v` into `r` is outstanding and the same
system without it run an instruction the same: on every bus, so with the same accesses, and with the
same core apart from `r`. There the load is seen unless the instruction writes `r` itself, and then
its own write counts. Only the partial loads into `r` differ, which merge with `v` instead of the
old register but compute their address from the old register. Calls are left out, since they hand
the registers over to the host, and so is BREAK where it ends the slice. -/
theorem step_of_load (B : Bus β) (s : System β) {r : Reg} {hr : r ≠ 0} {v : Word}
    (hpending : s.cpu.core.hazard = ⟨.load r hr, v⟩) (hhost : s.instruction B ≠ .hostCall)
    (hlibrary : ∀ code, s.instruction B ≠ .libraryCall code)
    (hbreak : s.instruction B = .breakpoint → s.cpu.settings.breakMode ≠ .halt) :
    (s.step B).bus = (s.cleared.step B).bus ∧
      (s.step B).cpu.requests = (s.cleared.step B).cpu.requests ∧
      (s.step B).cpu.core.SameButFor r (s.cleared.step B).cpu.core ∧
      (s.fetchedWord B ≠ 0 →
        (s.step B).cpu.core.previousPc = (s.cleared.step B).cpu.core.previousPc) ∧
      ((s.effect B).written? ≠ some r → (s.step B).cpu.core.reg r = v) ∧
      ((s.effect B).written? = some r →
        (∀ op base offset, s.instruction B = .load op r base offset → op.merges = false) →
        (s.step B).cpu.core.reg r = (s.cleared.step B).cpu.core.reg r) ∧
      ∀ op base offset, s.instruction B = .load op r base offset → op.merges = true →
        (s.effect B).written? = some r →
        let address := s.cpu.core.reg base + offset
        let memory := (B.read .word (address &&& ~~~3) (s.fetch B).bus).value
        let reverse := s.cpu.core.control.reverseEndian
        (s.step B).cpu.core.reg r = op.result reverse address v memory ∧
          (s.cleared.step B).cpu.core.reg r =
            op.result reverse address (s.cpu.core.reg r) memory := by
  have hsettles : (s.effect B).settles = true := Core.settles_effect hhost hlibrary hbreak
  by_cases hmerges : ∃ op base offset, s.instruction B = .load op r base offset ∧
      op.merges = true ∧ s.cpu.core.loads op base offset = true
  · obtain ⟨op, base, offset, hi, hop, hloads⟩ := hmerges
    obtain ⟨hanswer, hsame, hwritten, hreg, hreg'⟩ :=
      step_of_load_of_merges B s hpending hsettles hi hop hloads
    obtain ⟨hbus, hrequests⟩ := access_cleared hanswer
    refine ⟨hbus, hrequests, hsame, previousPc_step_cleared B, ?_, ?_, ?_⟩
    · intro hne
      exact absurd hwritten hne
    · intro _ hnot
      rw [hnot op base offset hi] at hop
      cases hop
    · intro op' base' offset' hi' _ _
      rw [hi] at hi'
      cases hi'
      exact ⟨hreg, hreg'⟩
  · have heffect : s.cleared.effect B = s.effect B := by
      apply Core.effect_cleared_of_load hpending
      intro op base offset hi hop
      rw [← Bool.not_eq_true]
      exact fun hloads => hmerges ⟨op, base, offset, hi, hop, hloads⟩
    obtain ⟨hanswer, hcore⟩ := step_of_load_of_not_merges B s hpending hsettles heffect
    obtain ⟨hbus, hrequests⟩ := access_cleared hanswer
    refine ⟨hbus, hrequests, ?_, previousPc_step_cleared B, ?_, ?_, ?_⟩
    · rw [hcore]
      exact Core.sameButFor_late _ _ _ _ _
    · intro hwritten
      rw [hcore, Core.reg_late, if_neg hwritten]
    · intro hwritten _
      rw [hcore, Core.reg_late, if_pos hwritten]
    · intro op base offset hi hop hwritten
      refine absurd ⟨op, base, offset, hi, hop, ?_⟩ hmerges
      have hload : s.effect B = s.cpu.core.loadEffect op r base offset := by
        rw [effect, hi]
        rfl
      rw [hload, Core.written?_loadEffect] at hwritten
      cases hloads : s.cpu.core.loads op base offset with
      | true => rfl
      | false => simp [hloads] at hwritten

/-- A system in which a load of 5 into register 2 is outstanding, which holds 7. -/
def loadOutstanding : System Unit :=
  { cpu := { core := { regs := Bank.zero.write 2 7, hazard := ⟨.load 2 (by decide), 5⟩ } }, bus := () }

/-- ADDU of register 2 to itself doubles the old value, and then register 2 holds the new one. -/
theorem step_of_load_of_doubling :
    loadOutstanding.cpu.core.hazard = ⟨.load 2 (by decide), 5⟩ ∧
      (loadOutstanding.step (Bus.constant 0x00421821)).cpu.core.reg 2 = 5 ∧
      (loadOutstanding.step (Bus.constant 0x00421821)).cpu.core.reg 3 = 14 := by
  have hinstruction : loadOutstanding.instruction (Bus.constant 0x00421821) =
      .alu .addu 3 2 (.reg 2) := by decide
  obtain ⟨-, -, hsame, -, hloaded, -⟩ := step_of_load (Bus.constant 0x00421821) loadOutstanding rfl
    (by rw [hinstruction]; decide) (by rw [hinstruction]; intro code h; cases h)
    (by rw [hinstruction]; intro h; cases h)
  refine ⟨rfl, hloaded ?_, ?_⟩
  · rw [effect, hinstruction]
    decide
  · rw [hsame.regs 3 (by decide)]
    decide

end System

end R3000A
