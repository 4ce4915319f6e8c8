import R3000A.Proofs.Core.Handler
import R3000A.Proofs.Exception.Precise
import R3000A.Proofs.Hazard.BranchDelay
import R3000A.RegisterId

/-!
# An interrupt in front of a delay slot

An interrupt that is taken after a branch and before its delay slot drops the outstanding target, so
the handler returns to the branch and the branch runs a second time. The second run must come to
what the first one came to. It computes with the registers that the first one left, which differ
from those the first one had found in two places: an older load has been written, and the return
address has been kept. Neither may be a register that decides where the branch goes, and then
`Core.after_branch_again` says that nothing else has changed.
-/

namespace R3000A

def Test.sources : Test → List Reg
  | eq rs rt | ne rs rt => [rs, rt]
  | lez rs | gtz rs | ltz rs | gez rs => [rs]

theorem Test.holds_congr {regs regs' : Bank} {test : Test}
    (h : ∀ r ∈ test.sources, regs.read r = regs'.read r) : test.holds regs = test.holds regs' := by
  cases test with
  | eq rs rt => rw [holds, holds, h rs (by simp [sources]), h rt (by simp [sources])]
  | ne rs rt => rw [holds, holds, h rs (by simp [sources]), h rt (by simp [sources])]
  | _ rs => rw [holds, holds, h rs (by simp [sources])]

/-- The registers that decide where a jump or a branch goes. -/
def Instruction.branchSources : Instruction → List Reg
  | jumpRegister rs _ => [rs]
  | branch test _ _ => test.sources
  | _ => []

def Bank.kept (b : Bank) : Option (Reg × Word) → Bank
  | none => b
  | some (r, v) => (b.write r v).write 0 0

/-- Keeping the same return address twice is keeping it once. -/
theorem Bank.kept_kept (b : Bank) (link : Option (Reg × Word)) :
    (b.kept link).kept link = b.kept link := by
  rcases link with - | ⟨r, v⟩
  · rfl
  · rw [kept, kept]
    by_cases hr : r = 0
    · rw [hr, write_write_self, write_write_self, write_write_self]
    · rw [write_comm _ hr, write_write_self, write_comm _ (Ne.symm hr), write_write_self]

theorem Core.link_eq_kept (c : Core) (link : Option (Reg × Word)) :
    c.link link = { c with regs := c.regs.kept link } := by
  cases link <;> rfl

namespace SystemControl

/-- The bits of the oldest pair in the stack of modes. -/
def oldestMode : Word := 0x30

theorem shiftLeft_shiftRight_and (s : Word) : ((s <<< 2) >>> 2) &&& (0xf : Word) = s &&& 0xf := by
  apply UInt32.toNat_inj.1
  have hmask : (0xf : Word).toNat = 2 ^ 4 - 1 := rfl
  simp only [UInt32.toNat_and, UInt32.toNat_shiftRight, UInt32.toNat_shiftLeft, hmask,
    Nat.and_two_pow_sub_one_eq_mod, Nat.shiftLeft_eq, Nat.shiftRight_eq_div_pow]
  change s.toNat * 4 % 2 ^ 32 / 4 % 16 = s.toNat % 16
  omega

/-- A push followed by a pop leaves the two younger pairs and all other bits as they were. -/
theorem popMode_pushMode_and (s : Word) :
    popMode (pushMode s) &&& ~~~oldestMode = s &&& ~~~oldestMode := by
  have hsplit : ~~~oldestMode = ~~~(0x3f : Word) ||| 0xf := by decide
  have hrest : popMode (pushMode s) &&& ~~~(0x3f : Word) = s &&& ~~~(0x3f : Word) := by
    have hmask : ~~~(0x3f : Word) = ~~~(0xf : Word) &&& ~~~(0x3f : Word) := by decide
    rw [hmask, ← UInt32.and_assoc, popMode_and_rest, UInt32.and_assoc, ← hmask, pushMode_and_rest]
  have hmodes : popMode (pushMode s) &&& (0xf : Word) = s &&& 0xf := by
    have hmask : (0xf : Word) = (0x3f : Word) >>> 2 := by decide
    calc popMode (pushMode s) &&& (0xf : Word)
        = (pushMode s &&& 0x3f) >>> 2 := by
          rw [popMode_and_modes, UInt32.shiftRight_and, ← hmask]
      _ = ((s <<< 2) >>> 2) &&& 0xf := by
          rw [pushMode_and_modes, UInt32.shiftRight_and, ← hmask]
      _ = s &&& 0xf := shiftLeft_shiftRight_and s
  rw [hsplit, Word.and_or, hrest, hmodes, ← Word.and_or]

theorem privilegeMask_congr {c d : SystemControl}
    (h : c.status &&& ~~~oldestMode = d.status &&& ~~~oldestMode) :
    c.privilegeMask = d.privilegeMask := by
  rw [privilegeMask, privilegeMask, Word.and_eq_of_subset h (by decide)]

end SystemControl

namespace Core

/-! ### The branch a second time -/

section

variable {c : Core} {i : Instruction} {t : Word}

theorem branchTarget?_congr {d : Core} (hpc : d.pc = c.pc)
    (hsources : ∀ r ∈ i.branchSources, d.reg r = c.reg r) :
    d.branchTarget? i = c.branchTarget? i := by
  cases i with
  | jump target link => rw [branchTarget?, branchTarget?, hpc]
  | jumpRegister rs link =>
      rw [branchTarget?, branchTarget?, hsources rs (by simp [Instruction.branchSources])]
  | branch test offset link =>
      rw [branchTarget?, branchTarget?, hpc, Test.holds_congr hsources]
  | _ => rfl

theorem upcomingReg_of_ne_load {r : Reg} (h : ∀ hr, c.hazard.pending ≠ .load r hr) :
    c.upcomingReg r = c.reg r := by
  cases hpending : c.hazard.pending with
  | load q hq =>
      have hne : q ≠ r := by
        rintro rfl
        exact h hq hpending
      simp [upcomingReg, hpending, hne]
  | _ => simp [upcomingReg, hpending]

/-- The core that has taken the branch `i` to `t`, with the return address kept. -/
def branched (c : Core) (i : Instruction) (t : Word) : Core := (c.branch t).link (c.linkOf i)

theorem branched_eq (c : Core) (i : Instruction) (t : Word) :
    c.branched i t =
      { c with
        pc := c.pc + 4
        regs := c.settledRegs.kept (c.linkOf i)
        hazard := ⟨.branch, t⟩ } := by
  rw [branched, link_eq_kept, branch_eq]

/-- A branch leaves the registers alone that it went by, unless it was about to write them. -/
theorem reg_branched (hzero : c.reg 0 = 0) {r : Reg}
    (hload : ∀ hr, c.hazard.pending ≠ .load r hr) (hlink : r ≠ 0 → i.linkRegister? ≠ some r) :
    (c.branched i t).reg r = c.reg r := by
  have hreg (q : Reg) : (c.branch t).reg q = c.upcomingReg q := by
    rw [branch_eq]
    exact c.read_settledRegs q
  have hbranch : (c.branch t).reg 0 = 0 := by rw [hreg, upcomingReg_zero, hzero]
  rw [branched, reg_link_linkOf i hbranch, if_neg (fun h => hlink h.1 h.2), hreg,
    upcomingReg_of_ne_load hload]

/-- Going back to a branch and taking it again leads to where it has led before. -/
theorem branched_branched (c : Core) (i : Instruction) (t : Word) (control : SystemControl)
    (p w : Word) :
    branched
        { c.branched i t with pc := c.pc, hazard := .empty, control, previousPc := p, word := w } i t =
      { c.branched i t with control, previousPc := p, word := w } := by
  have hkept : (c.settledRegs.kept (c.linkOf i)).kept (c.linkOf i) = c.settledRegs.kept (c.linkOf i) :=
    Bank.kept_kept _ _
  simp only [branched_eq, Core.mk.injEq, true_and, and_true]
  exact hkept

/-- What a program that is restarted in `d` can tell from `c`: nothing but what the last exception
has left behind. -/
structure Resumes (c d : Core) : Prop where
  pc : d.pc = c.pc
  regs : ∀ r, d.reg r = c.reg r
  hi : d.hi = c.hi
  lo : d.lo = c.lo
  hazard : d.hazard = c.hazard
  geometry : d.geometry = c.geometry
  status : d.control.status &&& ~~~SystemControl.oldestMode =
    c.control.status &&& ~~~SystemControl.oldestMode

/-- A branch that is taken once more in the same mode resumes what it has led to. -/
theorem resumes_after (settings : Settings) (a : Answer) (w w' : Word) {control : SystemControl}
    (hzero : c.reg 0 = 0) (htarget : c.branchTarget? i = some t) (hreached : c.refuses 3 t = false)
    (hload : ∀ r ∈ i.branchSources, ∀ hr, c.hazard.pending ≠ .load r hr)
    (hlink : ∀ r ∈ i.branchSources, r ≠ 0 → i.linkRegister? ≠ some r)
    (hstatus : control.status &&& ~~~SystemControl.oldestMode =
      c.control.status &&& ~~~SystemControl.oldestMode) :
    let first := (c.fetched w).branched i t
    let back : Core := { first with pc := c.pc, hazard := .empty, control }
    first.Resumes ((back.fetched w').after settings a (back.effect settings i)) := by
  intro first back
  have hsources (r : Reg) (hr : r ∈ i.branchSources) : back.reg r = c.reg r :=
    reg_branched (c := c.fetched w) hzero (hload r hr) (hlink r hr)
  have htarget' : back.branchTarget? i = some t := by
    rw [branchTarget?_congr (c := c) (d := back) rfl hsources, htarget]
  have hreached' : back.refuses 3 t = false := by
    rw [← hreached, refuses, refuses, SystemControl.privilegeMask_congr hstatus]
  have heffect : back.effect settings i = .branch t (c.linkOf i) := by
    rw [effect_of_branchTarget? htarget', branchEffect, if_neg (by simp [hreached'])]
    rfl
  have hafter : (back.fetched w').after settings a (back.effect settings i) =
      { first with
        control, previousPc := (back.fetched w').previousPc, word := w' } := by
    rw [heffect]
    exact branched_branched (c.fetched w) i t control _ w'
  have hcontrol : first.control = c.control := by
    rw [show first = (c.fetched w).branched i t from rfl, branched_eq]
    rfl
  rw [hafter]
  refine ⟨rfl, fun _ => rfl, rfl, rfl, rfl, rfl, ?_⟩
  rw [hcontrol]
  exact hstatus

end

/-! ### The interrupt -/

/-- In a handler nothing comes of a write to the cause register. -/
theorem writeFault?_raise (c : Core) (f : Fault) (v : Word) :
    (c.raise f).writeFault? SystemControl.causeReg v = none :=
  (inHandler_raise c f).writeFault?_eq_none v

end Core

namespace Processor

/-- The processor once the handler of the interrupt of line `l` has had the line released and has
given back the mode. -/
def handled (p : Processor) (l : Line) : Processor :=
  (p.setLine l false).1.modifyCore fun c => { c with control := c.control.leave }

/-- The core in the handler of the interrupt that a line has caused. -/
theorem core_setLine_of_active {p : Processor} {l : Line} (h : (p.setLine l true).2 = .active) :
    (p.setLine l true).1.core =
      (p.core.storeControl SystemControl.causeReg (drive l true p.core.control.cause)).raise
        .interrupt := by
  rw [setLine_snd] at h
  rw [core_setLine, Core.writeControl, eq_some_interrupt_of_stateOf h]
  rfl

/-- An interrupt between a branch and its delay slot drops the target. Nothing else is lost: the
handler is told to return to the branch, and the mode is given back. -/
theorem core_handled {p : Processor} {l : Line} (hbranch : p.core.branchPending = true)
    (h : (p.setLine l true).2 = .active) :
    let c := ((p.setLine l true).1.handled l).core
    c = { p.core with pc := p.core.control.handler, hazard := .empty, control := c.control } ∧
      c.control.epc = p.core.pc - 4 ∧
      c.control.status = SystemControl.popMode (SystemControl.pushMode p.core.control.status) := by
  generalize hcause : drive l false (p.setLine l true).1.core.control.cause = cause
  have hpending : p.core.hazard.pending = .branch := p.core.branchPending_iff.1 hbranch
  have hreleased : ((p.setLine l true).1.setLine l false).1.core =
      (p.setLine l true).1.core.storeControl SystemControl.causeReg cause := by
    rw [core_setLine, hcause, Core.writeControl, core_setLine_of_active h, Core.writeFault?_raise]
    rfl
  have hresume (d : Core) (hd : d.hazard = p.core.hazard) (hpc : d.pc = p.core.pc) :
      d.resumeAddress = p.core.pc - 4 := by
    rw [Core.resumeAddress, Core.branchPending, hd, hpending, hpc]
    rfl
  simp only [handled, core_modifyCore, hreleased, core_setLine_of_active h, Core.raise_eq]
  refine ⟨?_, ?_, ?_⟩
  · simp only [Core.storeControl, Core.settledRegs, hpending, SystemControl.handler_write_causeReg]
  · rw [SystemControl.epc_leave]
    simp only [Core.storeControl]
    rw [SystemControl.epc_write_causeReg, SystemControl.epc_afterFault]
    exact hresume _ rfl rfl
  · rw [SystemControl.status_leave]
    simp only [Core.storeControl]
    rw [SystemControl.status_write_causeReg, SystemControl.status_afterFault,
      SystemControl.status_write_causeReg]

end Processor

namespace System

variable {β : Type}

section

variable {B : Bus β} {s : System β} {t : Word}

/-- A branch that leaves its target outstanding has not been refused. -/
theorem refuses_eq_false_of_branchPending
    (htarget : s.cpu.core.branchTarget? (s.instruction B) = some t)
    (hpending : (s.step B).cpu.core.branchPending = true) : s.cpu.core.refuses 3 t = false := by
  cases hrefused : s.cpu.core.refuses 3 t with
  | false => rfl
  | true =>
      rw [core_step, effect, Core.effect_of_branchTarget? htarget, Core.branchEffect, if_pos hrefused,
        Core.after, Core.branchPending, Core.link_eq, Core.raise_eq] at hpending
      simp [Hazard.empty] at hpending

theorem core_step_of_branchTarget? (htarget : s.cpu.core.branchTarget? (s.instruction B) = some t)
    (hreached : s.cpu.core.refuses 3 t = false) :
    (s.step B).cpu.core =
      (s.cpu.core.fetched (s.fetchedWord B)).branched (s.instruction B) t := by
  rw [core_step, effect, Core.effect_of_branchTarget? htarget, Core.branchEffect,
    if_neg (by simp [hreached])]
  rfl

end

/-- An interrupt taken between a branch and its delay slot is restartable. The branch, which goes to
`t`, is not waiting for a load of a register it goes by and does not keep its return address in one.
The handler of the interrupt is told to return to the branch. If the line is then released, the mode
given back and the program counter set to where the handler returns to, and memory still holds the
branch there, one instruction leads back to the state that was interrupted. -/
theorem interrupted_branch_resumes (B : Bus β) (s : System β) (bus : β) (l : Line) {t : Word}
    (hzero : s.cpu.core.reg 0 = 0)
    (htarget : s.cpu.core.branchTarget? (s.instruction B) = some t)
    (hpending : (s.step B).cpu.core.branchPending = true)
    (hload : ∀ r ∈ (s.instruction B).branchSources, ∀ hr, s.cpu.core.hazard.pending ≠ .load r hr)
    (hlink : ∀ r ∈ (s.instruction B).branchSources,
      r ≠ 0 → (s.instruction B).linkRegister? ≠ some r)
    (hactive : ((s.step B).cpu.setLine l true).2 = .active)
    (hmemory : (B.read .word s.cpu.core.pc bus).value = s.fetchedWord B) :
    let taken := ((s.step B).cpu.setLine l true).1
    taken.core.control.epc = s.cpu.core.pc ∧
      taken.core.control.cause &&& SystemControl.delaySlotBit = SystemControl.delaySlotBit ∧
      ∃ back, (taken.handled l).set .pc (taken.handled l).core.control.epc = .ok back ∧
        (s.step B).cpu.core.Resumes ((⟨back, bus⟩ : System β).step B).cpu.core := by
  intro taken
  have hreached := refuses_eq_false_of_branchPending htarget hpending
  have hfirst := core_step_of_branchTarget? htarget hreached
  have hpc : (s.step B).cpu.core.pc - 4 = s.cpu.core.pc := by
    rw [hfirst, Core.branched_eq]
    exact UInt32.add_sub_cancel _ _
  have hstatus : (s.step B).cpu.core.control.status = s.cpu.core.control.status := by
    rw [hfirst, Core.branched_eq]
    rfl
  have htaken := Processor.core_setLine_of_active hactive
  have hslot : ((s.step B).cpu.core.storeControl SystemControl.causeReg
      (Processor.drive l true (s.step B).cpu.core.control.cause)).branchPending = true := hpending
  obtain ⟨hcore, hepc, hmode⟩ := Processor.core_handled hpending hactive
  refine ⟨?_, ?_, _, rfl, ?_⟩
  · rw [htaken, Core.control_raise, SystemControl.epc_afterFault, Core.resumeAddress, if_pos hslot]
    exact hpc
  · rw [htaken, Core.control_raise, SystemControl.cause_afterFault_and_delaySlotBit, if_pos hslot]
  · generalize hback : (taken.handled l).modifyCore _ = back
    have hbackCore : back.core =
        { (s.cpu.core.fetched (s.fetchedWord B)).branched (s.instruction B) t with
          pc := s.cpu.core.pc, hazard := .empty, control := (taken.handled l).core.control } := by
      rw [← hback, Processor.core_modifyCore, hepc, hpc, hcore, ← hfirst]
      rfl
    have hagain : (⟨back, bus⟩ : System β).fetchedWord B = s.fetchedWord B := by
      rw [← hmemory, fetchedWord, hbackCore]
    have hinstruction : (⟨back, bus⟩ : System β).instruction B = s.instruction B :=
      congrArg Instruction.decode hagain
    rw [hfirst, core_step, effect, hinstruction, hagain, hbackCore]
    refine Core.resumes_after _ _ _ _ hzero htarget hreached hload hlink ?_
    rw [hmode, hstatus]
    exact SystemControl.popMode_pushMode_and _

/-- A system with interrupts of line 0 enabled in front of JALR to the address in register 4, while
a load into register 5 is outstanding. -/
def callWithLoad : System Unit :=
  { cpu :=
      { core :=
          { pc := 0x80001000
            regs := Bank.zero.write 4 0x80002000
            hazard := ⟨.load 5 (by decide), 7⟩
            control := SystemControl.zero.write SystemControl.statusReg 0x00000401 } }
    bus := () }

/-- The call is interrupted and made again, with the load done and the return address kept. -/
theorem interrupted_branch_resumes_of_call :
    ((callWithLoad.step (Bus.constant 0x0080f809)).cpu.setLine 0 true).2 = .active ∧
      ∃ back, (((callWithLoad.step (Bus.constant 0x0080f809)).cpu.setLine 0 true).1.handled 0).set .pc
          0x80001000 = .ok back ∧
        ((⟨back, ()⟩ : System Unit).step (Bus.constant 0x0080f809)).cpu.core.hazard =
          ⟨.branch, 0x80002000⟩ ∧
        ((⟨back, ()⟩ : System Unit).step (Bus.constant 0x0080f809)).cpu.core.reg 5 = 7 ∧
        ((⟨back, ()⟩ : System Unit).step (Bus.constant 0x0080f809)).cpu.core.reg 31 = 0x80001008 := by
  have hinstruction : callWithLoad.instruction (Bus.constant 0x0080f809) =
      .jumpRegister 4 (some 31) := by decide
  have hactive : ((callWithLoad.step (Bus.constant 0x0080f809)).cpu.setLine 0 true).2 = .active := by
    decide
  obtain ⟨-, -, back, hback, hresumes⟩ := interrupted_branch_resumes (Bus.constant 0x0080f809)
    callWithLoad () 0 (t := 0x80002000) (by decide) (by rw [hinstruction]; rfl) (by decide)
    (by rw [hinstruction]; decide) (by rw [hinstruction]; decide) hactive rfl
  refine ⟨hactive, back, ?_, ?_, ?_, ?_⟩
  · rw [← hback]
    rfl
  · rw [hresumes.hazard]
    decide
  · rw [hresumes.regs]
    decide
  · rw [hresumes.regs]
    decide

end System

end R3000A
