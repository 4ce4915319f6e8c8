import R3000A.Proofs.Instruction.Fault
import R3000A.Proofs.System.Outcome

/-!
# Exceptions are precise

An instruction that is refused leaves the core as if it had not been started: all a handler needs in
order to start it again is there. `Core.Precise c i f c'` says so of the core `c` that refused the
instruction `i` because of `f` and the core `c'` that the handler finds. The one thing that has
already been done is the older load, which was due in any case, and a jump that is refused keeps its
return address.
-/

namespace R3000A

namespace Core

theorem read_settledRegs (c : Core) (r : Reg) : c.settledRegs.read r = c.upcomingReg r := by
  cases h : c.hazard.pending with
  | none => simp [settledRegs, upcomingReg, h, reg]
  | load s nonzero => simp [settledRegs, upcomingReg, h, reg, Bank.read_write]
  | branch => simp [settledRegs, upcomingReg, h, reg]

/-- No load is ever outstanding for register 0. -/
theorem upcomingReg_zero (c : Core) : c.upcomingReg 0 = c.reg 0 := by
  cases h : c.hazard.pending with
  | none => simp [upcomingReg, h]
  | load s nonzero => simp [upcomingReg, h, nonzero]
  | branch => simp [upcomingReg, h]

def causeFields : Word :=
  SystemControl.delaySlotBit ||| SystemControl.coprocessorBits ||| SystemControl.codeBits

/-- What the handler of `f` finds in `c'` after the core `c` has refused the instruction `i`. -/
structure Precise (c : Core) (i : Instruction) (f : Fault) (c' : Core) : Prop where
  /-- The handler returns to the instruction, or to the branch before it. -/
  epc : c'.control.epc = if c.branchPending then c.pc - 4 else c.pc
  delaySlot : c'.control.cause &&& SystemControl.delaySlotBit =
    if c.branchPending then SystemControl.delaySlotBit else 0
  code : c'.control.cause &&& SystemControl.codeBits = f.code.number <<< 2
  coprocessor : c'.control.cause &&& SystemControl.coprocessorBits =
    (f.coprocessor?.map fun n : Fin 4 => UInt32.ofNat n <<< 28).getD
      (c.control.cause &&& SystemControl.coprocessorBits)
  causeRest : c'.control.cause &&& ~~~causeFields = c.control.cause &&& ~~~causeFields
  modes : c'.control.status &&& (0x3f : Word) = (c.control.status <<< 2) &&& 0x3f
  statusRest : c'.control.status &&& ~~~(0x3f : Word) = c.control.status &&& ~~~(0x3f : Word)
  badAddress : c'.control.read SystemControl.badAddressReg =
    f.address?.getD (c.control.read SystemControl.badAddressReg)
  controlRest : ∀ r, r ≠ SystemControl.badAddressReg → r ≠ SystemControl.statusReg →
    r ≠ SystemControl.causeReg → r ≠ SystemControl.epcReg →
      c'.control.read r = c.control.read r
  pc : c'.pc =
    if c.control.status &&& SystemControl.bootVectors != 0 then 0xbfc00180 else 0x80000080
  hazard : c'.hazard = .empty
  /-- A register holds what it was about to hold, unless it takes a return address. -/
  regs : ∀ r, c'.reg r =
    if r ≠ 0 ∧ i.linkRegister? = some r then c.pc + 8 else c.upcomingReg r
  hi : c'.hi = c.hi
  lo : c'.lo = c.lo
  geometry : c'.geometry = c.geometry
  stopped : c'.stopped = c.stopped

theorem reg_link_linkOf {c d : Core} (i : Instruction) (hzero : d.reg 0 = 0) (r : Reg) :
    (d.link (c.linkOf i)).reg r =
      if r ≠ 0 ∧ i.linkRegister? = some r then c.pc + 8 else d.reg r := by
  cases hlink : i.linkRegister? with
  | none => simp [linkOf, hlink, link]
  | some q =>
      have hregs : (d.link (c.linkOf i)).regs = (d.regs.write q (c.pc + 8)).write 0 0 := by
        simp only [linkOf, hlink, Option.map_some, link, setReg, returnAddress]
      by_cases hr : r = 0
      · rw [hr, reg, hregs, Bank.read_write_self, if_neg (fun h => h.1 rfl), hzero]
      · rw [reg, hregs, Bank.read_write_of_ne _ _ (Ne.symm hr), Bank.read_write]
        simp [hr, reg]

/-- Entering the handler of a refused instruction is precise, whatever word was fetched. -/
theorem precise_raise (c : Core) (i : Instruction) (f : Fault) (w : Word)
    (hzero : c.reg 0 = 0) : c.Precise i f (((c.fetched w).raise f).link (c.linkOf i)) := by
  have hraised : ((c.fetched w).raise f) =
      { c.fetched w with
        pc := c.control.handler
        regs := c.settledRegs
        hazard := .empty
        control := c.control.afterFault f c.resumeAddress c.branchPending } := raise_eq _ _
  have hregs (r : Reg) : ((c.fetched w).raise f).reg r = c.upcomingReg r := by
    rw [hraised]
    exact c.read_settledRegs r
  have hlinked : ((c.fetched w).raise f).reg 0 = 0 := by
    rw [hregs, upcomingReg_zero, hzero]
  have hcontrol : (((c.fetched w).raise f).link (c.linkOf i)).control =
      c.control.afterFault f c.resumeAddress c.branchPending := by
    rw [control_link, hraised]
  constructor
  case epc => rw [hcontrol, SystemControl.epc_afterFault, resumeAddress]
  case delaySlot => rw [hcontrol, SystemControl.cause_afterFault_and_delaySlotBit]
  case code => rw [hcontrol, SystemControl.cause_afterFault_and_codeBits]
  case coprocessor => rw [hcontrol, SystemControl.cause_afterFault_and_coprocessorBits]
  case causeRest =>
    rw [hcontrol]
    exact SystemControl.cause_afterFault_and_of_disjoint _ _ _ _ (by decide) (by decide) (by decide)
  case modes => rw [hcontrol, SystemControl.status_afterFault, SystemControl.pushMode_and_modes]
  case statusRest => rw [hcontrol, SystemControl.status_afterFault, SystemControl.pushMode_and_rest]
  case badAddress => rw [hcontrol, SystemControl.badAddress_afterFault]
  case controlRest =>
    intro r haddress hstatus hcause hepc
    rw [hcontrol, SystemControl.read_afterFault_of_ne _ _ _ _ haddress hstatus hcause hepc]
  case regs =>
    intro r
    rw [reg_link_linkOf i hlinked, hregs]
  case hazard => rw [link_eq, hraised]
  all_goals
    rw [link_eq, hraised]
    rfl

/-- Only a refused instruction or one that gives the processor a new mode enters a handler. -/
theorem faults_of_raised?_eq_some {c : Core} {settings : Settings} {i : Instruction} {f : Fault}
    (h : c.raised? (c.effect settings i) = some f) :
    c.Faults settings i f ∨ (∃ rt rd, i = .control (.moveTo rt rd)) ∨
      i = .control .returnFromException := by
  have horigin := c.origin_effect settings i
  generalize c.effect settings i = e at h horigin
  cases e with
  | raise f' link =>
      simp only [raised?, Option.some.injEq] at h
      rw [← h]
      exact Or.inl horigin.1
  | writeControl r v => exact Or.inr (Or.inl horigin)
  | returnFromException => exact Or.inr (Or.inr horigin)
  | _ => cases h

end Core

namespace System

variable {β : Type}

/-- Exceptions are precise. An instruction that is refused enters one handler, that of what it is
refused for, with nothing done to the bus after the fetch and the core as `Core.Precise` says. An
instruction that is not refused enters none, apart from the two that give the processor a new
mode. -/
theorem step_precise (B : Bus β) (s : System β) (hzero : s.cpu.core.reg 0 = 0) :
    (∀ f, s.cpu.core.Faults s.cpu.settings (s.instruction B) f →
      (s.step B).cpu.entered = s.cpu.entered ++ [f.code] ∧
        (s.step B).bus = (s.fetch B).bus ∧
        (s.step B).cpu.requests = (s.fetch B).cpu.requests ∧
        s.cpu.core.Precise (s.instruction B) f (s.step B).cpu.core) ∧
      ((∀ f, ¬ s.cpu.core.Faults s.cpu.settings (s.instruction B) f) →
        (s.step B).cpu.entered = s.cpu.entered ∨
          (∃ rt rd, s.instruction B = .control (.moveTo rt rd)) ∨
            s.instruction B = .control .returnFromException) := by
  constructor
  · intro f hfaults
    have heffect : s.effect B = .raise f (s.cpu.core.linkOf (s.instruction B)) := hfaults.effect_eq
    have hreply : s.instructionAnswer B = ⟨{}, (s.fetch B).bus, []⟩ := by
      rw [instructionAnswer, heffect]
      rfl
    refine ⟨?_, ?_, ?_, ?_⟩
    · rw [entered_step, heffect]
      rfl
    · rw [bus_step, hreply]
    · rw [requests_step, hreply, List.append_nil]
    · rw [core_step, heffect]
      exact s.cpu.core.precise_raise (s.instruction B) f (s.fetchedWord B) hzero
  · intro hnone
    rw [entered_step]
    cases hraised : s.cpu.core.raised? (s.effect B) with
    | none => exact Or.inl (List.append_nil _)
    | some f =>
        rcases Core.faults_of_raised?_eq_some hraised with hfaults | hmode
        · exact absurd hfaults (hnone f)
        · exact Or.inr hmode

/-- A system in the delay slot of a branch with an odd address in register 4. -/
def oddTarget : System Unit :=
  { cpu := { core := { regs := Bank.zero.write 4 1, hazard := ⟨.branch, 0x80000000⟩ } }, bus := () }

/-- JALR to an odd address in the delay slot of a branch is refused, returns to the branch and keeps
its own return address. -/
theorem step_precise_of_odd_target :
    oddTarget.cpu.core.reg 0 = 0 ∧
      (oddTarget.step (Bus.constant 0x0080f809)).cpu.entered = [.loadAddressError] ∧
      (oddTarget.step (Bus.constant 0x0080f809)).cpu.core.control.epc = 0xbfbffffc ∧
      (oddTarget.step (Bus.constant 0x0080f809)).cpu.core.reg 31 = 0xbfc00008 := by
  have hinstruction : oddTarget.instruction (Bus.constant 0x0080f809) =
      .jumpRegister 4 (some 31) := by decide
  have hfaults : oddTarget.cpu.core.Faults oddTarget.cpu.settings
      (oddTarget.instruction (Bus.constant 0x0080f809)) (.loadAddress 1) := by
    rw [hinstruction]
    exact .target rfl (by decide)
  have hprecise := (step_precise (Bus.constant 0x0080f809) oddTarget (by decide)).1 _ hfaults
  refine ⟨by decide, hprecise.1, ?_, ?_⟩
  · exact hprecise.2.2.2.epc
  · rw [hprecise.2.2.2.regs, hinstruction]
    decide

end System

end R3000A
