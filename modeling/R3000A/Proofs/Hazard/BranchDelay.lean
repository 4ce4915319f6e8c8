import R3000A.Proofs.Hazard.Cleared

/-!
# Control flow and the branch delay law

Every instruction moves on exactly once. A jump or a taken branch leaves the next word to be run
with its target outstanding, and every other instruction goes where an outstanding branch says or
else to the next word, and leaves no branch behind. Apart from that an instruction does not notice
that it stands in a delay slot. Only what it loads stays outstanding for one more instruction.
-/

namespace R3000A

/-- The register that an effect loads and what the answer of the bus puts there. -/
def Effect.loaded? (a : Answer) : Effect → Option (Reg × Word)
  | .writeDelayed r v => some (r, v)
  | .load _ _ r extend => some (r, extend a.word)
  | _ => none

namespace Core

/-! ### Moving on -/

section

variable {c : Core} {settings : Settings} {a : Answer}

theorem after_of_loaded? {e : Effect} {r : Reg} {v : Word} (h : e.loaded? a = some (r, v)) :
    c.after settings a e = c.writeDelayed r v := by
  cases e with
  | writeDelayed q x =>
      simp only [Effect.loaded?, Option.some.injEq, Prod.mk.injEq] at h
      rw [after, h.1, h.2]
  | load width address q extend =>
      simp only [Effect.loaded?, Option.some.injEq, Prod.mk.injEq] at h
      rw [after, h.1, h.2]
  | _ => cases h

/-- A load goes on where the core was about to go and leaves no branch behind. -/
theorem writeDelayed_flow (c : Core) (r : Reg) (v : Word) :
    (c.writeDelayed r v).pc = c.nextPc ∧ (c.writeDelayed r v).branchPending = false := by
  cases h : c.branchPending with
  | true =>
      rw [writeDelayed_of_branchPending c r v h]
      refine ⟨rfl, ?_⟩
      by_cases hr : r = 0 <;> simp [branchPending, Pending.ofReg, hr]
  | false =>
      rw [writeDelayed_of_not_branchPending c r v h, write_eq]
      refine ⟨rfl, ?_⟩
      simp [branchPending, pending_settledHazard]

/-- An effect that raises nothing, takes no branch and loads nothing goes on where the core was
about to go and leaves nothing outstanding. -/
theorem after_flow (settings : Settings) {e : Effect} (hraised : c.raised? e = none) (hhalt : e ≠ .halt)
    (hhost : e = .hostCall → a.target = none) (hbranch : ∀ t link, e ≠ .branch t link)
    (hloaded : e.loaded? a = none) :
    (c.after settings a e).pc = c.nextPc ∧ (c.after settings a e).hazard = c.settledHazard := by
  have hadvance (d : Core) (hpc : d.pc = c.pc) (hhazard : d.hazard = c.hazard) :
      d.advance.pc = c.nextPc ∧ d.advance.hazard = c.settledHazard := by
    rw [advance_eq]
    constructor
    · rw [nextPc, nextPc, branchPending, branchPending, hpc, hhazard]
    · rw [settledHazard, settledHazard, hhazard]
  cases e with
  | raise f link => cases hraised
  | branch t link => exact absurd rfl (hbranch t link)
  | halt => exact absurd rfl hhalt
  | writeDelayed r v => cases hloaded
  | load width address r extend => cases hloaded
  | writeControl r v =>
      rw [raised?] at hraised
      rw [after, writeControl, hraised]
      exact hadvance c rfl rfl
  | returnFromException =>
      rw [raised?] at hraised
      rw [after, hraised]
      exact hadvance c rfl rfl
  | hostCall =>
      simp only [after, hhost rfl]
      exact hadvance { c with regs := a.regs } rfl rfl
  | _ => exact hadvance _ rfl rfl

theorem after_branch (t : Word) (link : Option (Reg × Word)) :
    (c.after settings a (.branch t link)).pc = c.pc + 4 ∧
      (c.after settings a (.branch t link)).hazard = ⟨.branch, t⟩ := by
  rw [after, link_eq, branch_eq]
  exact ⟨rfl, rfl⟩

end

/-! ### In a delay slot -/

section

variable {c : Core} {target : Word} {settings : Settings} {a : Answer} {e : Effect}

theorem advance_of_branch (h : c.hazard = ⟨.branch, target⟩) (p : Word) :
    c.advance =
      { (c.clearedAt p).advance with pc := target, previousPc := c.previousPc } := by
  rw [advance_eq, advance_eq]
  simp [nextPc, settledRegs, settledHazard, branchPending, h, clearedAt, cleared, Hazard.empty]

/-- An effect that raises nothing, takes no branch and loads nothing does in a delay slot what it
does elsewhere, and the branch is taken. -/
theorem after_of_branch (h : c.hazard = ⟨.branch, target⟩) (p : Word)
    (hraised : c.raised? e = none) (hraised' : (c.clearedAt p).raised? e = none)
    (hhalt : e ≠ .halt) (hhost : e = .hostCall → a.target = none)
    (hbranch : ∀ t link, e ≠ .branch t link) (hloaded : e.loaded? a = none) :
    c.after settings a e =
      { (c.clearedAt p).after settings a e with pc := target, previousPc := c.previousPc } := by
  cases e with
  | retire => exact advance_of_branch h p
  | write r v =>
      rw [after, write, advance_of_branch h p]
      rfl
  | writeHiLo hi lo => exact advance_of_branch (c := { c with hi := hi, lo := lo }) h p
  | store => exact advance_of_branch h p
  | storeMerged => exact advance_of_branch h p
  | loadGeometry address r =>
      exact advance_of_branch (c := { c with geometry := c.geometry.writeData r a.word }) h p
  | writeGeometryData r v =>
      exact advance_of_branch (c := { c with geometry := c.geometry.writeData r v }) h p
  | writeGeometryControl r v =>
      exact advance_of_branch (c := { c with geometry := c.geometry.writeControl r v }) h p
  | geometryCommand w =>
      exact advance_of_branch
        (c := { c with geometry := (c.geometry.command? w).getD c.geometry }) h p
  | unsupported what =>
      exact advance_of_branch
        (c := { c with stopped := settings.stopOnUnsupported || c.stopped }) h p
  | writeControl r v =>
      rw [raised?] at hraised hraised'
      rw [after, after, writeControl, writeControl, hraised, hraised', raiseIf, raiseIf,
        advance_of_branch h p]
      rfl
  | returnFromException =>
      rw [raised?] at hraised hraised'
      rw [after, after, hraised, hraised', raiseIf, raiseIf, leaveHandler, advance_of_branch h p]
      rfl
  | hostCall =>
      simp only [after, hhost rfl]
      rw [advance_of_branch (c := { c with regs := a.regs }) h p]
      rfl
  | libraryCall code =>
      exact advance_of_branch (c := { c with regs := a.regs.write 0 0 }) h p
  | raise f link => cases hraised
  | branch t link => exact absurd rfl (hbranch t link)
  | halt => exact absurd rfl hhalt
  | writeDelayed r v => cases hloaded
  | load width address r extend => cases hloaded

theorem writeDelayed_of_branch (h : c.hazard = ⟨.branch, target⟩) (r : Reg) (v : Word) :
    c.writeDelayed r v = { c with pc := target, hazard := ⟨.ofReg r, v⟩ } := by
  have hbranch : c.branchPending = true := by simp [branchPending, h]
  rw [writeDelayed_of_branchPending c r v hbranch]
  simp [nextPc, settledRegs, branchPending, h]

theorem reg_write_clearedAt (hzero : c.reg 0 = 0) (p : Word) (r : Reg) (v : Word) (q : Reg) :
    ((c.clearedAt p).write r v).reg q = if q = r ∧ q ≠ 0 then v else c.reg q := by
  rw [write_eq, reg]
  by_cases hq : q = 0
  · rw [if_neg (fun h => h.2 hq), hq, hzero]
    exact Bank.read_write_self _ _ _
  · have hread : ((c.regs.write r v).write 0 0).read q = if r = q then v else c.regs.read q := by
      rw [Bank.read_write_of_ne _ _ (Ne.symm hq), Bank.read_write]
    refine hread.trans ?_
    simp only [hq, ne_eq, not_false_eq_true, and_true, eq_comm (a := r)]
    rfl

end

/-! ### The instruction behind an effect -/

/-- The register that an instruction loads, unless the load is dropped because the cache is
isolated. -/
def loadTarget? (c : Core) (i : Instruction) : Option Reg :=
  match i with
  | .load _ rt _ _ => if c.control.cacheIsolated then none else some rt
  | _ => i.loadRegister?

section

variable {c : Core} {settings : Settings} {a : Answer}

theorem ifUsable_of_raised?_eq_none {n : Fin 4} {e : Effect}
    (h : c.raised? (c.ifUsable n e) = none) : c.ifUsable n e = e := by
  cases husable : c.control.usable n with
  | true => exact if_pos husable
  | false =>
      rw [ifUsable, if_neg (by simp [husable])] at h
      cases h

theorem loaded?_loadEffect {op : LoadOp} {rt base : Reg} {offset : Word}
    (h : c.raised? (c.loadEffect op rt base offset) = none) :
    ((c.loadEffect op rt base offset).loaded? a).map Prod.fst =
      if c.control.cacheIsolated then none else some rt := by
  cases hloads : c.loads op base offset with
  | true =>
      have hcache : c.control.cacheIsolated = false := by
        simp only [loads, Bool.and_eq_true, Bool.not_eq_true'] at hloads
        exact hloads.1
      rw [c.loadEffect_of_loads hloads, hcache]
      rfl
  | false =>
      rw [c.loadEffect_of_not_loads hloads, stoppedLoad] at h ⊢
      by_cases hcache : c.control.cacheIsolated = true
      · rw [if_pos hcache, if_pos hcache]
        rfl
      · rw [if_neg hcache] at h
        cases h

/-- The effect of an instruction that raises nothing loads what the instruction loads. -/
theorem loaded?_effect {i : Instruction} (h : c.raised? (c.effect settings i) = none) :
    ((c.effect settings i).loaded? a).map Prod.fst = c.loadTarget? i := by
  have hother (hi : i.loadRegister? = none) : (c.effect settings i).loaded? a = none := by
    have horigin := c.origin_effect settings i
    generalize c.effect settings i = e at horigin
    cases e with
    | writeDelayed r v => cases hi.symm.trans horigin
    | load width address r extend => cases hi.symm.trans horigin
    | _ => rfl
  cases i with
  | load op rt base offset => exact loaded?_loadEffect h
  | control op =>
      cases op with
      | moveFrom rt rd =>
          rw [effect] at h ⊢
          rw [ifUsable_of_raised?_eq_none h]
          rfl
      | _ =>
          rw [hother rfl]
          rfl
  | geometry op =>
      cases op with
      | moveFromData rt rd =>
          rw [effect] at h ⊢
          rw [ifUsable_of_raised?_eq_none h]
          rfl
      | moveFromControl rt rd =>
          rw [effect] at h ⊢
          rw [ifUsable_of_raised?_eq_none h]
          rfl
      | _ =>
          rw [hother rfl]
          rfl
  | _ =>
      rw [hother rfl]
      rfl

theorem effect_of_branchTarget?_of_raised?_eq_none {i : Instruction} {t : Word}
    (hi : c.branchTarget? i = some t) (h : c.raised? (c.effect settings i) = none) :
    c.effect settings i = .branch t (c.linkOf i) := by
  rw [effect_of_branchTarget? hi, branchEffect] at h ⊢
  by_cases hrefused : c.refuses 3 t = true
  · rw [if_pos hrefused] at h
    cases h
  · exact if_neg hrefused

theorem effect_ne_branch {i : Instruction} (hi : c.branchTarget? i = none) (t : Word)
    (link : Option (Reg × Word)) : c.effect settings i ≠ .branch t link := by
  intro h
  have horigin := c.origin_effect settings i
  rw [h] at horigin
  cases hi.symm.trans horigin.1

end

end Core

namespace System

variable {β : Type}

/-- What an instruction in the delay slot of a branch to `target` does, compared with the same
instruction run with an empty hazard slot. The bus is any, so its state tells the accesses. -/
structure InDelaySlot (B : Bus β) (s : System β) (target : Word) : Prop where
  bus : (s.step B).bus = (s.cleared.step B).bus
  requests : (s.step B).cpu.requests = (s.cleared.step B).cpu.requests
  pc : (s.step B).cpu.core.pc = target
  pc_cleared : (s.cleared.step B).cpu.core.pc = s.cpu.core.pc + 4
  hi : (s.step B).cpu.core.hi = (s.cleared.step B).cpu.core.hi
  lo : (s.step B).cpu.core.lo = (s.cleared.step B).cpu.core.lo
  word : (s.step B).cpu.core.word = (s.cleared.step B).cpu.core.word
  control : (s.step B).cpu.core.control = (s.cleared.step B).cpu.core.control
  geometry : (s.step B).cpu.core.geometry = (s.cleared.step B).cpu.core.geometry
  stopped : (s.step B).cpu.core.stopped = (s.cleared.step B).cpu.core.stopped
  previousPc : s.fetchedWord B ≠ 0 →
    (s.step B).cpu.core.previousPc = (s.cleared.step B).cpu.core.previousPc
  /-- What is loaded stays outstanding instead of being written at once. -/
  loaded : ∀ r, s.cpu.core.loadTarget? (s.instruction B) = some r →
    ∃ v, (s.step B).cpu.core.hazard = ⟨.ofReg r, v⟩ ∧
      (s.cleared.step B).cpu.core.hazard = .empty ∧
      ∀ q, (s.step B).cpu.core.reg q = s.cpu.core.reg q ∧
        (s.cleared.step B).cpu.core.reg q = if q = r ∧ q ≠ 0 then v else s.cpu.core.reg q
  /-- Other instructions do the same to the registers and leave nothing outstanding. -/
  regs : s.cpu.core.loadTarget? (s.instruction B) = none →
    (s.step B).cpu.core.hazard = .empty ∧ (s.cleared.step B).cpu.core.hazard = .empty ∧
      ∀ q, (s.step B).cpu.core.reg q = (s.cleared.step B).cpu.core.reg q

section

variable {B : Bus β} {s : System β}

theorem effect_ne_halt (hbreak : s.instruction B = .breakpoint → s.cpu.settings.breakMode ≠ .halt) :
    s.effect B ≠ .halt := by
  intro h
  have horigin := s.cpu.core.origin_effect s.cpu.settings (s.instruction B)
  rw [← effect, h] at horigin
  exact hbreak horigin.1 horigin.2

theorem target_eq_none
    (hhost : s.instruction B = .hostCall → ((s.fetch B).hostReply B).value.2 = none)
    (h : s.effect B = .hostCall) : (s.instructionAnswer B).value.target = none := by
  have horigin := s.cpu.core.origin_effect s.cpu.settings (s.instruction B)
  rw [← effect, h] at horigin
  rw [instructionAnswer, h]
  exact hhost horigin

theorem effect_cleared_of_branch {target : Word}
    (hpending : s.cpu.core.hazard = ⟨.branch, target⟩) : s.cleared.effect B = s.effect B := by
  apply Core.effect_cleared
  intro op rt base offset _ _
  simp [Core.upcomingReg, hpending]

/-- In a delay slot an instruction that loads nothing differs in where it goes. -/
theorem step_of_branch {target : Word} (hpending : s.cpu.core.hazard = ⟨.branch, target⟩)
    (hraised : s.cpu.core.raised? (s.effect B) = none)
    (hraised' : s.cpu.core.cleared.raised? (s.cleared.effect B) = none)
    (hhalt : s.effect B ≠ .halt)
    (htarget : s.effect B = .hostCall → (s.instructionAnswer B).value.target = none)
    (hbranch : ∀ t link, s.effect B ≠ .branch t link)
    (hload : (s.effect B).loaded? (s.instructionAnswer B).value = none) :
    (s.step B).cpu.core =
        { (s.cleared.step B).cpu.core with
          pc := target
          previousPc := (s.cpu.core.fetched (s.fetchedWord B)).previousPc } ∧
      (s.cleared.step B).cpu.core.pc = s.cpu.core.pc + 4 ∧
      (s.cleared.step B).cpu.core.hazard = .empty := by
  have heffect := effect_cleared_of_branch (B := B) hpending
  have hfetched : (s.cpu.core.fetched (s.fetchedWord B)).hazard = ⟨.branch, target⟩ := hpending
  have hraisedFetched : (s.cpu.core.fetched (s.fetchedWord B)).raised? (s.effect B) = none := by
    rw [Core.raised?_fetched]
    exact hraised
  have hraisedAt : ((s.cpu.core.fetched (s.fetchedWord B)).clearedAt s.cpu.core.pc).raised?
      (s.effect B) = none := by
    rw [← Core.fetched_cleared, Core.raised?_fetched, ← heffect]
    exact hraised'
  rw [core_step_cleared, instructionAnswer_cleared_of_effect heffect, heffect, core_step]
  exact ⟨Core.after_of_branch hfetched s.cpu.core.pc hraisedFetched hraisedAt hhalt htarget hbranch
    hload, Core.after_flow s.cpu.settings hraisedAt hhalt htarget hbranch hload⟩

/-- In a delay slot an instruction that loads leaves its register for later. -/
theorem step_of_branch_of_loaded? {target : Word} {r : Reg} {v : Word}
    (hpending : s.cpu.core.hazard = ⟨.branch, target⟩)
    (hload : (s.effect B).loaded? (s.instructionAnswer B).value = some (r, v)) :
    (s.step B).cpu.core =
        { s.cpu.core.fetched (s.fetchedWord B) with pc := target, hazard := ⟨.ofReg r, v⟩ } ∧
      (s.cleared.step B).cpu.core =
        ((s.cpu.core.fetched (s.fetchedWord B)).clearedAt s.cpu.core.pc).write r v := by
  have heffect := effect_cleared_of_branch (B := B) hpending
  have hfetched : (s.cpu.core.fetched (s.fetchedWord B)).hazard = ⟨.branch, target⟩ := hpending
  rw [core_step_cleared, instructionAnswer_cleared_of_effect heffect, heffect, core_step]
  rw [Core.after_of_loaded? hload, Core.after_of_loaded? hload]
  exact ⟨Core.writeDelayed_of_branch hfetched r v, Core.writeDelayed_of_not_branchPending _ r v rfl⟩

theorem inDelaySlot {target : Word} (hpending : s.cpu.core.hazard = ⟨.branch, target⟩)
    (hzero : s.cpu.core.reg 0 = 0) (hraised : s.cpu.core.raised? (s.effect B) = none)
    (hraised' : s.cpu.core.cleared.raised? (s.cleared.effect B) = none)
    (hhalt : s.effect B ≠ .halt)
    (htarget : s.effect B = .hostCall → (s.instructionAnswer B).value.target = none)
    (hbranch : ∀ t link, s.effect B ≠ .branch t link) : s.InDelaySlot B target := by
  have hanswer := instructionAnswer_cleared_of_effect (effect_cleared_of_branch (B := B) hpending)
  obtain ⟨hbus, hrequests⟩ := access_cleared hanswer
  have hloaded : ((s.effect B).loaded? (s.instructionAnswer B).value).map Prod.fst =
      s.cpu.core.loadTarget? (s.instruction B) := Core.loaded?_effect hraised
  cases hload : (s.effect B).loaded? (s.instructionAnswer B).value with
  | none =>
      rw [hload, Option.map_none] at hloaded
      obtain ⟨hcore, hpc, hhazard⟩ :=
        step_of_branch hpending hraised hraised' hhalt htarget hbranch hload
      constructor
      case bus => exact hbus
      case requests => exact hrequests
      case pc_cleared => exact hpc
      case previousPc => exact previousPc_step_cleared B
      case loaded =>
        intro r hr
        cases hloaded.trans hr
      case regs =>
        intro _
        refine ⟨?_, hhazard, ?_⟩
        · rw [hcore]
          exact hhazard
        · intro q
          rw [hcore]
          rfl
      all_goals rw [hcore]
  | some l =>
      obtain ⟨r, v⟩ := l
      rw [hload, Option.map_some] at hloaded
      obtain ⟨hcore, hcleared⟩ := step_of_branch_of_loaded? hpending hload
      have hwritten := hcleared
      rw [Core.write_eq] at hwritten
      constructor
      case bus => exact hbus
      case requests => exact hrequests
      case previousPc => exact previousPc_step_cleared B
      case loaded =>
        intro r' hr'
        cases hloaded.trans hr'
        refine ⟨v, ?_, ?_, ?_⟩
        · rw [hcore]
        · rw [hwritten]
          rfl
        · intro q
          constructor
          · rw [hcore]
            rfl
          · rw [hcleared]
            exact Core.reg_write_clearedAt (c := s.cpu.core.fetched (s.fetchedWord B)) hzero
              s.cpu.core.pc r v q
      case regs =>
        intro hnone
        cases hloaded.trans hnone
      case pc => rw [hcore]
      case pc_cleared =>
        rw [hwritten]
        rfl
      all_goals
        rw [hcore, hwritten]
        rfl

end

/-- Control flow and the branch delay law, for an instruction that enters no handler, is no host
call that the bus redirects and does not end the slice. A jump or a taken branch leaves the next
word to be run with its target outstanding, in place of any older branch. Every other instruction
goes to the target of an outstanding branch or else to the next word and leaves no branch behind,
and it does in a delay slot what it does elsewhere if it enters no handler there either. -/
theorem step_flow (B : Bus β) (s : System β) (hzero : s.cpu.core.reg 0 = 0)
    (hentered : (s.step B).cpu.entered = s.cpu.entered)
    (hhost : s.instruction B = .hostCall → ((s.fetch B).hostReply B).value.2 = none)
    (hbreak : s.instruction B = .breakpoint → s.cpu.settings.breakMode ≠ .halt) :
    (∀ t, s.cpu.core.branchTarget? (s.instruction B) = some t →
      (s.step B).cpu.core.pc = s.cpu.core.pc + 4 ∧
        (s.step B).cpu.core.hazard = ⟨.branch, t⟩) ∧
      (s.cpu.core.branchTarget? (s.instruction B) = none →
        ((s.step B).cpu.core.pc =
            if s.cpu.core.branchPending then s.cpu.core.hazard.value else s.cpu.core.pc + 4) ∧
          (s.step B).cpu.core.branchPending = false) ∧
      ∀ target, s.cpu.core.hazard = ⟨.branch, target⟩ →
        s.cpu.core.branchTarget? (s.instruction B) = none →
        (s.cleared.step B).cpu.entered = s.cpu.entered → s.InDelaySlot B target := by
  have hraised := raised?_eq_none hentered
  have hhalt := effect_ne_halt hbreak
  have htarget := target_eq_none hhost
  refine ⟨?_, ?_, ?_⟩
  · intro t ht
    have heffect : s.effect B = .branch t (s.cpu.core.linkOf (s.instruction B)) :=
      Core.effect_of_branchTarget?_of_raised?_eq_none ht hraised
    rw [core_step, heffect]
    exact Core.after_branch t _
  · intro hnone
    rw [core_step]
    cases hload : (s.effect B).loaded? (s.instructionAnswer B).value with
    | none =>
        obtain ⟨hpc, hhazard⟩ := Core.after_flow s.cpu.settings
          ((Core.raised?_fetched ..).trans hraised) hhalt htarget (Core.effect_ne_branch hnone) hload
        refine ⟨hpc, ?_⟩
        rw [Core.branchPending, hhazard, Core.pending_settledHazard]
        rfl
    | some l =>
        rw [Core.after_of_loaded? hload]
        exact Core.writeDelayed_flow _ l.1 l.2
  · intro target hpending hnone hentered'
    exact inDelaySlot hpending hzero hraised (raised?_eq_none hentered') hhalt htarget
      (Core.effect_ne_branch hnone)

def delaySlot : System Unit :=
  { cpu := { core := { hazard := ⟨.branch, 0x80001000⟩ } }, bus := () }

/-- LW into register 5 in the delay slot of a branch stays outstanding at the target. -/
theorem step_flow_of_load :
    delaySlot.cpu.core.reg 0 = 0 ∧
      (delaySlot.step (Bus.constant 0x8c050000)).cpu.entered = delaySlot.cpu.entered ∧
      (delaySlot.step (Bus.constant 0x8c050000)).cpu.core.pc = 0x80001000 ∧
      ∃ v, (delaySlot.step (Bus.constant 0x8c050000)).cpu.core.hazard = ⟨.ofReg 5, v⟩ ∧
        (delaySlot.cleared.step (Bus.constant 0x8c050000)).cpu.core.reg 5 = v := by
  have hinstruction : delaySlot.instruction (Bus.constant 0x8c050000) =
      .load .word 5 0 0 := by decide
  have hflow := step_flow (Bus.constant 0x8c050000) delaySlot (by decide) (by decide)
    (by rw [hinstruction]; intro h; cases h) (by rw [hinstruction]; intro h; cases h)
  have hslot := hflow.2.2 0x80001000 rfl (by rw [hinstruction]; rfl) (by decide)
  obtain ⟨v, hhazard, -, hregs⟩ := hslot.loaded 5 (by rw [hinstruction]; rfl)
  exact ⟨by decide, by decide, hslot.pc, v, hhazard, (hregs 5).2⟩

end System

end R3000A
