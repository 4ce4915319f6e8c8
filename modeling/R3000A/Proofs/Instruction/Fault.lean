import R3000A.Effect

/-!
# Where an effect comes from

`Faults c settings i f` says that the core `c` refuses the instruction `i` because of `f`. It has
one case for each reason there is, stated by what the instruction is and what it asks for. `Origin`
adds the other effects that betray their instruction, and `origin_effect` is the one case analysis
over all instructions. An instruction that raises an exception is in one of the cases of `Faults`
by `origin_effect`, and one that is in such a case raises it by `Faults.effect_eq`. So nothing has
been changed yet when an instruction is refused: the decision is made on the core as it was found.
-/

namespace R3000A

namespace Instruction

/-- The coprocessor that an instruction asks for, if it checks that it may. -/
def coprocessor? : Instruction → Option (Fin 4)
  | control _ => some 0
  | coprocessor1 => some 1
  | geometry _ | loadGeometry .. | storeGeometry .. => some 2
  | _ => none

def linkRegister? : Instruction → Option Reg
  | jump _ link | branch _ _ link => if link then some 31 else none
  | jumpRegister _ link => link
  | _ => none

def loadRegister? : Instruction → Option Reg
  | load _ rt _ _ | control (.moveFrom rt _) => some rt
  | geometry (.moveFromData rt _) | geometry (.moveFromControl rt _) => some rt
  | _ => none

end Instruction

namespace Core

/-- Where a jump or a branch whose condition holds goes. Other instructions go nowhere. -/
def branchTarget? (c : Core) : Instruction → Option Word
  | .jump target _ => some (((c.pc + 4) &&& 0xf0000000) ||| target)
  | .jumpRegister rs _ => some (c.reg rs)
  | .branch test offset _ => if test.holds c.regs then some (c.pc + 4 + offset) else none
  | _ => none

def linkOf (c : Core) (i : Instruction) : Option (Reg × Word) :=
  i.linkRegister?.map fun r => (r, c.returnAddress)

/-- The core refuses an instruction because of a fault. -/
inductive Faults (c : Core) (settings : Settings) : Instruction → Fault → Prop where
  | systemCall : Faults c settings .systemCall .systemCall
  | breakpoint (h : settings.breakMode = .exception) :
      Faults c settings .breakpoint .breakpoint
  | illegal : Faults c settings .illegal .illegalInstruction
  | overflow {op : AluOp} {rd rs : Reg} {operand : Operand}
      (h : op.result? (c.reg rs) (operand.value c.regs) = none) :
      Faults c settings (.alu op rd rs operand) .overflow
  | coprocessor {i : Instruction} {n : Fin 4} (hi : i.coprocessor? = some n)
      (h : c.control.usable n = false) : Faults c settings i (.coprocessorUnusable n)
  | target {i : Instruction} {t : Word} (hi : c.branchTarget? i = some t)
      (h : c.refuses 3 t = true) : Faults c settings i (.loadAddress t)
  | load {op : LoadOp} {rt base : Reg} {offset : Word} (hcache : c.control.cacheIsolated = false)
      (hchecked : op.checked = true)
      (h : c.refuses op.alignMask (c.effectiveAddress base offset) = true) :
      Faults c settings (.load op rt base offset) (.loadAddress (c.effectiveAddress base offset))
  | store {op : StoreOp} {rt base : Reg} {offset : Word} (hcache : c.control.cacheIsolated = false)
      (hchecked : op.checked = true)
      (h : c.refuses op.alignMask (c.effectiveAddress base offset) = true) :
      Faults c settings (.store op rt base offset) (.storeAddress (c.effectiveAddress base offset))
  | loadGeometry {rt base : Reg} {offset : Word} (husable : c.control.usable 2 = true)
      (hcache : c.control.cacheIsolated = false)
      (h : c.refuses 3 (c.effectiveAddress base offset) = true) :
      Faults c settings (.loadGeometry rt base offset)
        (.loadAddress (c.effectiveAddress base offset))
  | storeGeometry {rt base : Reg} {offset : Word} (husable : c.control.usable 2 = true)
      (hcache : c.control.cacheIsolated = false)
      (h : c.refuses 3 (c.effectiveAddress base offset) = true) :
      Faults c settings (.storeGeometry rt base offset)
        (.storeAddress (c.effectiveAddress base offset))

variable {c : Core} {settings : Settings}

/-- A jump or a taken branch is refused or done, and keeps its return address in either case. -/
theorem effect_of_branchTarget? {i : Instruction} {t : Word} (h : c.branchTarget? i = some t) :
    c.effect settings i = c.branchEffect t (c.linkOf i) := by
  cases i with
  | jump target link =>
      simp only [branchTarget?, Option.some.injEq] at h
      cases link <;> simp [effect, linkOf, Instruction.linkRegister?, h]
  | jumpRegister rs link =>
      simp only [branchTarget?, Option.some.injEq] at h
      simp [effect, linkOf, Instruction.linkRegister?, h]
  | branch test offset link =>
      by_cases hholds : test.holds c.regs = true
      · simp only [branchTarget?, hholds, if_true, Option.some.injEq] at h
        cases link <;> simp [effect, linkOf, Instruction.linkRegister?, hholds, h]
      · simp [branchTarget?, hholds] at h
  | _ => simp [branchTarget?] at h

theorem Faults.effect_eq {i : Instruction} {f : Fault} (h : c.Faults settings i f) :
    c.effect settings i = .raise f (c.linkOf i) := by
  cases h with
  | systemCall => rfl
  | breakpoint h => simp [effect, h, linkOf, Instruction.linkRegister?]
  | illegal => rfl
  | overflow h => simp [effect, h, linkOf, Instruction.linkRegister?]
  | coprocessor hi h =>
      cases i <;> simp only [Instruction.coprocessor?, Option.some.injEq, reduceCtorEq] at hi <;>
        subst hi <;>
        simp [effect, ifUsable, h, linkOf, Instruction.linkRegister?]
  | target hi h =>
      rw [effect_of_branchTarget? hi]
      simp [branchEffect, h]
  | load hcache hchecked h =>
      simp [effect, loadEffect, hcache, hchecked, h, linkOf, Instruction.linkRegister?]
  | store hcache hchecked h =>
      simp [effect, storeEffect, hcache, hchecked, h, linkOf, Instruction.linkRegister?]
  | loadGeometry husable hcache h =>
      simp [effect, ifUsable, husable, hcache, h, linkOf, Instruction.linkRegister?]
  | storeGeometry husable hcache h =>
      simp [effect, ifUsable, husable, hcache, h, linkOf, Instruction.linkRegister?]

/-- Where an effect of the instruction `i` comes from. Most effects can come from several
instructions; those listed here tell which one it was. -/
def Origin (c : Core) (settings : Settings) (i : Instruction) : Effect → Prop
  | .raise f link => c.Faults settings i f ∧ link = c.linkOf i
  | .branch t link => c.branchTarget? i = some t ∧ link = c.linkOf i
  | .writeDelayed r _ | .load _ _ r _ => i.loadRegister? = some r
  | .writeControl .. => ∃ rt rd, i = .control (.moveTo rt rd)
  | .returnFromException => i = .control .returnFromException
  | .halt => i = .breakpoint ∧ settings.breakMode = .halt
  | .hostCall => i = .hostCall
  | .libraryCall code => i = .libraryCall code
  | .loadGeometry .. | .writeGeometryData .. | .writeGeometryControl .. | .geometryCommand _ =>
    i.coprocessor? = some 2
  | _ => True

theorem origin_branchEffect {i : Instruction} {t : Word} (h : c.branchTarget? i = some t) :
    c.Origin settings i (c.branchEffect t (c.linkOf i)) := by
  cases hrefused : c.refuses 3 t with
  | true =>
      rw [branchEffect, if_pos hrefused]
      exact ⟨.target h hrefused, rfl⟩
  | false =>
      rw [branchEffect, if_neg (by simp [hrefused])]
      exact ⟨h, rfl⟩

/-- An instruction that asks for a coprocessor is refused, or has the effect it has with it. -/
theorem origin_ifUsable {i : Instruction} {n : Fin 4} {e : Effect} (hi : i.coprocessor? = some n)
    (hlink : none = c.linkOf i) (h : c.control.usable n = true → c.Origin settings i e) :
    c.Origin settings i (c.ifUsable n e) := by
  cases husable : c.control.usable n with
  | true =>
      rw [ifUsable, if_pos husable]
      exact h husable
  | false =>
      rw [ifUsable, if_neg (by simp [husable])]
      exact ⟨.coprocessor hi husable, hlink⟩

/-- An access to memory is dropped, refused or made. -/
theorem origin_access {i : Instruction} {refused : Bool} {f : Fault} {dropped e : Effect}
    (hlink : none = c.linkOf i) (hdropped : c.Origin settings i dropped)
    (hfaults : c.control.cacheIsolated = false → refused = true → c.Faults settings i f)
    (he : c.Origin settings i e) :
    c.Origin settings i
      (if c.control.cacheIsolated then dropped else if refused then .raise f none else e) := by
  cases hcache : c.control.cacheIsolated with
  | true => exact hdropped
  | false =>
      cases hrefused : refused with
      | true => exact ⟨hfaults hcache hrefused, hlink⟩
      | false => exact he

theorem origin_loadEffect (op : LoadOp) (rt base : Reg) (offset : Word) :
    c.Origin settings (.load op rt base offset) (c.loadEffect op rt base offset) := by
  refine origin_access rfl trivial (fun hcache hrefused => ?_) rfl
  rw [Bool.and_eq_true] at hrefused
  exact .load hcache hrefused.1 hrefused.2

theorem origin_storeEffect (op : StoreOp) (rt base : Reg) (offset : Word) :
    c.Origin settings (.store op rt base offset) (c.storeEffect op rt base offset) := by
  refine origin_access rfl ?_ (fun hcache hrefused => ?_) ?_
  · split <;> trivial
  · rw [Bool.and_eq_true] at hrefused
    exact .store hcache hrefused.1 hrefused.2
  · split <;> trivial

/-- The effect of an instruction comes from this instruction. -/
theorem origin_effect (c : Core) (settings : Settings) (i : Instruction) :
    c.Origin settings i (c.effect settings i) := by
  cases i with
  | alu op rd rs operand =>
      cases hresult : op.result? (c.reg rs) (operand.value c.regs) with
      | none =>
          simp only [effect, hresult]
          exact ⟨.overflow hresult, rfl⟩
      | some v => simp [effect, hresult, Origin]
  | divide signed rs rt =>
      simp only [effect]
      split <;> trivial
  | jump target link =>
      rw [effect_of_branchTarget? rfl]
      exact origin_branchEffect rfl
  | jumpRegister rs link =>
      rw [effect_of_branchTarget? rfl]
      exact origin_branchEffect rfl
  | branch test offset link =>
      cases hholds : test.holds c.regs with
      | true =>
          have htarget : c.branchTarget? (.branch test offset link) = some (c.pc + 4 + offset) := by
            simp [branchTarget?, hholds]
          rw [effect_of_branchTarget? htarget]
          exact origin_branchEffect htarget
      | false => cases link <;> simp [effect, hholds, Origin]
  | systemCall => exact ⟨.systemCall, rfl⟩
  | breakpoint =>
      cases hmode : settings.breakMode with
      | exception =>
          simp only [effect, hmode]
          exact ⟨.breakpoint hmode, rfl⟩
      | halt =>
          simp only [effect, hmode]
          exact ⟨rfl, hmode⟩
  | control op =>
      refine origin_ifUsable rfl rfl fun _ => ?_
      cases op with
      | moveFrom rt rd => rfl
      | moveTo rt rd => exact ⟨rt, rd, rfl⟩
      | returnFromException => rfl
      | _ => trivial
  | coprocessor1 => exact origin_ifUsable rfl rfl fun _ => trivial
  | geometry op =>
      refine origin_ifUsable rfl rfl fun _ => ?_
      cases op with
      | unknownMove => trivial
      | _ => rfl
  | load op rt base offset => exact origin_loadEffect op rt base offset
  | store op rt base offset => exact origin_storeEffect op rt base offset
  | loadGeometry rt base offset =>
      refine origin_ifUsable rfl rfl fun husable => ?_
      exact origin_access rfl trivial (.loadGeometry husable) rfl
  | storeGeometry rt base offset =>
      refine origin_ifUsable rfl rfl fun husable => ?_
      exact origin_access rfl trivial (.storeGeometry husable) trivial
  | illegal => exact ⟨.illegal, rfl⟩
  | hostCall => rfl
  | libraryCall code => rfl
  | _ => trivial

end Core

end R3000A
