import R3000A.Proofs.Checked.Command
import R3000A.Proofs.Checked.Instruction
import R3000A.Slice

/-!
# Checked slices

A slice with its operations checked:

* `System.performChecked`: the commands of the geometry engine.
* `System.loadChecked`, `System.storeChecked`: the partial words.
* `System.instructionChecked`, `System.stepChecked`: these, and the other instructions.
* `Line.causeMaskChecked`, `Processor.setLineChecked`: the position of a line in the cause register
  and the shift by it, in 32 bits.
* `Line.requestBitChecked`, `Processor.deliverChecked`: the bit of each line in a byte of requests.
* `Slice.nextChecked`: the two counts of the slice, which have 32 bits and a sign. The one is raised
  by one and the other lowered by one.
* `Slice.advanceChecked`, `Slice.runChecked`: what the instructions check. The count is only
  compared.

The number of instructions that are left and the number of those that have run never add up to more
than the budget, which bounds both from above, and the former is lowered only while it is positive,
so the least it can become is -1.
-/

namespace R3000A

variable {β : Type}

/-! ### Instructions on a bus -/

namespace Core

theorem extend_of_loadEffect {c : Core} {op : LoadOp} {rt base : Reg} {offset : Word}
    {width : Width} {address : Word} {r : Reg} {extend : Word → Word}
    (h : c.loadEffect op rt base offset = .load width address r extend) :
    extend = op.result c.control.reverseEndian (c.effectiveAddress base offset)
      (c.upcomingReg rt) := by
  grind [loadEffect]

theorem merge_of_storeEffect {c : Core} {op : StoreOp} {rt base : Reg} {offset : Word}
    {address : Word} {merge : Word → Word}
    (h : c.storeEffect op rt base offset = .storeMerged address merge) :
    merge = op.merged c.control.reverseEndian (c.effectiveAddress base offset) (c.reg rt) := by
  cases op <;> grind [storeEffect]

end Core

namespace System

def performChecked (B : Bus β) (s : System β) : Effect → Checked (System β)
  | .geometryCommand w => do
    match ← s.cpu.core.geometry.commandChecked w with
    | some g => return s.modifyCore fun c => Core.advance { c with geometry := g }
    | none => return (s.modify (·.record (.unknownCommand w))).modifyCore Core.advance
  | e => return s.perform B e

/-- A load, whose value is put together from what is read and what the register held. -/
def loadChecked (B : Bus β) (s : System β) (op : LoadOp) (rt base : Reg) (offset : Word) :
    Checked (System β) :=
  let c := s.cpu.core
  match c.loadEffect op rt base offset with
  | .load width address r _ => do
    let (memory, s) := s.read B width address
    let v ← op.resultChecked c.control.reverseEndian (c.effectiveAddress base offset)
      (c.upcomingReg rt) memory
    return s.modifyCore (·.writeDelayed r v)
  | e => return s.perform B e

/-- A store, where a partial word is put together from the register and what is read. -/
def storeChecked (B : Bus β) (s : System β) (op : StoreOp) (rt base : Reg) (offset : Word) :
    Checked (System β) :=
  let c := s.cpu.core
  match c.storeEffect op rt base offset with
  | .storeMerged address _ => do
    let (memory, s) := s.read B .word address
    let v ← op.mergedChecked c.control.reverseEndian (c.effectiveAddress base offset) (c.reg rt)
      memory
    return (s.write B .word address v).modifyCore Core.advance
  | e => return s.perform B e

def instructionChecked (B : Bus β) (s : System β) : Instruction → Checked (System β)
  | .load op rt base offset => s.loadChecked B op rt base offset
  | .store op rt base offset => s.storeChecked B op rt base offset
  | i => do s.performChecked B (← s.cpu.core.effectChecked s.cpu.settings i)

def stepChecked (B : Bus β) (s : System β) : Checked (System β) :=
  let s := s.fetch B
  s.instructionChecked B (Instruction.decode s.cpu.core.word)

theorem performChecked_eq (B : Bus β) (s : System β) (e : Effect) :
    s.performChecked B e = .ok (s.perform B e) := by
  cases e with
  | geometryCommand w =>
    rw [performChecked, Geometry.commandChecked_eq, Checked.ok_bind, perform]
    cases s.cpu.core.geometry.command? w <;> rfl
  | _ => rfl

theorem loadChecked_eq (B : Bus β) (s : System β) (op : LoadOp) (rt base : Reg) (offset : Word) :
    s.loadChecked B op rt base offset =
      .ok (s.perform B (s.cpu.core.loadEffect op rt base offset)) := by
  rw [loadChecked]
  split
  case h_1 width address r extend heffect =>
    rw [heffect, Core.extend_of_loadEffect heffect, perform]
    obtain ⟨memory, s'⟩ := s.read B width address
    dsimp only
    rw [LoadOp.resultChecked_eq]
    rfl
  case h_2 => rfl

theorem storeChecked_eq (B : Bus β) (s : System β) (op : StoreOp) (rt base : Reg)
    (offset : Word) :
    s.storeChecked B op rt base offset =
      .ok (s.perform B (s.cpu.core.storeEffect op rt base offset)) := by
  rw [storeChecked]
  split
  case h_1 address merge heffect =>
    rw [heffect, Core.merge_of_storeEffect heffect, perform]
    obtain ⟨memory, s'⟩ := s.read B .word address
    dsimp only
    rw [StoreOp.mergedChecked_eq]
    rfl
  case h_2 => rfl

theorem stepChecked_eq (B : Bus β) (s : System β) : s.stepChecked B = .ok (s.step B) := by
  rw [stepChecked, step]
  cases hi : Instruction.decode (s.fetch B).cpu.core.word with
  | load op rt base offset => exact loadChecked_eq ..
  | store op rt base offset => exact storeChecked_eq ..
  | _ =>
    simp only [instructionChecked]
    rw [← hi, Core.effectChecked_eq, Checked.ok_bind, performChecked_eq]

end System

/-! ### Interrupt lines -/

def Line.causeMaskChecked (l : Line) : Checked Word := Checked.bitAbove .uint32 10 l

/-- The bit of a line in a byte in which the requests of the devices are collected. -/
def Line.requestBitChecked (l : Line) : Checked Int := Checked.shl .uint8 (pure 1) l

theorem Line.causeMaskChecked_eq (l : Line) : l.causeMaskChecked = .ok l.causeMask :=
  Checked.bitAbove_eq (by omega) (by decide)

theorem Line.requestBitsChecked_eq :
    Line.all.mapM Line.requestBitChecked = .ok [1, 2, 4, 8, 16, 32] := rfl

namespace Processor

def setLineChecked (p : Processor) (l : Line) (level : Bool) :
    Checked (Processor × InterruptState) := do
  let mask ← l.causeMaskChecked
  let cause := p.core.control.cause
  let (p, state) := p.writeControl SystemControl.causeReg
    (if level then cause ||| mask else cause &&& ~~~mask)
  return (if level then p.call l else p, state)

def deliverLineChecked (p : Processor) (l : Line) (level : Bool) : Checked Processor := do
  match ← p.setLineChecked l level with
  | (p, .active) => return p.record (.lineInterrupted l p.core.pc)
  | (p, .idle) => return p

/-- The processor after the waiting requests have been delivered. Every line is asked for. -/
def deliverChecked (p : Processor) : Checked Processor :=
  if p.requests.isEmpty then return p
  else do
    let _ ← Line.all.mapM Line.requestBitChecked
    (Request.changes p.requests).foldlM (fun p (l, level) => p.deliverLineChecked l level)
      { p with requests := [] }

theorem deliverLineChecked_eq (p : Processor) (l : Line) (level : Bool) :
    p.deliverLineChecked l level = .ok (p.deliverLine l level) := by
  have hset : p.setLineChecked l level = .ok (p.setLine l level) := by
    rw [setLineChecked, Line.causeMaskChecked_eq]
    rfl
  rw [deliverLineChecked, hset, Checked.ok_bind, deliverLine]
  obtain ⟨q, state⟩ := p.setLine l level
  cases state <;> rfl

theorem deliverChecked_eq (p : Processor) : p.deliverChecked = .ok p.deliver := by
  rw [deliverChecked, deliver, Line.requestBitsChecked_eq, Checked.ok_bind]
  split
  · rfl
  · simp only [deliverLineChecked_eq]
    exact List.foldlM_pure ..

end Processor

/-! ### Slices -/

namespace Slice

def nextChecked (B : Bus β) : Slice β → Checked (Slice β)
  | ⟨system, left, executed⟩ => do
    let s ← system.stepChecked B
    let executed ← Checked.add .int32 (pure executed) (pure 1)
    let left ← Checked.sub .int32 (pure (if s.cpu.core.stopped then 0 else left)) (pure 1)
    let cpu ← s.cpu.deliverChecked
    return {
      system := s.modify fun _ => cpu
      left := if Request.shortens s.cpu.requests then 0 else left
      executed := executed.toNat }

def advanceChecked (B : Bus β) : Nat → Slice β → Checked (Slice β)
  | 0, t => return t
  | n + 1, t => if 0 < t.left then do advanceChecked B n (← t.nextChecked B) else return t

def runChecked (B : Bus β) (budget : Int) (s : System β) : Checked (Slice β) :=
  advanceChecked B budget.toNat (start budget s)

theorem left_next_le (B : Bus β) {t : Slice β} (h : 0 < t.left) : (t.next B).left ≤ t.left - 1 := by
  change (if _ then 0 else (if _ then 0 else t.left) - 1) ≤ _
  grind

theorem executed_next (B : Bus β) (t : Slice β) : (t.next B).executed = t.executed + 1 := rfl

theorem nextChecked_eq (B : Bus β) {t : Slice β} (hleft : 0 < t.left)
    (hcounts : t.left + t.executed ≤ 0x7fffffff) : t.nextChecked B = .ok (t.next B) := by
  obtain ⟨system, left, executed⟩ := t
  dsimp only at hleft hcounts
  have hexecuted : Checked.add .int32 (pure (executed : Int)) (pure 1) = .ok (executed + 1) :=
    Checked.add_pure (Checked.holds_int32 (by omega) (by omega))
  have hlower (v : Int) (hlo : 0 ≤ v) (hhi : v ≤ 0x7fffffff) :
      Checked.sub .int32 (pure v) (pure 1) = .ok (v - 1) :=
    Checked.sub_pure (Checked.holds_int32 (by omega) (by omega))
  -- An instruction that stops the processor leaves none, and this count is lowered all the same.
  rw [nextChecked, System.stepChecked_eq, Checked.ok_bind, hexecuted, Checked.ok_bind,
    hlower _ (by split <;> omega) (by split <;> omega), Checked.ok_bind,
    Processor.deliverChecked_eq]
  rfl

theorem advanceChecked_eq (B : Bus β) (n : Nat) {t : Slice β}
    (hcounts : t.left + t.executed ≤ 0x7fffffff) : advanceChecked B n t = .ok (advance B n t) := by
  induction n generalizing t with
  | zero => rfl
  | succ n ih =>
    rw [advanceChecked, advance]
    split
    case isTrue hleft =>
      have hnext := left_next_le B hleft
      rw [nextChecked_eq B hleft hcounts]
      refine ih ?_
      rw [executed_next]
      omega
    case isFalse => rfl

/-- A slice runs to its end: the bound on its instructions is never what ends it. -/
theorem left_advance_le (B : Bus β) (n : Nat) {t : Slice β} (h : t.left ≤ n) :
    (advance B n t).left ≤ 0 := by
  induction n generalizing t with
  | zero => exact h
  | succ n ih =>
    rw [advance]
    split
    case isTrue hleft =>
      have hnext := left_next_le B hleft
      exact ih (by omega)
    case isFalse hleft => omega

theorem runChecked_eq (B : Bus β) (budget : Int32) (s : System β) :
    runChecked B budget.toInt s = .ok (run B budget.toInt s) := by
  refine advanceChecked_eq B _ ?_
  have hbudget := budget.toInt_lt
  change budget.toInt + (0 : Nat) ≤ 0x7fffffff
  omega

end Slice

/-- No operation fails: the commands of the geometry engine on all registers and all command words,
the instructions on all states of the core and all words, the steps on every bus, and the slices
with every budget, which run to their end. The divisor of the projection is never zero, and the
scale is at most three. -/
theorem arithmetic_never_fails :
    (∀ (g : Geometry) (w : Word), g.commandChecked w = .ok (g.command? w)) ∧
    (∀ h z : Nat, 0 < Geometry.divisor h z ∧ Geometry.perspective h z ≤ 0x30000) ∧
    (∀ (c : Core) (settings : Settings) (w : Word),
      c.effectChecked settings (.decode w) = .ok (c.effect settings (.decode w))) ∧
    ∀ {β : Type} (B : Bus β) (s : System β), s.stepChecked B = .ok (s.step B) ∧
      ∀ budget : Int32, Slice.runChecked B budget.toInt s = .ok (Slice.run B budget.toInt s) ∧
        (Slice.run B budget.toInt s).left ≤ 0 := by
  refine ⟨Geometry.commandChecked_eq, fun h z => ?_, Core.effectChecked_eq, fun B s => ?_⟩
  · exact ⟨Geometry.divisor_pos h z, Geometry.perspective_le h z⟩
  · refine ⟨System.stepChecked_eq B s, fun budget => ⟨Slice.runChecked_eq B budget s, ?_⟩⟩
    exact Slice.left_advance_le B _ (Int.self_le_toNat _)

end R3000A
