import R3000A.Proofs.System.Discipline
import R3000A.Slice

/-!
# Accesses while the cache is isolated

A program isolates the cache in order to clear it. Its loads and stores then stop short of the bus,
and the core moves on as if a NOP stood in their place: with the outstanding write done, and in a
delay slot at the target of the branch. What is noted about the program still tells them apart, and
so does the host, which hears of every such access but that of a whole word to be stored. It may
have asked for the slice to end there, and so the two do not take equally long to run
(`not_forall_executed_nopAt`).
-/

namespace R3000A

variable {β : Type}

/-- The bus with a NOP at `pc`. -/
def Bus.nopAt (B : Bus β) (pc : Word) : Bus β :=
  { B with
    read := fun width address b =>
      let r := B.read width address b
      if width = .word ∧ address = pc then { r with value := 0 } else r }

namespace Instruction

/-- What is reported when the isolated cache drops an access. -/
def dropped? : Instruction → Option Unsupported
  | load .. => some .isolatedLoad
  | store op .. => if op = .word then none else some .isolatedStore
  | loadGeometry .. => some .isolatedGeometryLoad
  | storeGeometry .. => some .isolatedGeometryStore
  | _ => none

theorem decode_zero : decode 0 = .alu .sll 0 0 (.immediate 0) := by decide

theorem ne_zero_of_address? {w : Word} (h : (decode w).address?.isSome = true) : w ≠ 0 := by
  rintro rfl
  rw [decode_zero] at h
  cases h

end Instruction

namespace Core

theorem effect_nop (c : Core) (settings : Settings) :
    ∃ v, c.effect settings (Instruction.decode 0) = .write 0 v := by
  rw [Instruction.decode_zero]
  exact ⟨_, rfl⟩

/-- The isolated cache drops every access that is not refused for its coprocessor. -/
theorem effect_of_isolated {c : Core} (settings : Settings) {i : Instruction}
    (hi : i.address?.isSome = true) (hcache : c.control.cacheIsolated = true)
    (husable : i.coprocessor? = some 2 → c.control.usable 2 = true) :
    c.effect settings i = i.dropped?.elim .retire .unsupported := by
  cases i with
  | load op rt base offset => exact if_pos hcache
  | store op rt base offset =>
      cases op with
      | _ => exact if_pos hcache
  | loadGeometry rt base offset =>
      rw [effect, ifUsable, if_pos (husable rfl), if_pos hcache]
      rfl
  | storeGeometry rt base offset =>
      rw [effect, ifUsable, if_pos (husable rfl), if_pos hcache]
      rfl
  | _ => cases hi

end Core

namespace Processor

def reportDropped (p : Processor) (what? : Option Unsupported) : Processor :=
  what?.elim p p.reportUnsupported

theorem reportDropped_eq (p : Processor) (what? : Option Unsupported) :
    p.reportDropped what? =
      { p with
        core := { p.core with
          stopped := what?.isSome && p.settings.stopOnUnsupported || p.core.stopped }
        journal := (what?.elim p fun what =>
          p.record (.unsupported what p.core.pc p.core.word)).journal } := by
  cases what? with
  | none => rfl
  | some what =>
      cases hstop : p.settings.stopOnUnsupported <;>
        simp [reportDropped, reportUnsupported, hstop, stop, modifyCore, record]

end Processor

namespace System

/-- The instruction at the program counter does what a NOP would do there. Register 0 is set apart,
which a NOP clears, and so are what is noted about the program and what the host is told. -/
structure StandsForNop (B : Bus β) (s : System β) : Prop where
  step : s.step (B.nopAt s.cpu.core.pc) =
    { s.step B with
      cpu := { (s.step B).cpu with
        core := { (s.step B).cpu.core with
          regs := (s.step B).cpu.core.regs.write 0 0
          previousPc := (s.cpu.core.fetched 0).previousPc
          word := 0
          stopped := s.cpu.core.stopped }
        journal := s.cpu.journal } }
  previousPc : (s.step B).cpu.core.previousPc = s.cpu.core.pc
  stopped : (s.step B).cpu.core.stopped =
    ((s.instruction B).dropped?.isSome && s.cpu.settings.stopOnUnsupported || s.cpu.core.stopped)
  journal : (s.step B).cpu.journal =
    ((s.instruction B).dropped?.elim s.cpu fun what =>
      s.cpu.record (.unsupported what s.cpu.core.pc (s.fetchedWord B))).journal

theorem step_nopAt (B : Bus β) (s : System β) :
    ∃ v, s.step (B.nopAt s.cpu.core.pc) =
      (answered s.cpu (B.read .word s.cpu.core.pc s.bus)).modifyCore
        fun c => (c.fetched 0).write 0 v := by
  have hread : (B.nopAt s.cpu.core.pc).read .word s.cpu.core.pc s.bus =
      { B.read .word s.cpu.core.pc s.bus with value := 0 } := by simp [Bus.nopAt]
  have hword : s.fetchedWord (B.nopAt s.cpu.core.pc) = 0 := by rw [fetchedWord, hread]
  have hfetch : s.fetch (B.nopAt s.cpu.core.pc) =
      (answered s.cpu (B.read .word s.cpu.core.pc s.bus)).modifyCore (·.fetched 0) := by
    rw [fetch, read, hread]
    rfl
  obtain ⟨v, hv⟩ := s.cpu.core.effect_nop s.cpu.settings
  refine ⟨v, ?_⟩
  rw [step_eq, instruction, hword, hv, hfetch]
  rfl

theorem step_of_dropped {B : Bus β} {s : System β} {what? : Option Unsupported}
    (h : s.effect B = what?.elim .retire .unsupported) :
    s.step B = ((s.fetch B).modify (·.reportDropped what?)).modifyCore Core.advance := by
  rw [step_eq, ← effect, h]
  cases what? with
  | none => rfl
  | some what => rfl

theorem standsForNop_of_dropped {B : Bus β} {s : System β} (hword : s.fetchedWord B ≠ 0)
    (h : s.effect B = (s.instruction B).dropped?.elim .retire .unsupported) :
    s.StandsForNop B := by
  have hstep := step_of_dropped h
  simp only [modifyCore, modify, Processor.modifyCore, Processor.reportDropped_eq] at hstep
  obtain ⟨v, hnop⟩ := step_nopAt B s
  constructor
  case step =>
    rw [hnop, hstep, modifyCore, modify, Processor.modifyCore, Core.write_eq, Core.advance_eq,
      Bank.write_write_self]
    rfl
  case previousPc =>
    rw [hstep]
    exact (Core.previousPc_advance _).trans (if_pos (.inr hword))
  case stopped =>
    rw [hstep]
    exact Core.stopped_advance _
  case journal =>
    rw [hstep]
    cases (s.instruction B).dropped? <;> rfl

theorem standsForNop_of_isolated {B : Bus β} {s : System β}
    (hcache : s.cpu.core.control.status.bit 16 = true)
    (hi : (s.instruction B).address?.isSome = true)
    (husable : (s.instruction B).coprocessor? = some 2 →
      s.cpu.core.control.status.bit 30 = true) : s.StandsForNop B := by
  refine standsForNop_of_dropped (Instruction.ne_zero_of_address? hi)
    (Core.effect_of_isolated s.cpu.settings hi hcache fun h => ?_)
  rw [SystemControl.usable, Bool.or_eq_true]
  exact .inl (husable h)

/-- The fetch comes first, then come the accesses of the instruction, each in its place, and while
the cache is isolated an instruction with an address does no more than a NOP. -/
theorem bus_discipline (B : Bus β) :
    (∀ s : System (Recorded β),
      (s.step B.recorded).bus.shapes =
          s.bus.shapes ++ .read .word s.cpu.core.pc :: s.dataAccesses B ∧
        ∀ a ∈ s.dataAccesses B, s.cpu.core.Disciplined (s.instruction B.recorded) a) ∧
      ∀ s : System β, s.cpu.core.control.status.bit 16 = true →
        (s.instruction B).address?.isSome = true →
        ((s.instruction B).coprocessor? = some 2 → s.cpu.core.control.status.bit 30 = true) →
          s.StandsForNop B := by
  refine ⟨fun s => ⟨?_, fun a ha => disciplined_of_mem_dataAccesses ha⟩,
    fun s hcache hi husable => standsForNop_of_isolated hcache hi husable⟩
  rw [shapes_step, shapes_effect]

/-- A system with the cache isolated, in the delay slot of a branch to 256. -/
def isolatedInSlot : System Unit :=
  { cpu :=
      { core :=
          { hazard := ⟨.branch, 256⟩
            control := SystemControl.zero.write SystemControl.statusReg 0x10000 } }
    bus := () }

/-- LB does what a NOP would do in the slot. -/
theorem bus_discipline_of_isolated_load :
    isolatedInSlot.instruction (Bus.constant 0x80010000) = .load .byte 1 0 0 ∧
      isolatedInSlot.cpu.core.control.status.bit 16 = true ∧
      isolatedInSlot.StandsForNop (Bus.constant 0x80010000) ∧
      (isolatedInSlot.step (Bus.constant 0x80010000)).cpu.core.pc = 256 := by
  have hinstruction : isolatedInSlot.instruction (Bus.constant 0x80010000) = .load .byte 1 0 0 := by
    decide
  have hcache : isolatedInSlot.cpu.core.control.status.bit 16 = true := by decide
  refine ⟨hinstruction, hcache, ?_, by decide⟩
  exact (bus_discipline (Bus.constant 0x80010000)).2 isolatedInSlot hcache
    (by rw [hinstruction]; rfl) (by rw [hinstruction]; intro h; cases h)

/-- A slice runs on after a NOP and may end at a load that the cache has dropped. -/
theorem not_forall_executed_nopAt :
    ¬∀ (B : Bus Unit) (s : System Unit) (budget : Int),
      s.cpu.core.control.status.bit 16 = true → (s.instruction B).address?.isSome = true →
      ((s.instruction B).coprocessor? = some 2 → s.cpu.core.control.status.bit 30 = true) →
        (Slice.run B budget s).executed = (Slice.run (B.nopAt s.cpu.core.pc) budget s).executed := by
  intro h
  have hsame := h (Bus.constant 0x80010000) isolatedInSlot 2 (by decide) (by decide) (by decide)
  revert hsame
  decide

end System

end R3000A
