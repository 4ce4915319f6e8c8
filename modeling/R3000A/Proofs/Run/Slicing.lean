import Mathlib.Algebra.Order.Floor.Div
import R3000A.Proofs.Slice.Uncut
import R3000A.Run

/-!
# How a run is cut into slices

Memory is a quiet bus, so a run is one uninterrupted run of as many instructions as its slices have
room for, however many these are (`Accounted`). Two configurations that grant the same number of
instructions in slices of different sizes therefore lead to the same outcome, the first time and
whenever the run is taken up again.
-/

namespace R3000A

theorem Ram.quiet_bus : Ram.bus.Quiet where
  read _ _ _ := rfl
  write _ _ _ _ := rfl
  hostCall _ _ _ := rfl
  libraryCall _ _ _ _ := rfl

def Config.cut (config : Config) (cycles : Int) (slices : Word) : Config :=
  { config with sliceCycles := cycles, slices := slices }

namespace Run

/-! ### Slices -/

/-- The journal is none of what a slice of a run leaves. -/
theorem agrees_slice (r : Run) :
    r.slice.2.system.Agrees (Slice.run Ram.bus r.config.sliceCycles r.system).system :=
  ⟨rfl, rfl, rfl, rfl, rfl⟩

/-- A slice of a run is an uninterrupted run. -/
theorem uncut_slice (r : Run) (hc : 0 < r.config.sliceCycles) (hr : r.system.cpu.Unasked) :
    System.Uncut Ram.bus r.system r.config.sliceCycles.toNat r.slice.1
      r.slice.2.system.cpu.core.stopped r.slice.2.system :=
  (Slice.uncut_run Ram.quiet_bus hc hr).of_agrees (.refl _) r.agrees_slice.symm

theorem slices_succ (left executed begun : Nat) (r : Run) :
    slices (left + 1) executed begun r =
      if r.slice.2.system.cpu.core.stopped then
        ((executed + r.slice.1, begun + 1, true),
          (r.slice.2.note (.slice (begun + 1) r.slice.1 r.slice.2.system.cpu.core.pc)).note
            (.stopped (executed + r.slice.1)))
      else
        slices left (executed + r.slice.1) (begun + 1)
          (r.slice.2.note (.slice (begun + 1) r.slice.1 r.slice.2.system.cpu.core.pc)) := rfl

theorem unasked_of_uncut {B : Bus Ram} {s t : System Ram} {total executed : Nat} {stopped : Bool}
    (h : System.Uncut B s total executed stopped t) (hs : s.cpu.Unasked) : t.cpu.Unasked := by
  have hend := System.unasked_iterate_tick B hs executed
  refine ⟨h.reached.requests.trans hend.requests, fun before l => ?_⟩
  rw [Processor.reply, h.reached.callback]
  exact hend.silent before l

theorem ceilDiv_eq_one {e c : Nat} (he : 0 < e) (hle : e ≤ c) : e ⌈/⌉ c = 1 := by
  rw [Nat.ceilDiv_eq_add_pred_div]
  exact Nat.div_eq_of_lt_le (by omega) (by omega)

theorem add_ceilDiv_self {c : Nat} (hc : 0 < c) (e : Nat) : (c + e) ⌈/⌉ c = 1 + e ⌈/⌉ c := by
  rw [Nat.ceilDiv_eq_add_pred_div, Nat.ceilDiv_eq_add_pred_div, Nat.add_comm 1,
    ← Nat.add_div_left _ hc]
  congr 1
  omega

/-- The slices of a run are one uninterrupted run of all the instructions that they have room for,
and no slice is begun after that of the last instruction. -/
theorem slices_spec (left executed begun : Nat) (r : Run) (hc : 0 < r.config.sliceCycles)
    (hr : r.system.cpu.Unasked) :
    ∃ e b stopped u, slices left executed begun r = ((executed + e, begun + b, stopped), u) ∧
      System.Uncut Ram.bus r.system (r.config.sliceCycles.toNat * left) e stopped u.system ∧
      b = e ⌈/⌉ r.config.sliceCycles.toNat ∧ u.config = r.config := by
  induction left generalizing executed begun r with
  | zero =>
      refine ⟨0, 0, false, r, rfl, ⟨.refl _, nofun, fun _ => ⟨rfl, ?_⟩⟩, (zero_ceilDiv _).symm, rfl⟩
      refine Set.eq_empty_of_forall_notMem fun k hk => ?_
      have hpos := hk.1
      have hle := hk.2.1
      omega
  | succ left ih =>
      have hcycles : 0 < r.config.sliceCycles.toNat := by omega
      have hroom : r.config.sliceCycles.toNat * (left + 1) =
          r.config.sliceCycles.toNat + r.config.sliceCycles.toNat * left := by
        rw [Nat.mul_succ, Nat.add_comm]
      have hslice := r.uncut_slice hc hr
      rw [slices_succ, hroom]
      cases hstopped : r.slice.2.system.cpu.core.stopped with
      | true =>
          rw [hstopped] at hslice
          obtain ⟨hpos, hle, -⟩ := (hslice.halted rfl).1
          exact ⟨r.slice.1, 1, true, _, rfl, hslice.widen _, (ceilDiv_eq_one hpos hle).symm, rfl⟩
      | false =>
          rw [hstopped] at hslice
          have hfull := (hslice.finished rfl).1
          obtain ⟨e, b, stopped, u, heq, huncut, hb, hu⟩ := ih (executed + r.slice.1) (begun + 1)
            (r.slice.2.note (.slice (begun + 1) r.slice.1 r.slice.2.system.cpu.core.pc)) hc
            (unasked_of_uncut hslice hr)
          refine ⟨r.slice.1 + e, 1 + b, stopped, u, ?_, hslice.append huncut, ?_, hu⟩
          · rw [← Nat.add_assoc, ← Nat.add_assoc]
            exact heq
          · rw [hfull, hb]
            exact (add_ceilDiv_self hcycles e).symm

/-! ### Whole runs -/

/-- What a run reports and leaves, told by the number of instructions that it grants: it runs on
from the system as it is in one piece, and it begins as many slices as the instructions that it
executes take. -/
structure Accounted (cycles : Int) (slices : Word) (r : Run) : Prop where
  uncut : System.Uncut Ram.bus r.system (cycles.toNat * slices.toNat) r.run.1.executed
    r.run.1.stopped r.run.2.system
  slices : r.run.1.slices = r.run.1.executed ⌈/⌉ cycles.toNat
  pc : r.run.1.pc = r.run.2.system.cpu.core.pc

/-- The runs execute as many instructions, end for the same reason and leave the same registers and
the same memory. -/
structure SameOutcome (r s : Run) : Prop where
  executed : r.run.1.executed = s.run.1.executed
  stopped : r.run.1.stopped = s.run.1.stopped
  pc : r.run.1.pc = s.run.1.pc
  core : r.run.2.system.cpu.core = s.run.2.system.cpu.core
  memory : r.run.2.system.bus = s.run.2.system.bus

/-- The run has slices of `cycles` instructions, as many as `slices`, and nobody asks it
for anything. -/
structure Cut (cycles : Int) (slices : Word) (r : Run) : Prop where
  cycles : r.config.sliceCycles = cycles
  slices : r.config.slices = slices
  unasked : r.system.cpu.Unasked

namespace Cut

variable {c c' : Int} {n n' : Word} {r s : Run}

theorem accounted_and_run (h : Cut c n r) (hc : 0 < c) : Accounted c n r ∧ Cut c n r.run.2 := by
  obtain ⟨rfl, rfl, hr⟩ := h
  obtain ⟨e, b, stopped, u, heq, huncut, hb, hu⟩ := slices_spec r.config.slices.toNat 0 0 r hc hr
  rw [Nat.zero_add, Nat.zero_add] at heq
  have hrun : r.run =
      (⟨e, b, stopped, u.system.cpu.core.pc⟩, u.note (.final u.system.cpu.core)) := by
    rw [run, heq]
  refine ⟨⟨?uncut, ?slices, ?pc⟩, ⟨?cycles, ?number, ?unasked⟩⟩
  all_goals rw [hrun]
  case uncut => exact huncut
  case slices => exact hb
  case pc => rfl
  case cycles => exact congrArg Config.sliceCycles hu
  case number => exact congrArg Config.slices hu
  case unasked => exact unasked_of_uncut huncut hr

/-- Runs of as many instructions from systems that agree have the same outcome. -/
theorem sameOutcome (h : Cut c n r) (h' : Cut c' n' s) (hc : 0 < c) (hc' : 0 < c')
    (htotal : c * n.toNat = c' * n'.toNat) (hagrees : r.system.Agrees s.system) :
    SameOutcome r s ∧ r.run.2.system.Agrees s.run.2.system := by
  have hroom : c.toNat * n.toNat = c'.toNat * n'.toNat := by
    have hcast : ((c.toNat * n.toNat : Nat) : Int) = (c'.toNat * n'.toNat : Nat) := by
      push_cast
      rw [Int.toNat_of_nonneg hc.le, Int.toNat_of_nonneg hc'.le, htotal]
    exact Int.ofNat_inj.1 hcast
  obtain ⟨huncut, -, hpc⟩ := (h.accounted_and_run hc).1
  obtain ⟨huncut', -, hpc'⟩ := (h'.accounted_and_run hc').1
  rw [← hroom] at huncut'
  obtain ⟨hexecuted, hstopped, hleft⟩ :=
    huncut.unique (huncut'.of_agrees hagrees.symm (.refl _))
  refine ⟨⟨hexecuted, hstopped, ?_, hleft.core, hleft.bus⟩, hleft⟩
  rw [hpc, hpc', hleft.core]

end Cut

/-- The run after it has been taken up a number of times. -/
def takenUp (times : Nat) (r : Run) : Run := (fun r => r.run.2)^[times] r

theorem cut_start (config : Config) (image : List UInt8) (c : Int) (n : Word) :
    Cut c n (start (config.cut c n) image) :=
  ⟨rfl, rfl, rfl, fun _ _ => rfl⟩

/-- How a run is cut into slices makes no difference to it, the first time and whenever it is taken
up again: runs that grant the same number of instructions have the same outcome, which is that of
running these instructions in one piece from where the time before has ended. -/
theorem run_of_cut (config : Config) (image : List UInt8) {c₁ c₂ : Int} {n₁ n₂ : Word}
    (hc₁ : 0 < c₁) (hc₂ : 0 < c₂) (htotal : c₁ * n₁.toNat = c₂ * n₂.toNat) (times : Nat) :
    SameOutcome ((start (config.cut c₁ n₁) image).takenUp times)
        ((start (config.cut c₂ n₂) image).takenUp times) ∧
      Accounted c₁ n₁ ((start (config.cut c₁ n₁) image).takenUp times) ∧
      Accounted c₂ n₂ ((start (config.cut c₂ n₂) image).takenUp times) := by
  have hboth (times : Nat) : ∀ r s : Run, Cut c₁ n₁ r → Cut c₂ n₂ s → r.system.Agrees s.system →
      SameOutcome (r.takenUp times) (s.takenUp times) ∧ Accounted c₁ n₁ (r.takenUp times) ∧
        Accounted c₂ n₂ (s.takenUp times) := by
    induction times with
    | zero =>
        intro r s hr hs hagrees
        exact ⟨(hr.sameOutcome hs hc₁ hc₂ htotal hagrees).1, (hr.accounted_and_run hc₁).1,
          (hs.accounted_and_run hc₂).1⟩
    | succ times ih =>
        intro r s hr hs hagrees
        exact ih r.run.2 s.run.2 (hr.accounted_and_run hc₁).2 (hs.accounted_and_run hc₂).2
          (hr.sameOutcome hs hc₁ hc₂ htotal hagrees).2
  exact hboth times _ _ (cut_start ..) (cut_start ..) ⟨rfl, rfl, rfl, rfl, rfl⟩

/-- A configuration under which BREAK ends the run. -/
def halting : Config where
  settings := { stopOnUnsupported := true, breakMode := .halt }
  image := "unused.bin"
  loadAddress := 0x80010000
  entryPoint := 0x80010000
  stackPointer := 0x801ffff0
  globalPointer := some 0x80020000
  sliceCycles := 4
  slices := 10

/-- Six instructions of an image with a BREAK as its second one, which ends a slice of two but not
one of three. The second run goes on from there. -/
theorem run_of_cut_six :
    let image := Word.toBytes 0x24080001 ++ Word.toBytes 0x0000000d
    SameOutcome ((start (halting.cut 2 3) image).takenUp 1)
        ((start (halting.cut 3 2) image).takenUp 1) ∧
      Accounted 2 3 ((start (halting.cut 2 3) image).takenUp 1) ∧
      Accounted 3 2 ((start (halting.cut 3 2) image).takenUp 1) :=
  run_of_cut halting _ (by decide) (by decide) (by decide) 1

end Run

end R3000A
