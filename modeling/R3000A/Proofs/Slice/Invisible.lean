import Mathlib.Algebra.GroupWithZero.Nat
import Mathlib.Logic.Function.Iterate
import Mathlib.Order.Bounds.Defs
import R3000A.Machine
import R3000A.Proofs.Instruction.Fault
import R3000A.Proofs.Slice.Stopped

/-!
# Slices are invisible

How the host cuts a run into slices is nothing that a program can notice. A slice of one instruction
is `System.tick`: the note that the last slice was ended early is dropped, the instruction runs and
the requests are delivered. Within a slice that goes on the note is clear already, so every slice is
a number of ticks, and only its length depends on the budget. `System.lengths` are the lengths at
which a slice might end, of which it takes the least.
-/

namespace R3000A

variable {β : Type}

namespace Core

/-- The core without the note that its last slice was ended early. -/
def unstopped (c : Core) : Core := { c with stopped := false }

theorem effect_unstopped (c : Core) (settings : Settings) (i : Instruction) :
    c.unstopped.effect settings i = c.effect settings i := by
  cases i <;> rfl

theorem unstopped_of_stopped_eq_false {c : Core} (h : c.stopped = false) : c.unstopped = c := by
  rw [unstopped, ← h]

end Core

namespace System

def unstopped (s : System β) : System β := s.modifyCore Core.unstopped

/-- The system after one instruction of a new slice, with the requests still waiting. -/
def instruct (B : Bus β) (s : System β) : System β := s.unstopped.step B

def tick (B : Bus β) (s : System β) : System β := (s.instruct B).modify Processor.deliver

/-- The next instruction stops the processor: it is an unsupported operation while these end a
slice, or a BREAK in halt mode. -/
def Stops (B : Bus β) (s : System β) : Prop :=
  (s.cpu.settings.stopOnUnsupported = true ∧ ∃ what, s.effect B = .unsupported what) ∨
    (s.cpu.settings.breakMode = .halt ∧ s.instruction B = .breakpoint)

/-- A slice does not go on after the next instruction, because that stops the processor or because a
request to end the slice waits after it. -/
def Ends (B : Bus β) (s : System β) : Prop :=
  s.Stops B ∨ Request.shortens (s.instruct B).cpu.requests = true

/-- The lengths at which a slice with the given number of instructions might end: those after whose
last instruction it does not go on, and the whole budget. -/
def lengths (B : Bus β) (budget : Int) (s : System β) : Set Nat :=
  { k | 0 < k ∧ (((tick B)^[k - 1] s).Ends B ∨ (k : Int) = budget) }

theorem stops_iff (B : Bus β) (s : System β) :
    s.Stops B ↔ (s.effect B).stops s.cpu.settings = true := by
  have horigin := s.cpu.core.origin_effect s.cpu.settings (s.instruction B)
  change s.cpu.core.Origin s.cpu.settings (s.instruction B) (s.effect B) at horigin
  constructor
  · rintro (⟨hsettings, what, he⟩ | ⟨hmode, hi⟩)
    · rw [he, Effect.stops, hsettings]
    · rw [effect, hi]
      simp [Core.effect, hmode, Effect.stops]
  · intro h
    cases he : s.effect B with
    | unsupported what =>
        rw [he, Effect.stops] at h
        exact .inl ⟨h, what, he⟩
    | halt =>
        rw [he] at horigin
        exact .inr ⟨horigin.2, horigin.1⟩
    | _ => simp [he, Effect.stops] at h

theorem stops_unstopped (B : Bus β) (s : System β) : s.unstopped.Stops B ↔ s.Stops B := by
  have heffect : s.unstopped.effect B = s.effect B := Core.effect_unstopped ..
  rw [stops_iff, stops_iff, heffect]
  rfl

theorem stopped_instruct (B : Bus β) (s : System β) :
    (s.instruct B).cpu.core.stopped = true ↔ s.Stops B := by
  rw [instruct, stopped_step, ← stops_unstopped, stops_iff]
  simp [unstopped, Core.unstopped]

/-- After a tick the note tells whether its instruction stopped the processor. -/
theorem stopped_tick (B : Bus β) (s : System β) :
    (s.tick B).cpu.core.stopped = true ↔ s.Stops B := by
  rw [← stopped_instruct]
  simp [tick, Processor.stopped_deliver]

theorem ends_unstopped (B : Bus β) (s : System β) : s.unstopped.Ends B ↔ s.Ends B :=
  or_congr (s.stops_unstopped B) Iff.rfl

/-- What happened in the last slice decides nothing about the next one. -/
theorem iterate_tick_unstopped (B : Bus β) (s : System β) {k : Nat} (hk : 0 < k) :
    (tick B)^[k] s.unstopped = (tick B)^[k] s := by
  obtain ⟨j, rfl⟩ := Nat.exists_eq_add_of_le' hk
  rw [Function.iterate_succ_apply, Function.iterate_succ_apply]
  rfl

theorem lengths_unstopped (B : Bus β) (budget : Int) (s : System β) :
    s.unstopped.lengths B budget = s.lengths B budget := by
  ext k
  refine and_congr_right fun hk => or_congr_left ?_
  rcases Nat.eq_zero_or_pos (k - 1) with h | h
  · rw [h]
    exact s.ends_unstopped B
  · rw [iterate_tick_unstopped B s h]

theorem isLeast_lengths_one {B : Bus β} {budget : Int} {s : System β}
    (h : s.Ends B ∨ budget = 1) : IsLeast (s.lengths B budget) 1 :=
  ⟨⟨Nat.one_pos, h.imp_right fun h => by rw [h]; rfl⟩, fun _ hk => hk.1⟩

/-- A slice that goes on ends when its rest does. -/
theorem isLeast_lengths_succ {B : Bus β} {budget : Int} {s : System β} {k : Nat}
    (hends : ¬s.Ends B) (hbudget : budget ≠ 1)
    (h : IsLeast ((s.tick B).lengths B (budget - 1)) k) : IsLeast (s.lengths B budget) (k + 1) := by
  have hshift (i : Nat) :
      i + 2 ∈ s.lengths B budget ↔ i + 1 ∈ (s.tick B).lengths B (budget - 1) := by
    have hrest : ((i + 2 : Nat) : Int) = budget ↔ ((i + 1 : Nat) : Int) = budget - 1 := by omega
    exact and_congr (by simp) (or_congr Iff.rfl hrest)
  obtain ⟨k, rfl⟩ := Nat.exists_eq_add_of_le' h.1.1
  refine ⟨(hshift k).2 h.1, ?_⟩
  intro j hj
  obtain ⟨j, rfl⟩ := Nat.exists_eq_add_of_le' hj.1
  -- A shorter slice would be that of the rest, or end with the first instruction.
  cases j with
  | zero => exact absurd hj.2 (not_or.2 ⟨hends, Ne.symm hbudget⟩)
  | succ i => exact Nat.succ_le_succ (h.2 ((hshift i).1 hj))

end System

namespace Slice

/-- An instruction of a slice that goes on is a tick. -/
theorem next_eq (B : Bus β) {t : Slice β} (h : t.system.cpu.core.stopped = false) :
    t.next B =
      { system := t.system.tick B
        left :=
          if Request.shortens (t.system.instruct B).cpu.requests then 0
          else (if (t.system.instruct B).cpu.core.stopped then 0 else t.left) - 1
        executed := t.executed + 1 } := by
  have hsystem : t.system.unstopped = t.system := by
    simp [System.unstopped, System.modifyCore, System.modify, Processor.modifyCore,
      Core.unstopped_of_stopped_eq_false h]
  rw [System.tick, System.instruct, hsystem]
  rfl

/-- After an instruction the slice is at its end, or goes on with one instruction less. -/
theorem next_cases (B : Bus β) {t : Slice β} (h : t.system.cpu.core.stopped = false) :
    ((t.system.Ends B ∨ t.left = 1) ∧ ¬0 < (t.next B).left) ∨
      (¬t.system.Ends B ∧ t.left ≠ 1 ∧ (t.next B).left = t.left - 1 ∧
        (t.next B).system.cpu.core.stopped = false) := by
  rw [next_eq B h, System.Ends, ← System.stopped_instruct]
  have hstopped : (t.system.tick B).cpu.core.stopped = (t.system.instruct B).cpu.core.stopped :=
    Processor.stopped_deliver _
  cases hs : (t.system.instruct B).cpu.core.stopped with
  | true =>
      refine .inl ⟨.inl (.inl rfl), ?_⟩
      dsimp only
      split <;> simp
  | false =>
      cases hr : Request.shortens (t.system.instruct B).cpu.requests with
      | true => exact .inl ⟨.inl (.inr rfl), by simp⟩
      | false =>
          by_cases hone : t.left = 1
          · exact .inl ⟨.inr hone, by simp [hone]⟩
          · exact .inr ⟨by simp, hone, rfl, hstopped.trans hs⟩

/-- A slice under way runs as many more ticks as the least length at which it might end. -/
theorem advance_spec (B : Bus β) (n : Nat) {t : Slice β} (h : t.system.cpu.core.stopped = false)
    (hleft : 0 < t.left) (hn : t.left ≤ n) :
    ∃ k, (t.advance B n).executed = t.executed + k ∧
      (t.advance B n).system = (System.tick B)^[k] t.system ∧
      IsLeast (t.system.lengths B t.left) k := by
  induction n generalizing t with
  | zero => omega
  | succ n ih =>
      have hnext := next_eq B h
      rw [advance, if_pos hleft]
      rcases next_cases B h with ⟨hend, hover⟩ | ⟨hends, hone, hless, hstopped⟩
      · -- Nothing is left, whatever remains of the bound.
        refine ⟨1, ?_, ?_, System.isLeast_lengths_one hend⟩
        all_goals
          cases n <;> simp [advance, hover] <;> rw [hnext]
      · obtain ⟨k, hexecuted, hsystem, hleast⟩ := ih hstopped (by omega) (by omega)
        rw [hless] at hleast
        rw [hnext] at hexecuted hsystem hleast
        refine ⟨k + 1, ?_, ?_, System.isLeast_lengths_succ hends hone hleast⟩
        · rw [hnext, hexecuted]
          exact Nat.add_right_comm ..
        · rw [hnext, hsystem, Function.iterate_succ_apply]

theorem run_of_nonpos (B : Bus β) {budget : Int} (h : budget ≤ 0) (s : System β) :
    run B budget s = start budget s := by
  rw [run, Int.toNat_of_nonpos h]
  rfl

/-- A slice with a budget is the least number of ticks at which it might end. -/
theorem run_spec (B : Bus β) {budget : Int} (h : 0 < budget) (s : System β) :
    ∃ k, (run B budget s).executed = k ∧ (run B budget s).system = (System.tick B)^[k] s ∧
      IsLeast (s.lengths B budget) k := by
  obtain ⟨k, hexecuted, hsystem, hleast⟩ :=
    advance_spec B budget.toNat (t := start budget s) rfl h (Int.self_le_toNat budget)
  change IsLeast (s.unstopped.lengths B budget) k at hleast
  change _ = (System.tick B)^[k] s.unstopped at hsystem
  rw [System.lengths_unstopped] at hleast
  rw [System.iterate_tick_unstopped B s hleast.1.1] at hsystem
  exact ⟨k, hexecuted.trans (Nat.zero_add k), hsystem, hleast⟩

theorem run_one (B : Bus β) (s : System β) :
    (run B 1 s).executed = 1 ∧ (run B 1 s).system = s.tick B := by
  obtain ⟨k, hexecuted, hsystem, hleast⟩ := run_spec B Int.one_pos s
  have hk : k = 1 := Nat.le_antisymm (hleast.2 ⟨Nat.one_pos, .inr rfl⟩) hleast.1.1
  subst hk
  exact ⟨hexecuted, hsystem⟩

/-- Whatever the budget is, a slice is as many ticks as it has executed instructions, apart from the
note that it takes away even if it executes none. -/
theorem unstopped_run (B : Bus β) (budget : Int) (s : System β) :
    (run B budget s).system.unstopped =
      ((System.tick B)^[(run B budget s).executed] s).unstopped := by
  rcases Int.lt_or_le 0 budget with hpos | hnonpos
  · obtain ⟨k, hexecuted, hsystem, -⟩ := run_spec B hpos s
    rw [hexecuted, hsystem]
  · rw [run_of_nonpos B hnonpos]
    rfl

end Slice

namespace System

/-- Ticks of systems that differ in the note lead to systems that differ in nothing else. -/
theorem unstopped_iterate_tick (B : Bus β) {s u : System β} (h : s.unstopped = u.unstopped)
    (k : Nat) : ((tick B)^[k] s).unstopped = ((tick B)^[k] u).unstopped := by
  rcases Nat.eq_zero_or_pos k with rfl | hk
  · exact h
  · rw [← iterate_tick_unstopped B s hk, h, iterate_tick_unstopped B u hk]

end System

namespace Machine

def ofSystem (s : System β) : Machine β := ⟨s.cpu, some s.bus, true⟩

def unstopped (m : Machine β) : Machine β := { m with cpu := m.cpu.modifyCore Core.unstopped }

/-- Slices with the given budgets and nothing in between: how many instructions each of them has
executed, and the machine after the last. -/
def executeAll (B : Bus β) : List Int → Machine β → Except MachineError (List Nat × Machine β)
  | [], m => .ok ([], m)
  | budget :: budgets, m =>
    (m.execute B budget).bind fun (k, m) =>
      (m.executeAll B budgets).map fun (ks, m) => (k :: ks, m)

theorem execute_ofSystem (B : Bus β) (budget : Int) (s : System β) :
    (ofSystem s).execute B budget =
      .ok ((Slice.run B budget s).executed, ofSystem (Slice.run B budget s).system) := rfl

theorem executeAll_cons_ofSystem (B : Bus β) (budget : Int) (budgets : List Int) (s : System β) :
    (ofSystem s).executeAll B (budget :: budgets) =
      ((ofSystem (Slice.run B budget s).system).executeAll B budgets).map fun (ks, m) =>
        ((Slice.run B budget s).executed :: ks, m) := rfl

theorem executeAll_ones (B : Bus β) (n : Nat) (s : System β) :
    (ofSystem s).executeAll B (List.replicate n 1) =
      .ok (List.replicate n 1, ofSystem ((System.tick B)^[n] s)) := by
  induction n generalizing s with
  | zero => rfl
  | succ n ih =>
      obtain ⟨hexecuted, hsystem⟩ := Slice.run_one B s
      rw [List.replicate_succ, executeAll_cons_ofSystem, hexecuted, hsystem, ih]
      rfl

/-- Slices are ticks, as many as all of them have executed instructions. -/
theorem executeAll_ofSystem (B : Bus β) (budgets : List Int) (s : System β) :
    ∃ ks u, (ofSystem s).executeAll B budgets = .ok (ks, ofSystem u) ∧
      u.unstopped = ((System.tick B)^[ks.sum] s).unstopped := by
  induction budgets generalizing s with
  | nil => exact ⟨[], s, rfl, rfl⟩
  | cons budget budgets ih =>
      obtain ⟨ks, u, hall, hu⟩ := ih (Slice.run B budget s).system
      refine ⟨(Slice.run B budget s).executed :: ks, u, ?_, ?_⟩
      · rw [executeAll_cons_ofSystem, hall]
        rfl
      · rw [hu, System.unstopped_iterate_tick B (Slice.unstopped_run B budget s),
          ← Function.iterate_add_apply, List.sum_cons, Nat.add_comm]

/-- However a run is cut into slices, the machine is afterwards as after slices of one instruction
each, but for the note about the last slice. A slice executes nothing without a budget, and
otherwise as many instructions as the least length at which it might end; the note tells whether the
last of them stopped the processor. -/
theorem slices_invisible (B : Bus β) (s : System β) :
    (∀ budgets, ∃ ks u single,
      (ofSystem s).executeAll B budgets = .ok (ks, ofSystem u) ∧
        (ofSystem s).executeAll B (List.replicate ks.sum 1) =
          .ok (List.replicate ks.sum 1, ofSystem single) ∧
        (ofSystem u).unstopped = (ofSystem single).unstopped) ∧
      ∀ budget, ∃ k u,
        (ofSystem s).execute B budget = .ok (k, ofSystem u) ∧
          (budget ≤ 0 → k = 0) ∧
          (0 < budget → IsLeast (s.lengths B budget) k) ∧
          ((ofSystem u).stopped = true ↔ 0 < k ∧ ((System.tick B)^[k - 1] s).Stops B) := by
  refine ⟨fun budgets => ?_, fun budget => ⟨_, _, execute_ofSystem B budget s, ?_⟩⟩
  · obtain ⟨ks, u, hall, hu⟩ := executeAll_ofSystem B budgets s
    exact ⟨ks, u, _, hall, executeAll_ones B ks.sum s, congrArg ofSystem hu⟩
  · rcases Int.lt_or_le 0 budget with hpos | hnonpos
    · obtain ⟨k, hexecuted, hsystem, hleast⟩ := Slice.run_spec B hpos s
      rw [hexecuted, hsystem]
      refine ⟨fun h => absurd hpos (Int.not_lt.2 h), fun _ => hleast, ?_⟩
      obtain ⟨j, rfl⟩ := Nat.exists_eq_add_of_le' hleast.1.1
      rw [Function.iterate_succ_apply']
      exact (System.stopped_tick B _).trans ⟨fun h => ⟨Nat.succ_pos j, h⟩, fun h => h.2⟩
    · rw [Slice.run_of_nonpos B hnonpos]
      exact ⟨fun _ => rfl, fun h => absurd h (Int.not_lt.2 hnonpos),
        ⟨fun h => (Bool.false_ne_true h).elim, fun h => (Nat.lt_irrefl 0 h.1).elim⟩⟩

end Machine

end R3000A
