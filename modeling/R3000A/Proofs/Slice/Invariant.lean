import R3000A.Proofs.Processor.Deliver
import R3000A.Proofs.System.Outcome
import R3000A.Slice

/-!
# Invariants of the core

What every instruction preserves and driving a line preserves too holds of the core at every point
of a slice. `Slice.throughout` is that induction.
-/

namespace R3000A

namespace Slice

variable {β : Type}

/-- `P` holds of the core at every point of the slice: before each instruction, after it, and once
the requests have been delivered. -/
def Throughout (B : Bus β) (t : Slice β) (P : Core → Prop) : Prop :=
  ∀ n, P (t.advance B n).system.cpu.core ∧ P ((t.advance B n).system.step B).cpu.core ∧
    P ((t.advance B n).next B).system.cpu.core

theorem Throughout.run {B : Bus β} {budget : Int} {s : System β} {P : Core → Prop}
    (h : (start budget s).Throughout B P) : P (run B budget s).system.cpu.core :=
  (h budget.toNat).1

theorem throughout {B : Bus β} {P : Core → Prop}
    (hstep : ∀ s : System β, P s.cpu.core → P (s.step B).cpu.core)
    (hline : ∀ c l level, P c → P (c.setLine l level)) {t : Slice β} (h : P t.system.cpu.core) :
    t.Throughout B P := by
  have hnext {u : Slice β} (hu : P u.system.cpu.core) : P (u.next B).system.cpu.core := by
    have hcore : (u.next B).system.cpu.core = (u.system.step B).cpu.deliver.core := rfl
    rw [hcore, Processor.core_deliver]
    exact Core.setLines_induction hline (hstep _ hu) _
  have hadvance (n : Nat) : P (t.advance B n).system.cpu.core := by
    induction n generalizing t with
    | zero => exact h
    | succ n ih =>
        rw [advance]
        split
        · exact ih (hnext h)
        · exact h
  exact fun n => ⟨hadvance n, hstep _ (hadvance n), hnext (hadvance n)⟩

end Slice

end R3000A
