import R3000A.Proofs.Processor.Settle
import R3000A.RegisterId

/-!
# Registers that the host writes

Every register has one identifier that names it, and `Core.put` is what becomes of the core when the
host writes the register.
-/

namespace R3000A

def Register.id : Register → RegisterId
  | pc => .pc
  | pendingValue => .pendingValue
  | pendingKind => .pendingKind
  | hi => .hi
  | lo => .lo
  | general r => .general (UInt8.ofNat r)
  | control r => .control (UInt8.ofNat r)
  | geometryData r => .geometryData (UInt8.ofNat r)
  | geometryControl r => .geometryControl (UInt8.ofNat r)

theorem Register.resolve_id (r : Register) : r.id.resolve = .ok r := by
  have hbank (r : Reg) : r.val % 256 = r.val := Nat.mod_eq_of_lt (by omega)
  cases r with
  | general r | control r | geometryData r | geometryControl r =>
      simp [id, RegisterId.resolve, hbank]
  | _ => rfl

theorem RegisterId.eq_of_resolve {k : RegisterId} {r : Register} (h : k.resolve = .ok r) :
    k = r.id := by
  cases k with
  | general n | control n | geometryData n | geometryControl n =>
      simp only [resolve] at h
      split at h
      · cases h
        simp [Register.id]
      · cases h
  | _ =>
      cases h
      rfl

/-- The core after the host has written `v` into a register that takes it. -/
def Core.put (c : Core) (v : Word) : Register → Core
  | .pc => c.jumpTo v
  | .pendingValue => { c with hazard := { c.hazard with value := v } }
  | .pendingKind =>
    { c with hazard := { c.hazard with pending := (Pending.ofNumber? v).getD c.hazard.pending } }
  | .hi => { c with hi := v }
  | .lo => { c with lo := v }
  | .general r => c.setReg r v
  | .control r => c.writeControl r v
  | .geometryData r => { c with geometry := c.geometry.writeData r v }
  | .geometryControl r => { c with geometry := c.geometry.writeControl r v }

theorem Processor.core_of_set {p p' : Processor} {r : Register} {v : Word}
    (h : p.set r v = .ok p') : p'.core = p.core.put v r := by
  cases r with
  | control r =>
      rw [Core.put, ← core_writeControl]
      rcases hwritten : p.writeControl r v with ⟨q, _ | _⟩ <;>
        simp only [set, hwritten, Except.ok.injEq] at h <;>
        rw [← h]
      rfl
  | pendingKind =>
      cases hkind : Pending.ofNumber? v with
      | none => simp [set, hkind] at h
      | some kind =>
          simp only [set, hkind, Except.ok.injEq] at h
          rw [← h, Core.put, hkind]
          rfl
  | _ =>
      simp only [set, Except.ok.injEq] at h
      rw [← h]
      rfl

end R3000A
