import R3000A.Proofs.Hazard.LoadDelay
import R3000A.Proofs.Ram.Byte
import R3000A.Proofs.System.Issued

/-!
# Instructions that move data

With memory for a bus, a load leaves memory as it is and its value on the way into the register, and
a store leaves the registers as they are and the value in memory, alone or merged with the word that
was there.
-/

namespace R3000A

/-- Memory only takes in the part of a value that the width moves. -/
theorem Ram.write_truncate (m : Ram) (width : Width) (a v : Word) :
    m.write width a (width.truncate v) = m.write width a v := by
  have hbyte (i : Fin 4) (k : Word) (h : k.byte i = 255) : (v &&& k).byte i = v.byte i := by
    rw [Word.byte_and, h]
    exact UInt8.and_neg_one
  cases width with
  | byte =>
      simp only [write, Word.toBytes, Width.truncate, Width.bytes, List.take, hbyte 0 0xff rfl]
  | half =>
      simp only [write, Word.toBytes, Width.truncate, Width.bytes, List.take, hbyte 0 0xffff rfl,
        hbyte 1 0xffff rfl]
  | word => rfl

namespace Core

/-- A load is on its way once it is done. -/
theorem upcomingReg_writeDelayed (c : Core) {r : Reg} (hr : r ≠ 0) (v : Word) :
    (c.writeDelayed r v).upcomingReg r = v := by
  cases hbranch : c.branchPending with
  | true =>
      rw [writeDelayed_of_branchPending c r v hbranch]
      simp [upcomingReg, Pending.ofReg, hr]
  | false =>
      rw [writeDelayed_of_not_branchPending c r v hbranch]
      have hnone : (c.write r v).hazard.pending = .none := by
        rw [write_eq]
        exact c.pending_settledHazard
      rw [upcomingReg, hnone]
      exact c.reg_write_self hr v

/-- A load never leaves a branch outstanding. -/
theorem branchPending_writeDelayed (c : Core) {r : Reg} (hr : r ≠ 0) (v : Word) :
    (c.writeDelayed r v).branchPending = false := by
  cases hslot : c.branchPending with
  | true =>
      rw [writeDelayed_of_branchPending c r v hslot]
      simp [branchPending, Pending.ofReg, hr]
  | false =>
      rw [writeDelayed_of_not_branchPending c r v hslot, write_eq]
      simp [branchPending, c.pending_settledHazard]

end Core

namespace System

variable {s : System Ram} {x a : Word} {rt : Reg}

def found (s : System Ram) (op : LoadOp) (a : Word) : Word :=
  op.width.truncate (s.bus.read op.width (op.busAddress s.cpu.core.control.reverseEndian a))

theorem Accesses.core_load {op : LoadOp} (h : s.Accesses x (.load op rt) a) :
    (s.issue Ram.bus x).cpu.core =
      (s.cpu.core.fetched x).writeDelayed rt
        (op.result s.cpu.core.control.reverseEndian a (s.cpu.core.upcomingReg rt)
          (s.found op a)) := by
  rw [h.issue_load]
  rfl

theorem Accesses.bus_load {op : LoadOp} (h : s.Accesses x (.load op rt) a) :
    (s.issue Ram.bus x).bus = s.bus := by
  rw [h.issue_load]
  rfl

theorem Accesses.core_store {op : StoreOp} (h : s.Accesses x (.store op rt) a) :
    (s.issue Ram.bus x).cpu.core = (s.cpu.core.fetched x).advance := by
  rw [h.issue_store, Core.storeAt]
  split <;> rfl

theorem Accesses.bus_store {op : StoreOp} (h : s.Accesses x (.store op rt) a)
    (hop : op.merges = false) :
    (s.issue Ram.bus x).bus =
      s.bus.write op.width (s.cpu.core.mirrored op.width.reverseMask a) (s.cpu.core.reg rt) := by
  rw [h.issue_store, Core.storeAt, if_neg (by rw [hop]; exact Bool.false_ne_true),
    ← s.bus.write_truncate]
  rfl

theorem Accesses.bus_store_of_merges {op : StoreOp} (h : s.Accesses x (.store op rt) a)
    (hop : op.merges = true) :
    (s.issue Ram.bus x).bus =
      s.bus.write .word (a &&& ~~~3)
        (op.merged s.cpu.core.control.reverseEndian a (s.cpu.core.reg rt)
          (s.bus.read .word (a &&& ~~~3))) := by
  rw [h.issue_store, Core.storeAt, if_pos hop]
  rfl

end System

end R3000A
