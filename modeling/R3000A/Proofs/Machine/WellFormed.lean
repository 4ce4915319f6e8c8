import R3000A.Proofs.Exception.Precise
import R3000A.Proofs.Machine.Reachable
import R3000A.Proofs.Privilege.Fetch
import R3000A.Proofs.Processor.HostWrite
import R3000A.Proofs.Slice.Invariant

/-!
# Well-formed cores

Register 0 is zero in every reachable machine, although the bus hands over all registers when it
returns from a call and the host can write them all. That the program counter is a multiple of four
is less certain: the host and the calls can put anything there. If neither does, and the host leaves
the outstanding write alone, then every address that the core may go to is aligned. This takes the
outstanding branch into account, since its target is where the core goes next.
-/

namespace R3000A

theorem Pending.number_le (p : Pending) : p.number ≤ 32 := by
  cases p with
  | none => decide
  | branch => decide
  | load r nonzero =>
      rw [number, UInt32.le_iff_toNat_le, UInt32.toNat_ofNat]
      exact (Nat.mod_le ..).trans (Nat.le_of_lt r.isLt)

namespace Core

/-! ### Register 0 -/

structure WellFormed (c : Core) : Prop where
  zero : c.reg 0 = 0
  pending : c.hazard.pending.number ≤ 32

theorem wellFormed_of_zero {c : Core} (h : c.reg 0 = 0) : c.WellFormed := ⟨h, Pending.number_le _⟩

theorem zero_settledRegs (c : Core) : c.settledRegs.read 0 = c.reg 0 := by
  rw [read_settledRegs, upcomingReg_zero]

theorem zero_advance (c : Core) : c.advance.reg 0 = c.reg 0 := by
  rw [advance_eq]
  exact c.zero_settledRegs

theorem zero_write (c : Core) (r : Reg) (v : Word) : (c.write r v).reg 0 = 0 := by
  rw [write_eq]
  exact Bank.read_write_self ..

theorem zero_branch (c : Core) (target : Word) : (c.branch target).reg 0 = c.reg 0 := by
  rw [branch_eq]
  exact c.zero_settledRegs

theorem zero_raise (c : Core) (f : Fault) : (c.raise f).reg 0 = c.reg 0 := by
  rw [raise_eq]
  exact c.zero_settledRegs

variable {c : Core}

theorem zero_writeDelayed (h : c.reg 0 = 0) (r : Reg) (v : Word) :
    (c.writeDelayed r v).reg 0 = 0 := by
  cases hslot : c.branchPending with
  | true =>
      rw [writeDelayed_of_branchPending c r v hslot]
      exact c.zero_settledRegs.trans h
  | false => rw [writeDelayed_of_not_branchPending c r v hslot, zero_write]

theorem zero_link (h : c.reg 0 = 0) (link : Option (Reg × Word)) : (c.link link).reg 0 = 0 := by
  cases link with
  | none => exact h
  | some l => exact Bank.read_write_self ..

theorem zero_raiseIf (h : c.reg 0 = 0) (f? : Option Fault) : (c.raiseIf f?).reg 0 = 0 := by
  cases f? with
  | none => exact h
  | some f => exact (c.zero_raise f).trans h

theorem zero_writeControl (h : c.reg 0 = 0) (r : Reg) (v : Word) :
    (c.writeControl r v).reg 0 = 0 :=
  zero_raiseIf (c := c.storeControl r v) h _

/-- Whatever an effect does, register 0 is zero afterwards. What a call hands back is overruled. -/
theorem zero_after (h : c.reg 0 = 0) (settings : Settings) (a : Answer) (e : Effect) :
    (c.after settings a e).reg 0 = 0 := by
  have hadvance {d : Core} (hd : d.reg 0 = 0) : d.advance.reg 0 = 0 := d.zero_advance.trans hd
  cases e with
  | write r v => exact c.zero_write r v
  | writeDelayed r v => exact zero_writeDelayed h r v
  | load width address r extend => exact zero_writeDelayed h r _
  | branch target link => exact zero_link ((c.zero_branch target).trans h) link
  | raise f link => exact zero_link ((c.zero_raise f).trans h) link
  | writeControl r v => exact zero_writeControl (hadvance h) r v
  | returnFromException => exact zero_raiseIf (c := c.leaveHandler) (hadvance h) _
  | halt => exact h
  | hostCall => exact Bank.read_write_self ..
  | libraryCall code => exact hadvance (Bank.read_write_self ..)
  | _ => exact hadvance h

theorem zero_put (h : c.reg 0 = 0) (v : Word) (r : Register) : (c.put v r).reg 0 = 0 := by
  cases r with
  | general r => exact Bank.read_write_self ..
  | control r => exact zero_writeControl h r v
  | _ => exact h

/-! ### Alignment -/

/-- All addresses that the core may go to are multiples of four. -/
structure Aligned (c : Core) : Prop where
  pc : c.pc.toNat % 4 = 0
  target : c.branchPending = true → c.hazard.value.toNat % 4 = 0

theorem aligned_of_not_branchPending (hpc : c.pc.toNat % 4 = 0) (hbranch : c.branchPending = false) :
    c.Aligned where
  pc := hpc
  target hpending := by
    rw [hbranch] at hpending
    cases hpending

theorem InHandler.aligned (h : c.InHandler) : c.Aligned := by
  refine aligned_of_not_branchPending ?_ ?_
  · rw [h.pc, SystemControl.handler]
    split <;> decide
  · rw [branchPending, h.hazard]
    rfl

namespace Aligned

theorem next (h : c.Aligned) : (c.pc + 4).toNat % 4 = 0 := by
  have hpc := h.pc
  rw [← Word.and_three_eq_zero_iff] at hpc ⊢
  exact aligned_add_four hpc

theorem nextPc (h : c.Aligned) : c.nextPc.toNat % 4 = 0 := by
  rw [Core.nextPc]
  split
  · exact h.target ‹_›
  · exact h.next

theorem advance (h : c.Aligned) : c.advance.Aligned := by
  rw [advance_eq]
  refine aligned_of_not_branchPending h.nextPc ?_
  rw [branchPending, pending_settledHazard]
  rfl

theorem writeDelayed (h : c.Aligned) (r : Reg) (v : Word) : (c.writeDelayed r v).Aligned := by
  obtain ⟨hpc, hbranch⟩ := c.writeDelayed_flow r v
  exact aligned_of_not_branchPending (hpc ▸ h.nextPc) hbranch

theorem branch (h : c.Aligned) {target : Word} (htarget : target.toNat % 4 = 0) :
    (c.branch target).Aligned := by
  rw [branch_eq]
  exact ⟨h.next, fun _ => htarget⟩

theorem link (h : c.Aligned) (link : Option (Reg × Word)) : (c.link link).Aligned := by
  rw [link_eq]
  exact ⟨h.pc, h.target⟩

theorem raiseIf (h : c.Aligned) (f? : Option Fault) : (c.raiseIf f?).Aligned := by
  cases f? with
  | none => exact h
  | some f => exact (inHandler_raise c f).aligned

theorem writeControl (h : c.Aligned) (r : Reg) (v : Word) : (c.writeControl r v).Aligned :=
  raiseIf (c := c.storeControl r v) ⟨h.pc, h.target⟩ _

/-- Whatever an effect does, the core is aligned afterwards, if the targets of the branch or of the
call are. -/
theorem after (h : c.Aligned) (settings : Settings) {a : Answer} {e : Effect}
    (hbranch : ∀ t link, e = .branch t link → t.toNat % 4 = 0)
    (hcall : ∀ t, a.target = some t → t.toNat % 4 = 0) : (c.after settings a e).Aligned := by
  have hadvance {d : Core} (hpc : d.pc = c.pc) (hhazard : d.hazard = c.hazard) :
      d.advance.Aligned := by
    refine advance ⟨hpc ▸ h.pc, fun hpending => ?_⟩
    rw [branchPending, hhazard] at hpending
    exact hhazard ▸ h.target hpending
  cases e with
  | write r v => exact ⟨h.advance.pc, h.advance.target⟩
  | writeDelayed r v => exact h.writeDelayed r v
  | load width address r extend => exact h.writeDelayed r _
  | branch t link => exact (h.branch (hbranch t link rfl)).link link
  | raise f link => exact (inHandler_raise c f).aligned.link link
  | writeControl r v => exact h.advance.writeControl r v
  | returnFromException =>
      exact raiseIf (c := c.leaveHandler) ⟨h.advance.pc, h.advance.target⟩ _
  | halt => exact ⟨h.pc, h.target⟩
  | hostCall =>
      cases htarget : a.target with
      | none =>
          have hgone := hadvance (d := { c with regs := a.regs }) rfl rfl
          simp only [Core.after, htarget]
          exact ⟨hgone.pc, hgone.target⟩
      | some t =>
          simp only [Core.after, htarget]
          exact aligned_of_not_branchPending (hcall t htarget) rfl
  | _ => exact hadvance rfl rfl

end Aligned

end Core

/-! ### Machines -/

/-- Host calls go to multiples of four, if they go elsewhere. -/
def Bus.KeepsAligned {β : Type} (B : Bus β) : Prop :=
  ∀ pc regs bus t, (B.hostCall pc regs bus).value.2 = some t → t.toNat % 4 = 0

/-- The host writes a multiple of four if it writes the program counter, and leaves the outstanding
write alone. -/
structure RegisterId.KeepsAligned (id : RegisterId) (v : Word) : Prop where
  pc : id = .pc → v.toNat % 4 = 0
  pendingValue : id ≠ .pendingValue
  pendingKind : id ≠ .pendingKind

theorem Core.Aligned.put {c : Core} (h : c.Aligned) {v : Word} {r : Register}
    (hr : r.id.KeepsAligned v) : (c.put v r).Aligned := by
  cases r with
  | pc => exact aligned_of_not_branchPending (hr.pc rfl) rfl
  | pendingValue => exact absurd rfl hr.pendingValue
  | pendingKind => exact absurd rfl hr.pendingKind
  | control r => exact h.writeControl r v
  | _ => exact ⟨h.pc, h.target⟩

theorem System.aligned_step {β : Type} {B : Bus β} (hB : B.KeepsAligned) {s : System β}
    (h : s.cpu.core.Aligned) : (s.step B).cpu.core.Aligned := by
  rw [core_step]
  refine Core.Aligned.after (c := s.cpu.core.fetched _) ⟨h.pc, h.target⟩ _ ?_ ?_
  · intro t link he
    have hreached := Core.refuses_eq_false_of_effect_eq_branch he
    rw [← Word.and_three_eq_zero_iff]
    exact (Core.refuses_three_eq_false_iff.1 hreached).1
  · intro t ht
    rw [instructionAnswer, answer] at ht
    cases he : s.effect B with
    | hostCall =>
        rw [he] at ht
        exact hB _ _ _ t ht
    | _ =>
        rw [he] at ht
        cases ht

namespace Slice

variable {β : Type}

theorem zero_throughout (B : Bus β) {t : Slice β} (h : t.system.cpu.core.reg 0 = 0) :
    t.Throughout B fun c => c.reg 0 = 0 := by
  refine throughout (fun s hs => ?_) (fun c l level hc => Core.zero_writeControl hc _ _) h
  rw [System.core_step]
  exact Core.zero_after (c := s.cpu.core.fetched _) hs ..

theorem aligned_throughout {B : Bus β} (hB : B.KeepsAligned) {t : Slice β}
    (h : t.system.cpu.core.Aligned) : t.Throughout B Core.Aligned :=
  throughout (fun _ hs => System.aligned_step hB hs) (fun _ _ _ hc => hc.writeControl _ _) h

end Slice

namespace Machine

/-- The machine can be brought about by a host that keeps addresses aligned, from new machines and
from snapshots of machines of that kind. -/
inductive ReachableAligned : {β : Type} → Machine β → Prop where
  | new {β : Type} (settings : Settings) : ReachableAligned (new settings : Machine β)
  | attach {β : Type} {m : Machine β} (bus : β) (h : ReachableAligned m) :
      ReachableAligned (m.attach bus).1
  | detach {β : Type} {m : Machine β} (h : ReachableAligned m) : ReachableAligned m.detach.1
  | reset {β : Type} {m : Machine β} (h : ReachableAligned m) : ReachableAligned m.reset
  | execute {β : Type} {m m' : Machine β} (B : Bus β) (hB : B.KeepsAligned) (budget : Int) (n : Nat)
      (h : ReachableAligned m) (hrun : m.execute B budget = .ok (n, m')) : ReachableAligned m'
  | setLine {β : Type} {m m' : Machine β} (line : Int) (level : Bool) (state : InterruptState)
      (h : ReachableAligned m) (hset : m.setLine line level = .ok (state, m')) : ReachableAligned m'
  | setCallback {β : Type} {m : Machine β} (callback : Option Callback) (h : ReachableAligned m) :
      ReachableAligned (m.setCallback callback)
  | post {β : Type} {m : Machine β} (rs : List Request) (h : ReachableAligned m) :
      ReachableAligned (m.post rs)
  | setRegister {β : Type} {m m' : Machine β} (id : RegisterId) (v : Word) (hid : id.KeepsAligned v)
      (h : ReachableAligned m) (hset : m.setRegister id v = .ok m') : ReachableAligned m'
  | setSettings {β : Type} {m : Machine β} (settings : Settings) (h : ReachableAligned m) :
      ReachableAligned (m.setSettings settings)
  | load {β γ : Type} {m m' : Machine β} {source : Machine γ} (h : ReachableAligned m)
      (hsource : ReachableAligned source) (hload : m.load source.save = .ok m') : ReachableAligned m'
  | drain {β : Type} {m : Machine β} (h : ReachableAligned m) : ReachableAligned m.drain.2

variable {β : Type}

/-- `P` holds of the core of the machine, and at every point of any slice that it may run next, on a
bus of some kind. -/
def Throughout (m : Machine β) (kind : Bus β → Prop) (P : Core → Prop) : Prop :=
  P m.cpu.core ∧ ∀ (B : Bus β), kind B → ∀ (bus : β) (budget : Int),
    (Slice.start budget ⟨m.cpu, bus⟩).Throughout B P

theorem Reachable.zero {m : Machine β} (h : m.Reachable) : m.cpu.core.reg 0 = 0 := by
  refine h.core_invariant (fun c => c.reg 0 = 0) (by decide) (fun _ h => h) ?_ ?_ ?_
  · exact fun B budget s hs => (Slice.zero_throughout (t := Slice.start budget s) B hs).run
  · intro p l level hp
    rw [Processor.core_setLine]
    exact Core.zero_writeControl hp _ _
  · intro p p' r v hp hset
    rw [Processor.core_of_set hset]
    exact Core.zero_put hp v r

theorem ReachableAligned.aligned {m : Machine β} (h : m.ReachableAligned) :
    m.cpu.core.Aligned := by
  have hstart : resetAddress.toNat % 4 = 0 := by decide
  induction h with
  | new settings => exact Core.aligned_of_not_branchPending hstart rfl
  | attach bus _ ih => exact ih
  | detach _ ih => exact ih
  | reset _ ih => exact Core.aligned_of_not_branchPending hstart rfl
  | execute B hB budget n _ hrun ih =>
      obtain ⟨bus, hcore⟩ := core_of_execute hrun
      rw [hcore]
      exact (Slice.aligned_throughout hB ⟨ih.pc, ih.target⟩).run
  | setLine line level state _ hset ih =>
      obtain ⟨l, hcore⟩ := core_of_setLine hset
      rw [hcore, Processor.core_setLine]
      exact ih.writeControl _ _
  | setCallback callback _ ih => exact ih
  | post rs _ ih => exact ih
  | setRegister id v hid _ hset ih =>
      obtain ⟨r, hr, hcpu⟩ := cpu_of_setRegister hset
      rw [Processor.core_of_set hcpu]
      exact ih.put (RegisterId.eq_of_resolve hr ▸ hid)
  | setSettings settings _ ih => exact ih
  | load _ _ hload _ ihsource =>
      rw [core_of_load_save hload]
      exact ihsource
  | drain _ ih => exact ih

/-- Register 0 of a reachable machine is zero at every point of a slice, and the kind of the
outstanding write is a number up to 32. If the host keeps addresses aligned and so do the calls, the
program counter is a multiple of four at every point, and so is the target of every branch that is
outstanding. -/
theorem Reachable.well_formed {m : Machine β} (h : m.Reachable) :
    m.Throughout (fun _ => True) Core.WellFormed ∧
      (m.ReachableAligned → m.Throughout Bus.KeepsAligned Core.Aligned) := by
  constructor
  · refine ⟨Core.wellFormed_of_zero h.zero, ?_⟩
    intro B _ bus budget n
    obtain ⟨hbefore, hafter, hdelivered⟩ := Slice.zero_throughout B
      (t := Slice.start budget ⟨m.cpu, bus⟩) h.zero n
    exact ⟨Core.wellFormed_of_zero hbefore, Core.wellFormed_of_zero hafter,
      Core.wellFormed_of_zero hdelivered⟩
  · intro haligned
    refine ⟨haligned.aligned, ?_⟩
    intro B hB bus budget
    exact Slice.aligned_throughout hB ⟨haligned.aligned.pc, haligned.aligned.target⟩

/-- A bus full of host calls that fill all registers and go back to the reset address. -/
def calling : Bus Unit where
  read _ _ _ := { value := 0xb, bus := () }
  write _ _ _ _ := { value := (), bus := () }
  hostCall _ _ _ := { value := (⟨.replicate 32 7⟩, some resetAddress), bus := () }

/-- A machine that has been through three such calls. -/
theorem well_formed_after_call :
    ∃ m : Machine Unit, m.Reachable ∧ m.ReachableAligned ∧ m.cpu.core.reg 31 = 7 ∧
      m.cpu.core.WellFormed ∧ m.cpu.core.Aligned := by
  have hcalls : calling.KeepsAligned := by
    intro pc regs bus t ht
    obtain rfl : resetAddress = t := Option.some.inj ht
    decide
  have hreachable := Machine.Reachable.execute calling 3 3
    (.reset (.attach () (.new {}))) rfl
  have haligned := Machine.ReachableAligned.execute calling hcalls 3 3
    (.reset (.attach () (.new {}))) rfl
  obtain ⟨hzero, hrest⟩ := hreachable.well_formed
  exact ⟨_, hreachable, haligned, by decide, hzero.1, (hrest haligned).1⟩

end Machine

end R3000A
