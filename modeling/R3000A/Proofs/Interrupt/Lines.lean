import R3000A.Machine
import R3000A.Proofs.Machine.Reachable
import R3000A.Proofs.Processor.HostWrite
import R3000A.Proofs.SystemControl.Fixed

/-!
# What the guest cannot forge

The cause register shows the levels of the interrupt lines as they were delivered last, and no
program can make it show anything else. Besides the lines there are bits that nothing at all
changes, and two registers that every reset sets. `Genuine` says all of this about the system
control coprocessor, given its state after the first reset and the requests that have been delivered
since. Instructions preserve it because they leave the fixed bits alone, and driving a line, with or
without an interrupt, appends the request to those delivered.
-/

namespace R3000A

namespace Processor

theorem drive_and_of_disjoint {l : Line} {k : Word} (h : l.causeMask &&& k = 0) (level : Bool)
    (cause : Word) : drive l level cause &&& k = cause &&& k := by
  have hcleared := Word.replace_and_of_disjoint cause h (UInt32.zero_and (a := k))
  rw [UInt32.or_zero] at hcleared
  cases level with
  | false => exact hcleared
  | true =>
      have hset : (cause ||| l.causeMask) &&& k = cause &&& k := by
        rw [Word.or_and, h, UInt32.or_zero]
      exact hset

theorem bit_drive (l k : Line) (level : Bool) (cause : Word) :
    (drive l level cause).bit (10 + k) = if l = k then level else cause.bit (10 + k) := by
  have hmask : ∀ l : Line, (l.causeMask != 0) = true := by decide
  change (drive l level cause &&& k.causeMask != 0) = if l = k then level else cause.bit (10 + k)
  split
  · rename_i hl
    subst hl
    cases level with
    | false =>
        have hcleared : cause &&& ~~~l.causeMask &&& l.causeMask = 0 := by
          rw [UInt32.and_assoc, UInt32.not_and_self, UInt32.and_zero]
        exact bne_eq_false_iff_eq.2 hcleared
    | true =>
        have hset : (cause ||| l.causeMask) &&& l.causeMask = l.causeMask := Word.or_and_self _ _
        exact (congrArg (· != 0) hset).trans (hmask l)
  · rename_i hl
    have hdisjoint : l.causeMask &&& k.causeMask = 0 := by revert l k; decide
    rw [drive_and_of_disjoint hdisjoint]
    rfl

end Processor

namespace Request

def ofChanges (ls : List (Line × Bool)) : List Request := ls.map fun (l, level) => .line l level

/-- What is delivered asks the same of every line as the requests it was made from. -/
theorem level?_ofChanges_changes (l : Line) (rs : List Request) :
    level? l (ofChanges (changes rs)) = level? l rs := by
  have hlines (f : Line → Option Bool) (ks : List Line) :
      level? l (ofChanges (ks.filterMap fun k => (f k).map fun level => (k, level))) =
        if l ∈ ks then f l else none := by
    induction ks with
    | nil => rfl
    | cons k ks ih =>
        cases hk : f k with
        | none =>
            rw [List.filterMap_cons_none (by rw [hk]; rfl), ih]
            by_cases hl : l = k
            · simp [hl, hk]
            · simp [hl]
        | some level =>
            rw [List.filterMap_cons_some (by rw [hk]; rfl), ofChanges, List.map_cons, level?,
              ← ofChanges, ih]
            by_cases hl : l = k
            · by_cases hks : l ∈ ks <;> simp [← hl, hks, hl ▸ hk]
            · simp [hl, Ne.symm hl]
  have hall : l ∈ Line.all := List.mem_finRange l
  rw [changes, hlines, if_pos hall]

end Request

namespace SystemControl

/-- The registers hold what they can hold if they were `start` after the first reset and the
requests `log` have been delivered since. -/
structure Genuine (start : SystemControl) (log : List Request) (c : SystemControl) : Prop where
  line : ∀ l : Line,
    c.cause.bit (10 + l) = (Request.level? l log).getD (start.cause.bit (10 + l))
  processorId : c.read processorIdReg = 0x200
  random : c.read randomReg = 63
  status : c.status &&& 0x0d8000c0 = start.status &&& 0x0d8000c0
  cause : c.cause &&& 0x4fff0083 = start.cause &&& 0x4fff0083

theorem genuine_reset (c : SystemControl) : c.reset.Genuine [] c.reset where
  line _ := rfl
  processorId := by simp [reset, processorIdReg]
  random := by simp [reset, randomReg, processorIdReg]
  status := rfl
  cause := rfl

namespace Genuine

variable {start c d : SystemControl} {log : List Request}

/-- What happens to bits that are not fixed does not matter. -/
theorem of_sameFixed (h : start.Genuine log c) (hfixed : SameFixed c d) : start.Genuine log d := by
  have hall (r : Reg) (hr : fixedBits r = -1) : d.read r = c.read r := by
    have hsame := hfixed r
    rwa [hr, UInt32.and_neg_one, UInt32.and_neg_one] at hsame
  constructor
  case line => exact fun l => (hfixed.bit_line l).trans (h.line l)
  case processorId => exact (hall processorIdReg rfl).trans h.processorId
  case random => exact (hall randomReg rfl).trans h.random
  case status => exact (hfixed statusReg).trans h.status
  case cause => exact (Word.and_eq_of_subset (hfixed causeReg) (by decide)).trans h.cause

theorem reset (h : start.Genuine log c) : start.Genuine log c.reset := by
  have hcause : c.reset.cause = c.cause := by
    simp [SystemControl.reset, SystemControl.cause, causeReg, statusReg, randomReg, processorIdReg]
  constructor
  case line => exact fun l => (congrArg (Word.bit · (10 + l)) hcause).trans (h.line l)
  case processorId => exact c.genuine_reset.processorId
  case random => exact c.genuine_reset.random
  case status =>
    rw [status_reset, Word.replace_and_of_disjoint _ (by decide) (by decide), h.status]
  case cause => rw [hcause, h.cause]

theorem drive (h : start.Genuine log c) (l : Line) (level : Bool) :
    start.Genuine (log ++ [.line l level])
      (c.write causeReg (Processor.drive l level c.cause)) := by
  have hdisjoint : ∀ l : Line, l.causeMask &&& 0x4fff0083 = 0 := by decide
  have hcause : (c.write causeReg (Processor.drive l level c.cause)).cause =
      Processor.drive l level c.cause := by simp [SystemControl.cause]
  have hread {r : Reg} (hr : causeReg ≠ r) :
      (c.write causeReg (Processor.drive l level c.cause)).read r = c.read r := by
    rw [read_write, if_neg hr]
  constructor
  case line =>
    intro k
    rw [hcause, Processor.bit_drive, Request.level?_append, h.line k]
    by_cases hl : l = k
    · simp [Request.level?, hl]
    · simp [Request.level?, hl]
  case processorId => exact (hread (by decide)).trans h.processorId
  case random => exact (hread (by decide)).trans h.random
  case status => rw [status_write_causeReg, h.status]
  case cause =>
    rw [hcause, Processor.drive_and_of_disjoint (hdisjoint l), h.cause]

/-- Only the last level of each line counts. -/
theorem congr {log' : List Request} (h : start.Genuine log c)
    (hlog : ∀ l, Request.level? l log = Request.level? l log') : start.Genuine log' c :=
  { h with line := fun l => hlog l ▸ h.line l }

end Genuine

end SystemControl

/-! ### Deliveries -/

section

open SystemControl (Genuine)

variable {start : SystemControl} {log : List Request}

/-- A line that is driven counts from then on, whether it brings in an exception or not. -/
theorem Core.genuine_setLine {c : Core} (h : start.Genuine log c.control) (l : Line)
    (level : Bool) : start.Genuine (log ++ [.line l level]) (c.setLine l level).control :=
  (h.drive l level).of_sameFixed (Core.sameFixed_raiseIf _ _)

theorem Core.genuine_setLines {c : Core} (h : start.Genuine log c.control)
    (ls : List (Line × Bool)) :
    start.Genuine (log ++ Request.ofChanges ls) (c.setLines ls).control := by
  induction ls generalizing c log with
  | nil => exact (List.append_nil log).symm ▸ h
  | cons change ls ih =>
      have hrest := ih (c.genuine_setLine h change.1 change.2)
      rw [List.append_assoc] at hrest
      exact hrest

theorem Processor.genuine_deliver {p : Processor} (h : start.Genuine log p.core.control) :
    start.Genuine (log ++ p.requests) p.deliver.core.control := by
  rw [core_deliver]
  refine (Core.genuine_setLines h _).congr fun l => ?_
  rw [Request.level?_append, Request.level?_append, Request.level?_ofChanges_changes]

namespace Slice

variable {β : Type}

/-- The requests that are delivered during up to `n` more instructions of a slice. -/
def delivered (B : Bus β) : Nat → Slice β → List Request
  | 0, _ => []
  | n + 1, t =>
    if 0 < t.left then (t.system.step B).cpu.requests ++ delivered B n (t.next B) else []

theorem genuine_advance (B : Bus β) (n : Nat) {t : Slice β}
    (h : start.Genuine log t.system.cpu.core.control) :
    start.Genuine (log ++ t.delivered B n) (t.advance B n).system.cpu.core.control := by
  induction n generalizing t log with
  | zero => exact (List.append_nil log).symm ▸ h
  | succ n ih =>
      rw [advance, delivered]
      split
      · have hstep := h.of_sameFixed (System.sameFixed_step B t.system)
        have hrest := ih (t := t.next B) (Processor.genuine_deliver hstep)
        rw [List.append_assoc] at hrest
        exact hrest
      · exact (List.append_nil log).symm ▸ h

end Slice

end

/-! ### Machines -/

namespace Machine

variable {β : Type}

/-- After `first` has been reset, its host has brought about the machine without writing a control
register and without a snapshot, and the requests in the list have been delivered on the way. -/
inductive FromReset (first : Machine β) : Machine β → List Request → Prop where
  | first : FromReset first first.reset []
  | attach {m : Machine β} {log : List Request} (bus : β) (h : FromReset first m log) :
      FromReset first (m.attach bus).1 log
  | detach {m : Machine β} {log : List Request} (h : FromReset first m log) :
      FromReset first m.detach.1 log
  | reset {m : Machine β} {log : List Request} (h : FromReset first m log) :
      FromReset first m.reset log
  | execute {m m' : Machine β} {log : List Request} (B : Bus β) (bus : β) (budget : Int) (n : Nat)
      (h : FromReset first m log) (hbus : m.bus = some bus)
      (hrun : m.execute B budget = .ok (n, m')) :
      FromReset first m'
        (log ++ (Slice.start budget ⟨m.cpu, bus⟩).delivered B budget.toNat)
  | setLine {m m' : Machine β} {log : List Request} (line : Int) (l : Line) (level : Bool)
      (state : InterruptState) (h : FromReset first m log) (hline : Line.ofInt? line = some l)
      (hset : m.setLine line level = .ok (state, m')) :
      FromReset first m' (log ++ [.line l level])
  | setCallback {m : Machine β} {log : List Request} (callback : Option Callback)
      (h : FromReset first m log) : FromReset first (m.setCallback callback) log
  | post {m : Machine β} {log : List Request} (rs : List Request) (h : FromReset first m log) :
      FromReset first (m.post rs) log
  | setRegister {m m' : Machine β} {log : List Request} (id : RegisterId) (v : Word)
      (hid : ∀ k, id ≠ .control k) (h : FromReset first m log)
      (hset : m.setRegister id v = .ok m') : FromReset first m' log
  | setSettings {m : Machine β} {log : List Request} (settings : Settings)
      (h : FromReset first m log) : FromReset first (m.setSettings settings) log
  | drain {m : Machine β} {log : List Request} (h : FromReset first m log) :
      FromReset first m.drain.2 log

theorem FromReset.genuine {first m : Machine β} {log : List Request}
    (h : FromReset first m log) :
    first.reset.cpu.core.control.Genuine log m.cpu.core.control := by
  induction h with
  | first => exact first.cpu.core.control.genuine_reset
  | attach bus _ ih => exact ih
  | detach _ ih => exact ih
  | reset _ ih => exact ih.reset
  | execute B bus budget n _ hbus hrun ih =>
      obtain ⟨bus', -, hsome, -, rfl⟩ := execute_eq_ok_iff.1 hrun
      obtain rfl : bus' = bus := Option.some.inj (hsome.symm.trans hbus)
      exact Slice.genuine_advance B budget.toNat (t := Slice.start budget _) ih
  | setLine line l level state _ hline hset ih =>
      simp only [Machine.setLine, hline, Except.ok.injEq, Prod.mk.injEq] at hset
      rw [← hset.2]
      change SystemControl.Genuine _ _ (Processor.setLine _ l level).1.core.control
      rw [Processor.core_setLine]
      exact Core.genuine_setLine ih l level
  | setCallback callback _ ih => exact ih
  | post rs _ ih => exact ih
  | setRegister id v hid _ hset ih =>
      obtain ⟨r, hr, hcpu⟩ := cpu_of_setRegister hset
      rw [Processor.core_of_set hcpu]
      obtain rfl := RegisterId.eq_of_resolve hr
      cases r with
      | control r => exact absurd rfl (hid _)
      | _ => exact ih
  | setSettings settings _ ih => exact ih
  | drain _ ih => exact ih

/-- From the first reset on, whatever programs a machine runs, the cause register shows each line as
it was delivered last, or as it was at the reset if it was not. Bits that are in no program's reach
are as they were at the reset, and the processor's number and RANDOM as every reset sets them. This
holds at every point of a slice: before each instruction, and after it, while the requests that it
leaves still wait. -/
theorem FromReset.not_forged {first m : Machine β} {log : List Request}
    (h : FromReset first m log) :
    first.reset.cpu.core.control.Genuine log m.cpu.core.control ∧
      ∀ (B : Bus β) (bus : β) (budget : Int) (n : Nat),
        let t := Slice.start budget ⟨m.cpu, bus⟩
        first.reset.cpu.core.control.Genuine (log ++ t.delivered B n)
            (t.advance B n).system.cpu.core.control ∧
          first.reset.cpu.core.control.Genuine (log ++ t.delivered B n)
            ((t.advance B n).system.step B).cpu.core.control := by
  refine ⟨h.genuine, ?_⟩
  intro B bus budget n t
  have hslice := Slice.genuine_advance B n (t := t) h.genuine
  exact ⟨hslice, hslice.of_sameFixed (System.sameFixed_step B _)⟩

/-- A program that keeps clearing the cause register with MTC0 while two lines are asserted, one by
the host and one by a device. -/
theorem not_forged_by_move :
    ∃ (m : Machine Unit) (log : List Request),
      FromReset { bus := some () } m log ∧ log = [.line 3 true, .line 0 true] ∧
        m.cpu.core.control.cause.bit 13 = true ∧ m.cpu.core.control.cause.bit 10 = true := by
  have hasserted : FromReset ({ bus := some () } : Machine Unit) _ [.line 3 true] :=
    .setLine 3 3 true .idle .first rfl rfl
  have hrun := FromReset.execute (Bus.constant 0x40806800) () 3 3
    (.post [.line 0 true] hasserted) rfl rfl
  have hgenuine := hrun.not_forged.1
  exact ⟨_, _, hrun, rfl, hgenuine.line 3, hgenuine.line 0⟩

end Machine

end R3000A
