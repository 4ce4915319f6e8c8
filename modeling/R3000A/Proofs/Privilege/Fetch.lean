import Mathlib.Data.Nat.Bitwise
import R3000A.Machine
import R3000A.Proofs.Hazard.BranchDelay
import R3000A.Proofs.Privilege.Confinement

/-!
# Where user mode fetches

In user mode the upper half of the address space is off-limits. A branch that leads there is
refused, and so is the change to user mode while the program counter points there, but nothing is
looked at when the processor just runs on. So user mode can cross the border in one way only: it
runs the last word below it and goes on with the next one. `RanOver` says that of the cores that
have fetched, and `Machine.history` is what they are for whatever a host does after a reset.
-/

namespace R3000A

/-! ### The upper half of the address space -/

namespace Word

theorem and_three_eq_zero_iff (w : Word) : w &&& 3 = 0 ↔ w.toNat % 4 = 0 := by
  rw [← UInt32.toNat_inj, toNat_and_low (n := 2) w rfl]
  rfl

theorem and_top_eq_zero_iff (w : Word) : w &&& 0x80000000 = 0 ↔ w.toNat < 2 ^ 31 := by
  have hlt := w.toNat_lt
  rw [← UInt32.toNat_inj, UInt32.toNat_and, show (0x80000000 : Word).toNat = 2 ^ 31 from rfl,
    Nat.and_two_pow, Nat.testBit_eq_decide_div_mod_eq, show (0 : Word).toNat = 0 from rfl]
  by_cases h : w.toNat / 2 ^ 31 % 2 = 1
  · simp only [h, decide_true, Bool.toNat_true]
    omega
  · simp only [h, decide_false, Bool.toNat_false]
    omega

/-- Of a single bit a word has all or nothing. -/
theorem and_bit_cases (w : Word) {m : Word} {n : Nat} (hm : m.toNat = 2 ^ n) :
    w &&& m = 0 ∨ w &&& m = m := by
  rw [← UInt32.toNat_inj, ← UInt32.toNat_inj, UInt32.toNat_and, hm, Nat.and_two_pow]
  cases w.toNat.testBit n with
  | false => exact .inl (Nat.zero_mul _)
  | true => exact .inr (Nat.one_mul _)

end Word

namespace SystemControl

theorem privilegeMask_eq (c : SystemControl) :
    c.privilegeMask = if c.userMode then 0x80000000 else 0 := by
  rw [privilegeMask, userMode_eq]
  rcases Word.and_bit_cases c.status (show userBit.toNat = 2 ^ 1 from rfl) with h | h
  · rw [show c.status &&& userBit = 0 from h]
    rfl
  · rw [show c.status &&& userBit = 2 from h]
    rfl

end SystemControl

namespace Core

/-- User mode stands at an address in the upper half of the address space. -/
structure OffLimits (c : Core) : Prop where
  user : c.control.userMode = true
  upper : 2 ^ 31 ≤ c.pc.toNat

instance (c : Core) : Decidable c.OffLimits :=
  decidable_of_iff (c.control.userMode = true ∧ 2 ^ 31 ≤ c.pc.toNat)
    ⟨fun h => ⟨h.1, h.2⟩, fun h => ⟨h.user, h.upper⟩⟩

theorem refuses_three_eq_false_iff {c : Core} {t : Word} :
    c.refuses 3 t = false ↔ t &&& 3 = 0 ∧ (c.control.userMode = true → t.toNat < 2 ^ 31) := by
  rw [refuses, Word.and_or, bne_eq_false_iff_eq, UInt32.or_eq_zero_iff, And.comm,
    SystemControl.privilegeMask_eq]
  refine and_congr_right fun _ => ?_
  cases c.control.userMode with
  | false => simp
  | true => simpa using t.and_top_eq_zero_iff

/-- The last word that user mode may fetch. -/
def border : Word := 0x7ffffffc

theorem aligned_add_four {pc : Word} (h : pc &&& 3 = 0) : (pc + 4) &&& 3 = 0 := by
  rw [Word.and_three_eq_zero_iff] at h ⊢
  rw [UInt32.toNat_add, show (4 : Word).toNat = 4 from rfl]
  omega

theorem eq_border {pc : Word} (h : pc &&& 3 = 0) (hlower : pc.toNat < 2 ^ 31)
    (hupper : 2 ^ 31 ≤ (pc + 4).toNat) : pc = border := by
  rw [Word.and_three_eq_zero_iff] at h
  rw [UInt32.toNat_add, show (4 : Word).toNat = 4 from rfl] at hupper
  apply UInt32.toNat_inj.1
  rw [show border.toNat = 2 ^ 31 - 4 from rfl]
  omega

/-! ### Running over the border -/

/-- User mode goes on from `d` to `c` with the next word, or stays where it is. -/
structure RunsOn (d c : Core) : Prop where
  before : d.control.userMode = true
  after : c.control.userMode = true
  pc : c.pc = d.pc + 4 ∨ c.pc = d.pc

/-- User mode has run on to `c` since it fetched the last word that it may. The cores that have
fetched stand in `history`, the last one first. -/
def RanOver : List Core → Core → Prop
  | [], _ => False
  | d :: history, c => d.RunsOn c ∧ (d.pc = border ∨ RanOver history d)

theorem RunsOn.congr {d c c' : Core} (h : d.RunsOn c) (huser : c'.control.userMode = true)
    (hpc : c'.pc = c.pc) : d.RunsOn c' :=
  ⟨h.before, huser, by rw [hpc]; exact h.pc⟩

theorem RanOver.congr {history : List Core} {c c' : Core} (h : RanOver history c)
    (huser : c'.control.userMode = true) (hpc : c'.pc = c.pc) : RanOver history c' := by
  cases history with
  | nil => exact h
  | cons d history => exact ⟨h.1.congr huser hpc, h.2⟩

/-- Who has run over the border has fetched the last word below it. -/
theorem RanOver.exists_border {history : List Core} {c : Core} (h : RanOver history c) :
    ∃ d ∈ history, d.control.userMode = true ∧ d.pc = border := by
  induction history generalizing c with
  | nil => exact h.elim
  | cons d history ih =>
      rcases h with ⟨hon, hborder | hrest⟩
      · exact ⟨d, List.mem_cons_self, hon.before, hborder⟩
      · obtain ⟨e, he, hfetched⟩ := ih hrest
        exact ⟨e, List.mem_cons_of_mem d he, hfetched⟩

/-- What can be said of a core in whose past the cores of `history` have fetched: all addresses it
may go to are aligned, the target of a branch has been checked, and where user mode may not be it
has run over the border. -/
structure Accounted (history : List Core) (c : Core) : Prop where
  aligned : c.pc &&& 3 = 0
  target : c.branchPending = true → c.refuses 3 c.hazard.value = false
  ranOver : c.OffLimits → RanOver history c

/-- Without a branch outstanding no target needs a look. -/
theorem accounted_of_not_branchPending {history : List Core} {c : Core} (haligned : c.pc &&& 3 = 0)
    (hbranch : c.branchPending = false) (hover : c.OffLimits → RanOver history c) :
    c.Accounted history where
  aligned := haligned
  target hpending := by
    rw [hbranch] at hpending
    cases hpending
  ranOver := hover

/-- Kernel mode may be anywhere. -/
theorem accounted_of_kernel {c : Core} (hkernel : c.control.userMode = false)
    (haligned : c.pc &&& 3 = 0) (hbranch : c.branchPending = false) (history : List Core) :
    c.Accounted history := by
  refine accounted_of_not_branchPending haligned hbranch fun hoff => ?_
  have huser := hoff.user
  rw [hkernel] at huser
  cases huser

theorem InHandler.accounted {c : Core} (h : c.InHandler) (history : List Core) :
    c.Accounted history := by
  refine accounted_of_kernel h.kernel ?_ ?_ history
  · rw [h.pc, SystemControl.handler]
    split <;> decide
  · rw [branchPending, h.hazard]
    rfl

/-- A core that has passed the look at its mode may be where it is. -/
theorem accounted_of_modeFault?_eq_none {c : Core} (h : c.modeFault? = none)
    (hbranch : c.branchPending = false) (history : List Core) : c.Accounted history := by
  have hreached : c.refuses 3 c.pc = false := by
    rw [modeFault?, hbranch] at h
    split at h
    · cases h
    · simpa using h
  obtain ⟨haligned, hlower⟩ := refuses_three_eq_false_iff.1 hreached
  refine accounted_of_not_branchPending haligned hbranch fun hoff => ?_
  exact absurd (hlower hoff.user) (Nat.not_lt.2 hoff.upper)

namespace Accounted

variable {history : List Core} {c c' : Core}

theorem congr (h : c.Accounted history) (huser : c'.control.userMode = c.control.userMode)
    (hpc : c'.pc = c.pc) (hhazard : c'.hazard = c.hazard) : c'.Accounted history where
  aligned := by rw [hpc, h.aligned]
  target hpending := by
    rw [branchPending, hhazard] at hpending
    rw [hhazard, refuses_three_eq_false_iff, huser, ← refuses_three_eq_false_iff]
    exact h.target hpending
  ranOver hoff := by
    have hoff' : c.OffLimits := ⟨huser ▸ hoff.user, hpc ▸ hoff.upper⟩
    exact (h.ranOver hoff').congr hoff.user hpc

/-- Driving a line moves the core to a handler if it moves it at all. -/
theorem setLine (h : c.Accounted history) (l : Line) (level : Bool) :
    (c.setLine l level).Accounted history := by
  rw [Core.setLine, writeControl]
  cases c.writeFault? SystemControl.causeReg (Processor.drive l level c.control.cause) with
  | none =>
      refine h.congr ?_ rfl rfl
      rw [SystemControl.userMode, raiseIf, storeControl, SystemControl.status_write_causeReg]
      rfl
  | some f => exact (inHandler_raise _ f).accounted history

theorem setLines (h : c.Accounted history) (ls : List (Line × Bool)) :
    (c.setLines ls).Accounted history :=
  Core.setLines_induction (P := Accounted history) (fun _ l level hc => hc.setLine l level) h ls

/-- The next word is beyond the border only if this one is at it or beyond it. -/
theorem ranOver_of_next (h : c.Accounted history)
    (huser : c'.control.userMode = c.control.userMode) (hpc : c'.pc = c.pc + 4)
    (hoff : c'.OffLimits) : RanOver (c :: history) c' := by
  have hbefore : c.control.userMode = true := huser ▸ hoff.user
  refine ⟨⟨hbefore, hoff.user, .inl hpc⟩, ?_⟩
  by_cases hlower : c.pc.toNat < 2 ^ 31
  · exact .inl (eq_border h.aligned hlower (hpc ▸ hoff.upper))
  · exact .inr (h.ranOver ⟨hbefore, Nat.not_lt.1 hlower⟩)

/-- The core has gone on in the same mode. -/
theorem goOn (h : c.Accounted history) (huser : c'.control.userMode = c.control.userMode)
    (hpc : c'.pc = c.nextPc) (hbranch : c'.branchPending = false) :
    c'.Accounted (c :: history) := by
  cases hslot : c.branchPending with
  | true =>
      -- The branch was taken in the same mode, and its target was checked then.
      rw [nextPc, if_pos hslot] at hpc
      obtain ⟨haligned, hlower⟩ := refuses_three_eq_false_iff.1 (h.target hslot)
      refine accounted_of_not_branchPending (by rw [hpc, haligned]) hbranch fun hoff => ?_
      rw [← huser, ← hpc] at hlower
      exact absurd (hlower hoff.user) (Nat.not_lt.2 hoff.upper)
  | false =>
      rw [nextPc, if_neg (by simp [hslot])] at hpc
      exact accounted_of_not_branchPending (by rw [hpc, aligned_add_four h.aligned]) hbranch
        (h.ranOver_of_next huser hpc)

/-- The core has taken a branch that is not refused. -/
theorem branch (h : c.Accounted history) {t : Word} (hreached : c.refuses 3 t = false)
    (huser : c'.control.userMode = c.control.userMode) (hpc : c'.pc = c.pc + 4)
    (hhazard : c'.hazard = ⟨.branch, t⟩) : c'.Accounted (c :: history) where
  aligned := by rw [hpc, aligned_add_four h.aligned]
  target _ := by
    rw [hhazard, refuses_three_eq_false_iff, huser, ← refuses_three_eq_false_iff]
    exact hreached
  ranOver := h.ranOver_of_next huser hpc

/-- The core has stayed where it is. -/
theorem stay (h : c.Accounted history) (huser : c'.control.userMode = c.control.userMode)
    (hpc : c'.pc = c.pc) (hhazard : c'.hazard = c.hazard) : c'.Accounted (c :: history) := by
  have hstill := h.congr huser hpc hhazard
  refine ⟨hstill.aligned, hstill.target, fun hoff => ?_⟩
  have hoff' : c.OffLimits := ⟨huser ▸ hoff.user, hpc ▸ hoff.upper⟩
  exact ⟨⟨hoff'.user, hoff.user, .inr hpc⟩, .inr (h.ranOver hoff')⟩

end Accounted

/-- An effect that raises nothing and takes no branch goes on where the core was about to go and
leaves no branch behind. -/
theorem after_goesOn {c : Core} (settings : Settings) {a : Answer} {e : Effect}
    (hraised : c.raised? e = none) (hhalt : e ≠ .halt) (hhost : a.target = none)
    (hbranch : ∀ t link, e ≠ .branch t link) :
    (c.after settings a e).pc = c.nextPc ∧ (c.after settings a e).branchPending = false := by
  cases hload : e.loaded? a with
  | none =>
      obtain ⟨hpc, hhazard⟩ := after_flow settings hraised hhalt (fun _ => hhost) hbranch hload
      refine ⟨hpc, ?_⟩
      rw [branchPending, hhazard, pending_settledHazard]
      rfl
  | some l =>
      rw [after_of_loaded? hload]
      exact c.writeDelayed_flow l.1 l.2

/-- A branch that is taken has not been refused. -/
theorem refuses_eq_false_of_effect_eq_branch {c : Core} {settings : Settings} {i : Instruction}
    {t : Word} {link : Option (Reg × Word)} (h : c.effect settings i = .branch t link) :
    c.refuses 3 t = false := by
  have horigin := c.origin_effect settings i
  rw [h] at horigin
  rw [effect_of_branchTarget? horigin.1, branchEffect] at h
  split at h
  · cases h
  · rename_i hreached
    simpa using hreached

/-- Writing the system control coprocessor accounts for itself: what may change the mode ends with a
look at it. -/
theorem Accounted.writeControl {history : List Core} {c : Core} (h : c.Accounted history) (w : Word)
    (r : Reg) (v : Word) :
    ((c.fetched w).advance.writeControl r v).Accounted (c :: history) := by
  have hbranch : (c.fetched w).advance.branchPending = false := by
    rw [advance_eq, branchPending, pending_settledHazard]
    rfl
  rw [Core.writeControl]
  cases hfault : (c.fetched w).advance.writeFault? r v with
  | some f => exact (inHandler_raise _ f).accounted _
  | none =>
      rw [writeFault?] at hfault
      by_cases hr : SystemControl.Watched r
      · rw [if_pos hr] at hfault
        exact accounted_of_modeFault?_eq_none hfault hbranch _
      · have hstatus : r ≠ SystemControl.statusReg := fun hstatus => hr (.inl hstatus)
        refine h.goOn ?_ (by rw [advance_eq]; rfl) hbranch
        rw [raiseIf, storeControl, control_advance, SystemControl.userMode, SystemControl.status,
          SystemControl.read_write, if_neg hstatus]
        rfl

theorem accounted_leaveHandler (c : Core) (history : List Core) :
    (c.leaveHandler.raiseIf c.leaveHandler.modeFault?).Accounted history := by
  have hbranch : c.leaveHandler.branchPending = false := by
    rw [leaveHandler, advance_eq, branchPending, pending_settledHazard]
    rfl
  cases hfault : c.leaveHandler.modeFault? with
  | some f => exact (inHandler_raise _ f).accounted history
  | none => exact accounted_of_modeFault?_eq_none hfault hbranch history

/-- Whatever an instruction does, the core that it leaves is accounted for. -/
theorem Accounted.after {history : List Core} {c : Core} (h : c.Accounted history)
    (settings : Settings) (i : Instruction) (w : Word) {a : Answer} (hhost : a.target = none) :
    ((c.fetched w).after settings a (c.effect settings i)).Accounted (c :: history) := by
  have hgoesOn {e : Effect} (hraised : c.raised? e = none) (hhalt : e ≠ .halt)
      (hbranch : ∀ t link, e ≠ .branch t link) (he : e.coprocessor? ≠ some 0)
      (hraise : ∀ f link, e ≠ .raise f link) :
      ((c.fetched w).after settings a e).Accounted (c :: history) := by
    rw [← c.raised?_fetched w] at hraised
    obtain ⟨hpc, hpending⟩ := after_goesOn settings hraised hhalt hhost hbranch
    refine h.goOn ?_ hpc hpending
    rw [control_after he hraise]
    rfl
  -- These five do not just move on, or may change the mode while they do.
  cases he : c.effect settings i with
  | raise f link => exact ((inHandler_raise _ f).link link).accounted _
  | writeControl r v => exact h.writeControl w r v
  | returnFromException => exact accounted_leaveHandler _ _
  | halt => exact h.stay rfl rfl rfl
  | branch t link =>
      obtain ⟨hpc, hhazard⟩ : ((c.fetched w).after settings a (.branch t link)).pc = c.pc + 4 ∧
          ((c.fetched w).after settings a (.branch t link)).hazard = ⟨.branch, t⟩ :=
        after_branch t link
      refine h.branch (refuses_eq_false_of_effect_eq_branch he) ?_ hpc hhazard
      rw [Core.after, control_link, control_branch]
      rfl
  | _ => exact hgoesOn rfl (by simp) (by simp) (by simp [Effect.coprocessor?]) (by simp)
end Core

/-! ### Everything that is fetched -/

def Bus.CallsReturn {β : Type} (B : Bus β) : Prop :=
  ∀ pc regs bus, (B.hostCall pc regs bus).value.2 = none

theorem System.accounted_step {β : Type} {B : Bus β} (hreturn : B.CallsReturn) {s : System β}
    {history : List Core} (h : s.cpu.core.Accounted history) :
    (s.step B).cpu.core.Accounted (s.cpu.core :: history) := by
  have htarget : (s.instructionAnswer B).value.target = none := by
    rw [instructionAnswer, answer]
    cases s.effect B with
    | hostCall => exact hreturn ..
    | _ => rfl
  rw [core_step]
  exact h.after _ _ _ htarget

namespace Slice

variable {β : Type}

/-- The cores that have fetched once up to `n` more instructions of a slice have run, the last one
first and those of `history` before them. -/
def fetches (B : Bus β) : Nat → Slice β → List Core → List Core
  | 0, _, history => history
  | n + 1, t, history =>
    if 0 < t.left then fetches B n (t.next B) (t.system.cpu.core :: history) else history

end Slice

/-- Where user mode has fetched off-limits, it had run over the border. -/
def Explained : List Core → Prop
  | [] => True
  | c :: history => (c.OffLimits → Core.RanOver history c) ∧ Explained history

/-- What a host does with a machine that runs. -/
inductive Stimulus where
  | execute (budget : Int)
  | setLine (n : Int) (level : Bool)
  | request (rs : List Request)

namespace Machine

variable {β : Type}

/-- The machine after a stimulus. One that refuses stays as it is. -/
def stimulate (B : Bus β) (m : Machine β) : Stimulus → Machine β
  | .execute budget =>
    match m.execute B budget with
    | .ok (_, m') => m'
    | .error _ => m
  | .setLine n level =>
    match m.setLine n level with
    | .ok (_, m') => m'
    | .error _ => m
  | .request rs => m.post rs

def fetches (B : Bus β) (history : List Core) (m : Machine β) : Stimulus → List Core
  | .execute budget =>
    match m.ready, m.bus with
    | true, some bus => Slice.fetches B budget.toNat (Slice.start budget ⟨m.cpu, bus⟩) history
    | _, _ => history
  | .setLine .. | .request _ => history

def history (B : Bus β) : Machine β → List Stimulus → List Core → List Core
  | _, [], history => history
  | m, x :: xs, history => (m.stimulate B x).history B xs (m.fetches B history x)

end Machine

theorem Explained.ranOver {history : List Core} (h : Explained history) {c : Core}
    {earlier : List Core} (hc : c :: earlier <:+ history) (hoff : c.OffLimits) :
    Core.RanOver earlier c := by
  induction history with
  | nil => cases List.suffix_nil.1 hc
  | cons d history ih =>
      rcases List.suffix_cons_iff.1 hc with heq | hrest
      · cases heq
        exact h.1 hoff
      · exact ih h.2 hrest

namespace Slice

variable {β : Type} {B : Bus β}

theorem accounted_next (hreturn : B.CallsReturn) {t : Slice β} {history : List Core}
    (h : t.system.cpu.core.Accounted history) :
    (t.next B).system.cpu.core.Accounted (t.system.cpu.core :: history) := by
  have hcore : (t.next B).system.cpu.core = ((t.system.step B).cpu.deliver).core := rfl
  rw [hcore, Processor.core_deliver]
  exact (System.accounted_step hreturn h).setLines _

/-- However far a slice comes, its core is accounted for and so are all that have fetched. -/
theorem accounted_advance (hreturn : B.CallsReturn) (n : Nat) {t : Slice β} {history : List Core}
    (h : t.system.cpu.core.Accounted history) (hhistory : Explained history) :
    (t.advance B n).system.cpu.core.Accounted (t.fetches B n history) ∧
      Explained (t.fetches B n history) := by
  induction n generalizing t history with
  | zero => exact ⟨h, hhistory⟩
  | succ n ih =>
      rw [advance, fetches]
      split
      · exact ih (accounted_next hreturn h) ⟨h.ranOver, hhistory⟩
      · exact ⟨h, hhistory⟩

end Slice

namespace Machine

variable {β : Type} {B : Bus β}

theorem accounted_stimulate (hreturn : B.CallsReturn) {m : Machine β} {history : List Core}
    (h : m.cpu.core.Accounted history) (hhistory : Explained history) (x : Stimulus) :
    (m.stimulate B x).cpu.core.Accounted (m.fetches B history x) ∧
      Explained (m.fetches B history x) := by
  obtain ⟨cpu, bus, ready⟩ := m
  cases x with
  | execute budget =>
      cases ready with
      | false => exact ⟨h, hhistory⟩
      | true =>
          cases bus with
          | none => exact ⟨h, hhistory⟩
          | some bus =>
              exact Slice.accounted_advance hreturn budget.toNat
                (t := Slice.start budget ⟨cpu, bus⟩) (h.congr rfl rfl rfl) hhistory
  | setLine n level =>
      refine ⟨?_, hhistory⟩
      cases hline : Line.ofInt? n with
      | none =>
          rw [stimulate, Machine.setLine, hline]
          exact h
      | some l =>
          rw [stimulate, Machine.setLine, hline]
          change (cpu.setLine l level).1.core.Accounted history
          rw [Processor.core_setLine]
          exact h.setLine l level
  | request rs => exact ⟨h, hhistory⟩

theorem explained_history (hreturn : B.CallsReturn) {m : Machine β} {history : List Core}
    (h : m.cpu.core.Accounted history) (hhistory : Explained history) (xs : List Stimulus) :
    Explained (m.history B xs history) := by
  induction xs generalizing m history with
  | nil => exact hhistory
  | cons x xs ih =>
      obtain ⟨hnext, hfetches⟩ := accounted_stimulate hreturn h hhistory x
      exact ih hnext hfetches

theorem accounted_reset (m : Machine β) : m.reset.cpu.core.Accounted [] := by
  have hstatus : m.reset.cpu.core.control.status &&& SystemControl.userBit = 0 := by
    change m.cpu.core.control.reset.status &&& SystemControl.userBit = 0
    rw [SystemControl.status_reset, Word.replace_and_of_subset _ _ (by decide)]
    decide
  have huser : m.reset.cpu.core.control.userMode = false := by
    rw [SystemControl.userMode_eq, hstatus]
    rfl
  have haligned : resetAddress &&& 3 = 0 := by decide
  exact Core.accounted_of_kernel huser haligned rfl []

/-- However a host drives a machine after a reset, user mode fetches from the upper half of the
address space only where it has run over the border: it has fetched the last word below, and since
then it has gone on with the next word each time, or stayed at a BREAK. So it never does if it never
fetches that word. The bus may do as it likes, but for host calls that go elsewhere. -/
theorem user_mode_runs_over (hreturn : B.CallsReturn) (m : Machine β) (xs : List Stimulus) :
    (∀ c earlier, c :: earlier <:+ m.reset.history B xs [] → c.OffLimits →
      Core.RanOver earlier c) ∧
      ((∀ c ∈ m.reset.history B xs [], c.control.userMode = true → c.pc ≠ Core.border) →
        ∀ c ∈ m.reset.history B xs [], ¬c.OffLimits) := by
  have hexplained : Explained (m.reset.history B xs []) :=
    explained_history hreturn m.accounted_reset trivial xs
  refine ⟨fun c earlier hc => hexplained.ranOver hc, ?_⟩
  intro hborder c hc hoff
  obtain ⟨later, earlier, hsplit⟩ := List.append_of_mem hc
  have hsuffix : c :: earlier <:+ m.reset.history B xs [] := ⟨later, hsplit.symm⟩
  obtain ⟨d, hd, huser, hfetched⟩ := (hexplained.ranOver hsuffix hoff).exists_border
  exact hborder d (hsuffix.subset (List.mem_cons_of_mem c hd)) huser hfetched

/-- The boot code that leaves for user mode at the last word below the border: LUI, ADDIU and ORI
prepare a jump there, and MTC0 changes the mode in its delay slot. -/
def crossing : Bus Unit where
  read _ address _ :=
    { value :=
        match address.toNat with
        | 0xbfc00000 => 0x3c018000
        | 0xbfc00004 => 0x2421fffc
        | 0xbfc00008 => 0x34020002
        | 0xbfc0000c => 0x00200008
        | 0xbfc00010 => 0x40826000
        | _ => 0
      bus := () }
  write _ _ _ _ := { value := (), bus := () }

def crosser : Machine Unit := { bus := some () }

theorem exists_offLimits_crosser :
    ∃ c ∈ crosser.reset.history crossing [.execute 7] [], c.OffLimits := by
  decide

/-- The seventh instruction is fetched beyond the border, in user mode that has run over it. -/
theorem user_mode_runs_over_in_crosser :
    ∃ c earlier, c :: earlier <:+ crosser.reset.history crossing [.execute 7] [] ∧ c.OffLimits ∧
      Core.RanOver earlier c := by
  obtain ⟨c, hc, hoff⟩ := exists_offLimits_crosser
  obtain ⟨later, earlier, hsplit⟩ := List.append_of_mem hc
  have hsuffix : c :: earlier <:+ crosser.reset.history crossing [.execute 7] [] :=
    ⟨later, hsplit.symm⟩
  have hreturn : crossing.CallsReturn := fun _ _ _ => rfl
  have hover := (user_mode_runs_over hreturn crosser _).1 c earlier hsuffix hoff
  exact ⟨c, earlier, hsuffix, hoff, hover⟩

/-- So it is not true that user mode never fetches from the upper half of the address space, even on
a bus that serves no calls. -/
theorem not_forall_not_offLimits :
    ¬∀ (read : Width → Word → Unit → Reply Unit Word)
        (write : Width → Word → Word → Unit → Reply Unit Unit) (m : Machine Unit)
        (xs : List Stimulus), ∀ c ∈ m.reset.history { read, write } xs [], ¬c.OffLimits := by
  intro hnever
  obtain ⟨c, hc, hoff⟩ := exists_offLimits_crosser
  exact hnever crossing.read crossing.write crosser [.execute 7] c hc hoff

end Machine

end R3000A
