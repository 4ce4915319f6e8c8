import Mathlib.Data.Set.Basic
import Mathlib.Order.Bounds.Basic
import R3000A.Proofs.Slice.Invisible
import R3000A.Proofs.System.Alike

/-!
# Runs in one piece

On a bus whose devices never ask for anything, and with a callback that does not either, a slice
ends early only when an instruction stops the processor. `Uncut` says of a number of instructions
what comes of running them in one piece: either all of them were executed and none stopped the
processor, or the last one executed is the first that did. Two such runs one after the other are one
(`Uncut.append`), and what comes of a run is settled by where it starts (`Uncut.unique`), so that it
does not matter into which slices it is cut. Systems that differ in the journal alone count as the
same here (`System.Agrees`), since a host may empty the journal between two slices.
-/

namespace R3000A

variable {β : Type}

/-- No device on the bus ever asks for anything. -/
structure Bus.Quiet (B : Bus β) : Prop where
  read : ∀ width address b, (B.read width address b).requests = []
  write : ∀ width address v b, (B.write width address v b).requests = []
  hostCall : ∀ pc regs b, (B.hostCall pc regs b).requests = []
  libraryCall : ∀ pc code regs b, (B.libraryCall pc code regs b).requests = []

theorem Bus.Quiet.served {B : Bus β} (hB : B.Quiet) (e : Effect) (pc : Word) (regs : Bank) (b : β) :
    (e.served B pc regs b).requests = [] := by
  cases e with
  | load width address r extend => exact hB.read ..
  | store width address v => exact hB.write ..
  | storeMerged address merge => exact List.append_eq_nil_iff.2 ⟨hB.read .., hB.write ..⟩
  | loadGeometry address r => exact hB.read ..
  | hostCall => exact hB.hostCall ..
  | libraryCall code => exact hB.libraryCall ..
  | _ => rfl

/-- Nothing has been asked of the processor, and its callback never will ask for anything. -/
structure Processor.Unasked (p : Processor) : Prop where
  requests : p.requests = []
  silent : p.Silent

namespace System

/-- The systems differ at most in what belongs to the host of the processor and is none of its
settings, its requests or its callback. -/
structure Agrees (s t : System β) : Prop where
  core : s.cpu.core = t.cpu.core
  settings : s.cpu.settings = t.cpu.settings
  requests : s.cpu.requests = t.cpu.requests
  callback : s.cpu.callback = t.cpu.callback
  bus : s.bus = t.bus

namespace Agrees

variable {s t u : System β}

theorem refl (s : System β) : s.Agrees s := ⟨rfl, rfl, rfl, rfl, rfl⟩

theorem symm (h : s.Agrees t) : t.Agrees s :=
  ⟨h.core.symm, h.settings.symm, h.requests.symm, h.callback.symm, h.bus.symm⟩

theorem trans (hst : s.Agrees t) (htu : t.Agrees u) : s.Agrees u :=
  ⟨hst.core.trans htu.core, hst.settings.trans htu.settings, hst.requests.trans htu.requests,
    hst.callback.trans htu.callback, hst.bus.trans htu.bus⟩

theorem unstopped (h : s.Agrees t) : s.unstopped.Agrees t.unstopped :=
  ⟨congrArg Core.unstopped h.core, h.settings, h.requests, h.callback, h.bus⟩

theorem fetchedWord (h : s.Agrees t) (B : Bus β) : s.fetchedWord B = t.fetchedWord B := by
  rw [System.fetchedWord, System.fetchedWord, h.core, h.bus]

theorem effect (h : s.Agrees t) (B : Bus β) : s.effect B = t.effect B := by
  rw [System.effect, System.effect, instruction, instruction, h.fetchedWord, h.settings, h.core]

theorem instructionAnswer (h : s.Agrees t) (B : Bus β) :
    s.instructionAnswer B = t.instructionAnswer B := by
  change (s.effect B).served B s.cpu.core.pc s.cpu.core.regs (B.read .word s.cpu.core.pc s.bus).bus =
    (t.effect B).served B t.cpu.core.pc t.cpu.core.regs (B.read .word t.cpu.core.pc t.bus).bus
  rw [h.effect, h.core, h.bus]

theorem step (h : s.Agrees t) (B : Bus β) : (s.step B).Agrees (t.step B) := by
  constructor
  case core =>
    rw [core_step, core_step, h.fetchedWord, h.effect, h.instructionAnswer, h.settings, h.core]
  case settings => rw [settings_step, settings_step, h.settings]
  case requests =>
    have hfetch : (s.fetch B).cpu.requests = (t.fetch B).cpu.requests := by
      change s.cpu.requests ++ (B.read .word s.cpu.core.pc s.bus).requests =
        t.cpu.requests ++ (B.read .word t.cpu.core.pc t.bus).requests
      rw [h.requests, h.core, h.bus]
    rw [requests_step, requests_step, hfetch, h.instructionAnswer]
  case callback => rw [callback_step, callback_step, h.callback]
  case bus => rw [bus_step, bus_step, h.instructionAnswer]

theorem deliver (h : s.Agrees t) :
    (s.modify Processor.deliver).Agrees (t.modify Processor.deliver) := by
  have hreply (before : List Line) (l : Line) :
      s.cpu.reply before l = t.cpu.reply before l := by
    rw [Processor.reply, Processor.reply, h.callback]
  constructor
  case core =>
    change s.cpu.deliver.core = t.cpu.deliver.core
    rw [Processor.core_deliver, Processor.core_deliver, h.core, h.requests]
  case settings =>
    change s.cpu.deliver.settings = t.cpu.deliver.settings
    rw [Processor.settings_deliver, Processor.settings_deliver, h.settings]
  case requests =>
    change s.cpu.deliver.requests = t.cpu.deliver.requests
    rw [Processor.requests_deliver, Processor.requests_deliver, h.requests,
      Processor.replies_congr hreply]
  case callback =>
    change s.cpu.deliver.callback = t.cpu.deliver.callback
    rw [s.cpu.sameHost_deliver.callback, t.cpu.sameHost_deliver.callback,
      Processor.callback_calls, Processor.callback_calls, h.callback, h.requests]
  case bus => exact h.bus

theorem tick (h : s.Agrees t) (B : Bus β) : (s.tick B).Agrees (t.tick B) :=
  (h.unstopped.step B).deliver

theorem iterate_tick (h : s.Agrees t) (B : Bus β) (k : Nat) :
    ((System.tick B)^[k] s).Agrees ((System.tick B)^[k] t) := by
  induction k generalizing s t with
  | zero => exact h
  | succ k ih => exact ih (h.tick B)

theorem stops (h : s.Agrees t) (B : Bus β) : s.Stops B ↔ t.Stops B := by
  rw [stops_iff, stops_iff, h.effect, h.settings]

end Agrees

/-- The positions of the instructions among the next `total` that stop the processor. -/
def stopping (B : Bus β) (total : Nat) (s : System β) : Set Nat :=
  { k | 0 < k ∧ k ≤ total ∧ ((tick B)^[k - 1] s).Stops B }

theorem Agrees.stopping {s t : System β} (h : s.Agrees t) (B : Bus β) (total : Nat) :
    s.stopping B total = t.stopping B total := by
  ext k
  exact and_congr_right fun _ => and_congr_right fun _ => (h.iterate_tick B (k - 1)).stops B

/-- If the callback is silent, nothing waits after an instruction. -/
theorem unasked_tick (B : Bus β) {s : System β} (hs : s.cpu.Silent) : (s.tick B).cpu.Unasked := by
  have hstep : (s.instruct B).cpu.Silent := silent_step B (s := s.unstopped) hs
  constructor
  · exact (Processor.requests_deliver _).trans (hstep.replies _)
  · intro before l
    change (s.instruct B).cpu.deliver.reply before l = []
    rw [(s.instruct B).cpu.sameHost_deliver.reply, Processor.reply_calls]
    exact hstep _ l

theorem unasked_iterate_tick (B : Bus β) {s : System β} (hs : s.cpu.Unasked) (k : Nat) :
    ((tick B)^[k] s).cpu.Unasked := by
  induction k generalizing s with
  | zero => exact hs
  | succ k ih => exact ih (unasked_tick B hs.silent)

/-- Where nothing is asked for, a slice goes on until the processor is stopped. -/
theorem ends_iff_stops {B : Bus β} (hB : B.Quiet) {s : System β} (hs : s.cpu.Unasked) :
    s.Ends B ↔ s.Stops B := by
  have hfetch : (s.unstopped.fetch B).cpu.requests = [] :=
    List.append_eq_nil_iff.2 ⟨hs.requests, hB.read ..⟩
  have hrequests : (s.instruct B).cpu.requests = [] := by
    rw [instruct, requests_step, hfetch]
    exact hB.served ..
  rw [Ends, hrequests]
  simp [Request.shortens]

/-- What comes of running `total` instructions in one piece: how many of them were executed, whether
the processor was stopped, and the system afterwards. -/
structure Uncut (B : Bus β) (s : System β) (total executed : Nat) (stopped : Bool) (t : System β) :
    Prop where
  reached : t.Agrees ((tick B)^[executed] s)
  halted : stopped = true → IsLeast (s.stopping B total) executed
  finished : stopped = false → executed = total ∧ s.stopping B total = ∅

namespace Uncut

variable {B : Bus β} {s t u v : System β} {total more executed executed' : Nat}
  {stopped stopped' : Bool}

theorem of_agrees (h : Uncut B s total executed stopped t) (hs : s.Agrees u) (ht : t.Agrees v) :
    Uncut B u total executed stopped v := by
  refine ⟨ht.symm.trans (h.reached.trans (hs.iterate_tick B executed)), ?_, ?_⟩
  · rw [← hs.stopping B total]
    exact h.halted
  · rw [← hs.stopping B total]
    exact h.finished

/-- A run that was stopped would not have gone on if it had been granted more. -/
theorem widen (h : Uncut B s total executed true t) (more : Nat) :
    Uncut B s (total + more) executed true t := by
  refine ⟨h.reached, fun _ => ?_, nofun⟩
  obtain ⟨⟨hpos, hle, hstops⟩, hleast⟩ := h.halted rfl
  refine ⟨⟨hpos, Nat.le_add_right_of_le hle, hstops⟩, ?_⟩
  rintro k ⟨hk, -, hkstops⟩
  rcases Nat.le_total k total with hktotal | hktotal
  · exact hleast ⟨hk, hktotal, hkstops⟩
  · exact Nat.le_trans hle hktotal

/-- A position after the first instructions is one among the others. -/
theorem mem_stopping_add {k : Nat} :
    k + total + 1 ∈ s.stopping B (total + more) ↔
      k + 1 ∈ ((tick B)^[total] s).stopping B more := by
  have hbound : k + total + 1 ≤ total + more ↔ k + 1 ≤ more := by omega
  simp only [stopping, Set.mem_ofPred_eq, Nat.add_sub_cancel, Function.iterate_add_apply, hbound,
    Nat.succ_pos, true_and]

/-- Two runs of which the first was not stopped are one. -/
theorem append (h : Uncut B s total executed false t) (h' : Uncut B t more executed' stopped u) :
    Uncut B s (total + more) (executed + executed') stopped u := by
  obtain ⟨rfl, hnone⟩ := h.finished rfl
  have hrest := h'.of_agrees h.reached (.refl u)
  have hlater {k : Nat} (hk : k ∈ s.stopping B (executed + more)) :
      ∃ j, k = j + executed + 1 ∧ j + 1 ∈ ((tick B)^[executed] s).stopping B more := by
    rcases Nat.lt_or_ge executed k with hlt | hge
    · obtain ⟨j, rfl⟩ := Nat.exists_eq_add_of_lt hlt
      rw [Nat.add_comm executed j] at hk ⊢
      exact ⟨j, rfl, mem_stopping_add.1 hk⟩
    · have hmem : k ∈ s.stopping B executed := ⟨hk.1, hge, hk.2.2⟩
      rw [hnone] at hmem
      exact absurd hmem (Set.notMem_empty k)
  constructor
  case reached =>
    rw [Nat.add_comm, Function.iterate_add_apply]
    exact hrest.reached
  case halted =>
    intro hstopped
    obtain ⟨hmem, hleast⟩ := hrest.halted hstopped
    obtain ⟨e, rfl⟩ : ∃ e, executed' = e + 1 := Nat.exists_eq_add_of_le' hmem.1
    refine ⟨?_, fun k hk => ?_⟩
    · rw [← Nat.add_assoc, Nat.add_comm executed e]
      exact mem_stopping_add.2 hmem
    · obtain ⟨j, rfl, hj⟩ := hlater hk
      have hle : e + 1 ≤ j + 1 := hleast hj
      omega
  case finished =>
    intro hstopped
    obtain ⟨rfl, hempty⟩ := hrest.finished hstopped
    refine ⟨rfl, Set.eq_empty_of_forall_notMem fun k hk => ?_⟩
    obtain ⟨j, -, hj⟩ := hlater hk
    rw [hempty] at hj
    exact hj

/-- What comes of a run is settled by where it starts. -/
theorem unique (h : Uncut B s total executed stopped t)
    (h' : Uncut B s total executed' stopped' u) :
    executed = executed' ∧ stopped = stopped' ∧ t.Agrees u := by
  have hsame : executed = executed' ∧ stopped = stopped' := by
    cases stopped with
    | true =>
        cases stopped' with
        | true => exact ⟨(h.halted rfl).unique (h'.halted rfl), rfl⟩
        | false =>
            have hmem := (h.halted rfl).1
            rw [(h'.finished rfl).2] at hmem
            exact absurd hmem (Set.notMem_empty _)
    | false =>
        cases stopped' with
        | true =>
            have hmem := (h'.halted rfl).1
            rw [(h.finished rfl).2] at hmem
            exact absurd hmem (Set.notMem_empty _)
        | false => exact ⟨(h.finished rfl).1.trans (h'.finished rfl).1.symm, rfl⟩
  obtain ⟨rfl, rfl⟩ := hsame
  exact ⟨rfl, rfl, h.reached.trans h'.reached.symm⟩

end Uncut

end System

/-- A slice on a quiet bus runs in one piece. -/
theorem Slice.uncut_run {B : Bus β} (hB : B.Quiet) {c : Int} (hc : 0 < c) {s : System β}
    (hs : s.cpu.Unasked) :
    System.Uncut B s c.toNat (run B c s).executed (run B c s).system.cpu.core.stopped
      (run B c s).system := by
  obtain ⟨k, hexecuted, hsystem, hleast⟩ := run_spec B hc s
  have hends (j : Nat) :
      ((System.tick B)^[j] s).Ends B ↔ ((System.tick B)^[j] s).Stops B :=
    System.ends_iff_stops hB (System.unasked_iterate_tick B hs j)
  have hstopped : (run B c s).system.cpu.core.stopped = true ↔
      ((System.tick B)^[k - 1] s).Stops B := by
    obtain ⟨j, rfl⟩ := Nat.exists_eq_add_of_le' hleast.1.1
    rw [hsystem, Function.iterate_succ_apply']
    exact System.stopped_tick B _
  have hbudget : k ≤ c.toNat := hleast.2 ⟨by omega, Or.inr (Int.toNat_of_nonneg (by omega))⟩
  have hfirst {j : Nat} (hj : j ∈ s.stopping B c.toNat) : k ≤ j :=
    hleast.2 ⟨hj.1, Or.inl ((hends _).2 hj.2.2)⟩
  rw [hexecuted]
  refine ⟨hsystem ▸ .refl _, fun h => ?_, fun h => ?_⟩
  · exact ⟨⟨hleast.1.1, hbudget, hstopped.1 h⟩, fun j hj => hfirst hj⟩
  · have hgoes : ¬((System.tick B)^[k - 1] s).Stops B := fun hstops => by
      rw [hstopped.2 hstops] at h
      exact Bool.noConfusion h
    have hall : k = c.toNat := by
      have hc' : (k : Int) = c := hleast.1.2.resolve_left fun he => hgoes ((hends _).1 he)
      omega
    refine ⟨hall, Set.eq_empty_of_forall_notMem fun j hj => ?_⟩
    have hjk : j = k := Nat.le_antisymm (hall ▸ hj.2.1) (hfirst hj)
    exact hgoes (hjk ▸ hj.2.2)

end R3000A
