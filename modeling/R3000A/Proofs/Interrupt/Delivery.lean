import R3000A.Machine
import R3000A.Proofs.Interrupt.Latch
import R3000A.Proofs.Interrupt.Lines
import R3000A.Proofs.Processor.Interruption
import R3000A.Proofs.System.Alike

/-!
# Each request is delivered once

The calls that are made through the copies of a handle wait for the end of the instruction, and then
the last one for each line counts. `Processor.Delivers` is all that can be said about a processor
that has become another one by a delivery. The interrupt that one line brings in does not keep the
lines after it from being driven, because a handler leaves the bits of all lines alone.
-/

namespace R3000A

namespace Core

/-- A line that is driven shows its level even if it has brought in an exception. -/
theorem bit_setLine (c : Core) (k l : Line) (level : Bool) :
    (c.setLine k level).control.cause.bit (10 + l) =
      if k = l then level else c.control.cause.bit (10 + l) := by
  rw [setLine, writeControl, (sameFixed_raiseIf _ _).bit_line, storeControl,
    ← Processor.bit_drive]
  simp [SystemControl.cause]

theorem bit_setLines (c : Core) (ls : List (Line × Bool)) (l : Line) :
    (c.setLines ls).control.cause.bit (10 + l) =
      (Request.level? l (Request.ofChanges ls)).getD (c.control.cause.bit (10 + l)) := by
  induction ls generalizing c with
  | nil => rfl
  | cons change ls ih =>
      obtain ⟨k, level⟩ := change
      have hrest := ih (c.setLine k level)
      rw [bit_setLine] at hrest
      refine hrest.trans ?_
      change _ = ((Request.level? l (Request.ofChanges ls)).or _).getD _
      cases Request.level? l (Request.ofChanges ls) with
      | some later => rfl
      | none => split <;> rfl

end Core

namespace Request

theorem mem_told {l : Line} {rs : List Request} : l ∈ told rs ↔ Asks rs l true := by
  simp [told, assertions, ← mem_changes]

theorem told_ascending (rs : List Request) : (told rs).Pairwise (· < ·) :=
  List.pairwise_map.2 ((changes_ascending rs).filter _)

end Request

namespace Processor

/-- The processor `p` has become `q` by the delivery of the requests `rs`. -/
structure Delivers (p : Processor) (rs : List Request) (q : Processor) : Prop where
  /-- The cause register shows the line at the level of the last request for it. -/
  asked : ∀ l level, Request.Asks rs l level → q.core.control.cause.bit (10 + l) = level
  /-- It shows the other lines as before. -/
  unasked : ∀ l : Line, (∀ level, .line l level ∉ rs) →
    q.core.control.cause.bit (10 + l) = p.core.control.cause.bit (10 + l)
  /-- The callback is called with each line that the last request for it asserts, in ascending
  order, and with nothing else. What it asks for at these calls is all that waits afterwards. -/
  told : ∃ lines : List Line, lines.Pairwise (· < ·) ∧ (∀ l, l ∈ lines ↔ Request.Asks rs l true) ∧
    q.journal.asserted.toList =
      p.journal.asserted.toList ++ (if p.callback.isSome then lines else []) ∧
    q.callback = p.callback.map (lines.foldl Callback.called) ∧
    q.requests = p.replies lines
  /-- The last requests are applied one after the other in ascending order of their lines, and at
  most one exception is entered amid them. -/
  entered : ∃ changes : List (Line × Bool),
    changes.Pairwise (fun change next => change.1 < next.1) ∧
      (∀ l level, (l, level) ∈ changes ↔ Request.Asks rs l level) ∧
        (p.Undisturbed changes q ∨ p.EntersAmid changes q)

theorem delivers_deliver (p : Processor) : p.Delivers p.requests p.deliver where
  asked l level h := by
    rw [core_deliver, Core.bit_setLines, Request.level?_ofChanges_changes,
      Request.level?_eq_some_iff.2 h]
    rfl
  unasked l h := by
    rw [core_deliver, Core.bit_setLines, Request.level?_ofChanges_changes,
      Request.level?_eq_none_iff.2 h]
    rfl
  told := by
    have hhost := p.sameHost_deliver
    refine ⟨Request.told p.requests, Request.told_ascending _, fun l => Request.mem_told, ?_, ?_,
      p.requests_deliver⟩
    · rw [hhost.asserted, asserted_calls]
    · rw [hhost.callback, callback_calls]
  entered :=
    ⟨Request.changes p.requests, Request.changes_ascending _, fun _ _ => Request.mem_changes,
      p.deliver_cases⟩

/-- A callback that never asks for anything leaves nothing that waits. -/
theorem Silent.requests {p q : Processor} {rs : List Request} (h : p.Silent)
    (hdelivers : p.Delivers rs q) : q.requests = [] := by
  obtain ⟨lines, -, -, -, -, hrequests⟩ := hdelivers.told
  exact hrequests.trans (h.replies lines)

/-- The delivery of what a latch holds, if it holds anything. -/
def poll (p : Processor) (a : Latch) : Processor :=
  if a.isPending then { p with requests := [] }.deliverLines a.changes else p

/-- The latch that has collected the requests is all that a delivery needs. -/
theorem poll_collect (p : Processor) : p.poll (Latch.collect p.requests) = p.deliver := by
  have hlatch := Latch.holds_collect p.requests
  rw [poll, deliver, hlatch.isPending, hlatch.changes]
  cases p.requests.isEmpty <;> rfl

end Processor

namespace Machine

variable {β : Type}

/-- Calls through handles reach the machine that the handle leads to, in their order. -/
theorem sends_eq (m : Machine β) (calls : List (Handle × Request)) :
    calls.foldl (fun m call => m.send call.1 [call.2]) m =
      m.post ((calls.filter fun call => call.1 = m.handle).map Prod.snd) := by
  induction calls generalizing m with
  | nil => simp [post, Processor.post]
  | cons call calls ih =>
      have hhandle : (m.post [call.2]).handle = m.handle := rfl
      rw [List.foldl_cons, ih, send]
      by_cases hcall : call.1 = m.handle
      · rw [if_pos hcall, hhandle, List.filter_cons_of_pos (by simpa using hcall)]
        simp [post, Processor.post]
      · rw [if_neg hcall, List.filter_cons_of_neg (by simpa using hcall)]

end Machine

/-- What is asked of the processor through the copies of its handle, by the host or by a device,
waits for the end of the instruction that is under way, and is delivered there exactly once. The
cells of the handle lose nothing that matters. The delivery ends the slice if some call asked for
it, and otherwise leaves the number of instructions as the instruction left it. Only what the
callback asks for during the delivery waits for the next one, and if it is silent nothing does. -/
theorem Slice.requests_delivered_once {β : Type} (B : Bus β) (t : Slice β) :
    let s := t.system.step B
    let u := t.next B
    let calls := t.system.cpu.requests ++
      (B.read .word t.system.cpu.core.pc t.system.bus).requests ++
      (t.system.instructionAnswer B).requests
    s.cpu.requests = calls ∧
      (Latch.collect calls).Holds calls ∧
      u.system.cpu = s.cpu.poll (Latch.collect calls) ∧
      s.cpu.Delivers calls u.system.cpu ∧
      u.left = (if .shorten ∈ calls then 0
        else (if s.cpu.core.stopped then 0 else t.left) - 1) ∧
      (t.system.cpu.Silent → u.system.cpu.requests = [] ∧ u.system.cpu.deliver = u.system.cpu) ∧
      ∀ (m : Machine β) (sent : List (Handle × Request)),
        sent.foldl (fun m call => m.send call.1 [call.2]) m =
          m.post ((sent.filter fun call => call.1 = m.handle).map Prod.snd) := by
  intro s u calls
  have hcalls : s.cpu.requests = calls := t.system.requests_step B
  have hnext : u.system.cpu = s.cpu.deliver := rfl
  have hdelivers : s.cpu.Delivers calls u.system.cpu := by
    rw [← hcalls, hnext]
    exact s.cpu.delivers_deliver
  refine ⟨hcalls, Latch.holds_collect calls, ?_, hdelivers, ?_, ?_, Machine.sends_eq⟩
  · rw [← hcalls, Processor.poll_collect, hnext]
  · rw [← hcalls]
    change (if Request.shortens s.cpu.requests then _ else _) = _
    simp only [Request.shortens, List.contains_iff_mem]
    rfl
  · intro hsilent
    have hnone := (System.silent_step B hsilent).requests hdelivers
    exact ⟨hnone, by rw [Processor.deliver, hnone]; rfl⟩

/-- Requests that wait at a NOP: line 2 is asserted and released again, and lines 5 and 3 are
asserted. A callback that takes note of the lines is called with line 3 and line 5, and nothing
waits after that. One that asks for the end of the slice at each call is called with the same lines,
and what it has asked for waits for the next instruction. -/
theorem Slice.requests_delivered_once_of_two_callbacks :
    let waiting : List Request := [.line 2 true, .line 5 true, .line 2 false, .line 3 true]
    let slice (f : Callback) : Slice Unit :=
      { system := { cpu := { requests := waiting, callback := f }, bus := () }, left := 3 }
    let after (f : Callback) : Processor := ((slice f).next (Bus.constant 0)).system.cpu
    let impatient : Callback := ⟨fun _ _ => [.shorten]⟩
    (slice .silent).system.cpu.Silent ∧ (after .silent).requests = [] ∧
      (after .silent).journal.asserted = #[3, 5] ∧ (after impatient).journal.asserted = #[3, 5] ∧
      (after impatient).requests = [.shorten, .shorten] ∧
      ((slice impatient).next (Bus.constant 0)).left = 2 := by
  intro waiting slice after impatient
  have hsilent : (slice .silent).system.cpu.Silent := fun _ _ => rfl
  obtain ⟨-, -, -, -, -, hnone, -⟩ := requests_delivered_once (Bus.constant 0) (slice .silent)
  exact ⟨hsilent, (hnone hsilent).1, by decide, by decide, by decide, by decide⟩

end R3000A
