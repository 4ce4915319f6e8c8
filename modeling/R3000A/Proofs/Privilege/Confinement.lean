import R3000A.Proofs.Processor.Interruption
import R3000A.Proofs.Slice.Invisible

/-!
# Programs without privileges

An effect reaches a coprocessor only if the program may use it, because an instruction is refused
before it has that effect. So a program in user mode that may not use the system control coprocessor
never changes it: it can only make an exception do that, and from then on a handler runs in kernel
mode. The same goes for the geometry engine in either mode. A run of such a program leaves the
registers of the system control coprocessor as they are until the first exception, apart from the
interrupt lines, which are not the program's.
-/

namespace R3000A

/-- The coprocessor whose registers an effect writes, if it is no exception. -/
def Effect.coprocessor? : Effect → Option (Fin 4)
  | writeControl .. | returnFromException => some 0
  | loadGeometry .. | writeGeometryData .. | writeGeometryControl .. | geometryCommand _ => some 2
  | _ => none

namespace Core

variable {c : Core} {settings : Settings}

theorem coprocessor?_effect {i : Instruction} {n : Fin 4}
    (h : (c.effect settings i).coprocessor? = some n) : i.coprocessor? = some n := by
  have horigin := c.origin_effect settings i
  generalize c.effect settings i = e at h horigin
  cases e with
  | writeControl r v =>
      obtain ⟨rt, rd, rfl⟩ := horigin
      exact h
  | returnFromException =>
      obtain rfl : i = .control .returnFromException := horigin
      exact h
  | loadGeometry | writeGeometryData | writeGeometryControl | geometryCommand =>
      exact Eq.trans horigin h
  | _ => cases h

/-- What reaches a coprocessor comes from a program that may use it. -/
theorem usable_of_coprocessor?_effect {i : Instruction} {n : Fin 4}
    (h : (c.effect settings i).coprocessor? = some n) : c.control.usable n = true := by
  cases husable : c.control.usable n with
  | true => rfl
  | false =>
      have hrefused : c.Faults settings i (.coprocessorUnusable n) :=
        .coprocessor (coprocessor?_effect h) husable
      rw [hrefused.effect_eq] at h
      cases h

@[simp] theorem geometry_raiseIf (c : Core) (f? : Option Fault) :
    (c.raiseIf f?).geometry = c.geometry := by
  cases f? with
  | none => rfl
  | some f => exact c.geometry_raise f

/-- The geometry engine is written by the effects that say so. -/
theorem geometry_after {e : Effect} (he : e.coprocessor? ≠ some 2) (c : Core) (settings : Settings)
    (a : Answer) : (c.after settings a e).geometry = c.geometry := by
  cases e with
  | loadGeometry | writeGeometryData | writeGeometryControl | geometryCommand => exact absurd rfl he
  | writeControl r v => exact (geometry_raiseIf ..).trans c.geometry_advance
  | returnFromException => exact (geometry_raiseIf ..).trans c.geometry_advance
  | hostCall =>
      simp only [after]
      split
      · rfl
      · exact geometry_advance _
  | _ => simp [after]

/-- The system control coprocessor is written by the effects that say so and by exceptions. -/
theorem control_after {e : Effect} (he : e.coprocessor? ≠ some 0)
    (hraise : ∀ f link, e ≠ .raise f link) (c : Core) (settings : Settings) (a : Answer) :
    (c.after settings a e).control = c.control := by
  cases e with
  | writeControl | returnFromException => exact absurd rfl he
  | raise f link => exact absurd rfl (hraise f link)
  | hostCall =>
      simp only [after]
      split
      · exact control_jumpTo ..
      · exact control_advance _
  | _ => simp [after]

theorem raised?_of_coprocessor?_ne {e : Effect} (he : e.coprocessor? ≠ some 0)
    (hraise : ∀ f link, e ≠ .raise f link) (c : Core) : c.raised? e = none := by
  cases e with
  | writeControl | returnFromException => exact absurd rfl he
  | raise f link => exact absurd rfl (hraise f link)
  | _ => rfl

/-- The core runs in user mode and its program may not use the system control coprocessor. -/
structure Confined (c : Core) : Prop where
  user : c.control.userMode = true
  unusable : c.control.status.bit 28 = false

theorem Confined.usable_eq_false (h : c.Confined) : c.control.usable 0 = false := by
  change (c.control.status.bit 28 || !c.control.userMode) = false
  rw [h.user, h.unusable]
  rfl

theorem Confined.coprocessor?_effect_ne (h : c.Confined) (i : Instruction) :
    (c.effect settings i).coprocessor? ≠ some 0 := by
  intro hreached
  have husable := usable_of_coprocessor?_effect hreached
  rw [h.usable_eq_false] at husable
  cases husable

end Core

theorem Processor.Undisturbed.confined {p q : Processor} {ls : List (Line × Bool)}
    (h : p.Undisturbed ls q) (hp : p.core.Confined) : q.core.Confined := by
  have hstatus : q.core.control.status = p.core.control.status := by
    rw [h.control, SystemControl.status_driven]
  constructor
  · rw [SystemControl.userMode, hstatus]
    exact hp.user
  · rw [hstatus]
    exact hp.unusable

namespace System

variable {β : Type}

/-- An instruction of a program without privileges leaves the system control coprocessor alone or
enters one handler. -/
theorem step_of_confined (B : Bus β) {s : System β} (h : s.cpu.core.Confined) :
    s.cpu.Undisturbed [] (s.step B).cpu ∨
      ∃ f, s.cpu.Enters [] f s.cpu.core.resumeAddress s.cpu.core.branchPending []
        (s.step B).cpu := by
  by_cases hraise : ∃ f link, s.effect B = .raise f link
  · obtain ⟨f, link, he⟩ := hraise
    refine .inr ⟨f, ?_, ?_, ?_⟩
    · rw [entered_step, he]
      rfl
    · rw [core_step, he, Core.after, Core.control_link, Core.control_raise]
      rfl
    · rw [core_step, he]
      exact (Core.inHandler_raise _ f).link link
  · have hraise' (f : Fault) (link : Option (Reg × Word)) : s.effect B ≠ .raise f link :=
      fun he => hraise ⟨f, link, he⟩
    have hreach : (s.effect B).coprocessor? ≠ some 0 := h.coprocessor?_effect_ne _
    refine .inl ⟨?_, ?_⟩
    · rw [entered_step, Core.raised?_of_coprocessor?_ne hreach hraise']
      exact List.append_nil _
    · rw [core_step, Core.control_after hreach hraise']
      rfl

/-- An instruction of a program that may not use the geometry engine leaves it alone. -/
theorem geometry_step (B : Bus β) {s : System β} (h : s.cpu.core.control.usable 2 = false) :
    (s.step B).cpu.core.geometry = s.cpu.core.geometry := by
  have hreach : (s.effect B).coprocessor? ≠ some 2 := by
    intro hreached
    rw [Core.usable_of_coprocessor?_effect hreached] at h
    cases h
  rw [core_step, Core.geometry_after hreach]
  rfl

/-! ### Whole runs -/

def changes (B : Bus β) (s : System β) : List (Line × Bool) :=
  Request.changes (s.instruct B).cpu.requests

/-- The lines that are driven during the next `n` instructions. -/
def changesOf (B : Bus β) (s : System β) : Nat → List (Line × Bool)
  | 0 => []
  | n + 1 => changesOf B s n ++ ((tick B)^[n] s).changes B

/-- With the delivery after it, an instruction of a program without privileges still enters at most
one handler. -/
theorem tick_of_confined (B : Bus β) {s : System β} (h : s.cpu.core.Confined) :
    s.cpu.Undisturbed (s.changes B) (s.tick B).cpu ∨
      s.cpu.EntersAmid (s.changes B) (s.tick B).cpu := by
  have hconfined : s.unstopped.cpu.core.Confined := ⟨h.user, h.unusable⟩
  -- Only one of the two can enter a handler: after the instruction has, the delivery cannot.
  rcases step_of_confined B hconfined with hstep | ⟨f, hstep⟩
  · have hquiet : s.cpu.Undisturbed [] (s.instruct B).cpu := ⟨hstep.entered, hstep.control⟩
    exact (s.instruct B).cpu.deliver_cases.imp hquiet.trans hquiet.entersAmid
  · have henters : s.cpu.Enters [] f s.cpu.core.resumeAddress s.cpu.core.branchPending []
        (s.instruct B).cpu := ⟨hstep.entered, hstep.control, hstep.handler⟩
    obtain ⟨hrest, hhandler⟩ := Processor.deliver_of_inHandler henters.handler
    exact .inr ⟨[], s.changes B, f, _, _, rfl, henters.undisturbed hrest hhandler⟩

/-- A program without privileges is undisturbed for a whole run, or up to an exception that ends its
stay in user mode. -/
theorem iterate_tick_of_confined (B : Bus β) {s : System β} (h : s.cpu.core.Confined) (n : Nat) :
    s.cpu.Undisturbed (s.changesOf B n) ((tick B)^[n] s).cpu ∨
      ∃ k < n, s.cpu.Undisturbed (s.changesOf B k) ((tick B)^[k] s).cpu ∧
        s.cpu.EntersAmid (s.changesOf B (k + 1)) ((tick B)^[k + 1] s).cpu := by
  induction n with
  | zero => exact .inl (.refl _)
  | succ n ih =>
      rcases ih with hquiet | ⟨k, hk, hfirst⟩
      · -- The lines leave the status register alone, so the program is still confined.
        rw [Function.iterate_succ_apply']
        rcases tick_of_confined B (hquiet.confined h) with htick | htick
        · exact .inl (hquiet.trans htick)
        · refine .inr ⟨n, Nat.lt_succ_self n, hquiet, ?_⟩
          rw [Function.iterate_succ_apply']
          exact hquiet.entersAmid htick
      · exact .inr ⟨k, Nat.lt_succ_of_lt hk, hfirst⟩

/-- A program in user mode that may not use the system control coprocessor changes its registers
through exceptions only. Each of its instructions leaves all of them as they are or enters one
handler, which runs in kernel mode without interrupts and with nothing outstanding. In a run the
registers stay as the interrupt lines drive them up to the first exception, and it is entered with
what they were then. In either mode, an instruction of a program that may not use the geometry
engine leaves all of it as it is. -/
theorem privileges_confined (B : Bus β) (s : System β) :
    (s.cpu.core.Confined →
      ((s.step B).cpu.core.control = s.cpu.core.control ∧
          (s.step B).cpu.entered = s.cpu.entered) ∨
        ∃ f, (s.step B).cpu.entered = s.cpu.entered ++ [f.code] ∧
          (s.step B).cpu.core.control =
            s.cpu.core.control.afterFault f s.cpu.core.resumeAddress s.cpu.core.branchPending ∧
          (s.step B).cpu.core.InHandler) ∧
      (s.cpu.core.control.status.bit 30 = false →
        (s.step B).cpu.core.geometry = s.cpu.core.geometry) ∧
      (s.cpu.core.Confined → ∀ n,
        s.cpu.Undisturbed (s.changesOf B n) ((tick B)^[n] s).cpu ∨
          ∃ k < n, s.cpu.Undisturbed (s.changesOf B k) ((tick B)^[k] s).cpu ∧
            s.cpu.EntersAmid (s.changesOf B (k + 1)) ((tick B)^[k + 1] s).cpu) := by
  refine ⟨fun h => ?_, fun h => ?_, fun h n => iterate_tick_of_confined B h n⟩
  · exact (step_of_confined B h).imp (fun h => ⟨h.control, h.entered⟩)
      fun ⟨f, h⟩ => ⟨f, h.entered, h.control, h.handler⟩
  · have hunusable : s.cpu.core.control.usable 2 = false := by
      change (s.cpu.core.control.status.bit 30 || false) = false
      rw [h]
      rfl
    exact geometry_step B hunusable

/-- The system of a program in user mode, in the delay slot of a branch. -/
def unprivileged : System Unit :=
  { cpu :=
      { core :=
          { pc := 0x1000
            hazard := ⟨.branch, 0x2000⟩
            control := SystemControl.zero.write SystemControl.statusReg 0x2 } }
    bus := () }

/-- A program that tries to write the status register in a delay slot finds itself in the handler,
and the first of two instructions has brought it there. -/
theorem privileges_confined_of_refused_move :
    unprivileged.cpu.core.Confined ∧
      (unprivileged.step (Bus.constant 0x40816000)).cpu.entered = [.coprocessorError] ∧
      (unprivileged.step (Bus.constant 0x40816000)).cpu.core.InHandler ∧
      (unprivileged.step (Bus.constant 0x40816000)).cpu.core.geometry =
        unprivileged.cpu.core.geometry ∧
      ∃ k < 2, unprivileged.cpu.Undisturbed (unprivileged.changesOf (Bus.constant 0x40816000) k)
        ((tick (Bus.constant 0x40816000))^[k] unprivileged).cpu := by
  have hconfined : unprivileged.cpu.core.Confined := ⟨by decide, by decide⟩
  have hentered : (unprivileged.step (Bus.constant 0x40816000)).cpu.entered =
      [.coprocessorError] := by decide
  obtain ⟨hstep, hgeometry, hrun⟩ := privileges_confined (Bus.constant 0x40816000) unprivileged
  refine ⟨hconfined, hentered, ?_, hgeometry (by decide), ?_⟩
  · rcases hstep hconfined with ⟨-, hquiet⟩ | ⟨f, -, -, hhandler⟩
    · rw [hentered] at hquiet
      cases hquiet
    · exact hhandler
  · rcases hrun hconfined 2 with hquiet | ⟨k, hk, hquiet, -⟩
    · exact absurd hquiet.entered (by decide)
    · exact ⟨k, hk, hquiet⟩

end System

end R3000A
