import R3000A.Proofs.Core.Alike
import R3000A.Proofs.Slice.Stopped
import R3000A.Slice

/-!
# Runs that a program cannot tell apart

Processors are alike if their cores are, if they have the same settings and if the waiting requests
ask the same. On buses in the same state they then fetch the same instruction, ask the same of the
bus and leave the same requests, and so an instruction, the delivery of the requests and a whole
slice lead to processors that are alike again, on buses in the same state. A slice has to know in
addition that both have been stopped or neither, which it makes sure of at its start.
-/

namespace R3000A

variable {β : Type}

namespace Core.Alike

variable {c d : Core}

theorem setLine (h : c.Alike d) (l : Line) (level : Bool) :
    (c.setLine l level).Alike (d.setLine l level) := by
  rw [Core.setLine, Core.setLine, h.control]
  exact h.writeControl _ _

theorem setLines (h : c.Alike d) (changes : List (Line × Bool)) :
    (c.setLines changes).Alike (d.setLines changes) := by
  induction changes generalizing c d with
  | nil => exact h
  | cons change changes ih => exact ih (h.setLine change.1 change.2)

end Core.Alike

namespace Processor

/-- At the same calls the callbacks ask the same of their processors. Processors without a callback,
and with one that never asks for anything, are among those for which this holds. -/
def RepliesAlike (p q : Processor) : Prop :=
  ∀ before l, Request.Same (p.reply before l) (q.reply before l)

namespace RepliesAlike

variable {p q : Processor}

theorem of_callback (h : p.callback = q.callback) : p.RepliesAlike q := by
  intro before l
  rw [reply, reply, h]
  exact .refl _

theorem of_silent (hp : p.Silent) (hq : q.Silent) : p.RepliesAlike q := by
  intro before l
  rw [hp, hq]
  exact .refl []

theorem calls (h : p.RepliesAlike q) (ls : List Line) : (p.calls ls).RepliesAlike (q.calls ls) := by
  intro before l
  rw [reply_calls, reply_calls]
  exact h _ l

theorem replies (h : p.RepliesAlike q) (ls : List Line) :
    Request.Same (p.replies ls) (q.replies ls) := by
  induction ls generalizing p q with
  | nil => exact .refl []
  | cons l ls ih => exact (h [] l).append (ih (h.calls [l]))

end RepliesAlike

/-- The processors differ only in what neither a program nor its bus can find out. -/
structure Alike (p q : Processor) : Prop where
  core : p.core.Alike q.core
  settings : p.settings = q.settings
  requests : Request.Same p.requests q.requests
  replies : p.RepliesAlike q

namespace Alike

variable {p q p' q' : Processor}

theorem of_sameHost (h : p.Alike q) (hcore : p'.core.Alike q'.core) (hp : p'.SameHost p)
    (hq : q'.SameHost q) : p'.Alike q' where
  core := hcore
  settings := by rw [hp.settings, hq.settings, h.settings]
  requests := by
    rw [hp.requests, hq.requests]
    exact h.requests
  replies before l := by
    rw [hp.reply, hq.reply]
    exact h.replies before l

theorem calls (h : p.Alike q) (ls : List Line) : (p.calls ls).Alike (q.calls ls) where
  core := by
    rw [core_calls, core_calls]
    exact h.core
  settings := by rw [settings_calls, settings_calls, h.settings]
  requests := by
    rw [requests_calls, requests_calls]
    exact h.requests.append (h.replies.replies ls)
  replies := RepliesAlike.calls h.replies ls

theorem deliver (h : p.Alike q) : p.deliver.Alike q.deliver := by
  have hchanges := h.requests.changes
  have hstart : { p with requests := [] }.Alike { q with requests := [] } :=
    ⟨h.core, h.settings, .refl [], h.replies⟩
  have hhost := q.sameHost_deliver
  rw [Request.told, ← hchanges] at hhost
  refine (hstart.calls (Request.told p.requests)).of_sameHost ?_ p.sameHost_deliver hhost
  rw [core_deliver, core_deliver, ← hchanges]
  exact h.core.setLines _

end Alike

end Processor

namespace System

/-- No instruction changes how the host has set up its processor. -/
theorem setup_perform (B : Bus β) (s : System β) (e : Effect) :
    (s.perform B e).cpu.settings = s.cpu.settings ∧
      (s.perform B e).cpu.callback = s.cpu.callback := by
  cases e with
  | raise f link =>
      simp only [perform, cpu_modify]
      split <;> exact ⟨rfl, rfl⟩
  | geometryCommand w =>
      simp only [perform]
      split <;> exact ⟨rfl, rfl⟩
  | writeControl r v =>
      have hhost := s.cpu.sameHost_moveToControl r v
      exact ⟨hhost.settings, hhost.callback⟩
  | returnFromException =>
      have hhost := s.cpu.sameHost_returnFromException
      exact ⟨hhost.settings, hhost.callback⟩
  | unsupported what =>
      have hhost := s.cpu.sameHost_reportUnsupported what
      exact ⟨hhost.settings, hhost.callback⟩
  | _ => exact ⟨rfl, rfl⟩

theorem settings_step (B : Bus β) (s : System β) : (s.step B).cpu.settings = s.cpu.settings := by
  rw [step_eq, (setup_perform ..).1]
  rfl

theorem callback_step (B : Bus β) (s : System β) : (s.step B).cpu.callback = s.cpu.callback := by
  rw [step_eq, (setup_perform ..).2]
  rfl

theorem silent_step (B : Bus β) {s : System β} (h : s.cpu.Silent) : (s.step B).cpu.Silent := by
  intro before l
  rw [Processor.reply, callback_step]
  exact h before l

/-- The systems have alike processors and the same bus. -/
structure Alike (s t : System β) : Prop where
  cpu : s.cpu.Alike t.cpu
  bus : s.bus = t.bus

namespace Alike

variable {s t : System β}

theorem fetchedWord (h : s.Alike t) (B : Bus β) : s.fetchedWord B = t.fetchedWord B := by
  rw [System.fetchedWord, System.fetchedWord, h.cpu.core.pc, h.bus]

theorem effect (h : s.Alike t) (B : Bus β) : s.effect B = t.effect B := by
  rw [System.effect, System.effect, instruction, instruction, h.fetchedWord, h.cpu.settings,
    h.cpu.core.effect]

/-- The bus is asked the same and so answers the same. -/
theorem instructionAnswer (h : s.Alike t) (B : Bus β) :
    s.instructionAnswer B = t.instructionAnswer B := by
  change (s.effect B).served B s.cpu.core.pc s.cpu.core.regs (B.read .word s.cpu.core.pc s.bus).bus =
    (t.effect B).served B t.cpu.core.pc t.cpu.core.regs (B.read .word t.cpu.core.pc t.bus).bus
  rw [h.effect, h.cpu.core.pc, h.cpu.core.regs, h.bus]

theorem step (h : s.Alike t) (B : Bus β) : (s.step B).Alike (t.step B) := by
  refine ⟨⟨?core, ?settings, ?requests, ?replies⟩, ?bus⟩
  case core =>
    rw [core_step, core_step, h.effect, h.instructionAnswer, h.cpu.settings]
    exact (h.cpu.core.fetched _ _).after _ _ _
  case settings => rw [settings_step, settings_step, h.cpu.settings]
  case requests =>
    have hfetch : Request.Same (s.fetch B).cpu.requests (t.fetch B).cpu.requests := by
      change Request.Same (s.cpu.requests ++ (B.read .word s.cpu.core.pc s.bus).requests)
        (t.cpu.requests ++ (B.read .word t.cpu.core.pc t.bus).requests)
      rw [h.cpu.core.pc, h.bus]
      exact h.cpu.requests.append (.refl _)
    rw [requests_step, requests_step, h.instructionAnswer]
    exact hfetch.append (.refl _)
  case replies =>
    intro before l
    rw [Processor.reply, Processor.reply, callback_step, callback_step]
    exact h.cpu.replies before l
  case bus => rw [bus_step, bus_step, h.instructionAnswer]

end Alike

end System

namespace Slice

/-- The slices have come equally far with systems that are alike. -/
structure Alike (t u : Slice β) : Prop where
  system : t.system.Alike u.system
  stopped : t.system.cpu.core.stopped = u.system.cpu.core.stopped
  left : t.left = u.left
  executed : t.executed = u.executed

namespace Alike

variable {t u : Slice β}

theorem start {s s' : System β} (h : s.Alike s') (budget : Int) :
    (Slice.start budget s).Alike (Slice.start budget s') :=
  ⟨⟨⟨h.cpu.core.withStopped false false, h.cpu.settings, h.cpu.requests, h.cpu.replies⟩, h.bus⟩,
    rfl, rfl, rfl⟩

theorem next (h : t.Alike u) (B : Bus β) : (t.next B).Alike (u.next B) := by
  have hstep := h.system.step B
  have hstopped : (t.system.step B).cpu.core.stopped = (u.system.step B).cpu.core.stopped := by
    rw [System.stopped_step, System.stopped_step, h.system.effect, h.system.cpu.settings, h.stopped]
  refine ⟨⟨hstep.cpu.deliver, hstep.bus⟩, ?stopped, ?left, congrArg (· + 1) h.executed⟩
  case stopped =>
    change (t.system.step B).cpu.deliver.core.stopped = (u.system.step B).cpu.deliver.core.stopped
    rw [Processor.stopped_deliver, Processor.stopped_deliver, hstopped]
  case left => simp only [Slice.next, hstopped, hstep.cpu.requests.shortens, h.left]

theorem advance (h : t.Alike u) (B : Bus β) (n : Nat) : (t.advance B n).Alike (u.advance B n) := by
  induction n generalizing t u with
  | zero => exact h
  | succ n ih =>
      rw [Slice.advance, Slice.advance, h.left]
      split
      · exact ih (h.next B)
      · exact h

theorem run {s s' : System β} (h : s.Alike s') (B : Bus β) (budget : Int) :
    (Slice.run B budget s).Alike (Slice.run B budget s') :=
  (start h budget).advance B _

end Alike

end Slice

end R3000A
