import R3000A.Proofs.Processor.Settle

/-!
# The delivery of requests

Requests are delivered line by line, and each delivery is a write to the cause register. Lists of
requests that ask the same of every line are therefore delivered alike, in whatever order and
however often a line was asked for something else before. The callback is called once for each line
that ends up asserted. What it asks for on that occasion is all that waits after a delivery.
-/

namespace R3000A

namespace Request

/-- The requests ask the same of every line and of the slice. -/
structure Same (rs qs : List Request) : Prop where
  level : ∀ l, level? l rs = level? l qs
  shortens : Request.shortens rs = Request.shortens qs

theorem level?_append (l : Line) (rs qs : List Request) :
    level? l (rs ++ qs) = (level? l qs).or (level? l rs) := by
  induction rs with
  | nil => exact (Option.or_none ..).symm
  | cons r rs ih =>
      cases r with
      | line k level => simp only [List.cons_append, level?, ih, Option.or_assoc]
      | shorten => exact ih

theorem shortens_append (rs qs : List Request) :
    Request.shortens (rs ++ qs) = (Request.shortens rs || Request.shortens qs) :=
  List.contains_append ..

def assertions (changes : List (Line × Bool)) : List Line := (changes.filter Prod.snd).map Prod.fst

/-- The lines with which the callback is called: those that the last request asserts. -/
def told (rs : List Request) : List Line := assertions (changes rs)

namespace Same

variable {rs qs rs' qs' : List Request}

theorem refl (rs : List Request) : Same rs rs := ⟨fun _ => rfl, rfl⟩

theorem append (h : Same rs qs) (h' : Same rs' qs') : Same (rs ++ rs') (qs ++ qs') where
  level l := by rw [level?_append, level?_append, h.level, h'.level]
  shortens := by rw [shortens_append, shortens_append, h.shortens, h'.shortens]

theorem changes (h : Same rs qs) : Request.changes rs = Request.changes qs := by
  simp only [Request.changes, h.level]

end Same

end Request

namespace Core

def setLine (c : Core) (l : Line) (level : Bool) : Core :=
  c.writeControl SystemControl.causeReg (Processor.drive l level c.control.cause)

def setLines (c : Core) (changes : List (Line × Bool)) : Core :=
  changes.foldl (fun c (l, level) => c.setLine l level) c

theorem setLines_induction {P : Core → Prop} (hline : ∀ c l level, P c → P (c.setLine l level))
    {c : Core} (h : P c) (ls : List (Line × Bool)) : P (c.setLines ls) := by
  induction ls generalizing c with
  | nil => exact h
  | cons change ls ih => exact ih (hline c change.1 change.2 h)

end Core

namespace Processor

/-- To the host, driving a line is the call of its callback and nothing else. -/
theorem sameHost_setLine (p : Processor) (l : Line) (level : Bool) :
    (p.setLine l level).1.SameHost (if level then p.call l else p) := by
  have hwritten := p.sameHost_writeControl SystemControl.causeReg
    (drive l level p.core.control.cause)
  cases level with
  | false => exact hwritten
  | true => exact hwritten.call l

theorem deliverLine_eq (p : Processor) (l : Line) (level : Bool) :
    p.deliverLine l level =
      (p.setLine l level).1.tell (.lineInterrupted l (p.setLine l level).1.core.pc)
        (p.setLine l level).2 := by
  rcases hset : p.setLine l level with ⟨q, _ | _⟩ <;> simp [deliverLine, hset, tell]

theorem core_deliverLine (p : Processor) (l : Line) (level : Bool) :
    (p.deliverLine l level).core = p.core.setLine l level := by
  rw [deliverLine_eq, core_tell, core_setLine, Core.setLine]

theorem sameHost_deliverLine (p : Processor) (l : Line) (level : Bool) :
    (p.deliverLine l level).SameHost (if level then p.call l else p) := by
  rw [deliverLine_eq]
  exact (sameHost_tell ..).trans (p.sameHost_setLine l level)

def deliverLines (p : Processor) (ls : List (Line × Bool)) : Processor :=
  ls.foldl (fun q (l, level) => q.deliverLine l level) p

theorem core_deliverLines (p : Processor) (ls : List (Line × Bool)) :
    (p.deliverLines ls).core = p.core.setLines ls := by
  induction ls generalizing p with
  | nil => rfl
  | cons change ls ih => exact (ih _).trans (congrArg (·.setLines ls) (core_deliverLine ..))

/-- To the host, a delivery is a call for each line that is asserted. -/
theorem sameHost_deliverLines (p : Processor) (ls : List (Line × Bool)) :
    (p.deliverLines ls).SameHost (p.calls (Request.assertions ls)) := by
  induction ls generalizing p with
  | nil => exact .refl p
  | cons change ls ih =>
      obtain ⟨l, level⟩ := change
      have hrest := (ih (p.deliverLine l level)).trans ((p.sameHost_deliverLine l level).calls _)
      cases level <;> exact hrest

/-- Without requests there are no changes either, so they need no case of their own. -/
theorem deliver_eq (p : Processor) :
    p.deliver = { p with requests := [] }.deliverLines (Request.changes p.requests) := by
  rw [deliver]
  split
  · rename_i h
    obtain ⟨core, settings, requests, callback, journal, handle⟩ := p
    obtain rfl : requests = [] := List.isEmpty_iff.1 h
    rfl
  · rfl

theorem core_deliver (p : Processor) :
    p.deliver.core = p.core.setLines (Request.changes p.requests) := by
  rw [deliver_eq, core_deliverLines]

theorem sameHost_deliver (p : Processor) :
    p.deliver.SameHost ({ p with requests := [] }.calls (Request.told p.requests)) := by
  rw [deliver_eq]
  exact sameHost_deliverLines _ _

theorem settings_deliver (p : Processor) : p.deliver.settings = p.settings :=
  p.sameHost_deliver.settings.trans (settings_calls ..)

/-- What waits after a delivery is what the callback has asked for during it. -/
theorem requests_deliver (p : Processor) :
    p.deliver.requests = p.replies (Request.told p.requests) := by
  have hsame (before : List Line) (l : Line) :
      { p with requests := [] }.reply before l = p.reply before l := rfl
  rw [p.sameHost_deliver.requests, requests_calls, List.nil_append, replies_congr hsame]

end Processor

end R3000A
