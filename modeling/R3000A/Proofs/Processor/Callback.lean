import R3000A.Processor

/-!
# The callback of the host

A callback is called once for each line that is asserted. The call reaches neither the core nor the
settings: it is noted in the journal, and it adds what the callback asks for to the waiting
requests. All that can be told of a callback from inside the processor is what it asks for, so
callbacks are compared by `Processor.reply`, by which a processor without one has a callback that
never asks for anything.
-/

namespace R3000A

namespace Processor

/-- What the callback asks for at the call with `l` after calls with the lines `before`. -/
def reply (p : Processor) (before : List Line) (l : Line) : List Request :=
  match p.callback with
  | none => []
  | some f => f.reply before l

def Silent (p : Processor) : Prop := ∀ before l, p.reply before l = []

def calls (p : Processor) (ls : List Line) : Processor := ls.foldl call p

/-- What the callback asks for at these calls. -/
def replies (p : Processor) : List Line → List Request
  | [] => []
  | l :: ls => p.reply [] l ++ (p.call l).replies ls

@[simp] theorem core_call (p : Processor) (l : Line) : (p.call l).core = p.core := by
  cases h : p.callback <;> simp [call, post, h]

@[simp] theorem settings_call (p : Processor) (l : Line) : (p.call l).settings = p.settings := by
  cases h : p.callback <;> simp [call, post, h]

@[simp] theorem events_call (p : Processor) (l : Line) :
    (p.call l).journal.events = p.journal.events := by
  cases h : p.callback <;> simp [call, post, h]

theorem requests_call (p : Processor) (l : Line) :
    (p.call l).requests = p.requests ++ p.reply [] l := by
  cases h : p.callback <;> simp [call, reply, post, h]

theorem asserted_call (p : Processor) (l : Line) :
    (p.call l).journal.asserted.toList =
      p.journal.asserted.toList ++ if p.callback.isSome then [l] else [] := by
  cases h : p.callback <;> simp [call, post, h]

theorem callback_call (p : Processor) (l : Line) :
    (p.call l).callback = p.callback.map (·.called l) := by
  cases h : p.callback <;> simp [call, post, h]

/-- The callback remembers a call at the next one. -/
theorem reply_call (p : Processor) (l : Line) (before : List Line) (k : Line) :
    (p.call l).reply before k = p.reply (l :: before) k := by
  rw [reply, reply, callback_call]
  cases p.callback <;> rfl

theorem core_calls (p : Processor) (ls : List Line) : (p.calls ls).core = p.core := by
  induction ls generalizing p with
  | nil => rfl
  | cons l ls ih => exact (ih (p.call l)).trans (core_call ..)

theorem settings_calls (p : Processor) (ls : List Line) : (p.calls ls).settings = p.settings := by
  induction ls generalizing p with
  | nil => rfl
  | cons l ls ih => exact (ih (p.call l)).trans (settings_call ..)

theorem requests_calls (p : Processor) (ls : List Line) :
    (p.calls ls).requests = p.requests ++ p.replies ls := by
  induction ls generalizing p with
  | nil => exact (List.append_nil _).symm
  | cons l ls ih =>
      refine (ih (p.call l)).trans ?_
      rw [requests_call, List.append_assoc]
      rfl

theorem callback_calls (p : Processor) (ls : List Line) :
    (p.calls ls).callback = p.callback.map (ls.foldl Callback.called) := by
  induction ls generalizing p with
  | nil => exact Option.map_id_apply.symm
  | cons l ls ih =>
      refine (ih (p.call l)).trans ?_
      rw [callback_call, Option.map_map]
      rfl

theorem reply_calls (p : Processor) (ls before : List Line) (k : Line) :
    (p.calls ls).reply before k = p.reply (ls ++ before) k := by
  induction ls generalizing p with
  | nil => rfl
  | cons l ls ih => exact (ih (p.call l)).trans (reply_call ..)

theorem asserted_calls (p : Processor) (ls : List Line) :
    (p.calls ls).journal.asserted.toList =
      p.journal.asserted.toList ++ if p.callback.isSome then ls else [] := by
  induction ls generalizing p with
  | nil => simp [calls]
  | cons l ls ih =>
      refine (ih (p.call l)).trans ?_
      rw [asserted_call, callback_call, Option.isSome_map, List.append_assoc]
      cases p.callback.isSome <;> rfl

/-- What is asked for does not depend on anything else. -/
theorem replies_congr {p q : Processor} (h : ∀ before l, p.reply before l = q.reply before l)
    (ls : List Line) : p.replies ls = q.replies ls := by
  induction ls generalizing p q with
  | nil => rfl
  | cons l ls ih =>
      have hnext (before : List Line) (k : Line) :
          (p.call l).reply before k = (q.call l).reply before k := by
        rw [reply_call, reply_call, h]
      rw [replies, replies, h, ih hnext]

theorem Silent.replies {p : Processor} (h : p.Silent) (ls : List Line) : p.replies ls = [] := by
  induction ls generalizing p with
  | nil => rfl
  | cons l ls ih =>
      have hnext : (p.call l).Silent := fun before k => (reply_call ..).trans (h _ k)
      rw [Processor.replies, h, ih hnext, List.append_nil]

/-- What belongs to the host is the same for both processors, but for the events in the journal. -/
structure SameHost (p q : Processor) : Prop where
  settings : p.settings = q.settings
  requests : p.requests = q.requests
  callback : p.callback = q.callback
  asserted : p.journal.asserted = q.journal.asserted

namespace SameHost

variable {p q r : Processor}

theorem refl (p : Processor) : p.SameHost p := ⟨rfl, rfl, rfl, rfl⟩

theorem trans (hpq : p.SameHost q) (hqr : q.SameHost r) : p.SameHost r :=
  ⟨hpq.settings.trans hqr.settings, hpq.requests.trans hqr.requests,
    hpq.callback.trans hqr.callback, hpq.asserted.trans hqr.asserted⟩

theorem reply (h : p.SameHost q) : p.reply = q.reply := by
  funext before l
  rw [Processor.reply, Processor.reply, h.callback]

theorem call (h : p.SameHost q) (l : Line) : (p.call l).SameHost (q.call l) where
  settings := by rw [settings_call, settings_call, h.settings]
  requests := by rw [requests_call, requests_call, h.requests, h.reply]
  callback := by rw [callback_call, callback_call, h.callback]
  asserted := Array.toList_inj.1 (by rw [asserted_call, asserted_call, h.callback, h.asserted])

theorem calls (h : p.SameHost q) (ls : List Line) : (p.calls ls).SameHost (q.calls ls) := by
  induction ls generalizing p q with
  | nil => exact h
  | cons l ls ih => exact ih (h.call l)

end SameHost

end Processor

end R3000A
