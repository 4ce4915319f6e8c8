import R3000A.Proofs.System.Discipline

/-!
# A given instruction

A step takes its instruction from memory, and a store may overwrite the ones that follow. `issue` is
the step in which the word is given instead, so that instructions can follow each other whatever the
ones before have done to memory. `Accesses` says that a word moves data at an address and is neither
dropped nor refused there, and its effect is then that of the address, whatever base register and
offset have led to it.
-/

namespace R3000A

def StoreOp.merges : StoreOp → Bool
  | wordLeft | wordRight => true
  | _ => false

namespace Core

/-- What a load from an address comes to, unless it is dropped or refused. -/
def loadAt (c : Core) (op : LoadOp) (rt : Reg) (address : Word) : Effect :=
  .load op.width (op.busAddress c.control.reverseEndian address) rt
    (op.result c.control.reverseEndian address (c.upcomingReg rt))

def storeAt (c : Core) (op : StoreOp) (rt : Reg) (address : Word) : Effect :=
  if op.merges then
    .storeMerged (address &&& ~~~3) (op.merged c.control.reverseEndian address (c.reg rt))
  else .store op.width (c.mirrored op.width.reverseMask address) (c.reg rt)

variable {c : Core}

/-- An access that is neither dropped nor refused is made. -/
theorem access_eq {refused : Bool} {f : Fault} {dropped e : Effect}
    (hcache : c.control.cacheIsolated = false)
    (hraised : c.raised? (if c.control.cacheIsolated then dropped
      else if refused then .raise f none else e) = none) :
    (if c.control.cacheIsolated then dropped else if refused then .raise f none else e) = e := by
  rw [hcache, if_neg Bool.false_ne_true] at hraised ⊢
  cases refused with
  | true => cases hraised
  | false => rfl

theorem loadEffect_eq_loadAt {op : LoadOp} {rt base : Reg} {offset : Word}
    (hcache : c.control.cacheIsolated = false)
    (hraised : c.raised? (c.loadEffect op rt base offset) = none) :
    c.loadEffect op rt base offset = c.loadAt op rt (c.reg base + offset) :=
  access_eq hcache hraised

theorem storeEffect_eq_storeAt {op : StoreOp} {rt base : Reg} {offset : Word}
    (hcache : c.control.cacheIsolated = false)
    (hraised : c.raised? (c.storeEffect op rt base offset) = none) :
    c.storeEffect op rt base offset = c.storeAt op rt (c.reg base + offset) := by
  refine (access_eq hcache hraised).trans ?_
  rw [storeAt, mirrored, ← reverseEndian_eq]
  cases op <;> rfl

end Core

namespace System

variable {β : Type} {B : Bus β}

/-- The system that has fetched `w`, whatever stands at the program counter. -/
def fetched (B : Bus β) (w : Word) (s : System β) : System β :=
  (s.read B .word s.cpu.core.pc).2.modifyCore (·.fetched w)

def issue (B : Bus β) (w : Word) (s : System β) : System β :=
  let s := s.fetched B w
  s.perform B (s.cpu.core.effect s.cpu.settings (Instruction.decode w))

/-- A step is the instruction at the program counter. -/
theorem step_eq_issue (B : Bus β) (s : System β) : s.step B = s.issue B (s.fetchedWord B) := rfl

def Passes (s : System β) (w : Word) : Prop :=
  s.cpu.core.raised? (s.cpu.core.effect s.cpu.settings (Instruction.decode w)) = none

instance (s : System β) (w : Word) : Decidable (s.Passes w) := inferInstanceAs (Decidable (_ = _))

/-- The instruction in a word is `move` at an address, with the cache connected and without an
exception. -/
structure Accesses (s : System β) (w : Word) (move : Reg → Word → Instruction) (a : Word) :
    Prop where
  moves : ∃ base offset, Instruction.decode w = move base offset ∧ s.cpu.core.reg base + offset = a
  connected : s.cpu.core.control.status.bit 16 = false
  passes : s.Passes w

theorem issue_eq (s : System β) (w : Word) :
    s.issue B w =
      (s.fetched B w).perform B (s.cpu.core.effect s.cpu.settings (Instruction.decode w)) := by
  have heffect := s.cpu.core.effect_fetched w s.cpu.settings (Instruction.decode w)
  rw [← heffect]
  rfl

theorem Accesses.issue_load {s : System β} {w a : Word} {op : LoadOp} {rt : Reg}
    (h : s.Accesses w (.load op rt) a) :
    s.issue B w = (s.fetched B w).perform B (s.cpu.core.loadAt op rt a) := by
  obtain ⟨base, offset, hdecode, rfl⟩ := h.moves
  have hpasses := h.passes
  rw [Passes, hdecode] at hpasses
  rw [issue_eq, hdecode]
  exact congrArg _ (Core.loadEffect_eq_loadAt h.connected hpasses)

theorem Accesses.issue_store {s : System β} {w a : Word} {op : StoreOp} {rt : Reg}
    (h : s.Accesses w (.store op rt) a) :
    s.issue B w = (s.fetched B w).perform B (s.cpu.core.storeAt op rt a) := by
  obtain ⟨base, offset, hdecode, rfl⟩ := h.moves
  have hpasses := h.passes
  rw [Passes, hdecode] at hpasses
  rw [issue_eq, hdecode]
  exact congrArg _ (Core.storeEffect_eq_storeAt h.connected hpasses)

end System

end R3000A
