import R3000A.System

/-!
# Slices

The host runs the processor in slices of a given number of instructions. A slice ends early when an
instruction stops the processor or a device asks for it, in either case after the instruction and
the delivery of the requests. How many instructions are left is counted exactly; the count is below
zero after an instruction that stopped the processor.
-/

namespace R3000A

/-- A slice under way. -/
structure Slice (β : Type) where
  system : System β
  /-- The instructions that may still run. -/
  left : Int
  /-- The instructions that have run. -/
  executed : Nat := 0

namespace Slice

variable {β : Type}

/-- A slice about to run up to `budget` instructions. -/
def start (budget : Int) (s : System β) : Slice β :=
  { system := s.modifyCore fun c => { c with stopped := false }, left := budget }

def next (B : Bus β) : Slice β → Slice β
  | ⟨system, left, executed⟩ =>
    let s := system.step B
    let left := (if s.cpu.core.stopped then 0 else left) - 1
    let left := if Request.shortens s.cpu.requests then 0 else left
    { system := s.modify Processor.deliver, left, executed := executed + 1 }

def advance (B : Bus β) : Nat → Slice β → Slice β
  | 0, t => t
  | n + 1, t => if 0 < t.left then advance B n (t.next B) else t

/-- A whole slice. Every instruction lowers the number of those left, so the budget bounds them. -/
def run (B : Bus β) (budget : Int) (s : System β) : Slice β :=
  advance B budget.toNat (start budget s)

end Slice

end R3000A
