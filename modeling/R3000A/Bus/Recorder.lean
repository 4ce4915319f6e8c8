import R3000A.Bus

/-!
# Recording a bus

`Bus.recorded` is a bus that answers like the one it wraps and writes down what the processor asked
of it: the accesses with their values and the calls with the registers they came with.
-/

namespace R3000A

/-- An access that a processor has made. -/
inductive Access where
  | read (width : Width) (address v : Word)
  | write (width : Width) (address v : Word)
  deriving DecidableEq, Repr

/-- A call that a processor has made. -/
inductive Call where
  | host (pc : Word) (regs : Bank)
  | library (pc : Word) (code : UInt16) (regs : Bank)
  deriving DecidableEq, Repr

/-- The state of a bus with what has been asked of it, oldest first. -/
structure Recorded (β : Type) where
  inner : β
  accesses : Array Access := #[]
  calls : Array Call := #[]

namespace Recorded

variable {β : Type}

def clear (r : Recorded β) : Recorded β := { inner := r.inner }

end Recorded

/-- The bus that writes down what is asked of `B`. -/
def Bus.recorded {β : Type} (B : Bus β) : Bus (Recorded β) where
  read width a := fun ⟨inner, accesses, calls⟩ =>
    let ⟨v, inner, requests⟩ := B.read width a inner
    ⟨v, ⟨inner, accesses.push (.read width a (width.truncate v)), calls⟩, requests⟩
  write width a v := fun ⟨inner, accesses, calls⟩ =>
    let ⟨(), inner, requests⟩ := B.write width a v inner
    ⟨(), ⟨inner, accesses.push (.write width a (width.truncate v)), calls⟩, requests⟩
  hostCall pc regs := fun ⟨inner, accesses, calls⟩ =>
    let ⟨answer, inner, requests⟩ := B.hostCall pc regs inner
    ⟨answer, ⟨inner, accesses, calls.push (.host pc regs)⟩, requests⟩
  libraryCall pc code regs := fun ⟨inner, accesses, calls⟩ =>
    let ⟨answer, inner, requests⟩ := B.libraryCall pc code regs inner
    ⟨answer, ⟨inner, accesses, calls.push (.library pc code regs)⟩, requests⟩

end R3000A
