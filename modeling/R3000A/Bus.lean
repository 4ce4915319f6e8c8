import R3000A.Bank
import R3000A.Interrupt

/-!
# The bus

The processor reaches memory and devices through a bus. A bus over states `β` answers each access
with a value, its next state and the requests that devices make on the occasion. Addresses are
passed as the program computed them. Two hooks let a bus serve calls that a program makes outside
of its own code.
-/

namespace R3000A

/-- How much an access moves. -/
inductive Width where
  | byte
  | half
  | word
  deriving DecidableEq, Repr, Inhabited

namespace Width

def bytes : Width → Nat
  | byte => 1
  | half => 2
  | word => 4

/-- The part of a word that an access moves. -/
def truncate : Width → Word → Word
  | byte, w => w &&& 0xff
  | half, w => w &&& 0xffff
  | word, w => w

/-- The address bits that the other byte order flips. -/
def reverseMask : Width → Word
  | byte => 3
  | half => 2
  | word => 0

/-- The address bits that must be clear. -/
def alignMask : Width → Word
  | byte => 0
  | half => 1
  | word => 3

end Width

/-- The answer to an access: a value, the next state of the bus and what devices ask for. -/
structure Reply (β : Type) (α : Type) where
  value : α
  bus : β
  requests : List Request := []

/-- Memory and devices with states in `β`, as the processor sees them. Of a value read or written
only the part that the width moves counts. -/
structure Bus (β : Type) where
  read : Width → Word → β → Reply β Word
  write : Width → Word → Word → β → Reply β Unit
  /-- Serves a host call at a program counter. The answer is the registers after the call and the
  address to jump to, or none to go on. -/
  hostCall : Word → Bank → β → Reply β (Bank × Option Word) := fun _ regs b => ⟨(regs, none), b, []⟩
  /-- Serves a library call at a program counter by its number. The answer is the registers after
  the call. -/
  libraryCall : Word → UInt16 → Bank → β → Reply β Bank := fun _ _ regs b => ⟨regs, b, []⟩

end R3000A
