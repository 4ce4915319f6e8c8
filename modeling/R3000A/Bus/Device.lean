import R3000A.Bus

/-!
# Simple devices

A `Doorbell` is a device with one register: writing a word to its address makes it ask something of
the processor. A `Service` stands for code outside of the program: it puts fixed values into
registers and may send the program somewhere else.
-/

namespace R3000A

/-- A device that makes its requests when a word is written to its address. -/
structure Doorbell where
  address : Word
  requests : List Request
  deriving DecidableEq, Repr

/-- The bus with doorbells beside what it reaches otherwise. All of them ring before the word goes
further. -/
def Bus.withDoorbells {β : Type} (ds : List Doorbell) (B : Bus β) : Bus β where
  read := B.read
  write width a v b :=
    let reply := B.write width a v b
    let rung := if width = .word then ds.filter (·.address = a) else []
    { reply with requests := rung.flatMap (·.requests) ++ reply.requests }
  hostCall := B.hostCall
  libraryCall := B.libraryCall

/-- A call that is served by putting values into registers, one after the other. -/
structure Service where
  stores : List (Reg × Word)
  /-- Where the program goes on, if not after the call. -/
  target : Option Word := none
  deriving DecidableEq, Repr

def Service.apply (s : Service) (regs : Bank) : Bank :=
  s.stores.foldl (fun regs (r, v) => regs.write r v) regs

def Bus.servingHost {β : Type} (s : Service) (B : Bus β) : Bus β :=
  { B with hostCall := fun _ regs b => ⟨(s.apply regs, s.target), b, []⟩ }

def Bus.servingLibrary {β : Type} (s : Service) (B : Bus β) : Bus β :=
  { B with libraryCall := fun _ _ regs b => ⟨s.apply regs, b, []⟩ }

end R3000A
