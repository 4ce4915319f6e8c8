import R3000A.System

/-!
# The bus side of a step

An access changes the bus and leaves requests, and the core does not notice. `fetchedWord` and
`instruction` name what a step finds at the program counter, and `step_eq` says that a step is the
fetch followed by the effect that this instruction has on the core as it was before the fetch.
-/

namespace R3000A

/-- The bus that answers `w` to every read. -/
def Bus.constant (w : Word) : Bus Unit where
  read _ _ _ := { value := w, bus := () }
  write _ _ _ _ := { value := (), bus := () }

namespace Processor

@[simp] theorem core_post (p : Processor) (rs : List Request) : (p.post rs).core = p.core := rfl

end Processor

namespace Core

theorem effect_fetched (c : Core) (w : Word) (settings : Settings) (i : Instruction) :
    (c.fetched w).effect settings i = c.effect settings i := by
  cases i <;> rfl

end Core

namespace System

variable {β : Type}

@[simp] theorem cpu_modify (s : System β) (f : Processor → Processor) :
    (s.modify f).cpu = f s.cpu := rfl

@[simp] theorem cpu_modifyCore (s : System β) (f : Core → Core) :
    (s.modifyCore f).cpu = s.cpu.modifyCore f := rfl

def hostReply (B : Bus β) (s : System β) : Reply β (Bank × Option Word) :=
  B.hostCall s.cpu.core.pc s.cpu.core.regs s.bus

def fetchedWord (B : Bus β) (s : System β) : Word := (B.read .word s.cpu.core.pc s.bus).value

def instruction (B : Bus β) (s : System β) : Instruction := Instruction.decode (s.fetchedWord B)

@[simp] theorem cpu_fetch (B : Bus β) (s : System β) :
    (s.fetch B).cpu =
      (s.cpu.post (B.read .word s.cpu.core.pc s.bus).requests).modifyCore
        (·.fetched (s.fetchedWord B)) := rfl

theorem step_eq (B : Bus β) (s : System β) :
    s.step B =
      (s.fetch B).perform B (s.cpu.core.effect s.cpu.settings (s.instruction B)) := by
  have heffect := s.cpu.core.effect_fetched (s.fetchedWord B) s.cpu.settings (s.instruction B)
  rw [← heffect]
  rfl

end System

end R3000A
