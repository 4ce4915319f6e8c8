import R3000A.Core
import R3000A.Text.Hex

/-!
# The core as text

A page of text that shows the registers of the core: the program counter and the place of the last
instruction, the general purpose registers in two columns under their customary names, HI and LO,
and what the system control coprocessor knows about the last exception.
-/

namespace R3000A.Core

open Text (hexWord)

def registerNames : Vector String 32 := #v[
  "r0", "at", "v0", "v1", "a0", "a1", "a2", "a3", "t0", "t1", "t2", "t3", "t4", "t5", "t6", "t7",
  "s0", "s1", "s2", "s3", "s4", "s5", "s6", "s7", "t8", "t9", "k0", "k1", "gp", "sp", "fp", "ra"]

def namedReg (c : Core) (r : Reg) : String := s!"{registerNames.get r}: {hexWord (c.reg r)}"

def registerLine (c : Core) (i : Fin 16) : String :=
  c.namedReg ⟨i, by omega⟩ ++ "    " ++ c.namedReg ⟨i + 16, by omega⟩ ++ "\n"

/-- The registers as text, which begins with an empty line. -/
def display (c : Core) : String :=
  s!"\nPC: {hexWord c.pc}    prev: {hexWord c.previousPc}\n"
    ++ String.join ((List.finRange 16).map c.registerLine)
    ++ s!"hi: {hexWord c.hi}    lo: {hexWord c.lo}\n"
    ++ s!"sr: {hexWord c.control.status}    cause: {hexWord c.control.cause}    "
    ++ s!"epc: {hexWord c.control.epc}\n"

end R3000A.Core
