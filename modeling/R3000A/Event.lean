import R3000A.Exception
import R3000A.Interrupt
import R3000A.Log
import R3000A.Text.Hex

/-!
# Events

What the processor reports to its host while it runs. An event says what happened; its level and
its text are fixed here and nowhere else.
-/

namespace R3000A

/-- The operations that are not supported. -/
inductive Unsupported where
  | controlCommand
  | controlMove
  | coprocessor1
  | geometryMove
  | isolatedLoad
  | isolatedStore
  | loadCoprocessor1
  | storeCoprocessor1
  | isolatedGeometryLoad
  | isolatedGeometryStore
  deriving DecidableEq, Repr

def Unsupported.text : Unsupported → String
  | controlCommand => "COP0 command"
  | controlMove => "COP0 opcode"
  | coprocessor1 => "COP1 instruction"
  | geometryMove => "COP2 opcode"
  | isolatedLoad => "load while cache is isolated"
  | isolatedStore => "store while cache is isolated"
  | loadCoprocessor1 => "LWC1"
  | storeCoprocessor1 => "SWC1"
  | isolatedGeometryLoad => "LWC2 while cache is isolated"
  | isolatedGeometryStore => "SWC2 while cache is isolated"

/-- Something that happened while the processor ran. -/
inductive Event where
  /-- An exception was entered: with which code, where its handler returns to, at which instruction
  and where the handler stands. -/
  | exception (code : ExceptionCode) (epc word handler : Word)
  /-- An instruction was not supported. -/
  | unsupported (what : Unsupported) (pc word : Word)
  | illegal (word pc : Word)
  /-- BREAK ended the slice. -/
  | halted (pc : Word)
  /-- A program's write to a control register caused an interrupt. -/
  | moveInterrupted (r : Fin 32)
  | returnInterrupted
  /-- The host's write to a control register caused an interrupt. -/
  | accessInterrupted (r : Fin 32)
  /-- A line that a device changed caused an interrupt. -/
  | lineInterrupted (l : Line) (pc : Word)
  /-- A word is no command of the geometry engine. -/
  | unknownCommand (w : Word)
  | reset
  /-- A snapshot was restored. -/
  | restored (pc : Word)
  deriving DecidableEq, Repr

namespace Event

def level : Event → Log.Level
  | exception .. => .debug
  | unsupported .. => .warn
  | illegal .. => .warn
  | halted _ => .info
  | moveInterrupted _ => .trace
  | returnInterrupted => .trace
  | accessInterrupted _ => .debug
  | lineInterrupted .. => .debug
  | unknownCommand _ => .warn
  | reset => .info
  | restored _ => .info

open Text (hex hexWord)

def message : Event → String
  | exception code epc word handler =>
    s!"{code.name} exception at {hexWord epc} [{hexWord word}], jumping to {hexWord handler}"
  | unsupported what pc word => s!"Unsupported {what.text} at {hexWord pc} [{hexWord word}]"
  | illegal word pc => s!"Illegal instruction {hexWord word} at PC {hexWord pc}!"
  | halted pc => s!"BREAK at {hexWord pc}, halting"
  | moveInterrupted r => s!"MTC0 to r{r.val} triggered an interrupt"
  | returnInterrupted => "RFE triggered an interrupt"
  | accessInterrupted r => s!"Interrupt taken after COP0 r{r.val} write"
  | lineInterrupted l pc => s!"{l.name} interrupt taken, PC: {hexWord pc}"
  | unknownCommand w => s!"Unhandled GTE command {hex 7 (w &&& 0x1ffffff).toNat}"
  | reset => "CPU reset"
  | restored pc => s!"Savestate loaded, PC: {hexWord pc}"

def record (e : Event) : Log.Record := ⟨e.level, e.message⟩

end Event

end R3000A
