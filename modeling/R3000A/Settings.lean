/-!
# Settings

Two choices of the host change how the processor reacts to what a program should not normally do.
They are no part of the state that a snapshot holds.
-/

namespace R3000A

/-- What a BREAK instruction does. -/
inductive BreakMode where
  /-- Raise a breakpoint exception. -/
  | exception
  /-- End the slice with the program counter left at the instruction. -/
  | halt
  deriving DecidableEq, Repr, Inhabited

namespace BreakMode

def name : BreakMode → String
  | exception => "Exception"
  | halt => "Halt"

/-- The lower case form of an ASCII letter, other characters as they are. -/
def lowerAscii (s : String) : String := s.map Char.toLower

def ofName? (s : String) : Option BreakMode :=
  match lowerAscii s with
  | "exception" => some exception
  | "halt" => some halt
  | _ => none

/-- The mode of a number: 0 is `exception` and 1 is `halt`. -/
def ofNumber? : Int → Option BreakMode
  | 0 => some exception
  | 1 => some halt
  | _ => none

end BreakMode

/-- How the processor treats unsupported operations and BREAK. -/
structure Settings where
  /-- End the slice after an operation that is not supported. -/
  stopOnUnsupported : Bool := true
  breakMode : BreakMode := .exception
  deriving DecidableEq, Repr, Inhabited

end R3000A
