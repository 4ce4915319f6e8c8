import R3000A.Text.Hex

/-!
# Text on a terminal

A terminal takes some control characters for commands: those that ring, move back, feed a form or
delete, the escape that opens a longer command, and the 32 controls above the ASCII range. Text
that comes from somewhere else, such as the name of a file, is shown with these characters written
as numbers, so that it cannot steer the terminal. Every other character is shown as it is, the ends
of lines included.
-/

namespace R3000A.Text

def isCommand (c : Char) : Bool :=
  c = '\x07' || c = '\x08' || c = '\x0c' || c = '\x1b' || c = '\x7f'

/-- Whether a character is one of the controls above the ASCII range. -/
def isHighControl (c : Char) : Bool := 0x80 ≤ c.toNat && c.toNat ≤ 0x9f

def terminalChar (c : Char) : List Char :=
  if isCommand c then ['\\', 'x'] ++ hexDigits 2 c.toNat
  else if isHighControl c then ['\\', 'u', '\x7b'] ++ hexDigits 2 c.toNat ++ ['\x7d']
  else [c]

def forTerminal (s : String) : String := String.ofList (s.toList.flatMap terminalChar)

end R3000A.Text
