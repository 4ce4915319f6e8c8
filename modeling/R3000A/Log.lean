/-!
# Log records

What the library tells its host along the way is a list of records, each a line of text with a
level that says how much it matters.
-/

namespace R3000A.Log

/-- How much a record matters, from the most to the least. -/
inductive Level where
  | error
  | warn
  | info
  | debug
  | trace
  deriving DecidableEq, Repr, Inhabited

def Level.name : Level → String
  | error => "ERROR"
  | warn => "WARN"
  | info => "INFO"
  | debug => "DEBUG"
  | trace => "TRACE"

/-- Whether a record of this level is shown to somebody who runs the program. -/
def Level.shown : Level → Bool
  | error | warn | info => true
  | debug | trace => false

/-- A line of text and how much it matters. -/
structure Record where
  level : Level
  message : String
  deriving DecidableEq, Repr, Inhabited

end R3000A.Log
