import R3000A.CommandLine

/-!
# The program

Reads files, prints what the run reports, one line for each record, and reports success or failure.
-/

open R3000A

/-- The number that the system gives to an error. It may come with its sign changed. -/
def systemNumber (code : UInt32) : UInt32 := if code < 0x80000000 then code else 0 - code

def fileErrorOf : IO.Error → FileError
  | .noFileOrDirectory .. => .notFound
  | .inappropriateType _ code _ =>
    if systemNumber code = 20 then .notDirectory else .isDirectory
  | .permissionDenied .. => .permissionDenied
  | e => .other (toString e)

def readSystemFile (path : String) : IO CommandLine.FileContent := do
  try
    let bytes ← IO.FS.readBinFile path
    return .ok bytes.toList
  catch e => return .error (fileErrorOf e)

def main (args : List String) : IO UInt32 := do
  let outcome ← CommandLine.run readSystemFile args
  for r in outcome.log do
    IO.println s!"{r.level.name} {r.message}"
  return outcome.exitCode.toUInt32
