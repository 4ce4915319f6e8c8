import R3000A.Word

/-!
# Errors

What can go wrong for the host. What goes wrong for the program is no error: it is an exception,
which the program handles itself.
-/

namespace R3000A

/-- Why a snapshot is refused. -/
inductive SnapshotError where
  | truncatedHeader
  | badMagic
  | unsupportedVersion (version : UInt8)
  | truncatedPayload
  | undecodable
  deriving DecidableEq, Repr

def SnapshotError.message : SnapshotError → String
  | truncatedHeader => "truncated header"
  | badMagic => "bad magic"
  | unsupportedVersion version => s!"unsupported version {version.toNat}"
  | truncatedPayload => "truncated payload"
  | undecodable => "undecodable payload"

/-- Why the host's request is refused. -/
inductive MachineError where
  | noBus
  | notReset
  | badRegister (number : Nat)
  /-- Nothing that waits to be written has this number. -/
  | badPending (number : Word)
  | badLine (number : Int)
  | badSnapshot (why : SnapshotError)
  deriving DecidableEq, Repr

def MachineError.message : MachineError → String
  | noBus => "No memory bus is attached to the CPU"
  | notReset => "The CPU must be reset before it can run"
  | badRegister number => s!"Invalid register identifier: {number}"
  | badPending number => s!"Invalid pending delay register: {number.toNat}"
  | badLine number => s!"Invalid IRQ line: {number}"
  | badSnapshot why => s!"Invalid savestate: {why.message}"

end R3000A
