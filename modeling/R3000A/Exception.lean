import R3000A.Word

/-!
# Exceptions

An exception is known to the program by the code in its cause register. `Fault` is what the
processor found wrong: the code together with the address or the coprocessor number that the
handler is told as well.
-/

namespace R3000A

/-- The kinds of exception that the processor raises. -/
inductive ExceptionCode where
  | interrupt
  | loadAddressError
  | storeAddressError
  | systemCall
  | breakpoint
  | illegalInstruction
  | coprocessorError
  | overflow
  deriving DecidableEq, Repr, Inhabited

namespace ExceptionCode

def number : ExceptionCode → Word
  | interrupt => 0x0
  | loadAddressError => 0x4
  | storeAddressError => 0x5
  | systemCall => 0x8
  | breakpoint => 0x9
  | illegalInstruction => 0xa
  | coprocessorError => 0xb
  | overflow => 0xc

def ofNumber? : Nat → Option ExceptionCode
  | 0x0 => some interrupt
  | 0x4 => some loadAddressError
  | 0x5 => some storeAddressError
  | 0x8 => some systemCall
  | 0x9 => some breakpoint
  | 0xa => some illegalInstruction
  | 0xb => some coprocessorError
  | 0xc => some overflow
  | _ => none

def name : ExceptionCode → String
  | interrupt => "Interrupt"
  | loadAddressError => "LoadAddressError"
  | storeAddressError => "StoreAddressError"
  | systemCall => "SysCall"
  | breakpoint => "Break"
  | illegalInstruction => "IllegalInstruction"
  | coprocessorError => "CoprocessorError"
  | overflow => "Overflow"

theorem ofNumber?_number (e : ExceptionCode) : ofNumber? e.number.toNat = some e := by
  cases e <;> rfl

end ExceptionCode

/-- What the processor found wrong, with what it reports about it. -/
inductive Fault where
  | interrupt
  /-- A load from, or a jump to, an address that is misaligned or off-limits. -/
  | loadAddress (address : Word)
  /-- A store to an address that is misaligned or off-limits. -/
  | storeAddress (address : Word)
  | systemCall
  | breakpoint
  | illegalInstruction
  /-- An operation of a coprocessor that is switched off. -/
  | coprocessorUnusable (n : Fin 4)
  | overflow
  deriving DecidableEq, Repr

def Fault.code : Fault → ExceptionCode
  | interrupt => .interrupt
  | loadAddress _ => .loadAddressError
  | storeAddress _ => .storeAddressError
  | systemCall => .systemCall
  | breakpoint => .breakpoint
  | illegalInstruction => .illegalInstruction
  | coprocessorUnusable _ => .coprocessorError
  | overflow => .overflow

end R3000A
