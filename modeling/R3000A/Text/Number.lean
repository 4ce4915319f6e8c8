import R3000A.Text.Blank
import R3000A.Word

/-!
# Numbers in text

A number is written in decimal or hexadecimal digits after an optional sign. Digits are the ASCII
ones. The value is computed exactly and only then compared with the range, so nothing wraps.
-/

namespace R3000A.Text

def digitValue? (radix : Nat) (c : Char) : Option Nat :=
  let value :=
    if '0' ≤ c ∧ c ≤ '9' then some (c.toNat - '0'.toNat)
    else if 'a' ≤ c ∧ c ≤ 'z' then some (c.toNat - 'a'.toNat + 10)
    else if 'A' ≤ c ∧ c ≤ 'Z' then some (c.toNat - 'A'.toNat + 10)
    else none
  value.filter (· < radix)

/-- The value of a row of digits that continues a number of value `n`. -/
def continueDigits? (radix : Nat) : Nat → List Char → Option Nat
  | n, [] => some n
  | n, c :: cs =>
    match digitValue? radix c with
    | some d => continueDigits? radix (radix * n + d) cs
    | none => none

def digits? (radix : Nat) (cs : List Char) : Option Nat :=
  if cs.isEmpty then none else continueDigits? radix 0 cs

def natural? (radix : Nat) : List Char → Option Nat
  | '+' :: cs => digits? radix cs
  | cs => digits? radix cs

def integer? : List Char → Option Int
  | '-' :: cs => (digits? 10 cs).map fun n => -(n : Int)
  | cs => (natural? 10 cs).map fun n => (n : Int)

def inWord? (n : Nat) : Option Word := if n < 0x100000000 then some (UInt32.ofNat n) else none

def inSigned? (v : Int) : Option Int := if -0x80000000 ≤ v ∧ v < 0x80000000 then some v else none

def decimalWord? (s : String) : Option Word := natural? 10 (trimChars s.toList) >>= inWord?

def decimalSigned? (s : String) : Option Int := integer? (trimChars s.toList) >>= inSigned?

/-- The value of an address. After `0x` stand hexadecimal digits, among which underscores do not
count; without that the digits are decimal. -/
def addressChars? : List Char → Option Word
  | '0' :: 'x' :: cs => natural? 16 (cs.filter (· ≠ '_')) >>= inWord?
  | '0' :: 'X' :: cs => natural? 16 (cs.filter (· ≠ '_')) >>= inWord?
  | cs => natural? 10 cs >>= inWord?

def address? (s : String) : Option Word := addressChars? (trimChars s.toList)

/-- The truth value of a word for it, in any case, without regard to blanks around it. -/
def truth? (s : String) : Option Bool :=
  match String.ofList ((trimChars s.toList).map Char.toLower) with
  | "true" | "yes" | "on" | "1" => some true
  | "false" | "no" | "off" | "0" => some false
  | _ => none

end R3000A.Text
