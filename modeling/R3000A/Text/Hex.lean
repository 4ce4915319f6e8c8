import R3000A.Word

/-!
# Hexadecimal text

Addresses and instruction words are shown in lower case hexadecimal after `0x`, padded with zeros
to a fixed number of digits.
-/

namespace R3000A.Text

def hexDigit (n : Nat) : Char := Nat.digitChar (n % 16)

/-- The last `width` hexadecimal digits of `n`. -/
def hexDigits : (width n : Nat) → List Char
  | 0, _ => []
  | width + 1, n => hexDigits width (n / 16) ++ [hexDigit n]

/-- `n` after `0x` with `width` digits. -/
def hex (width n : Nat) : String := "0x" ++ String.ofList (hexDigits width n)

def hexWord (w : Word) : String := hex 8 w.toNat

end R3000A.Text
