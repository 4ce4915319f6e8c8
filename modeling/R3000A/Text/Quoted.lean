import R3000A.Text.Hidden
import R3000A.Text.Hex

/-!
# Quoted text

Text shown to a person stands between double quotes, so that its ends can be seen. Quotes and
backslashes get a backslash in front, the common control characters have short names, and other
characters without a visible form are shown by their number.
-/

namespace R3000A.Text

def shortHex (n : Nat) : List Char := Nat.toDigits 16 n

def quotedChar (c : Char) : List Char :=
  if c = '\x00' then ['\\', '0']
  else if c = '\t' then ['\\', 't']
  else if c = '\n' then ['\\', 'n']
  else if c = '\r' then ['\\', 'r']
  else if c = '"' then ['\\', '"']
  else if c = '\\' then ['\\', '\\']
  else if isHidden c then ['\\', 'u', '\x7b'] ++ shortHex c.toNat ++ ['\x7d']
  else [c]

def quoted (s : String) : String :=
  String.ofList (['"'] ++ s.toList.flatMap quotedChar ++ ['"'])

end R3000A.Text
