import R3000A.Ini
import R3000A.Text.Number

/-!
# Reading sections of keys and values

A text is a row of comments, section names and entries.

* A comment is a line that begins with `;` or `#` in its first column.
* A section name stands between `[` and `]`.
* An entry is a key, `=` or `:`, and a value. The key reaches up to the sign, even over the ends of
  lines. The value reaches to the end of its line; parts of it at its beginning may stand between
  quotes, which do not belong to it.

Blanks around names, keys and values do not count. A backslash gives the next character another
meaning or takes its meaning away.

A line that begins with a space or a tab is indented. It may be empty or hold a section name;
anything else begins a key there, so an indented line cannot be a comment. An indented key that
cannot be read is dropped, where any other is an error.
-/

namespace R3000A.Ini

open Text (isBlank trimChars trimEnd natural?)

/-- Why a text cannot be read. -/
inductive ReadError where
  /-- The text ends inside a name, a key or quotes. -/
  | unfinished
  /-- A number after `\x` stands for no character. -/
  | unknownCharacter
  /-- A value has no key. -/
  | missingKey
  /-- A comment begins inside a line. -/
  | lateComment
  deriving DecidableEq, Repr

def ReadError.message : ReadError → String
  | unfinished => "unexpected end of file"
  | unknownCharacter => "unknown character in \\xHHHH form"
  | missingKey => "missing key"
  | lateComment => "comment inside a line"

/-- A place in the text: what follows, and whether it begins a line. -/
structure Place where
  lineStart : Bool
  rest : List Char
  deriving DecidableEq, Repr

structure Failure where
  error : ReadError
  place : Place
  deriving DecidableEq, Repr

/-- A part of the text that has been read, and what follows. -/
structure Piece where
  text : List Char
  rest : List Char
  deriving DecidableEq, Repr

def Piece.cons (c : Char) (p : Piece) : Piece := { p with text := c :: p.text }

def charOfNumber? (n : Nat) : Option Char := if n.isValidChar then some (Char.ofNat n) else none

def escaped : Char → Char
  | '0' => '\x00'
  | 'a' => '\x07'
  | 'b' => '\x08'
  | 't' => '\t'
  | 'r' => '\r'
  | 'n' => '\n'
  | c => c

/-- What the next character means. -/
inductive Mode where
  /-- It stands for itself. -/
  | plain
  /-- It follows a backslash. -/
  | escape
  /-- It is a digit of the number of a character. `left` more digits follow it, and `digits` have
  been read, the last one first. -/
  | number (left : Nat) (digits : List Char)
  /-- It follows a backslash among the digits. -/
  | brokenNumber (left : Nat) (digits : List Char)
  deriving DecidableEq, Repr

/-- Reads up to a character that ends the piece. The end of the text ends it too if `mayEnd` says
so, and is an error otherwise. `lineStart` says whether the next character begins a line. -/
def readPiece (ends : Char → Bool) (mayEnd : Bool) (lineStart : Bool) :
    Mode → List Char → Except Failure Piece
  | .plain, [] => if mayEnd then .ok ⟨[], []⟩ else .error ⟨.unfinished, lineStart, []⟩
  | .plain, c :: rest =>
    if ends c then .ok ⟨[], c :: rest⟩
    else if c = '\\' then readPiece ends mayEnd false .escape rest
    else (readPiece ends mayEnd (c = '\n') .plain rest).map (.cons c)
  | .escape, [] => if mayEnd then .ok ⟨['\\'], []⟩ else .error ⟨.unfinished, lineStart, []⟩
  | .escape, c :: rest =>
    if c = '\n' then readPiece ends mayEnd true .plain rest
    else if c = 'x' then readPiece ends mayEnd false (.number 3 []) rest
    else (readPiece ends mayEnd false .plain rest).map (.cons (escaped c))
  | .number _ _, [] => .error ⟨.unfinished, lineStart, []⟩
  | .number left digits, c :: rest =>
    if c = '\\' then readPiece ends mayEnd false (.brokenNumber left digits) rest
    else
      match left with
      | left + 1 => readPiece ends mayEnd (c = '\n') (.number left (c :: digits)) rest
      | 0 =>
        match natural? 16 (c :: digits).reverse >>= charOfNumber? with
        | some ch => (readPiece ends mayEnd false .plain rest).map (.cons ch)
        | none => .error ⟨.unknownCharacter, lineStart, c :: rest⟩
  | .brokenNumber left digits, c :: rest =>
    if c = '\n' then
      match left with
      | left + 1 => readPiece ends mayEnd true (.number left (c :: digits)) rest
      | 0 => .error ⟨.unknownCharacter, lineStart, c :: rest⟩
    else .error ⟨.unknownCharacter, lineStart, c :: rest⟩
  | .brokenNumber _ _, [] => .error ⟨.unknownCharacter, lineStart, []⟩

def readUntil (ends : Char → Bool) (mayEnd : Bool) (cs : List Char) : Except Failure Piece :=
  readPiece ends mayEnd false .plain cs

def endsLine (c : Char) : Bool := c = '\n' || c = '\r'

def endsKey (c : Char) : Bool := c = '=' || c = ':'

/-- Reads a value up to the end of its line. `first` says that nothing has been read of it, and
`fuel` bounds the number of its parts. -/
def readParts (first : Bool) : Nat → List Char → Except Failure Piece
  | 0, cs => .ok ⟨[], cs⟩
  | fuel + 1, cs =>
    match cs with
    | [] => .ok ⟨[], []⟩
    | c :: rest =>
      if c = '"' ∨ c = '\x27' then do
        let part ← readUntil (· = c) false rest
        let more ← readParts false fuel (part.rest.drop 1)
        .ok ⟨part.text ++ more.text, more.rest⟩
      else do
        let part ← readUntil endsLine true cs
        .ok { part with text := if first then trimChars part.text else trimEnd part.text }

def readValue (cs : List Char) : Except Failure Piece :=
  readParts true (cs.length + 1) (cs.dropWhile fun c => isBlank c && !endsLine c)

def indents (c : Char) : Bool := c = ' ' || c = '\t'

def indented : List Char → Bool
  | c :: _ => indents c
  | [] => false

/-- The place after the blanks that follow an item: up to the next character that is not blank or
the first that indents a line. -/
def skipToItem (lineStart : Bool) : List Char → Place
  | [] => ⟨lineStart, []⟩
  | c :: rest =>
    if endsLine c && indented rest then ⟨c = '\n', rest⟩
    else if isBlank c then skipToItem (c = '\n') rest
    else ⟨lineStart, c :: rest⟩

def dropLine (cs : List Char) : List Char := (cs.dropWhile (· ≠ '\n')).drop 1

/-- The value of a key added to what has been read, and the place after it. `cs` begins with the
sign between the two. -/
def readEntry (ini : Ini) (key cs : List Char) : Except Failure (Ini × Place) :=
  if (trimChars key).isEmpty then .error ⟨.missingKey, false, cs⟩
  else do
    let value ← readValue (cs.drop 1)
    .ok (ini.add (String.ofList (trimChars key)) (String.ofList value.text),
      skipToItem false value.rest)

/-- An indented line added to what has been read, and the place after it. `cs` is the line without
its indentation. -/
def readIndented (ini : Ini) (cs : List Char) : Except Failure (Ini × Place) :=
  match cs with
  | '\n' :: rest => .ok (ini, ⟨true, rest⟩)
  | '\r' :: rest => .ok (ini, ⟨false, rest⟩)
  | '[' :: _ => .ok (ini, ⟨false, cs⟩)
  | _ =>
    match readUntil endsKey false cs with
    | .ok key => readEntry ini key.text key.rest
    | .error why => .ok (ini, skipToItem why.place.lineStart why.place.rest)

/-- A section added to what has been read, and the place after its name. `cs` is what follows the
opening bracket. -/
def readSection (ini : Ini) (cs : List Char) : Except Failure (Ini × Place) := do
  let name ← readUntil (· = ']') false cs
  .ok (ini.openSection (String.ofList (trimChars name.text)), skipToItem false (name.rest.drop 1))

def readItem (ini : Ini) (p : Place) : Except Failure (Ini × Place) :=
  match p.rest with
  | [] => .ok (ini, p)
  | c :: rest =>
    if c = ';' ∨ c = '#' then
      if p.lineStart then .ok (ini, skipToItem true (dropLine rest))
      else .error ⟨.lateComment, p⟩
    else if c = '[' then readSection ini rest
    else if endsLine c then .ok (ini, skipToItem (c = '\n') rest)
    else if indents c then readIndented ini (rest.dropWhile indents)
    else do
      let key ← readUntil endsKey false (c :: rest)
      readEntry ini key.text key.rest

/-- All items up to the end of the text. `fuel` bounds their number. -/
def readItems : Nat → Ini → Place → Except Failure Ini
  | 0, ini, _ => .ok ini
  | fuel + 1, ini, p =>
    if p.rest.isEmpty then .ok ini
    else do
      let (ini, p) ← readItem ini p
      readItems fuel ini p

/-- The sections of a text. Every item takes at least one character. -/
def read (text : String) : Except ReadError Ini :=
  (readItems text.length {} ⟨true, text.toList⟩).mapError (·.error)

end R3000A.Ini
