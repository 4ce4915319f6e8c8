/-!
# Sections of keys and values

A configuration text is a list of sections, each with a list of keys and their values. The same
section or key may stand there more than once; whoever looks one up gets the first.
-/

namespace R3000A

/-- A section: its name, or none for what stands before the first name, and its entries in order. -/
structure IniSection where
  name : Option String
  entries : List (String × String) := []
  deriving DecidableEq, Repr, Inhabited

/-- The value of the first entry with a key. -/
def IniSection.get? (s : IniSection) (key : String) : Option String := s.entries.lookup key

/-- The sections of a text in order. -/
structure Ini where
  sections : List IniSection := []
  deriving DecidableEq, Repr, Inhabited

namespace Ini

def section? (ini : Ini) (name : String) : Option IniSection :=
  ini.sections.find? fun s => s.name = some name

def openSection (ini : Ini) (name : String) : Ini := ⟨ini.sections ++ [{ name := some name }]⟩

def addToLast (key value : String) : List IniSection → List IniSection
  | [] => [{ name := none, entries := [(key, value)] }]
  | [s] => [{ s with entries := s.entries ++ [(key, value)] }]
  | s :: rest => s :: addToLast key value rest

def add (ini : Ini) (key value : String) : Ini := ⟨addToLast key value ini.sections⟩

/-- The sections with the entries of `s` behind those of the first section of the same name, or
with `s` at the end if there is none. -/
def merge (s : IniSection) : List IniSection → List IniSection
  | [] => [s]
  | t :: rest =>
    if t.name = s.name then { t with entries := t.entries ++ s.entries } :: rest
    else t :: merge s rest

/-- The text with the given sections, each name once: what stands under a name again is added to
its first section. -/
def ofSections (ss : List IniSection) : Ini := ⟨ss.foldl (fun merged s => merge s merged) []⟩

end Ini

end R3000A
