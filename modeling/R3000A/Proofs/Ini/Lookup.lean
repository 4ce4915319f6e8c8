import R3000A.Ini

/-!
# The first section and the first entry

Sections and keys may stand in a text more than once. What a key gives is told by where its entry
stands: in the first section of the name, before any other entry with the key.
-/

namespace R3000A

/-- No entry with the key stands in the section before the one with this value. -/
def IniSection.FirstEntry (s : IniSection) (key value : String) : Prop :=
  ∃ before after, s.entries = before ++ (key, value) :: after ∧ ∀ e ∈ before, e.1 ≠ key

theorem IniSection.get?_eq_some_iff {s : IniSection} {key value : String} :
    s.get? key = some value ↔ s.FirstEntry key value := by
  simp [IniSection.get?, IniSection.FirstEntry, List.lookup_eq_some_iff, ne_comm]

namespace Ini

def FirstSection (ini : Ini) (name : String) (s : IniSection) : Prop :=
  s.name = some name ∧
    ∃ before after, ini.sections = before ++ s :: after ∧ ∀ t ∈ before, t.name ≠ some name

/-- The first entry with the key in the first section of the name has this value. -/
def Gives (ini : Ini) (name key value : String) : Prop :=
  ∃ s, ini.FirstSection name s ∧ s.FirstEntry key value

def value? (ini : Ini) (name key : String) : Option String := (ini.section? name).bind (·.get? key)

theorem section?_eq_some_iff {ini : Ini} {name : String} {s : IniSection} :
    ini.section? name = some s ↔ ini.FirstSection name s := by
  simp [section?, FirstSection, List.find?_eq_some_iff_append]

theorem value?_eq_some_iff {ini : Ini} {name key value : String} :
    ini.value? name key = some value ↔ ini.Gives name key value := by
  simp only [value?, Gives, Option.bind_eq_some_iff, section?_eq_some_iff,
    IniSection.get?_eq_some_iff]

theorem value?_eq_none_iff {ini : Ini} {name key : String} :
    ini.value? name key = none ↔ ∀ value, ¬ini.Gives name key value := by
  simp only [Option.eq_none_iff_forall_ne_some, ne_eq, value?_eq_some_iff]

/-- Texts that give the same for a key have the same value of it. -/
theorem value?_congr {ini ini' : Ini} {name key : String}
    (h : ∀ value, ini.Gives name key value ↔ ini'.Gives name key value) :
    ini.value? name key = ini'.value? name key :=
  Option.ext fun value => by rw [value?_eq_some_iff, value?_eq_some_iff, h]

end Ini

end R3000A
