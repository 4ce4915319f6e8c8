import R3000A.Config
import R3000A.Proofs.Ini.Lookup
import R3000A.Proofs.Text.Address

/-!
# The keys of a configuration

Each key that may be left out has a place in the text, a kind of value with a way to write it, and a
default. `Key.Means` says how values are written without saying how they are read, and
`Key.parse_eq_some_iff` that they are read as they are written. What a key stands for, `resolved`,
then looks at the key's own place only.
-/

namespace R3000A

namespace Config

/-- A key that may be left out. -/
inductive Key where
  | stopOnUnsupported
  | breakMode
  | loadAddress
  | entryPoint
  | stackPointer
  | globalPointer
  | sliceCycles
  | slices
  deriving DecidableEq

namespace Key

/-- The keys in the order in which they are looked at. -/
def all : List Key :=
  [stopOnUnsupported, breakMode, loadAddress, entryPoint, stackPointer, globalPointer, sliceCycles,
    slices]

def place : Key → String
  | stopOnUnsupported | breakMode => "Cpu"
  | _ => "Run"

def name : Key → String
  | stopOnUnsupported => "StopOnUnsupported"
  | breakMode => "BreakMode"
  | loadAddress => "LoadAddress"
  | entryPoint => "EntryPoint"
  | stackPointer => "StackPointer"
  | globalPointer => "GlobalPointer"
  | sliceCycles => "SliceCycles"
  | slices => "Slices"

abbrev Value : Key → Type
  | stopOnUnsupported => Bool
  | breakMode => BreakMode
  | globalPointer => Option Word
  | sliceCycles => Int
  | loadAddress | entryPoint | stackPointer | slices => Word

def field (c : Config) : (k : Key) → k.Value
  | stopOnUnsupported => c.settings.stopOnUnsupported
  | breakMode => c.settings.breakMode
  | loadAddress => c.loadAddress
  | entryPoint => c.entryPoint
  | stackPointer => c.stackPointer
  | globalPointer => c.globalPointer
  | sliceCycles => c.sliceCycles
  | slices => c.slices

/-- What a key stands for if its text says nothing else. `load` is the address at which the image is
loaded. -/
def default (load : Word) : (k : Key) → k.Value
  | stopOnUnsupported => true
  | breakMode => .exception
  | loadAddress => (0x80010000 : Word)
  | entryPoint => load
  | stackPointer => (0x801ffff0 : Word)
  | globalPointer => none
  | sliceCycles => (100000 : Int)
  | slices => (1000 : Word)

/-! ### How values are written -/

/-- The text is one of these words, its ASCII letters being of any case. -/
def IsWord (words : List String) (text : List Char) : Prop :=
  String.ofList (text.map Char.toLower) ∈ words

def modeWord : BreakMode → String
  | .exception => "exception"
  | .halt => "halt"

def modeNumber : BreakMode → Nat
  | .exception => 0
  | .halt => 1

/-- The text, which has no blanks around it, means the value. -/
def Means : (k : Key) → List Char → k.Value → Prop
  | stopOnUnsupported, text, true => IsWord ["true", "yes", "on", "1"] text
  | stopOnUnsupported, text, false => IsWord ["false", "no", "off", "0"] text
  | breakMode, text, mode =>
      IsWord [modeWord mode] text ∨ Text.IsNatural 10 text (modeNumber mode)
  | loadAddress, text, w | entryPoint, text, w | stackPointer, text, w =>
      Text.IsAddress text (UInt32.toNat w)
  | globalPointer, text, p => ∃ w, p = some w ∧ Text.IsAddress text (UInt32.toNat w)
  | sliceCycles, text, v => Text.IsInteger text v ∧ (0 : Int) < v ∧ v < (2 : Int) ^ 31
  | slices, text, w => Text.IsNatural 10 text (UInt32.toNat w)

/-- The value of the key is `raw`, and that says `v`. -/
def Says (k : Key) (raw : String) (v : k.Value) : Prop :=
  ∃ text, Text.TrimsTo raw.toList text ∧ k.Means text v

/-! ### How values are read -/

def parse : (k : Key) → String → Option k.Value
  | stopOnUnsupported => Text.truth?
  | breakMode => parseBreakMode
  | loadAddress | entryPoint | stackPointer => Text.address?
  | globalPointer => fun raw => (Text.address? raw).map some
  | sliceCycles => parseSliceCycles
  | slices => Text.decimalWord?

theorem says_iff {k : Key} {raw : String} {v : k.Value} :
    k.Says raw v ↔ k.Means (Text.trimChars raw.toList) v := by
  simp [Says, ← Text.trimChars_eq_iff]

theorem truth?_eq_some_iff {raw : String} {b : Bool} :
    Text.truth? raw = some b ↔ stopOnUnsupported.Says raw b := by
  rw [says_iff, Text.truth?]
  cases b <;> simp only [Means, IsWord] <;> split <;> simp_all

theorem ofName?_eq_some_iff {raw : String} {mode : BreakMode} :
    BreakMode.ofName? (Text.trim raw) = some mode ↔
      IsWord [modeWord mode] (Text.trimChars raw.toList) := by
  have hlower : BreakMode.lowerAscii (Text.trim raw) =
      String.ofList ((Text.trimChars raw.toList).map Char.toLower) := by
    rw [← String.toList_inj]
    simp [BreakMode.lowerAscii, Text.trim, String.toList_map]
  rw [BreakMode.ofName?, hlower]
  cases mode <;> simp only [IsWord, modeWord] <;> split <;> simp_all

/-- The word for a mode is no number. -/
theorem not_isNatural_of_isWord {mode : BreakMode} {text : List Char}
    (h : IsWord [modeWord mode] text) (n : Nat) : ¬Text.IsNatural 10 text n := by
  have hword : text.map Char.toLower = (modeWord mode).toList := by
    simpa [IsWord, ← String.toList_inj] using h
  have hletter : 'e' ∈ (modeWord mode).toList ∨ 'h' ∈ (modeWord mode).toList := by
    cases mode <;> decide
  intro hn
  have hdigit {k : Char} (hk : k ∈ (modeWord mode).toList) :
      k = '+' ∨ ∃ d, Text.digitValue? 10 k = some d := by
    rw [← hword] at hk
    obtain ⟨c, hc, rfl⟩ := List.mem_map.1 hk
    refine (hn.eq_plus_or_isDigit hc).imp (fun hplus => by rw [hplus]; rfl) fun ⟨d, hd⟩ => ⟨d, ?_⟩
    rwa [Text.digitValue?_toLower, Text.digitValue?_eq_some_iff (by decide)]
  rcases hletter with hk | hk <;> rcases hdigit hk with h | ⟨d, h⟩ <;> cases h

theorem ofNumber?_eq_some_iff {n : Nat} {mode : BreakMode} :
    BreakMode.ofNumber? n = some mode ↔ n = modeNumber mode := by
  match n with
  | 0 => cases mode <;> decide
  | 1 => cases mode <;> decide
  | n + 2 =>
      have hnone : BreakMode.ofNumber? ((n + 2 : Nat) : Int) = none := rfl
      rw [hnone]
      cases mode <;> simp [modeNumber]

theorem parseBreakMode_eq_some_iff {raw : String} {mode : BreakMode} :
    parseBreakMode raw = some mode ↔ breakMode.Says raw mode := by
  have hnumber : ((Text.decimalWord? raw).bind fun w => BreakMode.ofNumber? w.toNat) = some mode ↔
      Text.IsNatural 10 (Text.trimChars raw.toList) (modeNumber mode) := by
    simp only [Option.bind_eq_some_iff, ofNumber?_eq_some_iff, Text.decimalWord?_eq_some_iff,
      ← Text.trimChars_eq_iff, exists_eq_left']
    constructor
    · rintro ⟨w, hw, hmode⟩
      rwa [hmode] at hw
    · intro hn
      cases mode with
      | exception => exact ⟨0, hn, rfl⟩
      | halt => exact ⟨1, hn, rfl⟩
  rw [says_iff, parseBreakMode, Option.or_eq_some_iff, ofName?_eq_some_iff, hnumber]
  refine or_congr_right ⟨And.right, fun hn => ⟨?_, hn⟩⟩
  refine Option.eq_none_iff_forall_ne_some.2 fun m hm => ?_
  exact not_isNatural_of_isWord (ofName?_eq_some_iff.1 hm) _ hn

theorem parseSliceCycles_eq_some_iff {raw : String} {v : Int} :
    parseSliceCycles raw = some v ↔ sliceCycles.Says raw v := by
  rw [says_iff, parseSliceCycles, Option.filter_eq_some_iff, Text.decimalSigned?_eq_some_iff]
  simp only [← Text.trimChars_eq_iff, exists_eq_left', decide_eq_true_eq, Means]
  constructor
  · rintro ⟨⟨hv, -, hlt⟩, hpos⟩
    exact ⟨hv, hpos, hlt⟩
  · rintro ⟨hv, hpos, hlt⟩
    exact ⟨⟨hv, by omega, hlt⟩, hpos⟩

/-- A value is read exactly as it is written. -/
theorem parse_eq_some_iff {k : Key} {raw : String} {v : k.Value} :
    k.parse raw = some v ↔ k.Says raw v := by
  cases k with
  | stopOnUnsupported => exact truth?_eq_some_iff
  | breakMode => exact parseBreakMode_eq_some_iff
  | loadAddress => exact Text.address?_eq_some_iff
  | entryPoint => exact Text.address?_eq_some_iff
  | stackPointer => exact Text.address?_eq_some_iff
  | globalPointer =>
      simp only [parse, Option.map_eq_some_iff, Text.address?_eq_some_iff, Says, Means]
      constructor
      · rintro ⟨w, ⟨text, htext, hw⟩, rfl⟩
        exact ⟨text, htext, w, rfl, hw⟩
      · rintro ⟨text, htext, w, rfl, hw⟩
        exact ⟨w, ⟨text, htext, hw⟩, rfl⟩
  | sliceCycles => exact parseSliceCycles_eq_some_iff
  | slices => exact Text.decimalWord?_eq_some_iff

theorem parse_eq_none_iff {k : Key} {raw : String} :
    k.parse raw = none ↔ ∀ v, ¬k.Says raw v := by
  simp only [Option.eq_none_iff_forall_ne_some, ne_eq, parse_eq_some_iff]

/-! ### What a key stands for -/

/-- The value `raw` stands at the place of the key. -/
def Given (k : Key) (ini : Ini) (raw : String) : Prop := ini.Gives k.place k.name raw

/-- What a key stands for in the text: what its value says, or the default if it has no value or one
that says nothing. -/
inductive StandsFor (k : Key) (ini : Ini) (load : Word) : k.Value → Prop
  | said {raw : String} {v : k.Value} (hraw : k.Given ini raw) (hv : k.Says raw v) :
      StandsFor k ini load v
  | missing (hnone : ∀ raw, ¬k.Given ini raw) : StandsFor k ini load (k.default load)
  | unusable {raw : String} (hraw : k.Given ini raw) (hnone : ∀ v, ¬k.Says raw v) :
      StandsFor k ini load (k.default load)

/-- How a warning shows the default. The global pointer has none to show. -/
def display : (k : Key) → Option (k.Value → String)
  | stopOnUnsupported => some toString
  | breakMode => some BreakMode.name
  | loadAddress | entryPoint | stackPointer | slices => some displayWord
  | globalPointer => none
  | sliceCycles => some toString

def warning (load : Word) (k : Key) (raw : String) : Warning :=
  match k.display with
  | some display => .replaced k.name raw (display (k.default load))
  | none => .ignored k.name

/-- The warnings `ws` are one for each of the keys whose value says nothing, in the order of the
keys. -/
inductive Complains (ini : Ini) (load : Word) : (ks : List Key) → (ws : List Warning) → Prop
  | nil : Complains ini load [] []
  | silent {k : Key} {ks : List Key} {ws : List Warning}
      (h : ∀ raw, k.Given ini raw → ∃ v, k.Says raw v) (hks : Complains ini load ks ws) :
      Complains ini load (k :: ks) ws
  | unusable {k : Key} {raw : String} {ks : List Key} {ws : List Warning}
      (hraw : k.Given ini raw) (hnone : ∀ v, ¬k.Says raw v) (hks : Complains ini load ks ws) :
      Complains ini load (k :: ks) (k.warning load raw :: ws)

def resolved (k : Key) (ini : Ini) (load : Word) : Resolved k.Value :=
  match ini.value? k.place k.name with
  | none => { value := k.default load }
  | some raw =>
    match k.parse raw with
    | some v => { value := v }
    | none => { value := k.default load, warnings := [k.warning load raw] }

/-- Looking a key up in its section finds what is made of it. -/
theorem resolve_eq_resolved (k : Key) (display : k.Value → String) {s : IniSection} {ini : Ini}
    {load : Word} (hs : s.get? k.name = ini.value? k.place k.name)
    (hdisplay : k.display = some display) :
    resolve s k.name k.parse display (k.default load) = k.resolved ini load := by
  have hwarning (raw : String) :
      k.warning load raw = .replaced k.name raw (display (k.default load)) := by
    rw [warning, hdisplay]
  rw [resolve, hs, resolved]
  cases ini.value? k.place k.name with
  | none => rfl
  | some raw =>
      simp only [hwarning]
      cases k.parse raw <;> rfl

theorem standsFor_resolved (k : Key) (ini : Ini) (load : Word) :
    k.StandsFor ini load (k.resolved ini load).value := by
  rw [resolved]
  split
  · next hnone => exact .missing (Ini.value?_eq_none_iff.1 hnone)
  · next raw hraw =>
      have hgiven : k.Given ini raw := Ini.value?_eq_some_iff.1 hraw
      split
      · next v hv => exact .said hgiven (parse_eq_some_iff.1 hv)
      · next hnone => exact .unusable hgiven (parse_eq_none_iff.1 hnone)

theorem StandsFor.says_or_eq_default {k : Key} {ini : Ini} {load : Word} {v : k.Value}
    (h : k.StandsFor ini load v) : (∃ raw, k.Says raw v) ∨ v = k.default load := by
  cases h with
  | said _ hv => exact .inl ⟨_, hv⟩
  | missing => exact .inr rfl
  | unusable => exact .inr rfl

theorem value_resolved (k : Key) (ini : Ini) (load : Word) :
    (k.resolved ini load).value =
      ((ini.value? k.place k.name).bind k.parse).getD (k.default load) := by
  rw [resolved]
  cases ini.value? k.place k.name with
  | none => rfl
  | some raw =>
      simp only [Option.bind_some]
      cases k.parse raw <;> rfl

theorem complains_resolved (ini : Ini) (load : Word) (ks : List Key) :
    Complains ini load ks (ks.flatMap fun k => (k.resolved ini load).warnings) := by
  induction ks with
  | nil => exact .nil
  | cons k ks ih =>
      rw [List.flatMap_cons, resolved]
      split
      · next hnone =>
          exact .silent (fun raw hraw => absurd hraw (Ini.value?_eq_none_iff.1 hnone raw)) ih
      · next raw hraw =>
          have hgiven : k.Given ini raw := Ini.value?_eq_some_iff.1 hraw
          split
          · next v hv =>
              refine .silent (fun other hother => ⟨v, ?_⟩) ih
              have hsame : raw = other :=
                Option.some.inj (hraw.symm.trans (Ini.value?_eq_some_iff.2 hother))
              rw [← hsame]
              exact parse_eq_some_iff.1 hv
          · next hnone => exact .unusable hgiven (parse_eq_none_iff.1 hnone) ih

end Key

end Config

end R3000A
