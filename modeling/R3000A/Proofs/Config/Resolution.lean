import R3000A.Proofs.Config.Key

/-!
# Every key stands for itself

A configuration is put together key by key. The field of a key is what its own value says, or the
default, and no other key has a say in it, except that the image is entered where it is loaded
unless another address is given. A value that says nothing costs one warning and nothing else; only
the image must be given.
-/

namespace R3000A

namespace Config

/-- The image has a path in the text: what stands between the blanks around the value of its key, if
that is anything. -/
def NamesImage (ini : Ini) (path : String) : Prop :=
  ∃ raw, ini.Gives "Run" "Image" raw ∧ Text.TrimsTo raw.toList path.toList ∧ path ≠ ""

theorem get?_runSection (ini : Ini) (key : String) :
    (runSection ini).get? key = ini.value? "Run" key := by
  rw [runSection, Ini.value?]
  cases ini.section? "Run" <;> rfl

theorem imageOf_eq_some_iff {ini : Ini} {path : String} :
    imageOf (runSection ini) = some path ↔ NamesImage ini path := by
  simp only [imageOf, get?_runSection, Option.bind_eq_some_iff, Ini.value?_eq_some_iff, NamesImage,
    ← Text.trimChars_eq_iff]
  refine exists_congr fun raw => and_congr_right fun _ => ?_
  have htrim : Text.trim raw = path ↔ Text.trimChars raw.toList = path.toList := by
    rw [Text.trim, ← String.toList_inj, String.toList_ofList]
  rw [← htrim]
  split
  · next hempty =>
      rw [String.isEmpty_iff] at hempty
      simp [hempty, eq_comm]
  · next hpath =>
      rw [String.isEmpty_iff] at hpath
      constructor
      · intro h
        obtain rfl := Option.some.inj h
        exact ⟨rfl, hpath⟩
      · rintro ⟨rfl, -⟩
        rfl

namespace Key

def loadOf (ini : Ini) : Word := (loadAddress.resolved ini 0).value

def warningsOf (ini : Ini) (ks : List Key) : List Warning :=
  ks.flatMap fun k => (k.resolved ini (loadOf ini)).warnings

end Key

def ofKeys (ini : Ini) (image : String) : Config :=
  let load := Key.loadOf ini
  { settings :=
      { stopOnUnsupported := (Key.stopOnUnsupported.resolved ini load).value
        breakMode := (Key.breakMode.resolved ini load).value }
    image := image
    loadAddress := load
    entryPoint := (Key.entryPoint.resolved ini load).value
    stackPointer := (Key.stackPointer.resolved ini load).value
    globalPointer := (Key.globalPointer.resolved ini load).value
    sliceCycles := (Key.sliceCycles.resolved ini load).value
    slices := (Key.slices.resolved ini load).value }

theorem field_ofKeys (ini : Ini) (image : String) (k : Key) :
    k.field (ofKeys ini image) = (k.resolved ini (Key.loadOf ini)).value := by
  cases k <;> rfl

theorem settingsOf_eq (ini : Ini) (load : Word) :
    settingsOf ini =
      { value :=
          { stopOnUnsupported := (Key.stopOnUnsupported.resolved ini load).value
            breakMode := (Key.breakMode.resolved ini load).value }
        warnings := (Key.stopOnUnsupported.resolved ini load).warnings ++
          (Key.breakMode.resolved ini load).warnings } := by
  cases hsection : ini.section? "Cpu" with
  | none =>
      have hvalue (key : String) : ini.value? "Cpu" key = none := by rw [Ini.value?, hsection]; rfl
      simp only [settingsOf, hsection, Key.resolved, Key.place, hvalue]
      rfl
  | some s =>
      have hget (key : String) : s.get? key = ini.value? "Cpu" key := by
        rw [Ini.value?, hsection]
        rfl
      rw [← Key.stopOnUnsupported.resolve_eq_resolved toString (hget _) rfl,
        ← Key.breakMode.resolve_eq_resolved BreakMode.name (hget _) rfl]
      simp only [settingsOf, hsection]
      rfl

theorem resolveOptional_eq_resolved (ini : Ini) (load : Word) :
    resolveOptional (runSection ini) "GlobalPointer" Text.address? =
      Key.globalPointer.resolved ini load := by
  rw [resolveOptional, get?_runSection, Key.resolved]
  simp only [Key.place, Key.name, Key.parse]
  cases ini.value? "Run" "GlobalPointer" with
  | none => rfl
  | some raw =>
      simp only
      cases Text.address? raw <;> rfl

theorem ofIni_eq (ini : Ini) (source base : String) :
    ofIni ini source base =
      match imageOf (runSection ini) with
      | none => (.error ⟨source⟩, Key.warningsOf ini [.stopOnUnsupported, .breakMode])
      | some path => (.ok (ofKeys ini (Text.joinPath base path)), Key.warningsOf ini Key.all) := by
  have hget := get?_runSection ini
  have hload : resolve (runSection ini) "LoadAddress" Text.address? displayWord
      defaultLoadAddress = Key.loadAddress.resolved ini (Key.loadOf ini) :=
    Key.loadAddress.resolve_eq_resolved displayWord (hget _) rfl
  have hentry : resolve (runSection ini) "EntryPoint" Text.address? displayWord
      (Key.loadOf ini) = Key.entryPoint.resolved ini (Key.loadOf ini) :=
    Key.entryPoint.resolve_eq_resolved displayWord (hget _) rfl
  have hstack : resolve (runSection ini) "StackPointer" Text.address? displayWord
      defaultStackPointer = Key.stackPointer.resolved ini (Key.loadOf ini) :=
    Key.stackPointer.resolve_eq_resolved displayWord (hget _) rfl
  have hcycles : resolve (runSection ini) "SliceCycles" parseSliceCycles toString
      defaultSliceCycles = Key.sliceCycles.resolved ini (Key.loadOf ini) :=
    Key.sliceCycles.resolve_eq_resolved toString (hget _) rfl
  have hslices : resolve (runSection ini) "Slices" Text.decimalWord? displayWord
      defaultSlices = Key.slices.resolved ini (Key.loadOf ini) :=
    Key.slices.resolve_eq_resolved displayWord (hget _) rfl
  have hsame : (Key.loadAddress.resolved ini (Key.loadOf ini)).value = Key.loadOf ini := rfl
  simp only [ofIni, settingsOf_eq ini (Key.loadOf ini), hload, hsame, hentry, hstack, hcycles,
    hslices, resolveOptional_eq_resolved ini (Key.loadOf ini)]
  cases imageOf (runSection ini) with
  | none => simp [Key.warningsOf]
  | some path => simp [Key.warningsOf, Key.all, ofKeys]

theorem ofIni_of_namesImage {ini : Ini} {path : String} (h : NamesImage ini path)
    (source base : String) :
    ofIni ini source base =
      (.ok (ofKeys ini (Text.joinPath base path)), Key.warningsOf ini Key.all) := by
  rw [ofIni_eq, imageOf_eq_some_iff.2 h]

theorem ofIni_of_not_namesImage {ini : Ini} (h : ¬∃ path, NamesImage ini path)
    (source base : String) :
    ofIni ini source base =
      (.error ⟨source⟩, Key.warningsOf ini [.stopOnUnsupported, .breakMode]) := by
  have hnone : imageOf (runSection ini) = none :=
    Option.eq_none_iff_forall_ne_some.2 fun path hpath => h ⟨path, imageOf_eq_some_iff.1 hpath⟩
  rw [ofIni_eq, hnone]

theorem fst_ofIni_eq_error_iff {ini : Ini} {source base : String} {e : MissingImage} :
    (ofIni ini source base).1 = .error e ↔ e = ⟨source⟩ ∧ ¬∃ path, NamesImage ini path := by
  constructor
  · intro he
    by_cases himage : ∃ path, NamesImage ini path
    · obtain ⟨path, hpath⟩ := himage
      rw [ofIni_of_namesImage hpath] at he
      cases he
    · rw [ofIni_of_not_namesImage himage] at he
      exact ⟨(Except.error.inj he).symm, himage⟩
  · rintro ⟨rfl, himage⟩
    rw [ofIni_of_not_namesImage himage]

theorem fst_ofIni_eq_ok_iff {ini : Ini} {source base : String} {c : Config} :
    (ofIni ini source base).1 = .ok c ↔
      ∃ path, NamesImage ini path ∧ c = ofKeys ini (Text.joinPath base path) := by
  constructor
  · intro hc
    by_cases himage : ∃ path, NamesImage ini path
    · obtain ⟨path, hpath⟩ := himage
      rw [ofIni_of_namesImage hpath] at hc
      exact ⟨path, hpath, (Except.ok.inj hc).symm⟩
    · rw [ofIni_of_not_namesImage himage] at hc
      cases hc
  · rintro ⟨path, hpath, rfl⟩
    rw [ofIni_of_namesImage hpath]

/-! ### What is made of any text -/

theorem one_le_of_standsFor {ini : Ini} {load : Word} {cycles : Int}
    (h : Key.sliceCycles.StandsFor ini load cycles) : 1 ≤ cycles := by
  rcases h.says_or_eq_default with ⟨_, _, _, -, hpos, -⟩ | rfl
  · exact hpos
  · change (1 : Int) ≤ 100000
    decide

namespace Key

/-- The keys whose values decide what a key stands for. -/
def sources : Key → List Key
  | entryPoint => [entryPoint, loadAddress]
  | k => [k]

/-- Texts that give the same for the sources of a key make the same of it. -/
theorem resolved_congr {ini ini' : Ini} {k : Key}
    (h : ∀ j ∈ k.sources, ∀ raw, j.Given ini raw ↔ j.Given ini' raw) :
    (k.resolved ini (loadOf ini)).value = (k.resolved ini' (loadOf ini')).value := by
  have hvalue {j : Key} (hj : j ∈ k.sources) :
      ini.value? j.place j.name = ini'.value? j.place j.name := Ini.value?_congr (h j hj)
  have hdefault : k.default (loadOf ini) = k.default (loadOf ini') := by
    cases k with
    | entryPoint =>
        change loadOf ini = loadOf ini'
        rw [loadOf, loadOf, value_resolved, value_resolved, hvalue (by decide)]
    | _ => rfl
  rw [value_resolved, value_resolved, hvalue (by cases k <;> decide), hdefault]

end Key

/-- A configuration fails exactly if the text names no image, and then only the settings have been
looked at. Otherwise each key stands for what its own value says, or for its default, and there is
one warning for each value that says nothing. What a key stands for does not depend on any other,
except that the image is entered where it is loaded if nothing else is said. -/
theorem fields_resolve_independently (ini : Ini) (source base : String) :
    (∀ e, (ofIni ini source base).1 = .error e ↔
      e = ⟨source⟩ ∧ ¬∃ path, NamesImage ini path) ∧
    (∀ e, (ofIni ini source base).1 = .error e → ∀ load,
      Key.Complains ini load [.stopOnUnsupported, .breakMode] (ofIni ini source base).2) ∧
    ∀ c, (ofIni ini source base).1 = .ok c →
      (∃ path, NamesImage ini path ∧ c.image = Text.joinPath base path) ∧
      (∀ k : Key, k.StandsFor ini c.loadAddress (k.field c)) ∧
      1 ≤ c.sliceCycles ∧
      Key.Complains ini c.loadAddress Key.all (ofIni ini source base).2 ∧
      ∀ ini' source' base' c', (ofIni ini' source' base').1 = .ok c' → ∀ k : Key,
        (∀ j ∈ k.sources, ∀ raw, j.Given ini raw ↔ j.Given ini' raw) →
          k.field c = k.field c' := by
  refine ⟨fun e => fst_ofIni_eq_error_iff, fun e he load => ?_, fun c hc => ?_⟩
  · rw [ofIni_of_not_namesImage (fst_ofIni_eq_error_iff.1 he).2]
    exact Key.complains_resolved ini load _
  · obtain ⟨path, hpath, rfl⟩ := fst_ofIni_eq_ok_iff.1 hc
    have hfield (k : Key) :
        k.StandsFor ini (Key.loadOf ini) (k.field (ofKeys ini (Text.joinPath base path))) := by
      rw [field_ofKeys]
      exact k.standsFor_resolved ini _
    refine ⟨⟨path, hpath, rfl⟩, hfield, one_le_of_standsFor (hfield .sliceCycles), ?_, ?_⟩
    · rw [ofIni_of_namesImage hpath]
      exact Key.complains_resolved ini _ _
    · intro ini' source' base' c' hc' k hsources
      obtain ⟨path', -, rfl⟩ := fst_ofIni_eq_ok_iff.1 hc'
      rw [field_ofKeys, field_ofKeys, Key.resolved_congr hsources]

/-- A text with sections and keys that stand there twice, and with values of which three say
nothing. -/
theorem fields_resolve_independently_of_repeated_keys :
    let ini : Ini :=
      ⟨[{ name := some "Run"
          entries := [("EntryPoint", "-1"), ("LoadAddress", " 0X8002_0000"), ("Image", " a.bin "),
            ("SliceCycles", "0"), ("LoadAddress", "7")] },
        { name := some "Cpu", entries := [("BreakMode", "2"), ("StopOnUnsupported", "OFF")] },
        { name := some "Run", entries := [("Slices", "1")] }]⟩
    let c : Config :=
      { settings := { stopOnUnsupported := false, breakMode := .exception }
        image := "/data/a.bin"
        loadAddress := 0x80020000
        entryPoint := 0x80020000
        stackPointer := 0x801ffff0
        globalPointer := none
        sliceCycles := 100000
        slices := 1000 }
    (ofIni ini "run.ini" "/data").1 = .ok c ∧
      (∀ k : Key, k.StandsFor ini 0x80020000 (k.field c)) ∧
      Key.Complains ini 0x80020000 Key.all
        [.replaced "BreakMode" "2" "Exception", .replaced "EntryPoint" "-1" "2147614720",
          .replaced "SliceCycles" "0" "100000"] := by
  intro ini c
  have hresult : ofIni ini "run.ini" "/data" = (.ok c,
      [.replaced "BreakMode" "2" "Exception", .replaced "EntryPoint" "-1" "2147614720",
        .replaced "SliceCycles" "0" "100000"]) := by
    simp only [ini, c]
    decide +kernel
  have hok : (ofIni ini "run.ini" "/data").1 = .ok c := congrArg Prod.fst hresult
  obtain ⟨-, hfields, -, hwarnings, -⟩ :=
    (fields_resolve_independently ini "run.ini" "/data").2.2 c hok
  rw [hresult] at hwarnings
  exact ⟨hok, hfields, hwarnings⟩

end Config

end R3000A
