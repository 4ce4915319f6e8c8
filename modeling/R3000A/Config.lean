import R3000A.Ini
import R3000A.Log
import R3000A.Settings
import R3000A.Text.Number
import R3000A.Text.Path
import R3000A.Text.Quoted

/-!
# Run configuration

A configuration says which memory image to run, where it is loaded and entered, how the registers
of the stack and of global data start, and for how long it runs. It is read from the sections `Cpu`
and `Run` of a text. Only the image must be given. Every other key stands for itself: a value that
cannot be used is replaced by the default and gets a warning.
-/

namespace R3000A

/-- What to run, and how. -/
structure Config where
  settings : Settings
  /-- The path of the memory image. -/
  image : String
  loadAddress : Word
  entryPoint : Word
  stackPointer : Word
  /-- The start value of the global pointer, if it has one. -/
  globalPointer : Option Word
  /-- The number of instructions in a slice. -/
  sliceCycles : Int
  slices : Word
  deriving DecidableEq, Repr, Inhabited

namespace Config

/-- Something in the text that cannot be used. -/
inductive Warning where
  | replaced (key value default : String)
  /-- The value of a key that has no default is left out. -/
  | ignored (key : String)
  deriving DecidableEq, Repr

def Warning.message : Warning → String
  | replaced key value default =>
    s!"Invalid {key} in config: {Text.quoted value}, using {default}"
  | ignored key => s!"Invalid {key} in config, ignoring"

def Warning.record (w : Warning) : Log.Record := ⟨.warn, w.message⟩

/-- There is no image in the text from `source`. -/
structure MissingImage where
  source : String
  deriving DecidableEq, Repr

def MissingImage.message (e : MissingImage) : String :=
  s!"No Image given in the [Run] section of {e.source}"

/-- Where the image is loaded by default: right after the area of the kernel. -/
def defaultLoadAddress : Word := 0x80010000

/-- Where the stack starts by default: at the top of the first 2 MiB. -/
def defaultStackPointer : Word := 0x801ffff0

def defaultSliceCycles : Int := 100000

def defaultSlices : Word := 1000

/-- What a key stands for, and the warnings about its value. -/
structure Resolved (α : Type) where
  value : α
  warnings : List Warning := []

/-- What a key stands for: what `parse` makes of its value, or else the default. -/
def resolve {α : Type} (s : IniSection) (key : String) (parse : String → Option α)
    (display : α → String) (default : α) : Resolved α :=
  match s.get? key with
  | none => { value := default }
  | some raw =>
    match parse raw with
    | some v => { value := v }
    | none => { value := default, warnings := [.replaced key raw (display default)] }

def resolveOptional {α : Type} (s : IniSection) (key : String) (parse : String → Option α) :
    Resolved (Option α) :=
  match s.get? key with
  | none => { value := none }
  | some raw =>
    match parse raw with
    | some v => { value := some v }
    | none => { value := none, warnings := [.ignored key] }

/-- The number of instructions in a slice, which must be positive. -/
def parseSliceCycles (s : String) : Option Int := (Text.decimalSigned? s).filter (0 < ·)

def parseBreakMode (s : String) : Option BreakMode :=
  (BreakMode.ofName? (Text.trim s)).or
    ((Text.decimalWord? s).bind fun n => BreakMode.ofNumber? n.toNat)

def displayWord (w : Word) : String := toString w.toNat

def settingsOf (ini : Ini) : Resolved Settings :=
  match ini.section? "Cpu" with
  | none => { value := {} }
  | some s =>
    let initial : Settings := {}
    let stop := resolve s "StopOnUnsupported" Text.truth? toString initial.stopOnUnsupported
    let mode := resolve s "BreakMode" parseBreakMode BreakMode.name initial.breakMode
    { value := { stopOnUnsupported := stop.value, breakMode := mode.value }
      warnings := stop.warnings ++ mode.warnings }

def runSection (ini : Ini) : IniSection := (ini.section? "Run").getD { name := some "Run" }

def imageOf (s : IniSection) : Option String :=
  (s.get? "Image").bind fun raw =>
    let path := Text.trim raw
    if path.isEmpty then none else some path

/-- The configuration in a text, with the warnings in the order of the keys. `source` is the name
of the text and `base` the directory from which it names the image. -/
def ofIni (ini : Ini) (source base : String) : Except MissingImage Config × List Warning :=
  let settings := settingsOf ini
  let s := runSection ini
  match imageOf s with
  | none => (.error ⟨source⟩, settings.warnings)
  | some path =>
    let load := resolve s "LoadAddress" Text.address? displayWord defaultLoadAddress
    let entry := resolve s "EntryPoint" Text.address? displayWord load.value
    let stack := resolve s "StackPointer" Text.address? displayWord defaultStackPointer
    let globals := resolveOptional s "GlobalPointer" Text.address?
    let cycles := resolve s "SliceCycles" parseSliceCycles toString defaultSliceCycles
    let slices := resolve s "Slices" Text.decimalWord? displayWord defaultSlices
    (.ok
      { settings := settings.value
        image := Text.joinPath base path
        loadAddress := load.value
        entryPoint := entry.value
        stackPointer := stack.value
        globalPointer := globals.value
        sliceCycles := cycles.value
        slices := slices.value },
      settings.warnings ++ load.warnings ++ entry.warnings ++ stack.warnings ++ globals.warnings ++
        cycles.warnings ++ slices.warnings)

end Config

end R3000A
