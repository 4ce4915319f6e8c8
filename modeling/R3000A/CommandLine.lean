import R3000A.FileTree
import R3000A.Ini.Reader
import R3000A.Run
import R3000A.Text.Terminal

/-!
# The command line

The program takes the path of a configuration, runs the memory image that the configuration names
and reports about it. Images are named from the directory of the configuration. Files are read
through a function that the caller gives, so that nothing else here touches the outside world.
-/

namespace R3000A.CommandLine

/-- The bytes of a file, or why there are none. -/
abbrev FileContent := Except FileError (List UInt8)

/-- Why the program fails. -/
inductive Failure where
  /-- No configuration is named. -/
  | usage
  | configFile (e : FileError)
  | configNotText
  | configText (e : Ini.ReadError)
  | missingImage (e : Config.MissingImage)
  /-- The memory image cannot be read. -/
  | imageFile (e : FileError)
  | emptyImage (path : String)
  deriving DecidableEq, Repr

def Failure.message : Failure → String
  | usage => "Usage: mips_run <config.ini>"
  | configFile e => s!"Couldn't load config: {e.message}"
  | configNotText => "Couldn't load config: stream did not contain valid UTF-8"
  | configText e => s!"Couldn't load config: {e.message}"
  | missingImage e => e.message
  | imageFile e => s!"I/O error: {e.message}"
  | emptyImage path => s!"Memory image is empty: {path}"

/-- What the program leaves behind. -/
structure Outcome where
  /-- What it has logged as a terminal shows it, oldest first. -/
  log : List Log.Record
  succeeded : Bool
  deriving DecidableEq, Repr, Inhabited

def Outcome.exitCode (o : Outcome) : UInt8 := if o.succeeded then 0 else 1

def onTerminal (r : Log.Record) : Log.Record := { r with message := Text.forTerminal r.message }

def outcomeOf (log : List Log.Record) (succeeded : Bool) : Outcome :=
  { log := log.map onTerminal, succeeded }

def failed (log : List Log.Record) (f : Failure) : Outcome :=
  outcomeOf (log ++ [⟨.error, f.message⟩]) false

/-- The bytes of a text without the mark that may open it. -/
def withoutMark : List UInt8 → List UInt8
  | 0xef :: 0xbb :: 0xbf :: rest => rest
  | bytes => bytes

def textOf? (bytes : List UInt8) : Option String :=
  String.fromUTF8? ⟨(withoutMark bytes).toArray⟩

def configOf (path : String) (content : FileContent) :
    Except Failure Config × List Config.Warning :=
  match content with
  | .error e => (.error (.configFile e), [])
  | .ok bytes =>
    match textOf? bytes with
    | none => (.error .configNotText, [])
    | some text =>
      match Ini.read text with
      | .error e => (.error (.configText e), [])
      | .ok ini =>
        let (config, warnings) := Config.ofIni ini path (Text.directoryOf path)
        (config.mapError .missingImage, warnings)

def imageOf (path : String) : FileContent → Except Failure (List UInt8)
  | .error e => .error (.imageFile e)
  | .ok [] => .error (.emptyImage path)
  | .ok bytes => .ok bytes

def notices (config : Config) (image : List UInt8) : List Run.Notice :=
  let (report, r) := (Run.start config image).run
  [.loaded config.image image.length config.loadAddress] ++ r.log.toList ++
    [.finished report.executed report.slices report.pc report.stopped]

def shown (ns : List Run.Notice) : List Log.Record := (ns.filter (·.level.shown)).map (·.record)

/-- The program, with the function that reads files. Arguments after the first do not count. -/
def run {m : Type → Type} [Monad m] (readFile : String → m FileContent) :
    List String → m Outcome
  | [] => pure (failed [] .usage)
  | path :: _ => do
    let (config, warnings) := configOf path (← readFile path)
    let log := warnings.map Config.Warning.record
    match config with
    | .error f => pure (failed log f)
    | .ok config =>
      match imageOf config.image (← readFile config.image) with
      | .error f => pure (failed log f)
      | .ok image => pure (outcomeOf (log ++ shown (notices config image)) true)

end R3000A.CommandLine
