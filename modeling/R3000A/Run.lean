import R3000A.Config
import R3000A.Core.Display
import R3000A.Ram
import R3000A.Slice

/-!
# Runs

A run loads a memory image, resets the processor, puts the registers where the configuration wants
them and executes slice after slice until an instruction stops the processor or the slices are
used up. A run can be taken up again where it ended.
-/

namespace R3000A

namespace Run

/-- What a run reports: the events of its processor and what it has to say itself. -/
inductive Notice where
  | event (e : Event)
  | loaded (path : String) (size : Nat) (address : Word)
  | slice (n : Nat) (ran : Nat) (pc : Word)
  | stopped (executed : Nat)
  | final (core : Core)
  | finished (executed slices : Nat) (pc : Word) (early : Bool)
  deriving DecidableEq, Repr

namespace Notice

def level : Notice → Log.Level
  | event e => e.level
  | loaded .. => .info
  | slice .. => .debug
  | stopped _ => .warn
  | final _ => .info
  | finished .. => .info

open Text (hexWord)

def message : Notice → String
  | event e => e.message
  | loaded path size address => s!"Loaded {path} ({size} bytes) at {hexWord address}"
  | slice n ran pc => s!"Slice {n}: {ran} instructions, PC {hexWord pc}"
  | stopped executed => s!"CPU stopped after {executed} instructions"
  | final core => s!"Final state: {core.display}"
  | finished executed slices pc early =>
    s!"{executed} instructions in {slices} slices, PC: {hexWord pc}" ++
      if early then " (stopped)" else ""

def record (n : Notice) : Log.Record := ⟨n.level, n.message⟩

end Notice

end Run

/-- A run under way: the machine and what it has reported, oldest first. -/
structure Run where
  config : Config
  system : System Ram
  log : Array Run.Notice := #[]

namespace Run

structure Report where
  /-- The number of instructions executed. -/
  executed : Nat
  /-- The number of slices begun. -/
  slices : Nat
  /-- Whether an instruction stopped the processor. -/
  stopped : Bool
  pc : Word
  deriving DecidableEq, Repr, Inhabited

def note (r : Run) (n : Notice) : Run := { r with log := r.log.push n }

/-- The run with the events of its processor among its notices. -/
def collect (r : Run) : Run :=
  { r with
    log := r.log ++ r.system.cpu.journal.events.map Notice.event
    system := r.system.modify fun p => { p with journal := {} } }

def enter (config : Config) (c : Core) : Core :=
  let c := (c.jumpTo config.entryPoint).setReg 29 config.stackPointer
  match config.globalPointer with
  | some v => c.setReg 28 v
  | none => c

/-- A run of an image, ready for its first slice. -/
def start (config : Config) (image : List UInt8) : Run :=
  let cpu := ({ settings := config.settings : Processor }.reset).modifyCore (enter config)
  collect
    { config := config
      system := { cpu := cpu, bus := Ram.setBytes {} config.loadAddress image } }

/-- The run after one more slice, with the number of instructions in it. -/
def slice (r : Run) : Nat × Run :=
  let done := Slice.run Ram.bus r.config.sliceCycles r.system
  (done.executed, collect { r with system := done.system })

/-- The run after up to `left` more slices, with the number of instructions executed, the number of
slices begun and whether an instruction stopped the processor. -/
def slices : (left : Nat) → (executed begun : Nat) → Run → (Nat × Nat × Bool) × Run
  | 0, executed, begun, r => ((executed, begun, false), r)
  | left + 1, executed, begun, r =>
    let (ran, r) := r.slice
    let executed := executed + ran
    let begun := begun + 1
    let r := r.note (.slice begun ran r.system.cpu.core.pc)
    if r.system.cpu.core.stopped then ((executed, begun, true), r.note (.stopped executed))
    else slices left executed begun r

/-- The run after all the slices that its configuration grants, with the outcome. -/
def run (r : Run) : Report × Run :=
  let ((executed, begun, stopped), r) := slices r.config.slices.toNat 0 0 r
  ({ executed := executed, slices := begun, stopped := stopped, pc := r.system.cpu.core.pc },
    r.note (.final r.system.cpu.core))

end Run

end R3000A
