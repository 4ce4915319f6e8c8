import R3000A.Word

/-!
# External interrupts

Six lines enter the processor from outside. Devices that are reached during an instruction cannot
change a line themselves: they leave a `Request`, and the requests are delivered once the
instruction is complete. Of several requests for one line only the last counts, which is what
`Request.level?` reads off the list of requests in the order they were made. A host may have a
`Callback` called for each line that is asserted. Nothing is known of it but what it asks of the
processor when it is called.
-/

namespace R3000A

abbrev Line := Fin 6

namespace Line

/-- The bit of the cause register that shows the level of the line. -/
def causeMask (l : Line) : Word := (1 : Word) <<< UInt32.ofNat (10 + l)

def name (l : Line) : String := s!"Irq{l.val}"

def ofInt? (n : Int) : Option Line :=
  if h : 0 ≤ n ∧ n < 6 then some ⟨n.toNat, by omega⟩ else none

def all : List Line := List.finRange 6

end Line

/-- Whether a change of the lines or of the status register caused an interrupt. -/
inductive InterruptState where
  /-- No interrupt was taken. -/
  | idle
  /-- The processor has entered its interrupt handler. -/
  | active
  deriving DecidableEq, Repr, Inhabited

/-- What a device asks of the processor during an instruction. -/
inductive Request where
  | line (l : Line) (level : Bool)
  /-- End the slice after this instruction. -/
  | shorten
  deriving DecidableEq, Repr

/-- What a device keeps in order to reach a processor with its requests. A copy of a handle is the
same handle. -/
structure Handle where
  id : Nat
  deriving DecidableEq, Repr, Inhabited

namespace Request

/-- The level that the requests, oldest first, ask of line `l`: that of the last one for it. -/
def level? (l : Line) : List Request → Option Bool
  | [] => none
  | .line k level :: rest => (level? l rest).or (if k = l then some level else none)
  | .shorten :: rest => level? l rest

/-- The lines that the requests change with their new levels, in ascending order. -/
def changes (rs : List Request) : List (Line × Bool) :=
  Line.all.filterMap fun l => (level? l rs).map fun level => (l, level)

def shortens (rs : List Request) : Bool := rs.contains .shorten

end Request

/-- What the host has the processor call with a line whenever the line is asserted. A callback may
keep a state, which its calls determine, and it may ask for things through a copy of the handle:
`reply before l` is what it asks for at the call with `l` after calls with the lines `before`,
oldest first. -/
structure Callback where
  reply : (before : List Line) → Line → List Request

namespace Callback

/-- The callback that only takes note of the lines. -/
def silent : Callback := ⟨fun _ _ => []⟩

/-- The callback with a state in `κ`, which each call finds, changes and leaves to the next. -/
def ofState {κ : Type} (call : Line → κ → κ × List Request) (k : κ) : Callback where
  reply before l := (call l (before.foldl (fun k l => (call l k).1) k)).2

def called (f : Callback) (l : Line) : Callback := ⟨fun before => f.reply (l :: before)⟩

end Callback

end R3000A
