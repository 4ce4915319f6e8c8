import R3000A.RegisterId
import R3000A.Slice
import R3000A.Snapshot

/-!
# The machine

A machine is a processor that may be connected to a bus. It runs only once it has been reset or
restored from a snapshot, because before that its registers mean nothing. A request that is
refused leaves the machine as it was: every operation that can fail answers either with an error or
with the next machine.
-/

namespace R3000A

/-- A processor, the bus it is connected to, and whether it may run. -/
structure Machine (β : Type) where
  cpu : Processor := {}
  bus : Option β := none
  ready : Bool := false

namespace Machine

variable {β : Type}

/-- A machine without a bus that has not been reset. The host gives each of its machines a handle of
its own. -/
def new (settings : Settings) (handle : Handle := ⟨0⟩) : Machine β :=
  { cpu := { settings, handle } }

def attach (m : Machine β) (bus : β) : Machine β × Option β := ({ m with bus := some bus }, m.bus)

def detach (m : Machine β) : Machine β × Option β := ({ m with bus := none }, m.bus)

def reset (m : Machine β) : Machine β := { m with cpu := m.cpu.reset, ready := true }

def execute (B : Bus β) (budget : Int) : Machine β → Except MachineError (Nat × Machine β)
  | ⟨_, _, false⟩ => .error .notReset
  | ⟨_, none, true⟩ => .error .noBus
  | ⟨cpu, some bus, true⟩ =>
    let done := Slice.run B budget { cpu, bus }
    .ok (done.executed, ⟨done.system.cpu, some done.system.bus, true⟩)

/-- Whether the last slice was ended early by an instruction. -/
def stopped (m : Machine β) : Bool := m.cpu.core.stopped

/-- The machine with interrupt line `n` at a level, and whether this caused an interrupt. -/
def setLine (m : Machine β) (n : Int) (level : Bool) :
    Except MachineError (InterruptState × Machine β) :=
  match Line.ofInt? n with
  | none => .error (.badLine n)
  | some l =>
    let (cpu, state) := m.cpu.setLine l level
    .ok (state, { m with cpu := cpu })

def setCallback (m : Machine β) (callback : Option Callback) : Machine β :=
  { m with cpu := { m.cpu with callback := callback } }

/-- The machine with a callback that only takes note of the lines, or without one. -/
def watch (m : Machine β) (on : Bool) : Machine β :=
  m.setCallback (if on then some .silent else none)

/-- The machine with requests that wait for the next instruction. -/
def post (m : Machine β) (rs : List Request) : Machine β := { m with cpu := m.cpu.post rs }

def handle (m : Machine β) : Handle := m.cpu.handle

/-- The machine after requests have been made through a handle, which may be that of another
machine. -/
def send (m : Machine β) (h : Handle) (rs : List Request) : Machine β :=
  if h = m.handle then m.post rs else m

def getRegister (m : Machine β) (id : RegisterId) : Except MachineError Word :=
  m.cpu.getRegister id

def setRegister (m : Machine β) (id : RegisterId) (v : Word) : Except MachineError (Machine β) :=
  (m.cpu.setRegister id v).map fun cpu => { m with cpu := cpu }

def setSettings (m : Machine β) (settings : Settings) : Machine β :=
  { m with cpu := { m.cpu with settings := settings } }

def saveAs (f : Snapshot.Format) (m : Machine β) : List UInt8 := Snapshot.saveAs f m.cpu.core

/-- The machine resumed with a core. What belongs to the host stays as it is. -/
def resume (m : Machine β) (core : Core) : Machine β :=
  { m with cpu := ({ m.cpu with core := core }).record (.restored core.pc), ready := true }

def loadAs (f : Snapshot.Format) (m : Machine β) (bytes : List UInt8) :
    Except MachineError (Machine β) :=
  match Snapshot.loadAs f bytes with
  | .error why => .error (.badSnapshot why)
  | .ok core => .ok (m.resume core)

def save (m : Machine β) : List UInt8 := m.saveAs .words

def load (m : Machine β) (bytes : List UInt8) : Except MachineError (Machine β) :=
  m.loadAs .words bytes

def drain (m : Machine β) : Journal × Machine β :=
  (m.cpu.journal, { m with cpu := { m.cpu with journal := {} } })

end Machine

end R3000A
