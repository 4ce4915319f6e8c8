import R3000A.Bank
import R3000A.Exception

/-!
# System control coprocessor

Coprocessor 0 holds the mode the processor runs in and what it knows about the last exception.
The status register keeps a stack of three pairs (user mode, interrupts enabled) in its low six
bits. `enter` pushes a pair of zeros, so a handler runs in kernel mode without interrupts, and
`leave` pops one.
-/

namespace R3000A

/-- The registers of the system control coprocessor. -/
structure SystemControl where
  regs : Bank
  deriving DecidableEq, Repr, Inhabited

namespace SystemControl

/-! ### Registers by number -/

def randomReg : Reg := 1

def badAddressReg : Reg := 8

def statusReg : Reg := 12

def causeReg : Reg := 13

def epcReg : Reg := 14

def processorIdReg : Reg := 15

/-! ### Bits of the status register -/

def interruptEnable : Word := 0x00000001

def userBit : Word := 0x00000002

def swapCaches : Word := 0x00020000

def tlbShutdown : Word := 0x00200000

/-- Exceptions use the vectors of the boot ROM. -/
def bootVectors : Word := 0x00400000

/-- User mode runs with the other byte order. -/
def reverseEndianBit : Word := 0x02000000

/-! ### Fields of the cause register -/

def codeBits : Word := 0x0000007c

/-- The pending interrupts, two of software and six of the lines. -/
def pendingBits : Word := 0x0000ff00

def coprocessorBits : Word := 0x30000000

def delaySlotBit : Word := 0x80000000

/-! ### Reading and writing -/

def zero : SystemControl := ⟨.zero⟩

def read (c : SystemControl) (r : Reg) : Word := c.regs.read r

/-- The registers with `v` in register `r`, every bit of it. -/
def write (c : SystemControl) (r : Reg) (v : Word) : SystemControl := ⟨c.regs.write r v⟩

@[simp] theorem read_write (c : SystemControl) (r s : Reg) (v : Word) :
    (c.write r v).read s = if r = s then v else c.read s :=
  Bank.read_write ..

def status (c : SystemControl) : Word := c.read statusReg

def cause (c : SystemControl) : Word := c.read causeReg

/-- The address to which a handler returns. -/
def epc (c : SystemControl) : Word := c.read epcReg

/-- The bits of a register that a program can write. Registers without any are read-only. -/
def writableBits (r : Reg) : Word :=
  match r.val with
  | 0 => 0xffffffff
  | 2 => 0xffffff00
  | 4 => 0xffe00000
  | 10 => 0xffffffc0
  | 12 => 0xf27fff3f
  | 13 => 0x00000300
  | _ => 0

/-- What register `r` holds after a program has written `v` into it. -/
def masked (c : SystemControl) (r : Reg) (v : Word) : Word :=
  (c.read r &&& ~~~writableBits r) ||| (v &&& writableBits r)

/-- The state after a reset. Registers without a reset value keep what they hold. -/
def reset (c : SystemControl) : SystemControl :=
  let kept := c.status &&& ~~~(tlbShutdown ||| swapCaches ||| userBit ||| interruptEnable)
  ((c.write statusReg (kept ||| bootVectors)).write randomReg 63).write processorIdReg 0x200

def userMode (c : SystemControl) : Bool := c.status.bit 1

/-- The address bits that must be clear: in user mode the upper half of the address space is
off-limits, so that is its top bit, and otherwise there are none. -/
def privilegeMask (c : SystemControl) : Word := (c.status &&& userBit) <<< 30

def cacheIsolated (c : SystemControl) : Bool := c.status.bit 16

/-- Whether accesses narrower than a word run with the other byte order, as they do in user mode
when the status register asks for it. -/
def reverseEndian (c : SystemControl) : Bool :=
  c.status &&& (reverseEndianBit ||| userBit) == (reverseEndianBit ||| userBit)

/-- Whether coprocessor `n` may be used. Coprocessor 0 always may in kernel mode. -/
def usable (c : SystemControl) (n : Fin 4) : Bool :=
  c.status.bit (28 + n) || (n == 0 && !c.userMode)

def interruptPending (c : SystemControl) : Bool :=
  c.status &&& interruptEnable != 0 && c.status &&& c.cause &&& pendingBits != 0

def handler (c : SystemControl) : Word :=
  if c.status &&& bootVectors != 0 then 0xbfc00180 else 0x80000080

/-- The low six bits of the status register moved up by one pair, with zeros in the freed pair. The
oldest pair is lost. -/
def pushMode (status : Word) : Word := (status &&& ~~~(0x3f : Word)) ||| ((status <<< 2) &&& 0x3f)

/-- The two older pairs of the status register moved down by one. The oldest pair stays as well. -/
def popMode (status : Word) : Word := (status &&& ~~~(0xf : Word)) ||| ((status >>> 2) &&& 0xf)

/-- The cause register after an exception: the code and the delay slot bit are new. -/
def causeOf (cause : Word) (code : ExceptionCode) (inDelaySlot : Bool) : Word :=
  let coded := (cause &&& ~~~codeBits) ||| (code.number <<< 2)
  if inDelaySlot then coded ||| delaySlotBit else coded &&& ~~~delaySlotBit

/-- The state in which a handler starts. `epc` is where it returns to, which is the branch itself
if the exception hit a delay slot. -/
def enter (c : SystemControl) (code : ExceptionCode) (epc : Word) (inDelaySlot : Bool) :
    SystemControl :=
  ((c.write statusReg (pushMode c.status)).write causeReg
    (causeOf c.cause code inDelaySlot)).write epcReg epc

def setCoprocessor (c : SystemControl) (n : Fin 4) : SystemControl :=
  c.write causeReg ((c.cause &&& ~~~coprocessorBits) ||| (UInt32.ofNat n <<< 28))

def leave (c : SystemControl) : SystemControl := c.write statusReg (popMode c.status)

def note (c : SystemControl) : Fault → SystemControl
  | .loadAddress a => c.write badAddressReg a
  | .storeAddress a => c.write badAddressReg a
  | .coprocessorUnusable n => c.setCoprocessor n
  | _ => c

end SystemControl

end R3000A
