import R3000A.Bus
import Std.Data.HashMap

/-!
# Memory

Memory is 512 MiB of bytes that are zero until they are written. The three segments of the address
space show the same bytes, so only the low 29 bits of an address count, and an access that runs
over the end continues at the beginning. Pages of 4 KiB are kept once something has been written
into them.
-/

namespace R3000A

def pageSize : Nat := 4096

abbrev Page := Vector UInt8 pageSize

/-- Memory that keeps the pages that have been written to. -/
structure Ram where
  pages : Std.HashMap Word Page := {}

namespace Ram

instance : Inhabited Ram := ⟨{}⟩

/-- The position of an address in memory. -/
def physical (a : Word) : Word := a &&& 0x1fffffff

def pageOf (a : Word) : Word := physical a >>> 12

def offsetOf (a : Word) : Fin pageSize := ⟨(physical a).toNat % pageSize, Nat.mod_lt _ (by decide)⟩

def blankPage : Page := Vector.replicate pageSize 0

def byte (m : Ram) (a : Word) : UInt8 :=
  match m.pages[pageOf a]? with
  | some p => p[offsetOf a]
  | none => 0

def setByte (m : Ram) (a : Word) (v : UInt8) : Ram :=
  ⟨m.pages.alter (pageOf a) fun p => some ((p.getD blankPage).set (offsetOf a) v)⟩

def bytes (m : Ram) : Nat → Word → List UInt8
  | 0, _ => []
  | n + 1, a => m.byte a :: m.bytes n (a + 1)

def setBytes (m : Ram) (a : Word) : List UInt8 → Ram
  | [] => m
  | b :: bs => (m.setByte a b).setBytes (a + 1) bs

/-- The value at an address, least significant byte first. -/
def read (m : Ram) (width : Width) (a : Word) : Word := Word.ofBytes (m.bytes width.bytes a)

def write (m : Ram) (width : Width) (a v : Word) : Ram :=
  m.setBytes a (v.toBytes.take width.bytes)

/-- The number of pages that have been written to. -/
def allocatedPages (m : Ram) : Nat := m.pages.size

def bus : Bus Ram where
  read width a m := ⟨m.read width a, m, []⟩
  write width a v m := ⟨(), m.write width a v, []⟩

end Ram

end R3000A
