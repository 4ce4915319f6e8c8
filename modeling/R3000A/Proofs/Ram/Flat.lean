import Mathlib.Data.Finset.Card
import Mathlib.Logic.Function.Basic
import R3000A.Proofs.Ram.Byte

/-!
# Memory as a flat array

Memory keeps the pages that have been written to and nothing else, and an access goes to them byte
by byte. What shows of this is an array of 2²⁹ bytes that are zero in the beginning: `flat` is the
array after a list of stores, and `Holds` says that memory shows it and that its pages are those
with a store in them. One byte more keeps `Holds`, and so does whatever is done to memory
(`Holds.touch`).
-/

namespace R3000A

namespace Ram

/-! ### The array -/

/-- The place of an address in the array: its low 29 bits. -/
def index (a : Word) : Fin (2 ^ 29) :=
  ⟨(a &&& 0x1fffffff).toNat, (toNat_physical a).trans_lt (Nat.mod_lt _ (by decide))⟩

abbrev Store := Fin (2 ^ 29) × UInt8

/-- The array after stores, one after the other. -/
def flat (ss : List Store) : Fin (2 ^ 29) → UInt8 :=
  ss.foldl (fun array s => Function.update array s.1 s.2) fun _ => 0

def spread (a : Word) (bs : List UInt8) : List Store :=
  bs.mapIdx fun k b => (index (a + UInt32.ofNat k), b)

/-- The lowest `n` bytes of a word, the lowest first. -/
def littleEndian (n : Nat) (v : Word) : List UInt8 :=
  (List.range n).map fun k => UInt8.ofNat (v.toNat / 256 ^ k)

/-- What is done to memory. -/
inductive Touch where
  | read (width : Width) (address : Word)
  | write (width : Width) (address v : Word)
  /-- Copy data into memory. -/
  | image (address : Word) (data : List UInt8)

namespace Touch

def run (m : Ram) : Touch → Ram
  | read width a => (Ram.bus.read width a m).bus
  | write width a v => (Ram.bus.write width a v m).bus
  | image a data => m.setBytes a data

/-- The stores that the array gets to see, in their order. -/
def stores : Touch → List Store
  | read _ _ => []
  | write width a v => spread a (littleEndian width.bytes v)
  | image a data => spread a data

end Touch

theorem flat_append_singleton (ss : List Store) (s : Store) :
    flat (ss ++ [s]) = Function.update (flat ss) s.1 s.2 := by
  rw [flat, List.foldl_append]
  rfl

theorem spread_cons (a : Word) (b : UInt8) (bs : List UInt8) :
    spread a (b :: bs) = (index a, b) :: spread (a + 1) bs := by
  rw [spread, List.mapIdx_cons, add_ofNat_zero, spread]
  simp only [add_ofNat_succ]

theorem littleEndian_bytes (width : Width) (v : Word) :
    littleEndian width.bytes v = v.toBytes.take width.bytes := by
  have hbyte (i : Fin 4) : UInt8.ofNat (v.toNat / 256 ^ i.val) = v.byte i := by
    rw [← UInt8.toNat_inj, Word.toNat_byte, UInt8.toNat_ofNat', Nat.shiftRight_eq_div_pow,
      Nat.pow_mul]
  cases width with
  | byte => exact congrArg (· :: []) (hbyte 0)
  | half => exact congrArg₂ (· :: · :: []) (hbyte 0) (hbyte 1)
  | word =>
      simp only [littleEndian, Width.bytes, Word.toBytes, ← hbyte]
      rfl

theorem index_eq_iff {a b : Word} : index a = index b ↔ physical a = physical b := by
  rw [Fin.ext_iff, ← UInt32.toNat_inj]
  rfl

theorem index_div (a : Word) : (index a).val / 4096 = (pageOf a).toNat := (toNat_pageOf a).symm

/-! ### Memory shows the array -/

/-- Memory shows what the stores leave in the array, and has a page wherever one of them went. -/
structure Holds (m : Ram) (ss : List Store) : Prop where
  byte : ∀ a, m.byte a = flat ss (index a)
  page : ∀ p, p ∈ m.pages ↔ ∃ s ∈ ss, s.1.val / 4096 = p.toNat

namespace Holds

variable {m : Ram} {ss : List Store}

theorem empty : Holds {} [] where
  byte a := by simp [Ram.byte, flat]
  page p := by simp

theorem setByte (h : Holds m ss) (a : Word) (v : UInt8) :
    Holds (m.setByte a v) (ss ++ [(index a, v)]) := by
  constructor
  case byte =>
    intro b
    rw [byte_setByte, flat_append_singleton, Function.update_apply, h.byte]
    simp only [← index_eq_iff, eq_comm]
  case page =>
    intro p
    have hnew : (∃ s ∈ ss ++ [(index a, v)], s.1.val / 4096 = p.toNat) ↔
        (∃ s ∈ ss, s.1.val / 4096 = p.toNat) ∨ pageOf a = p := by
      rw [← UInt32.toNat_inj, ← index_div]
      simp [or_and_right, exists_or]
    rw [hnew, ← h.page, Ram.setByte, Std.HashMap.mem_alter]
    by_cases hp : pageOf a = p <;> simp [hp]

theorem setBytes (h : Holds m ss) (a : Word) (bs : List UInt8) :
    Holds (m.setBytes a bs) (ss ++ spread a bs) := by
  induction bs generalizing m ss a with
  | nil =>
      rw [show spread a [] = [] from rfl, List.append_nil]
      exact h
  | cons b bs ih =>
      rw [spread_cons, List.append_cons]
      exact ih (h.setByte a b) (a + 1)

/-- What one touch keeps. -/
theorem touch (h : Holds m ss) (t : Touch) : Holds (t.run m) (ss ++ t.stores) := by
  cases t with
  | read width a =>
      rw [Touch.stores, List.append_nil]
      exact h
  | write width a v =>
      rw [Touch.stores, littleEndian_bytes]
      exact h.setBytes a _
  | image a data => exact h.setBytes a data

/-- What all of them keep. -/
theorem touches (h : Holds m ss) (ts : List Touch) :
    Holds (ts.foldl Touch.run m) (ss ++ ts.flatMap Touch.stores) := by
  induction ts generalizing m ss with
  | nil => simpa using h
  | cons t ts ih =>
      rw [List.flatMap_cons, ← List.append_assoc]
      exact ih (h.touch t)

theorem allocatedPages (h : Holds m ss) :
    m.allocatedPages = (ss.map fun s => s.1.val / 4096).toFinset.card := by
  have hpages : (ss.map fun s => s.1.val / 4096).toFinset =
      m.pages.keys.toFinset.image UInt32.toNat := by
    ext n
    simp only [List.mem_toFinset, List.mem_map, Finset.mem_image, Std.HashMap.mem_keys]
    constructor
    · rintro ⟨s, hs, rfl⟩
      have hfit : (UInt32.ofNat (s.1.val / 4096)).toNat = s.1.val / 4096 := by
        rw [UInt32.toNat_ofNat']
        omega
      exact ⟨UInt32.ofNat (s.1.val / 4096), (h.page _).2 ⟨s, hs, hfit.symm⟩, hfit⟩
    · rintro ⟨p, hp, rfl⟩
      exact (h.page p).1 hp
  rw [hpages, Finset.card_image_of_injective _ fun p q => UInt32.toNat_inj.1,
    List.toFinset_card_of_nodup m.pages.nodup_keys, Std.HashMap.length_keys]
  rfl

end Holds

/-- Memory after any touches is the array after their stores: read at any width and address, and not
changed by it, and of its pages those are kept that a byte went to. -/
theorem flat_memory (ts : List Touch) :
    let m := ts.foldl Touch.run {}
    let ss := ts.flatMap Touch.stores
    (∀ width a, (Ram.bus.read width a m).value.toNat =
        ∑ k ∈ Finset.range width.bytes, (flat ss (index (a + UInt32.ofNat k))).toNat * 256 ^ k) ∧
      (∀ width a, (Ram.bus.read width a m).bus = m) ∧
      m.allocatedPages = (ss.map fun s => s.1.val / 4096).toFinset.card := by
  intro m ss
  have hholds : Holds m ss := Holds.empty.touches ts
  refine ⟨fun width a => ?_, fun _ _ => rfl, hholds.allocatedPages⟩
  simp only [← hholds.byte]
  exact toNat_read m width a

end Ram

end R3000A
