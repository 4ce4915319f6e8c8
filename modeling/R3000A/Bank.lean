import R3000A.Word

/-!
# Register banks

The processor and both of its coprocessors keep their registers in banks of 32 words. A bank is
known by what `read` answers, and `read_write` says what a `write` does to that.
-/

namespace R3000A

abbrev Reg := Fin 32

/-- Thirty-two words, one for each register number. -/
structure Bank where
  words : Vector Word 32
  deriving DecidableEq, Repr

namespace Bank

def zero : Bank := ⟨Vector.replicate 32 0⟩

instance : Inhabited Bank := ⟨zero⟩

def read (b : Bank) (r : Reg) : Word := b.words[r]

def write (b : Bank) (r : Reg) (v : Word) : Bank := ⟨b.words.set r v⟩

theorem read_write (b : Bank) (r s : Reg) (v : Word) :
    (b.write r v).read s = if r = s then v else b.read s := by
  simp only [read, write, Fin.getElem_fin, Vector.getElem_set, Fin.ext_iff]

@[simp] theorem read_write_self (b : Bank) (r : Reg) (v : Word) : (b.write r v).read r = v := by
  simp [read_write]

theorem read_write_of_ne (b : Bank) {r s : Reg} (v : Word) (h : r ≠ s) :
    (b.write r v).read s = b.read s := by
  simp [read_write, h]

@[ext] theorem ext {a b : Bank} (h : ∀ r, a.read r = b.read r) : a = b := by
  cases a; cases b
  simp only [mk.injEq]
  apply Vector.ext
  intro i hi
  exact h ⟨i, hi⟩

theorem write_read (b : Bank) (r : Reg) : b.write r (b.read r) = b := by
  ext s
  rw [read_write]
  split
  · rename_i h
    rw [h]
  · rfl

theorem write_write_self (b : Bank) (r : Reg) (v w : Word) :
    (b.write r v).write r w = b.write r w := by
  ext s
  rw [read_write, read_write, read_write]
  split <;> rfl

theorem write_comm (b : Bank) {r s : Reg} (h : r ≠ s) (v w : Word) :
    (b.write r v).write s w = (b.write s w).write r v := by
  ext q
  rw [read_write, read_write, read_write, read_write]
  by_cases hs : s = q
  · have hr : r ≠ q := hs ▸ h
    rw [if_pos hs, if_neg hr, if_pos hs]
  · rw [if_neg hs, if_neg hs]

def toList (b : Bank) : List Word := b.words.toList

end Bank

end R3000A
