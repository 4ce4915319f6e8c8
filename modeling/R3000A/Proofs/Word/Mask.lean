import Mathlib.Algebra.Group.Nat.Defs
import R3000A.Word

/-!
# Fields of a word

A field of a word is given by the mask `m` of its bits, and `(a &&& ~~~m) ||| b` is the word `a`
with the bits of `b` in that field. Everything the registers of the system control coprocessor do
to themselves has this form, so two lemmas say what is read through a second mask `k` afterwards:
inside the field it is the new bits, outside of it the old ones.
-/

namespace R3000A

namespace Word

theorem eq_of_bits {a b : Word}
    (h : ∀ i < 32, a.toBitVec.getLsbD i = b.toBitVec.getLsbD i) : a = b :=
  UInt32.toBitVec_inj.1 (BitVec.eq_of_getLsbD_eq h)

/-- The mask of the low `n` bits takes a remainder. -/
theorem toNat_and_low (w : Word) {m : Word} {n : Nat} (hm : m.toNat = 2 ^ n - 1) :
    (w &&& m).toNat = w.toNat % 2 ^ n := by
  rw [UInt32.toNat_and, hm, Nat.and_two_pow_sub_one_eq_mod]

/-- Words without a common bit, bit by bit. -/
theorem getLsbD_of_and_eq_zero {a b : Word} (h : a &&& b = 0) (i : Nat) :
    (a.toBitVec.getLsbD i && b.toBitVec.getLsbD i) = false := by
  rw [← BitVec.getLsbD_and, ← UInt32.toBitVec_and, h]
  simp

theorem or_and (a b k : Word) : (a ||| b) &&& k = (a &&& k) ||| (b &&& k) := by
  apply eq_of_bits
  intro i _
  simp [Bool.and_or_distrib_right]

theorem and_or (k a b : Word) : k &&& (a ||| b) = (k &&& a) ||| (k &&& b) := by
  rw [UInt32.and_comm, or_and, UInt32.and_comm a, UInt32.and_comm b]

theorem or_and_self (a k : Word) : (a ||| k) &&& k = k := by
  apply eq_of_bits
  intro i _
  simp only [UInt32.toBitVec_and, UInt32.toBitVec_or, BitVec.getLsbD_and, BitVec.getLsbD_or]
  cases a.toBitVec.getLsbD i <;> cases k.toBitVec.getLsbD i <;> rfl

/-- Words that agree on some bits agree on fewer. -/
theorem and_eq_of_subset {a b m k : Word} (h : a &&& m = b &&& m) (hk : m &&& k = k) :
    a &&& k = b &&& k := by
  rw [← hk, ← UInt32.and_assoc, h, UInt32.and_assoc]

/-- Inside the field that was replaced, the word holds the new bits. -/
theorem replace_and_of_subset (a b : Word) {m k : Word} (h : m &&& k = k) :
    ((a &&& ~~~m) ||| b) &&& k = b &&& k := by
  have hnone : ~~~m &&& k = 0 := by
    rw [← h, ← UInt32.and_assoc, UInt32.not_and_self, UInt32.zero_and]
  rw [or_and, UInt32.and_assoc, hnone, UInt32.and_zero, UInt32.zero_or]

/-- Outside of the field that was replaced, the word holds what it held before. -/
theorem replace_and_of_disjoint (a : Word) {b m k : Word} (h : m &&& k = 0) (hb : b &&& k = 0) :
    ((a &&& ~~~m) ||| b) &&& k = a &&& k := by
  have hall : ~~~m &&& k = k := by
    apply eq_of_bits
    intro i hi
    have hbit := getLsbD_of_and_eq_zero h i
    cases hm : m.toBitVec.getLsbD i <;> simp_all
  rw [or_and, UInt32.and_assoc, hall, hb, UInt32.or_zero]

theorem xor_and_of_disjoint (a : Word) {m k : Word} (h : m &&& k = 0) :
    (a ^^^ m) &&& k = a &&& k := by
  apply eq_of_bits
  intro i _
  have hbit := getLsbD_of_and_eq_zero h i
  simp only [UInt32.toBitVec_and, UInt32.toBitVec_xor, BitVec.getLsbD_and, BitVec.getLsbD_xor]
  cases hm : m.toBitVec.getLsbD i <;> simp_all

/-- Words without a common bit are added without a carry. -/
theorem add_eq_or {a x : Word} (h : a &&& x = 0) : a + x = a ||| x := by
  rw [← UInt32.toBitVec_inj, UInt32.toBitVec_add, UInt32.toBitVec_or]
  apply BitVec.add_eq_or_of_and_eq_zero
  rw [← UInt32.toBitVec_and, h]
  rfl

theorem or_xor {a m : Word} (x : Word) (h : a &&& m = 0) : (a ||| x) ^^^ m = a ||| (x ^^^ m) := by
  apply eq_of_bits
  intro i _
  have hbit := getLsbD_of_and_eq_zero h i
  simp only [UInt32.toBitVec_or, UInt32.toBitVec_xor, BitVec.getLsbD_or, BitVec.getLsbD_xor]
  cases ha : a.toBitVec.getLsbD i <;> simp_all

theorem shiftLeft_and_eq_zero (a : Word) {n k : Word} (h : (-1 : Word) <<< n &&& k = 0) :
    (a <<< n) &&& k = 0 := by
  rw [← UInt32.neg_one_shiftLeft_and_shiftLeft, UInt32.and_comm (_ <<< _) (a <<< n),
    UInt32.and_assoc, h, UInt32.and_zero]

end Word

end R3000A
