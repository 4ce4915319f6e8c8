import Mathlib.Algebra.Group.Nat.Defs
import R3000A.Proofs.Word.Mask

/-!
# Single bits

`Word.bit` reads one bit of a word. Bits go through `or` and `and` one by one, so a word has
something in common with a mask if and only if it has one of the bits of the mask.
-/

namespace R3000A

namespace Word

theorem bit_eq_getLsbD (w : Word) {n : Nat} (hn : n < 32) : w.bit n = w.toBitVec.getLsbD n := by
  have hmask : ((1 : Word) <<< UInt32.ofNat n).toBitVec = BitVec.twoPow 32 n := by
    revert n
    decide
  have hone : BitVec.twoPow 32 n ≠ 0 := fun hzero => by
    have hbit := congrArg (·.getLsbD n) hzero
    simp [hn] at hbit
  have hand : w &&& (1 : Word) <<< UInt32.ofNat n = 0 ↔ w.toBitVec.getLsbD n = false := by
    rw [← UInt32.toBitVec_inj, UInt32.toBitVec_and, hmask, BitVec.and_twoPow]
    cases w.toBitVec.getLsbD n with
    | false => simp
    | true => simpa using hone
  cases h : w.toBitVec.getLsbD n with
  | false => simp [bit, hand.2 h]
  | true => simpa [bit, bne_iff_ne, hand] using h

/-- One bit as a digit of the number. -/
theorem toNat_bit (w : Word) {n : Nat} (hn : n < 32) : (w.bit n).toNat = w.toNat / 2 ^ n % 2 := by
  rw [bit_eq_getLsbD w hn]
  exact Nat.toNat_testBit ..

theorem bit_or (a b : Word) (n : Nat) : (a ||| b).bit n = (a.bit n || b.bit n) := by
  rw [Bool.eq_iff_iff, Bool.or_eq_true, bit, bit, bit, bne_iff_ne, bne_iff_ne, bne_iff_ne, or_and,
    ne_eq, UInt32.or_eq_zero_iff, Decidable.not_and_iff_or_not]

theorem bit_and (a b : Word) {n : Nat} (hn : n < 32) : (a &&& b).bit n = (a.bit n && b.bit n) := by
  rw [bit_eq_getLsbD _ hn, bit_eq_getLsbD _ hn, bit_eq_getLsbD _ hn, UInt32.toBitVec_and,
    BitVec.getLsbD_and]

theorem bit_zero (n : Nat) : (0 : Word).bit n = false := by
  rw [bit, UInt32.zero_and]
  rfl

theorem and_ne_zero_iff {a m : Word} :
    a &&& m ≠ 0 ↔ ∃ n < 32, m.bit n = true ∧ a.bit n = true := by
  constructor
  · intro h
    refine Classical.byContradiction fun hnone => h (eq_of_bits fun n hn => ?_)
    rw [← bit_eq_getLsbD _ hn, ← bit_eq_getLsbD _ hn, bit_and _ _ hn, bit_zero]
    cases hm : m.bit n <;> cases ha : a.bit n
    case true.true => exact absurd ⟨n, hn, hm, ha⟩ hnone
    all_goals rfl
  · rintro ⟨n, hn, hm, ha⟩ h
    have hbit : (a &&& m).bit n = true := by rw [bit_and _ _ hn, ha, hm]; rfl
    rw [h, bit_zero] at hbit
    exact absurd hbit Bool.false_ne_true

end Word

end R3000A
