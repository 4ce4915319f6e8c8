import R3000A.Proofs.Word.Mask
import R3000A.Proofs.Word.Signed

/-!
# The low half of a word

Words that agree under the mask of the low half are the same to everything that reads only that
half.
-/

namespace R3000A

namespace Word

theorem and_half_eq_iff {a b : Word} : a &&& 0xffff = b &&& 0xffff ↔ a.toUInt16 = b.toUInt16 := by
  have hand (w : Word) : (w &&& 0xffff).toNat = w.toUInt16.toNat := by
    rw [UInt32.toNat_toUInt16]
    exact toNat_and_low w rfl
  rw [← UInt32.toNat_inj, ← UInt16.toNat_inj, hand, hand]

theorem lowSigned_congr {a b : Word} (h : a.toUInt16 = b.toUInt16) : lowSigned a = lowSigned b := by
  rw [lowSigned, lowSigned, h]

theorem toUInt16_withLow (w : Word) (half : UInt16) : (withLow w half).toUInt16 = half := by
  have hnone : (0xffff0000 : Word).toUInt16 = 0 := rfl
  rw [withLow, UInt32.toUInt16_or, UInt32.toUInt16_and, hnone, UInt16.and_zero, UInt16.zero_or,
    UInt16.toUInt16_toUInt32]

/-- The repeated sign does not reach the low half. -/
theorem toUInt16_extendHalf (w : Word) : (extendHalf w).toUInt16 = w.toUInt16 := by
  rw [← UInt16.toNat_inj, UInt32.toNat_toUInt16, UInt32.toNat_toUInt16, extendHalf, ofInt,
    UInt32.ofInt, UInt32.toNat_ofNat', lowSigned_eq_bmod, Int.bmod]
  split <;> omega

/-- A half without its sign bit is extended by nothing. -/
theorem extendHalf_of_and_eq {w : Word} (h : w &&& 0x7fff = w) : extendHalf w = w := by
  have hsmall : w.toNat < 2 ^ 15 := by
    have hlow := toNat_and_low w (m := 0x7fff) (n := 15) rfl
    rw [h] at hlow
    omega
  rw [← UInt32.toNat_inj, extendHalf, ofInt, UInt32.ofInt, UInt32.toNat_ofNat', lowSigned_eq_bmod,
    Int.bmod]
  split <;> omega

/-- A field of a shifted word depends on the bits that the shift brings there. -/
theorem shiftRight_and_congr {a b k : Word} (h : a &&& k = b &&& k) {n m : Word}
    (hm : k >>> n &&& m = m) : a >>> n &&& m = b >>> n &&& m := by
  rw [← hm, ← UInt32.and_assoc, ← UInt32.and_assoc, ← UInt32.shiftRight_and, h,
    UInt32.shiftRight_and]

theorem shiftLeft_and_congr {a b k : Word} (h : a &&& k = b &&& k) {n m : Word}
    (hm : k <<< n &&& m = m) : a <<< n &&& m = b <<< n &&& m := by
  rw [← hm, ← UInt32.and_assoc, ← UInt32.and_assoc, ← UInt32.shiftLeft_and, h,
    UInt32.shiftLeft_and]

end Word

end R3000A
