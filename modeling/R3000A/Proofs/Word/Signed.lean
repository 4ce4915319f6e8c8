import Mathlib.Algebra.Group.Nat.Defs
import R3000A.Word

/-!
# Words as signed numbers

`Word.ofInt` keeps an integer up to multiples of 2³², so that a word or a half that is read with a
sign afterwards is the balanced remainder (`Int.bmod`) of the integer, and the integer itself if it
is in range.
-/

namespace R3000A

namespace Word

theorem signed_ofInt (v : Int) : signed (ofInt v) = v.bmod (2 ^ 32) := by
  have hbits : signed (ofInt v) = Int.bmod (ofInt v).toNat (2 ^ 32) := BitVec.toInt_eq_toNat_bmod _
  rw [hbits, ofInt, UInt32.ofInt, UInt32.toNat_ofNat']
  simp only [Int.bmod]
  omega

theorem lowSigned_eq_bmod (w : Word) : lowSigned w = Int.bmod w.toNat (2 ^ 16) := by
  have hbits : lowSigned w = Int.bmod w.toUInt16.toNat (2 ^ 16) := BitVec.toInt_eq_toNat_bmod _
  rw [hbits, UInt32.toNat_toUInt16]
  simp only [Int.bmod]
  omega

theorem lowSigned_ofInt (v : Int) : lowSigned (ofInt v) = v.bmod (2 ^ 16) := by
  rw [lowSigned_eq_bmod, ofInt, UInt32.ofInt, UInt32.toNat_ofNat']
  simp only [Int.bmod]
  omega

theorem signed_ofInt_of_mem {v : Int} (hlo : -0x80000000 ≤ v) (hhi : v < 0x80000000) :
    signed (ofInt v) = v := by
  rw [signed_ofInt, Int.bmod]
  omega

theorem lowSigned_ofInt_of_mem {v : Int} (hlo : -0x8000 ≤ v) (hhi : v < 0x8000) :
    lowSigned (ofInt v) = v := by
  rw [lowSigned_ofInt, Int.bmod]
  omega

/-! ### Halves put together -/

theorem toUInt16_ofHalves (low high : UInt16) : (ofHalves low high).toUInt16 = low := by
  have hnone : (high.toUInt32 <<< 16).toUInt16 = 0 := by
    rw [← UInt16.toNat_inj, UInt32.toNat_toUInt16, UInt32.toNat_shiftLeft]
    change (high.toUInt32.toNat <<< 16 % 2 ^ 32) % 2 ^ 16 = 0
    rw [Nat.shiftLeft_eq]
    omega
  rw [ofHalves, UInt32.toUInt16_or, hnone, UInt16.or_zero, UInt16.toUInt16_toUInt32]

theorem toUInt16_ofHalves_shiftRight (low high : UInt16) :
    (ofHalves low high >>> 16).toUInt16 = high := by
  have hlow : low.toNat < 2 ^ 16 := low.toNat_lt
  have hhigh : high.toNat < 2 ^ 16 := high.toNat_lt
  have hor := Nat.shiftLeft_add_eq_or_of_lt hlow high.toNat
  have hwhole : (ofHalves low high).toNat = high.toNat <<< 16 + low.toNat := by
    rw [ofHalves, UInt32.toNat_or, UInt32.toNat_shiftLeft, UInt16.toNat_toUInt32,
      UInt16.toNat_toUInt32]
    change low.toNat ||| high.toNat <<< 16 % 2 ^ 32 = _
    rw [Nat.mod_eq_of_lt (by rw [Nat.shiftLeft_eq]; omega), Nat.or_comm, hor]
  rw [← UInt16.toNat_inj, UInt32.toNat_toUInt16, UInt32.toNat_shiftRight, hwhole]
  change (high.toNat <<< 16 + low.toNat) >>> 16 % 2 ^ 16 = _
  rw [Nat.shiftLeft_eq, Nat.shiftRight_eq_div_pow]
  omega

theorem lowSigned_ofHalves (low high : UInt16) : lowSigned (ofHalves low high) = low.toInt16.toInt := by
  rw [lowSigned, toUInt16_ofHalves]

theorem highSigned_ofHalves (low high : UInt16) :
    highSigned (ofHalves low high) = high.toInt16.toInt := by
  rw [highSigned, toUInt16_ofHalves_shiftRight]

/-! ### Ranges -/

theorem signed_mem (w : Word) : -0x80000000 ≤ w.signed ∧ w.signed < 0x80000000 :=
  ⟨w.toInt32.le_toInt, w.toInt32.toInt_lt⟩

theorem lowSigned_mem (w : Word) : -0x8000 ≤ w.lowSigned ∧ w.lowSigned < 0x8000 :=
  ⟨w.toUInt16.toInt16.le_toInt, w.toUInt16.toInt16.toInt_lt⟩

theorem highSigned_mem (w : Word) : -0x8000 ≤ w.highSigned ∧ w.highSigned < 0x8000 :=
  ⟨(w >>> 16).toUInt16.toInt16.le_toInt, (w >>> 16).toUInt16.toInt16.toInt_lt⟩

end Word

end R3000A
