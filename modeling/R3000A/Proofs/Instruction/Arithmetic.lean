import Mathlib.Algebra.Group.Int.Defs
import R3000A.Effect
import R3000A.Proofs.Word.Signed

/-!
# Exact results

What the arithmetic of an instruction leaves in words is told in integers: a sum or a difference up
to multiples of 2³², and exactly if the signed range holds it; a product of two words as the two
halves of one number of 64 bits; a quotient and its remainder as the two numbers that make up the
dividend. The one quotient that no word holds is that of the least signed number by -1.
-/

namespace R3000A

namespace Word

def InSignedRange (v : Int) : Prop := -2 ^ 31 ≤ v ∧ v < 2 ^ 31

instance (v : Int) : Decidable (InSignedRange v) := inferInstanceAs (Decidable (_ ∧ _))

theorem toNat_ofInt (v : Int) : ((ofInt v).toNat : Int) = v % 2 ^ 32 := by
  rw [ofInt, UInt32.ofInt, UInt32.toNat_ofNat']
  omega

theorem signed_ofInt_of_inSignedRange {v : Int} (h : InSignedRange v) : signed (ofInt v) = v :=
  signed_ofInt_of_mem h.1 h.2

theorem ofInt?_of_inSignedRange {v : Int} (h : InSignedRange v) : ofInt? v = some (ofInt v) :=
  if_pos ⟨h.1, Int.le_of_lt_add_one h.2⟩

theorem ofInt?_of_not_inSignedRange {v : Int} (h : ¬InSignedRange v) : ofInt? v = none :=
  if_neg fun h' => h ⟨h'.1, Int.lt_add_one_of_le h'.2⟩

/-- The signed reading differs from the unsigned one by a multiple of 2³². -/
theorem toNat_eq_signed_emod (w : Word) : (w.toNat : Int) = w.signed % 2 ^ 32 := by
  have hbits : w.signed = Int.bmod w.toNat (2 ^ 32) := BitVec.toInt_eq_toNat_bmod _
  have hlt := w.toNat_lt
  rw [hbits, Int.bmod]
  omega

theorem toNat_add_eq_emod (a b : Word) :
    ((a + b).toNat : Int) = (a.toNat + b.toNat : Int) % 2 ^ 32 := by
  rw [UInt32.toNat_add]
  omega

theorem toNat_sub_eq_emod (a b : Word) :
    ((a - b).toNat : Int) = (a.toNat - b.toNat : Int) % 2 ^ 32 := by
  have hb := b.toNat_lt
  rw [UInt32.toNat_sub]
  omega

theorem signed_extendHalf (w : Word) : w.extendHalf.signed = w.lowSigned := by
  have hmem := w.lowSigned_mem
  exact signed_ofInt_of_mem (by omega) (by omega)

theorem signed_eq_zero_iff {w : Word} : w.signed = 0 ↔ w = 0 := by
  constructor
  · intro h
    have hmod := w.toNat_eq_signed_emod
    rw [h] at hmod
    exact UInt32.toNat_inj.1 (Int.ofNat.inj hmod)
  · rintro rfl
    rfl

end Word

namespace Core

open Word (InSignedRange)

/-- Two words as one number of 64 bits with a sign. -/
def signedPair (hi lo : Word) : Int := hi.signed * 2 ^ 32 + lo.toNat

def unsignedPair (hi lo : Word) : Nat := hi.toNat * 2 ^ 32 + lo.toNat

theorem signedPair_product (a b : Word) :
    signedPair (product true a b).1 (product true a b).2 = a.signed * b.signed := by
  have ha := a.signed_mem
  have hb := b.signed_mem
  have hbound : (a.signed * b.signed).natAbs ≤ 2 ^ 31 * 2 ^ 31 := by
    rw [Int.natAbs_mul]
    exact Nat.mul_le_mul (by omega) (by omega)
  have hhalves : product true a b =
      (Word.ofInt (a.signed * b.signed / 2 ^ 32), Word.ofInt (a.signed * b.signed)) :=
    congrArg (fun high => (Word.ofInt high, _)) (Int.shiftRight_eq_div_pow _ _)
  have hrange : InSignedRange (a.signed * b.signed / 2 ^ 32) := by
    rw [InSignedRange]
    omega
  rw [hhalves, signedPair, Word.signed_ofInt_of_inSignedRange hrange, Word.toNat_ofInt]
  omega

theorem unsignedPair_product (a b : Word) :
    unsignedPair (product false a b).1 (product false a b).2 = a.toNat * b.toNat := by
  have hbound : a.toNat * b.toNat ≤ (2 ^ 32 - 1) * (2 ^ 32 - 1) :=
    Nat.mul_le_mul (Nat.le_of_lt_succ a.toNat_lt) (Nat.le_of_lt_succ b.toNat_lt)
  have hhalves : product false a b =
      (UInt32.ofNat (a.toNat * b.toNat / 2 ^ 32), UInt32.ofNat (a.toNat * b.toNat)) :=
    congrArg (fun high => (UInt32.ofNat high, _)) (Nat.shiftRight_eq_div_pow _ _)
  rw [hhalves, unsignedPair, UInt32.toNat_ofNat', UInt32.toNat_ofNat']
  omega

/-- Quotient and remainder make up the dividend, and the remainder is less than the divisor. -/
theorem quotient_unsigned (a : Word) {b : Word} (hb : b ≠ 0) :
    a.toNat = (quotient false a b).2.toNat * b.toNat + (quotient false a b).1.toNat ∧
      (quotient false a b).1.toNat < b.toNat := by
  have hpos : 0 < b.toNat := Nat.pos_of_ne_zero fun h => hb (UInt32.toNat_inj.1 h)
  rw [quotient, if_neg Bool.false_ne_true, UInt32.toNat_mod, UInt32.toNat_div]
  exact ⟨(Nat.div_add_mod' _ _).symm, Nat.mod_lt _ hpos⟩

/-- The remainder of a division by a number of the signed range is in that range. -/
theorem signed_remainder (a : Word) {b : Word} (hb : b ≠ 0) :
    (quotient true a b).1.signed = a.signed.tmod b.signed := by
  have hb' : b.signed ≠ 0 := fun h => hb (Word.signed_eq_zero_iff.1 h)
  have hdivisor := b.signed_mem
  have hlt := Int.natAbs_tmod a.signed b.signed
  have hmod : a.signed.natAbs % b.signed.natAbs < b.signed.natAbs := Nat.mod_lt _ (by omega)
  rw [quotient, if_pos rfl]
  exact Word.signed_ofInt_of_mem (by omega) (by omega)

/-- The only quotient out of the signed range. -/
def DivisionOverflows (a b : Word) : Prop := a = 0x80000000 ∧ b = 0xffffffff

instance (a b : Word) : Decidable (DivisionOverflows a b) := inferInstanceAs (Decidable (_ ∧ _))

theorem divisionOverflows_iff {a b : Word} :
    DivisionOverflows a b ↔ a.signed = -2 ^ 31 ∧ b.signed = -1 := by
  have hinj {v w : Word} (h : v.signed = w.signed) : v = w := by
    have hv := v.toNat_eq_signed_emod
    rw [h, ← w.toNat_eq_signed_emod] at hv
    exact UInt32.toNat_inj.1 (Int.ofNat.inj hv)
  constructor
  · rintro ⟨rfl, rfl⟩
    exact ⟨rfl, rfl⟩
  · rintro ⟨ha, hb⟩
    exact ⟨hinj ha, hinj hb⟩

theorem tdiv_inSignedRange {n d : Int} (hn : InSignedRange n) (hd : d ≠ 0)
    (hoverflow : ¬(n = -2 ^ 31 ∧ d = -1)) : InSignedRange (n.tdiv d) := by
  have habs : (n.tdiv d).natAbs = n.natAbs / d.natAbs := Int.natAbs_tdiv n d
  obtain ⟨hlo, hhi⟩ := hn
  rw [InSignedRange]
  by_cases hunit : d.natAbs = 1
  · obtain rfl | rfl : d = 1 ∨ d = -1 := by omega
    · rw [Int.tdiv_one]
      exact ⟨hlo, hhi⟩
    · rw [Int.tdiv_neg, Int.tdiv_one]
      omega
  · have hhalf : n.natAbs / d.natAbs ≤ n.natAbs / 2 := Nat.div_le_div_left (by omega) (by decide)
    omega

theorem signed_quotient {a b : Word} (hb : b ≠ 0) (h : ¬DivisionOverflows a b) :
    (quotient true a b).2.signed = a.signed.tdiv b.signed := by
  have hb' : b.signed ≠ 0 := fun h => hb (Word.signed_eq_zero_iff.1 h)
  rw [divisionOverflows_iff] at h
  exact Word.signed_ofInt_of_inSignedRange (tdiv_inSignedRange a.signed_mem hb' h)

theorem quotient_of_divisionOverflows {a b : Word} (h : DivisionOverflows a b) :
    (quotient true a b).2 = 0x80000000 ∧ (quotient true a b).1 = 0 := by
  obtain ⟨rfl, rfl⟩ := h
  decide

/-- Quotient and remainder make up the dividend. -/
theorem quotient_signed {a b : Word} (hb : b ≠ 0) (h : ¬DivisionOverflows a b) :
    a.signed =
      (quotient true a b).2.signed * b.signed + (quotient true a b).1.signed := by
  rw [signed_quotient hb h, signed_remainder a hb, Int.mul_comm]
  exact (Int.mul_tdiv_add_tmod _ _).symm

theorem remainder_lt (a : Word) {b : Word} (hb : b ≠ 0) :
    (quotient true a b).1.signed.natAbs < b.signed.natAbs := by
  have hpos : 0 < b.signed.natAbs :=
    Int.natAbs_pos.2 fun h => hb (Word.signed_eq_zero_iff.1 h)
  rw [signed_remainder a hb, Int.natAbs_tmod]
  exact Nat.mod_lt _ hpos

/-- The remainder is on the side of the dividend. -/
theorem sign_remainder (a : Word) {b : Word} (hb : b ≠ 0) :
    (quotient true a b).1 = 0 ∨ (quotient true a b).1.signed.sign = a.signed.sign := by
  rw [← Word.signed_eq_zero_iff, signed_remainder a hb]
  rcases Int.lt_trichotomy a.signed 0 with hneg | hzero | hpos
  · have hside : 0 ≤ (-a.signed).tmod b.signed := Int.tmod_nonneg _ (by omega)
    rw [Int.neg_tmod] at hside
    rcases Int.lt_or_eq_of_le (Int.nonpos_of_neg_nonneg hside) with hlt | heq
    · exact .inr ((Int.sign_eq_neg_one_of_neg hlt).trans (Int.sign_eq_neg_one_of_neg hneg).symm)
    · exact .inl heq
  · exact .inl (by rw [hzero, Int.zero_tmod])
  · rcases Int.lt_or_eq_of_le (Int.tmod_nonneg b.signed (Int.le_of_lt hpos)) with hlt | heq
    · exact .inr ((Int.sign_eq_one_of_pos hlt).trans (Int.sign_eq_one_of_pos hpos).symm)
    · exact .inl heq.symm

end Core

end R3000A
