import R3000A.Word

/-!
# Words and their bytes

A word is the number whose digits to base 256 are its bytes. Both directions are stated on natural
numbers, where a shift is a product and the bytes do not overlap.
-/

namespace R3000A

namespace Word

/-- A byte put below a word is added to 256 times that word. -/
theorem toNat_ofBytes_cons (b : UInt8) (bs : List UInt8) :
    (ofBytes (b :: bs)).toNat = b.toNat + 256 * ((ofBytes bs).toNat % 0x1000000) := by
  have hlow : b.toNat < 2 ^ 8 := b.toNat_lt
  have hhigh : (ofBytes bs).toNat <<< 8 % 2 ^ 32 = ((ofBytes bs).toNat % 2 ^ 24) <<< 8 := by
    simp only [Nat.shiftLeft_eq]
    omega
  have hor := Nat.shiftLeft_add_eq_or_of_lt hlow ((ofBytes bs).toNat % 2 ^ 24)
  rw [ofBytes, UInt32.toNat_or, UInt32.toNat_shiftLeft, UInt8.toNat_toUInt32]
  change b.toNat ||| (ofBytes bs).toNat <<< 8 % 2 ^ 32 = _
  rw [hhigh, Nat.or_comm, ← hor, Nat.shiftLeft_eq]
  omega

theorem toNat_eight_mul (i : Fin 4) : (8 * UInt32.ofNat i : Word).toNat % 32 = 8 * i.val := by
  revert i
  decide

theorem toNat_byte (w : Word) (i : Fin 4) : (w.byte i).toNat = w.toNat >>> (8 * i.val) % 256 := by
  rw [byte, UInt32.toNat_toUInt8, UInt32.toNat_shiftRight, toNat_eight_mul]

theorem ofBytes_toBytes (w : Word) : ofBytes w.toBytes = w := by
  apply UInt32.toNat_inj.1
  have hw : w.toNat < 2 ^ 32 := w.toNat_lt
  have hnil : (ofBytes []).toNat = 0 := rfl
  simp only [toBytes, toNat_ofBytes_cons, toNat_byte, hnil, Nat.shiftRight_eq_div_pow, Fin.val_zero,
    Fin.val_one, Fin.val_two, show ((3 : Fin 4) : Nat) = 3 from rfl]
  omega

/-- Bytes that are missing at the end are zeros. -/
theorem ofBytes_take_four (bs : List UInt8) :
    ofBytes (bs.take 4) = ofBytes [bs.getD 0 0, bs.getD 1 0, bs.getD 2 0, bs.getD 3 0] := by
  rcases bs with _ | ⟨a, _ | ⟨b, _ | ⟨c, _ | ⟨d, rest⟩⟩⟩⟩
  all_goals simp [ofBytes]

theorem toNat_ofBytes_four (a b c d : UInt8) :
    (ofBytes [a, b, c, d]).toNat =
      a.toNat + 0x100 * b.toNat + 0x10000 * c.toNat + 0x1000000 * d.toNat := by
  have hnil : (ofBytes []).toNat = 0 := rfl
  have hb : b.toNat < 2 ^ 8 := b.toNat_lt
  have hc : c.toNat < 2 ^ 8 := c.toNat_lt
  have hd : d.toNat < 2 ^ 8 := d.toNat_lt
  rw [toNat_ofBytes_cons, toNat_ofBytes_cons, toNat_ofBytes_cons, toNat_ofBytes_cons, hnil]
  omega

/-- The first four bytes of a list as a number. -/
theorem toNat_ofBytes_take_four (bs : List UInt8) :
    (ofBytes (bs.take 4)).toNat =
      (bs.getD 0 0).toNat + 0x100 * (bs.getD 1 0).toNat + 0x10000 * (bs.getD 2 0).toNat +
        0x1000000 * (bs.getD 3 0).toNat := by
  rw [ofBytes_take_four, toNat_ofBytes_four]

theorem byte_ofBytes (a b c d : UInt8) (i : Fin 4) :
    (ofBytes [a, b, c, d]).byte i = [a, b, c, d].get i := by
  have ha : a.toNat < 2 ^ 8 := a.toNat_lt
  have hb : b.toNat < 2 ^ 8 := b.toNat_lt
  have hc : c.toNat < 2 ^ 8 := c.toNat_lt
  have hd : d.toNat < 2 ^ 8 := d.toNat_lt
  rw [← UInt8.toNat_inj, toNat_byte, toNat_ofBytes_four, Nat.shiftRight_eq_div_pow]
  rcases i with ⟨_ | _ | _ | _ | _, hi⟩
  · change _ / 2 ^ 0 % 256 = a.toNat
    omega
  · change _ / 2 ^ 8 % 256 = b.toNat
    omega
  · change _ / 2 ^ 16 % 256 = c.toNat
    omega
  · change _ / 2 ^ 24 % 256 = d.toNat
    omega
  · omega

/-! ### Bytes moved and merged -/

theorem byte_or (a b : Word) (i : Fin 4) : (a ||| b).byte i = a.byte i ||| b.byte i := by
  rw [byte, UInt32.shiftRight_or, UInt32.toUInt8_or]
  rfl

theorem byte_and (a b : Word) (i : Fin 4) : (a &&& b).byte i = a.byte i &&& b.byte i := by
  rw [byte, UInt32.shiftRight_and, UInt32.toUInt8_and]
  rfl

theorem testBit_byte (w : Word) (i : Fin 4) (n : Nat) :
    (w.byte i).toNat.testBit n = (decide (n < 8) && w.toNat.testBit (8 * i + n)) := by
  rw [toNat_byte, show (256 : Nat) = 2 ^ 8 from rfl, Nat.testBit_mod_two_pow,
    Nat.testBit_shiftRight]

/-- A word moved down by `k` bytes. -/
theorem byte_shiftRight (w : Word) (k i : Fin 4) :
    (w >>> (8 * UInt32.ofNat k)).byte i = if h : i + k.val < 4 then w.byte ⟨i + k, h⟩ else 0 := by
  rw [← UInt8.toNat_inj]
  apply Nat.eq_of_testBit_eq
  intro n
  have hindex : 8 * k.val + (8 * i.val + n) = 8 * (i.val + k.val) + n := by omega
  rw [testBit_byte, UInt32.toNat_shiftRight, toNat_eight_mul, Nat.testBit_shiftRight, hindex]
  split
  case isTrue h => rw [testBit_byte]
  case isFalse h =>
    have hn : w.toNat.testBit (8 * (i + k) + n) = false :=
      Nat.testBit_lt_two_pow
        (Nat.lt_of_lt_of_le w.toNat_lt (Nat.pow_le_pow_right (by decide) (by omega)))
    simp [hn]

/-- A word moved up by `k` bytes. -/
theorem byte_shiftLeft (w : Word) (k i : Fin 4) :
    (w <<< (8 * UInt32.ofNat k)).byte i = if k ≤ i then w.byte (i - k) else 0 := by
  rw [← UInt8.toNat_inj]
  apply Nat.eq_of_testBit_eq
  intro n
  rw [testBit_byte, UInt32.toNat_shiftLeft, toNat_eight_mul, Nat.testBit_mod_two_pow,
    Nat.testBit_shiftLeft]
  by_cases hn : n < 8
  · split
    case isTrue h =>
      have hindex : 8 * i.val + n - 8 * k.val = 8 * (i - k).val + n := by
        rw [Fin.sub_val_of_le h]
        omega
      have hlow : 8 * k.val ≤ 8 * i.val + n := by omega
      have hhigh : 8 * i.val + n < 32 := by omega
      simp [testBit_byte, hn, hindex, hlow, hhigh]
    case isFalse h =>
      have hlow : ¬8 * k.val ≤ 8 * i.val + n := by omega
      simp [hlow]
  · have hlt : (if k ≤ i then w.byte (i - k) else 0 : UInt8).toNat < 2 ^ n :=
      Nat.lt_of_lt_of_le (UInt8.toNat_lt _) (Nat.pow_le_pow_right (by decide) (by omega))
    rw [decide_eq_false hn, Bool.false_and, Nat.testBit_lt_two_pow hlt]

end Word

end R3000A
