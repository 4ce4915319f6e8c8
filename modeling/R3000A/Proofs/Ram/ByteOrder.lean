import R3000A.Proofs.Ram.Access

/-!
# One order of bytes

Loads and stores of bytes, halves and words see the same memory: the parts of a word follow each
other in it from the least significant one on, or the other way round when the status register
reverses the order of bytes. What is done to that end is to flip address bits, and for the parts of
an aligned word this is the same as counting them from the other end (`mirrored_byte`,
`mirrored_half`).
-/

namespace R3000A

namespace Word

/-- Half `j` of a word, counted from the least significant one. -/
def half (w : Word) (j : Fin 2) : UInt16 := (w >>> (16 * UInt32.ofNat j)).toUInt16

theorem toNat_half (w : Word) (j : Fin 2) :
    (w.half j).toNat =
      (w.byte ⟨2 * j, by omega⟩).toNat + 256 * (w.byte ⟨2 * j + 1, by omega⟩).toNat := by
  have hshift : (16 * UInt32.ofNat j : Word).toNat % 32 = 16 * j.val := by
    revert j
    decide
  rw [half, UInt32.toNat_toUInt16, UInt32.toNat_shiftRight, hshift, toNat_byte, toNat_byte,
    Nat.shiftRight_eq_div_pow, Nat.shiftRight_eq_div_pow, Nat.shiftRight_eq_div_pow]
  match j with
  | 0 => simp only [Fin.val_zero]; omega
  | 1 => simp only [Fin.val_one]; omega

theorem half_zero (w : Word) : w.half 0 = w.toUInt16 :=
  congrArg UInt32.toUInt16 UInt32.shiftRight_zero

/-- Halves with the same bytes are the same. -/
theorem half_congr {v w : Word} {j k : Fin 2}
    (hlow : v.byte ⟨2 * j, by omega⟩ = w.byte ⟨2 * k, by omega⟩)
    (hhigh : v.byte ⟨2 * j + 1, by omega⟩ = w.byte ⟨2 * k + 1, by omega⟩) :
    v.half j = w.half k := by
  rw [← UInt16.toNat_inj, toNat_half, toNat_half, hlow, hhigh]

theorem toUInt32_and_byte (b : UInt8) : b.toUInt32 &&& 0xff = b.toUInt32 := by
  rw [← UInt32.toNat_inj, toNat_and_low (n := 8) _ rfl, UInt8.toNat_toUInt32]
  exact Nat.mod_eq_of_lt b.toNat_lt

theorem toUInt32_and_half (h : UInt16) : h.toUInt32 &&& 0xffff = h.toUInt32 := by
  rw [← UInt32.toNat_inj, toNat_and_low (n := 16) _ rfl, UInt16.toNat_toUInt32]
  exact Nat.mod_eq_of_lt h.toNat_lt

theorem extendByte_toUInt32 (b : UInt8) : extendByte b.toUInt32 = ofInt b.toInt8.toInt := by
  rw [extendByte, UInt8.toUInt8_toUInt32]

theorem extendHalf_toUInt32 (h : UInt16) : extendHalf h.toUInt32 = ofInt h.toInt16.toInt := by
  rw [extendHalf, lowSigned, UInt16.toUInt16_toUInt32]

/-- A number below 4 lies in the bits that are clear in an aligned address. -/
theorem and_eq_zero_of_low {a x : Word} (ha : a &&& 3 = 0) (hx : 3 &&& x = x) : a &&& x = 0 := by
  rw [← hx, ← UInt32.and_assoc, ha, UInt32.zero_and]

/-- What is added to an aligned address is flipped like a number of its own. -/
theorem add_xor {a x m y : Word} (ha : a &&& 3 = 0) (hx : 3 &&& x = x) (hm : 3 &&& m = m)
    (hy : 3 &&& y = y) (h : x ^^^ m = y) : (a + x) ^^^ m = a + y := by
  rw [add_eq_or (and_eq_zero_of_low ha hx), or_xor x (and_eq_zero_of_low ha hm), h,
    add_eq_or (and_eq_zero_of_low ha hy)]

end Word

namespace Core

/-- The place of part `i` of a word in memory, which is counted from the other end if bits 25 and 1
of the status register are both set. -/
def place (c : Core) {n : Nat} (i : Fin n) : Fin n :=
  if c.control.status.bit 25 && c.control.status.bit 1 then i.rev else i

theorem mirrored_byte (c : Core) {a : Word} (ha : a &&& 3 = 0) (i : Fin 4) :
    c.mirrored 3 (a + UInt32.ofNat i) = a + UInt32.ofNat (c.place i) := by
  rw [mirrored, place]
  split
  · have hlow : ∀ i : Fin 4, 3 &&& UInt32.ofNat i = UInt32.ofNat i := by decide
    have hflip : ∀ i : Fin 4, UInt32.ofNat i ^^^ 3 = UInt32.ofNat i.rev := by decide
    exact Word.add_xor ha (hlow i) rfl (hlow i.rev) (hflip i)
  · rfl

theorem mirrored_half (c : Core) {a : Word} (ha : a &&& 3 = 0) (j : Fin 2) :
    c.mirrored 2 (a + UInt32.ofNat (2 * j)) = a + UInt32.ofNat (2 * c.place j) := by
  rw [mirrored, place]
  split
  · have hlow : ∀ j : Fin 2, 3 &&& UInt32.ofNat (2 * j) = UInt32.ofNat (2 * j) := by decide
    have hflip : ∀ j : Fin 2, UInt32.ofNat (2 * j) ^^^ 2 = UInt32.ofNat (2 * j.rev) := by decide
    exact Word.add_xor ha (hlow j) rfl (hlow j.rev) (hflip j)
  · rfl

end Core

namespace Ram

theorem read_byte (m : Ram) (a : Word) : m.read .byte a = (m.byte a).toUInt32 := UInt32.or_zero

theorem read_half (m : Ram) (a : Word) (j : Fin 2) :
    m.read .half (a + UInt32.ofNat (2 * j)) = ((m.read .word a).half j).toUInt32 := by
  rw [← UInt32.toNat_inj, UInt16.toNat_toUInt32, Word.toNat_half, byte_read_word, byte_read_word,
    toNat_read, Width.bytes, Finset.sum_range_succ, Finset.sum_range_one, UInt32.add_assoc,
    UInt32.add_assoc, ← UInt32.ofNat_add, ← UInt32.ofNat_add]
  simp only [Nat.add_zero, Nat.pow_zero, Nat.pow_one, Nat.one_mul, Nat.mul_comm]

/-- A byte stored in a word. -/
theorem patched_byte (m : Ram) (a v : Word) (i : Fin 4) :
    Patched (· = i) (fun _ => v.toUInt8) a m (m.write .byte (a + UInt32.ofNat i) v) := by
  refine (m.patched_setBytes a i [v.byte 0] i.isLt).congr (fun k => ?_) fun k hk => ?_
  · change i.val ≤ k ∧ k.val < i + 1 ↔ k = i
    rw [Fin.ext_iff]
    omega
  · rw [hk, Nat.sub_self]
    exact congrArg UInt32.toUInt8 UInt32.shiftRight_zero

/-- A half stored in a word. -/
theorem patched_half (m : Ram) (a v : Word) (j : Fin 2) :
    Patched (fun k => k.val / 2 = j) (fun k => [v.byte 0, v.byte 1].getD (k % 2) 0) a m
      (m.write .half (a + UInt32.ofNat (2 * j)) v) := by
  have hfit : 2 * j.val + 2 ≤ 4 := by omega
  refine (m.patched_setBytes a (2 * j) [v.byte 0, v.byte 1] hfit).congr (fun k => ?_) fun k hk => ?_
  · change 2 * j.val ≤ k ∧ k.val < 2 * j + 2 ↔ k.val / 2 = j
    omega
  · rw [show k.val - 2 * j = k % 2 by omega]

theorem half_read_write_half (m : Ram) (a v : Word) (j k : Fin 2) :
    ((m.write .half (a + UInt32.ofNat (2 * j)) v).read .word a).half k =
      if k = j then v.toUInt16 else (m.read .word a).half k := by
  have hbyte := (m.patched_half a v j).byte_read
  have hlow : 2 * k.val / 2 = k := by omega
  have hhigh : (2 * k.val + 1) / 2 = k := by omega
  split
  case isTrue hk =>
    rw [← Word.half_zero]
    apply Word.half_congr
    · rw [hbyte, if_pos (hlow.trans (congrArg _ hk)), show 2 * k.val % 2 = 0 by omega]
      rfl
    · rw [hbyte, if_pos (hhigh.trans (congrArg _ hk)), show (2 * k.val + 1) % 2 = 1 by omega]
      rfl
  case isFalse hk =>
    apply Word.half_congr
    · rw [hbyte, if_neg fun h => hk (Fin.ext (hlow.symm.trans h))]
    · rw [hbyte, if_neg fun h => hk (Fin.ext (hhigh.symm.trans h))]

end Ram

namespace System

/-- The load in `x` brings `v` to its register, unless that is register 0, and leaves memory as it
is. -/
def Brings (s : System Ram) (x : Word) (rt : Reg) (v : Word) : Prop :=
  (rt ≠ 0 → (s.issue Ram.bus x).cpu.core.upcomingReg rt = v) ∧ (s.issue Ram.bus x).bus = s.bus

/-- What any load of the word at `a` brings is `P`, as long as memory is `m`. -/
def LoadsWord (m : Ram) (a : Word) (P : Word → Prop) : Prop :=
  ∀ (t : System Ram) y q, t.bus = m → q ≠ 0 → t.Accesses y (.load .word q) a →
    P ((t.issue Ram.bus y).cpu.core.upcomingReg q)

variable {s : System Ram} {x a : Word} {rt : Reg}

theorem Accesses.brings {op : LoadOp} (h : s.Accesses x (.load op rt) a) :
    s.Brings x rt
      (op.result s.cpu.core.control.reverseEndian a (s.cpu.core.upcomingReg rt)
        (s.found op a)) := by
  refine ⟨fun hrt => ?_, h.bus_load⟩
  rw [h.core_load]
  exact Core.upcomingReg_writeDelayed _ hrt _

theorem found_of_not_merges {op : LoadOp} (hop : op.merges = false) (b : Word) :
    s.found op b =
      op.width.truncate (s.bus.read op.width (s.cpu.core.mirrored op.width.reverseMask b)) := by
  rw [found, Core.mirrored, ← Core.reverseEndian_eq]
  cases op with
  | wordLeft | wordRight => cases hop
  | _ => rfl

theorem found_word (b : Word) : s.found .word b = s.bus.read .word b := by
  rw [found_of_not_merges rfl, Core.mirrored]
  split
  · exact congrArg (s.bus.read .word) UInt32.xor_zero
  · rfl

/-- A load of a byte works on the byte in its place. -/
theorem Accesses.brings_byte {op : LoadOp} {i : Fin 4}
    (h : s.Accesses x (.load op rt) (a + UInt32.ofNat i)) (ha : a &&& 3 = 0)
    (hop : op.merges = false) (hwidth : op.width = .byte) :
    s.Brings x rt
      (op.result s.cpu.core.control.reverseEndian (a + UInt32.ofNat i) (s.cpu.core.upcomingReg rt)
        ((s.bus.read .word a).byte (s.cpu.core.place i)).toUInt32) := by
  have hfound : s.found op (a + UInt32.ofNat i) =
      ((s.bus.read .word a).byte (s.cpu.core.place i)).toUInt32 := by
    rw [found_of_not_merges hop, hwidth]
    change (s.bus.read .byte (s.cpu.core.mirrored 3 _)) &&& 0xff = _
    rw [Core.mirrored_byte _ ha, Ram.read_byte, Ram.byte_read_word, Word.toUInt32_and_byte]
  exact hfound ▸ h.brings

/-- A load of a half works on the half in its place. -/
theorem Accesses.brings_half {op : LoadOp} {j : Fin 2}
    (h : s.Accesses x (.load op rt) (a + UInt32.ofNat (2 * j))) (ha : a &&& 3 = 0)
    (hop : op.merges = false) (hwidth : op.width = .half) :
    s.Brings x rt
      (op.result s.cpu.core.control.reverseEndian (a + UInt32.ofNat (2 * j))
        (s.cpu.core.upcomingReg rt)
        ((s.bus.read .word a).half (s.cpu.core.place j)).toUInt32) := by
  have hfound : s.found op (a + UInt32.ofNat (2 * j)) =
      ((s.bus.read .word a).half (s.cpu.core.place j)).toUInt32 := by
    rw [found_of_not_merges hop, hwidth]
    change (s.bus.read .half (s.cpu.core.mirrored 2 _)) &&& 0xffff = _
    rw [Core.mirrored_half _ ha, Ram.read_half, Word.toUInt32_and_half]
  exact hfound ▸ h.brings

theorem loadsWord_of_read {m : Ram} {b : Word} {P : Word → Prop} (h : P (m.read .word b)) :
    LoadsWord m b P := by
  intro t y q hbus hq haccesses
  rw [haccesses.brings.1 hq, found_word, hbus]
  exact h

/-- The accesses to the parts of the word `w` at `a` agree on one order of bytes. -/
structure ByteOrder (s : System Ram) (a w : Word) : Prop where
  word : LoadsWord s.bus a (· = w)
  byteUnsigned : ∀ x rt (i : Fin 4), s.Accesses x (.load .byteUnsigned rt) (a + UInt32.ofNat i) →
    s.Brings x rt (w.byte (s.cpu.core.place i)).toUInt32
  byte : ∀ x rt (i : Fin 4), s.Accesses x (.load .byte rt) (a + UInt32.ofNat i) →
    s.Brings x rt (Word.ofInt (w.byte (s.cpu.core.place i)).toInt8.toInt)
  halfUnsigned : ∀ x rt (j : Fin 2),
    s.Accesses x (.load .halfUnsigned rt) (a + UInt32.ofNat (2 * j)) →
      s.Brings x rt (w.half (s.cpu.core.place j)).toUInt32
  half : ∀ x rt (j : Fin 2), s.Accesses x (.load .half rt) (a + UInt32.ofNat (2 * j)) →
    s.Brings x rt (Word.ofInt (w.half (s.cpu.core.place j)).toInt16.toInt)
  storeByte : ∀ x rt (i : Fin 4), s.Accesses x (.store .byte rt) (a + UInt32.ofNat i) →
    let m := (s.issue Ram.bus x).bus
    LoadsWord m a (fun v => ∀ k, v.byte k =
        if k = s.cpu.core.place i then (s.cpu.core.reg rt).toUInt8 else w.byte k) ∧
      ∀ b, Ram.physical b ≠ Ram.physical (a + UInt32.ofNat (s.cpu.core.place i)) →
        m.byte b = s.bus.byte b
  storeHalf : ∀ x rt (j : Fin 2), s.Accesses x (.store .half rt) (a + UInt32.ofNat (2 * j)) →
    let m := (s.issue Ram.bus x).bus
    LoadsWord m a (fun v => ∀ k, v.half k =
        if k = s.cpu.core.place j then (s.cpu.core.reg rt).toUInt16 else w.half k) ∧
      ∀ b, (∀ n < 2,
          Ram.physical b ≠ Ram.physical (a + UInt32.ofNat (2 * s.cpu.core.place j + n))) →
        m.byte b = s.bus.byte b

/-- The accesses to the parts of an aligned word agree, in any memory and any state. -/
theorem byte_order (ha : a &&& 3 = 0) : s.ByteOrder a (s.bus.read .word a) := by
  constructor
  case word => exact loadsWord_of_read rfl
  case byteUnsigned =>
    intro x rt i h
    rw [← Word.toUInt32_and_byte]
    exact h.brings_byte ha rfl rfl
  case byte =>
    intro x rt i h
    rw [← Word.extendByte_toUInt32]
    exact h.brings_byte ha rfl rfl
  case halfUnsigned =>
    intro x rt j h
    rw [← Word.toUInt32_and_half]
    exact h.brings_half ha rfl rfl
  case half =>
    intro x rt j h
    rw [← Word.extendHalf_toUInt32]
    exact h.brings_half ha rfl rfl
  case storeByte =>
    intro x rt i h m
    have hpatched := s.bus.patched_byte a (s.cpu.core.reg rt) (s.cpu.core.place i)
    rw [← Core.mirrored_byte _ ha] at hpatched
    have hm : m = _ := h.bus_store rfl
    rw [hm]
    exact ⟨loadsWord_of_read hpatched.byte_read, fun b hb => hpatched.old b fun k hk => hk ▸ hb⟩
  case storeHalf =>
    intro x rt j h m
    have hm : m = _ := h.bus_store rfl
    rw [hm, StoreOp.width, Width.reverseMask, Core.mirrored_half _ ha]
    refine ⟨loadsWord_of_read (s.bus.half_read_write_half a _ _), fun b hb => ?_⟩
    refine (s.bus.patched_half a _ _).old b fun k hk => ?_
    have hn := hb (k % 2) (Nat.mod_lt _ (by decide))
    rwa [← hk, Nat.div_add_mod] at hn

/-- A system in user mode with the order of bytes reversed, and 0x44332211 in memory at 64. -/
def reversedUser : System Ram :=
  { cpu :=
      { core := { control := SystemControl.zero.write SystemControl.statusReg 0x02000002 } }
    bus := ({} : Ram).write .word 64 0x44332211 }

/-- LBU at 65 brings the byte at 66. -/
theorem byte_order_of_reversedUser :
    Instruction.decode 0x90010041 = .load .byteUnsigned 1 0 65 ∧
      reversedUser.Accesses 0x90010041 (.load .byteUnsigned 1) (64 + UInt32.ofNat (1 : Fin 4)) ∧
      (reversedUser.issue Ram.bus 0x90010041).cpu.core.upcomingReg 1 = 0x33 := by
  have hdecode : Instruction.decode 0x90010041 = .load .byteUnsigned 1 0 65 := by decide
  have haccesses :
      reversedUser.Accesses 0x90010041 (.load .byteUnsigned 1) (64 + UInt32.ofNat (1 : Fin 4)) :=
    ⟨⟨0, 65, hdecode, by decide⟩, by decide, by decide⟩
  have hbyte : (reversedUser.bus.read .word 64).byte 2 = 0x33 :=
    (Ram.patched_word {} 64 0x44332211).byte_read 2
  refine ⟨hdecode, haccesses, ?_⟩
  rw [((byte_order (s := reversedUser) (a := 64) rfl).byteUnsigned _ _ _ haccesses).1 (by decide),
    show reversedUser.cpu.core.place (1 : Fin 4) = 2 by decide, hbyte]
  rfl

end System

end R3000A
