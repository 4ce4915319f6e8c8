import R3000A.Instruction.Decode
import R3000A.Proofs.Checked.Arithmetic
import R3000A.Proofs.Instruction.Fault
import R3000A.Proofs.Word.Mask

/-!
# Checked instructions

What an instruction does, worked out with operations that can fail. Most instructions compute over
words, where sums and differences are meant to wrap and bits are meant to be lost, and so cannot
fail. Left are the shifts by an amount that is read from somewhere, the products and quotients that
go to HI and LO, the bit that enables a coprocessor, and the partial words:

* `Checked.bitAbove`: the sum of two positions, in a type of its own, and the shift of a bit to the
  left by it, in 32 bits.
* `SystemControl.usableChecked`: the position above bit 28 in 8 bits, and the shift by it.
* `AluOp.resultChecked?`: the shifts SLL, SRL and SRA in 32 bits, the last one with a sign. Sums and
  differences wrap, or tell of an overflow themselves.
* `Core.productChecked`: the product in 64 bits, with or without a sign.
* `Core.quotientChecked`: the divisor. The quotient of signed numbers wraps.
* `Core.guardedChecked`, `Core.effectChecked`: what the instruction at hand asks for of the above.
* `bitsBelowChecked`, `bitsAboveChecked`: the product with 8 and the difference from 24, in 32 bits.
* `LoadOp.resultChecked`, `StoreOp.mergedChecked`: the shifts of words and masks by these amounts.

Addresses, targets and return addresses wrap. Shifts by a constant, such as those that cut fields
out of an instruction word, are not checked, and neither are register numbers, which are bounded by
their type.
-/

namespace R3000A

namespace Checked

/-- The word with one bit, which is `i` bits above bit `base`. -/
def bitAbove (t : IntType) (base i : Nat) : Checked Word := do
  let position ← add t (pure base) (pure i)
  shiftLeft 1 position.toNat

theorem bitAbove_eq {t : IntType} {base i : Nat} (h : base + i < 32) (ht : 31 ≤ t.greatest) :
    bitAbove t base i = .ok ((1 : Word) <<< UInt32.ofNat (base + i)) := by
  have hfits : t.Holds ((base + i : Nat) : Int) := holds_natCast (by omega)
  rw [bitAbove, add_pure (a := base) (b := i) hfits]
  exact shiftLeft_eq 1 h

end Checked

/-- Whether coprocessor `n` may be used. The enable bits start at bit 28. -/
def SystemControl.usableChecked (c : SystemControl) (n : Fin 4) : Checked Bool := do
  let enable ← Checked.bitAbove .uint8 28 n
  return c.status &&& enable != 0 || (n == 0 && !c.userMode)

theorem SystemControl.usableChecked_eq (c : SystemControl) (n : Fin 4) :
    c.usableChecked n = .ok (c.usable n) := by
  rw [usableChecked, Checked.bitAbove_eq (by omega) (by decide)]
  rfl

/-! ### Shifts -/

theorem Word.and_lt_32 (w : Word) : w &&& 0x1f < 32 :=
  UInt32.lt_iff_toNat_lt.2 (Nat.lt_of_le_of_lt Nat.and_le_right (by decide))

theorem Word.and_eq_self_of_lt_32 {w : Word} (h : w < 32) : w &&& 0x1f = w := by
  apply UInt32.toNat_inj.1
  rw [toNat_and_low (n := 5) w rfl]
  exact Nat.mod_eq_of_lt (UInt32.lt_iff_toNat_lt.1 h)

/-- The amount of a shift: the low five bits of a register, or a constant as it is. -/
def Operand.shiftAmount (regs : Bank) : Operand → Word
  | reg r => regs.read r &&& 0x1f
  | immediate v => v

/-- The result of an operation with its second operand and the amount of a shift. -/
def AluOp.resultChecked? (op : AluOp) (a b amount : Word) : Checked (Option Word) :=
  match op with
  | sll => do return some (← Checked.shiftLeft a amount.toNat)
  | srl => do return some (← Checked.shiftRight a amount.toNat)
  | sra => do return some (Word.ofInt (← Checked.shr .int32 (pure a.signed) amount.toNat))
  | _ => return op.result? a b

theorem Operand.shiftAmount_eq (regs : Bank) {operand : Operand}
    (h : ∀ v, operand = immediate v → v < 32) :
    operand.shiftAmount regs = operand.value regs &&& 0x1f := by
  cases operand with
  | reg r => rfl
  | immediate v => exact (Word.and_eq_self_of_lt_32 (h v rfl)).symm

namespace Instruction

def shift? : Instruction → Option Word
  | alu .sll _ _ (.immediate v) | alu .srl _ _ (.immediate v) | alu .sra _ _ (.immediate v) => some v
  | _ => none

theorem shift?_special (w : Word) :
    (special w).shift? = none ∨ (special w).shift? = some (shiftAmount w) := by
  rw [special]
  split <;> first
    | exact .inr rfl
    | exact .inl rfl
    | (rw [onlyIfZero]; split <;> exact .inl rfl)

theorem shift?_conditional (w : Word) : (conditional w).shift? = none := by
  rw [conditional]
  split <;> rfl

/-- A constant that is shifted by comes from a field of five bits. -/
theorem lt_of_shift?_decode {w v : Word} (h : (decode w).shift? = some v) : v < 32 := by
  rw [decode] at h
  split at h
  case h_1 =>
    obtain hnone | hsome := shift?_special w
    · simp [hnone] at h
    · rw [hsome, Option.some.injEq] at h
      rw [← h]
      exact Word.and_lt_32 (w >>> 6)
  case h_2 => simp [shift?_conditional] at h
  -- The branches that ask for a zero field, and the one that is a call without a register.
  case h_7 | h_8 =>
    rw [onlyIfZero] at h
    split at h <;> cases h
  case h_10 => split at h <;> cases h
  all_goals cases h

end Instruction

/-- An operation does not fail if a constant that it shifts by is below 32. -/
theorem AluOp.resultChecked?_eq {op : AluOp} {rd rs : Reg} {operand : Operand}
    (h : ∀ v, (Instruction.alu op rd rs operand).shift? = some v → v < 32) (regs : Bank)
    (a : Word) :
    op.resultChecked? a (operand.value regs) (operand.shiftAmount regs) =
      .ok (op.result? a (operand.value regs)) := by
  have hlt := UInt32.lt_iff_toNat_lt.1 (Word.and_lt_32 (operand.value regs))
  have hamount (hop : ∀ v, (Instruction.alu op rd rs (.immediate v)).shift? = some v) :
      operand.shiftAmount regs = operand.value regs &&& 0x1f :=
    Operand.shiftAmount_eq regs fun v hv => h v (by rw [hv, hop])
  cases op with
  | sll =>
    rw [resultChecked?, hamount fun _ => rfl, Checked.shiftLeft_eq _ hlt, UInt32.ofNat_toNat]
    rfl
  | srl =>
    rw [resultChecked?, hamount fun _ => rfl, Checked.shiftRight_eq _ hlt, UInt32.ofNat_toNat]
    rfl
  | sra =>
    rw [resultChecked?, hamount fun _ => rfl, Checked.shr_pure _ hlt, AluOp.result?,
      Int.shiftRight_eq_div_pow, Int.natCast_pow]
    rfl
  | _ => rfl

namespace Core

def productChecked (signed : Bool) (a b : Word) : Checked (Word × Word) :=
  if signed then do
    let p ← Checked.mul .int64 (pure a.signed) (pure b.signed)
    return (Word.ofInt (p >>> (32 : Nat)), Word.ofInt p)
  else do
    let p ← Checked.mul .uint64 (pure a.toNat) (pure b.toNat)
    return (UInt32.ofNat (p.toNat >>> (32 : Nat)), UInt32.ofNat p.toNat)

/-- HI and LO after a division. The most negative number divided by -1 wraps, so only a divisor of
zero is a failure. -/
def quotientChecked (signed : Bool) (a b : Word) : Checked (Word × Word) :=
  if b = 0 then throw .divisionByZero else return quotient signed a b

/-- What an instruction does that computes nothing, which may ask for a coprocessor. -/
def guardedChecked (c : Core) (settings : Settings) (i : Instruction) : Checked Effect :=
  match i.coprocessor? with
  | none => return c.effect settings i
  | some n => do
    if ← c.control.usableChecked n then return c.effect settings i
    else return .raise (.coprocessorUnusable n) none

def effectChecked (c : Core) (settings : Settings) : Instruction → Checked Effect
  | .alu op rd rs operand => do
    match ← op.resultChecked? (c.reg rs) (operand.value c.regs) (operand.shiftAmount c.regs) with
    | some v => return .write rd v
    | none => return .raise .overflow none
  | .multiply signed rs rt => do
    let p ← productChecked signed (c.reg rs) (c.reg rt)
    return .writeHiLo p.1 p.2
  | .divide signed rs rt =>
    if c.reg rt = 0 then return .retire
    else do
      let q ← quotientChecked signed (c.reg rs) (c.reg rt)
      return .writeHiLo q.1 q.2
  | i => c.guardedChecked settings i

theorem productChecked_eq (signed : Bool) (a b : Word) :
    productChecked signed a b = .ok (product signed a b) := by
  cases signed with
  | true =>
    have ha := a.signed_mem
    have hb := b.signed_mem
    have hp := ((Checked.Yields.of_le (n := 0x80000000) (a := a.signed) (by omega)).mul
      (.of_le (n := 0x80000000) (a := b.signed) (by omega)) (by decide)).eq_ok
    rw [productChecked, if_pos rfl, hp]
    rfl
  | false =>
    have hbound : a.toNat * b.toNat ≤ 0xffffffff * 0xffffffff :=
      Nat.mul_le_mul (Nat.le_of_lt_succ a.toNat_lt) (Nat.le_of_lt_succ b.toNat_lt)
    have hp : Checked.mul .uint64 (pure (a.toNat : Int)) (pure (b.toNat : Int)) =
        .ok (a.toNat * b.toNat : Nat) :=
      Checked.mul_natCast rfl rfl (Int.le_trans (Int.ofNat_le.2 hbound) (by decide))
    rw [productChecked, if_neg (by decide), hp]
    rfl

theorem quotientChecked_eq (signed : Bool) (a : Word) {b : Word} (h : b ≠ 0) :
    quotientChecked signed a b = .ok (quotient signed a b) := if_neg h

theorem guardedChecked_eq (c : Core) (settings : Settings) (i : Instruction) :
    c.guardedChecked settings i = .ok (c.effect settings i) := by
  rw [guardedChecked]
  cases hn : i.coprocessor? with
  | none => rfl
  | some n =>
    dsimp only
    rw [SystemControl.usableChecked_eq, Checked.ok_bind]
    cases husable : c.control.usable n with
    | true => rfl
    | false =>
      have hlink : c.linkOf i = none := by
        cases i <;> first | rfl | cases hn
      rw [(Faults.coprocessor hn husable).effect_eq, hlink]
      rfl

/-- No instruction fails. -/
theorem effectChecked_eq (c : Core) (settings : Settings) (w : Word) :
    c.effectChecked settings (Instruction.decode w) =
      .ok (c.effect settings (Instruction.decode w)) := by
  cases hi : Instruction.decode w with
  | alu op rd rs operand =>
    have hshift (v : Word) (hv : (Instruction.alu op rd rs operand).shift? = some v) : v < 32 :=
      Instruction.lt_of_shift?_decode (hi ▸ hv)
    rw [effectChecked, AluOp.resultChecked?_eq hshift, Checked.ok_bind, effect]
    cases op.result? (c.reg rs) (operand.value c.regs) <;> rfl
  | multiply signed rs rt =>
    rw [effectChecked, productChecked_eq]
    rfl
  | divide signed rs rt =>
    rw [effectChecked, effect]
    split
    case isTrue => rfl
    case isFalse hzero =>
      rw [quotientChecked_eq _ _ hzero]
      rfl
  | _ => simp only [effectChecked, guardedChecked_eq]

end Core

/-! ### Partial words -/

def bitsBelowChecked (address : Word) : Checked Int :=
  Checked.mul .uint32 (pure (address &&& 3).toNat) (pure 8)

def bitsAboveChecked (address : Word) : Checked Int :=
  Checked.sub .uint32 (pure 24) (bitsBelowChecked address)

def LoadOp.resultChecked (op : LoadOp) (reverse : Bool) (address old memory : Word) :
    Checked Word :=
  match op with
  | wordLeft => do
    let keep ← Checked.shiftRight 0x00ffffff (← bitsBelowChecked address).toNat
    if reverse then return (old &&& keep) ||| (memory &&& ~~~keep)
    else return (old &&& keep) |||
      (← Checked.shiftLeft memory (← bitsAboveChecked address).toNat)
  | wordRight => do
    let below ← bitsBelowChecked address
    let take ← Checked.shiftRight 0xffffffff below.toNat
    if reverse then return (old &&& ~~~take) ||| (memory &&& take)
    else return (old &&& ~~~take) ||| (← Checked.shiftRight memory below.toNat)
  | _ => return op.result reverse address old memory

def StoreOp.mergedChecked (op : StoreOp) (reverse : Bool) (address v memory : Word) :
    Checked Word :=
  match op with
  | wordLeft => do
    if reverse then
      let keep ← Checked.shiftRight 0x00ffffff (← bitsBelowChecked address).toNat
      return (memory &&& keep) ||| (v &&& ~~~keep)
    else
      let above ← bitsAboveChecked address
      let keep ← Checked.shiftRight 0xffffffff above.toNat
      return (memory &&& ~~~keep) ||| (← Checked.shiftRight v above.toNat)
  | wordRight => do
    let below ← bitsBelowChecked address
    if reverse then
      let take ← Checked.shiftRight 0xffffffff below.toNat
      return (memory &&& ~~~take) ||| (v &&& take)
    else
      let take ← Checked.shiftLeft 0xffffffff below.toNat
      return (memory &&& ~~~take) ||| (← Checked.shiftLeft v below.toNat)
  | _ => return v

theorem and_three_cases (address : Word) :
    address &&& 3 = 0 ∨ address &&& 3 = 1 ∨ address &&& 3 = 2 ∨ address &&& 3 = 3 := by
  have hle : (address &&& 3).toNat ≤ 3 := Nat.and_le_right
  simp only [← UInt32.toNat_inj]
  change _ = 0 ∨ _ = 1 ∨ _ = 2 ∨ _ = 3
  omega

theorem LoadOp.resultChecked_eq (op : LoadOp) (reverse : Bool) (address old memory : Word) :
    op.resultChecked reverse address old memory = .ok (op.result reverse address old memory) := by
  cases op with
  | wordLeft | wordRight =>
    simp only [resultChecked, result, bitsBelowChecked, bitsAboveChecked, bitsBelow]
    obtain h | h | h | h := and_three_cases address <;> rw [h] <;> cases reverse <;> rfl
  | _ => rfl

theorem StoreOp.mergedChecked_eq (op : StoreOp) (reverse : Bool) (address v memory : Word) :
    op.mergedChecked reverse address v memory = .ok (op.merged reverse address v memory) := by
  cases op with
  | wordLeft | wordRight =>
    simp only [mergedChecked, merged, bitsBelowChecked, bitsAboveChecked, bitsBelow]
    obtain h | h | h | h := and_three_cases address <;> rw [h] <;> cases reverse <;> rfl
  | _ => rfl

end R3000A
