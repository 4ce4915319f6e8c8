import Mathlib.Algebra.Group.Nat.Defs
import Mathlib.Algebra.Ring.Int.Defs
import R3000A.Proofs.Word.Signed

/-!
# Checked arithmetic

The commands of the geometry engine and the instructions compute over exact integers and over words.
A host has to compute in integers of some fixed size, where an exact result may not fit, a shift may
be by more than there are bits, and a divisor may be zero. The operations here carry the type of the
host's integers and fail in these cases. What they compute otherwise is the exact result, so a
computation that is carried out with them and does not fail is as good as one over exact integers.

Checked are the sums, differences, products, quotients and shifts that are meant to be exact or to
stay below the number of bits. What is meant to wrap or to lose bits (the operations on words and
the conversions to fewer bits) and comparisons cannot fail. The modules that build on this one begin
with a list of what each of their functions checks.

`Yields` says that a computation does not fail and bounds its result, which is what the next
operation needs to know.
-/

namespace R3000A

/-- Why an operation on integers of a fixed size fails. -/
inductive ArithmeticFault where
  /-- The exact result does not fit. -/
  | overflow
  /-- The amount of a shift is not below the number of bits. -/
  | shift
  | divisionByZero
  deriving DecidableEq, Repr

abbrev Checked (α : Type) := Except ArithmeticFault α

/-- A type of integers of a fixed size. -/
structure IntType where
  signed : Bool
  bits : Nat
  deriving DecidableEq, Repr

namespace IntType

def int32 : IntType := ⟨true, 32⟩

def int64 : IntType := ⟨true, 64⟩

def uint8 : IntType := ⟨false, 8⟩

def uint16 : IntType := ⟨false, 16⟩

def uint32 : IntType := ⟨false, 32⟩

def uint64 : IntType := ⟨false, 64⟩

def least (t : IntType) : Int := if t.signed then -2 ^ (t.bits - 1) else 0

def greatest (t : IntType) : Int := if t.signed then 2 ^ (t.bits - 1) - 1 else 2 ^ t.bits - 1

def Holds (t : IntType) (v : Int) : Prop := t.least ≤ v ∧ v ≤ t.greatest

instance (t : IntType) (v : Int) : Decidable (t.Holds v) :=
  inferInstanceAs (Decidable (t.least ≤ v ∧ v ≤ t.greatest))

end IntType

namespace Checked

theorem ok_bind {α γ : Type} (a : α) (f : α → Checked γ) :
    ((Except.ok a : Checked α) >>= f) = f a := rfl

/-- An exact result, if it fits. -/
def fit (t : IntType) (v : Int) : Checked Int := if t.Holds v then .ok v else .error .overflow

def amount (t : IntType) (n : Nat) : Checked Nat := if n < t.bits then .ok n else .error .shift

def add (t : IntType) (x y : Checked Int) : Checked Int := do fit t ((← x) + (← y))

def sub (t : IntType) (x y : Checked Int) : Checked Int := do fit t ((← x) - (← y))

def mul (t : IntType) (x y : Checked Int) : Checked Int := do fit t ((← x) * (← y))

/-- The sum of a term for each index, from the first index to the last. -/
def sum {ι : Type} (t : IntType) (is : List ι) (x : ι → Checked Int) : Checked Int :=
  is.foldl (fun acc i => add t acc (x i)) (pure 0)

/-- A shift to the left from which no bit may be lost. -/
def shl (t : IntType) (x : Checked Int) (n : Nat) : Checked Int := do
  fit t ((← x) * 2 ^ (← amount t n))

/-- A shift to the right, which rounds toward negative infinity. -/
def shr (t : IntType) (x : Checked Int) (n : Nat) : Checked Int := do
  return (← x) / 2 ^ (← amount t n)

def div (t : IntType) (x y : Checked Int) : Checked Int := do
  let a ← x
  let b ← y
  if b = 0 then throw .divisionByZero else fit t (a.tdiv b)

/-- A word shifted to the left. Only the amount is checked, the bits shifted out are lost. -/
def shiftLeft (w : Word) (n : Nat) : Checked Word := do
  return w <<< UInt32.ofNat (← amount .uint32 n)

def shiftRight (w : Word) (n : Nat) : Checked Word := do
  return w >>> UInt32.ofNat (← amount .uint32 n)

/-- An exact result that does not fit is a failure, and nothing else is. -/
theorem fit_eq_ok {t : IntType} {v : Int} : fit t v = .ok v ↔ t.Holds v := by
  rw [fit]
  split <;> simp [*]

example : add .int32 (pure 0x7fffffff) (pure 1) = .error .overflow := rfl

theorem amount_eq_ok {t : IntType} {n : Nat} : amount t n = .ok n ↔ n < t.bits := by
  rw [amount]
  split <;> simp [*]

theorem add_pure {t : IntType} {a b : Int} (h : t.Holds (a + b)) :
    add t (pure a) (pure b) = .ok (a + b) := fit_eq_ok.2 h

theorem sub_pure {t : IntType} {a b : Int} (h : t.Holds (a - b)) :
    sub t (pure a) (pure b) = .ok (a - b) := fit_eq_ok.2 h

/-! ### Results without a sign -/

section Unsigned

variable {t : IntType} {x y : Checked Int} {a b : Nat}

theorem holds_natCast (h : (a : Int) ≤ t.greatest) : t.Holds a := by
  have hpow : (0 : Int) < 2 ^ (t.bits - 1) := Int.pow_pos (by decide)
  refine ⟨?_, h⟩
  rw [IntType.least]
  split <;> omega

theorem mul_natCast (hx : x = .ok a) (hy : y = .ok b) (h : ((a * b : Nat) : Int) ≤ t.greatest) :
    mul t x y = .ok (a * b : Nat) := by
  rw [mul, hx, hy]
  exact fit_eq_ok.2 (holds_natCast h)

theorem shl_natCast (hx : x = .ok a) {k : Nat} (hk : k < t.bits)
    (h : ((a * 2 ^ k : Nat) : Int) ≤ t.greatest) : shl t x k = .ok (a * 2 ^ k : Nat) := by
  rw [shl, hx, amount_eq_ok.2 hk]
  exact fit_eq_ok.2 (holds_natCast h)

/-- A quotient is no more than what is divided. -/
theorem div_natCast (hx : x = .ok a) (hy : y = .ok b) (hb : 0 < b) (h : (a : Int) ≤ t.greatest) :
    div t x y = .ok (a / b : Nat) := by
  have hquotient : ((a / b : Nat) : Int) ≤ t.greatest :=
    Int.le_trans (Int.ofNat_le.2 (Nat.div_le_self a b)) h
  rw [div, hx, hy, ok_bind, ok_bind, if_neg (by omega)]
  exact fit_eq_ok.2 (holds_natCast hquotient)

end Unsigned

theorem shr_pure {t : IntType} (v : Int) {k : Nat} (hk : k < t.bits) :
    shr t (pure v) k = .ok (v / 2 ^ k) :=
  congrArg (· >>= fun n => pure (v / 2 ^ n)) (amount_eq_ok.2 hk)

theorem shiftLeft_eq (w : Word) {n : Nat} (h : n < 32) :
    shiftLeft w n = .ok (w <<< UInt32.ofNat n) :=
  congrArg (· >>= fun n => pure (w <<< UInt32.ofNat n)) (amount_eq_ok.2 h)

theorem shiftRight_eq (w : Word) {n : Nat} (h : n < 32) :
    shiftRight w n = .ok (w >>> UInt32.ofNat n) :=
  congrArg (· >>= fun n => pure (w >>> UInt32.ofNat n)) (amount_eq_ok.2 h)

/-! ### Bounded results -/

/-- The computation does not fail, and its result is `v`, which is no more than `n` away from
zero. -/
structure Yields (x : Checked Int) (v : Int) (n : Nat) : Prop where
  eq_ok : x = .ok v
  bound : v.natAbs ≤ n

theorem holds_int32 {v : Int} (hlo : -0x80000000 ≤ v) (hhi : v ≤ 0x7fffffff) :
    IntType.int32.Holds v := ⟨hlo, hhi⟩

theorem holds_int64 {v : Int} {n : Nat} (h : v.natAbs ≤ n) (hn : n < 2 ^ 63) :
    IntType.int64.Holds v := by
  change -2 ^ 63 ≤ v ∧ v ≤ 2 ^ 63 - 1
  omega

namespace Yields

variable {x y : Checked Int} {a b : Int} {m n : Nat}

theorem of_le (h : a.natAbs ≤ n) : Yields (pure a) a n := ⟨rfl, h⟩

theorem cast (hx : Yields x a m) (h : a = b) : Yields x b m := h ▸ hx

/-- A bounded result fits. -/
theorem fit (h : a.natAbs ≤ n) (hn : n < 2 ^ 63) : Yields (fit .int64 a) a n :=
  ⟨fit_eq_ok.2 (holds_int64 h hn), h⟩

theorem add (hx : Yields x a m) (hy : Yields y b n) (h : m + n < 2 ^ 63) :
    Yields (add .int64 x y) (a + b) (m + n) := by
  have hbound : (a + b).natAbs ≤ m + n :=
    Nat.le_trans (Int.natAbs_add_le a b) (Nat.add_le_add hx.bound hy.bound)
  rw [Checked.add, hx.eq_ok, hy.eq_ok]
  exact fit hbound h

theorem sub (hx : Yields x a m) (hy : Yields y b n) (h : m + n < 2 ^ 63) :
    Yields (sub .int64 x y) (a - b) (m + n) := by
  have hbound : (a - b).natAbs ≤ m + n :=
    Nat.le_trans (Int.natAbs_sub_le a b) (Nat.add_le_add hx.bound hy.bound)
  rw [Checked.sub, hx.eq_ok, hy.eq_ok]
  exact fit hbound h

theorem mul (hx : Yields x a m) (hy : Yields y b n) (h : m * n < 2 ^ 63) :
    Yields (mul .int64 x y) (a * b) (m * n) := by
  have hbound : (a * b).natAbs ≤ m * n := by
    rw [Int.natAbs_mul]
    exact Nat.mul_le_mul hx.bound hy.bound
  rw [Checked.mul, hx.eq_ok, hy.eq_ok]
  exact fit hbound h

theorem shl (hx : Yields x a m) {k : Nat} (hk : k < 64) (h : m * 2 ^ k < 2 ^ 63) :
    Yields (shl .int64 x k) (a * 2 ^ k) (m * 2 ^ k) := by
  have hbound : (a * 2 ^ k).natAbs ≤ m * 2 ^ k := by
    rw [Int.natAbs_mul, Int.natAbs_pow]
    exact Nat.mul_le_mul_right _ hx.bound
  rw [Checked.shl, hx.eq_ok, amount_eq_ok.2 hk]
  exact fit hbound h

section Sum

variable {ι : Type} {t : ι → Checked Int} {v : ι → Int}

/-- Terms with a common bound are added onto `x`. -/
theorem foldl_add (h : ∀ i, Yields (t i) (v i) n) (is : List ι) (hx : Yields x a m)
    (hm : m + n * is.length < 2 ^ 63) :
    Yields (is.foldl (fun acc i => Checked.add .int64 acc (t i)) x) (a + (is.map v).sum)
      (m + n * is.length) := by
  -- A term that has been added is part of what the others are added onto, and so is its bound.
  induction is generalizing x a m with
  | nil => simpa using hx
  | cons i is ih =>
    have hbound : m + n * (i :: is).length = m + n + n * is.length := by
      rw [List.length_cons, Nat.mul_succ]
      omega
    rw [hbound] at hm ⊢
    rw [List.foldl_cons, List.map_cons, List.sum_cons, ← Int.add_assoc]
    exact ih (hx.add (h i) (by omega)) hm

theorem sum (h : ∀ i, Yields (t i) (v i) n) (is : List ι) (hn : n * is.length < 2 ^ 63) :
    Yields (sum .int64 is t) (is.map v).sum (n * is.length) := by
  have hsum := foldl_add h is (of_le (a := 0) (Nat.le_refl 0)) (by omega)
  rwa [Int.zero_add, Nat.zero_add] at hsum

end Sum

/-- A shift to the right does not lead away from zero. -/
theorem shr (hx : Yields x a m) {t : IntType} {k : Nat} (hk : k < t.bits) :
    Yields (shr t x k) (a >>> k) m := by
  rw [Int.shiftRight_eq_div_pow]
  refine ⟨?_, Nat.le_trans (Int.natAbs_ediv_le_natAbs _ _) hx.bound⟩
  rw [Checked.shr, hx.eq_ok, amount_eq_ok.2 hk, Int.natCast_pow]
  rfl

end Yields

end Checked

end R3000A
