import R3000A.Proofs.Exception.Precise
import R3000A.Proofs.Instruction.Arithmetic

/-!
# Integer arithmetic

What the arithmetic instructions do, from the word in memory to the registers after the step. An
instruction that is completed writes one general purpose register or HI and LO, with an outstanding
load done before; one that is refused writes nothing, with the load done all the same. The results
are told in integers (`Sums`, `Wraps`) or, for HI and LO, left to be told (`SetsHiLo`).
-/

namespace R3000A

namespace Instruction

def HasOperation (w : Word) (n : Nat) : Prop := (w >>> 26).toNat = n

/-- The word has operation code 0 and function code `n`. -/
def HasFunction (w : Word) (n : Nat) : Prop := HasOperation w 0 ∧ (w &&& 0x3f).toNat = n

instance (w : Word) (n : Nat) : Decidable (HasOperation w n) := inferInstanceAs (Decidable (_ = _))

instance (w : Word) (n : Nat) : Decidable (HasFunction w n) := inferInstanceAs (Decidable (_ ∧ _))

section

variable {w : Word} {n : Nat} (op : AluOp) (signed : Bool)

theorem HasFunction.decode_eq (h : HasFunction w n) : decode w = special w := by
  have hop : (w >>> 26).toNat = 0 := h.1
  simp only [decode, hop]

/-- ADD, ADDU, SUB and SUBU. -/
theorem HasFunction.decode_alu (h : HasFunction w n)
    (hn : (n, op) ∈ [(0x20, AluOp.add), (0x21, .addu), (0x22, .sub), (0x23, .subu)]) :
    decode w = .alu op (rd w) (rs w) (.reg (rt w)) := by
  simp only [List.mem_cons, List.not_mem_nil, or_false, Prod.mk.injEq] at hn
  rw [h.decode_eq]
  rcases hn with ⟨rfl, rfl⟩ | ⟨rfl, rfl⟩ | ⟨rfl, rfl⟩ | ⟨rfl, rfl⟩ <;> simp only [special, h.2]

/-- ADDI and ADDIU. The latter is a call if its destination is register 0. -/
theorem HasOperation.decode_alu (h : HasOperation w n)
    (hn : (n, op) ∈ [(0x08, AluOp.add), (0x09, .addu)]) (hrt : op = .addu → rt w ≠ 0) :
    decode w = .alu op (rt w) (rs w) (.immediate (offset w)) := by
  have hcode : (w >>> 26).toNat = n := h
  simp only [List.mem_cons, List.not_mem_nil, or_false, Prod.mk.injEq] at hn
  rcases hn with ⟨rfl, rfl⟩ | ⟨rfl, rfl⟩
  · simp only [decode, hcode]
  · simp only [decode, hcode, if_neg (hrt rfl)]

/-- MULT and MULTU. -/
theorem HasFunction.decode_multiply (h : HasFunction w n)
    (hn : (n, signed) ∈ [(0x18, true), (0x19, false)]) :
    decode w = onlyIfZero (rd w) (.multiply signed (rs w) (rt w)) := by
  simp only [List.mem_cons, List.not_mem_nil, or_false, Prod.mk.injEq] at hn
  rw [h.decode_eq]
  rcases hn with ⟨rfl, rfl⟩ | ⟨rfl, rfl⟩ <;> simp only [special, h.2]

/-- DIV and DIVU. -/
theorem HasFunction.decode_divide (h : HasFunction w n)
    (hn : (n, signed) ∈ [(0x1a, true), (0x1b, false)]) :
    decode w = onlyIfZero (rd w) (.divide signed (rs w) (rt w)) := by
  simp only [List.mem_cons, List.not_mem_nil, or_false, Prod.mk.injEq] at hn
  rw [h.decode_eq]
  rcases hn with ⟨rfl, rfl⟩ | ⟨rfl, rfl⟩ <;> simp only [special, h.2]

theorem HasFunction.decode_destination (h : HasFunction w n) (hn : n ∈ [0x18, 0x19, 0x1a, 0x1b]) :
    ∃ i, decode w = onlyIfZero (rd w) i := by
  simp only [List.mem_cons, List.not_mem_nil, or_false] at hn
  rcases hn with rfl | rfl | rfl | rfl
  · exact ⟨_, h.decode_multiply true (by simp)⟩
  · exact ⟨_, h.decode_multiply false (by simp)⟩
  · exact ⟨_, h.decode_divide true (by simp)⟩
  · exact ⟨_, h.decode_divide false (by simp)⟩

end

end Instruction

namespace System

variable {β : Type}

/-! ### Ways to end -/

/-- The next instruction is completed: no exception is entered and nothing is outstanding any
more. -/
structure Retires (B : Bus β) (s : System β) : Prop where
  entered : (s.step B).cpu.entered = s.cpu.entered
  pc : (s.step B).cpu.core.pc = s.cpu.core.nextPc
  pending : (s.step B).cpu.core.hazard.pending = .none
  control : (s.step B).cpu.core.control = s.cpu.core.control
  geometry : (s.step B).cpu.core.geometry = s.cpu.core.geometry
  stopped : (s.step B).cpu.core.stopped = s.cpu.core.stopped
  bus : (s.step B).bus = (s.fetch B).bus

/-- The next instruction is completed and writes `v` into register `r`, unless that is
register 0. -/
structure Writes (B : Bus β) (s : System β) (r : Reg) (v : Word) : Prop where
  retires : s.Retires B
  regs : ∀ q, (s.step B).cpu.core.reg q =
    if q = 0 then 0 else if q = r then v else s.cpu.core.upcomingReg q
  hi : (s.step B).cpu.core.hi = s.cpu.core.hi
  lo : (s.step B).cpu.core.lo = s.cpu.core.lo

/-- The next instruction is completed and leaves `hi` and `lo` in HI and LO. -/
structure SetsHiLo (B : Bus β) (s : System β) (hi lo : Word) : Prop where
  retires : s.Retires B
  regs : ∀ q, (s.step B).cpu.core.reg q = s.cpu.core.upcomingReg q
  hi : (s.step B).cpu.core.hi = hi
  lo : (s.step B).cpu.core.lo = lo

/-- The next instruction raises an exception and writes nothing. -/
structure Refuses (B : Bus β) (s : System β) (f : Fault) : Prop where
  entered : (s.step B).cpu.entered = s.cpu.entered ++ [f.code]
  regs : ∀ q, (s.step B).cpu.core.reg q = s.cpu.core.upcomingReg q
  hi : (s.step B).cpu.core.hi = s.cpu.core.hi
  lo : (s.step B).cpu.core.lo = s.cpu.core.lo
  bus : (s.step B).bus = (s.fetch B).bus

/-- The next instruction overflows if and only if the signed range does not hold `exact`, and else
leaves `exact` in register `r`. -/
structure Sums (B : Bus β) (s : System β) (r : Reg) (exact : Int) : Prop where
  overflows : (s.step B).cpu.entered = s.cpu.entered ++ [.overflow] ↔ ¬Word.InSignedRange exact
  refuses : ¬Word.InSignedRange exact → s.Refuses B .overflow
  writes : Word.InSignedRange exact → ∃ v, v.signed = exact ∧ s.Writes B r v

/-- The next instruction leaves `exact`, up to multiples of 2³², in register `r`. -/
def Wraps (B : Bus β) (s : System β) (r : Reg) (exact : Int) : Prop :=
  ∃ v, (v.toNat : Int) = exact % 2 ^ 32 ∧ s.Writes B r v

section

variable {B : Bus β} {s : System β}

/-- An effect of the core alone that ends in moving on. -/
theorem retires_of_effect {e : Effect} (he : s.effect B = e)
    (hplain : e = .retire ∨ (∃ r v, e = .write r v) ∨ ∃ hi lo, e = .writeHiLo hi lo) :
    s.Retires B := by
  have hcore := core_step B s
  have hentered := entered_step B s
  have hbus := bus_step B s
  rw [he] at hcore hentered
  rw [instructionAnswer, he] at hcore hbus
  rcases hplain with rfl | ⟨r, v, rfl⟩ | ⟨hi, lo, rfl⟩
  all_goals
    simp only [Core.after, Core.write_eq, Core.advance_eq] at hcore
    constructor
    case entered => exact hentered.trans (List.append_nil _)
    case bus => exact hbus
    case pending =>
      rw [hcore]
      exact s.cpu.core.pending_settledHazard
    all_goals
      rw [hcore]
      rfl

theorem writes_of_effect {r : Reg} {v : Word} (he : s.effect B = .write r v) : s.Writes B r v := by
  have hcore := core_step B s
  rw [he, Core.after, Core.write_eq] at hcore
  constructor
  case retires => exact retires_of_effect he (.inr (.inl ⟨r, v, rfl⟩))
  case regs =>
    intro q
    rw [hcore, ← s.cpu.core.read_settledRegs q]
    simp only [Core.reg, Bank.read_write, eq_comm]
    rfl
  all_goals
    rw [hcore]
    rfl

theorem setsHiLo_of_effect {hi lo : Word} (he : s.effect B = .writeHiLo hi lo) :
    s.SetsHiLo B hi lo := by
  have hcore := core_step B s
  rw [he, Core.after, Core.advance_eq] at hcore
  constructor
  case retires => exact retires_of_effect he (.inr (.inr ⟨hi, lo, rfl⟩))
  case regs =>
    intro q
    rw [hcore, ← s.cpu.core.read_settledRegs q]
    rfl
  all_goals
    rw [hcore]

theorem setsHiLo_of_effect_eq_retire (he : s.effect B = .retire) :
    s.SetsHiLo B s.cpu.core.hi s.cpu.core.lo := by
  have hcore := core_step B s
  rw [he, Core.after, Core.advance_eq] at hcore
  constructor
  case retires => exact retires_of_effect he (.inl rfl)
  case regs =>
    intro q
    rw [hcore, ← s.cpu.core.read_settledRegs q]
    rfl
  all_goals
    rw [hcore]
    rfl

theorem refuses_of_effect {f : Fault} (he : s.effect B = .raise f none) : s.Refuses B f := by
  have hcore := core_step B s
  have hentered := entered_step B s
  have hbus := bus_step B s
  rw [he] at hentered
  rw [instructionAnswer, he] at hbus
  rw [he, Core.after, Core.link, Core.raise_eq] at hcore
  constructor
  case entered => exact hentered
  case bus => exact hbus
  case regs =>
    intro q
    rw [hcore, ← s.cpu.core.read_settledRegs q]
    rfl
  all_goals
    rw [hcore]
    rfl

/-! ### Results -/

theorem sums_of_effect {op : AluOp} {rd rs : Reg} {operand : Operand} {exact : Int}
    (hi : s.instruction B = .alu op rd rs operand)
    (hop : op.result? (s.cpu.core.reg rs) (operand.value s.cpu.core.regs) = Word.ofInt? exact) :
    s.Sums B rd exact := by
  by_cases hrange : Word.InSignedRange exact
  · have hwrites : s.Writes B rd (.ofInt exact) :=
      writes_of_effect (by rw [effect, hi, Core.effect, hop, Word.ofInt?_of_inSignedRange hrange])
    constructor
    case overflows => simp [hrange, hwrites.retires.entered]
    case refuses => exact fun h => absurd hrange h
    case writes => exact fun _ => ⟨_, Word.signed_ofInt_of_inSignedRange hrange, hwrites⟩
  · have hrefuses : s.Refuses B .overflow :=
      refuses_of_effect
        (by rw [effect, hi, Core.effect, hop, Word.ofInt?_of_not_inSignedRange hrange])
    exact ⟨iff_of_true hrefuses.entered hrange, fun _ => hrefuses, fun h => absurd h hrange⟩

theorem wraps_of_effect {op : AluOp} {rd rs : Reg} {operand : Operand} {v : Word} {exact : Int}
    (hi : s.instruction B = .alu op rd rs operand)
    (hop : op.result? (s.cpu.core.reg rs) (operand.value s.cpu.core.regs) = some v)
    (hv : (v.toNat : Int) = exact % 2 ^ 32) : s.Wraps B rd exact :=
  ⟨v, hv, writes_of_effect (by rw [effect, hi, Core.effect, hop])⟩

end

open Instruction (HasFunction HasOperation onlyIfZero rs rt rd)

/-! ### Groups of instructions -/

section

variable {B : Bus β} {s : System β} {n : Nat} (op : AluOp) (signed : Bool)

theorem sums_of_registers {exact : Int} (hw : HasFunction (s.fetchedWord B) n)
    (hn : (n, op) ∈ [(0x20, AluOp.add), (0x22, .sub)])
    (hop : op.result? (s.cpu.core.reg (rs (s.fetchedWord B)))
      (s.cpu.core.reg (rt (s.fetchedWord B))) = Word.ofInt? exact) :
    s.Sums B (rd (s.fetchedWord B)) exact :=
  sums_of_effect (hw.decode_alu op (by grind)) hop

theorem sums_of_constant (hw : HasOperation (s.fetchedWord B) 0x08) :
    s.Sums B (rt (s.fetchedWord B))
      ((s.cpu.core.reg (rs (s.fetchedWord B))).signed + (s.fetchedWord B).lowSigned) := by
  refine sums_of_effect (hw.decode_alu .add (by simp) (by simp)) ?_
  rw [← Word.signed_extendHalf]
  rfl

theorem wraps_of_registers {v : Word} {exact : Int} (hw : HasFunction (s.fetchedWord B) n)
    (hn : (n, op) ∈ [(0x21, AluOp.addu), (0x23, .subu)])
    (hop : op.result? (s.cpu.core.reg (rs (s.fetchedWord B)))
      (s.cpu.core.reg (rt (s.fetchedWord B))) = some v)
    (hv : (v.toNat : Int) = exact % 2 ^ 32) : s.Wraps B (rd (s.fetchedWord B)) exact :=
  wraps_of_effect (hw.decode_alu op (by grind)) hop hv

theorem wraps_of_constant (hw : HasOperation (s.fetchedWord B) 0x09)
    (hrt : rt (s.fetchedWord B) ≠ 0) :
    s.Wraps B (rt (s.fetchedWord B))
      ((s.cpu.core.reg (rs (s.fetchedWord B))).toNat + (s.fetchedWord B).lowSigned) := by
  refine wraps_of_effect (hw.decode_alu .addu (by simp) fun _ => hrt) rfl ?_
  have hoffset := (s.fetchedWord B).extendHalf.toNat_eq_signed_emod
  rw [Word.signed_extendHalf] at hoffset
  change ((s.cpu.core.reg _ + (s.fetchedWord B).extendHalf).toNat : Int) = _
  rw [Word.toNat_add_eq_emod, hoffset, Int.add_emod_emod]

/-- A multiplication or division that names a destination is illegal. -/
theorem refuses_of_destination (hn : n ∈ [0x18, 0x19, 0x1a, 0x1b])
    (hw : HasFunction (s.fetchedWord B) n) (hrd : rd (s.fetchedWord B) ≠ 0) :
    s.Refuses B .illegalInstruction := by
  obtain ⟨i, hi⟩ := hw.decode_destination hn
  have heffect : s.effect B = s.cpu.core.effect s.cpu.settings (onlyIfZero _ i) :=
    congrArg _ hi
  refine refuses_of_effect ?_
  rw [heffect, onlyIfZero, if_neg hrd]
  rfl

theorem setsHiLo_of_multiply (hw : HasFunction (s.fetchedWord B) n)
    (hn : (n, signed) ∈ [(0x18, true), (0x19, false)]) (hrd : rd (s.fetchedWord B) = 0) :
    let p := Core.product signed (s.cpu.core.reg (rs (s.fetchedWord B)))
      (s.cpu.core.reg (rt (s.fetchedWord B)))
    s.SetsHiLo B p.1 p.2 := by
  have hi : s.instruction B = .multiply signed _ _ :=
    (hw.decode_multiply signed hn).trans (if_pos hrd)
  exact setsHiLo_of_effect (by rw [effect, hi]; rfl)

theorem setsHiLo_of_divide (hw : HasFunction (s.fetchedWord B) n)
    (hn : (n, signed) ∈ [(0x1a, true), (0x1b, false)]) (hrd : rd (s.fetchedWord B) = 0)
    (hrt : s.cpu.core.reg (rt (s.fetchedWord B)) ≠ 0) :
    let q := Core.quotient signed (s.cpu.core.reg (rs (s.fetchedWord B)))
      (s.cpu.core.reg (rt (s.fetchedWord B)))
    s.SetsHiLo B q.1 q.2 := by
  have hi : s.instruction B = .divide signed _ _ :=
    (hw.decode_divide signed hn).trans (if_pos hrd)
  exact setsHiLo_of_effect (by rw [effect, hi, Core.effect, if_neg hrt])

theorem setsHiLo_of_divide_zero (hw : HasFunction (s.fetchedWord B) n)
    (hn : (n, signed) ∈ [(0x1a, true), (0x1b, false)]) (hrd : rd (s.fetchedWord B) = 0)
    (hrt : s.cpu.core.reg (rt (s.fetchedWord B)) = 0) :
    s.SetsHiLo B s.cpu.core.hi s.cpu.core.lo := by
  have hi : s.instruction B = .divide signed _ _ :=
    (hw.decode_divide signed hn).trans (if_pos hrd)
  exact setsHiLo_of_effect_eq_retire (by rw [effect, hi, Core.effect, if_pos hrt])

end

/-- Integer arithmetic is exact. ADD, ADDI and SUB leave the exact sum or difference of the signed
operands or overflow, ADDU, ADDIU and SUBU leave it up to multiples of 2³², MULT and MULTU leave the
whole product in HI and LO, and DIV and DIVU the remainder and the quotient. A division by zero
leaves HI and LO as they are. ADDIU with register 0 for a destination is a call instead. -/
theorem integer_arithmetic_exact (B : Bus β) (s : System β) :
    let w := s.fetchedWord B
    let a := s.cpu.core.reg (rs w)
    let b := s.cpu.core.reg (rt w)
    -- ADD, SUB and ADDI
    (HasFunction w 0x20 → s.Sums B (rd w) (a.signed + b.signed)) ∧
    (HasFunction w 0x22 → s.Sums B (rd w) (a.signed - b.signed)) ∧
    (HasOperation w 0x08 → s.Sums B (rt w) (a.signed + w.lowSigned)) ∧
    -- ADDU, SUBU and ADDIU
    (HasFunction w 0x21 → s.Wraps B (rd w) (a.toNat + b.toNat)) ∧
    (HasFunction w 0x23 → s.Wraps B (rd w) (a.toNat - b.toNat)) ∧
    (HasOperation w 0x09 → rt w ≠ 0 → s.Wraps B (rt w) (a.toNat + w.lowSigned)) ∧
    -- MULT, MULTU, DIV and DIVU
    (∀ n ∈ [0x18, 0x19, 0x1a, 0x1b], HasFunction w n → rd w ≠ 0 →
      s.Refuses B .illegalInstruction) ∧
    (HasFunction w 0x18 → rd w = 0 → ∃ hi lo, s.SetsHiLo B hi lo ∧
      Core.signedPair hi lo = a.signed * b.signed) ∧
    (HasFunction w 0x19 → rd w = 0 → ∃ hi lo, s.SetsHiLo B hi lo ∧
      Core.unsignedPair hi lo = a.toNat * b.toNat) ∧
    (HasFunction w 0x1a → rd w = 0 → b ≠ 0 → ∃ hi lo, s.SetsHiLo B hi lo ∧
      (hi = 0 ∨ hi.signed.sign = a.signed.sign) ∧ hi.signed.natAbs < b.signed.natAbs ∧
      (¬Core.DivisionOverflows a b → a.signed = lo.signed * b.signed + hi.signed) ∧
      (Core.DivisionOverflows a b → lo = 0x80000000 ∧ hi = 0)) ∧
    (HasFunction w 0x1b → rd w = 0 → b ≠ 0 → ∃ hi lo, s.SetsHiLo B hi lo ∧
      a.toNat = lo.toNat * b.toNat + hi.toNat ∧ hi.toNat < b.toNat) ∧
    (∀ n ∈ [0x1a, 0x1b], HasFunction w n → rd w = 0 → b = 0 →
      s.SetsHiLo B s.cpu.core.hi s.cpu.core.lo) := by
  intro w a b
  refine ⟨?add, ?sub, ?addi, ?addu, ?subu, ?addiu, ?illegal, ?mult, ?multu, ?div, ?divu, ?zero⟩
  case add => exact fun hw => sums_of_registers .add hw (by simp) rfl
  case sub => exact fun hw => sums_of_registers .sub hw (by simp) rfl
  case addi => exact sums_of_constant
  case addu =>
    exact fun hw => wraps_of_registers .addu hw (by simp) rfl (Word.toNat_add_eq_emod a b)
  case subu =>
    exact fun hw => wraps_of_registers .subu hw (by simp) rfl (Word.toNat_sub_eq_emod a b)
  case addiu => exact wraps_of_constant
  case illegal => exact fun n => refuses_of_destination
  case mult =>
    intro hw hrd
    exact ⟨_, _, setsHiLo_of_multiply true hw (by simp) hrd, Core.signedPair_product a b⟩
  case multu =>
    intro hw hrd
    exact ⟨_, _, setsHiLo_of_multiply false hw (by simp) hrd, Core.unsignedPair_product a b⟩
  case div =>
    intro hw hrd hb
    exact ⟨_, _, setsHiLo_of_divide true hw (by simp) hrd hb, Core.sign_remainder a hb,
      Core.remainder_lt a hb, Core.quotient_signed hb, Core.quotient_of_divisionOverflows⟩
  case divu =>
    intro hw hrd hb
    exact ⟨_, _, setsHiLo_of_divide false hw (by simp) hrd hb, Core.quotient_unsigned a hb⟩
  case zero =>
    intro n hn hw hrd hb
    simp only [List.mem_cons, List.not_mem_nil, or_false] at hn
    rcases hn with rfl | rfl
    · exact setsHiLo_of_divide_zero true hw (by simp) hrd hb
    · exact setsHiLo_of_divide_zero false hw (by simp) hrd hb

/-- The least signed number in register 1 and -1 in register 2, with a load into register 1
outstanding. -/
def leastByMinusOne : System Unit :=
  { cpu :=
      { core :=
          { regs := (Bank.zero.write 1 0x80000000).write 2 0xffffffff
            hazard := ⟨.load 1 (by decide), 5⟩ } }
    bus := () }

/-- ADD of both into register 1 overflows and leaves there what was loaded, and DIV of one by the
other leaves the quotient that no word holds. -/
theorem integer_arithmetic_exact_of_least :
    ((leastByMinusOne.step (Bus.constant 0x00220820)).cpu.entered = [.overflow] ∧
        (leastByMinusOne.step (Bus.constant 0x00220820)).cpu.core.reg 1 = 5) ∧
      (leastByMinusOne.step (Bus.constant 0x0022001a)).cpu.core.lo = 0x80000000 ∧
      (leastByMinusOne.step (Bus.constant 0x0022001a)).cpu.core.hi = 0 := by
  have hadd := (integer_arithmetic_exact (Bus.constant 0x00220820) leastByMinusOne).1 (by decide)
  have hrefuses := hadd.refuses (by decide)
  obtain ⟨-, -, -, -, -, -, -, -, -, hdiv, -, -⟩ :=
    integer_arithmetic_exact (Bus.constant 0x0022001a) leastByMinusOne
  obtain ⟨hi, lo, hsets, -, -, -, hleast⟩ := hdiv (by decide) (by decide) (by decide)
  obtain ⟨rfl, rfl⟩ := hleast (by decide)
  exact ⟨⟨hrefuses.entered, hrefuses.regs 1⟩, hsets.lo, hsets.hi⟩

end System

end R3000A
