import R3000A.Proofs.Ram.Access

/-!
# Words across a word boundary

A word at any address is moved by two instructions: LWR or SWR at its first byte and LWL or SWL at
its last one. Each moves the bytes that the word shares with the aligned word around that end
(`WordEnd.Shares`) and leaves the others alone. Between them they reach every byte, so that nothing
is left of what was there before, whichever comes first.
-/

namespace R3000A

/-! ### Aligned words -/

namespace Word

theorem toNat_and_three (a : Word) : (a &&& 3).toNat = a.toNat % 4 :=
  toNat_and_low (n := 2) a rfl

def position (a : Word) : Fin 4 := ⟨a.toNat % 4, Nat.mod_lt _ (by decide)⟩

theorem val_position (a : Word) : (position a).val = a.toNat % 4 := rfl

theorem and_three (a : Word) : a &&& 3 = UInt32.ofNat (position a) :=
  UInt32.ofNat_toNat.symm.trans (congrArg UInt32.ofNat (toNat_and_three a))

theorem toNat_and_not_three (a : Word) : (a &&& ~~~3).toNat = 4 * (a.toNat / 4) := by
  have hapart : (a &&& ~~~3) &&& (a &&& 3) = 0 := by
    rw [UInt32.and_assoc, UInt32.and_comm a 3, ← UInt32.and_assoc (~~~3), UInt32.not_and_self,
      UInt32.zero_and, UInt32.and_zero]
  have hsum : (a &&& ~~~3) + (a &&& 3) = a := by
    rw [add_eq_or hapart, ← and_or]
    exact UInt32.and_neg_one
  have hle : (a &&& ~~~3).toNat ≤ a.toNat := by
    rw [UInt32.toNat_and]
    exact Nat.and_le_left
  have hnat := congrArg UInt32.toNat hsum
  rw [UInt32.toNat_add, toNat_and_three] at hnat
  omega

end Word

/-! ### Merged bytes -/

theorem bitsBelow_eq (a : Word) : bitsBelow a = 8 * UInt32.ofNat (Word.position a) := by
  rw [bitsBelow, Word.and_three, UInt32.mul_comm]

theorem sub_eight_mul (o : Fin 4) : (24 - 8 * UInt32.ofNat o : Word) = 8 * UInt32.ofNat o.rev := by
  revert o
  decide

theorem LoadOp.byte_wordRight (a old memory : Word) (i : Fin 4) :
    (LoadOp.wordRight.result false a old memory).byte i =
      if h : i + (Word.position a).val < 4 then memory.byte ⟨i + Word.position a, h⟩
      else old.byte i := by
  have hmask : ∀ o i : Fin 4, (~~~((0xffffffff : Word) >>> (8 * UInt32.ofNat o))).byte i =
      if i + o.val < 4 then 0 else -1 := by decide
  change ((old &&& ~~~(0xffffffff >>> bitsBelow a)) ||| (memory >>> bitsBelow a)).byte i = _
  rw [bitsBelow_eq, Word.byte_or, Word.byte_and, hmask, Word.byte_shiftRight]
  split <;> simp

theorem LoadOp.byte_wordLeft (a old memory : Word) (i : Fin 4) :
    (LoadOp.wordLeft.result false a old memory).byte i =
      if (Word.position a).rev ≤ i then memory.byte (i - (Word.position a).rev)
      else old.byte i := by
  have hmask : ∀ o i : Fin 4, ((0x00ffffff : Word) >>> (8 * UInt32.ofNat o)).byte i =
      if o.rev ≤ i then 0 else -1 := by decide
  change ((old &&& (0x00ffffff >>> bitsBelow a)) ||| (memory <<< (24 - bitsBelow a))).byte i = _
  rw [bitsBelow_eq, sub_eight_mul, Word.byte_or, Word.byte_and, hmask, Word.byte_shiftLeft]
  split <;> simp

theorem StoreOp.byte_wordRight (a v memory : Word) (j : Fin 4) :
    (StoreOp.wordRight.merged false a v memory).byte j =
      if Word.position a ≤ j then v.byte (j - Word.position a) else memory.byte j := by
  have hmask : ∀ o j : Fin 4, (~~~((0xffffffff : Word) <<< (8 * UInt32.ofNat o))).byte j =
      if o ≤ j then 0 else -1 := by decide
  change ((memory &&& ~~~(0xffffffff <<< bitsBelow a)) ||| (v <<< bitsBelow a)).byte j = _
  rw [bitsBelow_eq, Word.byte_or, Word.byte_and, hmask, Word.byte_shiftLeft]
  split <;> simp

theorem StoreOp.byte_wordLeft (a v memory : Word) (j : Fin 4) :
    (StoreOp.wordLeft.merged false a v memory).byte j =
      if h : j + (Word.position a).rev.val < 4 then v.byte ⟨j + (Word.position a).rev, h⟩
      else memory.byte j := by
  have hmask : ∀ k j : Fin 4, (~~~((0xffffffff : Word) >>> (8 * UInt32.ofNat k))).byte j =
      if j + k.val < 4 then 0 else -1 := by decide
  change ((memory &&& ~~~(0xffffffff >>> (24 - bitsBelow a))) |||
    (v >>> (24 - bitsBelow a))).byte j = _
  rw [bitsBelow_eq, sub_eight_mul, Word.byte_or, Word.byte_and, hmask, Word.byte_shiftRight]
  split <;> simp

/-! ### The ends of a word -/

/-- The two ends of a word in memory. -/
inductive WordEnd where
  | first
  | last

namespace WordEnd

/-- The distance of an end from the first byte. -/
def offset : WordEnd → Word
  | first => 0
  | last => 3

def load : WordEnd → LoadOp
  | first => .wordRight
  | last => .wordLeft

def store : WordEnd → StoreOp
  | first => .wordRight
  | last => .wordLeft

def other : WordEnd → WordEnd
  | first => last
  | last => first

def around (e : WordEnd) (a : Word) : Word := (a + e.offset) &&& ~~~3

/-- Byte `i` of the word at `a` is byte `j` of the aligned word around the end. -/
def Shares (e : WordEnd) (a : Word) (i j : Fin 4) : Prop :=
  e.around a + UInt32.ofNat j = a + UInt32.ofNat i

theorem shares_first {a : Word} {i j : Fin 4} :
    first.Shares a i j ↔ j.val = i + Word.position a := by
  have ha : a.toNat < 2 ^ 32 := a.toNat_lt
  rw [Shares, around, offset, UInt32.add_zero, ← UInt32.toNat_inj, UInt32.toNat_add,
    UInt32.toNat_add, Word.toNat_and_not_three, UInt32.toNat_ofNat', UInt32.toNat_ofNat',
    Word.val_position]
  omega

theorem shares_last {a : Word} {i j : Fin 4} :
    last.Shares a i j ↔ i.val = j + (Word.position (a + 3)).rev := by
  have ha : a.toNat < 2 ^ 32 := a.toNat_lt
  have hlast : (a + 3).toNat = (a.toNat + 3) % 2 ^ 32 := UInt32.toNat_add a 3
  rw [Shares, around, offset, ← UInt32.toNat_inj, UInt32.toNat_add, UInt32.toNat_add,
    Word.toNat_and_not_three, UInt32.toNat_ofNat', UInt32.toNat_ofNat', Fin.val_rev,
    Word.val_position, hlast]
  omega

/-- Every byte of a word is shared with the aligned word around one end or the other. -/
theorem shares_or_other (e : WordEnd) (a : Word) (i : Fin 4) :
    (∃ j, e.Shares a i j) ∨ ∃ j, e.other.Shares a i j := by
  have hends : (∃ j, first.Shares a i j) ∨ ∃ j, last.Shares a i j := by
    have hlast : (a + 3).toNat = (a.toNat + 3) % 2 ^ 32 := UInt32.toNat_add a 3
    by_cases h : i.val + a.toNat % 4 < 4
    · exact .inl ⟨⟨_, h⟩, shares_first.2 rfl⟩
    · have hfit : i.val + (a + 3).toNat % 4 - 3 < 4 := by omega
      refine .inr ⟨⟨_, hfit⟩, shares_last.2 ?_⟩
      rw [Fin.val_rev, Word.val_position]
      change i.val = i + (a + 3).toNat % 4 - 3 + (4 - ((a + 3).toNat % 4 + 1))
      omega
  cases e with
  | first => exact hends
  | last => exact hends.symm

/-- Byte `i` if the bytes of `x` are moved down by `k` over those of `y`. -/
theorem moved_down (x y : Fin 4 → UInt8) (k i : Fin 4) :
    (∀ j : Fin 4, j.val = i + k → (if h : i + k.val < 4 then x ⟨i + k, h⟩ else y i) = x j) ∧
      ((∀ j : Fin 4, j.val ≠ i + k) →
        (if h : i + k.val < 4 then x ⟨i + k, h⟩ else y i) = y i) := by
  refine ⟨fun j hj => ?_, fun h => dif_neg fun hlt => h ⟨_, hlt⟩ rfl⟩
  rw [dif_pos (hj ▸ j.isLt)]
  exact congrArg x (Fin.ext hj.symm)

/-- Byte `i` if the bytes of `x` are moved up by `k` over those of `y`. -/
theorem moved_up (x y : Fin 4 → UInt8) (k i : Fin 4) :
    (∀ j : Fin 4, i.val = j + k → (if k ≤ i then x (i - k) else y i) = x j) ∧
      ((∀ j : Fin 4, i.val ≠ j + k) → (if k ≤ i then x (i - k) else y i) = y i) := by
  constructor
  · intro j hj
    have hle : k ≤ i := by omega
    have hindex : i - k = j := by
      rw [Fin.ext_iff, Fin.sub_val_of_le hle]
      omega
    rw [if_pos hle, hindex]
  · intro h
    refine if_neg fun hle => h (i - k) ?_
    rw [Fin.sub_val_of_le hle]
    omega

theorem byte_load (e : WordEnd) (a old memory : Word) (i : Fin 4) :
    (∀ j, e.Shares a i j →
        (e.load.result false (a + e.offset) old memory).byte i = memory.byte j) ∧
      ((∀ j, ¬e.Shares a i j) →
        (e.load.result false (a + e.offset) old memory).byte i = old.byte i) := by
  cases e with
  | first =>
      simp only [shares_first]
      rw [load, offset, UInt32.add_zero, LoadOp.byte_wordRight]
      exact moved_down memory.byte old.byte (Word.position a) i
  | last =>
      simp only [shares_last]
      rw [load, offset, LoadOp.byte_wordLeft]
      exact moved_up memory.byte old.byte (Word.position (a + 3)).rev i

theorem byte_store (e : WordEnd) (a v memory : Word) (j : Fin 4) :
    (∀ i, e.Shares a i j →
        (e.store.merged false (a + e.offset) v memory).byte j = v.byte i) ∧
      ((∀ i, ¬e.Shares a i j) →
        (e.store.merged false (a + e.offset) v memory).byte j = memory.byte j) := by
  cases e with
  | first =>
      simp only [shares_first]
      rw [store, offset, UInt32.add_zero, StoreOp.byte_wordRight]
      exact moved_up v.byte memory.byte (Word.position a) j
  | last =>
      simp only [shares_last]
      rw [store, offset, StoreOp.byte_wordLeft]
      exact moved_down v.byte memory.byte (Word.position (a + 3)).rev j

def Reaches (e : WordEnd) (a : Word) (i : Fin 4) : Prop := ∃ j, e.Shares a i j

end WordEnd

/-! ### Half of the way -/

namespace Ram

/-- The bytes of `v` that `p` selects come from memory at `a`, and the others from `old`. -/
def Filled (p : Fin 4 → Prop) (a : Word) (m : Ram) (old v : Word) : Prop :=
  ∀ i, (p i → v.byte i = m.byte (a + UInt32.ofNat i)) ∧ (¬p i → v.byte i = old.byte i)

theorem filled_load (e : WordEnd) (m : Ram) (a old : Word) :
    Filled (e.Reaches a) a m old
      (e.load.result false (a + e.offset) old (m.read .word (e.around a))) := by
  intro i
  obtain ⟨hnew, hold⟩ := e.byte_load a old (m.read .word (e.around a)) i
  refine ⟨fun ⟨j, hj⟩ => ?_, fun h => hold fun j hj => h ⟨j, hj⟩⟩
  rw [hnew j hj, byte_read_word, hj]

theorem patched_store (e : WordEnd) (m : Ram) (a v : Word) :
    Patched (e.Reaches a) v.byte a m
      (m.write .word (e.around a)
        (e.store.merged false (a + e.offset) v (m.read .word (e.around a)))) := by
  have hword := m.patched_word (e.around a)
    (e.store.merged false (a + e.offset) v (m.read .word (e.around a)))
  constructor
  case new =>
    rintro i ⟨j, hj⟩
    rw [← hj, hword.new j trivial, (e.byte_store a v _ j).1 i hj]
  case old =>
    intro b hb
    by_cases haround : ∃ j : Fin 4, physical b = physical (e.around a + UInt32.ofNat j)
    · obtain ⟨j, hj⟩ := haround
      have hmissed (i : Fin 4) : ¬e.Shares a i j := fun hi =>
        hb i ⟨j, hi⟩ (hj.trans (congrArg physical hi))
      rw [byte_congr _ hj, byte_congr m hj, hword.new j trivial, (e.byte_store a v _ j).2 hmissed,
        byte_read_word]
    · exact hword.old b fun j _ hj => haround ⟨j, hj⟩

end Ram

namespace Core

/-- Base register `b` holds `a`, with the cache connected and the order of bytes not reversed. -/
structure Ready (c : Core) (b : Reg) (a : Word) : Prop where
  base : c.reg b = a
  zero : b = 0 → a = 0
  connected : c.control.status.bit 16 = false
  order : (c.control.status.bit 25 && c.control.status.bit 1) = false

variable {c : Core} {b rt : Reg} {a : Word}

theorem settledRegs_of_not_load (h : ∀ r hr, c.hazard.pending ≠ .load r hr) :
    c.settledRegs = c.regs := by
  cases hpending : c.hazard.pending with
  | load r hr => exact absurd hpending (h r hr)
  | _ => simp [settledRegs, hpending]

theorem Ready.fetched (h : c.Ready b a) (w : Word) : (c.fetched w).Ready b a :=
  ⟨h.base, h.zero, h.connected, h.order⟩

theorem reg_advance_of_not_load (h : ∀ r hr, c.hazard.pending ≠ .load r hr) (q : Reg) :
    c.advance.reg q = c.reg q := by
  rw [advance_eq, settledRegs_of_not_load h]
  rfl

theorem Ready.advance (h : c.Ready b a) (hload : ∀ r hr, c.hazard.pending ≠ .load r hr) :
    c.advance.Ready b a := by
  constructor
  case base => exact (reg_advance_of_not_load hload b).trans h.base
  case zero => exact h.zero
  all_goals rw [control_advance]
  case connected => exact h.connected
  case order => exact h.order

theorem Ready.writeDelayed (h : c.Ready b a) (hload : ∀ r hr, c.hazard.pending ≠ .load r hr)
    (hb : rt ≠ b) (v : Word) : (c.writeDelayed rt v).Ready b a := by
  have hreg : (c.writeDelayed rt v).reg b = a := by
    cases hslot : c.branchPending with
    | true =>
        rw [writeDelayed_of_branchPending c rt v hslot, settledRegs_of_not_load hload]
        exact h.base
    | false =>
        rw [writeDelayed_of_not_branchPending c rt v hslot, write_eq, settledRegs_of_not_load hload]
        change ((c.regs.write rt v).write 0 0).read b = a
        by_cases hzero : b = 0
        · rw [hzero, Bank.read_write_self, h.zero hzero]
        · rw [Bank.read_write_of_ne _ _ (Ne.symm hzero), Bank.read_write_of_ne _ _ hb]
          exact h.base
  constructor
  case base => exact hreg
  case zero => exact h.zero
  all_goals rw [control_writeDelayed]
  case connected => exact h.connected
  case order => exact h.order

end Core

namespace System

variable {s : System Ram} {b rt : Reg} {a x y : Word} {e : WordEnd}

/-- A load at one end takes the bytes that it reaches, and keeps what the register is about to hold
of the others. -/
theorem load_end (h : s.cpu.core.Ready b a) (hx : Instruction.decode x = .load e.load rt b e.offset)
    (hpasses : s.Passes x) :
    (s.issue Ram.bus x).bus = s.bus ∧
      ∃ v, (s.issue Ram.bus x).cpu.core = (s.cpu.core.fetched x).writeDelayed rt v ∧
        Ram.Filled (e.Reaches a) a s.bus (s.cpu.core.upcomingReg rt) v := by
  have haccesses : s.Accesses x (.load e.load rt) (a + e.offset) :=
    ⟨⟨b, e.offset, hx, by rw [h.base]⟩, h.connected, hpasses⟩
  have hfound : s.found e.load (a + e.offset) = s.bus.read .word (e.around a) := by
    cases e <;> rfl
  refine ⟨haccesses.bus_load, _, haccesses.core_load, ?_⟩
  rw [hfound, Core.reverseEndian_eq, h.order]
  exact Ram.filled_load e s.bus a _

/-- A store at one end leaves the bytes that it reaches. -/
theorem store_end (h : s.cpu.core.Ready b a)
    (hx : Instruction.decode x = .store e.store rt b e.offset) (hpasses : s.Passes x) :
    (s.issue Ram.bus x).cpu.core = (s.cpu.core.fetched x).advance ∧
      Ram.Patched (e.Reaches a) (s.cpu.core.reg rt).byte a s.bus (s.issue Ram.bus x).bus := by
  have haccesses : s.Accesses x (.store e.store rt) (a + e.offset) :=
    ⟨⟨b, e.offset, hx, by rw [h.base]⟩, h.connected, hpasses⟩
  refine ⟨haccesses.core_store, ?_⟩
  rw [haccesses.bus_store_of_merges (by cases e <;> rfl), Core.reverseEndian_eq, h.order]
  exact Ram.patched_store e s.bus a _

/-- Two loads, one at each end, bring the whole word. -/
theorem load_ends (hready : s.cpu.core.Ready b a)
    (hload : ∀ r hr, s.cpu.core.hazard.pending ≠ .load r hr) (hrt : rt ≠ 0) (hb : rt ≠ b)
    (hx : Instruction.decode x = .load e.load rt b e.offset)
    (hy : Instruction.decode y = .load e.other.load rt b e.other.offset) (hpx : s.Passes x)
    (hpy : (s.issue Ram.bus x).Passes y) (i : Fin 4) :
    (((s.issue Ram.bus x).issue Ram.bus y).cpu.core.reg rt).byte i =
      s.bus.byte (a + UInt32.ofNat i) := by
  obtain ⟨hbus, u, hcore, hfirst⟩ := load_end hready hx hpx
  have hready' : (s.issue Ram.bus x).cpu.core.Ready b a :=
    hcore ▸ (hready.fetched x).writeDelayed hload hb u
  obtain ⟨-, v, hcore', hsecond⟩ := load_end hready' hy hpy
  have hupcoming : (s.issue Ram.bus x).cpu.core.upcomingReg rt = u :=
    hcore ▸ Core.upcomingReg_writeDelayed _ hrt u
  have hslot : ((s.issue Ram.bus x).cpu.core.fetched y).branchPending = false :=
    hcore ▸ Core.branchPending_writeDelayed _ hrt u
  rw [hcore', Core.writeDelayed_of_not_branchPending _ _ _ hslot, Core.reg_write_self _ hrt]
  rw [hbus, hupcoming] at hsecond
  by_cases hother : e.other.Reaches a i
  · exact (hsecond i).1 hother
  · rw [(hsecond i).2 hother]
    exact (hfirst i).1 ((e.shares_or_other a i).resolve_right hother)

/-- Two stores, one at each end, leave the whole word and nothing else. -/
theorem store_ends (hready : s.cpu.core.Ready b a)
    (hload : ∀ r hr, s.cpu.core.hazard.pending ≠ .load r hr)
    (hx : Instruction.decode x = .store e.store rt b e.offset)
    (hy : Instruction.decode y = .store e.other.store rt b e.other.offset) (hpx : s.Passes x)
    (hpy : (s.issue Ram.bus x).Passes y) :
    Ram.Patched (fun _ => True) (s.cpu.core.reg rt).byte a s.bus
      ((s.issue Ram.bus x).issue Ram.bus y).bus := by
  obtain ⟨hcore, hfirst⟩ := store_end hready hx hpx
  have hready' : (s.issue Ram.bus x).cpu.core.Ready b a :=
    hcore ▸ (hready.fetched x).advance hload
  obtain ⟨-, hsecond⟩ := store_end hready' hy hpy
  have hreg : (s.issue Ram.bus x).cpu.core.reg rt = s.cpu.core.reg rt :=
    hcore ▸ Core.reg_advance_of_not_load (c := s.cpu.core.fetched x) hload rt
  rw [hreg] at hsecond
  exact (hfirst.trans hsecond).congr (fun i => iff_true_intro (e.shares_or_other a i))
    fun _ _ => rfl

/-- The word at any address `a` that a base register holds, across whatever boundary it lies, is
moved by one instruction at each end, the end `e` first. Two loads bring it, whatever the register
held and also if the first stands in a delay slot, and two stores leave it and nothing else. -/
theorem unaligned_pair (hready : s.cpu.core.Ready b a)
    (hload : ∀ r hr, s.cpu.core.hazard.pending ≠ .load r hr) (hrt : rt ≠ 0) (hb : rt ≠ b)
    (hpx : s.Passes x) (hpy : (s.issue Ram.bus x).Passes y) :
    let m := s.bus
    let s' := (s.issue Ram.bus x).issue Ram.bus y
    (Instruction.decode x = .load e.load rt b e.offset →
        Instruction.decode y = .load e.other.load rt b e.other.offset →
          s'.cpu.core.reg rt =
            Word.ofBytes [m.byte a, m.byte (a + 1), m.byte (a + 2), m.byte (a + 3)]) ∧
      (Instruction.decode x = .store e.store rt b e.offset →
        Instruction.decode y = .store e.other.store rt b e.other.offset →
          (∀ i : Fin 4, s'.bus.byte (a + UInt32.ofNat i) = (s.cpu.core.reg rt).byte i) ∧
            ∀ c, (∀ i : Fin 4, Ram.physical c ≠ Ram.physical (a + UInt32.ofNat i)) →
              s'.bus.byte c = m.byte c) := by
  intro m s'
  refine ⟨fun hx hy => ?_, fun hx hy => ?_⟩
  · have hbyte (i : Fin 4) : (s'.cpu.core.reg rt).byte i = m.byte (a + UInt32.ofNat i) :=
      load_ends hready hload hrt hb hx hy hpx hpy i
    have hfirst : a + UInt32.ofNat (0 : Fin 4) = a := UInt32.add_zero a
    rw [← Word.ofBytes_toBytes (s'.cpu.core.reg rt), Word.toBytes, hbyte, hbyte, hbyte, hbyte,
      hfirst]
    rfl
  · have hpatched := store_ends hready hload hx hy hpx hpy
    exact ⟨fun i => hpatched.new i trivial, fun c hc => hpatched.old c fun i _ => hc i⟩

/-- A system in the delay slot of a branch to 256, with 0x44332211 across the end of memory. -/
def acrossTheEnd : System Ram :=
  { cpu :=
      { core :=
          { regs := (Bank.zero.write 1 0xddccbbaa).write 2 0xfffffffe
            hazard := ⟨.branch, 256⟩ } }
    bus := ({} : Ram).write .word 0xfffffffe 0x44332211 }

/-- LWL in the slot and LWR at the target of the branch bring the word, and SWL and SWR replace
it. -/
theorem unaligned_pair_of_acrossTheEnd :
    acrossTheEnd.cpu.core.branchPending = true ∧
      Instruction.decode 0x88410003 = .load .wordLeft 1 2 3 ∧
      Instruction.decode 0x98410000 = .load .wordRight 1 2 0 ∧
      ((acrossTheEnd.issue Ram.bus 0x88410003).issue Ram.bus 0x98410000).cpu.core.reg 1 =
        0x44332211 ∧
      Instruction.decode 0xa8410003 = .store .wordLeft 1 2 3 ∧
      Instruction.decode 0xb8410000 = .store .wordRight 1 2 0 ∧
      ∀ i : Fin 4,
        ((acrossTheEnd.issue Ram.bus 0xa8410003).issue Ram.bus 0xb8410000).bus.byte
            (0xfffffffe + UInt32.ofNat i) = (0xddccbbaa : Word).byte i := by
  have hlwl : Instruction.decode 0x88410003 = .load .wordLeft 1 2 3 := by decide
  have hlwr : Instruction.decode 0x98410000 = .load .wordRight 1 2 0 := by decide
  have hswl : Instruction.decode 0xa8410003 = .store .wordLeft 1 2 3 := by decide
  have hswr : Instruction.decode 0xb8410000 = .store .wordRight 1 2 0 := by decide
  have hready : acrossTheEnd.cpu.core.Ready 2 0xfffffffe :=
    ⟨by decide, by decide, by decide, by decide⟩
  have hload : ∀ r hr, acrossTheEnd.cpu.core.hazard.pending ≠ .load r hr :=
    fun _ _ => Pending.noConfusion
  have hbyte (i : Fin 4) : acrossTheEnd.bus.byte (0xfffffffe + UInt32.ofNat i) =
      (0x44332211 : Word).byte i :=
    (Ram.patched_word {} 0xfffffffe 0x44332211).new i trivial
  refine ⟨by decide, hlwl, hlwr, ?_, hswl, hswr, ?_⟩
  · refine ((unaligned_pair (e := .last) hready hload (by decide) (by decide) (by decide)
      (by decide)).1 hlwl hlwr).trans ?_
    change Word.ofBytes (List.ofFn fun i : Fin 4 => acrossTheEnd.bus.byte
      (0xfffffffe + UInt32.ofNat i)) = _
    simp only [hbyte]
    decide
  · exact ((unaligned_pair (e := .last) hready hload (by decide) (by decide) (by decide)
      (by decide)).2 hswl hswr).1

end System

end R3000A
