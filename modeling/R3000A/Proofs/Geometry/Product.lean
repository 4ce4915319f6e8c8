import R3000A.Proofs.Geometry.Perspective

/-!
# The general product

One command multiplies a matrix by a vector and adds another vector, all of them chosen by fields of
its word. `Product` gives its results as its documentation does: sums over exact integers with floor
division, and the words of the registers that the fields choose. Its vector may be IR, which is also
where the result goes. The command computes just these sums (`command_mvmva`), for every word that
is one.
-/

namespace R3000A.Geometry

namespace Product

open Perspective (wrap limit Above Below Outside)

/-- The number in the `width` bits of a word from bit `low` on. -/
def field (low width : Nat) (w : Word) : Nat := w.toNat / 2 ^ low % 2 ^ width

/-! ### The documented product -/

/-- Nine signed halves in five words, row by row. Of the last word only the low half counts. -/
def unpacked (words : Fin 5 → Word) : Fin 3 → Fin 3 → Int
  | 0, 0 => (words 0).lowSigned
  | 0, 1 => (words 0).highSigned
  | 0, 2 => (words 1).lowSigned
  | 1, 0 => (words 1).highSigned
  | 1, 1 => (words 2).lowSigned
  | 1, 2 => (words 2).highSigned
  | 2, 0 => (words 3).lowSigned
  | 2, 1 => (words 3).highSigned
  | 2, 2 => (words 4).lowSigned

section

variable (g : Geometry) (w : Word)

/-- The matrix that bits 17 and 18 choose: rotation, lights, light colors or zero. -/
def matrix : Fin 3 → Fin 3 → Int :=
  match field 17 2 w with
  | 0 => unpacked fun n => g.control.read ⟨n, by omega⟩
  | 1 => unpacked fun n => g.control.read ⟨8 + n, by omega⟩
  | 2 => unpacked fun n => g.control.read ⟨16 + n, by omega⟩
  | _ => fun _ _ => 0

/-- The vector that bits 15 and 16 choose: one of the vertices, or IR. -/
def vector : Fin 3 → Int :=
  match field 15 2 w with
  | 0 => vertexOf (g.data.read 0) (g.data.read 1)
  | 1 => vertexOf (g.data.read 2) (g.data.read 3)
  | 2 => vertexOf (g.data.read 4) (g.data.read 5)
  | _ => fun lane => (g.data.read (irReg lane)).lowSigned

/-- The vector to add that bits 13 and 14 choose: translation, background, far color or zero. -/
def addend : Fin 3 → Int :=
  match field 13 2 w with
  | 0 => fun lane => (g.control.read ⟨5 + lane, by omega⟩).signed
  | 1 => fun lane => (g.control.read ⟨13 + lane, by omega⟩).signed
  | 2 => fun lane => (g.control.read ⟨21 + lane, by omega⟩).signed
  | _ => fun _ => 0

/-- The exact result. Bit 19 drops the fraction bits. -/
def total (lane : Fin 3) : Int :=
  (4096 * addend g w lane + (matrix g w lane 0 * vector g w 0 + matrix g w lane 1 * vector g w 1 +
    matrix g w lane 2 * vector g w 2)) / 2 ^ (12 * field 19 1 w)

def mac (lane : Fin 3) : Int := wrap (total g w lane)

/-- The least value of IR. Bit 10 asks for positive values. -/
def irLeast : Int := if field 10 1 w = 1 then 0 else -0x8000

def ir (lane : Fin 3) : Int := limit (irLeast w) 0x7fff (mac g w lane)

def OutOfRange (n : Nat) : Prop :=
  ∃ lane : Fin 3, (n = 30 - lane.val ∧ Above (total g w lane) ∨
    n = 27 - lane.val ∧ Below (total g w lane)) ∨
      n = 24 - lane.val ∧ Outside (irLeast w) 0x7fff (mac g w lane)

/-- The registers `k` are what the general product in `w` leaves of `g`. -/
structure Multiplies (k : Geometry) : Prop where
  mac : ∀ lane, (k.data.read (macReg lane)).signed = Product.mac g w lane
  ir : ∀ lane, (k.data.read (irReg lane)).signed = Product.ir g w lane
  data : ∀ r, (∀ lane, macReg lane ≠ r ∧ irReg lane ≠ r) → k.data.read r = g.data.read r
  control : ∀ r, r ≠ flagReg → k.control.read r = g.control.read r
  flag : ∀ n < 31, k.flags.bit n = true ↔ OutOfRange g w n
  error : k.flags.bit 31 = true ↔
    ∃ n, (23 ≤ n ∧ n ≤ 30 ∨ 13 ≤ n ∧ n ≤ 18) ∧ OutOfRange g w n

end

/-! ### Fields of the command -/

section

variable (w : Word)

theorem field_one {n : Nat} (hn : n < 32) : field n 1 w = (w.bit n).toNat :=
  (w.toNat_bit hn).symm

theorem field_two {n : Nat} (hn : n < 31) :
    field n 2 w = 2 * (w.bit (n + 1)).toNat + (w.bit n).toNat := by
  rw [w.toNat_bit (by omega), w.toNat_bit (by omega), Nat.pow_succ, ← Nat.div_div_eq_div_mul, field]
  omega

theorem shiftOf_eq : Operation.shiftOf w = 12 * field 19 1 w := by
  rw [field_one w (by decide), Operation.shiftOf]
  cases w.bit 19 <;> rfl

theorem irMin_eq : irMin (w.bit 10) = irLeast w := by
  rw [irLeast, field_one w (by decide), irMin]
  cases w.bit 10 <;> rfl

variable {w}

/-- A word of the general product is none of the fixed encodings, which have other functions. -/
theorem ofWord?_eq (hfunction : field 0 6 w = 0x12) (hcode : field 20 5 w = 0x04) :
    Operation.ofWord? w = some (.mvmva (Operation.shiftOf w) (Operation.matrixOf w)
      (Operation.vectorOf w) (Operation.addendOf w) (w.bit 10)) := by
  have hlow : (w &&& 0x3f).toNat = 0x12 := by
    rw [← hfunction, field, Nat.pow_zero, Nat.div_one]
    exact Word.toNat_and_low w rfl
  have hhigh : ((w >>> 20) &&& 0x1f).toNat = 0x04 := by
    rw [← hcode, field, ← Nat.shiftRight_eq_div_pow]
    exact Word.toNat_and_low (w >>> 20) rfl
  have hfixed : Operation.fixed.lookup (Operation.commandBits w) = none := by
    have hother : ∀ p ∈ Operation.fixed, (p.1 &&& 0x3f).toNat ≠ 0x12 := by decide
    rw [List.lookup_eq_none_iff]
    intro p hp
    rw [bne_iff_ne]
    intro heq
    exact hother p hp (by rw [← heq, Operation.commandBits_and w (by decide), hlow])
  rw [Operation.ofWord?, hfixed, Option.none_or, Operation.general?, hlow, hhigh]
  rfl

end

/-! ### What the fields choose -/

section

variable (g : Geometry) (w : Word)

theorem packedMatrix_eq (base : Fin 24) :
    g.packedMatrix base = unpacked fun n => g.control.read ⟨base + n, by omega⟩ := by
  funext row column
  match row, column with
  | 0, 0 => rfl
  | 0, 1 => rfl
  | 0, 2 => rfl
  | 1, 0 => rfl
  | 1, 1 => rfl
  | 1, 2 => rfl
  | 2, 0 => rfl
  | 2, 1 => rfl
  | 2, 2 => rfl

theorem matrix_matrixOf : g.matrix (Operation.matrixOf w) = matrix g w := by
  rw [matrix, field_two w (by decide), Operation.matrixOf]
  cases w.bit 18 <;> cases w.bit 17
  · exact (packedMatrix_eq g 0).trans (by simp)
  · exact packedMatrix_eq g 8
  · exact packedMatrix_eq g 16
  · rfl

theorem vector_vectorOf : g.vector (Operation.vectorOf w) = vector g w := by
  rw [vector, field_two w (by decide), Operation.vectorOf]
  cases w.bit 16 <;> cases w.bit 15
  · exact g.vertex_eq 0
  · exact g.vertex_eq 1
  · exact g.vertex_eq 2
  · rfl

theorem addend_addendOf : g.addend (Operation.addendOf w) = addend g w := by
  rw [addend, field_two w (by decide), Operation.addendOf]
  cases w.bit 14 <;> cases w.bit 13 <;> rfl

/-- The command multiplies what the documentation says, and does not read the flags. -/
theorem product_setFlags (bits : Word) :
    product (Operation.shiftOf w) ((g.setFlags bits).matrix (Operation.matrixOf w))
      ((g.setFlags bits).vector (Operation.vectorOf w))
      ((g.setFlags bits).addend (Operation.addendOf w)) = total g w := by
  have hread (r : Reg) (hr : r ≠ flagReg) := g.readControl_setFlags bits hr.symm
  have hmatrix (m : MatrixChoice) : (g.setFlags bits).matrix m = g.matrix m := by
    cases m with
    | rotation => exact packedMatrix_congr hread 0
    | lights => exact packedMatrix_congr hread 8
    | lightColors => exact packedMatrix_congr hread 16
    | zero => rfl
  have hvector (v : VectorChoice) : (g.setFlags bits).vector v = g.vector v := by
    cases v <;> rfl
  have haddend (c : AddendChoice) : (g.setFlags bits).addend c = g.addend c := by
    cases c with
    | translation => exact controlVector_congr hread 5
    | background => exact controlVector_congr hread 13
    | farColor => exact controlVector_congr hread 21
    | zero => rfl
  funext lane
  rw [hmatrix, hvector, haddend, matrix_matrixOf, vector_vectorOf, addend_addendOf, product,
    Int.shiftRight_eq_div_pow, shiftOf_eq]
  rfl

end

/-! ### The command -/

section

variable (g : Geometry) (w : Word)

/-- The product in MAC and IR, before the flags are summed up. -/
def multiplied : Geometry := (g.setFlags 0).setLanes (w.bit 10) (total g w)

theorem signed_irReg_multiplied (lane : Fin 3) :
    ((multiplied g w).data.read (irReg lane)).signed = ir g w lane := by
  have hbounds : -0x8000 ≤ irLeast w ∧ irLeast w ≤ 0 := by
    unfold irLeast
    omega
  have hclamp : clampIr (w.bit 10) (Word.ofInt (total g w lane)).signed = ir g w lane := by
    rw [clampIr, irMin_eq, clamp_eq_max_min (by omega), Word.signed_ofInt]
    rfl
  rw [multiplied, read_irReg_setLanes, hclamp]
  apply Word.signed_ofInt_of_mem <;> unfold ir limit <;> omega

theorem bit_flags_multiplied {n : Nat} (hn : n < 32) :
    (multiplied g w).flags.bit n = true ↔ OutOfRange g w n := by
  have hmac (lane : Fin 3) : (Word.ofInt (total g w lane)).signed = mac g w lane :=
    Word.signed_ofInt _
  simp only [multiplied, bit_flags_setLanes _ _ _ hn, flags_setFlags, Word.bit_zero,
    Bool.false_eq_true, false_or, hmac, irMin_eq]
  rfl

end

/-- The general product is what its documentation says, for every word that is one and for all
registers. -/
theorem command_mvmva (g : Geometry) {w : Word} (hfunction : field 0 6 w = 0x12)
    (hcode : field 20 5 w = 0x04) : ∃ k, g.command? w = some k ∧ Multiplies g w k := by
  have ho := ofWord?_eq hfunction hcode
  obtain ⟨o, hoperation⟩ : ∃ o, o = Operation.mvmva (Operation.shiftOf w) (Operation.matrixOf w)
    (Operation.vectorOf w) (Operation.addendOf w) (w.bit 10) := ⟨_, rfl⟩
  have hexecute : g.execute o =
      (multiplied g w).setFlags (Flag.summarize (multiplied g w).flags) := by
    have happly : (g.setFlags 0).apply o = multiplied g w := by
      rw [hoperation, multiplied, ← product_setFlags g w 0]
      rfl
    rw [execute, happly]
  have hcommanded := commanded_execute g o
  rw [hexecute] at hcommanded
  have hflag : ∀ n < 31, (Flag.summarize (multiplied g w).flags).bit n = true ↔
      OutOfRange g w n := fun n hn => by
    rw [Flag.bit_summarize_of_lt _ hn, bit_flags_multiplied g w (by omega)]
  refine ⟨_, by rw [command?, ho, ← hoperation, Option.map_some, hexecute], ?_⟩
  constructor
  case mac =>
    intro lane
    exact (congrArg Word.signed (read_macReg_setLanes ..)).trans (Word.signed_ofInt _)
  case ir => exact signed_irReg_multiplied g w
  case data => exact fun r hr => read_setLanes_of_ne _ _ _ hr
  case control => exact hcommanded.control
  case flag =>
    intro n hn
    rw [flags_setFlags]
    exact hflag n hn
  case error =>
    rw [hcommanded.error, flags_setFlags]
    exact exists_congr fun n => and_congr_right fun hn => hflag n (by omega)

/-- A translation that takes up 33 bits once it is scaled, and a light from behind. -/
def faraway : Geometry :=
  ((((Geometry.zero.writeControl 5 0x100000).writeControl 8 0xfffe0003).writeControl 9
    0xffff0000).writeData 9 5).writeData 10 7

/-- IR is multiplied without dropping fraction bits. What overflows MAC1 does not show in IR1, and
the negative MAC2 is kept from IR2. -/
theorem command_mvmva_of_faraway :
    ∃ k, faraway.command? 0x4a438412 = some k ∧ (k.data.read 25).signed = 1 ∧
      (k.data.read 9).signed = 1 ∧ (k.data.read 26).signed = -5 ∧ (k.data.read 10).signed = 0 ∧
      k.flags.bit 30 = true ∧ k.flags.bit 23 = true ∧ k.flags.bit 31 = true := by
  obtain ⟨k, hk, h⟩ := command_mvmva faraway (w := 0x4a438412) (by decide) (by decide)
  have habove : OutOfRange faraway 0x4a438412 30 :=
    ⟨0, Or.inl (Or.inl ⟨rfl, by unfold Above; decide⟩)⟩
  have hnegative : OutOfRange faraway 0x4a438412 23 :=
    ⟨1, Or.inr ⟨rfl, Or.inl (by decide)⟩⟩
  exact ⟨k, hk, (h.mac 0).trans (by decide), (h.ir 0).trans (by decide),
    (h.mac 1).trans (by decide), (h.ir 1).trans (by decide), (h.flag 30 (by decide)).2 habove,
    (h.flag 23 (by decide)).2 hnegative, h.error.2 ⟨30, by decide, habove⟩⟩

end Product

end R3000A.Geometry
