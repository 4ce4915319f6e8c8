import Mathlib.Algebra.Order.Ring.Abs
import Mathlib.LinearAlgebra.Matrix.Determinant.Basic
import Mathlib.Tactic.GCongr
import Mathlib.Tactic.Ring
import R3000A.Proofs.Geometry.Result

/-!
# The winding of a triangle

The sign of a triangle's area tells which way round its corners are, and so which side of it is
seen. The command for it computes twice the area of the three points in the screen queue
(`winds_execute`), and a value that needs more than 32 bits is flagged. This does not happen to
points that a projection has pushed, since they lie on the screen: twice the area of a triangle in a
square is at most the area of the square (`abs_doubledArea_le`). How many of the newest points come
from projections is counted along what a program does (`Act.projected`), and with three of them the
command is exact, on the points as they are and in any other order.
-/

namespace R3000A.Geometry

namespace Winding

/-! ### Areas -/

/-- Twice the signed area of a triangle: the cross product of two of its sides. -/
def doubledArea (x y : Fin 3 → Int) : Int :=
  (x 1 - x 0) * (y 2 - y 0) - (x 2 - x 0) * (y 1 - y 0)

theorem doubledArea_eq_det (x y : Fin 3 → Int) :
    doubledArea x y = Matrix.det (Matrix.of fun n => ![1, x n, y n]) := by
  rw [Matrix.det_fin_three, doubledArea]
  simp only [Matrix.of_apply, Matrix.cons_val]
  ring

/-- The corners in another order have the same area up to the sign of that order. -/
theorem doubledArea_comp (x y : Fin 3 → Int) (σ : Equiv.Perm (Fin 3)) :
    doubledArea (x ∘ σ) (y ∘ σ) = Equiv.Perm.sign σ * doubledArea x y := by
  rw [doubledArea_eq_det, doubledArea_eq_det]
  exact Matrix.det_permute σ (Matrix.of fun n => ![1, x n, y n])

theorem abs_mul_add_mul_le {p q s t side : Int} (hs : |s| ≤ side) (ht : |t| ≤ side)
    (hpq : |p| + |q| ≤ side) : |p * s + q * t| ≤ side * side := by
  have hside : 0 ≤ side := (abs_nonneg s).trans hs
  calc |p * s + q * t| ≤ |p * s| + |q * t| := abs_add_le _ _
    _ = |p| * |s| + |q| * |t| := by rw [abs_mul, abs_mul]
    _ ≤ |p| * side + |q| * side := by gcongr
    _ = (|p| + |q|) * side := by ring
    _ ≤ side * side := by gcongr

/-- A triangle in a square. -/
theorem abs_doubledArea_le {x y : Fin 3 → Int} {lo hi : Int} (hx : ∀ n, lo ≤ x n ∧ x n ≤ hi)
    (hy : ∀ n, lo ≤ y n ∧ y n ≤ hi) : |doubledArea x y| ≤ (hi - lo) * (hi - lo) := by
  have hside (m n : Fin 3) : |y m - y n| ≤ hi - lo := by
    have hm := hy m
    have hn := hy n
    rw [abs_le]
    omega
  -- One of the corners is between the other two from left to right, and the area is a sum over its
  -- distances to them.
  have hbetween : |x 1 - x 0| + |x 2 - x 1| ≤ hi - lo ∨ |x 2 - x 1| + |x 0 - x 2| ≤ hi - lo ∨
      |x 0 - x 2| + |x 1 - x 0| ≤ hi - lo := by
    have h0 := hx 0
    have h1 := hx 1
    have h2 := hx 2
    grind
  rcases hbetween with h | h | h
  · have harea : doubledArea x y = (x 1 - x 0) * (y 2 - y 1) + (x 2 - x 1) * (y 0 - y 1) := by
      rw [doubledArea]
      ring
    rw [harea]
    exact abs_mul_add_mul_le (hside 2 1) (hside 0 1) h
  · have harea : doubledArea x y = (x 2 - x 1) * (y 0 - y 2) + (x 0 - x 2) * (y 1 - y 2) := by
      rw [doubledArea]
      ring
    rw [harea]
    exact abs_mul_add_mul_le (hside 0 2) (hside 1 2) h
  · have harea : doubledArea x y = (x 0 - x 2) * (y 1 - y 0) + (x 1 - x 0) * (y 2 - y 0) := by
      rw [doubledArea]
      ring
    rw [harea]
    exact abs_mul_add_mul_le (hside 1 0) (hside 2 0) h

/-! ### The command -/

/-- Twice the signed area of the triangle in the screen queue. -/
def area (g : Geometry) : Int := doubledArea g.screenX g.screenY

theorem winding_eq_area (g : Geometry) : g.winding = area g := by
  rw [winding, area, doubledArea]
  ring

/-- The registers hold `a` as far as 32 bits do, and the flags tell on which side it leaves them. -/
structure Winds (a : Int) (k : Geometry) : Prop where
  mac0 : (k.data.read mac0Reg).signed = a.bmod (2 ^ 32)
  flag : ∀ n < 31, k.flags.bit n = true ↔ n = 16 ∧ 0x7fffffff < a ∨ n = 15 ∧ a < -0x80000000
  error : k.flags.bit 31 = true ↔ 0x7fffffff < a ∨ a < -0x80000000

/-- The registers hold `a` itself, and no flag is set. -/
structure WindsExactly (a : Int) (k : Geometry) : Prop where
  mac0 : (k.data.read mac0Reg).signed = a
  flags : k.flags = 0

theorem winds_execute (g : Geometry) : Winds (area g) (g.execute .nclip) := by
  have hexecute : g.execute .nclip =
      ((g.setFlags 0).setMac0 (area g)).setFlags (Flag.summarize (mac0Flag (area g))) := by
    have hflags : ((g.setFlags 0).setMac0 (area g)).flags = mac0Flag (area g) := by
      rw [flags_setMac0, flags_setFlags, UInt32.zero_or]
    rw [← hflags, ← winding_eq_area]
    rfl
  have hflag : ∀ n < 31, (g.execute .nclip).flags.bit n = true ↔
      n = 16 ∧ 0x7fffffff < area g ∨ n = 15 ∧ area g < -0x80000000 := by
    intro n hn
    rw [hexecute, flags_setFlags, Flag.bit_summarize_of_lt _ hn, bit_mac0Flag (by omega)]
  refine ⟨?_, hflag, ?_⟩
  · have hmac0 : (g.execute .nclip).data.read mac0Reg = Word.ofInt (area g) := by
      rw [hexecute]
      exact (read_setMac0 ..).trans (if_pos rfl)
    rw [hmac0, Word.signed_ofInt]
  · rw [(commanded_execute g .nclip).error]
    constructor
    · rintro ⟨n, hn, hbit⟩
      exact ((hflag n (by omega)).1 hbit).imp And.right And.right
    · rintro (habove | hbelow)
      · exact ⟨16, by decide, (hflag 16 (by decide)).2 (.inl ⟨rfl, habove⟩)⟩
      · exact ⟨15, by decide, (hflag 15 (by decide)).2 (.inr ⟨rfl, hbelow⟩)⟩

theorem Winds.exactly {a : Int} {k : Geometry} (h : Winds a k) (ha : |a| ≤ 2047 * 2047) :
    WindsExactly a k := by
  have hrange := abs_le.1 ha
  constructor
  · rw [h.mac0, Int.bmod]
    omega
  · refine Word.eq_of_bits fun n hn => ?_
    have hbit : k.flags.bit n = false := by
      refine Bool.eq_false_iff.2 fun hset => ?_
      by_cases hlow : n < 31
      · have hside := (h.flag n hlow).1 hset
        omega
      · obtain rfl : n = 31 := by omega
        have hside := h.error.1 hset
        omega
    rw [← Word.bit_eq_getLsbD _ hn, ← Word.bit_eq_getLsbD _ hn, hbit, Word.bit_zero]

/-! ### Points on the screen -/

def OnScreen (p : Word) : Prop :=
  (-0x400 ≤ p.lowSigned ∧ p.lowSigned ≤ 0x3ff) ∧ -0x400 ≤ p.highSigned ∧ p.highSigned ≤ 0x3ff

theorem onScreen_ofHalves (x y : Int) :
    OnScreen (Word.ofHalves (Word.ofInt (clampScreen x)).toUInt16
      (Word.ofInt (clampScreen y)).toUInt16) := by
  have hrange (v : Int) : -0x400 ≤ clampScreen v ∧ clampScreen v ≤ 0x3ff :=
    ⟨le_clamp (by decide) v, clamp_le (by decide) v⟩
  have hhalf (v : Int) : (Word.ofInt (clampScreen v)).lowSigned = clampScreen v :=
    Word.lowSigned_ofInt_of_mem (by have := hrange v; omega) (by have := hrange v; omega)
  rw [OnScreen, Word.lowSigned_ofHalves, Word.highSigned_ofHalves]
  change (-0x400 ≤ (Word.ofInt (clampScreen x)).lowSigned ∧
      (Word.ofInt (clampScreen x)).lowSigned ≤ 0x3ff) ∧
    -0x400 ≤ (Word.ofInt (clampScreen y)).lowSigned ∧
      (Word.ofInt (clampScreen y)).lowSigned ≤ 0x3ff
  rw [hhalf, hhalf]
  exact ⟨hrange x, hrange y⟩

theorem exists_read_projectPoint (g : Geometry) (z : Nat) :
    ∃ p, OnScreen p ∧ ∀ m,
      (g.projectPoint z).data.read (screenReg m) = (g.pushScreen p).data.read (screenReg m) := by
  obtain ⟨p, hp⟩ : ∃ p, p = Word.ofHalves
      (Word.ofInt (clampScreen ((g.offsetX + g.ir 0 * perspective g.plane z) / 65536))).toUInt16
      (Word.ofInt (clampScreen ((g.offsetY + g.ir 1 * perspective g.plane z) / 65536))).toUInt16 :=
    ⟨_, rfl⟩
  refine ⟨p, hp ▸ onScreen_ofHalves _ _, fun m => ?_⟩
  rw [projectPoint, read_setIr0, if_neg (by revert m; decide), read_setMac0,
    if_neg (by revert m; decide), data_raise, hp]

/-- A projection comes to the queue in its last steps. -/
theorem exists_project_eq (n : Fin 3) (g : Geometry) :
    ∃ (k : Geometry) (z : Nat), g.project n = k.projectPoint z ∧
      ∀ m, k.data.read (screenReg m) = g.data.read (screenReg m) := by
  refine ⟨_, _, rfl, fun m => ?_⟩
  rw [data_raise, read_pushDepth_of_ne _ _ (by revert m; decide),
    read_setLanes_of_ne _ _ _ (by revert m; decide)]

/-- A projection moves the queue on and puts a point of the screen at its end. -/
theorem read_screenReg_project (n : Fin 3) (g : Geometry) :
    (g.project n).data.read (screenReg 0) = g.data.read (screenReg 1) ∧
      (g.project n).data.read (screenReg 1) = g.data.read (screenReg 2) ∧
      OnScreen ((g.project n).data.read (screenReg 2)) := by
  obtain ⟨k, z, hproject, hk⟩ := exists_project_eq n g
  obtain ⟨p, hp, hpushed⟩ := exists_read_projectPoint k z
  obtain ⟨holdest, hmiddle, hnewest⟩ := read_pushScreen k p
  rw [hproject, hpushed, hpushed, hpushed, holdest, hmiddle, hnewest, hk, hk]
  exact ⟨rfl, rfl, hp⟩

/-- The last `n` points of the queue lie on the screen, or all three if there are no more. -/
def Shown (n : Nat) (g : Geometry) : Prop :=
  ∀ m : Fin 3, 3 ≤ n + m.val → OnScreen (g.data.read (screenReg m))

theorem Shown.congr {n : Nat} {g k : Geometry} (h : Shown n g)
    (hsame : ∀ m, k.data.read (screenReg m) = g.data.read (screenReg m)) : Shown n k := by
  intro m hm
  rw [hsame]
  exact h m hm

theorem Shown.project {n : Nat} {g : Geometry} (h : Shown n g) (v : Fin 3) :
    Shown (n + 1) (g.project v) := by
  obtain ⟨holdest, hmiddle, hnewest⟩ := read_screenReg_project v g
  intro m hm
  have hm' : m = 0 ∨ m = 1 ∨ m = 2 := by omega
  rcases hm' with rfl | rfl | rfl
  · rw [holdest]
    exact h 1 (by omega)
  · rw [hmiddle]
    exact h 2 (by omega)
  · exact hnewest

theorem abs_area_le {g : Geometry} (h : Shown 3 g) : |area g| ≤ 2047 * 2047 :=
  abs_doubledArea_le (fun n => (h n (by omega)).1) fun n => (h n (by omega)).2

/-! ### Programs -/

/-- What a program does to the geometry engine. -/
inductive Act where
  | command (w : Word)
  | writeData (r : Reg) (v : Word)
  | writeControl (r : Reg) (v : Word)

namespace Act

def run (g : Geometry) : Act → Geometry
  | command w => Geometry.run w g
  | writeData r v => g.writeData r v
  | writeControl r v => g.writeControl r v

/-- How many of the newest points come from projections after an act, if `n` of them did before. A
write to one of the screen registers, 12 to 15, starts over. -/
def projected (n : Nat) : Act → Nat
  | command w =>
    match Operation.ofWord? w with
    | some .rtps => n + 1
    | some .rtpt => n + 3
    | _ => n
  | writeData r _ => if 12 ≤ r.val ∧ r.val ≤ 15 then 0 else n
  | writeControl _ _ => n

end Act

theorem read_screenReg_writeData (g : Geometry) {r : Reg} (hr : ¬(12 ≤ r.val ∧ r.val ≤ 15))
    (v : Word) (m : Fin 3) :
    (g.writeData r v).data.read (screenReg m) = g.data.read (screenReg m) := by
  have hne : r ≠ screenReg m := by
    rintro rfl
    exact hr (by revert m; decide)
  have hfar : ∀ m, irReg 0 ≠ screenReg m ∧ irReg 1 ≠ screenReg m ∧ irReg 2 ≠ screenReg m ∧
      countReg ≠ screenReg m := by decide
  obtain ⟨h0, h1, h2, hcount⟩ := hfar m
  unfold writeData
  split
  case h_1 hval => omega
  case h_2 => simp only [Bank.read_write_of_ne _ _ h0, Bank.read_write_of_ne _ _ h1,
    Bank.read_write_of_ne _ _ h2, Bank.read_write_of_ne _ _ hne]
  case h_3 => simp only [Bank.read_write_of_ne _ _ hcount, Bank.read_write_of_ne _ _ hne]
  case h_4 => exact Bank.read_write_of_ne _ _ hne

theorem Shown.execute {n : Nat} {g : Geometry} (h : Shown n g) {o : Operation}
    (ho : o.projects = false) : Shown n (g.execute o) := by
  refine h.congr fun m => (commanded_execute g o).data _ ?_
  have hscreen : (screenReg m).val = 12 ∨ (screenReg m).val = 13 ∨ (screenReg m).val = 14 := by
    revert m
    decide
  rcases hscreen with hval | hval | hval <;> simp only [Operation.writes, hval, ho]

/-- Summing up the flags comes after everything else. -/
theorem Shown.of_apply {n : Nat} {g : Geometry} {o : Operation}
    (h : Shown n ((g.setFlags 0).apply o)) : Shown n (g.execute o) :=
  h.congr fun _ => rfl

theorem Shown.setFlags {n : Nat} {g : Geometry} (h : Shown n g) (bits : Word) :
    Shown n (g.setFlags bits) :=
  h.congr fun _ => rfl

theorem Shown.rtps {n : Nat} {g : Geometry} (h : Shown n g) : Shown (n + 1) (g.execute .rtps) := by
  apply Shown.of_apply
  rw [apply]
  exact (h.setFlags 0).project 0

theorem Shown.rtpt {n : Nat} {g : Geometry} (h : Shown n g) : Shown (n + 3) (g.execute .rtpt) := by
  apply Shown.of_apply
  rw [apply, thrice]
  exact (((h.setFlags 0).project 0).project 1).project 2

/-- What one act keeps. -/
theorem Shown.act {n : Nat} {g : Geometry} (h : Shown n g) (a : Act) :
    Shown (a.projected n) (a.run g) := by
  cases a with
  | writeControl r v => exact h.congr fun _ => rfl
  | writeData r v =>
      simp only [Act.projected, Act.run]
      split
      case isTrue => exact fun m hm => by omega
      case isFalse hr => exact h.congr (read_screenReg_writeData g hr v)
  | command w =>
      simp only [Act.projected, Act.run]
      cases ho : Operation.ofWord? w with
      | none =>
          rw [Geometry.run, command?, ho]
          exact h
      | some o =>
          have hrun : Geometry.run w g = g.execute o := (run_eq ho g).2
          rw [hrun]
          cases o with
          | rtps => exact h.rtps
          | rtpt => exact h.rtpt
          | _ => exact h.execute rfl

/-- What a program keeps. -/
theorem Shown.acts {n : Nat} {g : Geometry} (h : Shown n g) (as : List Act) :
    Shown (as.foldl Act.projected n) (as.foldl Act.run g) := by
  induction as generalizing n g with
  | nil => exact h
  | cons a as ih => exact ih (h.act a)

/-! ### The three points in another order -/

/-- The registers after the three screen points have been written back in another order. -/
def permuted (σ : Equiv.Perm (Fin 3)) (g : Geometry) : Geometry :=
  let point (n : Fin 3) := g.readData (screenReg (σ n))
  ((g.writeData (screenReg 0) (point 0)).writeData (screenReg 1) (point 1)).writeData (screenReg 2)
    (point 2)

theorem readData_screenReg (g : Geometry) (n : Fin 3) :
    g.readData (screenReg n) = g.data.read (screenReg n) := by
  have hn : n = 0 ∨ n = 1 ∨ n = 2 := by omega
  rcases hn with rfl | rfl | rfl <;> rfl

theorem read_screenReg_permuted (σ : Equiv.Perm (Fin 3)) (g : Geometry) (n : Fin 3) :
    (permuted σ g).data.read (screenReg n) = g.data.read (screenReg (σ n)) := by
  have hwrite : (permuted σ g).data =
      ((g.data.write (screenReg 0) (g.data.read (screenReg (σ 0)))).write (screenReg 1)
        (g.data.read (screenReg (σ 1)))).write (screenReg 2) (g.data.read (screenReg (σ 2))) := by
    rw [← readData_screenReg, ← readData_screenReg, ← readData_screenReg]
    rfl
  have hn : n = 0 ∨ n = 1 ∨ n = 2 := by omega
  rw [hwrite]
  rcases hn with rfl | rfl | rfl
  · rw [Bank.read_write_of_ne _ _ (by decide), Bank.read_write_of_ne _ _ (by decide),
      Bank.read_write_self]
  · rw [Bank.read_write_of_ne _ _ (by decide), Bank.read_write_self]
  · rw [Bank.read_write_self]

theorem Shown.permuted {g : Geometry} (h : Shown 3 g) (σ : Equiv.Perm (Fin 3)) :
    Shown 3 (permuted σ g) := by
  intro m _
  rw [read_screenReg_permuted]
  exact h _ (by omega)

theorem area_permuted (σ : Equiv.Perm (Fin 3)) (g : Geometry) :
    area (permuted σ g) = Equiv.Perm.sign σ * area g := by
  have hx : (Winding.permuted σ g).screenX = g.screenX ∘ σ :=
    funext fun n => congrArg Word.lowSigned (read_screenReg_permuted σ g n)
  have hy : (Winding.permuted σ g).screenY = g.screenY ∘ σ :=
    funext fun n => congrArg Word.highSigned (read_screenReg_permuted σ g n)
  rw [area, hx, hy, doubledArea_comp, area]

/-! ### Exact winding -/

/-- The command leaves twice the area of the triangle, wrapped to 32 bits and flagged if it needs
more. After a program whose last three points come from projections, it needs no more: the area is
that of a triangle on the screen, it is found without flags, and in another order of the points it
is found with the sign of that order, which is negative if two points change places and positive if
all three move round. -/
theorem command_nclip {w : Word} (hw : Operation.ofWord? w = some .nclip) :
    (∀ g : Geometry, ∃ k, g.command? w = some k ∧ Winds (area g) k) ∧
      ∀ (first : Geometry) (as : List Act), 3 ≤ as.foldl Act.projected 0 →
        let g := as.foldl Act.run first
        |area g| ≤ 2047 * 2047 ∧
          (∃ k, g.command? w = some k ∧ WindsExactly (area g) k) ∧
          ∀ σ : Equiv.Perm (Fin 3), ∃ k, (permuted σ g).command? w = some k ∧
            WindsExactly (Equiv.Perm.sign σ * area g) k := by
  have hcommand (g : Geometry) : g.command? w = some (g.execute .nclip) := by
    rw [command?, hw]
    rfl
  have hexactly {g : Geometry} (h : Shown 3 g) : WindsExactly (area g) (g.execute .nclip) :=
    (winds_execute g).exactly (abs_area_le h)
  refine ⟨fun g => ⟨_, hcommand g, winds_execute g⟩, fun first as has => ?_⟩
  have hnone : Shown 0 first := fun m hm => by omega
  have hlast : Shown 3 (as.foldl Act.run first) :=
    fun m _ => hnone.acts as m (by omega)
  refine ⟨abs_area_le hlast, ⟨_, hcommand _, hexactly hlast⟩, fun σ => ⟨_, hcommand _, ?_⟩⟩
  rw [← area_permuted]
  exact hexactly (hlast.permuted σ)

/-- Three vertices far outside of the view, one after the other in the place of the first vertex. -/
def farVertices : List Act :=
  [.writeControl 0 0x1000, .writeControl 2 0x1000, .writeControl 4 0x1000, .writeControl 26 1000,
    .writeData 1 1000, .writeData 0 0xf000f000, .command 0x0180001, .writeData 0 0xf0002000,
    .command 0x0180001, .writeData 0 0x2000f000, .command 0x0180001]

/-- They are seen in three corners of the screen, so that the bound is reached, and backwards once
two of them have changed places. -/
theorem command_nclip_of_farVertices :
    3 ≤ farVertices.foldl Act.projected 0 ∧
      area (farVertices.foldl Act.run .zero) = 2047 * 2047 ∧
      ∃ k,
        (permuted (Equiv.swap 0 2) (farVertices.foldl Act.run .zero)).command? 0x4b400006 = some k ∧
        (k.data.read mac0Reg).signed = -(2047 * 2047) ∧ k.flags = 0 := by
  have hthree : 3 ≤ farVertices.foldl Act.projected 0 := by decide
  have harea : area (farVertices.foldl Act.run .zero) = 2047 * 2047 := by decide
  obtain ⟨-, -, hpermuted⟩ :=
    (command_nclip (w := 0x4b400006) (by decide)).2 .zero farVertices hthree
  obtain ⟨k, hk, hexact⟩ := hpermuted (Equiv.swap 0 2)
  refine ⟨hthree, harea, k, hk, ?_, hexact.flags⟩
  rw [hexact.mac0, harea, Equiv.Perm.sign_swap (by decide)]
  rfl

end Winding

end R3000A.Geometry
