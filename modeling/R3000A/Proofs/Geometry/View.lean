import Mathlib.Tactic.IntervalCases
import R3000A.Geometry.Registers
import R3000A.Proofs.Word.Half

/-!
# What a write to the geometry engine shows

A write to a data register stores into a few registers, and what a register stores shows in one or
two. `Geometry.shown` is the table of both together: it lists, for each data register, all that
a program reads differently after it has written there. The registers that are not listed store
nothing new and show nothing that does, which is decided by the register numbers alone.
-/

namespace R3000A.Geometry

/-- The data registers that show what register `r` stores. -/
def shownBy (r : Reg) : List Reg :=
  match r.val with
  | 9 | 10 | 11 => [r, 29]
  | 14 => [14, 15]
  | 15 | 29 => []
  | _ => [r]

/-- The data registers that a write to register `r` stores into. -/
def stored (r : Reg) : List Reg :=
  match r.val with
  | 15 => [12, 13, 14, 15]
  | 28 => [28, 9, 10, 11]
  | 30 => [30, 31]
  | _ => [r]

def packedBits : Fin 3 → Word
  | 0 => 0x1f
  | 1 => 0x3e0
  | 2 => 0x7c00

/-- The word of a lane with bits 7 to 11 moved to where they stand in the packed color. -/
def packedShift (w : Word) : Fin 3 → Word
  | 0 => w >>> 7
  | 1 => w >>> 2
  | 2 => w <<< 3

def packedLane (w : Word) (lane : Fin 3) : Word := packedShift w lane &&& packedBits lane

def repacked (g : Geometry) (lane : Fin 3) (w : Word) : Word :=
  (g.packedColor &&& ~~~packedBits lane) ||| packedLane w lane

/-- What a program reads differently after it has written `v` into data register `r`. -/
def shown (g : Geometry) (r : Reg) (v : Word) : List (Reg × Word) :=
  match r.val with
  | 1 | 3 | 5 | 8 => [(r, v.extendHalf)]
  | 9 => [(9, v.extendHalf), (29, g.repacked 0 v)]
  | 10 => [(10, v.extendHalf), (29, g.repacked 1 v)]
  | 11 => [(11, v.extendHalf), (29, g.repacked 2 v)]
  | 7 | 16 | 17 | 18 | 19 => [(r, v &&& 0xffff)]
  | 14 => [(14, v), (15, v)]
  | 15 => [(12, g.readData 13), (13, g.readData 14), (14, v), (15, v)]
  | 28 =>
    [(28, v), (9, (v &&& 0x1f) <<< 4), (10, (v &&& 0x3e0) >>> 1), (11, (v &&& 0x7c00) >>> 6),
      (29, (v >>> 3) &&& 0xc63)]
  | 29 => []
  | 30 => [(30, v), (31, UInt32.ofNat (leadingSigns v))]
  | _ => [(r, v)]

theorem readData_congr {g k : Geometry} {r : Reg}
    (h : ∀ s, r ∈ shownBy s → g.data.read s = k.data.read s) : g.readData r = k.readData r := by
  have hshown : ∀ s : Reg, s ≠ 15 → s ≠ 29 → s ∈ shownBy s := by decide
  have hself (hmirror : r ≠ 15) (hpacked : r ≠ 29) : g.data.read r = k.data.read r :=
    h r (hshown r hmirror hpacked)
  unfold readData
  split
  case h_13 hval =>
    obtain rfl : r = 15 := Fin.ext hval
    exact h _ (by decide)
  case h_14 hval =>
    obtain rfl : r = 29 := Fin.ext hval
    have hlane (lane : Fin 3) : g.data.read (irReg lane) = k.data.read (irReg lane) :=
      h _ (by revert lane; decide)
    rw [packedColor, packedColor, hlane, hlane, hlane]
  case h_15 =>
    refine hself ?_ ?_ <;> rintro rfl <;> contradiction
  all_goals
    rename_i hval
    rw [hself (by rintro rfl; cases hval) (by rintro rfl; cases hval)]

theorem mem_stored_self : ∀ r : Reg, r ∈ stored r := by decide

theorem read_writeData_of_notMem (g : Geometry) {r s : Reg} (v : Word) (h : s ∉ stored r) :
    (g.writeData r v).data.read s = g.data.read s := by
  have hkept {b : Bank} {k : Reg} (w : Word) (hk : k ∈ stored r) :
      (b.write k w).read s = b.read s :=
    Bank.read_write_of_ne _ _ fun heq => h (heq ▸ hk)
  have hself := mem_stored_self r
  unfold writeData
  split
  case h_1 hval =>
    obtain rfl : r = 15 := Fin.ext hval
    simp only [pushScreen]
    rw [hkept _ (by decide), hkept _ (by decide), hkept _ (by decide), hkept _ hself]
  case h_2 hval =>
    obtain rfl : r = 28 := Fin.ext hval
    dsimp only
    rw [hkept _ (by decide), hkept _ (by decide), hkept _ (by decide), hkept _ hself]
  case h_3 hval =>
    obtain rfl : r = 30 := Fin.ext hval
    dsimp only
    rw [hkept _ (by decide), hkept _ hself]
  case h_4 => exact hkept v hself

/-- Whatever shows what has been stored is listed. -/
theorem mem_shown (g : Geometry) (r : Reg) (v : Word) :
    ∀ k ∈ stored r, ∀ s ∈ shownBy k, s ∈ (g.shown r v).map Prod.fst := by
  have hsame : (g.shown r v).map Prod.fst = (zero.shown r 0).map Prod.fst := by
    unfold shown
    split <;> rfl
  rw [hsame]
  clear hsame
  revert r
  decide

/-- Every write stores its word, whatever else it does. -/
theorem read_writeData_self (g : Geometry) (r : Reg) (v : Word) :
    (g.writeData r v).data.read r = v := by
  unfold writeData
  split
  case h_1 hval =>
    obtain rfl : r = 15 := Fin.ext hval
    simp [pushScreen, screenReg, Bank.read_write]
  case h_2 hval =>
    obtain rfl : r = 28 := Fin.ext hval
    simp [irReg, Bank.read_write]
  case h_3 hval =>
    obtain rfl : r = 30 := Fin.ext hval
    simp [countReg, Bank.read_write]
  case h_4 => exact Bank.read_write_self ..

theorem packedLane_and_not (w : Word) (lane other : Fin 3) :
    packedLane w lane &&& ~~~packedBits other = if lane = other then 0 else packedLane w lane := by
  have hbits : packedBits lane &&& ~~~packedBits other =
      if lane = other then 0 else packedBits lane := by
    revert lane other
    decide
  rw [packedLane, UInt32.and_assoc, hbits]
  split
  · exact UInt32.and_zero
  · rfl

theorem packedColor_eq (g : Geometry) :
    g.packedColor = packedLane (g.data.read (irReg 0)) 0 ||| packedLane (g.data.read (irReg 1)) 1 |||
      packedLane (g.data.read (irReg 2)) 2 := rfl

/-- A lane that is written keeps the others in the packed color. -/
theorem packedColor_write (g : Geometry) (lane : Fin 3) (w : Word) :
    ({ g with data := g.data.write (irReg lane) w } : Geometry).packedColor = g.repacked lane w := by
  have hread (other : Fin 3) : (g.data.write (irReg lane) w).read (irReg other) =
      if lane = other then w else g.data.read (irReg other) := by
    have hinj : ∀ lane other : Fin 3, irReg lane = irReg other ↔ lane = other := by decide
    rw [Bank.read_write]
    simp only [hinj]
  rw [repacked, packedColor_eq, packedColor_eq]
  simp only [hread, Word.or_and, packedLane_and_not]
  match lane with
  | 0 => simp [UInt32.or_comm, UInt32.or_assoc]
  | 1 => simp [UInt32.or_comm, UInt32.or_assoc]
  | 2 => simp

/-- A packed color is spread over IR1 to IR3, where it fills bits 4 to 8. -/
def spreadLane (w : Word) : Fin 3 → Word
  | 0 => (w &&& 0x1f) <<< 4
  | 1 => (w &&& 0x3e0) >>> 1
  | 2 => (w &&& 0x7c00) >>> 6

theorem extendHalf_spreadLane (w : Word) (lane : Fin 3) :
    (spreadLane w lane).extendHalf = spreadLane w lane := by
  refine Word.extendHalf_of_and_eq ?_
  match lane with
  | 0 =>
    rw [spreadLane, UInt32.shiftLeft_and, UInt32.and_assoc]
    rfl
  | 1 =>
    rw [spreadLane, UInt32.shiftRight_and, UInt32.and_assoc]
    rfl
  | 2 =>
    rw [spreadLane, UInt32.shiftRight_and, UInt32.and_assoc]
    rfl

/-- Of a color that has been spread only the two upper bits of each component are packed again. -/
theorem packedLane_spreadLane (w : Word) :
    packedLane (spreadLane w 0) 0 ||| packedLane (spreadLane w 1) 1 |||
      packedLane (spreadLane w 2) 2 = (w >>> 3) &&& 0xc63 := by
  simp only [packedLane, packedShift, packedBits, spreadLane]
  apply Word.eq_of_bits
  intro i hi
  interval_cases i <;> simp

theorem read_writeData_spread (g : Geometry) (v : Word) (lane : Fin 3) :
    (g.writeData 28 v).data.read (irReg lane) = spreadLane v lane := by
  have hdata : (g.writeData 28 v).data =
      (((g.data.write 28 v).write (irReg 0) (spreadLane v 0)).write (irReg 1)
        (spreadLane v 1)).write (irReg 2) (spreadLane v 2) := rfl
  match lane with
  | 0 => simp [hdata, irReg, Bank.read_write]
  | 1 => simp [hdata, irReg, Bank.read_write]
  | 2 => simp [hdata]

/-- The oldest screen point is lost, the others move on and the new one comes last. -/
theorem read_writeData_push (g : Geometry) (v : Word) :
    (g.writeData 15 v).data.read 12 = g.data.read 13 ∧
      (g.writeData 15 v).data.read 13 = g.data.read 14 ∧
        (g.writeData 15 v).data.read 14 = v := by
  have hdata : (g.writeData 15 v).data =
      (((g.data.write 15 v).write 12 ((g.data.write 15 v).read 13)).write 13
        ((g.data.write 15 v).read 14)).write 14 v := rfl
  simp [hdata, Bank.read_write]

theorem read_writeData_count (g : Geometry) (v : Word) :
    (g.writeData 30 v).data.read 31 = UInt32.ofNat (leadingSigns v) :=
  Bank.read_write_self ..

theorem readData_writeData_of_listed (g : Geometry) (r : Reg) (v : Word) :
    ∀ change ∈ g.shown r v, (g.writeData r v).readData change.1 = change.2 := by
  have hself := g.read_writeData_self r v
  unfold shown
  split
  case h_1 hval | h_2 hval | h_3 hval | h_4 hval =>
    refine List.forall_mem_singleton.2 ?_
    simp only [readData, hval, hself]
  case h_5 hval =>
    obtain rfl : r = irReg 0 := Fin.ext hval
    simp only [List.forall_mem_cons]
    exact ⟨congrArg Word.extendHalf hself, g.packedColor_write 0 v, List.forall_mem_nil _⟩
  case h_6 hval =>
    obtain rfl : r = irReg 1 := Fin.ext hval
    simp only [List.forall_mem_cons]
    exact ⟨congrArg Word.extendHalf hself, g.packedColor_write 1 v, List.forall_mem_nil _⟩
  case h_7 hval =>
    obtain rfl : r = irReg 2 := Fin.ext hval
    simp only [List.forall_mem_cons]
    exact ⟨congrArg Word.extendHalf hself, g.packedColor_write 2 v, List.forall_mem_nil _⟩
  case h_8 hval | h_9 hval | h_10 hval | h_11 hval | h_12 hval =>
    refine List.forall_mem_singleton.2 ?_
    simp only [readData, hval, hself]
  case h_13 hval =>
    obtain rfl : r = 14 := Fin.ext hval
    simp only [List.forall_mem_cons]
    exact ⟨hself, hself, List.forall_mem_nil _⟩
  case h_14 hval =>
    obtain rfl : r = 15 := Fin.ext hval
    obtain ⟨holdest, hmiddle, hnewest⟩ := g.read_writeData_push v
    simp only [List.forall_mem_cons]
    exact ⟨holdest, hmiddle, hnewest, hnewest, List.forall_mem_nil _⟩
  case h_15 hval =>
    obtain rfl : r = 28 := Fin.ext hval
    have hlane (lane : Fin 3) :
        ((g.writeData 28 v).data.read (irReg lane)).extendHalf = spreadLane v lane := by
      rw [read_writeData_spread, extendHalf_spreadLane]
    have hpacked : (g.writeData 28 v).packedColor = (v >>> 3) &&& 0xc63 := by
      simp only [packedColor_eq, read_writeData_spread, packedLane_spreadLane]
    simp only [List.forall_mem_cons]
    exact ⟨hself, hlane 0, hlane 1, hlane 2, hpacked, List.forall_mem_nil _⟩
  case h_16 => exact List.forall_mem_nil _
  case h_17 hval =>
    obtain rfl : r = 30 := Fin.ext hval
    simp only [List.forall_mem_cons]
    exact ⟨hself, g.read_writeData_count v, List.forall_mem_nil _⟩
  case h_18 =>
    refine List.forall_mem_singleton.2 ?_
    unfold readData
    split <;> first | contradiction | exact hself

theorem readData_writeData_of_unlisted (g : Geometry) {r s : Reg} {v : Word}
    (h : s ∉ (g.shown r v).map Prod.fst) : (g.writeData r v).readData s = g.readData s := by
  refine readData_congr fun k hk => g.read_writeData_of_notMem v fun hstored => ?_
  exact h (g.mem_shown r v k hstored s hk)

theorem control_writeData (g : Geometry) (r : Reg) (v : Word) :
    (g.writeData r v).control = g.control := by
  unfold writeData
  split <;> rfl

end R3000A.Geometry
