import R3000A.Geometry.Execute
import R3000A.Proofs.Word.Half

/-!
# What shows of the geometry engine

Of some data registers a program sees less than they store: the low half of the Z coordinates, of
IR0 to IR3 and of the depths, and nothing of registers 15 and 29, which show something else.
`visibleBits` are the bits that show. Two banks are `Alike` if they differ only in the others, which
is to say that a program reads the same from both. The commands and the writes of a program then
lead to banks that are alike again: what a command reads shows, and what it keeps of an old word is
kept where it does not show.
-/

namespace R3000A.Geometry

/-- The bits of a data register that show. -/
def visibleBits (r : Reg) : Word :=
  match r.val with
  | 1 | 3 | 5 | 7 | 8 | 9 | 10 | 11 | 16 | 17 | 18 | 19 => 0xffff
  | 15 | 29 => 0
  | _ => 0xffffffff

/-- The registers differ at most in bits that do not show. -/
structure Alike (g k : Geometry) : Prop where
  data : ∀ r, g.data.read r &&& visibleBits r = k.data.read r &&& visibleBits r
  control : g.control = k.control

theorem readData_and (g : Geometry) (r : Reg) :
    g.readData r &&& visibleBits r = g.data.read r &&& visibleBits r := by
  have hsigned (w : Word) : w.extendHalf &&& 0xffff = w &&& 0xffff :=
    Word.and_half_eq_iff.2 (Word.toUInt16_extendHalf w)
  have hunsigned (w : Word) : w &&& 0xffff &&& 0xffff = w &&& 0xffff := by
    rw [UInt32.and_assoc, UInt32.and_self]
  have hnone (v w : Word) : v &&& 0 = w &&& 0 := by rw [UInt32.and_zero, UInt32.and_zero]
  -- In the order of the views: signed halves, unsigned halves, registers that show something else,
  -- and whole words.
  unfold readData
  split
  case h_1 hval | h_2 hval | h_3 hval | h_4 hval | h_5 hval | h_6 hval | h_7 hval =>
    simp only [visibleBits, hval]
    exact hsigned _
  case h_8 hval | h_9 hval | h_10 hval | h_11 hval | h_12 hval =>
    simp only [visibleBits, hval]
    exact hunsigned _
  case h_13 hval | h_14 hval =>
    simp only [visibleBits, hval]
    exact hnone _ _
  case h_15 => rfl

theorem controlled_congr {g k : Geometry} {α : Type} (f : Geometry → α) (hf : ∀ data data' control,
    f ⟨data, control⟩ = f ⟨data', control⟩) (h : g.control = k.control) : f g = f k := by
  obtain ⟨data, control⟩ := g
  obtain ⟨data', control'⟩ := k
  obtain rfl : control = control' := h
  exact hf data data' control

namespace Alike

variable {g k : Geometry}

/-- What is read off the control registers alone. -/
theorem controlled {α : Type} (f : Geometry → α) (hf : ∀ data data' control,
    f ⟨data, control⟩ = f ⟨data', control⟩) (h : g.Alike k) : f g = f k :=
  controlled_congr f hf h.control

theorem read_eq (h : g.Alike k) {r : Reg} (hr : visibleBits r = 0xffffffff) :
    g.data.read r = k.data.read r := by
  have hall (w : Word) : w &&& 0xffffffff = w := UInt32.and_neg_one
  rw [← hall (g.data.read r), ← hall (k.data.read r), ← hr, h.data]

theorem low_eq (h : g.Alike k) {r : Reg} (hr : visibleBits r = 0xffff) :
    (g.data.read r).toUInt16 = (k.data.read r).toUInt16 := by
  rw [← Word.and_half_eq_iff, ← hr, h.data]

theorem screen (h : g.Alike k) (n : Fin 3) :
    g.data.read (screenReg n) = k.data.read (screenReg n) :=
  h.read_eq (by revert n; decide)

theorem packedColor (h : g.Alike k) : g.packedColor = k.packedColor := by
  have hlow (lane : Fin 3) :
      g.data.read (irReg lane) &&& 0xffff = k.data.read (irReg lane) &&& 0xffff :=
    Word.and_half_eq_iff.2 (h.low_eq (by revert lane; decide))
  rw [Geometry.packedColor, Geometry.packedColor, Word.shiftRight_and_congr (hlow 0) (by decide),
    Word.shiftRight_and_congr (hlow 1) (by decide), Word.shiftLeft_and_congr (hlow 2) (by decide)]

theorem readData (h : g.Alike k) (r : Reg) : g.readData r = k.readData r := by
  have hr := h.data r
  unfold Geometry.readData
  split
  case h_1 hval | h_2 hval | h_3 hval | h_4 hval | h_5 hval | h_6 hval | h_7 hval =>
    simp only [visibleBits, hval] at hr
    exact congrArg Word.ofInt (Word.lowSigned_congr (Word.and_half_eq_iff.1 hr))
  case h_8 hval | h_9 hval | h_10 hval | h_11 hval | h_12 hval =>
    simp only [visibleBits, hval] at hr
    exact hr
  case h_13 => exact h.screen 2
  case h_14 => exact h.packedColor
  case h_15 =>
    refine h.read_eq ?_
    simp only [visibleBits]

/-! ### What commands read -/

theorem vertex (h : g.Alike k) (n : Fin 3) : g.vertex n = k.vertex n := by
  have hbits (n : Fin 3) :
      visibleBits (vertexXyReg n) = 0xffffffff ∧ visibleBits (vertexZReg n) = 0xffff := by
    revert n
    decide
  have hxy := h.read_eq (hbits n).1
  have hz := h.low_eq (hbits n).2
  funext lane
  rcases lane with ⟨_ | _ | _ | _, hlane⟩
  · exact congrArg Word.lowSigned hxy
  · exact congrArg Word.highSigned hxy
  · exact Word.lowSigned_congr hz
  · omega

theorem ir0 (h : g.Alike k) : g.ir0 = k.ir0 := Word.lowSigned_congr (h.low_eq (by decide))

theorem ir (h : g.Alike k) : g.ir = k.ir := by
  funext lane
  exact Word.lowSigned_congr (h.low_eq (by revert lane; decide))

theorem mac (h : g.Alike k) : g.mac = k.mac := by
  funext lane
  exact congrArg Word.signed (h.read_eq (by revert lane; decide))

theorem color (h : g.Alike k) : g.color = k.color :=
  congrArg components (h.read_eq (by decide))

theorem oldestColor (h : g.Alike k) : g.oldestColor = k.oldestColor :=
  congrArg components (h.read_eq (by decide))

theorem code (h : g.Alike k) : g.code = k.code :=
  congrArg (Word.byte · 3) (h.read_eq (by decide))

theorem depth (h : g.Alike k) (n : Fin 4) : g.depth n = k.depth n :=
  congrArg UInt16.toNat (h.low_eq (by revert n; decide))

theorem winding (h : g.Alike k) : g.winding = k.winding := by
  simp only [Geometry.winding, screenX, screenY, h.screen]

/-! ### What commands and programs write -/

theorem write (h : g.Alike k) (r : Reg) {v w : Word}
    (hv : v &&& visibleBits r = w &&& visibleBits r) :
    Alike { g with data := g.data.write r v } { k with data := k.data.write r w } := by
  refine ⟨fun s => ?_, h.control⟩
  by_cases hs : r = s
  · subst hs
    rw [Bank.read_write_self, Bank.read_write_self, hv]
  · rw [Bank.read_write_of_ne _ _ hs, Bank.read_write_of_ne _ _ hs, h.data]

theorem writeControl (h : g.Alike k) (r : Reg) (v : Word) :
    (g.writeControl r v).Alike (k.writeControl r v) :=
  ⟨h.data, congrArg (Bank.write · r v) h.control⟩

theorem setFlags (h : g.Alike k) (bits : Word) : (g.setFlags bits).Alike (k.setFlags bits) :=
  h.writeControl flagReg bits

theorem flags (h : g.Alike k) : g.flags = k.flags := h.controlled Geometry.flags fun _ _ _ => rfl

theorem raise (h : g.Alike k) (bits : Word) : (g.raise bits).Alike (k.raise bits) := by
  rw [Geometry.raise, Geometry.raise, h.flags]
  exact h.setFlags _

theorem pushScreen (h : g.Alike k) (xy : Word) : (g.pushScreen xy).Alike (k.pushScreen xy) := by
  rw [Geometry.pushScreen, Geometry.pushScreen, h.screen, h.screen]
  exact ((h.write _ rfl).write _ rfl).write _ rfl

/-- The depths move on with their low halves, and the high halves that stay behind do not show. -/
theorem pushDepth (h : g.Alike k) (z : UInt16) : (g.pushDepth z).Alike (k.pushDepth z) := by
  have hnext (n : Fin 4) {half half' : UInt16} (hhalf : half = half') :
      (g.data.read (depthReg n)).withLow half &&& visibleBits (depthReg n) =
        (k.data.read (depthReg n)).withLow half' &&& visibleBits (depthReg n) := by
    have hbits : visibleBits (depthReg n) = 0xffff := by revert n; decide
    rw [hbits, Word.and_half_eq_iff, Word.toUInt16_withLow, Word.toUInt16_withLow, hhalf]
  have hlow (n : Fin 4) :
      (g.data.read (depthReg n)).toUInt16 = (k.data.read (depthReg n)).toUInt16 :=
    h.low_eq (by revert n; decide)
  exact (((h.write _ (hnext 0 (hlow 1))).write _ (hnext 1 (hlow 2))).write _
    (hnext 2 (hlow 3))).write _ (hnext 3 rfl)

theorem pushColor (h : g.Alike k) (shift : Nat) : (g.pushColor shift).Alike (k.pushColor shift) := by
  have hqueue (n : Fin 3) : g.data.read (colorReg n) = k.data.read (colorReg n) :=
    h.read_eq (by revert n; decide)
  simp only [Geometry.pushColor, h.mac, h.code, hqueue]
  exact (((h.write _ rfl).write _ rfl).write _ rfl).raise _

theorem setMac0 (h : g.Alike k) (v : Int) : (g.setMac0 v).Alike (k.setMac0 v) :=
  (h.write _ rfl).raise _

theorem setIr0 (h : g.Alike k) (v : Int) : (g.setIr0 v).Alike (k.setIr0 v) :=
  (h.write _ rfl).raise _

theorem setLane (h : g.Alike k) (positive : Bool) (lane : Fin 3) (v : Int) :
    (g.setLane positive lane v).Alike (k.setLane positive lane v) :=
  ((h.write _ rfl).write _ rfl).raise _

theorem setLanes (h : g.Alike k) (positive : Bool) (v : Vec) :
    (g.setLanes positive v).Alike (k.setLanes positive v) :=
  ((h.setLane positive 0 _).setLane positive 1 _).setLane positive 2 _

theorem writeData (h : g.Alike k) (r : Reg) (v : Word) : (g.writeData r v).Alike (k.writeData r v) := by
  have hwritten := h.write r (v := v) rfl
  unfold Geometry.writeData
  split
  · exact hwritten.pushScreen v
  · exact ((hwritten.write _ rfl).write _ rfl).write _ rfl
  · exact hwritten.write _ rfl
  · exact hwritten

end Alike

/-- Registers are alike if and only if a program reads the same from them. -/
theorem alike_iff {g k : Geometry} :
    g.Alike k ↔ (∀ r, g.readData r = k.readData r) ∧ ∀ r, g.readControl r = k.readControl r := by
  constructor
  · intro h
    exact ⟨h.readData, fun r => congrArg (Bank.read · r) h.control⟩
  · rintro ⟨hdata, hcontrol⟩
    exact ⟨fun r => by rw [← readData_and, hdata, readData_and], Bank.ext hcontrol⟩

end R3000A.Geometry
