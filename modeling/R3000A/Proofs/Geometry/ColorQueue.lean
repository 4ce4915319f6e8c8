import R3000A.Proofs.Geometry.Perspective

/-!
# What a push does to the color queue

`Packs` says what a queued color is: each component is a lane of MAC without its lowest bits,
limited to a byte, and the last byte is the code of the given color. A push moves the queue on by
one and adds the flags of the components that had to be limited (`colorPushed_pushColor`).
-/

namespace R3000A.Geometry

open Perspective (limit Outside)

/-- Lane `lane` of MAC without its lowest `shift` bits. -/
def component (shift : Nat) (g : Geometry) (lane : Fin 3) : Int :=
  (g.data.read (macReg lane)).signed / 2 ^ shift

/-- The word `entry` packs the components of `g` and the code of its given color. -/
structure Packs (shift : Nat) (g : Geometry) (entry : Word) : Prop where
  color : ∀ lane : Fin 3,
    ((entry.byte lane.castSucc).toNat : Int) = limit 0 0xff (component shift g lane)
  code : entry.byte 3 = (g.data.read colorCodeReg).byte 3

/-- The registers `k` are `g` with one color pushed: the queue moved on, and the flags of the
components that are no bytes were added. -/
structure ColorPushed (shift : Nat) (g k : Geometry) : Prop where
  oldest : k.data.read (colorReg 0) = g.data.read (colorReg 1)
  middle : k.data.read (colorReg 1) = g.data.read (colorReg 2)
  newest : Packs shift g (k.data.read (colorReg 2))
  data : ∀ r, (∀ n, colorReg n ≠ r) → k.data.read r = g.data.read r
  control : ∀ r, r ≠ flagReg → k.control.read r = g.control.read r
  flag : ∀ n < 32, k.flags.bit n = true ↔ g.flags.bit n = true ∨
    ∃ lane : Fin 3, n = 21 - lane.val ∧ Outside 0 0xff (component shift g lane)

section

variable (shift : Nat) (g : Geometry)

theorem component_eq (lane : Fin 3) : g.mac lane >>> shift = component shift g lane :=
  Int.shiftRight_eq_div_pow ..

theorem toNat_ofNat_clampColor (v : Int) :
    ((UInt8.ofNat (clampColor v).toNat).toNat : Int) = limit 0 0xff v := by
  rw [clampColor, clamp_eq_max_min (by decide), UInt8.toNat_ofNat', limit]
  omega

theorem packs_colorEntry : Packs shift g (colorEntry shift g.mac g.code) := by
  constructor
  case color =>
    intro lane
    rw [colorEntry, Word.byte_ofBytes, ← component_eq, ← toNat_ofNat_clampColor]
    match lane with
    | 0 => rfl
    | 1 => rfl
    | 2 => rfl
  case code => exact Word.byte_ofBytes ..

theorem flags_pushColor :
    (g.pushColor shift).flags = g.flags ||| (colorFlag 0 (g.mac 0 >>> shift) |||
      colorFlag 1 (g.mac 1 >>> shift) ||| colorFlag 2 (g.mac 2 >>> shift)) := by
  rw [pushColor_eq]
  exact flags_raise ..

theorem bit_flags_pushColor {n : Nat} (hn : n < 32) :
    (g.pushColor shift).flags.bit n = true ↔ g.flags.bit n = true ∨
      ∃ lane : Fin 3, n = 21 - lane.val ∧ Outside 0 0xff (component shift g lane) := by
  simp only [flags_pushColor, Word.bit_or, Bool.or_eq_true, bit_colorFlag hn, component_eq,
    Fin.exists_fin_succ, Fin.exists_fin_zero, or_assoc, or_false]
  rfl

theorem colorPushed_pushColor : ColorPushed shift g (g.pushColor shift) := by
  obtain ⟨holdest, hmiddle, hnewest⟩ := read_pushColor shift g
  constructor
  case oldest => exact holdest
  case middle => exact hmiddle
  case newest => exact hnewest ▸ packs_colorEntry shift g
  case data => exact fun r hr => read_pushColor_of_ne shift g hr
  case control =>
    intro r hr
    have hany : Reaches (fun _ => true) g (g.pushColor shift) :=
      Reaches.refl.pushColor (fun _ => rfl) shift
    exact hany.readControl_eq hr
  case flag => exact fun n hn => bit_flags_pushColor shift g hn

end

end R3000A.Geometry
