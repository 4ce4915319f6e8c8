import R3000A.Proofs.Checked.Lighting

/-!
# Checked commands

The commands with every operation checked. None of them fails, whatever the registers hold and
whatever the command word is, and the registers after them are those of the exact command. The only
thing a command word has a say in is by how many bits a shift goes, which is by twelve or by none.
The functions here check what the steps of a command check. The choice of the command, which cuts
constant fields out of the command word, and the sum of the flags are operations on words.
-/

namespace R3000A.Geometry

open Checked (Yields)

namespace Operation

/-- The number of fraction bits that is chosen by the command word. -/
def shift : Operation → Nat
  | op shift => shift
  | mvmva shift .. => shift
  | sqr shift => shift
  | gpf shift => shift
  | gpl shift => shift
  | _ => 0

theorem shiftOf_le (w : Word) : shiftOf w ≤ 12 := by
  rw [shiftOf]
  split <;> decide

theorem shift_of_mem_fixed {w : Word} {o : Operation} (h : (w, o) ∈ fixed) : o.shift = 0 := by
  have hall : ∀ entry ∈ fixed, entry.2.shift = 0 := by decide
  exact hall _ h

theorem shift_le_of_general? {w : Word} {o : Operation} (h : general? w = some o) :
    o.shift ≤ 12 := by
  have hle := shiftOf_le w
  grind [general?, shift]

theorem shift_le {w : Word} {o : Operation} (h : ofWord? w = some o) : o.shift ≤ 12 := by
  obtain hfixed | ⟨-, hgeneral⟩ := Option.or_eq_some_iff.1 h
  · obtain ⟨before, rest, hsplit, -⟩ := List.lookup_eq_some_iff.1 hfixed
    have hmem : (commandBits w, o) ∈ fixed := by
      rw [hsplit]
      exact List.mem_append_right _ (List.mem_cons_self ..)
    rw [shift_of_mem_fixed hmem]
    decide
  · exact shift_le_of_general? hgeneral

end Operation

variable (g : Geometry)

def thriceChecked (f : Fin 3 → Geometry → Checked Geometry) (g : Geometry) : Checked Geometry := do
  let g ← f 0 g
  let g ← f 1 g
  f 2 g

def applyChecked (g : Geometry) : Operation → Checked Geometry
  | .rtps => g.projectChecked 0
  | .rtpt => g.thriceChecked projectChecked
  | .nclip => do return g.setMac0 (← g.windingChecked)
  | .op shift => g.outerProductChecked shift
  | .dpcs => g.depthCueChecked g.color
  | .dpct => g.thriceChecked fun _ g => g.depthCueChecked g.oldestColor
  | .intpl => g.interpolateChecked
  | .mvmva shift m v c positive =>
    g.setLanesChecked positive (productChecked shift (g.matrix m) (g.vector v) (g.addend c))
  | .ncs => g.normalColorChecked 0
  | .nct => g.thriceChecked normalColorChecked
  | .nccs => g.normalColorColorChecked 0
  | .ncct => g.thriceChecked normalColorColorChecked
  | .ncds => g.normalColorDepthChecked 0
  | .ncdt => g.thriceChecked normalColorDepthChecked
  | .cc => g.colorColorChecked
  | .cdp => g.colorDepthChecked
  | .sqr shift => g.squareChecked shift
  | .avsz3 => g.averageChecked g.scale3 (g.depthSumChecked [1, 2, 3])
  | .avsz4 => g.averageChecked g.scale4 (g.depthSumChecked [0, 1, 2, 3])
  | .gpf shift => g.scaleIrChecked shift
  | .gpl shift => g.scaleIrOntoMacChecked shift

def executeChecked (g : Geometry) (o : Operation) : Checked Geometry := do
  let done ← (g.setFlags 0).applyChecked o
  return done.setFlags (Flag.summarize done.flags)

def commandChecked (g : Geometry) (w : Word) : Checked (Option Geometry) :=
  match Operation.ofWord? w with
  | some o => return some (← g.executeChecked o)
  | none => return none

theorem thriceChecked_eq {f : Fin 3 → Geometry → Checked Geometry} {e : Fin 3 → Geometry → Geometry}
    (h : ∀ n g, f n g = .ok (e n g)) : g.thriceChecked f = .ok (g.thrice e) := by
  rw [thriceChecked, h, Checked.ok_bind, h, Checked.ok_bind, h]
  rfl

theorem yields_depthSum3 : Yields (g.depthSumChecked [1, 2, 3]) g.depthSum3 0x40000 :=
  (g.yields_depthSumChecked (by decide)).cast (by simp [depthSum3, Int.add_assoc])

theorem yields_depthSum4 : Yields (g.depthSumChecked [0, 1, 2, 3]) g.depthSum4 0x40000 :=
  (g.yields_depthSumChecked (by decide)).cast (by simp [depthSum4, Int.add_assoc])

theorem applyChecked_eq {o : Operation} (ho : o.shift ≤ 12) :
    g.applyChecked o = .ok (g.apply o) := by
  have hshift : o.shift < 64 := Nat.lt_of_le_of_lt ho (by decide)
  cases o with rw [applyChecked, apply]
  | rtps => exact g.projectChecked_eq 0
  | rtpt => exact g.thriceChecked_eq fun n g => g.projectChecked_eq n
  | nclip =>
    rw [windingChecked_eq]
    rfl
  | op => exact g.outerProductChecked_eq hshift
  | dpcs => exact g.depthCueChecked_eq g.within_color
  | dpct => exact g.thriceChecked_eq fun _ g => g.depthCueChecked_eq (within_components _)
  | intpl => exact g.interpolateChecked_eq
  | mvmva shift m v c positive =>
    exact g.setLanesChecked_eq (productChecked_eq hshift (g.within_matrix m) (g.within_vector v)
      (g.within_addend c))
  | ncs => exact g.normalColorChecked_eq 0
  | nct => exact g.thriceChecked_eq fun n g => g.normalColorChecked_eq n
  | nccs => exact g.normalColorColorChecked_eq 0
  | ncct => exact g.thriceChecked_eq fun n g => g.normalColorColorChecked_eq n
  | ncds => exact g.normalColorDepthChecked_eq 0
  | ncdt => exact g.thriceChecked_eq fun n g => g.normalColorDepthChecked_eq n
  | cc => exact g.colorColorChecked_eq
  | cdp => exact g.colorDepthChecked_eq
  | sqr => exact g.squareChecked_eq hshift
  | avsz3 => exact g.averageChecked_eq (natAbs_lowSigned _) g.yields_depthSum3
  | avsz4 => exact g.averageChecked_eq (natAbs_lowSigned _) g.yields_depthSum4
  | gpf => exact g.scaleIrChecked_eq hshift
  | gpl => exact g.scaleIrOntoMacChecked_eq ho

theorem executeChecked_eq {o : Operation} (ho : o.shift ≤ 12) :
    g.executeChecked o = .ok (g.execute o) := by
  rw [executeChecked, applyChecked_eq _ ho]
  rfl

/-- No command fails. -/
theorem commandChecked_eq (w : Word) : g.commandChecked w = .ok (g.command? w) := by
  rw [commandChecked, command?]
  cases ho : Operation.ofWord? w with
  | none => rfl
  | some o =>
    exact congrArg (· >>= fun g => pure (some g)) (g.executeChecked_eq (Operation.shift_le ho))

end R3000A.Geometry
