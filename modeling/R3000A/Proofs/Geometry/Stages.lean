import R3000A.Proofs.Geometry.ColorQueue

/-!
# Lighting as a sequence of commands

The commands that light a normal are chains of stages, and each stage is what another command does:
the light on a normal and the mix of the light colors are general products, and what is left of the
chain is the command that starts from a color in IR. Running these commands one after the other
therefore leaves the same registers, up to the flags, which every command starts anew: those of the
chain are those of all its stages together (`lighting_in_stages`).
-/

namespace R3000A.Geometry

/-- The registers after two commands, with the flags of both. -/
def inSequence (first second : Word) (g : Geometry) : Option Geometry := do
  let middle ← g.command? first
  let last ← middle.command? second
  return last.setFlags (middle.flags ||| last.flags)

/-- A chain of two steps as one command is the two steps as two commands. The second must do the
same whatever flags there are already. -/
theorem complete_comp {first second : Geometry → Geometry}
    (hsecond : ∀ g bits, second (g.raise bits) = (second g).raise bits) (g : Geometry) :
    complete (fun k => second (first k)) g =
      (complete second (complete first g)).setFlags
        ((complete first g).flags ||| (complete second (complete first g)).flags) := by
  obtain ⟨p, hp⟩ : ∃ p, p = first (g.setFlags 0) := ⟨_, rfl⟩
  obtain ⟨q, hq⟩ : ∃ q, q = second (p.setFlags 0) := ⟨_, rfl⟩
  have hmiddle : complete first g = p.setFlags (Flag.summarize p.flags) := by rw [complete, ← hp]
  have hlast : complete second (complete first g) = q.setFlags (Flag.summarize q.flags) := by
    rw [hmiddle, complete, setFlags_setFlags, ← hq]
  have hboth : second p = q.setFlags (q.flags ||| p.flags) := by
    rw [eq_raise_of_raise hsecond p, ← hq, Geometry.raise]
  rw [hlast, hmiddle, complete, ← hp, hboth, flags_setFlags, flags_setFlags, flags_setFlags,
    setFlags_setFlags, setFlags_setFlags, Flag.summarize_or, UInt32.or_comm]

/-- Two commands in sequence are one chain, if the second does the same whatever flags it finds. -/
theorem inSequence_eq {first second : Word} {o₁ o₂ : Operation}
    (h₁ : Operation.ofWord? first = some o₁) (h₂ : Operation.ofWord? second = some o₂)
    (hflags : Overlooks fun k => k.apply o₂) (g : Geometry) :
    g.inSequence first second = some (complete (fun k => (k.apply o₁).apply o₂) g) := by
  have hraise (k : Geometry) (bits : Word) : (k.raise bits).apply o₂ = (k.apply o₂).raise bits :=
    hflags _ (Unseen.raising bits) (fun _ => rfl) k
  rw [inSequence, (run_eq h₁ g).1, Option.bind_eq_bind, Option.bind_some, (run_eq h₂ _).1]
  exact congrArg some (complete_comp hraise g).symm

/-- A command in two stages. -/
theorem command?_eq_inSequence {whole first second : Word} {o o₁ o₂ : Operation}
    (ho : Operation.ofWord? whole = some o) (h₁ : Operation.ofWord? first = some o₁)
    (h₂ : Operation.ofWord? second = some o₂)
    (hstages : ∀ k : Geometry, k.apply o = (k.apply o₁).apply o₂)
    (hflags : Overlooks fun k => k.apply o₂) (g : Geometry) :
    ∃ k, g.command? whole = some k ∧ g.inSequence first second = some k := by
  refine ⟨_, (run_eq ho g).1, ?_⟩
  rw [inSequence_eq h₁ h₂ hflags, funext hstages]

theorem Flag.summarize_eq_self {bits : Word} (h : bits &&& Flag.errors = 0) :
    Flag.summarize bits = bits := by
  rw [Flag.summarize, h]
  rfl

/-- The flags of a pushed color are no errors, so the push may as well come after the flags have
been summed up. -/
theorem complete_pushColor (shift : Nat) (step : Geometry → Geometry) (g : Geometry) :
    complete (fun k => (step k).pushColor shift) g = (complete step g).pushColor shift := by
  have hraise (k : Geometry) (bits : Word) :
      (k.raise bits).pushColor shift = (k.pushColor shift).raise bits :=
    (Unseen.raising bits).pushColor shift k
  have hcolors (k : Geometry) : ((k.setFlags 0).pushColor shift).flags &&& Flag.errors = 0 := by
    have hcolor (lane : Fin 3) (v : Int) : colorFlag lane v &&& Flag.errors = 0 :=
      outside_and (by revert lane; decide) v
    rw [flags_pushColor, flags_setFlags, UInt32.zero_or, Word.or_and, Word.or_and, hcolor, hcolor,
      hcolor]
    rfl
  rw [complete_comp hraise, eq_raise_of_raise hraise (complete step g), complete, setFlags_setFlags,
    Flag.summarize_eq_self (hcolors _), flags_setFlags, Geometry.raise, UInt32.or_comm]

/-- Lighting a normal is the general product with the lights, and then the command that starts from
the light in IR, or the general product with the light colors and a push of the color queue. -/
theorem lighting_in_stages (g : Geometry) :
    (∃ k, g.command? 0x108041b = some k ∧ g.inSequence 0x04a6412 0x138041c = some k) ∧
      (∃ k, g.command? 0x0e80413 = some k ∧ g.inSequence 0x04a6412 0x1280414 = some k) ∧
        ∃ m k, g.inSequence 0x04a6412 0x04da412 = some m ∧ g.command? 0x0c8041e = some k ∧
          ColorPushed 4 m k := by
  have hlight : Operation.ofWord? 0x04a6412 = some (.mvmva 12 .lights (.vertex 0) .zero true) := by
    decide
  refine ⟨?colorColor, ?colorDepth, ?color⟩
  case colorColor =>
    have hwhole : Operation.ofWord? 0x108041b = some .nccs := by decide
    have hafter : Operation.ofWord? 0x138041c = some .cc := by decide
    have hrest : Overlooks fun k => pushColor 4 (modulate (lightColor k)) :=
      (Overlooks.pushColor 4).comp (Overlooks.modulate.comp Overlooks.lightColor)
    exact command?_eq_inSequence hwhole hlight hafter (fun _ => rfl) hrest g
  case colorDepth =>
    have hwhole : Operation.ofWord? 0x0e80413 = some .ncds := by decide
    have hafter : Operation.ofWord? 0x1280414 = some .cdp := by decide
    have hrest : Overlooks fun k => pushColor 4 (modulateAndFade (lightColor k)) :=
      (Overlooks.pushColor 4).comp (Overlooks.modulateAndFade.comp Overlooks.lightColor)
    exact command?_eq_inSequence hwhole hlight hafter (fun _ => rfl) hrest g
  case color =>
    have hmix : Operation.ofWord? 0x04da412 = some (.mvmva 12 .lightColors .ir .background true) := by
      decide
    have hcolor : Operation.ofWord? 0x0c8041e = some .ncs := by decide
    refine ⟨_, _, inSequence_eq hlight hmix Overlooks.lightColor g, ?_, colorPushed_pushColor 4 _⟩
    rw [(run_eq hcolor g).1]
    exact congrArg some (complete_pushColor 4 (fun k => lightColor (light 0 k)) g)

end R3000A.Geometry
