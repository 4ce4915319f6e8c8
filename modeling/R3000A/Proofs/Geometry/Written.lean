import R3000A.Proofs.Geometry.Triple
import R3000A.Proofs.System.Outcome
import R3000A.Proofs.Word.Bit

/-!
# What commands write

`Operation.writes` tells for every command which data registers it may change. A command is a
sequence of stores into these registers and of flags that range checks raise (`Reaches`), which one
induction turns into what stays as it was: all other data registers, all control registers but the
flags, and of the flags the bits that no range check has. The flags start clear, so what they were
before makes no difference, and the sum in bit 31 is added at the end.
-/

namespace R3000A.Geometry

/-- The flags that range checks raise: all that have a name, but for the sum in bit 31. -/
def Flag.checks : Word := 0x7ffff000

/-! ### The registers of a command -/

namespace Operation

def projects : Operation → Bool
  | rtps | rtpt => true
  | _ => false

def averages : Operation → Bool
  | avsz3 | avsz4 => true
  | _ => false

def colors : Operation → Bool
  | dpcs | dpct | intpl | ncs | nct | nccs | ncct | ncds | ncdt | cc | cdp | gpf _ | gpl _ => true
  | _ => false

/-- The commands with a vector as their result: all but those that end in a single number. -/
def vectors : Operation → Bool
  | nclip | avsz3 | avsz4 => false
  | _ => true

def scalars : Operation → Bool
  | rtps | rtpt | nclip | avsz3 | avsz4 => true
  | _ => false

/-- How often a command does its work: once, or for three vertices or queue entries in turn. -/
def passes : Operation → Nat
  | rtpt | dpct | nct | ncct | ncdt => 3
  | _ => 1

/-- Whether a command may change data register `r`: the average, IR0 with the screen points and the
depths, MAC0, the colors, and the lanes of MAC and IR. No command changes the others. -/
def writes (o : Operation) (r : Reg) : Bool :=
  match r.val with
  | 7 => o.averages
  | 8 | 12 | 13 | 14 | 16 | 17 | 18 | 19 => o.projects
  | 24 => o.scalars
  | 20 | 21 | 22 => o.colors
  | 9 | 10 | 11 | 25 | 26 | 27 => o.vectors
  | _ => false

theorem writes_lane {o : Operation} (h : o.vectors = true) (lane : Fin 3) :
    o.writes (macReg lane) = true ∧ o.writes (irReg lane) = true := by
  rcases lane with ⟨_ | _ | _ | _, hlane⟩
  · exact ⟨h, h⟩
  · exact ⟨h, h⟩
  · exact ⟨h, h⟩
  · omega

theorem writes_color {o : Operation} (h : o.colors = true) (n : Fin 3) :
    o.writes (colorReg n) = true := by
  rcases n with ⟨_ | _ | _ | _, hn⟩
  · exact h
  · exact h
  · exact h
  · omega

theorem writes_screen {o : Operation} (h : o.projects = true) (n : Fin 3) :
    o.writes (screenReg n) = true := by
  rcases n with ⟨_ | _ | _ | _, hn⟩
  · exact h
  · exact h
  · exact h
  · omega

theorem writes_depth {o : Operation} (h : o.projects = true) (n : Fin 4) :
    o.writes (depthReg n) = true := by
  rcases n with ⟨_ | _ | _ | _ | _, hn⟩
  · exact h
  · exact h
  · exact h
  · exact h
  · omega

end Operation

/-! ### Sequences of stores -/

/-- The registers `k` come from `g` by stores into data registers that `may` allows and by flags of
range checks. -/
inductive Reaches (may : Reg → Bool) (g : Geometry) : Geometry → Prop where
  | refl : Reaches may g g
  | store {k : Geometry} {r : Reg} (v : Word) (hr : may r = true) (h : Reaches may g k) :
      Reaches may g (k.store r v)
  | raise {k : Geometry} {bits : Word} (hbits : bits &&& ~~~Flag.checks = 0)
      (h : Reaches may g k) : Reaches may g (k.raise bits)

/-! Every range check has its flag among `Flag.checks`. -/

theorem overflow_and {above below m : Word} (ha : above &&& m = 0) (hb : below &&& m = 0) (v : Int) :
    overflow above below v &&& m = 0 := by
  unfold overflow
  split
  · exact ha
  · split
    · exact hb
    · exact UInt32.zero_and

theorem outside_and {lo hi : Int} {flag m : Word} (h : flag &&& m = 0) (v : Int) :
    outside lo hi flag v &&& m = 0 := by
  unfold outside
  split
  · exact h
  · exact UInt32.zero_and

theorem or_and_checks {a b : Word} (ha : a &&& ~~~Flag.checks = 0) (hb : b &&& ~~~Flag.checks = 0) :
    (a ||| b) &&& ~~~Flag.checks = 0 := by
  rw [Word.or_and, ha, hb, UInt32.or_zero]

theorem macFlag_and_checks (lane : Fin 3) (v : Int) : macFlag lane v &&& ~~~Flag.checks = 0 :=
  overflow_and (by revert lane; decide) (by revert lane; decide) v

theorem irFlag_and_checks (positive : Bool) (lane : Fin 3) (v : Int) :
    irFlag positive lane v &&& ~~~Flag.checks = 0 :=
  outside_and (by revert lane; decide) v

theorem mac0Flag_and_checks (v : Int) : mac0Flag v &&& ~~~Flag.checks = 0 :=
  overflow_and (by decide) (by decide) v

theorem depthFlag_and_checks (v : Int) : depthFlag v &&& ~~~Flag.checks = 0 :=
  outside_and (by decide) v

theorem divisorFlag_and_checks (h z : Nat) : divisorFlag h z &&& ~~~Flag.checks = 0 := by
  unfold divisorFlag
  split
  · decide
  · exact UInt32.zero_and

namespace Reaches

variable {may : Reg → Bool} {g k : Geometry}

theorem read_eq (h : Reaches may g k) {r : Reg} (hr : may r = false) :
    k.data.read r = g.data.read r := by
  induction h with
  | refl => rfl
  | @store k s v hs _ ih =>
      have hne : s ≠ r := fun heq => by simp [heq, hr] at hs
      exact (Bank.read_write_of_ne _ _ hne).trans ih
  | raise _ _ ih => exact ih

theorem readControl_eq (h : Reaches may g k) {r : Reg} (hr : r ≠ flagReg) :
    k.control.read r = g.control.read r := by
  induction h with
  | refl => rfl
  | store _ _ _ ih => exact ih
  | raise _ _ ih => exact (Bank.read_write_of_ne _ _ hr.symm).trans ih

/-- The bits that no range check has stay as they are. -/
theorem flags_and (h : Reaches may g k) :
    k.flags &&& ~~~Flag.checks = g.flags &&& ~~~Flag.checks := by
  induction h with
  | refl => rfl
  | store _ _ _ ih => exact ih
  | raise hbits _ ih => rw [Geometry.raise, flags_setFlags, Word.or_and, hbits, UInt32.or_zero, ih]

/-! ### Steps -/

theorem raiseLanes (h : Reaches may g k) {bits : Fin 3 → Word}
    (hbits : ∀ lane, bits lane &&& ~~~Flag.checks = 0) : Reaches may g (k.raiseLanes bits) :=
  h.raise (or_and_checks (or_and_checks (hbits 0) (hbits 1)) (hbits 2))

theorem setMac0 (h : Reaches may g k) (hmay : may mac0Reg = true) (v : Int) :
    Reaches may g (k.setMac0 v) :=
  (h.store _ hmay).raise (mac0Flag_and_checks v)

theorem setIr0 (h : Reaches may g k) (hmay : may ir0Reg = true) (v : Int) :
    Reaches may g (k.setIr0 v) :=
  (h.store _ hmay).raise (outside_and (by decide) v)

theorem setLanes (h : Reaches may g k)
    (hmay : ∀ lane, may (macReg lane) = true ∧ may (irReg lane) = true) (positive : Bool)
    (v : Vec) : Reaches may g (k.setLanes positive v) := by
  have hlane {k : Geometry} (h : Reaches may g k) (lane : Fin 3) (x : Int) :
      Reaches may g (k.setLane positive lane x) := by
    rw [setLane_eq]
    exact ((h.store _ (hmay lane).1).store _ (hmay lane).2).raise
      (or_and_checks (macFlag_and_checks ..) (irFlag_and_checks ..))
  exact hlane (hlane (hlane h 0 _) 1 _) 2 _

theorem pushScreen (h : Reaches may g k) (hmay : ∀ n, may (screenReg n) = true) (xy : Word) :
    Reaches may g (k.pushScreen xy) := by
  rw [pushScreen_eq]
  exact ((h.store _ (hmay 0)).store _ (hmay 1)).store _ (hmay 2)

theorem pushDepth (h : Reaches may g k) (hmay : ∀ n, may (depthReg n) = true) (z : UInt16) :
    Reaches may g (k.pushDepth z) := by
  rw [pushDepth_eq]
  exact (((h.store _ (hmay 0)).store _ (hmay 1)).store _ (hmay 2)).store _ (hmay 3)

theorem pushColor (h : Reaches may g k) (hmay : ∀ n, may (colorReg n) = true) (shift : Nat) :
    Reaches may g (k.pushColor shift) := by
  rw [pushColor_eq]
  exact (((h.store _ (hmay 0)).store _ (hmay 1)).store _ (hmay 2)).raiseLanes
    fun lane => outside_and (by revert lane; decide) _

theorem fade (h : Reaches may g k)
    (hmay : ∀ lane, may (macReg lane) = true ∧ may (irReg lane) = true) (positive : Bool)
    (base gap : Vec) : Reaches may g (k.fade positive base gap) := by
  rw [Geometry.fade]
  exact (h.raiseLanes fun _ => irFlag_and_checks ..).setLanes hmay positive _

theorem thrice {f : Fin 3 → Geometry → Geometry}
    (hf : ∀ n {k : Geometry}, Reaches may g k → Reaches may g (f n k)) (h : Reaches may g k) :
    Reaches may g (k.thrice f) :=
  hf 2 (hf 1 (hf 0 h))

/-! ### Commands

Each kind of command may write the registers that its steps do. -/

variable {o : Operation}

theorem projectPoint (h : Reaches o.writes g k) (ho : o.projects = true) (hmac0 : o.scalars = true)
    (z : Nat) : Reaches o.writes g (k.projectPoint z) := by
  have hx (v : Int) : screenXFlag v &&& ~~~Flag.checks = 0 := outside_and (by decide) v
  have hy (v : Int) : screenYFlag v &&& ~~~Flag.checks = 0 := outside_and (by decide) v
  rw [Geometry.projectPoint]
  refine ((Reaches.raise ?flags (h.pushScreen (o.writes_screen ho) _)).setMac0 hmac0 _).setIr0 ho _
  case flags =>
    exact or_and_checks (or_and_checks (or_and_checks (or_and_checks (divisorFlag_and_checks ..)
      (mac0Flag_and_checks _)) (hx _)) (mac0Flag_and_checks _)) (hy _)

theorem project (h : Reaches o.writes g k) (ho : o.projects = true) (hmac0 : o.scalars = true)
    (hlanes : o.vectors = true) (n : Fin 3) : Reaches o.writes g (k.project n) := by
  rw [Geometry.project]
  have hmoved := h.setLanes (o.writes_lane hlanes) false
    (product 12 k.rotation (k.vertex n) k.translation)
  exact ((hmoved.pushDepth (o.writes_depth ho) _).raise (depthFlag_and_checks _)).projectPoint ho
    hmac0 _

theorem average (h : Reaches o.writes g k) (ho : o.averages = true) (hmac0 : o.scalars = true)
    (scale sum : Int) : Reaches o.writes g (k.average scale sum) := by
  rw [Geometry.average]
  exact ((h.setMac0 hmac0 _).store _ ho).raise (depthFlag_and_checks _)

section

variable (hlanes : o.vectors = true)
include hlanes

theorem light (h : Reaches o.writes g k) (n : Fin 3) : Reaches o.writes g (Geometry.light n k) := by
  rw [Geometry.light]
  exact h.setLanes (o.writes_lane hlanes) _ _

theorem lightColor (h : Reaches o.writes g k) : Reaches o.writes g (Geometry.lightColor k) := by
  rw [Geometry.lightColor]
  exact h.setLanes (o.writes_lane hlanes) _ _

theorem outerProduct (h : Reaches o.writes g k) (shift : Nat) :
    Reaches o.writes g (k.outerProduct shift) := by
  rw [Geometry.outerProduct]
  exact h.setLanes (o.writes_lane hlanes) _ _

theorem square (h : Reaches o.writes g k) (shift : Nat) :
    Reaches o.writes g (k.square shift) := by
  rw [Geometry.square]
  exact h.setLanes (o.writes_lane hlanes) _ _

theorem modulate (h : Reaches o.writes g k) : Reaches o.writes g (Geometry.modulate k) := by
  rw [Geometry.modulate]
  exact h.setLanes (o.writes_lane hlanes) _ _

theorem modulateAndFade (h : Reaches o.writes g k) :
    Reaches o.writes g (Geometry.modulateAndFade k) := by
  rw [Geometry.modulateAndFade]
  exact h.fade (o.writes_lane hlanes) _ _ _

variable (ho : o.colors = true)
include ho

theorem depthCue (h : Reaches o.writes g k) (color : Vec) :
    Reaches o.writes g (k.depthCue color) := by
  rw [Geometry.depthCue]
  exact (h.fade (o.writes_lane hlanes) _ _ _).pushColor (o.writes_color ho) 4

theorem interpolate (h : Reaches o.writes g k) : Reaches o.writes g (Geometry.interpolate k) := by
  rw [Geometry.interpolate]
  exact (h.fade (o.writes_lane hlanes) _ _ _).pushColor (o.writes_color ho) 0

theorem scaleIr (h : Reaches o.writes g k) (shift : Nat) :
    Reaches o.writes g (k.scaleIr shift) := by
  rw [Geometry.scaleIr]
  exact (h.setLanes (o.writes_lane hlanes) _ _).pushColor (o.writes_color ho) 4

theorem scaleIrOntoMac (h : Reaches o.writes g k) (shift : Nat) :
    Reaches o.writes g (k.scaleIrOntoMac shift) := by
  rw [Geometry.scaleIrOntoMac]
  exact (h.setLanes (o.writes_lane hlanes) _ _).pushColor (o.writes_color ho) 4

theorem normalColor (h : Reaches o.writes g k) (n : Fin 3) :
    Reaches o.writes g (Geometry.normalColor n k) :=
  ((h.light hlanes n).lightColor hlanes).pushColor (o.writes_color ho) 4

theorem normalColorColor (h : Reaches o.writes g k) (n : Fin 3) :
    Reaches o.writes g (Geometry.normalColorColor n k) :=
  (((h.light hlanes n).lightColor hlanes).modulate hlanes).pushColor (o.writes_color ho) 4

theorem normalColorDepth (h : Reaches o.writes g k) (n : Fin 3) :
    Reaches o.writes g (Geometry.normalColorDepth n k) :=
  (((h.light hlanes n).lightColor hlanes).modulateAndFade hlanes).pushColor (o.writes_color ho) 4

end

end Reaches

/-- Between clearing and summing up the flags, a command writes its registers and raises flags of
range checks. -/
theorem reaches_apply (g : Geometry) (o : Operation) : Reaches o.writes g (g.apply o) := by
  have hstart : Reaches o.writes g g := .refl
  unfold Geometry.apply
  cases o with
  | rtps => exact hstart.project rfl rfl rfl 0
  | rtpt => exact hstart.thrice fun n _ h => h.project rfl rfl rfl n
  | nclip => exact hstart.setMac0 rfl _
  | op shift => exact hstart.outerProduct rfl shift
  | dpcs => exact hstart.depthCue rfl rfl _
  | dpct => exact hstart.thrice fun _ _ h => h.depthCue rfl rfl _
  | intpl => exact hstart.interpolate rfl rfl
  | mvmva shift m v c positive => exact hstart.setLanes (Operation.writes_lane rfl) _ _
  | ncs => exact hstart.normalColor rfl rfl 0
  | nct => exact hstart.thrice fun n _ h => h.normalColor rfl rfl n
  | nccs => exact hstart.normalColorColor rfl rfl 0
  | ncct => exact hstart.thrice fun n _ h => h.normalColorColor rfl rfl n
  | ncds => exact hstart.normalColorDepth rfl rfl 0
  | ncdt => exact hstart.thrice fun n _ h => h.normalColorDepth rfl rfl n
  | cc => exact ((hstart.lightColor rfl).modulate rfl).pushColor (Operation.writes_color rfl) 4
  | cdp =>
      exact ((hstart.lightColor rfl).modulateAndFade rfl).pushColor (Operation.writes_color rfl) 4
  | sqr shift => exact hstart.square rfl shift
  | avsz3 => exact hstart.average rfl rfl _ _
  | avsz4 => exact hstart.average rfl rfl _ _
  | gpf shift => exact hstart.scaleIr rfl rfl shift
  | gpl shift => exact hstart.scaleIrOntoMac rfl rfl shift

/-! ### The flags at the end -/

theorem Flag.bit_summarize (bits : Word) (n : Nat) :
    (Flag.summarize bits).bit n =
      (bits.bit n || (Flag.error.bit n && bits &&& Flag.errors != 0)) := by
  rw [Flag.summarize]
  cases bits &&& Flag.errors != 0 with
  | false => simp
  | true => simp [Word.bit_or]

theorem Flag.bit_error {n : Nat} (hn : n < 31) : Flag.error.bit n = false := by
  revert n
  decide

theorem Flag.bit_not_checks {n : Nat} (hn : n < 12 ∨ n = 31) : (~~~Flag.checks).bit n = true := by
  obtain hn | rfl := hn
  · revert n
    decide
  · decide

/-- What no range check has stays clear. -/
theorem Flag.bit_of_and_checks {bits : Word} (h : bits &&& ~~~Flag.checks = 0) {n : Nat}
    (hn : n < 12 ∨ n = 31) : bits.bit n = false := by
  have hbit := congrArg (·.bit n) h
  rwa [Word.bit_and _ _ (by omega), Word.bit_zero, bit_not_checks hn, Bool.and_true] at hbit

theorem Flag.bit_errors {n : Nat} (hn : n < 32) :
    Flag.errors.bit n = true ↔ 23 ≤ n ∧ n ≤ 30 ∨ 13 ≤ n ∧ n ≤ 18 := by
  revert n
  decide

theorem Flag.bit_summarize_of_lt (bits : Word) {n : Nat} (hn : n < 31) :
    (Flag.summarize bits).bit n = bits.bit n := by
  rw [Flag.bit_summarize, bit_error hn, Bool.false_and, Bool.or_false]

/-- The sum is set exactly if one of the flags is that it sums up. -/
theorem Flag.bit_error_summarize {bits : Word} (h : bits &&& ~~~Flag.checks = 0) :
    (Flag.summarize bits).bit 31 = true ↔
      ∃ n, (23 ≤ n ∧ n ≤ 30 ∨ 13 ≤ n ∧ n ≤ 18) ∧ (Flag.summarize bits).bit n = true := by
  have hsum : (Flag.summarize bits).bit 31 = true ↔ bits &&& Flag.errors ≠ 0 := by
    rw [Flag.bit_summarize, bit_of_and_checks h (Or.inr rfl), Bool.false_or,
      show Flag.error.bit 31 = true by decide, Bool.true_and, bne_iff_ne]
  have hother {n : Nat} (hn : n < 31) := bit_summarize_of_lt bits hn
  rw [hsum, Word.and_ne_zero_iff]
  constructor
  · rintro ⟨n, hn, herror, hbit⟩
    have hrange := (Flag.bit_errors hn).1 herror
    exact ⟨n, hrange, (hother (by omega)).trans hbit⟩
  · rintro ⟨n, hrange, hbit⟩
    exact ⟨n, by omega, (Flag.bit_errors (by omega)).2 hrange, (hother (by omega)).symm.trans hbit⟩

/-! ### Commands -/

/-- The registers `k` come from `g` by the command `o`: only its registers and the flags changed,
the flags have no bits below the last range check, and bit 31 sums up those of the errors. -/
structure Commanded (o : Operation) (g k : Geometry) : Prop where
  data : ∀ r, o.writes r = false → k.data.read r = g.data.read r
  control : ∀ r, r ≠ flagReg → k.control.read r = g.control.read r
  unused : ∀ n < 12, k.flags.bit n = false
  error : k.flags.bit 31 = true ↔
    ∃ n, (23 ≤ n ∧ n ≤ 30 ∨ 13 ≤ n ∧ n ≤ 18) ∧ k.flags.bit n = true

theorem commanded_execute (g : Geometry) (o : Operation) : Commanded o g (g.execute o) := by
  obtain ⟨done, hdone⟩ : ∃ done, done = (g.setFlags 0).apply o := ⟨_, rfl⟩
  have hexecute : g.execute o = done.setFlags (Flag.summarize done.flags) := by
    rw [hdone]
    rfl
  have hreach : Reaches o.writes (g.setFlags 0) done := hdone ▸ reaches_apply _ o
  have hflags : done.flags &&& ~~~Flag.checks = 0 := by
    rw [hreach.flags_and, flags_setFlags, UInt32.zero_and]
  rw [hexecute]
  constructor
  case data => exact fun r hr => hreach.read_eq hr
  case control =>
    intro r hr
    exact (Bank.read_write_of_ne _ _ hr.symm).trans
      ((hreach.readControl_eq hr).trans (Bank.read_write_of_ne _ _ hr.symm))
  case unused =>
    intro n hn
    rw [flags_setFlags, Flag.bit_summarize_of_lt _ (by omega)]
    exact Flag.bit_of_and_checks hflags (Or.inl hn)
  case error =>
    rw [flags_setFlags]
    exact Flag.bit_error_summarize hflags

/-- A command starts with clear flags. -/
theorem run_setFlags (w : Word) (g : Geometry) (bits : Word) {o : Operation}
    (ho : Operation.ofWord? w = some o) : run w (g.setFlags bits) = run w g := by
  rw [(run_eq ho _).2, (run_eq ho _).2, complete, complete, setFlags_setFlags]

namespace Operation

theorem commandBits_and (w : Word) {m : Word} (hm : 0x1ffffff &&& m = m) :
    commandBits w &&& m = w &&& m := by
  rw [commandBits, UInt32.and_assoc, hm]

/-- What the bits above the lowest 25 are does not matter. -/
theorem ofWord?_commandBits (w : Word) : ofWord? (commandBits w) = ofWord? w := by
  have hbits (n : Nat) (hn : n < 25) : (commandBits w).bit n = w.bit n := by
    rw [commandBits, Word.bit_and _ _ (by omega),
      show (0x1ffffff : Word).bit n = true by revert n; decide, Bool.and_true]
  have htwice : commandBits w &&& 0x1ffffff = w &&& 0x1ffffff := commandBits_and w (by decide)
  have hsame : commandBits (commandBits w) = commandBits w := htwice
  have hfunction : commandBits w &&& 0x3f = w &&& 0x3f := commandBits_and w (by decide)
  have hcode : (commandBits w >>> (20 : Word)) &&& (0x1f : Word) =
      (w >>> (20 : Word)) &&& (0x1f : Word) :=
    Word.shiftRight_and_congr htwice (by decide)
  rw [ofWord?, ofWord?, hsame]
  simp only [general?, shiftOf, matrixOf, vectorOf, addendOf, hfunction, hcode, hbits 10 (by decide),
    hbits 13 (by decide), hbits 14 (by decide), hbits 15 (by decide), hbits 16 (by decide),
    hbits 17 (by decide), hbits 18 (by decide), hbits 19 (by decide)]

end Operation

/-- Frame and flags of the commands. An instruction that hands the word `w` to the geometry engine
runs it on the registers there. If the low 25 bits of the word are no command, the registers stay
as they are. If they are, the result does not depend on the flags before, and only the registers
that the command writes are not what they were. -/
theorem commands_write_only (g : Geometry) (w : Word) :
    (∀ {β : Type} (B : Bus β) (s : System β),
      (s.perform B (.geometryCommand w)).cpu.core.geometry = run w s.cpu.core.geometry) ∧
    match Operation.ofWord? (Operation.commandBits w) with
    | none => run w g = g
    | some o => Commanded o g (run w g) ∧ ∀ bits, run w (g.setFlags bits) = run w g := by
  constructor
  · intro β B s
    rw [System.core_perform]
    simp only [Core.after]
    rw [run]
    cases s.cpu.core.geometry.command? w <;> simp
  · rw [Operation.ofWord?_commandBits]
    cases ho : Operation.ofWord? w with
    | none => simp only [run, command?, ho, Option.map_none, Option.getD_none]
    | some o =>
        refine ⟨?_, fun bits => run_setFlags w g bits ho⟩
        rw [run, command?, ho]
        exact commanded_execute g o

end R3000A.Geometry
