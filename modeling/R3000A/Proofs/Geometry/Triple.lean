import R3000A.Proofs.Geometry.Commands
import R3000A.Proofs.Geometry.Unseen

/-!
# Commands done three times

Five commands do for three vertices, or for three colors, what another command does for one.
`inTurn` is the other way to get there: the single command run three times, with its operand put in
place before each run and the registers put back after the last. Both lead to the same registers.
The passes share MAC, IR, the queues and the flags, so this needs that no pass sees what was put in
place for another (`Passes.change`), that flags only accumulate (`Passes.raise`), and that summing
up the flags of all passes is the same as summing up those of each.
-/

namespace R3000A.Geometry

theorem Flag.summarize_or (a b : Word) :
    Flag.summarize (a ||| b) = Flag.summarize a ||| Flag.summarize b := by
  have hsum (w : Word) : Flag.summarize w = w ||| if w &&& errors = 0 then 0 else error := by
    by_cases h : w &&& errors = 0 <;> simp [Flag.summarize, h]
  have hor : (a ||| b) &&& errors = 0 ↔ a &&& errors = 0 ∧ b &&& errors = 0 := by
    rw [Word.or_and, UInt32.or_eq_zero_iff]
  rw [hsum, hsum, hsum]
  by_cases ha : a &&& errors = 0 <;> by_cases hb : b &&& errors = 0 <;>
    simp only [hor, ha, hb, true_and, and_true, and_self, if_true, if_false] <;> ac_rfl

/-- The registers after the command in a word, or as they are if it is none. -/
def run (w : Word) (g : Geometry) : Geometry := (g.command? w).getD g

/-- The registers after `once` has been done three times, each time prepared for, and put back
afterwards. The flags are those of all three times. -/
def inTurn (once : Geometry → Geometry) (prepare : Fin 3 → Geometry → Geometry)
    (restore : Geometry → Geometry) (g : Geometry) : Geometry :=
  let first := once (prepare 0 g)
  let second := once (prepare 1 first)
  let third := once (prepare 2 second)
  (restore third).setFlags (first.flags ||| second.flags ||| third.flags)

/-- A step as a command: between clearing and summing up the flags. -/
def complete (step : Geometry → Geometry) (g : Geometry) : Geometry :=
  let done := step (g.setFlags 0)
  done.setFlags (Flag.summarize done.flags)

theorem run_eq {w : Word} {o : Operation} (h : Operation.ofWord? w = some o) (g : Geometry) :
    g.command? w = some (complete (·.apply o) g) ∧ run w g = complete (·.apply o) g := by
  rw [run, command?, h]
  exact ⟨rfl, rfl⟩

theorem eq_execute {w : Word} {o : Operation} (ho : Operation.ofWord? w = some o) {g k : Geometry}
    (h : g.command? w = some k) : k = g.execute o := by
  rw [command?, ho, Option.map_some, Option.some.injEq] at h
  exact h.symm

/-- A step that only adds flags does the same with clear flags, and adds those from before. -/
theorem eq_raise_of_raise {step : Geometry → Geometry}
    (hstep : ∀ g bits, step (g.raise bits) = (step g).raise bits) (g : Geometry) :
    step g = (step (g.setFlags 0)).raise g.flags := by
  have hclear : (g.setFlags 0).raise g.flags = g := by
    rw [Geometry.raise, flags_setFlags, setFlags_setFlags, UInt32.zero_or, setFlags_flags]
  rw [← hstep, hclear]

/-- Pass `n` of a triple does what `single` does once it has been prepared for. -/
structure Passes (single : Geometry → Geometry) (pass prepare : Fin 3 → Geometry → Geometry)
    (restore : Geometry → Geometry) : Prop where
  single : ∀ n g, single (prepare n g) = pass n (prepare n g)
  change : ∀ n m g, pass n (prepare m g) = prepare m (pass n g)
  raise : ∀ n g bits, pass n (g.raise bits) = (pass n g).raise bits
  setFlags : ∀ n g bits, (prepare n g).setFlags bits = prepare n (g.setFlags bits)
  forget : ∀ n g, restore (prepare n g) = restore g
  setFlags_restore : ∀ g bits, (restore g).setFlags bits = restore (g.setFlags bits)

namespace Passes

variable {single : Geometry → Geometry} {pass prepare : Fin 3 → Geometry → Geometry}
  {restore : Geometry → Geometry}

theorem flags_prepare (h : Passes single pass prepare restore) (n : Fin 3) (g : Geometry) :
    (prepare n g).flags = g.flags := by
  have hset := h.setFlags n g g.flags
  rw [setFlags_flags] at hset
  rw [← hset, flags_setFlags]

/-- A pass after others adds its flags to theirs. -/
theorem pass_eq (h : Passes single pass prepare restore) (n : Fin 3) (g : Geometry) :
    pass n g = (pass n (g.setFlags 0)).raise g.flags :=
  eq_raise_of_raise (h.raise n) g

/-- One run of the single command, on registers that are prepared for other passes as well. -/
theorem complete_prepare (h : Passes single pass prepare restore) (n : Fin 3) (g : Geometry) :
    complete single (prepare n g) = prepare n (complete (pass n) g) := by
  rw [complete, complete, h.setFlags, h.single, h.change, h.flags_prepare, h.setFlags]

theorem complete_pass_prepare (h : Passes single pass prepare restore) (n m : Fin 3)
    (g : Geometry) : complete (pass n) (prepare m g) = prepare m (complete (pass n) g) := by
  rw [complete, complete, h.setFlags, h.change, h.flags_prepare, h.setFlags]

theorem complete_pass_setFlags (n : Fin 3) (g : Geometry) (bits : Word) :
    complete (pass n) (g.setFlags bits) = complete (pass n) g := by
  rw [complete, complete, setFlags_setFlags]

/-- The registers after all passes are those that the single command leaves in the end, put back,
and the flags are those of all three. -/
theorem inTurn_eq (h : Passes single pass prepare restore) (g : Geometry) :
    inTurn (complete single) prepare restore g = restore (complete (thrice pass) g) := by
  obtain ⟨p, hp⟩ : ∃ p, p = pass 0 (g.setFlags 0) := ⟨_, rfl⟩
  obtain ⟨q, hq⟩ : ∃ q, q = pass 1 (p.setFlags 0) := ⟨_, rfl⟩
  obtain ⟨r, hr⟩ : ∃ r, r = pass 2 (q.setFlags 0) := ⟨_, rfl⟩
  have hfirst : complete (pass 0) g = p.setFlags (Flag.summarize p.flags) := by rw [complete, ← hp]
  have hsecond : complete (pass 1) p = q.setFlags (Flag.summarize q.flags) := by
    rw [complete, ← hq]
  have hthird : complete (pass 2) q = r.setFlags (Flag.summarize r.flags) := by rw [complete, ← hr]
  have hthrice : thrice pass (g.setFlags 0) = (r.raise q.flags).raise p.flags := by
    rw [thrice, ← hp, h.pass_eq 1 p, ← hq, h.raise, h.pass_eq 2 q, ← hr]
  simp only [inTurn, h.complete_prepare, hfirst, complete_pass_setFlags, h.complete_pass_prepare,
    hsecond, hthird, h.flags_prepare, flags_setFlags, h.forget, h.setFlags_restore,
    setFlags_setFlags]
  rw [complete, hthrice, Geometry.raise, Geometry.raise, setFlags_setFlags, setFlags_setFlags,
    flags_setFlags, flags_setFlags, ← Flag.summarize_or, ← Flag.summarize_or]
  congr 2
  ac_rfl

end Passes

/-! ### Vertices -/

def vertexOf (xy z : Word) : Vec
  | 0 => xy.lowSigned
  | 1 => xy.highSigned
  | 2 => z.lowSigned

def loadVertex (xy z : Word) (g : Geometry) : Geometry :=
  (g.writeData (vertexXyReg 0) xy).writeData (vertexZReg 0) z

/-- The registers after a command has been run for the three vertices, each of which was loaded in
place of the first. `view` tells with which words. -/
def onVertices (view : Reg → Word) (w : Word) (g : Geometry) : Geometry :=
  let load (n : Fin 3) := loadVertex (view (vertexXyReg n)) (view (vertexZReg n))
  inTurn (run w) load (load 0) g

theorem vertex_eq (g : Geometry) (n : Fin 3) :
    g.vertex n = vertexOf (g.data.read (vertexXyReg n)) (g.data.read (vertexZReg n)) := by
  funext lane
  rcases lane with ⟨_ | _ | _ | _, hlane⟩
  · rfl
  · rfl
  · rfl
  · omega

theorem vertex_loadVertex (xy z : Word) (g : Geometry) :
    (loadVertex xy z g).vertex 0 = vertexOf xy z := by
  have hxy : (loadVertex xy z g).data.read (vertexXyReg 0) = xy :=
    (Bank.read_write_of_ne _ _ (by decide)).trans (Bank.read_write_self ..)
  have hz : (loadVertex xy z g).data.read (vertexZReg 0) = z := Bank.read_write_self ..
  rw [vertex_eq, hxy, hz]

theorem unseen_loadVertex (xy z : Word) : Unseen (loadVertex xy z) :=
  (Unseen.storing (r := vertexZReg 0) (by decide) z).comp
    (Unseen.storing (r := vertexXyReg 0) (by decide) xy)

theorem color_loadVertex (xy z : Word) (g : Geometry) : (loadVertex xy z g).color = g.color :=
  congrArg components ((Bank.read_write_of_ne _ _ (by decide)).trans
    (Bank.read_write_of_ne _ _ (by decide)))

theorem loadVertex_loadVertex (xy z xy' z' : Word) (g : Geometry) :
    loadVertex xy' z' (loadVertex xy z g) = loadVertex xy' z' g := by
  have hdata : (((g.data.write (vertexXyReg 0) xy).write (vertexZReg 0) z).write (vertexXyReg 0)
      xy').write (vertexZReg 0) z' =
        (g.data.write (vertexXyReg 0) xy').write (vertexZReg 0) z' := by
    rw [(g.data.write (vertexXyReg 0) xy).write_comm (by decide) z, Bank.write_write_self,
      Bank.write_write_self]
  exact congrArg (Geometry.mk · g.control) hdata

section

variable {step : Vec → Geometry → Geometry}

/-- A step for a vertex leaves all vertices alone. -/
theorem read_of_overlooks (hstep : ∀ v, Overlooks (step v)) (v : Vec) {r : Reg} (hr : r.val < 6)
    (g : Geometry) : (step v g).data.read r = g.data.read r := by
  have hne : r ≠ colorCodeReg := Fin.ne_of_val_ne (by simp [colorCodeReg]; omega)
  refine read_of_commutes (fun w k => hstep v _ (Unseen.storing hr w) (fun k => ?_) k) g
  exact congrArg components (Bank.read_write_of_ne _ _ hne)

theorem read_complete_thrice (hstep : ∀ v, Overlooks (step v)) (v : Fin 3 → Geometry → Vec)
    {r : Reg} (hr : r.val < 6) (g : Geometry) :
    (complete (thrice fun n k => step (v n k) k) g).data.read r = g.data.read r := by
  change (thrice (fun n k => step (v n k) k) (g.setFlags 0)).data.read r = g.data.read r
  rw [thrice, read_of_overlooks hstep _ hr, read_of_overlooks hstep _ hr,
    read_of_overlooks hstep _ hr]
  rfl

theorem passes_of_overlooks (hstep : ∀ v, Overlooks (step v)) (xy z : Fin 3 → Word)
    (xy' z' : Word) :
    Passes (fun g => step (g.vertex 0) g) (fun n => step (vertexOf (xy n) (z n)))
      (fun n => loadVertex (xy n) (z n)) (loadVertex xy' z') where
  single n g := by rw [vertex_loadVertex]
  change n m := hstep _ _ (unseen_loadVertex _ _) (color_loadVertex _ _)
  raise n g bits := hstep _ _ (Unseen.raising bits) (fun _ => rfl) g
  setFlags _ _ _ := rfl
  forget n g := loadVertex_loadVertex ..
  setFlags_restore _ _ := rfl

/-- What a command does for the vertices one after the other is what it does for each when loaded
in place of the first, whatever words show the vertices. -/
theorem inTurn_vertices (hstep : ∀ v, Overlooks (step v)) {xy z : Fin 3 → Word} {g : Geometry}
    (hshown : ∀ n, vertexOf (xy n) (z n) = g.vertex n) (xy' z' : Word) :
    inTurn (complete fun g => step (g.vertex 0) g) (fun n => loadVertex (xy n) (z n))
        (loadVertex xy' z') g =
      loadVertex xy' z' (complete (thrice fun n g => step (g.vertex n) g) g) := by
  have hvertex (v : Vec) (n : Fin 3) (k : Geometry) : (step v k).vertex n = k.vertex n := by
    rw [vertex_eq, vertex_eq, read_of_overlooks hstep v (by revert n; decide),
      read_of_overlooks hstep v (by revert n; decide)]
  have hsame : thrice (fun n => step (vertexOf (xy n) (z n))) (g.setFlags 0) =
      thrice (fun n g => step (g.vertex n) g) (g.setFlags 0) := by
    simp only [thrice, hshown, hvertex]
    rfl
  rw [(passes_of_overlooks hstep xy z xy' z').inTurn_eq, complete, complete, hsame]

end

/-- The command `triple` does what running `single` for each vertex does. If the vertices are moved
as they are stored, the same words are stored in the end; if they are moved as they are read, the
same is read in the end. -/
structure OncePerVertex (triple single : Word) (g : Geometry) : Prop where
  stored : g.command? triple = some (g.onVertices (fun r => g.data.read r) single)
  shown : ∃ k, g.command? triple = some k ∧ k.Alike (g.onVertices g.readData single)

theorem vertex_readData (g : Geometry) (n : Fin 3) :
    vertexOf (g.readData (vertexXyReg n)) (g.readData (vertexZReg n)) = g.vertex n := by
  have hbits : visibleBits (vertexZReg n) = 0xffff := by revert n; decide
  have hxy : g.readData (vertexXyReg n) = g.data.read (vertexXyReg n) := by
    rcases n with ⟨_ | _ | _ | _, hn⟩
    · rfl
    · rfl
    · rfl
    · omega
  have hz : (g.readData (vertexZReg n)).lowSigned = (g.data.read (vertexZReg n)).lowSigned := by
    refine Word.lowSigned_congr (Word.and_half_eq_iff.1 ?_)
    rw [← hbits, readData_and]
  rw [vertex_eq, hxy]
  funext lane
  rcases lane with ⟨_ | _ | _ | _, hlane⟩
  · rfl
  · rfl
  · exact hz
  · omega

theorem loadVertex_eq_self {g : Geometry} {xy z : Word} (hxy : g.data.read (vertexXyReg 0) = xy)
    (hz : g.data.read (vertexZReg 0) = z) : loadVertex xy z g = g := by
  have hdata : (g.data.write (vertexXyReg 0) xy).write (vertexZReg 0) z = g.data := by
    rw [← hxy, Bank.write_read, ← hz, Bank.write_read]
  exact congrArg (Geometry.mk · g.control) hdata

theorem oncePerVertex {step : Vec → Geometry → Geometry} (hstep : ∀ v, Overlooks (step v))
    {triple single : Word} {t s : Operation} (ht : Operation.ofWord? triple = some t)
    (hs : Operation.ofWord? single = some s)
    (htriple : ∀ g, g.apply t = thrice (fun n g => step (g.vertex n) g) g)
    (hsingle : ∀ g, g.apply s = step (g.vertex 0) g) (g : Geometry) :
    OncePerVertex triple single g := by
  obtain ⟨k, hk⟩ : ∃ k, k = complete (thrice fun n g => step (g.vertex n) g) g := ⟨_, rfl⟩
  have hcommand : g.command? triple = some k := by rw [(run_eq ht g).1, funext htriple, hk]
  have hrun : run single = complete fun g => step (g.vertex 0) g := by
    funext g
    rw [(run_eq hs g).2, funext hsingle]
  have hkept {r : Reg} (hr : r.val < 6) : k.data.read r = g.data.read r := by
    rw [hk, read_complete_thrice hstep _ hr]
  have hself : loadVertex (g.data.read (vertexXyReg 0)) (g.data.read (vertexZReg 0)) k = k :=
    loadVertex_eq_self (hkept (by decide)) (hkept (by decide))
  constructor
  case stored =>
    rw [onVertices, hrun, inTurn_vertices hstep fun n => (vertex_eq g n).symm, ← hk, hself, hcommand]
  case shown =>
    refine ⟨k, hcommand, ?_⟩
    rw [onVertices, hrun, inTurn_vertices hstep (vertex_readData g), ← hk]
    have hstored : k.Alike k := ⟨fun _ => rfl, rfl⟩
    have hloaded : (loadVertex (g.data.read (vertexXyReg 0)) (g.data.read (vertexZReg 0)) k).Alike
        (loadVertex (g.readData (vertexXyReg 0)) (g.readData (vertexZReg 0)) k) :=
      (hstored.write _ (g.readData_and _).symm).write _ (g.readData_and _).symm
    rwa [hself] at hloaded

/-! ### Colors -/

theorem read_fade (positive : Bool) (base gap : Vec) (g : Geometry) {r : Reg}
    (hr : ∀ lane, macReg lane ≠ r ∧ irReg lane ≠ r) :
    (g.fade positive base gap).data.read r = g.data.read r := by
  have hlane (k : Geometry) (lane : Fin 3) (v : Int) :
      (k.setLane positive lane v).data.read r = k.data.read r :=
    (Bank.read_write_of_ne _ _ (hr lane).2).trans (Bank.read_write_of_ne _ _ (hr lane).1)
  rw [Geometry.fade, setLanes, hlane, hlane, hlane]
  rfl

/-- What depth cueing does to the colors: the given one stays, and the queue moves on. -/
theorem read_depthCue (color : Vec) (g : Geometry) :
    (g.depthCue color).data.read colorCodeReg = g.data.read colorCodeReg ∧
      (g.depthCue color).data.read (colorReg 0) = g.data.read (colorReg 1) ∧
      (g.depthCue color).data.read (colorReg 1) = g.data.read (colorReg 2) := by
  obtain ⟨k, hk⟩ : ∃ k : Geometry, g.depthCue color = k.pushColor 4 ∧ ∀ r : Reg,
      (∀ lane, macReg lane ≠ r ∧ irReg lane ≠ r) → k.data.read r = g.data.read r :=
    ⟨_, rfl, fun _ => read_fade _ _ _ _⟩
  obtain ⟨holdest, hmiddle, -⟩ := read_pushColor 4 k
  rw [hk.1, ← hk.2 _ (by decide), ← hk.2 (colorReg 1) (by decide), ← hk.2 (colorReg 2) (by decide)]
  exact ⟨read_pushColor_of_ne 4 k (by decide), holdest, hmiddle⟩

/-- Replacing the given color is not seen by depth cueing, which gets its color otherwise. -/
theorem passes_recolor (w : Fin 3 → Word) (old : Word) :
    Passes (fun g => g.depthCue g.color) (fun n => depthCue (components (w n)))
      (fun n => (·.recolor (w n))) (·.writeData colorCodeReg old) where
  single n g := by rw [color_recolor]
  change n m g := (Unseen.recoloring _).depthCue _ g
  raise n g bits := (Unseen.raising bits).depthCue _ g
  setFlags _ _ _ := rfl
  forget n g := congrArg (Geometry.mk · g.control) (Bank.write_write_self ..)
  setFlags_restore _ _ := rfl

/-- The registers after a command has been run with each color of the queue as the given one. -/
def onColors (w : Word) (g : Geometry) : Geometry :=
  inTurn (run w) (fun n k => k.recolor (g.data.read (colorReg n)))
    (·.writeData colorCodeReg (g.data.read colorCodeReg)) g

theorem command?_dpct (g : Geometry) : g.command? 0x0f8002a = some (g.onColors 0x0780010) := by
  obtain ⟨pass, hpass⟩ : ∃ pass : Fin 3 → Geometry → Geometry,
      pass = fun n => depthCue (components (g.data.read (colorReg n))) := ⟨_, rfl⟩
  have htriple : Operation.ofWord? 0x0f8002a = some .dpct := by decide
  have hsingle : Operation.ofWord? 0x0780010 = some .dpcs := by decide
  have hrun : run 0x0780010 = complete fun g => g.depthCue g.color := funext fun g => (run_eq hsingle g).2
  -- The queue moves on with each pass, so the oldest color is the next one of those before.
  have hthrice : (g.setFlags 0).apply .dpct = thrice pass (g.setFlags 0) := by
    simp only [apply, thrice, oldestColor, (read_depthCue _ _).2, hpass]
    rfl
  have hkept : (thrice pass (g.setFlags 0)).data.read colorCodeReg = g.data.read colorCodeReg := by
    simp only [thrice, (read_depthCue _ _).1, hpass]
    rfl
  have hself : (complete (thrice pass) g).writeData colorCodeReg (g.data.read colorCodeReg) =
      complete (thrice pass) g := by
    rw [← hkept]
    exact congrArg (Geometry.mk · _) (Bank.write_read ..)
  rw [onColors, hrun, (passes_recolor _ _).inTurn_eq, ← hpass, hself, (run_eq htriple g).1, complete,
    complete, hthrice]

/-! ### The commands -/

/-- The six words of triple commands. The vertices are loaded in place of the first one, which is
put back in the end, and the queued colors take the place of the given one. -/
theorem triples_are_singles_in_turn (g : Geometry) :
    OncePerVertex 0x0280030 0x0180001 g ∧ OncePerVertex 0x0d80420 0x0c8041e g ∧
      OncePerVertex 0x108043f 0x108041b g ∧ OncePerVertex 0x118043f 0x108041b g ∧
      OncePerVertex 0x0f80416 0x0e80413 g ∧
      g.command? 0x0f8002a = some (g.onColors 0x0780010) := by
  have hcolor (v : Vec) : Overlooks fun g => pushColor 4 (lightColor (lightVector v g)) :=
    (Overlooks.pushColor 4).comp (Overlooks.lightColor.comp (Overlooks.lightVector v))
  have hcolorColor (v : Vec) :
      Overlooks fun g => pushColor 4 (modulate (lightColor (lightVector v g))) :=
    (Overlooks.pushColor 4).comp (Overlooks.modulate.comp
      (Overlooks.lightColor.comp (Overlooks.lightVector v)))
  have hcolorDepth (v : Vec) :
      Overlooks fun g => pushColor 4 (modulateAndFade (lightColor (lightVector v g))) :=
    (Overlooks.pushColor 4).comp (Overlooks.modulateAndFade.comp
      (Overlooks.lightColor.comp (Overlooks.lightVector v)))
  refine ⟨?rtpt, ?nct, ?ncct, ?ncct', ?ncdt, command?_dpct g⟩
  case rtpt =>
    exact oncePerVertex Overlooks.projectVector (t := .rtpt) (s := .rtps) (by decide) (by decide)
      (fun _ => rfl) (fun _ => rfl) g
  case nct =>
    exact oncePerVertex hcolor (t := .nct) (s := .ncs) (by decide) (by decide)
      (fun _ => rfl) (fun _ => rfl) g
  case ncct =>
    exact oncePerVertex hcolorColor (t := .ncct) (s := .nccs) (by decide) (by decide)
      (fun _ => rfl) (fun _ => rfl) g
  case ncct' =>
    exact oncePerVertex hcolorColor (t := .ncct) (s := .nccs) (by decide) (by decide)
      (fun _ => rfl) (fun _ => rfl) g
  case ncdt =>
    exact oncePerVertex hcolorDepth (t := .ncdt) (s := .ncds) (by decide) (by decide)
      (fun _ => rfl) (fun _ => rfl) g

end R3000A.Geometry
