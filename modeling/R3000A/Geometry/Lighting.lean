import R3000A.Geometry.Transform

/-!
# Light and color

The commands that work on colors are chains of a few steps, each of which leaves its result in
MAC1 to MAC3 and IR1 to IR3: `light` a normal, mix the `lightColor`s, `modulate` by the given
color, fade toward the far color. The last step of every chain pushes the color queue.
-/

namespace R3000A.Geometry

/-- The light that falls on vertex `n` taken as a normal, one lane for each light. -/
def light (n : Fin 3) (g : Geometry) : Geometry :=
  g.setLanes true (product 12 g.lights (g.vertex n) fun _ => 0)

/-- The light in IR mixed to a color on top of the background. -/
def lightColor (g : Geometry) : Geometry :=
  g.setLanes true (product 12 g.lightColors g.ir g.background)

def modulate (g : Geometry) : Geometry :=
  let c := g.color
  let v := g.ir
  g.setLanes true fun lane => c lane * v lane / 256

/-- `base`, which has twelve fraction bits, moved toward the far color by IR0, where `gap` is the
way to the far color. -/
def fade (positive : Bool) (base gap : Vec) (g : Geometry) : Geometry :=
  let weight := g.ir0
  (g.raiseLanes fun lane => irFlag false lane (gap lane)).setLanes positive fun lane =>
    (base lane + weight * clampIr false (gap lane)) / 4096

def modulateAndFade (g : Geometry) : Geometry :=
  let c := g.color
  let v := g.ir
  let far := g.farColor
  g.fade true (fun lane => c lane * 16 * v lane) fun lane => far lane - c lane * v lane / 256

def depthCue (color : Vec) (g : Geometry) : Geometry :=
  let far := g.farColor
  (g.fade false (fun lane => 65536 * color lane) fun lane => far lane - 16 * color lane).pushColor 4

def interpolate (g : Geometry) : Geometry :=
  let v := g.ir
  let far := g.farColor
  pushColor 0 (g.fade false (fun lane => 4096 * v lane) fun lane => far lane - v lane)

def normalColor (n : Fin 3) (g : Geometry) : Geometry :=
  pushColor 4 (lightColor (light n g))

def normalColorColor (n : Fin 3) (g : Geometry) : Geometry :=
  pushColor 4 (modulate (lightColor (light n g)))

def normalColorDepth (n : Fin 3) (g : Geometry) : Geometry :=
  pushColor 4 (modulateAndFade (lightColor (light n g)))

def scaleIr (shift : Nat) (g : Geometry) : Geometry :=
  let weight := g.ir0
  let v := g.ir
  pushColor 4 (g.setLanes false fun lane => (weight * v lane) >>> shift)

def scaleIrOntoMac (shift : Nat) (g : Geometry) : Geometry :=
  let weight := g.ir0
  let v := g.ir
  let base := g.mac
  pushColor 4 (g.setLanes false fun lane =>
    ((base lane <<< shift) + weight * v lane) >>> shift)

end R3000A.Geometry
