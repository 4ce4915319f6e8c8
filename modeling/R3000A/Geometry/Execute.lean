import R3000A.Geometry.Lighting
import R3000A.Geometry.Operation

/-!
# Execution of geometry commands

A command starts with a clear flag register and ends by summing up the error flags. A word that is
no command changes nothing.
-/

namespace R3000A.Geometry

def matrix (g : Geometry) : MatrixChoice → Mat
  | .rotation => g.rotation
  | .lights => g.lights
  | .lightColors => g.lightColors
  | .zero => fun _ _ => 0

def vector (g : Geometry) : VectorChoice → Vec
  | .vertex n => g.vertex n
  | .ir => g.ir

def addend (g : Geometry) : AddendChoice → Vec
  | .translation => g.translation
  | .background => g.background
  | .farColor => g.farColor
  | .zero => fun _ => 0

/-- One command for each of the three vertices or queue entries in turn. -/
def thrice (f : Fin 3 → Geometry → Geometry) (g : Geometry) : Geometry := f 2 (f 1 (f 0 g))

/-- What a command does between clearing and summing up the flags. -/
def apply (g : Geometry) : Operation → Geometry
  | .rtps => g.project 0
  | .rtpt => g.thrice project
  | .nclip => g.setMac0 g.winding
  | .op shift => g.outerProduct shift
  | .dpcs => g.depthCue g.color
  | .dpct => g.thrice fun _ g => g.depthCue g.oldestColor
  | .intpl => g.interpolate
  | .mvmva shift m v c positive =>
    g.setLanes positive (product shift (g.matrix m) (g.vector v) (g.addend c))
  | .ncs => g.normalColor 0
  | .nct => g.thrice normalColor
  | .nccs => g.normalColorColor 0
  | .ncct => g.thrice normalColorColor
  | .ncds => g.normalColorDepth 0
  | .ncdt => g.thrice normalColorDepth
  | .cc => pushColor 4 (modulate (lightColor g))
  | .cdp => pushColor 4 (modulateAndFade (lightColor g))
  | .sqr shift => g.square shift
  | .avsz3 => g.average g.scale3 g.depthSum3
  | .avsz4 => g.average g.scale4 g.depthSum4
  | .gpf shift => g.scaleIr shift
  | .gpl shift => g.scaleIrOntoMac shift

def execute (g : Geometry) (o : Operation) : Geometry :=
  let done := (g.setFlags 0).apply o
  done.setFlags (Flag.summarize done.flags)

/-- The registers after the command in a word, if it is one. -/
def command? (g : Geometry) (w : Word) : Option Geometry := (Operation.ofWord? w).map g.execute

end R3000A.Geometry
