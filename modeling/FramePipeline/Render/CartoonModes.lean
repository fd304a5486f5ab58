/-!
# Cartoon modes

The switches that are handed to the transform with every frame.

Main definitions: `CartoonModes`, `CartoonModes.mask`.
-/

namespace FramePipeline

/-- Model of `CartoonModes`: what the transform should make of a frame. -/
structure CartoonModes where
  /-- Line drawing instead of painting. -/
  sketch : Bool := false
  /-- Skin in an alien tone. -/
  alien : Bool := false
  /-- An evil character instead of a good one. -/
  evil : Bool := false
  /-- Intermediate results are put out too. -/
  debug : Bool := false
  deriving DecidableEq, Repr

/-- The switches as bits of a number, the first one lowest. -/
def CartoonModes.mask (s : CartoonModes) : Nat :=
  s.sketch.toNat + 2 * s.alien.toNat + 4 * s.evil.toNat + 8 * s.debug.toNat

end FramePipeline
