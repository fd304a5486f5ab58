/-!
# Render errors

What fails on the render side, and the text that says so.

Main definitions: `RenderError`, `RenderError.message`.
-/

namespace FramePipeline

/-- Model of `RenderError`: what fails on the render side. -/
inductive RenderError where
  /-- A transform gave another number of bytes than it was given. -/
  | transformSize (expected actual : Nat)
  | transform (reason : String)
  | sink (reason : String)
  | spawn (reason : String)
  | panicked
  deriving DecidableEq, Repr

/-- The text shown to people, as `RenderError` writes itself. -/
def RenderError.message : RenderError → String
  | transformSize expected actual =>
    "transform changed frame size: expected " ++ toString expected ++ " bytes, got " ++
      toString actual
  | transform reason => "transform failed: " ++ reason
  | sink reason => "sink failed: " ++ reason
  | spawn reason => "failed to spawn render thread: " ++ reason
  | panicked => "render thread panicked"

end FramePipeline
