import FramePipeline.Frame.Error

/-!
# Capture errors

Why a source delivers no frame, or a capture thread does not start, and the text that says so.

Main definitions: `CaptureError`, `CaptureError.message`.
-/

namespace FramePipeline

/-- Model of `CaptureError`: what fails on the capture side. -/
inductive CaptureError where
  | deviceNotFound (device : String)
  | unsupportedFormat (format : String)
  | notStarted
  | io (reason : String)
  | spawn (reason : String)
  /-- The frame itself is refused. -/
  | frame (e : HandoffError)
  deriving DecidableEq, Repr

/-- The text shown to people, as `CaptureError` writes itself. A refusal of a frame speaks for itself. -/
def CaptureError.message : CaptureError → String
  | deviceNotFound device => "device not found: " ++ device
  | unsupportedFormat format => "unsupported pixel format: " ++ format
  | notStarted => "capture stream not started"
  | io reason => "device I/O failed: " ++ reason
  | spawn reason => "failed to spawn capture thread: " ++ reason
  | frame e => e.message

end FramePipeline
