import FramePipeline.Frame.Error
import FramePipeline.Frame.Format

/-!
# Streams

A stream fixes the geometry and the pixel format of all its frames.

Main definitions: `StreamFormat`, `StreamFormat.frameLen` (the bytes of one frame, or the refusal of the
dimensions), `StreamFormat.text`.
-/

namespace FramePipeline

/-- Model of `StreamFormat`: the geometry and the pixel format of a sequence of frames. -/
structure StreamFormat where
  width : UInt32
  height : UInt32
  format : PixelFormat
  deriving DecidableEq, Repr

namespace StreamFormat

/-- Model of `StreamFormat::frame_len`: the bytes of one frame. No side may be zero, and the length must be a
word. -/
def frameLen (s : StreamFormat) : Except HandoffError Nat :=
  if s.width = 0 ∨ s.height = 0 then .error (.invalidDimensions s.width s.height)
  else
    match s.format.frameLen? s.width s.height with
    | some n => .ok n
    | none => .error (.invalidDimensions s.width s.height)

/-- The planes of one frame, which `copy_unpadded` asks `PixelFormat::planes` for. -/
def planes (s : StreamFormat) : Except HandoffError (List Plane) :=
  match s.format.planes? s.width s.height with
  | some ps => .ok ps
  | none => .error (.invalidDimensions s.width s.height)

/-! ## Text -/

/-- Width and height with a cross between them. -/
def sizeText (s : StreamFormat) : String :=
  toString s.width.toNat ++ "x" ++ toString s.height.toNat

/-- The text shown to people, as `StreamFormat` writes itself: size and format. -/
def text (s : StreamFormat) : String :=
  s.sizeText ++ " " ++ s.format.label

/-- Size, format and the length of a frame, for people. -/
def summary (s : StreamFormat) (length : Nat) : String :=
  s.text ++ ", " ++ toString length ++ " bytes"

/-- The text of `StreamFormat` as a structure. -/
def structureText (s : StreamFormat) : String :=
  "StreamFormat \x7b width: " ++ toString s.width.toNat ++ ", height: " ++
    toString s.height.toNat ++ ", format: " ++ s.format.structureName ++ " \x7d"

end StreamFormat

end FramePipeline
