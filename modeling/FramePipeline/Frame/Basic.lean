import FramePipeline.Frame.StreamFormat

/-!
# Frames

A frame is one image of a stream: its bytes, the stream, and the sequence number under which a
session published it.

Main definitions: `Bytes`, `Frame`, `Frame.blank`, `Frame.structureText`.
-/

namespace FramePipeline

/-- A string of bytes. -/
abbrev Bytes := List UInt8

/-- Model of `FrameMetadata`: what is known of a frame besides its bytes. Sequence numbers start at one; zero
marks a buffer that was never published. -/
structure FrameMetadata where
  sequence : Nat
  stream : StreamFormat
  deriving DecidableEq, Repr

/-- Model of `Frame`: one image. -/
structure Frame where
  metadata : FrameMetadata
  data : Bytes
  deriving DecidableEq, Repr

namespace FrameMetadata

/-- The text of `FrameMetadata` as a structure. -/
def structureText (m : FrameMetadata) : String :=
  "FrameMetadata \x7b sequence: " ++ toString m.sequence ++ ", width: " ++
    toString m.stream.width.toNat ++ ", height: " ++ toString m.stream.height.toNat ++
    ", format: " ++ m.stream.format.structureName ++ " \x7d"

end FrameMetadata

namespace Frame

/-- Model of `Frame::blank`: a frame of `len` zero bytes that was never published. -/
def blank (stream : StreamFormat) (len : Nat) : Frame :=
  ⟨⟨0, stream⟩, List.replicate len 0⟩

/-- Model of `Frame::overwrite`: the buffer with new bytes and a new sequence number. -/
def overwrite (f : Frame) (bytes : Bytes) (sequence : Nat) : Frame :=
  ⟨{ f.metadata with sequence }, bytes⟩

/-- Model of `Frame::sequence`. -/
def sequence (f : Frame) : Nat :=
  f.metadata.sequence

/-- The text of `Frame` as a structure, with the bytes only counted. -/
def structureText (f : Frame) : String :=
  "Frame \x7b meta: " ++ f.metadata.structureText ++ ", bytes: " ++ toString f.data.length ++ " \x7d"

/-- The size, the format and the length, for people. -/
def summary (f : Frame) : String :=
  f.metadata.stream.summary f.data.length

@[simp] theorem length_blank (stream : StreamFormat) (len : Nat) :
    (blank stream len).data.length = len := by
  simp [blank]

end Frame

end FramePipeline
