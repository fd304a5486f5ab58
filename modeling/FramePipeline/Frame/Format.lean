import FramePipeline.Word

/-!
# Pixel formats

How the pixels of a frame are laid out in bytes. A *packed* format gives every pixel the same number
of bytes, one row after the other. A *semi-planar* format has a plane of one byte of luma per pixel
and below it a plane of chroma pairs for blocks of two by two pixels, rounded up at odd edges.

Main definitions: `PixelFormat`, `PixelFormat.frameLen?` (bytes of a frame, if they are a word),
`PixelFormat.planes?`, `PixelFormat.minStride?`.
-/

namespace FramePipeline

/-- Model of `PixelFormat`. All formats have a fixed size per frame. -/
inductive PixelFormat where
  | rgba8
  | rgb24
  | bgr24
  | yuyv4
  | gray8
  /-- Luma, then pairs of V and U. -/
  | nv21
  /-- Luma, then pairs of U and V. -/
  | nv12
  deriving DecidableEq, Repr

/-- The arrangement of a format's bytes. -/
inductive Layout where
  | packed (bytesPerPixel : Nat)
  | semiPlanar
  deriving DecidableEq, Repr

/-- Rows of equal length, without padding. -/
structure Plane where
  rows : Nat
  rowLen : Nat
  deriving DecidableEq, Repr

namespace PixelFormat

/-- All formats. -/
def all : List PixelFormat :=
  [rgba8, rgb24, bgr24, yuyv4, gray8, nv21, nv12]

/-! ## Names -/

/-- The name shown to people, as `PixelFormat` writes itself. -/
def label : PixelFormat → String
  | rgba8 => "RGBA"
  | rgb24 => "RGB24"
  | bgr24 => "BGR24"
  | yuyv4 => "YUYV"
  | gray8 => "GRAY8"
  | nv21 => "NV21"
  | nv12 => "NV12"

/-- The name in configurations. -/
def key : PixelFormat → String
  | rgba8 => "rgba8"
  | rgb24 => "rgb24"
  | bgr24 => "bgr24"
  | yuyv4 => "yuyv4"
  | gray8 => "gray8"
  | nv21 => "nv21"
  | nv12 => "nv12"

/-- The name in descriptions of a value's structure. -/
def structureName : PixelFormat → String
  | rgba8 => "Rgba8"
  | rgb24 => "Rgb24"
  | bgr24 => "Bgr24"
  | yuyv4 => "Yuyv4"
  | gray8 => "Gray8"
  | nv21 => "Nv21"
  | nv12 => "Nv12"

/-! ## Sizes -/

/-- The arrangement of the format's bytes. -/
def layout : PixelFormat → Layout
  | rgba8 => .packed 4
  | rgb24 => .packed 3
  | bgr24 => .packed 3
  | yuyv4 => .packed 2
  | gray8 => .packed 1
  | nv21 => .semiPlanar
  | nv12 => .semiPlanar

/-- Model of `PixelFormat::frame_len`: the bytes of a frame, if every step of the computation stays a word. -/
def frameLen? (format : PixelFormat) (width height : UInt32) : Option Nat := do
  let w := width.toNat
  let h := height.toNat
  let pixels ← Word.mul? w h
  match format.layout with
  | .packed bytes => Word.mul? pixels bytes
  | .semiPlanar =>
    let blocks ← Word.mul? (Word.halfUp w) (Word.halfUp h)
    let chroma ← Word.mul? blocks 2
    Word.add? pixels chroma

/-- Model of `PixelFormat::planes`: the planes of a frame, in the order of the buffer. An empty second plane
is left out. -/
def planes? (format : PixelFormat) (width height : UInt32) : Option (List Plane) := do
  let w := width.toNat
  let h := height.toNat
  match format.layout with
  | .packed bytes => some [⟨h, ← Word.mul? w bytes⟩]
  | .semiPlanar => some [⟨h, w⟩, ⟨Word.halfUp h, ← Word.mul? (Word.halfUp w) 2⟩]

/-- Model of `PixelFormat::min_stride`: the smallest distance between rows that a device can use for images of
this width, the longest row of an image of a single line. -/
def minStride? (format : PixelFormat) (width : UInt32) : Option Nat := do
  let planes ← format.planes? width 1
  some (planes.foldl (fun s p => max s p.rowLen) 0)

end PixelFormat

end FramePipeline
