import FramePipeline.Frame.Basic
import FramePipeline.Memory

/-!
# The test pattern

A diagonal gradient that moves by one pixel with every frame: the luma of a pixel is the sum of its
coordinates and the number of the frame, modulo 256. It stands in for a camera.

Main definitions: `TestPattern`, `TestPattern.fill` (writes a frame over a buffer), `TestPattern.nextFrame`,
`TestPattern.frame`, `TestPattern.frames`.
-/

namespace FramePipeline

/-! ## Buffers -/

/-- A buffer with a new length. What is beyond it is cut off, and what is missing is filled up with zeros. -/
def resize (buf : Bytes) (len : Nat) : Bytes :=
  buf.take len ++ List.replicate (len - buf.length) 0

/-- Writes chunks of `size` bytes over a buffer, as many as there is room for. What is behind the last one
stays as it is. -/
def overwriteChunks (size : Nat) (chunk : Nat → Bytes) (out : Bytes) : Bytes :=
  let count := out.length / size
  (List.range count).flatMap chunk ++ out.drop (count * size)

/-- Whole chunks leave nothing of the buffer. -/
theorem overwriteChunks_of_whole {size count : Nat} {chunk : Nat → Bytes} {out : Bytes} (pos : 0 < size)
    (whole : out.length = count * size) : overwriteChunks size chunk out =
      (List.range count).flatMap chunk := by
  have chunks : out.length / size = count := by rw [whole, Nat.mul_div_cancel _ pos]
  rw [overwriteChunks, chunks, ← whole, List.drop_length, List.append_nil]

theorem length_resize (buf : Bytes) (len : Nat) : (resize buf len).length = len := by
  rw [resize, List.length_append, List.length_take, List.length_replicate]
  omega

/-! ## The source -/

/-- Model of `TestPattern`: a source of test frames. -/
structure TestPattern where
  stream : StreamFormat
  frameLen : Nat
  /-- How many frames it has made. -/
  produced : Nat := 0
  deriving DecidableEq, Repr

namespace TestPattern

/-- Model of `TestPattern::new`: the source for a stream. -/
def start (stream : StreamFormat) : Except HandoffError TestPattern :=
  match stream.frameLen with
  | .ok frameLen => .ok { stream, frameLen }
  | .error e => .error e

/-- The name of the source. -/
def name : String := "test-pattern"

/-! ## Pixels -/

/-- The value of chroma without colour. -/
def neutral : UInt8 := 0x80

/-- The luma in `TestPattern::fill` of the `i`-th pixel, counted row by row, in frame `k`. -/
def luma (width : Nat) (k i : Nat) : UInt8 :=
  UInt8.ofNat ((i % width + i / width + k) % 256)

/-- The bytes of a pixel of a luma. In semi-planar formats they are those of the luma plane. -/
def pixel (format : PixelFormat) (v : UInt8) : Bytes :=
  match format with
  | .rgba8 => [v, v / 2, 255 - v, 255]
  | .rgb24 => [v, v / 2, 255 - v]
  | .bgr24 => [255 - v, v / 2, v]
  | .yuyv4 => [v, neutral]
  | .gray8 | .nv21 | .nv12 => [v]

/-- Model of `TestPattern::fill`: writes the frame that comes next over a buffer, pixels chunk by chunk, and
behind the luma plane of a semi-planar format chroma without colour. -/
def fill (g : TestPattern) (out : Bytes) : Bytes :=
  let width := g.stream.width.toNat
  let chunk (i : Nat) : Bytes := pixel g.stream.format (luma width g.produced i)
  match g.stream.format.layout with
  | .packed bytes => overwriteChunks bytes chunk out
  | .semiPlanar =>
    let (lumaPlane, chroma) := out.splitAt (width * g.stream.height.toNat)
    overwriteChunks 1 chunk lumaPlane ++ List.replicate chroma.length neutral

/-- The memory of a frame, which `TestPattern::next_frame` asks for. -/
def reserve (g : TestPattern) : Except Overload Unit :=
  Memory.reserve g.frameLen 1

/-- Model of `TestPattern::next_frame`: makes the next frame in a buffer, if there is memory for it. The
buffer is emptied first. -/
def nextFrame (g : TestPattern) (buf : Bytes) : Except Overload (Bytes × TestPattern) :=
  match g.reserve with
  | .error o => .error o
  | .ok () =>
    .ok (g.fill (resize (buf.take 0) g.frameLen), { g with produced := g.produced + 1 })

/-- The bytes of frame `k`. -/
def frame (g : TestPattern) (k : Nat) : Bytes :=
  { g with produced := k }.fill (resize [] g.frameLen)

/-- The next frame. -/
def next (g : TestPattern) : Bytes × TestPattern :=
  (g.frame g.produced, { g with produced := g.produced + 1 })

/-- The frames that are made after `skipped` others, if there is memory for them. -/
def frames (g : TestPattern) (skipped count : Nat) : Except Overload (List Bytes) :=
  if skipped + count = 0 then .ok []
  else
    match g.reserve with
    | .error o => .error o
    | .ok () => .ok ((List.range count).map fun i => g.frame (g.produced + skipped + i))

end TestPattern

end FramePipeline
