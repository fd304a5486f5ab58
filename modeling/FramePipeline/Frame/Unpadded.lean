import FramePipeline.Frame.Basic

/-!
# Padded buffers

A device may store the rows of an image farther apart than they are long: row `r` of a plane begins
`r · stride` bytes after the plane, and the planes follow each other at multiples of the stride.
`StreamFormat.copyUnpadded` takes the rows out of such a buffer and joins them to a frame without padding.

Offsets and lengths are numbers without a bound here, while `copy_unpadded` computes them in words. The
definitions embed it where `rows * stride`, summed over the planes, is below 2^64, so that no sum or product
leaves a word; what it does with planes that extend farther is not modelled.

Main definitions: `Slice`, `rowSlices` (where the rows are), `neededLen` (how long a buffer must be),
`StreamFormat.copyUnpadded`.
-/

namespace FramePipeline

/-- A stretch of a buffer, `start..start + len`. -/
structure Slice where
  start : Nat
  len : Nat
  deriving DecidableEq, Repr

/-- The bytes of a stretch. -/
def Slice.of (s : Slice) (src : Bytes) : Bytes :=
  (src.drop s.start).take s.len

/-- The slices that the second loop of `StreamFormat::copy_unpadded` copies, for planes that begin at
`offset`: their rows, in the order of the frame. The offsets are those of the loop while the planes end below
2^64. -/
def rowSlices (stride : Nat) : (planes : List Plane) → (offset : Nat) → List Slice
  | [], _ => []
  | p :: planes, offset =>
    (List.range p.rows).map (fun row => ⟨offset + row * stride, p.rowLen⟩) ++
      rowSlices stride planes (offset + p.rows * stride)

/-- The first loop of `StreamFormat::copy_unpadded`, over planes that begin at `offset`, when `needed` was
computed for the planes before them: a buffer must reach to the end of the last row. Rows longer than the
stride fit no buffer, which the largest word stands for. The sums and products are those of the loop while the
planes end below 2^64. -/
def neededFrom (stride : Nat) : (planes : List Plane) → (offset needed : Nat) → Nat
  | [], _, needed => needed
  | p :: planes, offset, _ =>
    if stride < p.rowLen then Word.largest
    else
      neededFrom stride planes (offset + p.rows * stride)
        (offset + (p.rows - 1) * stride + p.rowLen)

/-- The length that a buffer must have: `needed` after the first loop of `StreamFormat::copy_unpadded`. -/
def neededLen (stride : Nat) (planes : List Plane) : Nat :=
  neededFrom stride planes 0 0

/-- Model of `StreamFormat::copy_unpadded`, for planes that extend over less than 2^64 bytes: copies the rows
of a padded buffer into `out`; gives the result and what `out` holds afterwards. Dimensions without a length
leave `out` as it was, a buffer that is too short leaves it empty, and bytes past the last row are ignored. -/
def StreamFormat.copyUnpadded (s : StreamFormat) (src : Bytes) (stride : Nat) (out : Bytes) :
    Except HandoffError Unit × Bytes :=
  match s.frameLen, s.planes with
  | .error e, _ => (.error e, out)
  | _, .error e => (.error e, out)
  | .ok _, .ok planes =>
    let needed := neededLen stride planes
    if src.length < needed then (.error (.sizeMismatch needed src.length), [])
    else (.ok (), (rowSlices stride planes 0).flatMap (·.of src))

end FramePipeline
