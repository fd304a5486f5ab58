import FramePipeline.Frame.Unpadded

/-!
# Laying out frames

The other direction of `StreamFormat.copyUnpadded`: a frame laid out the way a device stores it, with its
rows a stride apart and filler behind each of them.

Main definitions: `layOutRows`, `layOutPlanes`, `StreamFormat.layOut`.
-/

namespace FramePipeline

/-- The filler behind a row of `rowLen` bytes that begins at `start`, up to the next row. -/
def fillerBehind (filler : Nat → UInt8) (stride start rowLen : Nat) : Bytes :=
  (List.range' (start + rowLen) (stride - rowLen)).map filler

/-- Lays out rows, the first of which begins at `start`. The byte of filler at each place of the buffer
is given. -/
def layOutRows (filler : Nat → UInt8) (stride rowLen : Nat) :
    (rows : Nat) → (start : Nat) → (frame : Bytes) → Bytes
  | 0, _, _ => []
  | rows + 1, start, frame =>
    frame.take rowLen ++ fillerBehind filler stride start rowLen ++
      layOutRows filler stride rowLen rows (start + stride) (frame.drop rowLen)

/-- Lays out planes, the first of which begins at `start`. -/
def layOutPlanes (filler : Nat → UInt8) (stride : Nat) :
    (planes : List Plane) → (start : Nat) → (frame : Bytes) → Bytes
  | [], _, _ => []
  | p :: planes, start, frame =>
    layOutRows filler stride p.rowLen p.rows start frame ++
      layOutPlanes filler stride planes (start + p.rows * stride) (frame.drop (p.rows * p.rowLen))

/-- Lays out a frame of the stream. -/
def StreamFormat.layOut (s : StreamFormat) (stride : Nat) (filler : Nat → UInt8) (frame : Bytes) :
    Except HandoffError Bytes :=
  match s.planes with
  | .ok planes => .ok (layOutPlanes filler stride planes 0 frame)
  | .error e => .error e

end FramePipeline
