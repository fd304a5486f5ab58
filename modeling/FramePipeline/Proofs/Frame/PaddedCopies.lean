import FramePipeline.Memory
import FramePipeline.Proofs.Frame.RowPositions

/-!
# Copies of padded buffers

`StreamFormat.copyUnpadded` computes how long a buffer must be before it takes the rows out of it. The length
is the end of the last row, so the copy succeeds exactly where every row is inside the buffer, and then it is
the one frame that the buffer carries. What else is in the buffer does not matter.

Main definition: `StreamFormat.image` (the planes of a frame). Main statements:
`StreamFormat.copyUnpadded_eq_ok_iff`, `StreamFormat.copyUnpadded_ok_iff`, `StreamFormat.copyUnpadded_rows`,
`StreamFormat.copyUnpadded_outcome`, `StreamFormat.copyUnpadded_minStride_iff`.
-/

namespace FramePipeline

variable {stride : Nat} {planes : List Plane} {src out frame : Bytes}

/-! ## The length that a buffer must have -/

theorem neededFrom_of_wide {offset needed : Nat} (some_plane : planes ≠ [])
    (wide : ∀ p ∈ planes, p.rowLen ≤ stride) (filled : ∀ p ∈ planes, 0 < p.rows) :
    neededFrom stride planes offset needed = offset + imageEnd stride planes := by
  induction planes generalizing offset needed with
  | nil => exact absurd rfl some_plane
  | cons p planes ih =>
    obtain ⟨row, wide⟩ := List.forall_mem_cons.mp wide
    obtain ⟨rows, filled⟩ := List.forall_mem_cons.mp filled
    rw [neededFrom, if_neg (Nat.not_lt.mpr row)]
    obtain rfl | others := eq_or_ne planes []
    · rw [neededFrom, imageEnd_singleton, Nat.add_assoc]
    · rw [ih others wide filled, imageEnd_cons stride p others filled, Nat.add_assoc]

theorem neededFrom_of_narrow {p : Plane} {offset needed : Nat} (mem : p ∈ planes)
    (narrow : stride < p.rowLen) : neededFrom stride planes offset needed = Word.largest := by
  induction planes generalizing offset needed with
  | nil => cases mem
  | cons q planes ih =>
    unfold neededFrom
    split
    · rfl
    · next row =>
      obtain rfl | other := List.mem_cons.mp mem
      · exact absurd narrow row
      · exact ih other

theorem neededLen_of_narrow (narrow : ¬∀ p ∈ planes, p.rowLen ≤ stride) :
    neededLen stride planes = Word.largest := by
  obtain ⟨p, mem, longer⟩ : ∃ p ∈ planes, stride < p.rowLen := by simpa using narrow
  exact neededFrom_of_narrow mem longer

/-! ## Streams -/

namespace StreamFormat

variable {s : StreamFormat} {n : Nat}

/-- The planes of a frame of the stream. -/
def image (s : StreamFormat) : List Plane :=
  s.format.planes s.width.toNat s.height.toNat

theorem planes_eq (s : StreamFormat) : s.planes = .ok s.image := by
  rw [StreamFormat.planes, PixelFormat.planes?_eq, image]

theorem image_ne_nil (s : StreamFormat) : s.image ≠ [] := by
  unfold image PixelFormat.planes
  cases s.format.layout <;> simp

theorem byteCount_image (length : s.frameLen = .ok n) : byteCount s.image = n := by
  obtain ⟨-, -, frameLen⟩ := frameLen_eq_ok_iff.mp length
  rw [image, PixelFormat.byteCount_planes]
  exact (frameLen?_eq_some_iff.mp frameLen).2.symm

/-- Every plane has rows, and every row has bytes. -/
theorem image_pos (length : s.frameLen = .ok n) : ∀ p ∈ s.image, 0 < p.rows ∧ 0 < p.rowLen := by
  obtain ⟨wide, high, -⟩ := frameLen_eq_ok_iff.mp length
  obtain ⟨width, height⟩ := sides_pos wide high
  unfold image PixelFormat.planes
  cases layout : s.format.layout with
  | packed bytes =>
    have pos := (PixelFormat.bytesPerPixel_bounds layout).1
    simp [width, height, pos]
  | semiPlanar =>
    have rounded {side : Nat} (pos : 0 < side) : 0 < Word.halfUp side := by
      unfold Word.halfUp
      omega
    simp [width, height, rounded width, rounded height]

theorem filled_image (length : s.frameLen = .ok n) : ∀ p ∈ s.image, 0 < p.rows :=
  fun p mem => (image_pos length p mem).1

/-- The smallest stride is that of the longest row. -/
theorem exists_minStride (s : StreamFormat) :
    ∃ m, s.format.minStride? s.width = some m ∧ ∀ stride, m ≤ stride ↔ ∀ p ∈ s.image, p.rowLen ≤ stride := by
  unfold PixelFormat.minStride? image
  rw [PixelFormat.planes?_eq]
  refine ⟨_, rfl, fun stride => ?_⟩
  unfold PixelFormat.planes
  cases s.format.layout <;> simp

/-! ## Copies -/

theorem copyUnpadded_of_error {e : HandoffError} (refused : s.frameLen = .error e) (src : Bytes)
    (stride : Nat) (out : Bytes) : s.copyUnpadded src stride out = (.error e, out) := by
  unfold copyUnpadded
  rw [refused]

theorem exists_frameLen_of_ok (success : (s.copyUnpadded src stride out).1 = .ok ()) :
    ∃ n, s.frameLen = .ok n := by
  cases length : s.frameLen with
  | ok n => exact ⟨n, rfl⟩
  | error e =>
    rw [copyUnpadded_of_error length] at success
    cases success

section Sized

variable (length : s.frameLen = .ok n)

include length

/-- A stream that has a length copies what is long enough. -/
theorem copyUnpadded_of_ok (src : Bytes) (stride : Nat) (out : Bytes) :
    s.copyUnpadded src stride out =
      if src.length < neededLen stride s.image then
        (.error (.sizeMismatch (neededLen stride s.image) src.length), [])
      else (.ok (), takeRows stride s.image src) := by
  unfold copyUnpadded
  rw [length, planes_eq]
  rfl

theorem neededLen_of_wide (wide : ∀ p ∈ s.image, p.rowLen ≤ stride) :
    neededLen stride s.image = imageEnd stride s.image := by
  rw [neededLen, neededFrom_of_wide s.image_ne_nil wide (filled_image length), Nat.zero_add]

/-- The copy is the frame that the buffer carries. -/
theorem copyUnpadded_eq_ok_iff (wide : ∀ p ∈ s.image, p.rowLen ≤ stride) :
    s.copyUnpadded src stride out = (.ok (), frame) ↔
      frame.length = n ∧ HasRows stride s.image src frame := by
  have filled := filled_image length
  have nonempty : ∀ p ∈ s.image, 0 < p.rowLen := fun p mem => (image_pos length p mem).2
  have bytes := byteCount_image length
  rw [copyUnpadded_of_ok length, neededLen_of_wide length wide]
  constructor
  · intro copied
    split at copied
    · cases copied
    · next enough =>
      obtain rfl : takeRows stride s.image src = frame := congrArg Prod.snd copied
      rw [← bytes]
      exact hasRows_takeRows wide filled (Nat.not_lt.mp enough)
  · rintro ⟨same, carries⟩
    have reaches := carries.reaches filled nonempty
    obtain ⟨taken, carries'⟩ := hasRows_takeRows wide filled reaches
    rw [if_neg (Nat.not_lt.mpr reaches), carries'.unique carries taken (same.trans bytes.symm)]

omit length in
/-- No buffer is long enough for rows that are longer than the stride. -/
theorem lt_neededLen_of_narrow (block : src.length ≤ Memory.largestBlock)
    (narrow : ¬∀ p ∈ s.image, p.rowLen ≤ stride) : src.length < neededLen stride s.image := by
  rw [neededLen_of_narrow narrow]
  exact Nat.lt_of_le_of_lt block (by decide)

theorem copyUnpadded_ok_iff_needed :
    (s.copyUnpadded src stride out).1 = .ok () ↔ neededLen stride s.image ≤ src.length := by
  rw [copyUnpadded_of_ok length, ← Nat.not_lt]
  split
  · next short => simp [short]
  · next enough => simp [enough]

/-- A copy succeeds where every row fits the stride and the buffer reaches to the end of the last one. -/
theorem copyUnpadded_ok_iff (block : src.length ≤ Memory.largestBlock) :
    (s.copyUnpadded src stride out).1 = .ok () ↔
      (∀ p ∈ s.image, p.rowLen ≤ stride) ∧ imageEnd stride s.image ≤ src.length := by
  rw [copyUnpadded_ok_iff_needed length]
  by_cases wide : ∀ p ∈ s.image, p.rowLen ≤ stride
  · rw [neededLen_of_wide length wide, and_iff_right wide]
  · have short := lt_neededLen_of_narrow block wide
    exact iff_of_false (Nat.not_le.mpr short) fun ok => wide ok.1

/-- A copy that does not succeed leaves nothing, and says how many bytes it needs. -/
theorem copyUnpadded_of_refused (refused : (s.copyUnpadded src stride out).1 ≠ .ok ()) :
    s.copyUnpadded src stride out =
      (.error (.sizeMismatch (neededLen stride s.image) src.length), []) := by
  rw [ne_eq, copyUnpadded_ok_iff_needed length, Nat.not_le] at refused
  rw [copyUnpadded_of_ok length, if_pos refused]

end Sized

/-! ## Main statements -/

/-- **Copies are made row by row.** A copy that succeeds reads only rows that are inside the buffer. It is as
long as a frame, whatever was in the place that it is copied to, and has the bytes that stand at the rows and
columns of the frame; it is the same for every other buffer that has these bytes at its rows. For every
frame of the stream and every stride that is not smaller than the smallest one, the copy of a buffer in
which the frame was laid out, with whatever filler and whatever behind it, is the frame. -/
theorem copyUnpadded_rows (s : StreamFormat) (stride : Nat) :
    (∀ src out : Bytes, src.length ≤ Memory.largestBlock → (s.copyUnpadded src stride out).1 = .ok () →
      ∃ n planes frame, s.frameLen = .ok n ∧ s.planes = .ok planes ∧ frame.length = n ∧
        (∀ slice ∈ rowSlices stride planes 0, slice.start + slice.len ≤ src.length) ∧
        HasRows stride planes src frame ∧
        (∀ out', s.copyUnpadded src stride out' = (.ok (), frame)) ∧
        ∀ src' out', HasRows stride planes src' frame →
          s.copyUnpadded src' stride out' = (.ok (), frame)) ∧
    ∀ n frame, s.frameLen = .ok n → frame.length = n →
      ∃ m, s.format.minStride? s.width = some m ∧ (m ≤ stride → ∀ filler rest out,
        ∃ padded, s.layOut stride filler frame = .ok padded ∧
          s.copyUnpadded (padded ++ rest) stride out = (.ok (), frame)) := by
  refine ⟨fun src out block success => ?_, fun n frame length same => ?_⟩
  · obtain ⟨n, length⟩ := exists_frameLen_of_ok success
    obtain ⟨wide, reaches⟩ := (copyUnpadded_ok_iff length block).mp success
    obtain ⟨frame, copied⟩ : ∃ frame, s.copyUnpadded src stride out = (.ok (), frame) :=
      ⟨_, Prod.ext success rfl⟩
    obtain ⟨same, carries⟩ := (copyUnpadded_eq_ok_iff length wide).mp copied
    have copies (src' out' : Bytes) (carries' : HasRows stride s.image src' frame) :
        s.copyUnpadded src' stride out' = (.ok (), frame) :=
      (copyUnpadded_eq_ok_iff length wide).mpr ⟨same, carries'⟩
    refine ⟨n, s.image, frame, length, s.planes_eq, same, fun slice mem => ?_, carries,
      fun out' => copies src out' carries, copies⟩
    have inside := slice_inside wide (filled_image length) mem
    omega
  · obtain ⟨m, smallest, wide_iff⟩ := s.exists_minStride
    refine ⟨m, smallest, fun le filler rest out => ?_⟩
    have wide := (wide_iff stride).mp le
    have enough : byteCount s.image ≤ frame.length := by
      rw [byteCount_image length, same]
    obtain ⟨-, carries⟩ := hasRows_layOutPlanes filler 0 wide enough
    refine ⟨layOutPlanes filler stride s.image 0 frame, ?_, ?_⟩
    · rw [layOut, planes_eq]
    · exact (copyUnpadded_eq_ok_iff length wide).mpr ⟨same, carries.append rest⟩

/-- A frame of three by three pixels is laid out with five bytes from row to row. It has seventeen bytes
without the filler: nine of luma, and two rows of two pairs of chroma. -/
theorem copyUnpadded_rows_odd :
    let s : StreamFormat := ⟨3, 3, .nv12⟩
    let planes : List Plane := [⟨3, 3⟩, ⟨2, 4⟩]
    let frame : Bytes := (List.range 17).map UInt8.ofNat
    ∃ padded, s.layOut 5 (fun _ => 238) frame = .ok padded ∧
      (padded ++ [1, 2]).length = 27 ∧ 27 ≤ Memory.largestBlock ∧
      s.copyUnpadded (padded ++ [1, 2]) 5 [9] = (.ok (), frame) ∧
      (∀ slice ∈ rowSlices 5 planes 0, slice.start + slice.len ≤ 27) ∧
      ∀ src' out', HasRows 5 planes src' frame → s.copyUnpadded src' 5 out' = (.ok (), frame) := by
  intro s planes frame
  have narrowest : s.format.minStride? s.width = some 4 := by decide
  have divided : s.planes = .ok planes := by decide
  have bytes : (s.layOut 5 (fun _ => 238) frame).map List.length = .ok 25 := by decide
  obtain ⟨copies, roundTrip⟩ := copyUnpadded_rows s 5
  obtain ⟨m, smallest, laidOut⟩ := roundTrip 17 frame (by decide) rfl
  obtain rfl : 4 = m := Option.some.inj (narrowest.symm.trans smallest)
  obtain ⟨padded, laid, copied⟩ := laidOut (by decide) (fun _ => 238) [1, 2] [9]
  have length : (padded ++ [1, 2]).length = 27 := by
    rw [laid] at bytes
    rw [List.length_append, Except.ok.inj bytes]
    rfl
  obtain ⟨n, planes', frame', -, planes_eq, -, inside, -, again, others⟩ :=
    copies (padded ++ [1, 2]) [9] (by rw [length]; decide) (by rw [copied])
  obtain rfl : planes = planes' := Except.ok.inj (divided.symm.trans planes_eq)
  obtain rfl : frame = frame' := congrArg Prod.snd (copied.symm.trans (again [9]))
  rw [length] at inside
  exact ⟨padded, laid, length, by decide, copied, inside, others⟩

/-- **Copies are made of what is long enough.** The copy refuses the dimensions, and leaves the place it is
copied to as it was, exactly where the stream has no length. Otherwise it succeeds exactly where every row
fits the stride and the buffer reaches to the end of the last row. Otherwise it is refused for the length of
the buffer, and the place it is copied to is empty. If every row fits the stride, the length it asks for is
the least that is accepted. It is a word if the rows of all planes are, each of them as long as
the stride. What follows an accepted buffer changes nothing. -/
theorem copyUnpadded_outcome (s : StreamFormat) (stride : Nat) (src out : Bytes)
    (block : src.length ≤ Memory.largestBlock) :
    ((∃ w h, (s.copyUnpadded src stride out).1 = .error (.invalidDimensions w h)) ↔
      ∀ n, s.frameLen ≠ .ok n) ∧
    (∀ e, s.frameLen = .error e →
      s.copyUnpadded src stride out = (.error (.invalidDimensions s.width s.height), out)) ∧
    ∀ n, s.frameLen = .ok n → ∃ planes, s.planes = .ok planes ∧
      ((s.copyUnpadded src stride out).1 = .ok () ↔
        (∀ p ∈ planes, p.rowLen ≤ stride) ∧ imageEnd stride planes ≤ src.length) ∧
      ((s.copyUnpadded src stride out).1 ≠ .ok () → ∃ expected,
        s.copyUnpadded src stride out = (.error (.sizeMismatch expected src.length), []) ∧
        ((∀ p ∈ planes, p.rowLen ≤ stride) →
          (∀ src' out' : Bytes,
            (s.copyUnpadded src' stride out').1 = .ok () ↔ expected ≤ src'.length) ∧
          (rowCount planes * stride < UInt64.size → expected < UInt64.size))) ∧
      ((∀ p ∈ planes, p.rowLen ≤ stride) → ∀ src' rest out' frame : Bytes,
        s.copyUnpadded src' stride out' = (.ok (), frame) →
          s.copyUnpadded (src' ++ rest) stride out' = (.ok (), frame)) := by
  refine ⟨?_, fun e refused => ?_, fun n length => ?_⟩
  · cases length : s.frameLen with
    | error e =>
      obtain ⟨-, rfl⟩ := frameLen_eq_error_iff.mp length
      rw [copyUnpadded_of_error length]
      exact ⟨fun _ n => nofun, fun _ => ⟨_, _, rfl⟩⟩
    | ok n =>
      refine iff_of_false ?_ fun none => none n rfl
      rintro ⟨w, h, invalid⟩
      have refused : (s.copyUnpadded src stride out).1 ≠ .ok () := by
        rw [invalid]
        exact nofun
      rw [copyUnpadded_of_refused length refused] at invalid
      cases invalid
  · obtain ⟨-, rfl⟩ := frameLen_eq_error_iff.mp refused
    exact copyUnpadded_of_error refused src stride out
  · refine ⟨s.image, s.planes_eq, copyUnpadded_ok_iff length block, fun refused => ?_,
      fun wide src' rest out' frame copied => ?_⟩
    · refine ⟨_, copyUnpadded_of_refused length refused, fun wide => ⟨fun src' out' =>
        copyUnpadded_ok_iff_needed length, fun words => ?_⟩⟩
      rw [neededLen_of_wide length wide]
      exact Nat.lt_of_le_of_lt (imageEnd_le wide (filled_image length)) words
    · obtain ⟨same, carries⟩ := (copyUnpadded_eq_ok_iff length wide).mp copied
      exact (copyUnpadded_eq_ok_iff length wide).mpr ⟨same, carries.append rest⟩

/-- Two rows of six bytes are eight bytes apart, and fourteen bytes are needed. Twelve are too few, even if
the rows alone have no more. -/
theorem copyUnpadded_outcome_cut_short :
    let s : StreamFormat := ⟨3, 2, .yuyv4⟩
    let src : Bytes := List.replicate 12 0
    src.length ≤ Memory.largestBlock ∧ s.frameLen = .ok 12 ∧
      s.copyUnpadded src 8 [7] = (.error (.sizeMismatch 14 12), []) ∧
      (∀ src' out' : Bytes, (s.copyUnpadded src' 8 out').1 = .ok () ↔ 14 ≤ src'.length) ∧
      ∀ src' rest out' frame : Bytes, s.copyUnpadded src' 8 out' = (.ok (), frame) →
        s.copyUnpadded (src' ++ rest) 8 out' = (.ok (), frame) := by
  intro s src
  have block : src.length ≤ Memory.largestBlock := by decide
  obtain ⟨-, -, outcome⟩ := copyUnpadded_outcome s 8 src [7] block
  obtain ⟨planes, planes_eq, -, refused, others⟩ := outcome 12 rfl
  obtain rfl : [⟨2, 6⟩] = planes := Except.ok.inj planes_eq
  have wide : ∀ p ∈ [(⟨2, 6⟩ : Plane)], p.rowLen ≤ 8 := by decide
  have copied : s.copyUnpadded src 8 [7] = (.error (.sizeMismatch 14 12), []) := by decide
  obtain ⟨expected, eq, least⟩ := refused (by rw [copied]; exact nofun)
  obtain rfl : expected = 14 := by
    rw [copied] at eq
    cases eq
    rfl
  exact ⟨block, rfl, copied, (least wide).1, others wide⟩

/-- **The smallest stride does not depend on the height.** Every width has a smallest stride, found from an
image of one row. For a stream of this width, whatever its height, that is the stride from which copies are
made: with it or a larger one, all buffers from some length on are accepted, and with a smaller one every
buffer is refused for its length. -/
theorem copyUnpadded_minStride_iff (format : PixelFormat) (width : UInt32) :
    ∃ m, format.minStride? width = some m ∧
      ∀ (height : UInt32) (n : Nat), StreamFormat.frameLen ⟨width, height, format⟩ = .ok n →
        (∀ stride, m ≤ stride → ∃ planes needed, StreamFormat.planes ⟨width, height, format⟩ = .ok planes ∧
          (rowCount planes * stride < UInt64.size → needed < UInt64.size) ∧
          ∀ src out : Bytes,
            (copyUnpadded ⟨width, height, format⟩ src stride out).1 = .ok () ↔ needed ≤ src.length) ∧
        ∀ stride, stride < m → ∀ src out : Bytes, src.length ≤ Memory.largestBlock →
          copyUnpadded ⟨width, height, format⟩ src stride out =
            (.error (.sizeMismatch Word.largest src.length), []) := by
  obtain ⟨m, smallest, -⟩ := exists_minStride ⟨width, 1, format⟩
  refine ⟨m, smallest, fun height n length => ?_⟩
  obtain ⟨m', smallest', wide_iff⟩ := exists_minStride ⟨width, height, format⟩
  obtain rfl : m = m' := Option.some.inj (smallest.symm.trans smallest')
  refine ⟨fun stride le => ?_, fun stride lt src out block => ?_⟩
  · have wide := (wide_iff stride).mp le
    refine ⟨_, _, planes_eq _, fun words => ?_, fun src out => copyUnpadded_ok_iff_needed length⟩
    rw [neededLen_of_wide length wide]
    exact Nat.lt_of_le_of_lt (imageEnd_le wide (filled_image length)) words
  · have narrow := mt (wide_iff stride).mpr (Nat.not_le.mpr lt)
    have short := lt_neededLen_of_narrow block narrow
    rw [copyUnpadded_of_ok length, if_pos short, neededLen_of_narrow narrow]

/-- Three pixels of luma fit a stride of three bytes, but the two pairs of chroma below them do not. -/
theorem copyUnpadded_minStride_iff_three_pixels :
    let s : StreamFormat := ⟨3, 3, .nv21⟩
    PixelFormat.minStride? .nv21 3 = some 4 ∧ s.frameLen = .ok 17 ∧
      (∀ src out : Bytes, (s.copyUnpadded src 4 out).1 = .ok () ↔ 20 ≤ src.length) ∧
      ∀ src out : Bytes, src.length ≤ Memory.largestBlock →
        s.copyUnpadded src 3 out = (.error (.sizeMismatch Word.largest src.length), []) := by
  intro s
  have length : s.frameLen = .ok 17 := by decide
  have narrowest : PixelFormat.minStride? .nv21 3 = some 4 := by decide
  obtain ⟨m, smallest, threshold⟩ := copyUnpadded_minStride_iff .nv21 3
  obtain rfl : 4 = m := Option.some.inj (narrowest.symm.trans smallest)
  obtain ⟨accepts, refuses⟩ := threshold 3 17 length
  obtain ⟨_, needed, -, -, accepted_iff⟩ := accepts 4 (Nat.le_refl 4)
  have twenty : needed ≤ 20 := (accepted_iff (List.replicate 20 0) []).mp (by decide)
  have nineteen : ¬needed ≤ 19 := mt (accepted_iff (List.replicate 19 0) []).mpr (by decide)
  obtain rfl : needed = 20 := by omega
  exact ⟨narrowest, length, accepted_iff, refuses 3 (by decide)⟩

end StreamFormat

end FramePipeline
