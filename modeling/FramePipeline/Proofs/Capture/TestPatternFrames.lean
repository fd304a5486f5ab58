import FramePipeline.Capture.TestPattern
import FramePipeline.Proofs.Frame.RowPositions
import FramePipeline.Proofs.Handoff.SessionChanges

/-!
# Frames of the test pattern

A frame of the test pattern is written chunk by chunk over a buffer, and the coordinates of a pixel are
found from the number of its chunk. The chunks and the chroma behind them cover the whole buffer, so every
byte of the frame is known from its place and the number of the frame, and nothing that was in the buffer is
left.

Main definitions: `StreamFormat.pixelAt`, `StreamFormat.IsTestFrame` (what a frame must look like),
`TestPattern.nextFrames`. Main statement: `TestPattern.nextFrame_isTestFrame`.
-/

namespace FramePipeline

/-! ## What a frame shows -/

namespace PixelFormat

/-- The bytes of a pixel of luma `v`, as numbers. -/
def shades (format : PixelFormat) (v : Nat) : List Nat :=
  match format with
  | rgba8 => [v, v / 2, 255 - v, 255]
  | rgb24 => [v, v / 2, 255 - v]
  | bgr24 => [255 - v, v / 2, v]
  | yuyv4 => [v, 128]
  | gray8 | nv21 | nv12 => [v]

/-- How many bytes a pixel has, in semi-planar formats without its chroma. -/
def pixelLen (format : PixelFormat) : Nat :=
  match format.layout with
  | .packed bytes => bytes
  | .semiPlanar => 1

variable {format : PixelFormat}

theorem pixelLen_of_packed {bytes : Nat} (packed : format.layout = .packed bytes) :
    format.pixelLen = bytes := by
  rw [pixelLen, packed]

theorem pixelLen_of_semiPlanar (semiPlanar : format.layout = .semiPlanar) : format.pixelLen = 1 := by
  rw [pixelLen, semiPlanar]

theorem pixelLen_pos (format : PixelFormat) : 0 < format.pixelLen := by
  cases format <;> decide

theorem shades_injective {v v' : Nat} (same : format.shades v = format.shades v') : v = v' := by
  cases format <;> simp only [shades, List.cons.injEq, and_true] at same
  case gray8 | nv21 | nv12 | yuyv4 => exact same
  case bgr24 => exact same.2.2
  case rgb24 | rgba8 => exact same.1

end PixelFormat

namespace StreamFormat

variable {s : StreamFormat} {frame frame' : Bytes} {k : Nat}

/-- The bytes of a pixel of a frame, as numbers. -/
def pixelAt (s : StreamFormat) (frame : Bytes) (x y : Nat) : List Nat :=
  ((frame.drop ((y * s.width.toNat + x) * s.format.pixelLen)).take s.format.pixelLen).map UInt8.toNat

/-- How many pixels a frame has. -/
def pixelCount (s : StreamFormat) : Nat :=
  s.width.toNat * s.height.toNat

/-- Frame `k` of the test pattern of a stream. -/
structure IsTestFrame (s : StreamFormat) (k : Nat) (frame : Bytes) : Prop where
  length : s.frameLen = .ok frame.length
  pixels : ∀ {x y}, x < s.width.toNat → y < s.height.toNat →
    s.pixelAt frame x y = s.format.shades ((x + y + k) % 256)
  chroma : s.format.layout = .semiPlanar → ∀ {i}, s.pixelCount ≤ i → i < frame.length → frame[i]? = some 0x80

/-- The pixels of a packed format are the whole frame; others have chroma behind them. -/
theorem pixels_le {n : Nat} (length : s.frameLen = .ok n) :
    s.pixelCount * s.format.pixelLen ≤ n ∧
      (s.format.layout ≠ .semiPlanar → n = s.pixelCount * s.format.pixelLen) := by
  obtain ⟨-, -, length⟩ := frameLen_eq_ok_iff.mp length
  obtain ⟨-, rfl⟩ := frameLen?_eq_some_iff.mp length
  unfold size pixelCount
  cases layout : s.format.layout with
  | packed bytes =>
    rw [PixelFormat.size_of_packed layout, PixelFormat.pixelLen_of_packed layout]
    exact ⟨Nat.le_refl _, fun _ => rfl⟩
  | semiPlanar =>
    rw [PixelFormat.size_of_semiPlanar layout, PixelFormat.pixelLen_of_semiPlanar layout, Nat.mul_one]
    exact ⟨Nat.le_add_right _ _, fun packed => absurd rfl packed⟩

/-- The pixels are counted row by row. -/
theorem exists_coordinates {i : Nat} (lt : i < s.pixelCount) :
    ∃ x y, x < s.width.toNat ∧ y < s.height.toNat ∧ i = y * s.width.toNat + x := by
  have wide : 0 < s.width.toNat := Nat.pos_of_ne_zero fun zero => by
    rw [pixelCount, zero, Nat.zero_mul] at lt
    exact Nat.not_lt_zero i lt
  exact ⟨i % s.width.toNat, i / s.width.toNat, Nat.mod_lt i wide, Nat.div_lt_of_lt_mul lt,
    (Nat.div_add_mod' i s.width.toNat).symm⟩

theorem byte_of_pixelAt (frame : Bytes) (x y : Nat) {j : Nat} (within : j < s.format.pixelLen) :
    (frame[(y * s.width.toNat + x) * s.format.pixelLen + j]?).map UInt8.toNat =
      (s.pixelAt frame x y)[j]? := by
  rw [pixelAt, List.getElem?_map, List.getElem?_take_of_lt within, List.getElem?_drop]

namespace IsTestFrame

/-- Every byte of a frame is known. -/
theorem unique (h : s.IsTestFrame k frame) (h' : s.IsTestFrame k frame') : frame' = frame := by
  have same_length : frame'.length = frame.length := Except.ok.inj (h'.length.symm.trans h.length)
  obtain ⟨-, packed⟩ := pixels_le h.length
  refine List.ext_getElem? fun i => ?_
  by_cases inside : i < s.pixelCount * s.format.pixelLen
  · obtain ⟨x, y, x_lt, y_lt, place⟩ := exists_coordinates (Nat.div_lt_of_lt_mul (Nat.mul_comm .. ▸ inside))
    have within := Nat.mod_lt i s.format.pixelLen_pos
    have here := (Nat.div_add_mod' i s.format.pixelLen).symm
    rw [place] at here
    have toNat_injective : Function.Injective UInt8.toNat := fun _ _ => UInt8.toNat_inj.mp
    refine Option.map_injective toNat_injective ?_
    rw [here, byte_of_pixelAt frame' x y within, byte_of_pixelAt frame x y within, h.pixels x_lt y_lt,
      h'.pixels x_lt y_lt]
  · have behind : s.pixelCount * s.format.pixelLen ≤ i := Nat.le_of_not_lt inside
    by_cases chroma : i < frame.length
    · have semiPlanar : s.format.layout = .semiPlanar := by
        by_contra other
        have covered := packed other
        omega
      rw [PixelFormat.pixelLen_of_semiPlanar semiPlanar, Nat.mul_one] at behind
      rw [h.chroma semiPlanar behind chroma, h'.chroma semiPlanar behind (same_length ▸ chroma)]
    · rw [List.getElem?_eq_none (Nat.le_of_not_lt chroma),
        List.getElem?_eq_none (same_length ▸ Nat.le_of_not_lt chroma)]

/-- Frames are equal exactly if their numbers are 256 apart, or a multiple of that. -/
theorem eq_iff {j : Nat} (h : s.IsTestFrame j frame) (h' : s.IsTestFrame k frame') :
    frame = frame' ↔ j % 256 = k % 256 := by
  constructor
  · rintro rfl
    obtain ⟨wide, high, -⟩ := frameLen_eq_ok_iff.mp h.length
    obtain ⟨width, height⟩ := sides_pos wide high
    have corner := PixelFormat.shades_injective ((h.pixels width height).symm.trans (h'.pixels width height))
    simpa only [Nat.add_zero, Nat.zero_add] using corner
  · intro same
    refine h'.unique ⟨h.length, fun {x y} x_lt y_lt => ?_, h.chroma⟩
    rw [h.pixels x_lt y_lt, Nat.add_mod (x + y) j, same, ← Nat.add_mod]

/-- In the next frame a pixel is what its neighbour on the right was, and the one below. -/
theorem pixelAt_next (h : s.IsTestFrame k frame) (h' : s.IsTestFrame (k + 1) frame') {x y : Nat}
    (x_lt : x < s.width.toNat) (y_lt : y < s.height.toNat) :
    (x + 1 < s.width.toNat → s.pixelAt frame' x y = s.pixelAt frame (x + 1) y) ∧
      (y + 1 < s.height.toNat → s.pixelAt frame' x y = s.pixelAt frame x (y + 1)) := by
  have right : x + y + (k + 1) = x + 1 + y + k := by omega
  have below : x + y + (k + 1) = x + (y + 1) + k := by omega
  refine ⟨fun x_lt' => ?_, fun y_lt' => ?_⟩
  · rw [h'.pixels x_lt y_lt, h.pixels x_lt' y_lt, right]
  · rw [h'.pixels x_lt y_lt, h.pixels x_lt y_lt', below]

end IsTestFrame

end StreamFormat

/-! ## What is written -/

/-- A stretch of joined stretches of equal length. -/
theorem stretch_flatMap_range {f : Nat → Bytes} {count len i : Nat} (length : ∀ i < count, (f i).length = len)
    (lt : i < count) (rest : Bytes) :
    (((List.range count).flatMap f ++ rest).drop (i * len)).take len = f i := by
  obtain ⟨joined, bytes⟩ := getElem?_flatMap_range length
  refine List.ext_getElem? fun j => ?_
  by_cases within : j < len
  · have inside : i * len + j < ((List.range count).flatMap f).length := joined ▸ position_lt lt within
    rw [List.getElem?_take_of_lt within, List.getElem?_drop, List.getElem?_append_left inside,
      bytes i lt j within]
  · have beyond := Nat.le_of_not_lt within
    rw [List.getElem?_eq_none (by rw [List.length_take]; omega), List.getElem?_eq_none (length i lt ▸ beyond)]

namespace TestPattern

variable {stream : StreamFormat} {g : TestPattern} {k : Nat}

theorem length_pixel (format : PixelFormat) (v : UInt8) : (pixel format v).length = format.pixelLen := by
  cases format <;> rfl

theorem toNat_pixel (format : PixelFormat) (v : UInt8) :
    (pixel format v).map UInt8.toNat = format.shades v.toNat := by
  have le : v ≤ 255 := UInt8.le_iff_toNat_le.mpr (Nat.le_of_lt_succ v.toNat_lt)
  have inverse : (255 - v).toNat = 255 - v.toNat := UInt8.toNat_sub_of_le 255 v le
  cases format <;> simp [pixel, PixelFormat.shades, neutral, inverse]

theorem toNat_luma (width k i : Nat) : (luma width k i).toNat = (i % width + i / width + k) % 256 := by
  simp [luma]

/-- A frame has all its pixels in order, and neutral chroma behind them. -/
theorem frame_eq (length : g.stream.frameLen = .ok g.frameLen) (k : Nat) :
    g.frame k = (List.range g.stream.pixelCount).flatMap
        (fun i => pixel g.stream.format (luma g.stream.width.toNat k i)) ++
      List.replicate (g.frameLen - g.stream.pixelCount * g.stream.format.pixelLen) neutral := by
  obtain ⟨room, whole⟩ := StreamFormat.pixels_le length
  have buffer := length_resize [] g.frameLen
  unfold frame fill
  cases layout : g.stream.format.layout with
  | packed bytes =>
    have whole := whole (by simp [layout])
    rw [PixelFormat.pixelLen_of_packed layout] at whole ⊢
    have pos : 0 < bytes := (PixelFormat.bytesPerPixel_bounds layout).1
    rw [← whole, Nat.sub_self, List.replicate_zero, List.append_nil]
    exact overwriteChunks_of_whole pos (buffer.trans whole)
  | semiPlanar =>
    rw [PixelFormat.pixelLen_of_semiPlanar layout] at room ⊢
    have lumaPlane : ((resize [] g.frameLen).take g.stream.pixelCount).length = g.stream.pixelCount * 1 := by
      rw [List.length_take, buffer]
      omega
    have chroma : ((resize [] g.frameLen).drop g.stream.pixelCount).length =
        g.frameLen - g.stream.pixelCount * 1 := by
      rw [List.length_drop, buffer, Nat.mul_one]
    simp only [List.splitAt_eq]
    exact congrArg₂ (· ++ ·) (overwriteChunks_of_whole Nat.one_pos lumaPlane)
      (congrArg (List.replicate · neutral) chroma)

theorem isTestFrame_frame (length : g.stream.frameLen = .ok g.frameLen) (k : Nat) :
    g.stream.IsTestFrame k (g.frame k) := by
  have pixel_length : ∀ i < g.stream.pixelCount,
      (pixel g.stream.format (luma g.stream.width.toNat k i)).length = g.stream.format.pixelLen :=
    fun _ _ => length_pixel ..
  obtain ⟨joined, -⟩ := getElem?_flatMap_range pixel_length
  obtain ⟨room, -⟩ := StreamFormat.pixels_le length
  have frame_length : (g.frame k).length = g.frameLen := by
    rw [frame_eq length, List.length_append, joined, List.length_replicate]
    omega
  refine ⟨by rw [frame_length, length], fun {x y} x_lt y_lt => ?_, fun semiPlanar {i} behind inside => ?_⟩
  · have lt : y * g.stream.width.toNat + x < g.stream.pixelCount := by
      rw [StreamFormat.pixelCount, Nat.mul_comm g.stream.width.toNat]
      exact position_lt y_lt x_lt
    have column : (y * g.stream.width.toNat + x) % g.stream.width.toNat = x :=
      Nat.mul_add_mod_of_lt x_lt
    have row : (y * g.stream.width.toNat + x) / g.stream.width.toNat = y := by
      rw [Nat.mul_comm, Nat.mul_add_div (Nat.zero_lt_of_lt x_lt), Nat.div_eq_of_lt x_lt, Nat.add_zero]
    rw [StreamFormat.pixelAt, frame_eq length, stretch_flatMap_range pixel_length lt, toNat_pixel, toNat_luma,
      column, row]
  · rw [PixelFormat.pixelLen_of_semiPlanar semiPlanar, Nat.mul_one] at joined
    rw [frame_length] at inside
    rw [frame_eq length, List.getElem?_append_right (by omega), joined,
      PixelFormat.pixelLen_of_semiPlanar semiPlanar, Nat.mul_one, List.getElem?_replicate,
      if_pos (by omega)]
    rfl

/-! ## Frames one after the other -/

/-- The next frames, each made in a buffer of its own. -/
def nextFrames (g : TestPattern) : List Bytes → Except Overload (List Bytes × TestPattern)
  | [] => .ok ([], g)
  | buf :: bufs => do
    let (frame, g) ← g.nextFrame buf
    let (frames, g) ← g.nextFrames bufs
    .ok (frame :: frames, g)

/-- What was in the buffer does not matter. -/
theorem nextFrame_eq (fits : g.frameLen ≤ Memory.largestBlock) (buf : Bytes) :
    g.nextFrame buf = .ok g.next := by
  have reserved : g.reserve = .ok () := Memory.reserve_eq_ok_iff.mpr (by rwa [Nat.mul_one])
  rw [nextFrame, reserved]
  rfl

theorem nextFrames_eq (fits : g.frameLen ≤ Memory.largestBlock) (bufs : List Bytes) :
    g.nextFrames bufs = .ok ((List.range bufs.length).map fun i => g.frame (g.produced + i),
      { g with produced := g.produced + bufs.length }) := by
  induction bufs generalizing g with
  | nil => rfl
  | cons buf bufs ih =>
    have others := ih (g := g.next.2) fits
    have later (i : Nat) : g.next.2.frame (g.next.2.produced + i) = g.frame (g.produced + (i + 1)) := by
      rw [← Nat.add_assoc, Nat.add_right_comm]
      rfl
    have made : g.next.2.produced + bufs.length = g.produced + (bufs.length + 1) := by
      rw [← Nat.add_assoc, Nat.add_right_comm]
      rfl
    simp only [nextFrames, nextFrame_eq fits, bind, Except.bind, others, later, made, List.length_cons,
      List.range_succ_eq_map, List.map_cons, List.map_map]
    rfl

/-- A new source has made no frame yet. -/
theorem eq_of_start (started : start stream = .ok g) :
    g.stream = stream ∧ g.produced = 0 ∧ stream.frameLen = .ok g.frameLen := by
  unfold start at started
  split at started
  · next length =>
    obtain rfl := Except.ok.inj started
    exact ⟨rfl, rfl, length⟩
  · cases started

/-! ## Main statement -/

/-- **The test pattern moves along the diagonals.** Let a source of a stream be opened, and let there be
memory for its frames. Whatever is in the buffers, it makes one frame after the other. Every byte of frame
`k` is determined: the luma of a pixel is the sum of its coordinates and of `k`, modulo 256. Each frame is
accepted by every open session of the stream. In the next frame every pixel is what its neighbour on the
right was, and the one below, and two frames are equal exactly if their numbers differ by a multiple of 256.
A source of larger frames can be opened as well, but has no frame to give. -/
theorem nextFrame_isTestFrame (started : start stream = .ok g) :
    (g.frameLen ≤ Memory.largestBlock → ∀ bufs : List Bytes, ∃ frames,
      g.nextFrames bufs = .ok (frames, { g with produced := bufs.length }) ∧ frames.length = bufs.length ∧
      (∀ (k : Nat) (frame : Bytes), frames[k]? = some frame →
        stream.IsTestFrame k frame ∧ (∀ frame', stream.IsTestFrame k frame' → frame' = frame) ∧
        ∀ requests answers e (handle i : Nat) s, HandoffTable.run {} requests = .ok (answers, e) →
          e.handles[handle]? = some i → e.sessions[i]? = some s → s.stream = stream → s.closed = false →
            ∃ n e', e.step (.publish handle frame) = .ok (.number (.ok n), e')) ∧
      (∀ (k : Nat) (frame next : Bytes), frames[k]? = some frame → frames[k + 1]? = some next →
        ∀ x y : Nat, x < stream.width.toNat → y < stream.height.toNat →
          (x + 1 < stream.width.toNat → stream.pixelAt next x y = stream.pixelAt frame (x + 1) y) ∧
          (y + 1 < stream.height.toNat → stream.pixelAt next x y = stream.pixelAt frame x (y + 1))) ∧
      ∀ (j k : Nat) (frame frame' : Bytes), frames[j]? = some frame → frames[k]? = some frame' →
        (frame = frame' ↔ j % 256 = k % 256)) ∧
    (Memory.largestBlock < g.frameLen → ∀ buf, g.nextFrame buf = .error (.block g.frameLen)) := by
  obtain ⟨rfl, unused, length⟩ := eq_of_start started
  refine ⟨fun fits bufs => ?_, fun larger buf => ?_⟩
  · have made := nextFrames_eq fits bufs
    simp only [unused, Nat.zero_add] at made
    have shows {k : Nat} {frame : Bytes}
        (there : ((List.range bufs.length).map fun i => g.frame i)[k]? = some frame) :
        g.stream.IsTestFrame k frame := by
      rw [List.getElem?_map] at there
      obtain ⟨i, found, rfl⟩ := Option.map_eq_some_iff.mp there
      obtain ⟨_, rfl⟩ := List.getElem?_eq_some_iff.mp found
      rw [List.getElem_range]
      exact isTestFrame_frame length k
    refine ⟨_, made, by simp, fun k frame there => ⟨shows there, fun frame' => (shows there).unique, ?_⟩,
      fun k frame next there there' x y => (shows there).pixelAt_next (shows there'),
      fun j k frame frame' there there' => (shows there).eq_iff (shows there')⟩
    intro requests answers e handle i s result leads found same isOpen
    obtain ⟨_, -, r⟩ := (HandoffTable.run_refines HandoffTable.refines_empty requests).of_ok result
    have frameLen : s.stream.frameLen = .ok s.frameLen :=
      (HandoffTable.historyInv_run result found).frameLen_eq
    rw [same, (shows there).length] at frameLen
    exact ⟨_, r.step_publish_of_fits leads found isOpen (Except.ok.inj frameLen)⟩
  · have refused : g.reserve = .error (.block g.frameLen) := by
      rw [reserve, Memory.reserve, Nat.mul_one, if_neg (Nat.not_le.mpr larger)]
    rw [nextFrame, refused]

/-- Three by three pixels with two by two pairs of chroma, first in an empty buffer and then in one that is
too long and full of sevens. -/
theorem nextFrame_isTestFrame_odd_size :
    let stream : StreamFormat := ⟨3, 3, .nv12⟩
    let g : TestPattern := ⟨stream, 17, 0⟩
    let frame : Bytes := [0, 1, 2, 1, 2, 3, 2, 3, 4] ++ List.replicate 8 128
    let next : Bytes := [1, 2, 3, 2, 3, 4, 3, 4, 5] ++ List.replicate 8 128
    start stream = .ok g ∧ g.frameLen ≤ Memory.largestBlock ∧
      g.nextFrames [[], List.replicate 30 7] = .ok ([frame, next], ⟨stream, 17, 2⟩) ∧
      stream.IsTestFrame 1 next ∧ stream.pixelAt next 1 1 = stream.pixelAt frame 2 1 ∧ frame ≠ next ∧
      ∃ answers e n e', HandoffTable.run {} [.start stream] = .ok (answers, e) ∧
        e.step (.publish 0 next) = .ok (.number (.ok n), e') := by
  intro stream g frame next
  have started : start stream = .ok g := by decide
  have fits : g.frameLen ≤ Memory.largestBlock := by decide
  have both : g.nextFrames [[], List.replicate 30 7] = .ok ([frame, next], ⟨stream, 17, 2⟩) := by decide
  obtain ⟨frames, made, -, each, moves, equal⟩ :=
    (nextFrame_isTestFrame started).1 fits [[], List.replicate 30 7]
  obtain ⟨rfl, -⟩ := Prod.mk.inj (Except.ok.inj (both.symm.trans made))
  obtain ⟨shows, -, accepted⟩ := each 1 next rfl
  obtain ⟨answers, e, s, result, leads, found, same, isOpen⟩ :
      ∃ answers e s, HandoffTable.run {} [.start ⟨3, 3, .nv12⟩] = .ok (answers, e) ∧ e.handles[0]? = some 0 ∧
        e.sessions[0]? = some s ∧ s.stream = ⟨3, 3, .nv12⟩ ∧ s.closed = false :=
    ⟨_, _, _, rfl, rfl, rfl, rfl, rfl⟩
  obtain ⟨n, e', step⟩ := accepted _ answers e 0 0 s result leads found same isOpen
  have moved := (moves 0 frame next rfl rfl 1 1 (by decide) (by decide)).1 (by decide)
  have differ : frame ≠ next := fun eq => absurd ((equal 0 1 frame next rfl rfl).mp eq) (by decide)
  exact ⟨started, fits, both, shows, moved, differ, answers, e, n, e', result, step⟩

/-- The largest frames of one byte for each pixel have a length, so that their source can be opened. But they
are larger than the largest block of memory, and there is no first frame. -/
theorem nextFrame_error_largest_size :
    ∃ g, start ⟨0xFFFFFFFF, 0xFFFFFFFF, .gray8⟩ = .ok g ∧ g.frameLen = 0xFFFFFFFE00000001 ∧
      ∀ buf, g.nextFrame buf = .error (.block 0xFFFFFFFE00000001) := by
  refine ⟨⟨⟨0xFFFFFFFF, 0xFFFFFFFF, .gray8⟩, 0xFFFFFFFE00000001, 0⟩, by decide, rfl, fun buf => ?_⟩
  rw [nextFrame, show reserve _ = .error (.block 0xFFFFFFFE00000001) by decide]

end TestPattern

end FramePipeline
