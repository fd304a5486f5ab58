import Mathlib.Algebra.Order.Floor.Div
import FramePipeline.Frame.StreamFormat

/-!
# Sizes of frames

The length of a frame is computed in words, and each step of the computation may refuse a number that is
too large. As the sides of a frame are numbers of 32 bits, none but the last step ever does: a length is
missing exactly where the frame has too many bytes for a word. The planes of a frame are computed apart from
its length, and none of their rows is too long; their bytes add up to the length.

Main definitions: `PixelFormat.size`, `PixelFormat.planes`, `byteCount`. Main statements:
`PixelFormat.frameLen?_eq`, `PixelFormat.planes?_eq`, `PixelFormat.byteCount_planes`,
`StreamFormat.frameLen_exact`.
-/

namespace FramePipeline

/-- The bytes of a plane. -/
def Plane.size (p : Plane) : Nat :=
  p.rows * p.rowLen

/-- The bytes of planes. -/
def byteCount (planes : List Plane) : Nat :=
  (planes.map Plane.size).sum

@[simp] theorem byteCount_nil : byteCount [] = 0 := rfl

@[simp] theorem byteCount_cons (p : Plane) (planes : List Plane) :
    byteCount (p :: planes) = p.size + byteCount planes := by
  simp [byteCount]

namespace PixelFormat

/-- The bytes of a frame, however many they are. -/
def size (format : PixelFormat) (width height : Nat) : Nat :=
  match format with
  | rgba8 => 4 * (width * height)
  | rgb24 | bgr24 => 3 * (width * height)
  | yuyv4 => 2 * (width * height)
  | gray8 => width * height
  | nv21 | nv12 => width * height + 2 * (width ⌈/⌉ 2) * (height ⌈/⌉ 2)

/-- The planes of a frame, however long their rows are. -/
def planes (format : PixelFormat) (width height : Nat) : List Plane :=
  match format.layout with
  | .packed bytes => [⟨height, width * bytes⟩]
  | .semiPlanar => [⟨height, width⟩, ⟨Word.halfUp height, Word.halfUp width * 2⟩]

variable {format : PixelFormat} {bytes n : Nat}

/-! ## Layouts -/

theorem bytesPerPixel_bounds (packed : format.layout = .packed bytes) : 0 < bytes ∧ bytes ≤ 4 := by
  cases format <;> cases packed <;> decide

theorem size_of_packed (packed : format.layout = .packed bytes) (width height : Nat) :
    format.size width height = width * height * bytes := by
  cases format <;> cases packed <;> simp only [size, Nat.mul_one] <;> exact Nat.mul_comm ..

theorem size_of_semiPlanar (semiPlanar : format.layout = .semiPlanar) (width height : Nat) :
    format.size width height =
      width * height + Word.halfUp width * Word.halfUp height * 2 := by
  have rounded (n : Nat) : n ⌈/⌉ 2 = Word.halfUp n := by
    rw [Nat.ceilDiv_eq_add_pred_div, Word.halfUp]
    omega
  have reordered (a b : Nat) : 2 * a * b = a * b * 2 := by
    rw [Nat.mul_assoc, Nat.mul_comm]
  cases format <;> cases semiPlanar <;> simp only [size, rounded, reordered]

/-! ## Lengths and planes -/

section Words

variable (width height : UInt32)

/-- The pixels of a frame are a word. -/
theorem pixels_lt_limit : width.toNat * height.toNat < Word.limit := by
  have w : width.toNat ≤ UInt32.size - 1 := Nat.le_pred_of_lt width.toNat_lt_size
  have h : height.toNat ≤ UInt32.size - 1 := Nat.le_pred_of_lt height.toNat_lt_size
  exact Nat.lt_of_le_of_lt (Nat.mul_le_mul w h) (by decide)

theorem halfUp_le (side : UInt32) : Word.halfUp side.toNat ≤ UInt32.size / 2 := by
  have lt := side.toNat_lt_size
  unfold Word.halfUp
  omega

/-- So are the blocks of two by two pixels, and the bytes of chroma. -/
theorem chroma_lt_limit :
    Word.halfUp width.toNat * Word.halfUp height.toNat * 2 < Word.limit := by
  have blocks := Nat.mul_le_mul (halfUp_le width) (halfUp_le height)
  exact Nat.lt_of_le_of_lt (Nat.mul_le_mul_right 2 blocks) (by decide)

/-- A length is missing only because it is too large. -/
theorem frameLen?_eq :
    format.frameLen? width height =
      if format.size width.toNat height.toNat < Word.limit then
        some (format.size width.toNat height.toNat)
      else none := by
  have pixels := pixels_lt_limit width height
  unfold frameLen?
  cases layout : format.layout with
  | packed bytes =>
    rw [size_of_packed layout]
    simp only [Word.mul?, if_pos pixels, Option.bind_eq_bind, Option.bind_some]
  | semiPlanar =>
    have chroma := chroma_lt_limit width height
    have blocks : Word.halfUp width.toNat * Word.halfUp height.toNat < Word.limit := by omega
    rw [size_of_semiPlanar layout]
    simp only [Word.mul?, Word.add?, if_pos pixels, if_pos blocks, if_pos chroma,
      Option.bind_eq_bind, Option.bind_some]

end Words

theorem size_pos {width height : Nat} (wide : 0 < width) (high : 0 < height) :
    0 < format.size width height := by
  have pixels : 0 < width * height := Nat.mul_pos wide high
  cases format <;> simp only [size] <;> omega

/-! ## Planes -/

/-- No row is too long. -/
theorem planes?_eq (width height : UInt32) :
    format.planes? width height = some (format.planes width.toNat height.toNat) := by
  unfold planes? planes
  cases layout : format.layout with
  | packed bytes =>
    have row : width.toNat * bytes < Word.limit := by
      have few := Nat.mul_le_mul (Nat.le_of_lt width.toNat_lt_size) (bytesPerPixel_bounds layout).2
      exact Nat.lt_of_le_of_lt few (by decide)
    simp only [Word.mul?, if_pos row, Option.bind_eq_bind, Option.bind_some]
  | semiPlanar =>
    have row : Word.halfUp width.toNat * 2 < Word.limit := by
      have few := Nat.mul_le_mul_right 2 (halfUp_le width)
      exact Nat.lt_of_le_of_lt few (by decide)
    simp only [Word.mul?, if_pos row, Option.bind_eq_bind, Option.bind_some]

/-- The planes of a frame have all its bytes. -/
theorem byteCount_planes (format : PixelFormat) (width height : Nat) :
    byteCount (format.planes width height) = format.size width height := by
  unfold planes
  cases layout : format.layout with
  | packed bytes =>
    rw [size_of_packed layout, byteCount_cons, byteCount_nil, Nat.add_zero, Plane.size,
      ← Nat.mul_assoc, Nat.mul_comm height]
  | semiPlanar =>
    rw [size_of_semiPlanar layout, byteCount_cons, byteCount_cons, byteCount_nil, Nat.add_zero,
      Plane.size, Plane.size, Nat.mul_comm height, ← Nat.mul_assoc, Nat.mul_comm (Word.halfUp height)]

end PixelFormat

/-! ## Streams -/

namespace StreamFormat

variable {s : StreamFormat} {n : Nat}

/-- The bytes of a frame of the stream, however many they are. -/
def size (s : StreamFormat) : Nat :=
  s.format.size s.width.toNat s.height.toNat

theorem frameLen?_eq_some_iff :
    s.format.frameLen? s.width s.height = some n ↔ s.size < Word.limit ∧ n = s.size := by
  rw [PixelFormat.frameLen?_eq]
  show (if s.size < Word.limit then some s.size else none) = some n ↔ _
  by_cases fits : s.size < Word.limit
  · rw [if_pos fits, Option.some_inj, eq_comm, and_iff_right fits]
  · simp [fits]

theorem frameLen_eq_ok_iff :
    s.frameLen = .ok n ↔
      s.width ≠ 0 ∧ s.height ≠ 0 ∧ s.format.frameLen? s.width s.height = some n := by
  unfold frameLen
  by_cases empty : s.width = 0 ∨ s.height = 0
  · rw [if_pos empty]
    obtain zero | zero := empty <;> simp [zero]
  · obtain ⟨wide, high⟩ := not_or.mp empty
    rw [if_neg empty, and_iff_right wide, and_iff_right high]
    cases s.format.frameLen? s.width s.height <;> simp

theorem frameLen_eq_error_iff {e : HandoffError} :
    s.frameLen = .error e ↔
      (s.width = 0 ∨ s.height = 0 ∨ s.format.frameLen? s.width s.height = none) ∧
        e = .invalidDimensions s.width s.height := by
  unfold frameLen
  by_cases empty : s.width = 0 ∨ s.height = 0
  · rw [if_pos empty, ← or_assoc, and_iff_right (.inl empty), Except.error.injEq, eq_comm]
  · rw [if_neg empty, ← or_assoc, or_iff_right empty]
    cases s.format.frameLen? s.width s.height <;> simp [eq_comm]

theorem sides_pos (wide : s.width ≠ 0) (high : s.height ≠ 0) : 0 < s.width.toNat ∧ 0 < s.height.toNat :=
  ⟨Nat.pos_of_ne_zero fun zero => wide (UInt32.toNat_inj.mp zero),
    Nat.pos_of_ne_zero fun zero => high (UInt32.toNat_inj.mp zero)⟩

/-- A frame without an empty side has a byte. -/
theorem size_pos (wide : s.width ≠ 0) (high : s.height ≠ 0) : 0 < s.size := by
  obtain ⟨width, height⟩ := sides_pos wide high
  exact PixelFormat.size_pos width height

/-- **Lengths are exact.** A format has a length for the sides of a frame exactly where the bytes of the
frame are a word, and it is their number. The planes of the frame have these bytes, too. A stream has the
length of its frames, which is not zero, exactly where its format has it and no side is zero; all other
dimensions are refused. -/
theorem frameLen_exact (s : StreamFormat) :
    (∀ n, s.format.frameLen? s.width s.height = some n ↔ s.size < UInt64.size ∧ n = s.size) ∧
    (∃ planes, s.format.planes? s.width s.height = some planes ∧ byteCount planes = s.size) ∧
    (∀ n, s.frameLen = .ok n ↔
      0 < n ∧ s.width ≠ 0 ∧ s.height ≠ 0 ∧ s.format.frameLen? s.width s.height = some n) ∧
    ∀ e, s.frameLen = .error e ↔
      (s.width = 0 ∨ s.height = 0 ∨ s.format.frameLen? s.width s.height = none) ∧
        e = .invalidDimensions s.width s.height := by
  have limit : Word.limit = UInt64.size := rfl
  refine ⟨fun n => ?_, ⟨_, PixelFormat.planes?_eq s.width s.height, PixelFormat.byteCount_planes ..⟩,
    fun n => ?_, fun e => frameLen_eq_error_iff⟩
  · rw [← limit]
    exact frameLen?_eq_some_iff
  · rw [frameLen_eq_ok_iff]
    refine ⟨?_, fun ⟨_, others⟩ => others⟩
    rintro ⟨wide, high, length⟩
    have exact_length : n = s.size := (frameLen?_eq_some_iff.mp length).2
    exact ⟨exact_length ▸ size_pos wide high, wide, high, length⟩

end StreamFormat

end FramePipeline
