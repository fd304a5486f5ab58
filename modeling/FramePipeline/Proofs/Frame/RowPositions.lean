import FramePipeline.Frame.Padded
import FramePipeline.Proofs.Frame.Sizes

/-!
# Where rows are

A frame has its rows one directly behind the other. A padded buffer has them a stride apart, and those of a
plane behind those of the planes before it. `HasRows` says where each byte of the frame is in the buffer;
taking the rows out of a buffer gives the frame that it carries, and laying out a frame makes a buffer that
carries it.

Main definitions: `rowCount`, `imageEnd`, `HasRows`, `takeRows`. Main statements:
`hasRows_takeRows`, `HasRows.unique`, `hasRows_layOutPlanes`, `slice_inside`.
-/

namespace FramePipeline

/-! ## Counting -/

/-- The rows of planes. -/
def rowCount (planes : List Plane) : Nat :=
  (planes.map Plane.rows).sum

/-- Where the last row ends in a buffer whose rows are a stride apart. -/
def imageEnd (stride : Nat) (planes : List Plane) : Nat :=
  (rowCount planes - 1) * stride + (planes.getLast?.map Plane.rowLen).getD 0

variable {stride : Nat} {p : Plane} {planes : List Plane} {src frame frame' : Bytes}

@[simp] theorem rowCount_nil : rowCount [] = 0 := rfl

@[simp] theorem rowCount_cons (p : Plane) (planes : List Plane) :
    rowCount (p :: planes) = p.rows + rowCount planes := by
  simp [rowCount]

theorem imageEnd_singleton (stride : Nat) (p : Plane) :
    imageEnd stride [p] = (p.rows - 1) * stride + p.rowLen := by
  simp [imageEnd]

theorem rowCount_pos (some_plane : planes ≠ []) (filled : ∀ p ∈ planes, 0 < p.rows) :
    0 < rowCount planes := by
  cases planes with
  | nil => exact absurd rfl some_plane
  | cons p planes =>
    rw [rowCount_cons]
    exact Nat.add_pos_left (filled p (List.mem_cons_self ..)) _

/-- Further planes stand behind the rows of the first one. -/
theorem imageEnd_cons (stride : Nat) (p : Plane) (some_plane : planes ≠ [])
    (filled : ∀ p ∈ planes, 0 < p.rows) :
    imageEnd stride (p :: planes) = p.rows * stride + imageEnd stride planes := by
  have pos := rowCount_pos some_plane filled
  have rows : p.rows + rowCount planes - 1 = p.rows + (rowCount planes - 1) := by omega
  obtain ⟨q, planes, rfl⟩ := List.exists_cons_of_ne_nil some_plane
  unfold imageEnd
  rw [List.getLast?_cons_cons, rowCount_cons, rows, Nat.add_mul, Nat.add_assoc]

theorem imageEnd_pos (stride : Nat) (some_plane : planes ≠ []) (nonempty : ∀ p ∈ planes, 0 < p.rowLen) :
    0 < imageEnd stride planes := by
  have last := nonempty _ (List.getLast_mem some_plane)
  unfold imageEnd
  rw [List.getLast?_eq_some_getLast some_plane]
  exact Nat.add_pos_right _ last

/-! ## One plane -/

/-- The rows of a plane that begins at the beginning of the buffer. -/
def takePlane (stride : Nat) (p : Plane) (src : Bytes) : Bytes :=
  (List.range p.rows).flatMap fun row => (src.drop (row * stride)).take p.rowLen

/-- The buffer has the bytes of the plane in its rows. -/
def HasPlane (stride : Nat) (p : Plane) (src frame : Bytes) : Prop :=
  ∀ row < p.rows, ∀ column < p.rowLen,
    ∃ b, src[row * stride + column]? = some b ∧ frame[row * p.rowLen + column]? = some b

/-- A row and a column are a position in the rows. -/
theorem position_lt {row rows column len : Nat} (lt : row < rows) (within : column < len) :
    row * len + column < rows * len :=
  calc row * len + column < row * len + len := Nat.add_lt_add_left within _
    _ = (row + 1) * len := (Nat.succ_mul row len).symm
    _ ≤ rows * len := Nat.mul_le_mul_right len lt

/-- Stretches of equal length that are joined have their bytes one stretch after the other. -/
theorem getElem?_flatMap_range {f : Nat → Bytes} {count len : Nat}
    (length : ∀ i < count, (f i).length = len) :
    ((List.range count).flatMap f).length = count * len ∧
      ∀ i < count, ∀ j < len, ((List.range count).flatMap f)[i * len + j]? = (f i)[j]? := by
  induction count with
  | zero => simp
  | succ count ih =>
    obtain ⟨joined, bytes⟩ := ih fun i lt => length i (Nat.lt_succ_of_lt lt)
    have last := length count (Nat.lt_succ_self count)
    rw [List.range_succ, List.flatMap_append, List.flatMap_singleton]
    refine ⟨by rw [List.length_append, joined, last, Nat.succ_mul], fun i lt j inside => ?_⟩
    obtain before | rfl := Nat.lt_succ_iff_lt_or_eq.mp lt
    · rw [List.getElem?_append_left (joined.symm ▸ position_lt before inside), bytes i before j inside]
    · rw [List.getElem?_append_right (by omega), joined, Nat.add_sub_cancel_left]

theorem takePlane_spec (inside : ∀ row < p.rows, row * stride + p.rowLen ≤ src.length) :
    (takePlane stride p src).length = p.size ∧ HasPlane stride p src (takePlane stride p src) := by
  have length : ∀ row < p.rows, ((src.drop (row * stride)).take p.rowLen).length = p.rowLen := by
    intro row lt
    have reach := inside row lt
    rw [List.length_take, List.length_drop]
    omega
  obtain ⟨joined, bytes⟩ := getElem?_flatMap_range length
  refine ⟨joined, fun row lt column within => ?_⟩
  have there : row * stride + column < src.length := by
    have reach := inside row lt
    omega
  refine ⟨src[row * stride + column], List.getElem?_eq_getElem there, ?_⟩
  rw [takePlane, bytes row lt column within, List.getElem?_take_of_lt within, List.getElem?_drop,
    List.getElem?_eq_getElem there]

/-! ## All planes -/

/-- The buffer has the bytes of the frame in its rows: those of a plane stand behind the rows of the planes
before it. -/
def HasRows (stride : Nat) (planes : List Plane) (src frame : Bytes) : Prop :=
  ∀ i p row column, planes[i]? = some p → row < p.rows → column < p.rowLen →
    ∃ b, src[(rowCount (planes.take i) + row) * stride + column]? = some b ∧
      frame[byteCount (planes.take i) + row * p.rowLen + column]? = some b

theorem hasRows_cons :
    HasRows stride (p :: planes) src frame ↔
      HasPlane stride p src frame ∧
        HasRows stride planes (src.drop (p.rows * stride)) (frame.drop p.size) := by
  have behind (rows row column : Nat) :
      (p.rows + rows + row) * stride + column = p.rows * stride + ((rows + row) * stride + column) := by
    rw [Nat.add_assoc, Nat.add_mul, Nat.add_assoc]
  have behind' (bytes row column : Nat) :
      p.size + bytes + row + column = p.size + (bytes + row + column) := by omega
  refine ⟨fun carries => ⟨fun row lt column within => ?_, fun i q row column there lt within => ?_⟩, ?_⟩
  · have first := carries 0 p row column rfl lt within
    simpa using first
  · have other := carries (i + 1) q row column there lt within
    rw [List.take_succ_cons, rowCount_cons, byteCount_cons, behind, behind'] at other
    rw [List.getElem?_drop, List.getElem?_drop]
    exact other
  · rintro ⟨first, others⟩ (_ | i) q row column there lt within
    · obtain rfl : p = q := Option.some.inj there
      simpa using first row lt column within
    · have other := others i q row column there lt within
      rw [List.getElem?_drop, List.getElem?_drop] at other
      rw [List.take_succ_cons, rowCount_cons, byteCount_cons, behind, behind']
      exact other

/-- Every byte of a frame has a row and a column in one of its planes. -/
theorem exists_position {k : Nat} (lt : k < byteCount planes) :
    ∃ i p row column, planes[i]? = some p ∧ row < p.rows ∧ column < p.rowLen ∧
      k = byteCount (planes.take i) + row * p.rowLen + column := by
  induction planes generalizing k with
  | nil => cases lt
  | cons p planes ih =>
    rw [byteCount_cons] at lt
    obtain inside | behind := Nat.lt_or_ge k p.size
    · have pos : 0 < p.rowLen := Nat.pos_of_mul_pos_left (Nat.zero_lt_of_lt inside)
      refine ⟨0, p, k / p.rowLen, k % p.rowLen, rfl, Nat.div_lt_of_lt_mul ?_, Nat.mod_lt k pos, ?_⟩
      · rwa [Nat.mul_comm]
      · simp [Nat.mod_add_div', Nat.add_comm]
    · obtain ⟨i, q, row, column, there, row_lt, column_lt, eq⟩ := @ih (k - p.size) (by omega)
      refine ⟨i + 1, q, row, column, there, row_lt, column_lt, ?_⟩
      rw [List.take_succ_cons, byteCount_cons]
      omega

/-- A buffer carries no more than one frame. -/
theorem HasRows.unique (carries : HasRows stride planes src frame)
    (carries' : HasRows stride planes src frame') (length : frame.length = byteCount planes)
    (length' : frame'.length = byteCount planes) : frame = frame' := by
  refine List.ext_getElem? fun k => ?_
  obtain lt | ge := Nat.lt_or_ge k (byteCount planes)
  · obtain ⟨i, p, row, column, there, row_lt, column_lt, rfl⟩ := exists_position lt
    obtain ⟨b, carried, byte⟩ := carries i p row column there row_lt column_lt
    obtain ⟨b', carried', byte'⟩ := carries' i p row column there row_lt column_lt
    rw [byte, byte', ← carried, carried']
  · rw [List.getElem?_eq_none (length.symm ▸ ge), List.getElem?_eq_none (length'.symm ▸ ge)]

/-- What stands behind the buffer does not matter. -/
theorem HasRows.append (carries : HasRows stride planes src frame) (rest : Bytes) :
    HasRows stride planes (src ++ rest) frame := by
  intro i p row column there row_lt column_lt
  obtain ⟨b, carried, byte⟩ := carries i p row column there row_lt column_lt
  have inside := (List.getElem?_eq_some_iff.mp carried).1
  exact ⟨b, by rw [List.getElem?_append_left inside, carried], byte⟩

/-- A buffer that carries a frame reaches to the end of its last row. -/
theorem HasRows.reaches (carries : HasRows stride planes src frame)
    (filled : ∀ p ∈ planes, 0 < p.rows) (nonempty : ∀ p ∈ planes, 0 < p.rowLen) :
    imageEnd stride planes ≤ src.length := by
  induction planes generalizing src frame with
  | nil => simp [imageEnd]
  | cons p planes ih =>
    obtain ⟨rows, filled⟩ := List.forall_mem_cons.mp filled
    obtain ⟨row, nonempty⟩ := List.forall_mem_cons.mp nonempty
    obtain ⟨first, others⟩ := hasRows_cons.mp carries
    obtain rfl | some_plane := eq_or_ne planes []
    · obtain ⟨b, last, -⟩ := first (p.rows - 1) (Nat.sub_one_lt_of_lt rows) (p.rowLen - 1)
        (Nat.sub_one_lt_of_lt row)
      obtain ⟨there, -⟩ := List.getElem?_eq_some_iff.mp last
      rw [imageEnd_singleton]
      omega
    · have behind := ih others filled nonempty
      have pos := imageEnd_pos stride some_plane nonempty
      rw [List.length_drop] at behind
      rw [imageEnd_cons stride p some_plane filled]
      omega

/-! ## Taking rows out -/

/-- The rows of planes that begin at the beginning of the buffer. -/
def takeRows (stride : Nat) (planes : List Plane) (src : Bytes) : Bytes :=
  (rowSlices stride planes 0).flatMap (·.of src)

/-- What begins farther behind is in the rest of the buffer. -/
theorem Slice.of_behind (begins start len : Nat) (src : Bytes) :
    (⟨begins + start, len⟩ : Slice).of src = (⟨start, len⟩ : Slice).of (src.drop begins) := by
  rw [Slice.of, Slice.of, List.drop_drop]

theorem flatMap_rowSlices (stride : Nat) (planes : List Plane) (begins offset : Nat) (src : Bytes) :
    (rowSlices stride planes (begins + offset)).flatMap (·.of src) =
      (rowSlices stride planes offset).flatMap (·.of (src.drop begins)) := by
  induction planes generalizing offset with
  | nil => rfl
  | cons p planes ih =>
    simp only [rowSlices, List.flatMap_append, List.flatMap_map, Nat.add_assoc, Slice.of_behind, ih]

theorem takeRows_cons (stride : Nat) (p : Plane) (planes : List Plane) (src : Bytes) :
    takeRows stride (p :: planes) src =
      takePlane stride p src ++ takeRows stride planes (src.drop (p.rows * stride)) := by
  have others := flatMap_rowSlices stride planes (p.rows * stride) 0 src
  rw [Nat.add_zero] at others
  rw [takeRows, rowSlices, List.flatMap_append, List.flatMap_map, Nat.zero_add, others]
  simp only [Slice.of, Nat.zero_add, takePlane, takeRows]

/-! ## How far rows reach -/

/-- No row of the first plane ends behind the image. -/
theorem row_end_le {row : Nat} (lt : row < p.rows) (wide : p.rowLen ≤ stride)
    (filled : ∀ q ∈ planes, 0 < q.rows) :
    row * stride + p.rowLen ≤ imageEnd stride (p :: planes) := by
  obtain rfl | some_plane := eq_or_ne planes []
  · have before : row * stride ≤ (p.rows - 1) * stride := Nat.mul_le_mul_right stride (by omega)
    rw [imageEnd_singleton]
    omega
  · have before : (row + 1) * stride ≤ p.rows * stride := Nat.mul_le_mul_right stride lt
    rw [Nat.succ_mul] at before
    rw [imageEnd_cons stride p some_plane filled]
    omega

/-- The image ends with the rows of its planes, or before. -/
theorem imageEnd_le (wide : ∀ p ∈ planes, p.rowLen ≤ stride) (filled : ∀ p ∈ planes, 0 < p.rows) :
    imageEnd stride planes ≤ rowCount planes * stride := by
  induction planes with
  | nil => simp [imageEnd]
  | cons p planes ih =>
    obtain ⟨row, wide⟩ := List.forall_mem_cons.mp wide
    obtain ⟨rows, filled⟩ := List.forall_mem_cons.mp filled
    obtain rfl | some_plane := eq_or_ne planes []
    · have last : (p.rows - 1) * stride + stride = p.rows * stride := by
        rw [← Nat.succ_mul, Nat.succ_eq_add_one, Nat.sub_add_cancel rows]
      rw [imageEnd_singleton, rowCount_cons, rowCount_nil, Nat.add_zero]
      omega
    · have others := ih wide filled
      rw [imageEnd_cons stride p some_plane filled, rowCount_cons, Nat.add_mul]
      omega

/-- No row ends behind the image. -/
theorem slice_inside (wide : ∀ p ∈ planes, p.rowLen ≤ stride) (filled : ∀ p ∈ planes, 0 < p.rows)
    {slice : Slice} {offset : Nat} (mem : slice ∈ rowSlices stride planes offset) :
    slice.start + slice.len ≤ offset + imageEnd stride planes := by
  induction planes generalizing offset with
  | nil => cases mem
  | cons p planes ih =>
    obtain ⟨row, wide⟩ := List.forall_mem_cons.mp wide
    obtain ⟨rows, filled⟩ := List.forall_mem_cons.mp filled
    obtain first | other := List.mem_append.mp mem
    · obtain ⟨i, lt, rfl⟩ := List.mem_map.mp first
      have ends := row_end_le (List.mem_range.mp lt) row filled
      show offset + i * stride + p.rowLen ≤ _
      omega
    · have some_plane : planes ≠ [] := by
        rintro rfl
        cases other
      have ends := ih wide filled other
      rw [imageEnd_cons stride p some_plane filled]
      omega

/-- The rows that are taken out of a buffer are the frame that it carries. -/
theorem hasRows_takeRows (wide : ∀ p ∈ planes, p.rowLen ≤ stride)
    (filled : ∀ p ∈ planes, 0 < p.rows) (reaches : imageEnd stride planes ≤ src.length) :
    (takeRows stride planes src).length = byteCount planes ∧
      HasRows stride planes src (takeRows stride planes src) := by
  induction planes generalizing src with
  | nil => exact ⟨rfl, fun i p row column there => by simp at there⟩
  | cons p planes ih =>
    obtain ⟨row, wide⟩ := List.forall_mem_cons.mp wide
    obtain ⟨rows, filled⟩ := List.forall_mem_cons.mp filled
    have rest : imageEnd stride planes ≤ (src.drop (p.rows * stride)).length := by
      obtain rfl | some_plane := eq_or_ne planes []
      · simp [imageEnd]
      · rw [imageEnd_cons stride p some_plane filled] at reaches
        rw [List.length_drop]
        omega
    have inside : ∀ i < p.rows, i * stride + p.rowLen ≤ src.length := fun i lt =>
      Nat.le_trans (row_end_le lt row filled) reaches
    obtain ⟨length, carried⟩ := takePlane_spec inside
    obtain ⟨lengths, carries⟩ := ih wide filled rest
    rw [takeRows_cons, hasRows_cons, List.length_append, byteCount_cons, length, lengths]
    refine ⟨rfl, fun i lt column within => ?_, ?_⟩
    · have before : i * p.rowLen + column < (takePlane stride p src).length :=
        length.symm ▸ position_lt lt within
      obtain ⟨b, there, taken⟩ := carried i lt column within
      exact ⟨b, there, by rw [List.getElem?_append_left before, taken]⟩
    · rwa [List.drop_left' length]

/-! ## Laying out -/

variable (filler : Nat → UInt8) (start : Nat)

theorem layOutRows_spec {rowLen rows : Nat} (wide : rowLen ≤ stride)
    (enough : rows * rowLen ≤ frame.length) :
    (layOutRows filler stride rowLen rows start frame).length = rows * stride ∧
      ∀ row < rows, ∀ column < rowLen,
        (layOutRows filler stride rowLen rows start frame)[row * stride + column]? =
          frame[row * rowLen + column]? := by
  induction rows generalizing start frame with
  | zero => simp [layOutRows]
  | succ rows ih =>
    rw [Nat.succ_mul] at enough
    have rest : rows * rowLen ≤ (frame.drop rowLen).length := by
      rw [List.length_drop]
      omega
    obtain ⟨length, bytes⟩ := ih (start + stride) rest
    have taken : (frame.take rowLen).length = rowLen := by
      rw [List.length_take]
      omega
    have first : (frame.take rowLen ++ fillerBehind filler stride start rowLen).length = stride := by
      rw [List.length_append, taken, fillerBehind, List.length_map, List.length_range']
      omega
    unfold layOutRows
    refine ⟨by rw [List.length_append, first, length, Nat.succ_mul, Nat.add_comm], ?_⟩
    rintro (_ | row) lt column within
    · rw [List.append_assoc, List.getElem?_append_left (by omega), List.getElem?_take_of_lt (by omega)]
      simp
    · have behind : (row + 1) * stride + column = stride + (row * stride + column) := by
        rw [Nat.succ_mul]
        omega
      rw [behind, List.getElem?_append_right (by omega), first, Nat.add_sub_cancel_left,
        bytes row (Nat.lt_of_succ_lt_succ lt) column within, List.getElem?_drop, Nat.succ_mul]
      congr 1
      omega

/-- A frame that was laid out is carried by the buffer. -/
theorem hasRows_layOutPlanes (wide : ∀ p ∈ planes, p.rowLen ≤ stride)
    (enough : byteCount planes ≤ frame.length) :
    (layOutPlanes filler stride planes start frame).length = rowCount planes * stride ∧
      HasRows stride planes (layOutPlanes filler stride planes start frame) frame := by
  induction planes generalizing start frame with
  | nil => exact ⟨by simp [layOutPlanes], fun i p row column there => by simp at there⟩
  | cons p planes ih =>
    obtain ⟨row, wide⟩ := List.forall_mem_cons.mp wide
    rw [byteCount_cons] at enough
    have rest : byteCount planes ≤ (frame.drop p.size).length := by
      rw [List.length_drop]
      omega
    obtain ⟨length, bytes⟩ := layOutRows_spec filler start row
      (Nat.le_trans (Nat.le_add_right ..) enough)
    obtain ⟨lengths, carries⟩ := ih (start + p.rows * stride) wide rest
    unfold layOutPlanes
    rw [List.length_append, length, ← Plane.size, lengths, rowCount_cons, Nat.add_mul, hasRows_cons]
    refine ⟨rfl, fun i lt column within => ?_, ?_⟩
    · have before : i * stride + column <
          (layOutRows filler stride p.rowLen p.rows start frame).length :=
        length.symm ▸ position_lt lt (Nat.lt_of_lt_of_le within row)
      have there : i * p.rowLen + column < frame.length := by
        have position : i * p.rowLen + column < p.size := position_lt lt within
        omega
      refine ⟨frame[i * p.rowLen + column], ?_, List.getElem?_eq_getElem there⟩
      rw [List.getElem?_append_left before, bytes i lt column within, List.getElem?_eq_getElem there]
    · rwa [List.drop_left' length]

end FramePipeline
