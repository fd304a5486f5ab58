import FramePipeline.Frame.Basic

/-!
# Pools of frame buffers

A pool is a store of buffers. Each cell holds a frame and counts the references to it, so its owner
can tell whether anybody else still looks at the frame. Cells are told apart by their number; a cell
to which nothing refers any more is never read again.

Main definitions: `Cell`, `Pool`, `Pool.alloc`, `Pool.retain`, `Pool.release`, `Pool.overwrite`, and
the two views `Pool.frame?` and `Pool.refs`, with one lemma for each operation and view.
-/

namespace FramePipeline

/-- A buffer and the number of references to it, as a shared pointer to a `Frame` counts them. -/
structure Cell where
  frame : Frame
  refs : Nat
  deriving DecidableEq, Repr

/-- The number of a cell. -/
abbrev CellId := Nat

/-- A store of buffers. -/
structure Pool where
  cells : List Cell := []
  deriving DecidableEq, Repr

namespace Pool

/-! ## Views -/

/-- How many cells there are. -/
def size (p : Pool) : Nat :=
  p.cells.length

/-- The frame in a cell. -/
def frame? (p : Pool) (id : CellId) : Option Frame :=
  p.cells[id]?.map (·.frame)

/-- The number of references to a cell. -/
def refs (p : Pool) (id : CellId) : Nat :=
  (p.cells[id]?.map (·.refs)).getD 0

/-! ## Operations -/

/-- A new shared pointer: puts a frame into a new cell, to which there is one reference. -/
def alloc (p : Pool) (f : Frame) : CellId × Pool :=
  (p.size, ⟨p.cells ++ [⟨f, 1⟩]⟩)

/-- Changes one cell. -/
def modify (p : Pool) (id : CellId) (f : Cell → Cell) : Pool :=
  ⟨p.cells.modify id f⟩

/-- A clone of a shared pointer: adds a reference. -/
def retain (p : Pool) (id : CellId) : Pool :=
  p.modify id fun c => { c with refs := c.refs + 1 }

/-- A shared pointer that is dropped: takes a reference away. -/
def release (p : Pool) (id : CellId) : Pool :=
  p.modify id fun c => { c with refs := c.refs - 1 }

/-- `Frame::overwrite` in a cell: writes a frame's bytes and sequence number in place. -/
def overwrite (p : Pool) (id : CellId) (bytes : Bytes) (sequence : Nat) : Pool :=
  p.modify id fun c => { c with frame := c.frame.overwrite bytes sequence }

/-! ## Sizes -/

@[simp] theorem size_alloc (p : Pool) (f : Frame) : (p.alloc f).2.size = p.size + 1 := by
  simp [alloc, size]

@[simp] theorem size_retain (p : Pool) (id : CellId) : (p.retain id).size = p.size := by
  simp [retain, modify, size]

@[simp] theorem size_release (p : Pool) (id : CellId) : (p.release id).size = p.size := by
  simp [release, modify, size]

@[simp] theorem size_overwrite (p : Pool) (id : CellId) (bytes : Bytes) (n : Nat) :
    (p.overwrite id bytes n).size = p.size := by
  simp [overwrite, modify, size]

/-! ## Frames -/

theorem getElem?_cells_alloc (p : Pool) (f : Frame) (id : CellId) :
    (p.alloc f).2.cells[id]? = if id = p.size then some ⟨f, 1⟩ else p.cells[id]? := by
  unfold alloc size
  rw [List.getElem?_append]
  rcases Nat.lt_trichotomy id p.cells.length with h | h | h
  · simp [h, Nat.ne_of_lt h]
  · simp [h]
  · rw [if_neg (by omega), if_neg (Nat.ne_of_gt h), List.getElem?_eq_none (Nat.le_of_lt h)]
    exact List.getElem?_eq_none (by simp; omega)

theorem frame?_alloc (p : Pool) (f : Frame) (id : CellId) :
    (p.alloc f).2.frame? id = if id = p.size then some f else p.frame? id := by
  rw [frame?, getElem?_cells_alloc]
  split <;> rfl

theorem frame?_modify (p : Pool) (id other : CellId) (f : Cell → Cell) :
    (p.modify id f).frame? other =
      if other = id then (p.cells[id]?.map f).map (·.frame) else p.frame? other := by
  simp only [modify, frame?, List.getElem?_modify]
  by_cases h : id = other
  · simp [h]
  · simp [h, Ne.symm h]

@[simp] theorem frame?_retain (p : Pool) (id other : CellId) :
    (p.retain id).frame? other = p.frame? other := by
  rw [retain, frame?_modify]
  split
  · next h => simp [h, frame?, Function.comp_def]
  · rfl

@[simp] theorem frame?_release (p : Pool) (id other : CellId) :
    (p.release id).frame? other = p.frame? other := by
  rw [release, frame?_modify]
  split
  · next h => simp [h, frame?, Function.comp_def]
  · rfl

theorem frame?_overwrite (p : Pool) (id other : CellId) (bytes : Bytes) (n : Nat) :
    (p.overwrite id bytes n).frame? other =
      if other = id then (p.frame? id).map (·.overwrite bytes n) else p.frame? other := by
  rw [overwrite, frame?_modify]
  simp [frame?, Function.comp_def]

/-! ## References -/

theorem refs_alloc (p : Pool) (f : Frame) (id : CellId) :
    (p.alloc f).2.refs id = if id = p.size then 1 else p.refs id := by
  rw [refs, getElem?_cells_alloc]
  split <;> rfl

theorem refs_modify (p : Pool) (id other : CellId) (f : Cell → Cell) :
    (p.modify id f).refs other =
      if other = id then ((p.cells[id]?.map f).map (·.refs)).getD 0 else p.refs other := by
  simp only [modify, refs, List.getElem?_modify]
  by_cases h : id = other
  · simp [h]
  · simp [h, Ne.symm h]

theorem refs_retain {p : Pool} {id : CellId} (h : id < p.size) (other : CellId) :
    (p.retain id).refs other = if other = id then p.refs id + 1 else p.refs other := by
  have here : p.cells[id]? = some p.cells[id] := List.getElem?_eq_getElem h
  rw [retain, refs_modify]
  simp [refs, here]

theorem refs_release (p : Pool) (id other : CellId) :
    (p.release id).refs other = if other = id then p.refs id - 1 else p.refs other := by
  rw [release, refs_modify]
  cases h : p.cells[id]? <;> simp [refs, h]

@[simp] theorem refs_overwrite (p : Pool) (id other : CellId) (bytes : Bytes) (n : Nat) :
    (p.overwrite id bytes n).refs other = p.refs other := by
  rw [overwrite, refs_modify]
  split
  · next h => simp [h, refs, Function.comp_def]
  · rfl

end Pool

end FramePipeline
