/-!
# Rings

A ring keeps the latest values pushed into it. It has a fixed number of slots, which fill up from the
first one; once all are taken, a value overwrites the oldest one, at the *head*, and the head moves on
by one slot, from the last slot to the first.

Main definitions: `Ring`, `Ring.push`, `Ring.toList` (the values, oldest first). Main statement:
`Ring.toList_push`, a push appends a value to the list and drops the oldest one from a full ring.
-/

namespace FramePipeline

/-- The ring buffer of a `LatencyWindow`: the latest values pushed. Until all slots are taken the oldest value
is in the first one. -/
structure Ring (α : Type) where
  /-- How many slots there are. -/
  capacity : Nat
  /-- The slots that are taken. -/
  slots : Array α
  /-- Where the oldest value is. -/
  head : Nat
  deriving Repr

namespace Ring

variable {α : Type}

/-! ## Operations -/

/-- A ring without values. -/
def empty (capacity : Nat) : Ring α :=
  ⟨capacity, #[], 0⟩

/-- How many values the ring holds. -/
def length (r : Ring α) : Nat :=
  r.slots.size

/-- Adds a value, as `push_overwrite` does; in a full ring it takes the place of the oldest one. -/
def push (r : Ring α) (a : α) : Ring α :=
  if r.slots.size < r.capacity then { r with slots := r.slots.push a }
  else
    { r with
      slots := r.slots.setIfInBounds r.head a
      head := if r.head + 1 < r.capacity then r.head + 1 else 0 }

/-- The values, oldest first. -/
def toList (r : Ring α) : List α :=
  r.slots.toList.drop r.head ++ r.slots.toList.take r.head

/-! ## Rings in order -/

/-- The head is a slot, and it is the first one while there are free slots. -/
structure Valid (r : Ring α) : Prop where
  size_le : r.slots.size ≤ r.capacity
  head_lt : r.head < r.capacity
  head_eq : r.slots.size < r.capacity → r.head = 0

theorem valid_empty {capacity : Nat} (h : 0 < capacity) : (empty capacity : Ring α).Valid :=
  ⟨Nat.zero_le _, h, fun _ => rfl⟩

theorem Valid.push {r : Ring α} (h : r.Valid) (a : α) : (r.push a).Valid := by
  obtain ⟨size_le, head_lt, head_eq⟩ := h
  unfold Ring.push
  split
  · next free =>
    refine ⟨?_, head_lt, fun _ => head_eq free⟩
    simp only [Array.size_push]
    omega
  · next full =>
    refine ⟨by simpa using size_le, ?_, fun free => absurd (by simpa using free) full⟩
    show (if r.head + 1 < r.capacity then r.head + 1 else 0) < r.capacity
    split <;> omega

@[simp] theorem length_toList (r : Ring α) : r.toList.length = r.length := by
  simp [toList, length]
  omega

@[simp] theorem toList_empty (capacity : Nat) : (empty capacity : Ring α).toList = [] := by
  simp [toList, empty]

@[simp] theorem capacity_push (r : Ring α) (a : α) : (r.push a).capacity = r.capacity := by
  unfold push
  split <;> rfl

theorem length_push (r : Ring α) (a : α) :
    (r.push a).length = if r.length < r.capacity then r.length + 1 else r.length := by
  unfold push length
  split <;> simp

theorem toList_push {r : Ring α} (h : r.Valid) (a : α) :
    (r.push a).toList =
      (if r.length < r.capacity then r.toList else r.toList.drop 1) ++ [a] := by
  obtain ⟨size_le, head_lt, head_eq⟩ := h
  unfold push length
  split
  · next free => simp [toList, head_eq free]
  · next full =>
    have size : r.slots.toList.length = r.capacity := by
      simp only [Array.length_toList]
      omega
    obtain ⟨newer, oldest, rest, eq, len⟩ :
        ∃ newer oldest rest, r.slots.toList = newer ++ oldest :: rest ∧ newer.length = r.head :=
      ⟨r.slots.toList.take r.head, r.slots.toList[r.head], r.slots.toList.drop (r.head + 1),
        by rw [← List.drop_eq_getElem_cons, List.take_append_drop], by simp; omega⟩
    simp only [toList, Array.toList_setIfInBounds, eq, ← len]
    rw [eq] at size
    simp only [List.length_append, List.length_cons] at size
    by_cases last : newer.length + 1 < r.capacity
    · simp [if_pos last, List.drop_append, List.take_append,
        List.drop_eq_nil_of_le (Nat.le_succ newer.length),
        List.take_of_length_le (Nat.le_succ newer.length)]
    · have none_after : rest = [] := List.eq_nil_of_length_eq_zero (by omega)
      simp [if_neg last, none_after]

end Ring

end FramePipeline
