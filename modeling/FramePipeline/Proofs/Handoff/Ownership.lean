import FramePipeline.Handoff.Pool

/-!
# Who refers to a buffer

The references to the cells of a pool are accounted for by a list of *owners*: a cell that is in the
list twice has two references. As long as the account is right, a cell with one reference is in nobody
else's hands, so that writing to it changes no frame that others hold.

Main definition: `Pool.IsOwnedBy`. Main statements: what `alloc`, `retain`, `release` and `overwrite`
do to the account.
-/

namespace FramePipeline.Pool

variable {p : Pool} {owners others : List CellId} {id : CellId}

/-- Every cell counts one reference for each time it is in the list. -/
def IsOwnedBy (p : Pool) (owners : List CellId) : Prop :=
  ∀ id, p.refs id = owners.count id

theorem isOwnedBy_empty : ({} : Pool).IsOwnedBy [] := by
  intro id
  rfl

namespace IsOwnedBy

theorem perm (h : p.IsOwnedBy owners) (hp : owners.Perm others) : p.IsOwnedBy others := by
  intro id
  rw [h id, hp.count_eq]

/-! ## Owned cells -/

theorem lt_size (h : p.IsOwnedBy owners) (mem : id ∈ owners) : id < p.size := by
  refine Nat.lt_of_not_le fun beyond => ?_
  have none_there : p.cells[id]? = none := List.getElem?_eq_none beyond
  have pos : 0 < owners.count id := List.count_pos_iff.mpr mem
  have counted := h id
  simp only [refs, none_there, Option.map_none, Option.getD_none] at counted
  omega

theorem exists_frame (h : p.IsOwnedBy owners) (mem : id ∈ owners) : ∃ f, p.frame? id = some f := by
  have bound : id < p.cells.length := h.lt_size mem
  have here : p.cells[id]? = some p.cells[id] := List.getElem?_eq_getElem bound
  exact ⟨_, by rw [frame?, here]; rfl⟩

theorem size_not_mem (h : p.IsOwnedBy owners) : p.size ∉ owners :=
  fun mem => Nat.lt_irrefl _ (h.lt_size mem)

/-- A cell with one reference has no other owner. -/
theorem not_mem_of_refs_eq_one (h : p.IsOwnedBy (id :: owners)) (one : p.refs id = 1) :
    id ∉ owners := by
  have counted := h id
  rw [one, List.count_cons_self] at counted
  exact List.count_eq_zero.mp (by omega)

/-! ## Operations -/

theorem alloc (h : p.IsOwnedBy owners) (f : Frame) : (p.alloc f).2.IsOwnedBy (p.size :: owners) := by
  intro id
  rw [refs_alloc, List.count_cons]
  by_cases new : id = p.size
  · subst new
    rw [List.count_eq_zero.mpr h.size_not_mem]
    simp
  · simp [new, Ne.symm new, h id]

theorem retain (h : p.IsOwnedBy owners) (mem : id ∈ owners) :
    (p.retain id).IsOwnedBy (id :: owners) := by
  intro other
  rw [refs_retain (h.lt_size mem), List.count_cons]
  by_cases same : other = id
  · subst same
    simp [h other]
  · simp [same, Ne.symm same, h other]

theorem release (h : p.IsOwnedBy (id :: owners)) : (p.release id).IsOwnedBy owners := by
  intro other
  have counted := h other
  rw [List.count_cons] at counted
  rw [refs_release]
  by_cases same : other = id
  · subst same
    simp only [beq_self_eq_true, if_true] at counted ⊢
    omega
  · simpa [same, Ne.symm same] using counted

theorem overwrite (h : p.IsOwnedBy owners) (id : CellId) (bytes : Bytes) (n : Nat) :
    (p.overwrite id bytes n).IsOwnedBy owners := by
  intro other
  rw [refs_overwrite, h other]

end IsOwnedBy

end FramePipeline.Pool
