import FramePipeline.Word

/-!
# Memory

A block of memory has fewer than 2^63 bytes on any machine, and a clock shows fewer than 2^63 seconds.
Work that asks for more meets an *overload*: it is not refused, but breaks down where it stands.

Main definitions: `Overload`, `Overload.message`, `Memory.largestBlock`, `Memory.reserve`; by
`Memory.reserve_eq_ok_iff` exactly the blocks up to the largest one can be had.
-/

namespace FramePipeline

/-- What is asked for beyond all machines. -/
inductive Overload where
  /-- A block of memory of so many bytes. -/
  | block (bytes : Nat)
  /-- An item in front of the first one of a list. -/
  | beforeFirst (index : Int)
  /-- A time so many seconds ahead. -/
  | time (seconds : Nat)
  deriving DecidableEq, Repr

/-- The text shown to people. -/
def Overload.message : Overload → String
  | block bytes => "no memory for a block of " ++ toString bytes ++ " bytes"
  | beforeFirst index => "no item at index " ++ toString index
  | time seconds => "no time " ++ toString seconds ++ " seconds ahead"

namespace Memory

/-- The bytes of the largest block. -/
def largestBlock : Nat :=
  Word.signedLimit - 1

/-- A block for `count` things of `size` bytes each. -/
def reserve (count size : Nat) : Except Overload Unit :=
  if count * size ≤ largestBlock then .ok () else .error (.block (count * size))

theorem reserve_eq_ok_iff {count size : Nat} :
    reserve count size = .ok () ↔ count * size ≤ largestBlock := by
  by_cases h : count * size ≤ largestBlock <;> simp [reserve, h]

end Memory

end FramePipeline
