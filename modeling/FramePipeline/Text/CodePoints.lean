/-!
# Sets of characters

A set of characters is written down as the increasing list of its *boundaries*: the code points at
which membership changes, the first one entering the set. A character is in the set exactly when an
odd number of boundaries are at or below it (`CodePoints.contains`). The tables of character
properties in this folder are such lists.
-/

namespace FramePipeline.Text.CodePoints

/-- Membership in the set with these boundaries: an odd number of them are at or below the
character. -/
def contains (boundaries : Array Nat) (c : Char) : Bool :=
  boundaries.foldl (fun inside b => if b ≤ c.toNat then !inside else inside) false

end FramePipeline.Text.CodePoints
