/-!
# Words

Numbers of 64 bits, with and without a sign. Sums and products of sizes are computed only where they
fit (`Word.add?`, `Word.mul?`), so no size ever wraps around; `Word.add?_eq_some_iff` and
`Word.mul?_eq_some_iff` say when they do.
-/

namespace FramePipeline.Word

/-! ## Ranges -/

/-- The first number that is too large for a word. -/
def limit : Nat := 0x10000000000000000

/-- The largest word. -/
def largest : Nat := limit - 1

/-- The first number that is too large for a word with a sign. -/
def signedLimit : Nat := 0x8000000000000000

/-- The integer is in the range of words with a sign. -/
def isSigned (i : Int) : Bool :=
  -signedLimit ≤ i && i < signedLimit

/-! ## Sums and products -/

/-- The sum, if it is a word. -/
def add? (a b : Nat) : Option Nat :=
  if a + b < limit then some (a + b) else none

/-- The product, if it is a word. -/
def mul? (a b : Nat) : Option Nat :=
  if a * b < limit then some (a * b) else none

/-- Half of a number, rounded up. -/
def halfUp (n : Nat) : Nat :=
  (n + 1) / 2

theorem add?_eq_some_iff {a b c : Nat} : add? a b = some c ↔ a + b < limit ∧ a + b = c := by
  by_cases h : a + b < limit <;> simp [add?, h]

theorem mul?_eq_some_iff {a b c : Nat} : mul? a b = some c ↔ a * b < limit ∧ a * b = c := by
  by_cases h : a * b < limit <;> simp [mul?, h]

end FramePipeline.Word
