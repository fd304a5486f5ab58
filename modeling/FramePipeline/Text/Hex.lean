/-!
# Hexadecimal digits

Numbers in base sixteen. Digits are written in lower case and read in either case.

Main definitions: `Hex.value?`, `Hex.digit`, `Hex.fixed`, `Hex.shortest`.
-/

namespace FramePipeline.Text.Hex

/-! ## Digits -/

/-- The value of a digit. -/
def value? (c : Char) : Option Nat :=
  if '0' ≤ c && c ≤ '9' then some (c.toNat - 48)
  else if 'a' ≤ c && c ≤ 'f' then some (c.toNat - 87)
  else if 'A' ≤ c && c ≤ 'F' then some (c.toNat - 55)
  else none

/-- The digit with a value below sixteen. -/
def digit (n : Nat) : Char :=
  if n < 10 then Char.ofNat (48 + n) else Char.ofNat (87 + n)

/-! ## Numbers -/

/-- The last `width` digits of a number, most significant first. -/
def fixed : (width : Nat) → (n : Nat) → List Char
  | 0, _ => []
  | width + 1, n => fixed width (n / 16) ++ [digit (n % 16)]

/-- The digits of a number without leading zeros; zero has one digit. -/
def shortest (n : Nat) : List Char :=
  fixed (n.log2 / 4 + 1) n

end FramePipeline.Text.Hex
