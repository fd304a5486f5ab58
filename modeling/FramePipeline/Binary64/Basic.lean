import FramePipeline.Word

/-!
# Binary64 numbers

The numbers of the IEEE 754 format `binary64`, with exact arithmetic behind every operation. A
finite number is a sign and a count of *units*, the smallest positive number of the format, `2^-1074`;
so a number is an integer in units, rounding is rounding of a quotient of integers, and no floating
point operation of the machine takes part.

Main definitions: `Binary64`, `Binary64.nearest` (round to nearest, ties to even, overflow to
infinity), `Binary64.ofNat`, `Binary64.mul`, `Binary64.div`, `Binary64.toBits`, `Binary64.toWord`.
-/

namespace FramePipeline

/-- A number of the format. A finite one is `± units · 2^-1074`. -/
inductive Binary64 where
  | nan
  | infinite (negative : Bool)
  | finite (negative : Bool) (units : Nat)
  deriving DecidableEq, Repr

namespace Binary64

/-! ## Rounding -/

/-- Units in the number one. -/
def one : Nat := 1 <<< 1074

/-- Units in the first power of two beyond the format. -/
def overflow : Nat := 1 <<< 2098

/-- The quotient rounded to the nearest integer, a tie to the even neighbour. -/
def roundToEven (num den : Nat) : Nat :=
  let q := num / den
  let r := num % den
  if 2 * r < den then q
  else if den < 2 * r then q + 1
  else if q % 2 = 0 then q else q + 1

/-- The power of two between neighbours of the magnitude `units`: numbers have 53 significant bits
and no bits below the unit. -/
def spacing (units : Nat) : Nat :=
  1 <<< (units.log2 - 52)

/-- The number nearest to `num / den` units, a tie to the even significand. -/
def nearest (negative : Bool) (num den : Nat) : Binary64 :=
  let step := spacing (num / den)
  let units := roundToEven num (den * step) * step
  if units < overflow then .finite negative units else .infinite negative

/-- The number nearest to the quotient `num / den`. -/
def ofRatio (negative : Bool) (num den : Nat) : Binary64 :=
  nearest negative (num * one) den

/-- The number nearest to a natural number. -/
def ofNat (n : Nat) : Binary64 :=
  ofRatio false n 1

/-! ## Arithmetic -/

/-- The sign is set. -/
def isNegative : Binary64 → Bool
  | .nan => false
  | .infinite negative => negative
  | .finite negative _ => negative

/-- The number with the other sign. -/
def neg : Binary64 → Binary64
  | .nan => .nan
  | .infinite negative => .infinite !negative
  | .finite negative units => .finite (!negative) units

/-- Zero of either sign. -/
def isZero : Binary64 → Bool
  | .finite _ 0 => true
  | _ => false

/-- The rounded product. -/
def mul : Binary64 → Binary64 → Binary64
  | .nan, _ => .nan
  | _, .nan => .nan
  | .infinite s, y => if y.isZero then .nan else .infinite (s != y.isNegative)
  | x, .infinite s => if x.isZero then .nan else .infinite (x.isNegative != s)
  | .finite s a, .finite t b => nearest (s != t) (a * b) one

/-- The rounded quotient. -/
def div : Binary64 → Binary64 → Binary64
  | .nan, _ => .nan
  | _, .nan => .nan
  | .infinite _, .infinite _ => .nan
  | .infinite s, .finite t _ => .infinite (s != t)
  | .finite s _, .infinite t => .finite (s != t) 0
  | .finite s a, .finite t b =>
    if b = 0 then (if a = 0 then .nan else .infinite (s != t))
    else ofRatio (s != t) a b

/-! ## Words -/

/-- The 64 bits of the interchange format. A magnitude of `s` trailing places and 53 leading bits
`m` has the biased exponent `s + 1`, whose field and the 52 stored bits of `m` add up to
`s · 2^52 + m`; below `2^53` units `s` is zero. -/
def toBits : Binary64 → Nat
  | .nan => 0x7FF8000000000000
  | .infinite negative => (if negative then Word.signedLimit else 0) + 0x7FF0000000000000
  | .finite negative units =>
    let places := units.log2 - 52
    (if negative then Word.signedLimit else 0) + (places <<< 52) + (units >>> places)

/-- The nearest whole number, a half away from zero, brought into the range of 64-bit words:
negative numbers and NaN give zero, too large ones the largest word. -/
def toWord : Binary64 → Nat
  | .nan => 0
  | .infinite negative => if negative then 0 else Word.largest
  | .finite negative units =>
    if negative then 0 else min ((2 * units + one) / (2 * one)) (Word.largest)

end Binary64

end FramePipeline
