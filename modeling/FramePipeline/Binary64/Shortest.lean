import FramePipeline.Binary64.Decimal

/-!
# Shortest decimals

The decimal text of a number is built on the fewest digits that still read back as the number, and
of the decimals with so few digits on the one nearest to it. Grids of 1, 2, … 17 digits are tried in
turn: if a grid has a point in the interval of reals that round to the number, one of the number's
two neighbours on the grid is such a point, so only these are tested, in exact integer arithmetic.

How the digits are written (with or without an exponent, with or without `.0`) is a `Numeral.CartoonModes`.

Main definitions: `Shortest.ofUnits`, `Numeral.CartoonModes`, `Numeral.text`.
-/

namespace FramePipeline

namespace Shortest

/-- The reals that round to a number, in quarters of a unit; `closed` tells whether the ends do. -/
structure Interval where
  low : Nat
  high : Nat
  closed : Bool

/-- Half the way to either neighbour. The neighbour below a power of two is half as far away, except
where the spacing is a single unit. The ends round to the number when its significand is even. -/
def interval (units : Nat) : Interval where
  low := 4 * units - (if units = Binary64.spacing units <<< 52 ∧ Binary64.spacing units ≠ 1
    then Binary64.spacing units else 2 * Binary64.spacing units)
  high := 4 * units + 2 * Binary64.spacing units
  closed := units / Binary64.spacing units % 2 = 0

/-- All quantities are scaled by this power of ten, which makes every grid whole. -/
def scale : Nat := 400

/-- The decimal `c · grid · 10^-scale` lies in the interval. -/
def Interval.contains (i : Interval) (c grid : Nat) : Bool :=
  let x := 4 * (c * grid * Binary64.one)
  if i.closed then i.low * Nat.pow 10 scale ≤ x && x ≤ i.high * Nat.pow 10 scale
  else i.low * Nat.pow 10 scale < x && x < i.high * Nat.pow 10 scale

/-- The place of the leading digit of the scaled magnitude. -/
def leadingPlace (units : Nat) : Nat :=
  Decimal.length (units * Nat.pow 10 scale / Binary64.one) - 1

/-- The decimal of `count` digits that stands for `units`, if there is one: of the neighbours on the
grid the nearer one that lies in the interval, in a tie the upper one if `tiesUp` and the even one
otherwise. -/
def onGrid (tiesUp : Bool) (units count : Nat) : Option (Nat × Nat) :=
  let place := leadingPlace units - (count - 1)
  let grid := Nat.pow 10 place
  let num := units * Nat.pow 10 scale
  let den := Binary64.one * grid
  let below := num / den
  let r := num % den
  let i := interval units
  let lowIn := i.contains below grid
  let highIn := i.contains (below + 1) grid
  let upper := den < 2 * r || (2 * r = den && (tiesUp || below % 2 = 1))
  if lowIn && (!highIn || !upper) then some (below, place)
  else if highIn then some (below + 1, place)
  else none

/-- Moves trailing zeros of the digits into the place of the last digit. -/
def trim (digits place : Nat) : Nat × Nat :=
  if h : digits ≠ 0 ∧ digits % 10 = 0 then trim (digits / 10) (place + 1) else (digits, place)
termination_by digits
decreasing_by omega

/-- The shortest decimal of a positive magnitude: its digits and the power of ten of the last. -/
def ofUnits (tiesUp : Bool) (units : Nat) : Nat × Int :=
  match (List.range 17).findSome? (fun k => onGrid tiesUp units (k + 1)) with
  | some (digits, place) =>
    let (digits, place) := trim digits place
    (digits, (place : Int) - scale)
  | none => (0, 0)

end Shortest

/-! ## Text -/

namespace Numeral

/-- How a number is written. -/
structure CartoonModes where
  /-- Of two shortest decimals equally near, the upper one is taken (otherwise the even one). -/
  tiesUp : Bool
  /-- The places of the point, counted from before the first digit, that need no exponent. -/
  positional : Int → Bool
  /-- Whole numbers without an exponent end in `.0`. -/
  pointZero : Bool

/-- Never an exponent, and whole numbers look whole. -/
def CartoonModes.plain : CartoonModes := ⟨true, fun _ => true, false⟩

/-- Never an exponent, and every number shows a point. -/
def CartoonModes.pointed : CartoonModes := ⟨true, fun _ => true, true⟩

/-- An exponent for numbers of more than sixteen places or more than four leading zeros behind the
point. -/
def CartoonModes.compact : CartoonModes := ⟨false, fun place => -5 < place && place ≤ 16, true⟩

/-- `digits · 10^exponent` without an exponent. -/
def positionalText (modes : CartoonModes) (digits : List Char) (exponent : Int) : List Char :=
  if 0 ≤ exponent then
    digits ++ List.replicate exponent.toNat '0' ++ (if modes.pointZero then ['.', '0'] else [])
  else
    let places := (-exponent).toNat
    if places < digits.length then
      digits.take (digits.length - places) ++ '.' :: digits.drop (digits.length - places)
    else '0' :: '.' :: List.replicate (places - digits.length) '0' ++ digits

/-- The digits with one of them before the point, and an exponent that always has a sign; `place` is
the place of the point without it. -/
def scientificText (digits : List Char) (place : Int) : List Char :=
  (match digits with
    | d :: e :: more => d :: '.' :: e :: more
    | ds => ds) ++
    'e' :: (if 0 < place then '+' else '-') :: Nat.toDigits 10 (place - 1).natAbs

/-- The text of a number. -/
def text (modes : CartoonModes) (x : Binary64) : String :=
  match x with
  | .nan => "NaN"
  | .infinite negative => if negative then "-inf" else "inf"
  | .finite negative units =>
    let (n, exponent) := if units = 0 then (0, 0) else Shortest.ofUnits modes.tiesUp units
    let digits := Nat.toDigits 10 n
    let place := (digits.length : Int) + exponent
    let body := if modes.positional place then positionalText modes digits exponent
      else scientificText digits place
    String.ofList (if negative then '-' :: body else body)

end Numeral

end FramePipeline
