import FramePipeline.Toml.Basic
import FramePipeline.Toml.Text

/-!
# Numbers of TOML

Integers in four bases and floats. Underscores may stand between two digits; a decimal numeral has no
leading zeros; integers have 64 bits with a sign. A float is the number nearest to its numeral; a
numeral beyond every finite number is refused, unless it is negative.

Main definition: `Toml.number`.
-/

namespace FramePipeline.Toml

open FramePipeline.Text

/-! ## Digits -/

/-- The digits that go on a run of digits: each may have an underscore before it. -/
def moreDigits (isDigit : Char → Bool) : Scanner (List Char) :=
  Scanner.many (fun c => isDigit c || c = '_') fun c => do
    if c = '_' then
      let d ← Scanner.next
      if isDigit d then Scanner.give d else Scanner.fail
    else Scanner.give c

/-- A run of digits with underscores between them. -/
def digitRun (isDigit : Char → Bool) : Scanner (List Char) := do
  let d ← Scanner.next
  if isDigit d then Scanner.give (d :: (← moreDigits isDigit)) else Scanner.fail

/-- A sign, if one comes next: whether it is a minus. -/
def sign : Scanner Bool := do
  match ← Scanner.peek with
  | some c =>
    if c = '+' || c = '-' then Scanner.skip 1
    Scanner.give (c = '-')
  | none => Scanner.give false

/-- The digits of a decimal integer: zero, or a run that begins with another digit. -/
def decimalDigits : Scanner (List Char) := do
  let d ← Scanner.next
  if d = '0' then Scanner.give [d]
  else if Decimal.isDigit d then Scanner.give (d :: (← moreDigits Decimal.isDigit))
  else Scanner.fail

/-! ## Integers -/

/-- A number in the range of 64-bit integers. -/
def integer (i : Int) : Scanner Toml :=
  if Word.isSigned i then Scanner.give (.int i) else Scanner.fail

/-- A digit of a base up to sixteen. -/
def isDigitOf (base : Nat) (c : Char) : Bool :=
  (Hex.value? c).any (· < base)

/-- The number that digits stand for in a base. -/
def valueIn (base : Nat) (ds : List Char) : Nat :=
  ds.foldl (fun n c => base * n + (Hex.value? c).getD 0) 0

/-- The integer of a base whose digits come next. -/
def integerIn (base : Nat) : Scanner Toml := do
  integer (valueIn base (← digitRun (isDigitOf base)))

/-! ## Floats -/

/-- The words for infinity and not-a-number, with an optional sign. -/
def specialFloat : Scanner Toml := do
  let negative ← sign
  if ← Scanner.word? ['i', 'n', 'f'] then Scanner.give (.real (.infinite negative))
  else
    Scanner.word ['n', 'a', 'n']
    Scanner.give (.real .nan)

/-- A fraction, if one comes next. -/
def fraction : Scanner (List Char) := do
  if ← Scanner.word? ['.'] then digitRun Decimal.isDigit else Scanner.give []

/-- An exponent, if one comes next. -/
def exponent : Scanner Int := do
  match ← Scanner.peek with
  | some c =>
    if c = 'e' || c = 'E' then
      Scanner.skip 1
      let negative ← sign
      let e : Int := Decimal.digitsValue (← digitRun Decimal.isDigit)
      Scanner.give (if negative then -e else e)
    else Scanner.give 0
  | none => Scanner.give 0

/-- A decimal numeral: a float if it has a fraction or an exponent, an integer otherwise. -/
def decimal : Scanner Toml := do
  let negative ← sign
  let whole ← decimalDigits
  let c ← Scanner.peek
  if c = some '.' || c = some 'e' || c = some 'E' then
    let places ← fraction
    let e ← exponent
    let d : Decimal := ⟨negative, Decimal.digitsValue (whole ++ places), e - places.length⟩
    match d.toBinary64 with
    | .infinite false => Scanner.fail
    | x => Scanner.give (.real x)
  else
    let n : Int := Decimal.digitsValue whole
    integer (if negative then -n else n)

/-- A number or a date-time, which begins like one. -/
def number : Scanner Toml := do
  match ← Scanner.optional DateTime.scan with
  | some d => Scanner.give (.moment d)
  | none =>
    if ← Scanner.word? ['0', 'x'] then integerIn 16
    else if ← Scanner.word? ['0', 'o'] then integerIn 8
    else if ← Scanner.word? ['0', 'b'] then integerIn 2
    else Scanner.orElse specialFloat decimal

end FramePipeline.Toml
