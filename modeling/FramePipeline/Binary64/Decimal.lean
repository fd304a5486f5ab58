import FramePipeline.Binary64.Basic

/-!
# Decimal numerals

A decimal numeral is a whole number of powers of ten. `Decimal.toBinary64` gives the nearest number
of the format, exactly rounded however long the numeral is, and `readNumeral?` reads the texts that
stand for a number where no other syntax is around: digits with an optional point and exponent, or
the words `inf`, `infinity` and `nan` in any case, after an optional sign.

Main definitions: `Decimal`, `Decimal.toBinary64`, `readNumeral?`.
-/

namespace FramePipeline

/-- The number `± digits · 10^exponent`. -/
structure Decimal where
  negative : Bool
  digits : Nat
  exponent : Int
  deriving DecidableEq, Repr

namespace Decimal

/-- How many decimal digits a number has; zero has one. -/
def length (n : Nat) : Nat :=
  (Nat.toDigits 10 n).length

/-- The nearest number of the format. Where the leading digit alone shows overflow or a result of
zero, the power of ten is not computed. -/
def toBinary64 (d : Decimal) : Binary64 :=
  if d.digits = 0 then .finite d.negative 0
  else
    let leading : Int := length d.digits + d.exponent
    if 400 < leading then .infinite d.negative
    else if leading < -400 then .finite d.negative 0
    else if 0 ≤ d.exponent then
      Binary64.ofRatio d.negative (d.digits * Nat.pow 10 d.exponent.toNat) 1
    else Binary64.ofRatio d.negative d.digits (Nat.pow 10 (-d.exponent).toNat)

/-! ## Reading -/

/-- An ASCII decimal digit. -/
def isDigit (c : Char) : Bool :=
  '0' ≤ c && c ≤ '9'

/-- The number that a run of decimal digits stands for. -/
def digitsValue (cs : List Char) : Nat :=
  cs.foldl (fun n c => 10 * n + (c.toNat - 48)) 0

/-- A sign, if the text begins with one: whether it is a minus, and the text behind it. -/
def splitSign : List Char → Bool × List Char
  | '+' :: r => (false, r)
  | '-' :: r => (true, r)
  | r => (false, r)

/-- An exponent to the end of the text: nothing, or `e` and a signed run of digits. -/
def readExponent? : List Char → Option Int
  | [] => some 0
  | c :: r =>
    if c = 'e' || c = 'E' then
      let (minus, ds) := splitSign r
      if ds.isEmpty || !ds.all isDigit then none
      else some (if minus then -(digitsValue ds : Int) else digitsValue ds)
    else none

/-- Digits with an optional point among or around them and an optional exponent. -/
def read? (negative : Bool) (cs : List Char) : Option Decimal :=
  let whole := cs.takeWhile isDigit
  let rest := cs.dropWhile isDigit
  let fraction := match rest with
    | '.' :: r => r.takeWhile isDigit
    | _ => []
  let rest := match rest with
    | '.' :: r => r.dropWhile isDigit
    | r => r
  if whole.isEmpty && fraction.isEmpty then none
  else do
    let e ← readExponent? rest
    some ⟨negative, digitsValue (whole ++ fraction), e - fraction.length⟩

end Decimal

/-- The number that a whole text stands for. -/
def readNumeral? (s : String) : Option Binary64 :=
  let (negative, body) := Decimal.splitSign s.toList
  let word := String.ofList (body.map Char.toLower)
  if word = "inf" || word = "infinity" then some (.infinite negative)
  else if word = "nan" then some .nan
  else (Decimal.read? negative body).map Decimal.toBinary64

/-- The whole number that a text of digits with an optional sign stands for. -/
def readInteger? (s : String) : Option Int :=
  let (negative, body) := Decimal.splitSign s.toList
  if body.isEmpty || !body.all Decimal.isDigit then none
  else some (if negative then -(Decimal.digitsValue body : Int) else Decimal.digitsValue body)

end FramePipeline
