import FramePipeline.Binary64.Decimal
import FramePipeline.Text.Scanner

/-!
# Dates and times

The date-times of TOML: a date, a time of day, or both, with an offset from universal time where
both are given. `DateTime.text` is the canonical spelling, with a capital `T` and `Z`, an offset of
zero minutes always with a plus, and no trailing zeros in the fraction of a second.

Main definitions: `DateTime`, `DateTime.text`, `DateTime.scan`, `DateTime.ofText?`.
-/

namespace FramePipeline

/-- A day of the calendar. -/
structure Date where
  year : Nat
  month : Nat
  day : Nat
  deriving DecidableEq, Repr

/-- A time of day, with second 60 for a leap second. -/
structure TimeOfDay where
  hour : Nat
  minute : Nat
  second : Nat
  nanosecond : Nat
  deriving DecidableEq, Repr

/-- The distance from universal time. -/
inductive Offset where
  | universal
  | minutes (east : Int)
  deriving DecidableEq, Repr

/-- A date, a time, or both. -/
structure DateTime where
  date : Option Date
  time : Option TimeOfDay
  offset : Option Offset
  deriving DecidableEq, Repr

open FramePipeline.Text

/-! ## Text -/

/-- The decimal digits of a number, at least `width` of them. -/
def zeroPadded (width n : Nat) : List Char :=
  let ds := Nat.toDigits 10 n
  List.replicate (width - ds.length) '0' ++ ds

namespace DateTime

/-- A date as `year-month-day`. -/
def dateText (d : Date) : List Char :=
  zeroPadded 4 d.year ++ '-' :: zeroPadded 2 d.month ++ '-' :: zeroPadded 2 d.day

/-- A time as `hour:minute:second`, with the fraction of the second that is not zero. -/
def timeText (t : TimeOfDay) : List Char :=
  zeroPadded 2 t.hour ++ ':' :: zeroPadded 2 t.minute ++ ':' :: zeroPadded 2 t.second ++
    (if t.nanosecond = 0 then []
      else '.' :: ((zeroPadded 9 t.nanosecond).reverse.dropWhile (· = '0')).reverse)

/-- An offset as `Z` or signed hours and minutes. -/
def offsetText : Offset → List Char
  | .universal => ['Z']
  | .minutes east =>
    (if east < 0 then '-' else '+') :: zeroPadded 2 (east.natAbs / 60) ++
      ':' :: zeroPadded 2 (east.natAbs % 60)

/-- The canonical spelling. -/
def text (d : DateTime) : String :=
  String.ofList <|
    (d.date.map dateText).getD [] ++
    (match d.time with
      | some t => (if d.date.isSome then ['T'] else []) ++ timeText t
      | none => []) ++
    (d.offset.map offsetText).getD []

/-! ## Reading -/

/-- Exactly `n` decimal digits. -/
def digits : (n : Nat) → Scanner (List Char)
  | 0 => Scanner.give []
  | n + 1 => do
    let c ← Scanner.next
    if Decimal.isDigit c then Scanner.give (c :: (← digits n)) else Scanner.fail

/-- A number of `n` digits between `low` and `high`. -/
def numberIn (n low high : Nat) : Scanner Nat := do
  let v := Decimal.digitsValue (← digits n)
  if low ≤ v && v ≤ high then Scanner.give v else Scanner.fail

/-- The length of a month; February depends on the year. -/
def monthLength (year month : Nat) : Nat :=
  if month = 2 then
    (if year % 4 = 0 && (year % 100 ≠ 0 || year % 400 = 0) then 29 else 28)
  else if month = 4 || month = 6 || month = 9 || month = 11 then 30
  else 31

/-- A day that exists. -/
def scanDate : Scanner Date := do
  let year ← numberIn 4 0 9999
  Scanner.char '-'
  let month ← numberIn 2 1 12
  Scanner.char '-'
  let day ← numberIn 2 1 (monthLength year month)
  Scanner.give ⟨year, month, day⟩

/-- A fraction of a second, cut after nine places. -/
def scanFraction : Scanner Nat := do
  if ← Scanner.word? ['.'] then
    let ds := (← Scanner.takeWhile1 Decimal.isDigit).take 9
    Scanner.give (Decimal.digitsValue ds * Nat.pow 10 (9 - ds.length))
  else Scanner.give 0

/-- A time of day. -/
def scanTime : Scanner TimeOfDay := do
  let hour ← numberIn 2 0 23
  Scanner.char ':'
  let minute ← numberIn 2 0 59
  Scanner.char ':'
  let second ← numberIn 2 0 60
  let nanosecond ← scanFraction
  Scanner.give ⟨hour, minute, second, nanosecond⟩

/-- An offset from universal time. -/
def scanOffset : Scanner Offset := do
  let c ← Scanner.next
  if c = 'Z' || c = 'z' then Scanner.give .universal
  else if c = '+' || c = '-' then
    let hour ← numberIn 2 0 23
    Scanner.char ':'
    let minute ← numberIn 2 0 59
    let east : Int := hour * 60 + minute
    Scanner.give (.minutes (if c = '-' then -east else east))
  else Scanner.fail

/-- The time that follows a date behind a `T` or a space, with its offset. -/
def scanTimeAfterDate : Scanner (TimeOfDay × Option Offset) := do
  let c ← Scanner.next
  if c = 'T' || c = 't' || c = ' ' then
    let time ← scanTime
    let offset ← Scanner.optional scanOffset
    Scanner.give (time, offset)
  else Scanner.fail

/-- A date with or without a time. -/
def scanFromDate : Scanner DateTime := do
  let date ← scanDate
  match ← Scanner.optional scanTimeAfterDate with
  | some (time, offset) => Scanner.give ⟨some date, some time, offset⟩
  | none => Scanner.give ⟨some date, none, none⟩

/-- A date-time in any of its forms. -/
def scan : Scanner DateTime :=
  Scanner.orElse scanFromDate do
    let time ← scanTime
    Scanner.give ⟨none, some time, none⟩

/-- The date-time that a text spells. -/
def ofText? (s : String) : Option DateTime :=
  scan.parse? s.toList

end DateTime

end FramePipeline
