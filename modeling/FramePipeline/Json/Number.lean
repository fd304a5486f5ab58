import FramePipeline.Binary64.Decimal
import FramePipeline.Json.Basic

/-!
# Numbers in JSON documents

How a numeral of a JSON document becomes a number. An integer that fits 64 bits stays an integer, except a
negative zero. Any other numeral is scaled: its digits are collected in a 64-bit word (the whole part first,
then, afresh, the fraction), the digits that no longer fit only count as places, and the word, as a `Binary64`
number, is multiplied or divided by a power of ten. Each of these steps rounds, so the result may differ in
the last place from the number nearest to the numeral (`Decimal.toBinary64`).

Main definitions: `Json.Numeral`, `Json.Numeral.value?`.
-/

namespace FramePipeline.Json

/-- A numeral of a document, cut into its parts; `fraction` and `exponent` are missing where the
numeral has none. -/
structure Numeral where
  negative : Bool
  whole : List Char
  fraction : Option (List Char)
  exponent : Option (Bool × List Char)

/-- The digits collected in a word so far, and how many digits had to be left out. -/
structure Collected where
  word : Nat
  left : Nat

/-- Takes one more digit into the word if it fits and no digit was left out before. -/
def Collected.add (c : Collected) (d : Char) : Collected :=
  let word := 10 * c.word + (d.toNat - 48)
  if c.left = 0 && word < Word.limit then ⟨word, 0⟩ else ⟨c.word, c.left + 1⟩

/-- Collects a run of digits. -/
def Collected.addAll (c : Collected) (ds : List Char) : Collected :=
  ds.foldl Collected.add c

/-- The word scaled by a power of ten of at most 308 places at a time; nothing if it exceeds every
finite number. -/
def scaled (x : Binary64) (exponent : Int) : Option Binary64 :=
  if x.isZero then some x
  else if 308 < exponent then none
  else if 0 ≤ exponent then
    match x.mul (Binary64.ofNat (Nat.pow 10 exponent.toNat)) with
    | .infinite _ => none
    | y => some y
  else
    let places := (-exponent).toNat
    if places ≤ 308 then some (x.div (Binary64.ofNat (Nat.pow 10 places)))
    else
      let y := x.div (Binary64.ofNat (Nat.pow 10 308))
      let rest := places - 308
      if rest ≤ 308 then some (y.div (Binary64.ofNat (Nat.pow 10 rest)))
      else some (.finite x.isNegative 0)

/-- The largest exponent that is read as a number. -/
def exponentLimit : Nat := 0x7FFFFFFF

/-- The number that a numeral stands for; a numeral beyond every finite number stands for none. -/
def Numeral.value? (n : Numeral) : Option Json :=
  let whole := (Collected.mk 0 0).addAll n.whole
  match n.fraction, n.exponent with
  | none, none =>
    if whole.left = 0 then
      if !n.negative then some (.int whole.word)
      else if whole.word = 0 || Word.signedLimit < whole.word then
        some (.real (Binary64.ofNat whole.word).neg)
      else some (.int (-(whole.word : Int)))
    else sign (scaled (Binary64.ofNat whole.word) whole.left)
  | fraction, exponent =>
    let digits := fraction.getD []
    let all := (Collected.mk whole.word 0).addAll digits
    -- digits of the fraction that entered the word count one place each
    let places : Int := (whole.left : Int) + all.left - digits.length
    match exponent with
    | none => sign (scaled (Binary64.ofNat all.word) places)
    | some (minus, ds) =>
      let e := Decimal.digitsValue ds
      if exponentLimit < e then
        if all.word ≠ 0 && !minus then none else sign (some (.finite false 0))
      else
        sign (scaled (Binary64.ofNat all.word) (if minus then places - e else places + e))
where
  /-- Gives the number the sign of the numeral. -/
  sign (x : Option Binary64) : Option Json :=
    x.map fun y => .real (if n.negative then y.neg else y)

end FramePipeline.Json
