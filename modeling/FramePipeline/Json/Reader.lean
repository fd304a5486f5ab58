import FramePipeline.Entries
import FramePipeline.Json.Number
import FramePipeline.Text.Hex
import FramePipeline.Text.Scanner

/-!
# Reading JSON documents

A scanner for RFC 8259 documents. Blanks are space, tab, line feed and carriage return; strings hold
no control characters and escape the rest of Unicode with pairs of surrogates; arrays and objects
may be nested 127 deep; of members with the same name the last one counts.

Main definitions: `Json.value` (the scanner of one value), `Json.parse?` (a whole document).
-/

namespace FramePipeline.Json

open FramePipeline.Text

/-! ## Blanks and words -/

/-- Space, tab, line feed or carriage return. -/
def isBlank (c : Char) : Bool :=
  c = ' ' || c = '\t' || c = '\n' || c = '\r'

/-- Takes the blanks in front. -/
def blanks : Scanner Unit := do
  let _ ← Scanner.takeWhile isBlank

/-! ## Strings -/

/-- One hexadecimal digit. -/
def hexDigit : Scanner Nat := do
  Scanner.ofOption (Hex.value? (← Scanner.next))

/-- Four hexadecimal digits: a UTF-16 unit. -/
def unit16 : Scanner Nat := do
  let a ← hexDigit
  let b ← hexDigit
  let c ← hexDigit
  let d ← hexDigit
  Scanner.give (((a * 16 + b) * 16 + c) * 16 + d)

/-- What follows `\u`: a unit, or a leading surrogate and the escaped trailing one. -/
def unicodeEscape : Scanner Char := do
  let first ← unit16
  if 0xDC00 ≤ first && first ≤ 0xDFFF then Scanner.fail
  else if 0xD800 ≤ first && first ≤ 0xDBFF then
    Scanner.word ['\\', 'u']
    let second ← unit16
    if 0xDC00 ≤ second && second ≤ 0xDFFF then
      Scanner.give (Char.ofNat (0x10000 + (first - 0xD800) * 0x400 + (second - 0xDC00)))
    else Scanner.fail
  else Scanner.give (Char.ofNat first)

/-- What follows a backslash. -/
def escape : Scanner Char := do
  match ← Scanner.next with
  | '"' => Scanner.give '"'
  | '\\' => Scanner.give '\\'
  | '/' => Scanner.give '/'
  | 'b' => Scanner.give (Char.ofNat 8)
  | 'f' => Scanner.give (Char.ofNat 12)
  | 'n' => Scanner.give '\n'
  | 'r' => Scanner.give '\r'
  | 't' => Scanner.give '\t'
  | 'u' => unicodeEscape
  | _ => Scanner.fail

/-- A character that stands for itself in a string. -/
def isPlain (c : Char) : Bool :=
  c ≠ '"' && c ≠ '\\' && 0x20 ≤ c.toNat

/-- A piece of a string that begins with `c`: an escape or a run of plain characters. -/
def stringPiece (c : Char) : Scanner (List Char) := do
  if c = '\\' then Scanner.give [← escape]
  else if isPlain c then Scanner.give (c :: (← Scanner.takeWhile isPlain))
  else Scanner.fail

/-- The rest of a string behind its opening quote. -/
def stringRest : Scanner String := do
  let pieces ← Scanner.many (· ≠ '"') stringPiece
  Scanner.char '"'
  Scanner.give (String.ofList pieces.flatten)

/-! ## Numbers -/

/-- An exponent, if one comes next. -/
def exponent? : Scanner (Option (Bool × List Char)) := do
  match ← Scanner.peek with
  | some c =>
    if c = 'e' || c = 'E' then
      Scanner.skip 1
      let sign ← Scanner.peek
      if sign = some '+' || sign = some '-' then Scanner.skip 1
      let ds ← Scanner.takeWhile1 Decimal.isDigit
      Scanner.give (some (sign = some '-', ds))
    else Scanner.give none
  | none => Scanner.give none

/-- A fraction, if one comes next. -/
def fraction? : Scanner (Option (List Char)) := do
  if ← Scanner.word? ['.'] then
    Scanner.give (some (← Scanner.takeWhile1 Decimal.isDigit))
  else Scanner.give none

/-- A number whose first character is `c`. -/
def number (c : Char) : Scanner Json := do
  let negative := c = '-'
  let first ← if negative then Scanner.next else Scanner.give c
  let more ← Scanner.takeWhile Decimal.isDigit
  if !Decimal.isDigit first then Scanner.fail
  else if first = '0' && !more.isEmpty then Scanner.fail
  else
    let fraction ← fraction?
    let exponent ← exponent?
    Scanner.ofOption (Numeral.value? ⟨negative, first :: more, fraction, exponent⟩)

/-! ## Values -/

/-- Items separated by commas up to the character `close`, behind the opening bracket. -/
def commaSeparated {α : Type} (close : Char) (item : Scanner α) : Scanner (List α) := do
  blanks
  if ← Scanner.word? [close] then Scanner.give []
  else
    let first ← item
    blanks
    let more ← Scanner.many (· = ',') fun _ => do
      blanks
      let a ← item
      blanks
      Scanner.give a
    Scanner.char close
    Scanner.give (first :: more)

/-- A member of an object, its value read by `value`. -/
def member (value : Scanner Json) : Scanner (String × Json) := do
  Scanner.char '"'
  let name ← stringRest
  blanks
  Scanner.char ':'
  blanks
  let v ← value
  Scanner.give (name, v)

/-- A value; `inner` reads the values inside it, where it may still have some. -/
def valueOver (inner : Option (Scanner Json)) : Scanner Json := do
  let c ← Scanner.next
  if c = 'n' then
    Scanner.word ['u', 'l', 'l']
    Scanner.give .null
  else if c = 't' then
    Scanner.word ['r', 'u', 'e']
    Scanner.give (.bool true)
  else if c = 'f' then
    Scanner.word ['a', 'l', 's', 'e']
    Scanner.give (.bool false)
  else if c = '"' then
    Scanner.give (.text (← stringRest))
  else if c = '-' || Decimal.isDigit c then number c
  else if c = '[' then
    Scanner.give (.array (← commaSeparated ']' (← Scanner.ofOption inner)))
  else if c = Char.ofNat 0x7B then
    let members ← commaSeparated (Char.ofNat 0x7D) (member (← Scanner.ofOption inner))
    Scanner.give (.object (members.foldl (fun acc m => Entries.put m.1 m.2 acc) []))
  else Scanner.fail

/-- A value that nests at most `depth` arrays and objects. -/
def value : (depth : Nat) → Scanner Json
  | 0 => valueOver none
  | inner + 1 => valueOver (some (value inner))

/-- How deep arrays and objects may be nested. -/
def depthLimit : Nat := 127

/-- A whole document. -/
def document : Scanner Json := do
  blanks
  let v ← value depthLimit
  blanks
  Scanner.give v

/-- The value of a JSON document. -/
def parse? (s : String) : Option Json :=
  document.parse? s.toList

end FramePipeline.Json
