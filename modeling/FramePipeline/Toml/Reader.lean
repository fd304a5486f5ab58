import FramePipeline.Toml.Draft
import FramePipeline.Toml.Moment
import FramePipeline.Toml.Number

/-!
# Reading TOML documents

A reader for TOML 1.0. A document is a sequence of lines; each holds a header, a key with its value,
or nothing, and possibly a comment. The lines are scanned first and then entered one by one into a
table under construction, which refuses the ones that would define something twice. Arrays and inline
tables may be nested 79 deep, and a dotted key has at most 79 parts.

Main definitions: `Toml.value` (the scanner of one value), `Toml.Line`, `Toml.parse?` (a whole
document).
-/

namespace FramePipeline.Toml

open FramePipeline.Text

/-! ## Keys -/

/-- A character of a key without quotes. -/
def isBareKeyChar (c : Char) : Bool :=
  c.isAlphanum || c = '-' || c = '_'

/-- One part of a key, in its quotes or without. -/
def simpleKey : Scanner String := do
  if ← Scanner.word? ['"'] then basicString
  else if ← Scanner.word? [singleQuote] then literalString
  else Scanner.give (String.ofList (← Scanner.takeWhile1 isBareKeyChar))

/-- How deep values may be nested and how many parts a key may have. -/
def depthLimit : Nat := 79

/-- A key of one or more parts with points between them: the parts before the last, and the last. -/
def key : Scanner (List String × String) := do
  blanks
  let first ← simpleKey
  blanks
  let more ← Scanner.many (· = '.') fun _ => do
    blanks
    let part ← simpleKey
    blanks
    Scanner.give part
  let parts := first :: more
  if depthLimit < parts.length then Scanner.fail
  else Scanner.give (parts.dropLast, parts.getLast?.getD first)

/-! ## Values -/

/-- The items of an array behind its opening bracket; a comma may follow the last. -/
def arrayItems (value : Scanner Toml) : Scanner (List Toml) := do
  blankLines
  if ← Scanner.word? [']'] then Scanner.give []
  else
    let first ← value
    blankLines
    let more ← Scanner.many (· = ',') fun _ => do
      blankLines
      if (← Scanner.peek) = some ']' then Scanner.give none
      else
        let v ← value
        blankLines
        Scanner.give (some v)
    Scanner.char ']'
    Scanner.give (first :: more.filterMap id)

/-- A key with its value. -/
def keyValue (value : Scanner Toml) : Scanner ((List String × String) × Toml) := do
  let k ← key
  Scanner.char '='
  blanks
  let v ← value
  blanks
  Scanner.give (k, v)

/-- The table of an inline table behind its opening brace. -/
def inlineTable (value : Scanner Toml) : Scanner Toml := do
  blanks
  if ← Scanner.word? [Char.ofNat 0x7D] then Scanner.give (.table [])
  else
    let first ← keyValue value
    let more ← Scanner.many (· = ',') fun _ => keyValue value
    Scanner.char (Char.ofNat 0x7D)
    let entries ← Scanner.ofOption <|
      (first :: more).foldlM (fun es (k, v) => Draft.insert? k.1 k.2 v es) []
    Scanner.give (.table (Draft.entriesToToml entries))

/-- A value; `inner` reads the values inside it, where it may still have some. -/
def valueOver (inner : Option (Scanner Toml)) : Scanner Toml := do
  match ← Scanner.peek with
  | none => Scanner.fail
  | some c =>
    if c = '"' || c = singleQuote then Scanner.give (.text (← stringValue))
    else if c = '[' then
      Scanner.skip 1
      Scanner.give (.array (← arrayItems (← Scanner.ofOption inner)))
    else if c = Char.ofNat 0x7B then
      Scanner.skip 1
      inlineTable (← Scanner.ofOption inner)
    else if ← Scanner.word? ['t', 'r', 'u', 'e'] then Scanner.give (.bool true)
    else if ← Scanner.word? ['f', 'a', 'l', 's', 'e'] then Scanner.give (.bool false)
    else number

/-- A value that nests at most `depth` arrays and inline tables. -/
def value : (depth : Nat) → Scanner Toml
  | 0 => valueOver none
  | inner + 1 => valueOver (some (value inner))

/-! ## Lines -/

/-- What a line defines. -/
inductive Line where
  | empty
  | entry (path : List String) (key : String) (v : Toml)
  | header (path : List String) (key : String)
  | element (path : List String) (key : String)

/-- A header behind its first bracket. -/
def header : Scanner Line := do
  if ← Scanner.word? ['['] then
    let (path, k) ← key
    Scanner.word [']', ']']
    Scanner.give (.element path k)
  else
    let (path, k) ← key
    Scanner.char ']'
    Scanner.give (.header path k)

/-- A line without its newline. -/
def line : Scanner Line := do
  blanks
  let l ← match ← Scanner.peek with
    | none => Scanner.give .empty
    | some c =>
      if c = '#' || startsNewline c then Scanner.give .empty
      else if c = '[' then
        Scanner.skip 1
        header
      else do
        let (k, v) ← keyValue (value depthLimit)
        Scanner.give (.entry k.1 k.2 v)
  blanks
  comment?
  Scanner.give l

/-- The lines of a document, which may begin with a byte order mark. -/
def lines : Scanner (List Line) := do
  let _ ← Scanner.word? [Char.ofNat 0xFEFF]
  let first ← line
  let more ← Scanner.many startsNewline fun c => do
    newlineFrom c
    line
  Scanner.give (first :: more)

/-! ## Documents -/

/-- A document under construction, and the header under which entries are added. -/
structure Building where
  root : Entries Draft
  under : List String

/-- Enters a line. -/
def Building.enter (b : Building) : Line → Option Building
  | .empty => some b
  | .entry path k v => do
    let root ← Draft.descend .implied (fun _ es => Draft.insert? path k v es) b.under .opened b.root
    some { b with root }
  | .header path k => do
    some ⟨← Draft.openTable? path k b.root, path ++ [k]⟩
  | .element path k => do
    some ⟨← Draft.appendTable? path k b.root, path ++ [k]⟩

/-- The entries of the root table of a document. The root may not stand for a date-time. -/
def parse? (s : String) : Option (List (String × Toml)) := do
  let ls ← lines.parse? s.toList
  let b ← ls.foldlM Building.enter ⟨[], []⟩
  match ← withMoments? (.table (Draft.entriesToToml b.root)) with
  | .table entries => some entries
  | _ => none

end FramePipeline.Toml
