import FramePipeline.Binary64.Decimal
import FramePipeline.Config.Value
import FramePipeline.Text.Scanner

/-!
# Paths of keys

The keys of the outermost table of a file, and the names in the environment, are paths: a key such as
`capture.width` or `cartoon[2]` sets one part of what is given so far. They are read in lower case. A
text that does not follow the grammar of paths is one plain key.

Main definitions: `KeyPath`, `KeyPath.ofKey`, `Value.assign`.
-/

namespace FramePipeline

open FramePipeline.Text

/-- One step into a value. -/
inductive Step where
  | child (key : String)
  | item (index : Int)
  deriving DecidableEq, Repr

/-- A key of the outermost table and steps into what it holds. -/
structure KeyPath where
  head : String
  steps : List Step
  deriving DecidableEq, Repr

namespace KeyPath

/-! ## Reading -/

/-- A character of a key in a path. -/
def isKeyChar (c : Char) : Bool :=
  c.isAlphanum || c = ' ' || c = '_' || c = '-'

/-- A key. -/
def key : Scanner String := do
  Scanner.give (String.ofList (← Scanner.takeWhile1 isKeyChar))

/-- Space or tab. -/
def isBlank (c : Char) : Bool :=
  c = ' ' || c = '\t'

/-- An index between its brackets; it has 64 bits with a sign. -/
def index : Scanner Int := do
  let _ ← Scanner.takeWhile isBlank
  let negative ← Scanner.word? ['-']
  let n : Int := Decimal.digitsValue (← Scanner.takeWhile1 Decimal.isDigit)
  let _ ← Scanner.takeWhile isBlank
  let i := if negative then -n else n
  if Word.isSigned i then Scanner.give i else Scanner.fail

/-- A path. -/
def scan : Scanner KeyPath := do
  let head ← key
  let steps ← Scanner.manyUntil (fun _ => false) fun c => do
    if c = '.' then Scanner.give (.child (← key))
    else if c = '[' then
      let i ← index
      Scanner.char ']'
      Scanner.give (.item i)
    else Scanner.fail
  Scanner.give ⟨head, steps⟩

/-- The path that a key stands for, in lower case. -/
def ofKey (s : String) : KeyPath :=
  let s := lowercase s
  (scan.parse? s.toList).getD ⟨s, []⟩

end KeyPath

/-! ## Setting -/

namespace Value

/-- Sets the part of a value that the steps lead to; tables and lists are made on the way. -/
def assignAt (v : Value) (root : Value) : Step → List Step → Except Overload Value
  | .child key, [] => .ok (root.put key v)
  | .item i, [] => root.item i fun _ => .ok v
  | .child key, s :: steps => root.child key fun inner => assignAt v inner s steps
  | .item i, s :: steps => root.item i fun inner => assignAt v inner s steps

/-- Sets the part that a path leads to. -/
def assign (root : Value) (path : KeyPath) (v : Value) : Except Overload Value :=
  assignAt v root (.child path.head) path.steps

/-- Sets the keys of a layer one after the other. -/
def overlay (root : Value) (layer : Entries Value) : Except Overload Value :=
  layer.foldlM (fun acc (key, v) => acc.assign (KeyPath.ofKey key) v) root

end Value

end FramePipeline
