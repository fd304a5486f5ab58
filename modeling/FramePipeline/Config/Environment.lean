import FramePipeline.Config.Path
import FramePipeline.Text.Lowercase

/-!
# Settings in the environment

A variable whose name begins with `CARTOON__`, in any case, sets the path that the rest of its name
spells with two underscores between keys. Its text is taken for a truth value, an integer or a number
if it reads as one, and for itself otherwise.

Main definitions: `Environment.ofAssignments` (what a sequence of assignments leaves),
`Environment.valueOf`, `Environment.layer`.
-/

namespace FramePipeline.Environment

/-! ## Variables -/

/-- The variables that a sequence of assignments leaves. Names are told apart by case here. -/
def ofAssignments (assignments : List (String × String)) : Entries String :=
  assignments.foldl (fun vars (name, value) => Entries.put name value vars) []

/-- What the names of all settings begin with, in lower case. -/
def namePrefix : List Char :=
  ['c', 'a', 'r', 't', 'o', 'o', 'n', '_', '_']

/-- Puts a point for every two underscores, from the left. -/
def pointed : List Char → List Char
  | '_' :: '_' :: rest => '.' :: pointed rest
  | c :: rest => c :: pointed rest
  | [] => []

/-- The key that a variable sets, if it sets one: the prefix is `CARTOON`, and the separator two
underscores. -/
def key? (name : String) : Option String :=
  let cs := (Text.lowercase name).toList
  if namePrefix.isPrefixOf cs then some (String.ofList (pointed (cs.drop namePrefix.length)))
  else none

/-! ## Values -/

/-- What a text in the environment stands for. -/
def valueOf (text : String) : Scalar :=
  let word := Text.lowercase text
  if word = "true" then .bool true
  else if word = "false" then .bool false
  else
    match readInteger? text with
    | some i => if Word.isSigned i then .int i else number
    | none => number
where
  /-- A number that is not a 64-bit integer, or the text itself. -/
  number : Scalar :=
    match readNumeral? text with
    | some x => .real x
    | none => .text text

/-- The layer of variables in `Config::load`: the keys that they set. Of names that differ only by case the
last one counts. -/
def layer (vars : Entries String) : Entries Value :=
  vars.foldl
    (fun es (name, text) =>
      match key? name with
      | some key => Entries.put key (.scalar (some .environment) (valueOf text)) es
      | none => es)
    []

end FramePipeline.Environment
