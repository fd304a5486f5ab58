import FramePipeline.Binary64.Basic
import FramePipeline.Entries
import FramePipeline.Memory
import FramePipeline.Text.Lowercase

/-!
# Given values

What files and the environment give is kept as a tree of untyped values until it is converted. A
value remembers where it was given, so that an error can say so; a table or list that was only made
to hold other values has no origin. Keys are in lower case wherever tables are merged; a table that
stands in a list is kept as it was given.

Main definitions: `Value`, `Value.put` (set one key, merging tables), `Value.child`, `Value.item`.
-/

namespace FramePipeline

/-- Where a value was given. -/
inductive Origin where
  | environment
  | file (name : String)
  deriving DecidableEq, Repr

/-- How an origin is named in messages. -/
def Origin.text : Origin → String
  | environment => "the environment"
  | file name => name

/-- A single value. -/
inductive Scalar where
  | nil
  | bool (b : Bool)
  | int (i : Int)
  | real (x : Binary64)
  | text (s : String)
  deriving DecidableEq, Repr

/-- A value as it was given. -/
inductive Value where
  | scalar (origin : Option Origin) (s : Scalar)
  | array (origin : Option Origin) (items : List Value)
  | table (origin : Option Origin) (entries : List (String × Value))

namespace Value

/-- The value of what was not given. -/
def nil : Value :=
  scalar none .nil

/-- The entries of a table; nothing else has any. -/
def entries : Value → Entries Value
  | table _ es => es
  | _ => []

/-- The items of a list; nothing else has any. -/
def items : Value → List Value
  | array _ vs => vs
  | _ => []

/-- Where the value was given. -/
def origin : Value → Option Origin
  | scalar o _ => o
  | array o _ => o
  | table o _ => o

/-! ## Setting keys -/

/-- Sets a key to a value. What was not a table becomes one. -/
def setKey (root : Value) (key : String) (v : Value) : Value :=
  match root with
  | table o es => table o (Entries.put key v es)
  | _ => table none [(key, v)]

mutual

/-- Sets a key: a table is merged, key by key, into what the key holds; anything else replaces it. -/
def put (root : Value) (key : String) : Value → Value
  | table _ incoming =>
    root.setKey key (merge ((root.entries.lookup key).getD (table none [])) incoming)
  | scalar o s => root.setKey key (scalar o s)
  | array o vs => root.setKey key (array o vs)

/-- Sets keys, in lower case, one after the other. -/
def merge (target : Value) : List (String × Value) → Value
  | [] => target
  | (key, v) :: rest => merge (put target (Text.lowercase key) v) rest

end

/-! ## Changing parts -/

/-- Changes what a key holds, which is nothing at first. What was not a table becomes one. -/
def child (root : Value) (key : String) (f : Value → Except Overload Value) :
    Except Overload Value := do
  let inner ← f ((root.entries.lookup key).getD nil)
  .ok (root.setKey key inner)

/-- The place of an index in a list of some length: a negative index counts from the end. A list in
which the place exists, of 96 bytes an item, must fit into memory. -/
def placeOf (length : Nat) (index : Int) : Except Overload Nat :=
  let place := if 0 ≤ index then index else length + index
  if place < 0 then .error (.beforeFirst index)
  else
    match Memory.reserve (place.toNat + 1) 96 with
    | .error o => .error o
    | .ok () => .ok place.toNat

/-- Changes an item of a list. What was not a list becomes one, and the list grows as far as the index
asks. -/
def item (root : Value) (index : Int) (f : Value → Except Overload Value) :
    Except Overload Value := do
  let vs := root.items
  let place ← placeOf vs.length index
  let vs := vs ++ List.replicate (place + 1 - vs.length) nil
  let inner ← f (vs.getD place nil)
  let vs := vs.set place inner
  match root with
  | array o _ => .ok (array o vs)
  | _ => .ok (array none vs)

end Value

end FramePipeline
