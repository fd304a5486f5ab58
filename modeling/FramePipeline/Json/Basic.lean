import FramePipeline.Binary64.Basic

/-!
# JSON values

A JSON document as a tree. Numbers written as integers of at most 64 bits, signed or unsigned, are
integers; all others are `Binary64` numbers. An object lists its members by name, each name once.

Main definitions: `Json`, `Json.get?`.
-/

namespace FramePipeline

/-- A JSON value. -/
inductive Json where
  | null
  | bool (b : Bool)
  | int (i : Int)
  | real (x : Binary64)
  | text (s : String)
  | array (items : List Json)
  | object (members : List (String × Json))

namespace Json

/-- The value of a member of an object. -/
def get? (name : String) : Json → Option Json
  | .object members => members.lookup name
  | _ => none

end Json

end FramePipeline
