import FramePipeline.Binary64.Basic
import FramePipeline.Toml.DateTime

/-!
# TOML values

A TOML document as a tree. Integers have 64 bits; a table lists its entries by key, each key once.

Main definition: `Toml`.
-/

namespace FramePipeline

/-- A TOML value. -/
inductive Toml where
  | bool (b : Bool)
  | int (i : Int)
  | real (x : Binary64)
  | text (s : String)
  | moment (d : DateTime)
  | array (items : List Toml)
  | table (entries : List (String × Toml))

end FramePipeline
