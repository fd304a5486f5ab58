import FramePipeline.Binary64.Shortest
import FramePipeline.Config.Value
import FramePipeline.Text.Quoted

/-!
# Faults of given values

Why a given value does not convert to the type of its setting, and the text that says so. A type
fault names the key, as far as it is known, and the place where the value was given.

Main definitions: `Fault`, `Fault.message`, `Fault.under` and `Fault.atIndex` (which add to the key).
-/

namespace FramePipeline

/-- What was found where something else was expected. -/
inductive Found where
  | bool (b : Bool)
  | signed (i : Int)
  | unsigned (n : Nat)
  | real (x : Binary64)
  | text (s : String)
  | unit
  | sequence
  | map
  deriving DecidableEq, Repr

/-- The wording of what was found. -/
def Found.message : Found → String
  | bool b => "boolean `" ++ (if b then "true" else "false") ++ "`"
  | signed i => "64-bit integer `" ++ toString i ++ "`"
  | unsigned n => "64-bit unsigned integer `" ++ toString n ++ "`"
  | real x => "floating point `" ++ Numeral.text .plain x ++ "`"
  | text s => "string " ++ Text.quoted s
  | unit => "unit value"
  | sequence => "sequence"
  | map => "map"

/-- Why a value does not convert. -/
inductive Fault where
  /-- The value has the wrong type or is out of range. -/
  | wrongType (found : Found) (expected : String) (key : Option String) (origin : Option Origin)
  /-- A choice has no such option. -/
  | unknownOption (choice given : String)
  /-- A choice is given neither as a name nor as a table of one key. -/
  | notAnOption (choice : String)
  /-- A section is given as a single value. -/
  | notASection (record : String) (found : Scalar)
  deriving DecidableEq, Repr

/-- The wording of a single value that stands for a section. -/
def Scalar.message : Scalar → String
  | nil => "unit value"
  | bool b => "boolean `" ++ (if b then "true" else "false") ++ "`"
  | int i => "integer `" ++ toString i ++ "`"
  | real x => "floating point `" ++ Numeral.text .pointed x ++ "`"
  | text s => "string " ++ Text.quoted s

namespace Fault

/-- The text shown to people. -/
def message : Fault → String
  | wrongType found expected key origin =>
    "invalid type: " ++ found.message ++ ", expected " ++ expected ++
      (match key with
        | some k => " for key `" ++ k ++ "`"
        | none => "") ++
      (match origin with
        | some o => " in " ++ o.text
        | none => "")
  | unknownOption choice given =>
    "enum " ++ choice ++ " does not have variant constructor " ++ given
  | notAnOption choice =>
    "value of enum " ++ choice ++
      " should be represented by either string or table with exactly one key"
  | notASection name found =>
    "invalid type: " ++ found.message ++ ", expected struct " ++ name

/-- Puts a segment before the key of a type fault; a point separates it from another key, but not
from an index. -/
def under (segment : String) : Fault → Fault
  | wrongType found expected key origin =>
    let key := match key with
      | none => segment
      | some k => if k.startsWith "[" then segment ++ k else segment ++ "." ++ k
    wrongType found expected (some key) origin
  | f => f

/-- Puts an index before the key of a type fault. -/
def atIndex (i : Nat) : Fault → Fault
  | wrongType found expected key origin =>
    wrongType found expected (some ("[" ++ toString i ++ "]" ++ key.getD "")) origin
  | f => f

end Fault

end FramePipeline
