import FramePipeline.Binary64.Shortest
import FramePipeline.Json.Basic
import FramePipeline.Text.Quoted

/-!
# Refusals of strict decoding

Why a JSON value does not decode, and the text that says so.

Main definitions: `Refusal`, `Refusal.message`.
-/

namespace FramePipeline

/-- The wording of a JSON value in a refusal. -/
def Json.description : Json → String
  | null => "null"
  | bool b => "boolean `" ++ (if b then "true" else "false") ++ "`"
  | int i => "integer `" ++ toString i ++ "`"
  | real x => "floating point `" ++ Numeral.text .compact x ++ "`"
  | text s => "string " ++ Text.quoted s
  | array _ => "sequence"
  | object _ => "map"

/-- Why a JSON value does not decode. -/
inductive Refusal where
  | wrongType (found : Json) (expected : String)
  | wrongValue (found : Json) (expected : String)
  | unknownOption (given : String) (options : List String)
  | missingField (name : String)
  | wrongLength (length : Nat) (expected : String)

/-- The options of a choice, as a refusal lists them. -/
def optionList : List String → String
  | [a, b] => "`" ++ a ++ "` or `" ++ b ++ "`"
  | options => "one of " ++ ", ".intercalate (options.map fun o => "`" ++ o ++ "`")

/-- The text shown to people. -/
def Refusal.message : Refusal → String
  | wrongType found expected =>
    "invalid type: " ++ found.description ++ ", expected " ++ expected
  | wrongValue found expected =>
    "invalid value: " ++ found.description ++ ", expected " ++ expected
  | unknownOption given options =>
    "unknown variant `" ++ given ++ "`, expected " ++ optionList options
  | missingField name => "missing field `" ++ name ++ "`"
  | wrongLength length expected =>
    "invalid length " ++ toString length ++ ", expected " ++ expected

end FramePipeline
