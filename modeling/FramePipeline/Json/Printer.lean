import FramePipeline.Binary64.Shortest
import FramePipeline.Json.Basic
import FramePipeline.Text.Hex

/-!
# Writing JSON documents

The text of a JSON value, without blanks. Strings escape quotes, backslashes and control characters
and keep everything else; numbers that are not finite are written as null.

Main definition: `Json.print`.
-/

namespace FramePipeline.Json

open FramePipeline.Text

/-! ## Strings and numbers -/

/-- A character of a string. -/
def printChar (c : Char) : List Char :=
  if c = '"' then ['\\', '"']
  else if c = '\\' then ['\\', '\\']
  else if c = '\n' then ['\\', 'n']
  else if c = '\r' then ['\\', 'r']
  else if c = '\t' then ['\\', 't']
  else if c.toNat < 0x20 then ['\\', 'u'] ++ Hex.fixed 4 c.toNat
  else [c]

/-- A string between its quotes. -/
def printText (s : String) : String :=
  String.ofList ('"' :: s.toList.flatMap printChar ++ ['"'])

/-- A number; JSON has no spelling for one that is not finite. -/
def printReal : Binary64 → String
  | .finite negative units => Numeral.text .compact (.finite negative units)
  | _ => "null"

/-! ## Values -/

mutual

/-- The text of a value. -/
def print : Json → String
  | .null => "null"
  | .bool true => "true"
  | .bool false => "false"
  | .int i => toString i
  | .real x => printReal x
  | .text s => printText s
  | .array items => "[" ++ ",".intercalate (printItems items) ++ "]"
  | .object members => "\x7b" ++ ",".intercalate (printMembers members) ++ "\x7d"

/-- The texts of items. -/
def printItems : List Json → List String
  | [] => []
  | j :: rest => print j :: printItems rest

/-- The texts of members: name, colon, value. -/
def printMembers : List (String × Json) → List String
  | [] => []
  | (name, j) :: rest => (printText name ++ ":" ++ print j) :: printMembers rest

end

end FramePipeline.Json
