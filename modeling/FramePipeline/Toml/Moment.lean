import FramePipeline.Toml.Basic

/-!
# Date-times in tables

A table whose first key is `$__toml_private_datetime` stands for the date-time that this key holds as a
text, and nothing else in the table counts. A document in which such a key holds anything but a
date-time is malformed.

Main definitions: `Toml.momentKey`, `Toml.withMoments?`.
-/

namespace FramePipeline.Toml

/-- The key that makes a table a date-time, if it comes first. -/
def momentKey : String :=
  "$__toml_private_datetime"

/-- The date-time that the value of the key is the text of. -/
def moment? : Toml → Option Toml
  | .text s => (DateTime.ofText? s).map .moment
  | _ => none

mutual

/-- The value with date-times in place of the tables that stand for them. -/
def withMoments? : Toml → Option Toml
  | .array items => (itemsWithMoments? items).map .array
  | .table [] => some (.table [])
  | .table ((key, v) :: rest) =>
    if key = momentKey then moment? v
    else do
      let v ← withMoments? v
      let rest ← entriesWithMoments? rest
      some (.table ((key, v) :: rest))
  | v => some v

/-- Does so for the items of an array. -/
def itemsWithMoments? : List Toml → Option (List Toml)
  | [] => some []
  | v :: rest => do
    let v ← withMoments? v
    let rest ← itemsWithMoments? rest
    some (v :: rest)

/-- Does so for the entries of a table. -/
def entriesWithMoments? : List (String × Toml) → Option (List (String × Toml))
  | [] => some []
  | (key, v) :: rest => do
    let v ← withMoments? v
    let rest ← entriesWithMoments? rest
    some ((key, v) :: rest)

end

end FramePipeline.Toml
