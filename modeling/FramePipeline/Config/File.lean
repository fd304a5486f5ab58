import FramePipeline.Config.Fault
import FramePipeline.Json.Reader
import FramePipeline.Toml.Reader

/-!
# Configuration files

Which file a path means, and what the file gives. A path that is a file is read in the format that
its extension names; any other path is tried with the extension of each format appended.

Main definitions: `FileFormat`, `ConfigFile.find`, `ConfigFile.layer`, `LoadError`.
-/

namespace FramePipeline

/-- Why no configuration is loaded. -/
inductive LoadError where
  | fileNotFound (path : String)
  | unknownFormat (path : String)
  | notUtf8
  | malformed
  | fault (f : Fault)
  | overload (o : Overload)
  deriving DecidableEq, Repr

/-- The text shown to people. A file that does not parse is not described further. -/
def LoadError.message : LoadError → String
  | fileNotFound path => "configuration file \"" ++ path ++ "\" not found"
  | unknownFormat path =>
    "configuration file \"" ++ path ++ "\" is not of a registered file format"
  | notUtf8 => "stream did not contain valid UTF-8"
  | malformed => "malformed configuration file"
  | fault f => f.message
  | overload o => o.message

/-- The formats of configuration files. -/
inductive FileFormat where
  | toml
  | json
  deriving DecidableEq, Repr

/-- The extension of a format. -/
def FileFormat.extension : FileFormat → String
  | toml => "toml"
  | json => "json"

/-- All formats, in the order in which they are tried. -/
def FileFormat.all : List FileFormat :=
  [toml, json]

namespace ConfigFile

/-! ## Paths -/

/-- The parts of a path that name something. -/
def components (path : String) : List String :=
  (path.splitOn "/").filter fun c => c ≠ "" ∧ c ≠ "."

/-- The extension of a file name: what follows its last point, which may not be the first
character. -/
def extensionOf (name : String) : String :=
  match name.splitOn "." with
  | [_] => ""
  | parts => if parts.dropLast = [""] then "" else parts.getLast?.getD ""

/-- The format that a path's extension names. -/
def formatOf? (path : String) : Option FileFormat :=
  let name := (components path).getLast?.getD ""
  FileFormat.all.find? (·.extension = extensionOf name)

/-- The path with an extension appended to its last name, if it ends in a name. -/
def withExtension? (path : String) (format : FileFormat) : Option String :=
  let parts := components path
  match parts.getLast? with
  | none => none
  | some ".." => none
  | some _ =>
    some ((if path.startsWith "/" then "/" else "") ++ "/".intercalate parts ++ "." ++
      format.extension)

/-- The paths that are tried for a path, in order. -/
def candidates (path : String) : List String :=
  path :: FileFormat.all.filterMap (withExtension? path)

/-- The file that a path means in `Config::load`, where it is required, and its format. -/
def find (isFile : String → Bool) (path : String) : Except LoadError (String × FileFormat) :=
  if isFile path then
    match formatOf? path with
    | some format => .ok (path, format)
    | none => .error (.unknownFormat path)
  else
    match FileFormat.all.findSome? (appended isFile path) with
    | some found => .ok found
    | none => .error (.fileNotFound path)
where
  /-- The path with a format's extension, if that is a file. -/
  appended (isFile : String → Bool) (path : String) (format : FileFormat) :
      Option (String × FileFormat) :=
    match withExtension? path format with
    | some p => if isFile p then some (p, format) else none
    | none => none

/-- How messages name a file: by its path without empty parts. -/
def originOf (path : String) : Origin :=
  .file ((if path.startsWith "/" then "/" else "") ++ "/".intercalate (components path))

/-! ## Contents -/

mutual

/-- A TOML value as it was given. Date-times are given as their texts. -/
def ofToml (origin : Origin) : Toml → Value
  | .bool b => .scalar origin (.bool b)
  | .int i => .scalar origin (.int i)
  | .real x => .scalar origin (.real x)
  | .text s => .scalar origin (.text s)
  | .moment d => .scalar origin (.text d.text)
  | .array items => .array origin (ofTomlItems origin items)
  | .table entries => .table origin (ofTomlEntries origin entries)

/-- The items of a TOML array. -/
def ofTomlItems (origin : Origin) : List Toml → List Value
  | [] => []
  | t :: rest => ofToml origin t :: ofTomlItems origin rest

/-- The entries of a TOML table. -/
def ofTomlEntries (origin : Origin) : List (String × Toml) → List (String × Value)
  | [] => []
  | (key, t) :: rest => (key, ofToml origin t) :: ofTomlEntries origin rest

end

mutual

/-- A JSON value as it was given. An integer beyond 63 bits is given as a number. -/
def ofJson (origin : Origin) : Json → Value
  | .null => .scalar origin .nil
  | .bool b => .scalar origin (.bool b)
  | .int i =>
    .scalar origin (if i < Word.signedLimit then .int i else .real (Binary64.ofNat i.toNat))
  | .real x => .scalar origin (.real x)
  | .text s => .scalar origin (.text s)
  | .array items => .array origin (ofJsonItems origin items)
  | .object members => .table origin (ofJsonMembers origin members)

/-- The items of a JSON array. -/
def ofJsonItems (origin : Origin) : List Json → List Value
  | [] => []
  | j :: rest => ofJson origin j :: ofJsonItems origin rest

/-- The members of a JSON object. -/
def ofJsonMembers (origin : Origin) : List (String × Json) → List (String × Value)
  | [] => []
  | (key, j) :: rest => (key, ofJson origin j) :: ofJsonMembers origin rest

end

/-- What a file's text gives. The root of a JSON document must be an object. -/
def layerOfText (format : FileFormat) (origin : Origin) (text : String) :
    Except LoadError (Entries Value) :=
  match format with
  | .toml =>
    match Toml.parse? text with
    | some entries => .ok (ofTomlEntries origin entries)
    | none => .error .malformed
  | .json =>
    match Json.parse? text with
    | some (.object members) => .ok (ofJsonMembers origin members)
    | _ => .error .malformed

/-- The layer of the file in `Config::load`: what the file that a path means gives; `contents` are the bytes
of each file there is. -/
def layer (contents : String → Option ByteArray) (path : String) :
    Except LoadError (Entries Value) := do
  let (found, format) ← find (fun p => (contents p).isSome) path
  match String.fromUTF8? ((contents found).getD .empty) with
  | some text => layerOfText format (originOf found) text
  | none => .error .notUtf8

/-! ## A folder with one file -/

/-- Whether a path, taken from the folder, leads to the file `name`. Every part of the path but the
last must lead to a folder on the way to the file. -/
def leadsTo (name path : String) : Bool :=
  let target := components name
  let walk (here : Option (List String)) (part : String) : Option (List String) :=
    match here with
    | none => none
    | some at' =>
      if !(at'.isPrefixOf target && at' ≠ target) then none
      else if part = "" ∨ part = "." then some at'
      else if part = ".." then (if at' = [] then none else some at'.dropLast)
      else some (at' ++ [part])
  !path.startsWith "/" && (path.splitOn "/").foldl walk (some []) = some target

end ConfigFile

end FramePipeline
