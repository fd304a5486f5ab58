import FramePipeline.Config.Kind

/-!
# Records of settings

A record lists its fields in order, each with its kind and the way it is set. Given as a table, the
fields are found by name and other names are ignored; given as a list, by their place. Loosely, fields
that are not given keep their defaults; strictly, so they do unless the record requires them all.

Main definitions: `Field`, `Record`, `Record.convert`, `Record.decode`, `Record.encode`,
`Record.kind`.
-/

namespace FramePipeline

/-- A field of a record `σ`. -/
structure Field (σ : Type) where
  name : String
  /-- Sets the field from a value of a file or the environment. -/
  convert : Value → σ → Except Fault σ
  /-- Sets the field from a JSON value. -/
  decode : Json → σ → Except Refusal σ
  /-- The JSON value that stands for the field. -/
  encode : σ → Json

/-- The field with a kind and ways to be read and set. -/
def Field.of {σ α : Type} (name : String) (kind : Kind α) (get : σ → α) (set : α → σ → σ) :
    Field σ where
  name
  convert v s := (kind.convert v).map (set · s)
  decode j s := (kind.decode j).map (set · s)
  encode s := kind.encode (get s)

/-- The fields of a record, in order, and their defaults. -/
structure Record (σ : Type) where
  /-- The name in messages. -/
  name : String
  default : σ
  fields : List (Field σ)
  /-- Strictly, every field must be given. -/
  required : Bool := false

namespace Record

variable {σ : Type}

/-- The field with a name. -/
def field? (r : Record σ) (name : String) : Option (Field σ) :=
  r.fields.find? (·.name = name)

/-! ## From files and the environment -/

/-- Sets the fields that a table names. -/
def convertEntries (r : Record σ) : Entries Value → σ → Except Fault σ
  | [], s => .ok s
  | (key, v) :: rest, s =>
    match r.field? key with
    | none => convertEntries r rest s
    | some f => do
      let s ← (f.convert v s).mapError (Fault.under key)
      convertEntries r rest s

/-- Sets fields from items by their place, the first of which is `i`. -/
def convertItems : List (Field σ) → List Value → (i : Nat) → σ → Except Fault σ
  | f :: fields, v :: items, i, s => do
    let s ← (f.convert v s).mapError (Fault.atIndex i)
    convertItems fields items (i + 1) s
  | _, _, _, s => .ok s

/-- The record that a value gives. -/
def convert (r : Record σ) : Value → Except Fault σ
  | .table _ entries => r.convertEntries entries r.default
  | .array _ items => convertItems r.fields items 0 r.default
  | .scalar _ s => .error (.notASection r.name s)

/-! ## From JSON -/

/-- Sets the fields that an object names. -/
def decodeMembers (r : Record σ) : Entries Json → σ → Except Refusal σ
  | [], s => .ok s
  | (key, j) :: rest, s =>
    match r.field? key with
    | none => decodeMembers r rest s
    | some f => do decodeMembers r rest (← f.decode j s)

/-- Sets fields from items by their place. -/
def decodeItems : List (Field σ) → List Json → σ → Except Refusal σ
  | f :: fields, j :: items, s => do decodeItems fields items (← f.decode j s)
  | _, _, s => .ok s

/-- The first field that must be given and is not. -/
def missing? (r : Record σ) (members : Entries Json) : Option (Field σ) :=
  if r.required then r.fields.find? fun f => (members.lookup f.name).isNone else none

/-- The record that a JSON value gives. The members of an object are visited in the order of their
names. -/
def decode (r : Record σ) : Json → Except Refusal σ
  | .object members => do
    let sorted := members.mergeSort (fun a b => a.1 ≤ b.1)
    let s ← r.decodeMembers sorted r.default
    match r.missing? members with
    | some f => .error (.missingField f.name)
    | none => .ok s
  | .array items => do
    let s ← decodeItems r.fields items r.default
    if r.required ∧ items.length < r.fields.length then
      .error (.wrongLength items.length
        ("struct " ++ r.name ++ " with " ++ toString r.fields.length ++ " elements"))
    else if r.fields.length < items.length then
      .error (.wrongLength items.length "fewer elements in array")
    else .ok s
  | j => .error (.wrongType j ("struct " ++ r.name))

/-- The JSON object that stands for a record. -/
def encode (r : Record σ) (s : σ) : Json :=
  .object (r.fields.map fun f => (f.name, f.encode s))

/-- A record as the kind of a setting. -/
def kind (r : Record σ) : Kind σ where
  convert := r.convert
  decode := r.decode
  encode := r.encode

end Record

end FramePipeline
