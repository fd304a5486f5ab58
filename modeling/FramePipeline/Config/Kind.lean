import FramePipeline.Config.Fault
import FramePipeline.Config.Refusal
import FramePipeline.Text.Lowercase

/-!
# Kinds of settings

A kind tells how a value of one type is taken from what was given: loosely, from files and the
environment, where numbers, words and switches convert into each other, and strictly, from a JSON
value of exactly that type. It also tells the JSON value that stands for a value of the type.

Main definitions: `Kind` and its instances `Kind.switch`, `Kind.text`, `Kind.word32`, `Kind.word64`,
`Kind.size`, `Kind.optional`, `Kind.choice`.
-/

namespace FramePipeline

/-- How values of a type are taken from what was given. -/
structure Kind (α : Type) where
  /-- Converts a value from a file or the environment. -/
  convert : Value → Except Fault α
  /-- Decodes a JSON value. -/
  decode : Json → Except Refusal α
  /-- The JSON value that stands for a value of the type. -/
  encode : α → Json

namespace Value

/-! ## Conversions -/

/-- What the value looks like to a conversion. -/
def found : Value → Found
  | scalar _ .nil => .unit
  | scalar _ (.bool b) => .bool b
  | scalar _ (.int i) => .signed i
  | scalar _ (.real x) => .real x
  | scalar _ (.text s) => .text s
  | array _ _ => .sequence
  | table _ _ => .map

/-- The fault of a value from which nothing of the expected type can be made. -/
def wrongType (v : Value) (expected : String) : Fault :=
  .wrongType v.found expected none v.origin

/-- A word of 64 bits. A truth value counts as one or zero, a fractional number is rounded into the
range of words, and a text is a word for on or off or a numeral. -/
def toWord (v : Value) : Except Fault Nat :=
  match v with
  | scalar _ (.bool b) => .ok b.toNat
  | scalar _ (.int i) =>
    if 0 ≤ i then .ok i.toNat
    else .error (v.wrongType "an unsigned 64 bit or less integer")
  | scalar _ (.real x) => .ok x.toWord
  | scalar _ (.text s) =>
    let word := Text.lowercase s
    if word ∈ ["true", "on", "yes"] then .ok 1
    else if word ∈ ["false", "off", "no"] then .ok 0
    else
      match readWord? s with
      | some n => .ok n
      | none => .error (v.wrongType "an integer")
  | _ => .error (v.wrongType "an integer")
where
  /-- Digits with an optional plus that stand for a word. -/
  readWord? (s : String) : Option Nat :=
    if s.startsWith "-" then none
    else
      match readInteger? s with
      | some i => if i < Word.limit then some i.toNat else none
      | none => none

/-- A word of 32 bits. -/
def toWord32 (v : Value) : Except Fault UInt32 := do
  let n ← v.toWord
  if n < UInt32.size then .ok (UInt32.ofNat n)
  else .error (.wrongType (.unsigned n) "an unsigned 32 bit integer" none none)

/-- A truth value. A number is true unless it is zero, and a text is a word for on or off. -/
def toSwitch (v : Value) : Except Fault Bool :=
  match v with
  | scalar _ (.bool b) => .ok b
  | scalar _ (.int i) => .ok (i ≠ 0)
  | scalar _ (.real x) => .ok !x.isZero
  | scalar o (.text s) =>
    let word := Text.lowercase s
    if word ∈ ["1", "true", "on", "yes"] then .ok true
    else if word ∈ ["0", "false", "off", "no"] then .ok false
    else .error (.wrongType (.text word) "a boolean" none o)
  | _ => .error (v.wrongType "a boolean")

/-- A text: any single value in its plain spelling. -/
def toText (v : Value) : Except Fault String :=
  match v with
  | scalar _ (.text s) => .ok s
  | scalar _ (.bool b) => .ok (if b then "true" else "false")
  | scalar _ (.int i) => .ok (toString i)
  | scalar _ (.real x) => .ok (Numeral.text .plain x)
  | _ => .error (v.wrongType "a string")

end Value

namespace Kind

/-! ## Switches, texts and numbers -/

/-- A truth value. -/
def switch : Kind Bool where
  convert := Value.toSwitch
  decode
    | .bool b => .ok b
    | j => .error (.wrongType j "a boolean")
  encode := .bool

/-- A text. -/
def text : Kind String where
  convert := Value.toText
  decode
    | .text s => .ok s
    | j => .error (.wrongType j "a string")
  encode := .text

/-- Decodes an integer below a bound. -/
def decodeBelow (bound : Nat) (expected : String) : Json → Except Refusal Nat
  | .int i =>
    if 0 ≤ i ∧ i < bound then .ok i.toNat else .error (.wrongValue (.int i) expected)
  | j => .error (.wrongType j expected)

/-- A word of 32 bits. -/
def word32 : Kind UInt32 where
  convert := Value.toWord32
  decode j := (decodeBelow UInt32.size "u32" j).map UInt32.ofNat
  encode n := .int n.toNat

/-- A word of 64 bits. -/
def word64 : Kind UInt64 where
  convert v := v.toWord.map UInt64.ofNat
  decode j := (decodeBelow Word.limit "u64" j).map UInt64.ofNat
  encode n := .int n.toNat

/-- A word of 64 bits that counts or numbers things. -/
def size : Kind UInt64 where
  convert v := v.toWord.map UInt64.ofNat
  decode j := (decodeBelow Word.limit "usize" j).map UInt64.ofNat
  encode n := .int n.toNat

/-- A setting that may be left out. -/
def optional {α : Type} (k : Kind α) : Kind (Option α) where
  convert
    | .scalar _ .nil => .ok none
    | v => (k.convert v).map some
  decode
    | .null => .ok none
    | j => (k.decode j).map some
  encode
    | none => .null
    | some a => k.encode a

/-! ## Choices -/

/-- One of the options listed by name. Loosely, the name is a text in any case or the only key of a
table; strictly, it is a text or the only name of an object whose value is null. `key` is the name of
an option. -/
def choice {α : Type} (name : String) (options : Entries α) (key : α → String) : Kind α where
  convert
    | .scalar _ (.text s) => find s
    | .table _ [(key, _)] => find key
    | _ => .error (.notAnOption name)
  decode
    | .text s => exact s
    | .object [(key, j)] => do
      let a ← exact key
      match j with
      | .null => .ok a
      | j => .error (.wrongType j "unit")
    | .object members => .error (.wrongValue (.object members) "map with a single key")
    | j => .error (.wrongType j "string or map")
  encode a := .text (key a)
where
  /-- The option with this name in any case. -/
  find (given : String) : Except Fault α :=
    match options.find? (fun o => Text.lowercase o.1 = Text.lowercase given) with
    | some (_, a) => .ok a
    | none => .error (.unknownOption name given)
  /-- The option with exactly this name. -/
  exact (given : String) : Except Refusal α :=
    match options.lookup given with
    | some a => .ok a
    | none => .error (.unknownOption given (options.map (·.1)))

end Kind

end FramePipeline
