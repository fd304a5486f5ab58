import FramePipeline.Entries
import FramePipeline.Toml.Basic

/-!
# Tables under construction

While a document is read, its tables grow: by headers `[a.b]`, by headers `[[a.b]]` that add an
element to an array of tables, and by dotted keys `a.b = 1`. A `Draft` remembers how each table came
about, because that decides what may still be added: a table is opened by a header at most once, and
a dotted key enters only tables that dotted keys made or that no header opened.

Main definitions: `Draft`, `Draft.insert?` (a key and value), `Draft.openTable?`,
`Draft.appendTable?` (headers), `Draft.toToml`.
-/

namespace FramePipeline

/-- How a table came about: opened by a header, implied by a longer header, or made by a dotted
key. -/
inductive TableKind where
  | opened
  | implied
  | dotted
  deriving DecidableEq, Repr

/-- A node of a document under construction. Arrays and inline tables are complete values. -/
inductive Draft where
  | value (v : Toml)
  | table (kind : TableKind) (entries : List (String × Draft))
  | tables (elements : List (List (String × Draft)))

namespace Draft

/-! ## Walking down -/

/-- Changes the table that `path` leads to. Tables that are missing on the way are made with the
kind `made`; of an array of tables the last element is entered. A dotted key may not enter a table
that a header opened. `f` is given the kind of the table it changes. -/
def descend (made : TableKind) (f : TableKind → Entries Draft → Option (Entries Draft)) :
    (path : List String) → TableKind → Entries Draft → Option (Entries Draft)
  | [], kind, entries => f kind entries
  | key :: path, _, entries =>
    match entries.lookup key with
    | none => do
      let inner ← descend made f path made []
      some (entries ++ [(key, .table made inner)])
    | some (.value _) => none
    | some (.table kind inner) =>
      if made = .dotted ∧ kind = .opened then none
      else do
        let inner ← descend made f path kind inner
        some (Entries.put key (.table kind inner) entries)
    | some (.tables elements) =>
      match elements.getLast? with
      | none => none
      | some last => do
        let last ← descend made f path .opened last
        some (Entries.put key (.tables (elements.dropLast ++ [last])) entries)

/-! ## Entries -/

/-- Adds a new key to a table. -/
def addNew (key : String) (d : Draft) (entries : Entries Draft) : Option (Entries Draft) :=
  if (entries.lookup key).isSome then none else some (entries ++ [(key, d)])

/-- Adds the value of the dotted key `path.key` to a table. The last table of the path must be one
that dotted keys made. -/
def insert? (path : List String) (key : String) (v : Toml) (entries : Entries Draft) :
    Option (Entries Draft) :=
  descend .dotted
    (fun kind es => if path ≠ [] ∧ kind ≠ .dotted then none else addNew key (.value v) es)
    path .opened entries

/-- Opens the table `path.key` by a header. A table that was only implied is opened as it stands, and
becomes the last entry of the table around it. -/
def openTable? (path : List String) (key : String) (entries : Entries Draft) :
    Option (Entries Draft) :=
  descend .implied
    (fun _ es =>
      match es.lookup key with
      | none => some (es ++ [(key, .table .opened [])])
      | some (.table .implied inner) => some (Entries.erase key es ++ [(key, .table .opened inner)])
      | some _ => none)
    path .opened entries

/-- Adds an empty element to the array of tables `path.key`. -/
def appendTable? (path : List String) (key : String) (entries : Entries Draft) :
    Option (Entries Draft) :=
  descend .implied
    (fun _ es =>
      match es.lookup key with
      | none => some (es ++ [(key, .tables [[]])])
      | some (.tables elements) => some (Entries.put key (.tables (elements ++ [[]])) es)
      | some _ => none)
    path .opened entries

/-! ## The finished document -/

mutual

/-- The value of a finished node. -/
def toToml : Draft → Toml
  | .value v => v
  | .table _ entries => .table (entriesToToml entries)
  | .tables elements => .array (elementsToToml elements)

/-- The values of finished entries. -/
def entriesToToml : List (String × Draft) → List (String × Toml)
  | [] => []
  | (key, d) :: rest => (key, d.toToml) :: entriesToToml rest

/-- The values of the finished elements of an array of tables. -/
def elementsToToml : List (List (String × Draft)) → List Toml
  | [] => []
  | entries :: rest => .table (entriesToToml entries) :: elementsToToml rest

end

end Draft

end FramePipeline
