import TimingFeed.Toml.Value

/-!
# Putting a document together

A document is a sequence of statements: key-value pairs, and headers that open a
table or add one to an array of tables. Later statements may extend some of the
tables and not others.

* A table with a header of its own, or written in braces, is complete: no dotted
  key reaches into it.
* A table that a header only names on its way may get its own header later.
* A table made by dotted keys may be extended by dotted keys, and headers may put
  tables into it.

`Document.ofStatements?` follows these rules; it refuses every key that is given
twice. A table that is named on the way and gets its header later moves to the
end of the table that holds it.
-/

namespace TimingFeed.Toml

/-- How a table came about. -/
inductive Origin
  /-- By its own header. -/
  | header
  /-- On the way of a header. -/
  | passage
  /-- By a dotted key. -/
  | dotted
  deriving DecidableEq, Repr

/-- What a key stands for while the document grows. -/
inductive Node
  | value (v : Value)
  | table (origin : Origin) (entries : List (String × Node))
  | tables (items : List (List (String × Node)))

/-- The entries of a table while the document grows. -/
abbrev Entries := List (String × Node)

/-- Put another node under a key. -/
def replace (key : String) (node : Node) (entries : Entries) : Entries :=
  entries.map fun e => if e.1 = key then (key, node) else e

/-- Take a key out. -/
def erase (key : String) (entries : Entries) : Entries := entries.filter fun e => e.1 ≠ key

/-- Change the table at the end of a path. Missing tables are made with the origin
`made`; a dotted key does not pass a table that has a header. -/
def changeAt (made : Origin) (f : Origin → Entries → Option Entries) :
    List String → Origin → Entries → Option Entries
  | [], origin, entries => f origin entries
  | key :: path, _, entries =>
    match find? key entries with
    | none =>
      (changeAt made f path made []).map fun es => entries ++ [(key, .table made es)]
    | some (.value _) => none
    | some (.table origin inner) =>
      if made = .dotted ∧ origin = .header then none
      else
        (changeAt made f path origin inner).map fun es => replace key (.table origin es) entries
    | some (.tables items) =>
      match items.getLast? with
      | none => none
      | some last =>
        (changeAt made f path .header last).map fun es =>
          replace key (.tables (items.dropLast ++ [es])) entries

/-- The entries of the table at the end of a path. -/
def entriesAt : List String → Entries → Entries
  | [], entries => entries
  | key :: path, entries =>
    match find? key entries with
    | some (.table _ inner) => entriesAt path inner
    | some (.tables items) => entriesAt path (items.getLast?.getD [])
    | _ => []

/-- Add a key-value pair to a table. With a dotted key the table that takes the
value must itself be made by dotted keys. -/
def insert? (path : List String) (key : String) (v : Value) (entries : Entries) :
    Option Entries :=
  changeAt .dotted
    (fun origin es =>
      if path ≠ [] ∧ origin ≠ .dotted then none
      else if (find? key es).isSome then none
      else some (es ++ [(key, .value v)]))
    path .header entries

mutual

/-- The value that a node stands for. -/
def Node.toValue : Node → Value
  | .value v => v
  | .table _ entries => .table (entriesToValues entries)
  | .tables items => .array (tablesToValues items)

/-- The values of entries. -/
def entriesToValues : List (String × Node) → List (String × Value)
  | [] => []
  | (key, node) :: rest => (key, node.toValue) :: entriesToValues rest

/-- The tables of an array of tables. -/
def tablesToValues : List (List (String × Node)) → List Value
  | [] => []
  | entries :: rest => .table (entriesToValues entries) :: tablesToValues rest

end

/-- One statement of a document. -/
inductive Statement
  /-- A value under a key. -/
  | entry (path : List String) (key : String) (value : Value)
  /-- The header of a table. -/
  | table (path : List String) (key : String)
  /-- The header of one more table of an array. -/
  | item (path : List String) (key : String)

/-- Where the key-value pairs go that follow. -/
inductive Target
  | root
  | table (path : List String) (key : String)
  | item (path : List String) (key : String)

/-- A document that grows: the tables that are closed, the open one and its place. -/
structure Draft where
  root : Entries := []
  target : Target := .root
  opened : Entries := []

namespace Draft

/-- Put the open table into its place. -/
def close? (d : Draft) : Option Entries :=
  match d.target with
  | .root => some d.opened
  | .table path key =>
    changeAt .passage (fun _ es => some (es ++ [(key, .table .header d.opened)]))
      path .header d.root
  | .item path key =>
    changeAt .passage
      (fun _ es =>
        match find? key es with
        | none => some (es ++ [(key, .tables [d.opened])])
        | some (.tables items) => some (replace key (.tables (items ++ [d.opened])) es)
        | some _ => none)
      path .header d.root

/-- Take one statement. -/
def step? (d : Draft) : Statement → Option Draft
  | .entry path key v => (insert? path key v d.opened).map fun es => { d with opened := es }
  | .table path key =>
    d.close?.bind fun root =>
      (changeAt .passage
        (fun _ es =>
          match find? key es with
          | none => some es
          | some (.table .passage _) => some (erase key es)
          | some _ => none)
        path .header root).map fun emptied =>
        { root := emptied
          target := .table path key
          opened := entriesAt (path ++ [key]) root }
  | .item path key =>
    d.close?.bind fun root =>
      (changeAt .passage
        (fun _ es =>
          match find? key es with
          | none => some (es ++ [(key, .tables [])])
          | some (.tables _) => some es
          | some _ => none)
        path .header root).map fun root => { root, target := .item path key, opened := [] }

end Draft

/-- The entries of the document that statements make up, if they agree. -/
def Document.ofStatements? (statements : List Statement) : Option (List (String × Value)) :=
  (statements.foldlM Draft.step? {}).bind fun d => d.close?.map entriesToValues

/-- The table that pairs in braces make up, if they agree. -/
def Document.ofPairs? (pairs : List (List String × String × Value)) : Option Value :=
  (pairs.foldlM (fun es (path, key, v) => insert? path key v es) []).map fun es =>
    .table (entriesToValues es)

end TimingFeed.Toml
