import TimingFeed.Toml.Document
import TimingFeed.Toml.Number

/-!
# Reading a document

`Document.read?` reads a text as a document: the statements line by line, and then
the tables that they make up. It gives nothing when the text is not well-formed.
-/

namespace TimingFeed.Toml

/-- How deep arrays and tables in braces may be nested, and how many parts a key
may have. -/
def nestingLimit : Nat := 79

/-- The last part of a key and the parts before it. -/
def splitKey (path : List String) : List String × String :=
  (path.dropLast, path.getLast?.getD "")

/-- Read a value that is neither an array nor a table. -/
def scalar? (s : List Char) : Option (Value × List Char) :=
  match s with
  | [] => none
  | c :: _ =>
    if c = '"' ∨ c = '\'' then (string? s).map fun (cs, rest) => (.string (String.ofList cs), rest)
    else if c = '+' ∨ c = '-' ∨ c.isDigit then number? s
    else
      match s with
      | 't' :: 'r' :: 'u' :: 'e' :: rest => some (.boolean true, rest)
      | 'f' :: 'a' :: 'l' :: 's' :: 'e' :: rest => some (.boolean false, rest)
      | _ => (specialFloat? false s).map fun (x, rest) => (.float x, rest)

/-- The rest of an array: items with commas between them and, if need be, one more
comma at the end. -/
def items? (item : List Char → Option (Value × List Char)) :
    Nat → List Char → Option (List Value × List Char)
  | 0, _ => none
  | n + 1, s =>
    match skipLines false s with
    | ']' :: rest => some ([], rest)
    | s =>
      (item s).bind fun (v, rest) =>
        match skipLines false rest with
        | ',' :: rest => (items? item n rest).map fun (vs, rest) => (v :: vs, rest)
        | ']' :: rest => some ([v], rest)
        | _ => none

/-- A key, an equals sign and a value. -/
def pair? (item : List Char → Option (Value × List Char)) (s : List Char) :
    Option ((List String × String × Value) × List Char) :=
  (keyPath? nestingLimit s).bind fun (path, rest) =>
    match rest with
    | '=' :: rest =>
      (item (skipBlank rest)).map fun (v, rest) =>
        let (path, key) := splitKey path
        ((path, key, v), rest)
    | _ => none

/-- The rest of a table in braces after its first pair has begun: pairs on one line
with commas between them. -/
def pairs? (item : List Char → Option (Value × List Char)) :
    Nat → List Char → Option (List (List String × String × Value) × List Char)
  | 0, _ => none
  | n + 1, s =>
    (pair? item s).bind fun (p, rest) =>
      match skipBlank rest with
      | ',' :: rest => (pairs? item n rest).map fun (ps, rest) => (p :: ps, rest)
      | '}' :: rest => some ([p], rest)
      | _ => none

/-- Read a value with at most `depth` levels of brackets. -/
def value? : Nat → List Char → Option (Value × List Char)
  | 0, s => scalar? s
  | depth + 1, '[' :: rest =>
    (items? (value? depth) (rest.length + 1) rest).map fun (vs, rest) => (.array vs, rest)
  | depth + 1, '{' :: rest =>
    match skipBlank rest with
    | '}' :: rest => some (.table [], rest)
    | _ =>
      (pairs? (value? depth) (rest.length + 1) rest).bind fun (ps, rest) =>
        (Document.ofPairs? ps).map fun v => (v, rest)
  | _ + 1, s => scalar? s

/-- Read the header of a table of an array, after its brackets. -/
def itemHeader? (s : List Char) : Option (Statement × List Char) :=
  (keyPath? nestingLimit s).bind fun (path, rest) =>
    match rest with
    | ']' :: ']' :: rest =>
      let (path, key) := splitKey path
      some (.item path key, rest)
    | _ => none

/-- Read the header of a table, after its bracket. -/
def tableHeader? (s : List Char) : Option (Statement × List Char) :=
  (keyPath? nestingLimit s).bind fun (path, rest) =>
    match rest with
    | ']' :: rest =>
      let (path, key) := splitKey path
      some (.table path key, rest)
    | _ => none

/-- Read one statement, without the end of its line. -/
def statement? : List Char → Option (Statement × List Char)
  | '[' :: '[' :: rest => itemHeader? rest
  | '[' :: rest => tableHeader? rest
  | s => (pair? (value? nestingLimit) s).map fun ((path, key, v), rest) =>
    (.entry path key v, rest)

/-- Read statements line by line, at most as many lines as the number says. -/
def statements? : Nat → List Char → Option (List Statement)
  | 0, _ => none
  | n + 1, s =>
    match lineEnd? s, skipBlank s with
    | some [], _ => some []
    | some rest, _ => statements? n rest
    | none, s =>
      (statement? s).bind fun (st, rest) =>
        (lineEnd? rest).bind fun rest => (statements? n rest).map (st :: ·)

/-- The text without the mark that may stand at its very start. -/
def dropMark : List Char → List Char
  | '\ufeff' :: rest => rest
  | s => s

/-- Read a document. -/
def Document.read? (text : String) : Option (List (String × Value)) :=
  let s := dropMark text.toList
  (statements? (s.length + 1) s).bind Document.ofStatements?

end TimingFeed.Toml
