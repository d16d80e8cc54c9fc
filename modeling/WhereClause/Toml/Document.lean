import WhereClause.Toml.Value

/-! TOML documents.

A document is a list of statements: table headers, headers of array elements, and
assignments. Applying them in order builds the table; a name is defined once, a table
has one header, and finished values are not extended.
-/

set_option autoImplicit false

namespace WhereClause.Toml

inductive Statement where
  | table (path : List String)
  | element (path : List String)
  | assign (path : List String) (value : Json)

/-- How a table came to be: by its own header, on the way to another table, or by a
dotted name. -/
inductive Origin where
  | header
  | passage
  | dotted
  deriving DecidableEq

inductive Node where
  | value (json : Json)
  | table (origin : Origin) (entries : List (String × Node))
  | elements (tables : List (List (String × Node)))

abbrev Entries := List (String × Node)

def setEntry (name : String) (node : Node) (entries : Entries) : Entries :=
  if (entries.lookup name).isSome then
    entries.map fun (other, found) => if other == name then (name, node) else (other, found)
  else entries ++ [(name, node)]

/-- Change the entries of the table that a header path leads to. Missing tables on the
way are made, and an array of tables stands for its last element. -/
def atPath (change : Entries → Option Entries) : List String → Entries → Option Entries
  | [], entries => change entries
  | name :: rest, entries =>
    match entries.lookup name with
    | none =>
      (atPath change rest []).map fun inner => setEntry name (.table .passage inner) entries
    | some (.table origin inner) =>
      (atPath change rest inner).map fun inner => setEntry name (.table origin inner) entries
    | some (.elements tables) =>
      match tables.getLast? with
      | none => none
      | some last =>
        (atPath change rest last).map fun last =>
          setEntry name (.elements (tables.dropLast ++ [last])) entries
    | some (.value _) => none

def openTable (name : String) (entries : Entries) : Option Entries :=
  match entries.lookup name with
  | none => some (setEntry name (.table .header []) entries)
  | some (.table .passage inner) => some (setEntry name (.table .header inner) entries)
  | some _ => none

def openElement (name : String) (entries : Entries) : Option Entries :=
  match entries.lookup name with
  | none => some (setEntry name (.elements [[]]) entries)
  | some (.elements tables) => some (setEntry name (.elements (tables ++ [[]])) entries)
  | some _ => none

/-- Assign a value at a dotted name, seen from a table that dots have or have not led to. -/
def assign (value : Json) : (inDotted : Bool) → (nested : Bool) → List String → Entries →
    Option Entries
  | _, _, [], _ => none
  | inDotted, nested, [name], entries =>
    if inDotted != nested || (entries.lookup name).isSome then none
    else some (setEntry name (.value value) entries)
  | _, _, name :: rest, entries =>
    match entries.lookup name with
    | none =>
      (assign value true true rest []).map fun inner => setEntry name (.table .dotted inner) entries
    | some (.table .header _) => none
    | some (.table origin inner) =>
      (assign value (origin = .dotted) true rest inner).map fun inner =>
        setEntry name (.table origin inner) entries
    | some (.elements tables) =>
      match tables.getLast? with
      | none => none
      | some last =>
        (assign value false true rest last).map fun last =>
          setEntry name (.elements (tables.dropLast ++ [last])) entries
    | some (.value _) => none

structure Draft where
  entries : Entries := []
  current : List String := []

def Draft.apply (draft : Draft) : Statement → Option Draft
  | .table path => do
    let name ← path.getLast?
    return { entries := ← atPath (openTable name) path.dropLast draft.entries, current := path }
  | .element path => do
    let name ← path.getLast?
    return { entries := ← atPath (openElement name) path.dropLast draft.entries, current := path }
  | .assign path value => do
    return { draft with entries := ← atPath (assign value false false path) draft.current draft.entries }

mutual

def Node.json : Node → Json
  | .value json => json
  | .table _ entries => .object (entriesJson entries)
  | .elements tables => .array (tablesJson tables)

def entriesJson : List (String × Node) → List (String × Json)
  | [] => []
  | (name, node) :: rest => (name, node.json) :: entriesJson rest

def tablesJson : List (List (String × Node)) → List Json
  | [] => []
  | entries :: rest => .object (entriesJson entries) :: tablesJson rest

end

def endOfLine? (text : List Char) : Option (List Char) :=
  match skipComment (skipSpaces text) with
  | [] => some []
  | rest => newline? rest

def statement? (limit : Nat) (text : List Char) : Option (Statement × List Char) :=
  match text with
  | '[' :: '[' :: rest => do
    let (path, rest) ← keyPath limit rest
    match rest with
    | ']' :: ']' :: rest => return (.element path, ← endOfLine? rest)
    | _ => none
  | '[' :: rest => do
    let (path, rest) ← keyPath limit rest
    match rest with
    | ']' :: rest => return (.table path, ← endOfLine? rest)
    | _ => none
  | _ => do
    let (path, rest) ← keyPath limit text
    match rest with
    | '=' :: rest =>
      let (found, rest) ← value limit nestingLimit (skipSpaces rest)
      return (.assign path found, ← endOfLine? rest)
    | _ => none

/-- Statements up to the end of the text; a comment must end with its line. -/
def statements : (limit : Nat) → List Char → Option (List Statement)
  | 0, _ => none
  | limit + 1, text =>
    match skipLines text with
    | [] => some []
    | start =>
      match statement? (limit + 1) start with
      | none => none
      | some (first, rest) => (statements limit rest).map (first :: ·)

def withoutMark : List Char → List Char
  | '\ufeff' :: rest => rest
  | text => text

def read? (text : String) : Option Json := do
  let found ← statements (text.length + 1) (withoutMark text.toList)
  let draft ← found.foldlM Draft.apply {}
  return .object (entriesJson draft.entries)

end WhereClause.Toml
