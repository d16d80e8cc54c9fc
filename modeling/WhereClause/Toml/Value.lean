import WhereClause.Toml.Scalar

/-! Values of TOML text: strings, scalars, arrays and inline tables. -/

set_option autoImplicit false

namespace WhereClause.Toml

/-- An inline table under construction; only tables made by dotted names stay open. -/
inductive Inline where
  | closed (value : Json)
  | dotted (fields : List (String × Inline))

/-- Put a value at a dotted name. A name is given once, and a finished value is not
extended. -/
def insertInline (value : Json) : List String → List (String × Inline) →
    Option (List (String × Inline))
  | [], _ => none
  | [name], fields =>
    if (fields.lookup name).isSome then none else some (fields ++ [(name, .closed value)])
  | name :: rest, fields =>
    match fields.lookup name with
    | none => (insertInline value rest []).map fun inner => fields ++ [(name, .dotted inner)]
    | some (.closed _) => none
    | some (.dotted inner) =>
      (insertInline value rest inner).map fun inner =>
        fields.map fun (other, found) => if other == name then (name, .dotted inner) else (other, found)

mutual

def Inline.json : Inline → Json
  | .closed value => value
  | .dotted fields => .object (inlineFields fields)

def inlineFields : List (String × Inline) → List (String × Json)
  | [] => []
  | (name, value) :: rest => (name, value.json) :: inlineFields rest

end

def arrayItems (item : List Char → Option (Json × List Char)) :
    (limit : Nat) → List Char → Option (List Json × List Char)
  | 0, _ => none
  | limit + 1, text =>
    match skipLines text with
    | ']' :: rest => some ([], rest)
    | start =>
      match item start with
      | none => none
      | some (value, rest) =>
        match skipLines rest with
        | ',' :: next => (arrayItems item limit next).map fun (values, rest) => (value :: values, rest)
        | ']' :: next => some ([value], next)
        | _ => none

def inlineItems (item : List Char → Option (Json × List Char)) :
    (limit : Nat) → List (String × Inline) → List Char → Option (List (String × Inline) × List Char)
  | 0, _, _ => none
  | limit + 1, fields, text => do
    let (names, rest) ← keyPath (limit + 1) text
    match skipSpaces rest with
    | '=' :: rest =>
      let (value, rest) ← item (skipSpaces rest)
      let fields ← insertInline value names fields
      match skipSpaces rest with
      | ',' :: next => inlineItems item limit fields next
      | '\x7d' :: next => some (fields, next)
      | _ => none
    | _ => none

def value (limit : Nat) : (depth : Nat) → List Char → Option (Json × List Char)
  | _, [] => none
  | depth + 1, '[' :: rest =>
    (arrayItems (value limit depth) limit rest).map fun (items, rest) => (.array items, rest)
  | depth + 1, '\x7b' :: rest =>
    match skipSpaces rest with
    | '\x7d' :: rest => some (.object [], rest)
    | _ =>
      (inlineItems (value limit depth) limit [] rest).map fun (fields, rest) =>
        (.object (inlineFields fields), rest)
  | _, c :: rest =>
    if c = '"' || c = '\'' then (string limit (c :: rest)).map fun (found, rest) => (.string found, rest)
    else scalar (c :: rest)

end WhereClause.Toml
