import WhereClause.Interchange
import WhereClause.Schema
import WhereClause.Toml.Document

/-! Entity definitions as JSON or TOML text.

An entity needs its name and a member needs its name; whatever else is left out has a
default. Only optional settings may be null.
-/

set_option autoImplicit false

namespace WhereClause

namespace Json

/-- A field of an object that may be left out, but not repeated. -/
def optionalField? (fields : List (String × Json)) (name : String) : Option (Option Json) :=
  match fields.filter (·.1 == name) with
  | [] => some none
  | [(_, value)] => some (some value)
  | _ => none

/-- The fields of a record any of which may be left out. Written as an array, the record
may stop early; in TOML it may also go on after its fields. -/
def openRecord? (format : TextFormat) (names : List String) : Json → Option (List (Option Json))
  | .object fields => names.mapM (optionalField? fields)
  | .array items =>
    if items.length ≤ names.length || format = .toml then
      some ((items.take names.length).map some
        ++ List.replicate (names.length - items.length) none)
    else none
  | _ => none

def setting? : Option Json → Option (Option String)
  | none => some none
  | some .null => some none
  | some (.string text) => some (some text)
  | some _ => none

/-- A name from a fixed set. A table with that name as its only key and nothing in it
stands for the name too. -/
def tag? : Json → Option String
  | .string name => some name
  | .object [(name, .object [])] => some name
  | .object [(name, .array [])] => some name
  | _ => none

def list? {α : Type} (read? : Json → Option α) : Option Json → Option (List α)
  | none => some []
  | some json => do (← json.items?).mapM read?

end Json

def MemberDef.ofJson? (format : TextFormat) (json : Json) : Option MemberDef := do
  match ← json.openRecord? format ["name", "column", "converter"] with
  | [some name, column, converter] =>
    return {
      name := ← name.string?
      column := ← Json.setting? column
      converter := ← Json.setting? converter }
  | _ => none

def EntityDef.ofJson? (format : TextFormat) (json : Json) : Option EntityDef := do
  match ← json.openRecord? format ["name", "table", "base", "members"] with
  | [some name, table, base, members] =>
    return {
      name := ← name.string?
      table := ← Json.setting? table
      base := ← Json.setting? base
      members := ← Json.list? (MemberDef.ofJson? format) members }
  | _ => none

def TextFormat.read? : TextFormat → String → Option Json
  | .json => Json.read?
  | .toml => Toml.read?

def EntityDef.readAll? (format : TextFormat) (text : String) : Option (List EntityDef) := do
  match ← (← format.read? text).openRecord? format ["entities"] with
  | [entities] => Json.list? (EntityDef.ofJson? format) entities
  | _ => none

def Schema.read (format : TextFormat) (text : String) (registry : Registry) : Except Error Schema :=
  match EntityDef.readAll? format text with
  | some defs => Schema.build defs registry
  | none => .error (.schema (.malformed format none))

end WhereClause
