import WhereClause.Number.FloatText

/-! JSON values and their text.

Objects keep their fields in order, repeated names included; whoever decodes an object
decides what a repeated name means.
-/

set_option autoImplicit false

namespace WhereClause

/-- A number as it was written: an integer of up to 64 bits, or a float. A float whose
text exceeds the range of the format is remembered as such. -/
inductive JsonNumber where
  | integer (value : Int)
  | float (value : Binary64)
  | outOfRange
  deriving DecidableEq, Repr

inductive Json where
  | null
  | bool (value : Bool)
  | number (value : JsonNumber)
  | string (value : String)
  /-- A string with half of a surrogate pair, or an object with such a name in it. It can
  be passed over, but has no value. -/
  | unpaired
  | array (items : List Json)
  | object (fields : List (String × Json))
  deriving Repr

instance : Inhabited Json := ⟨.null⟩

namespace Json

mutual

def within (depth : Nat) : Json → Bool
  | .array items => 0 < depth && allWithin (depth - 1) items
  | .object fields => 0 < depth && fieldsWithin (depth - 1) fields
  | _ => true

def allWithin (depth : Nat) : List Json → Bool
  | [] => true
  | item :: rest => within depth item && allWithin depth rest

def fieldsWithin (depth : Nat) : List (String × Json) → Bool
  | [] => true
  | (_, value) :: rest => within depth value && fieldsWithin depth rest

end

def ofInt (value : Int) : Json := .number (.integer value)

def ofNat (value : Nat) : Json := .number (.integer value)

/-- The last field of a name, as when later fields replace earlier ones. -/
def field? (json : Json) (name : String) : Option Json :=
  match json with
  | .object fields => fields.reverse.lookup name
  | _ => none

def hexDigits (width value : Nat) : List Char :=
  let digits := Nat.toDigits 16 value
  List.replicate (width - digits.length) '0' ++ digits

def escapeChar (c : Char) : List Char :=
  if c = '"' then ['\\', '"']
  else if c = '\\' then ['\\', '\\']
  else if c = '\n' then ['\\', 'n']
  else if c = '\t' then ['\\', 't']
  else if c = '\r' then ['\\', 'r']
  else if c = '\x08' then ['\\', 'b']
  else if c = '\x0c' then ['\\', 'f']
  else if c.toNat < 0x20 then '\\' :: 'u' :: hexDigits 4 c.toNat
  else [c]

def quotedOnto (text : String) (after : List Char) : List Char :=
  '"' :: text.toList.foldr (fun c rest => escapeChar c ++ rest) ('"' :: after)

def intChars (value : Int) : List Char :=
  if value < 0 then '-' :: Nat.toDigits 10 value.natAbs else Nat.toDigits 10 value.natAbs

/-- A number without a finite value is written as null. -/
def numberChars : JsonNumber → List Char
  | .integer value => intChars value
  | .float (.finite negative significand exponent) =>
    (FloatFormat.json.render (.finite negative significand exponent)).toList
  | .float _ => "null".toList
  | .outOfRange => "null".toList

def scalarOnto (json : Json) (after : List Char) : List Char :=
  match json with
  | .bool true => "true".toList ++ after
  | .bool false => "false".toList ++ after
  | .number value => numberChars value ++ after
  | .string value => quotedOnto value after
  | _ => "null".toList ++ after

mutual

def compactOnto : Json → (after : List Char) → List Char
  | .array items, after => '[' :: compactItems items (']' :: after)
  | .object fields, after => '\x7b' :: compactFields fields ('\x7d' :: after)
  | json, after => scalarOnto json after

def compactItems : List Json → (after : List Char) → List Char
  | [], after => after
  | [item], after => compactOnto item after
  | item :: next :: rest, after => compactOnto item (',' :: compactItems (next :: rest) after)

def compactFields : List (String × Json) → (after : List Char) → List Char
  | [], after => after
  | [(name, value)], after => quotedOnto name (':' :: compactOnto value after)
  | (name, value) :: next :: rest, after =>
    quotedOnto name (':' :: compactOnto value (',' :: compactFields (next :: rest) after))

end

def compact (json : Json) : String := String.ofList (json.compactOnto [])

def lineBreakOnto (depth : Nat) (after : List Char) : List Char :=
  '\n' :: List.replicate (2 * depth) ' ' ++ after

mutual

def prettyOnto (depth : Nat) : Json → (after : List Char) → List Char
  | .array [], after => '[' :: ']' :: after
  | .array items, after =>
    '[' :: prettyItems (depth + 1) items (lineBreakOnto depth (']' :: after))
  | .object [], after => '\x7b' :: '\x7d' :: after
  | .object fields, after =>
    '\x7b' :: prettyFields (depth + 1) fields (lineBreakOnto depth ('\x7d' :: after))
  | json, after => scalarOnto json after

def prettyItems (depth : Nat) : List Json → (after : List Char) → List Char
  | [], after => after
  | [item], after => lineBreakOnto depth (prettyOnto depth item after)
  | item :: next :: rest, after =>
    lineBreakOnto depth (prettyOnto depth item (',' :: prettyItems depth (next :: rest) after))

def prettyFields (depth : Nat) : List (String × Json) → (after : List Char) → List Char
  | [], after => after
  | [(name, value)], after =>
    lineBreakOnto depth (quotedOnto name (':' :: ' ' :: prettyOnto depth value after))
  | (name, value) :: next :: rest, after =>
    lineBreakOnto depth (quotedOnto name (':' :: ' ' ::
      prettyOnto depth value (',' :: prettyFields depth (next :: rest) after)))

end

def pretty (json : Json) : String := String.ofList (json.prettyOnto 0 [])

end Json

end WhereClause
