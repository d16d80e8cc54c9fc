import WhereClause.Number.Decimal
import WhereClause.Number.FloatText
import WhereClause.Time.Timestamp
import WhereClause.Uuid

/-! Values that predicates hold and statements bind.

A null keeps the type it stands for, and a list keeps the type of its elements.
`Value.render` is the text of a value as a literal; booleans, integers, decimals,
strings and lists of these read back from it.
-/

set_option autoImplicit false

namespace WhereClause

inductive ValueType where
  | bool
  | int
  | bigInt
  | float
  | decimal
  | string
  | timestamp
  | uuid
  | array
  deriving DecidableEq, Repr, Inhabited

def ValueType.name : ValueType → String
  | .bool => "bool"
  | .int => "int"
  | .bigInt => "bigint"
  | .float => "float"
  | .decimal => "decimal"
  | .string => "string"
  | .timestamp => "timestamp"
  | .uuid => "uuid"
  | .array => "array"

inductive Value where
  | null (type : ValueType)
  | bool (value : Bool)
  | int (value : Int32)
  | bigInt (value : Int64)
  | float (value : Binary64)
  | decimal (value : Decimal)
  | string (value : String)
  | timestamp (value : Timestamp)
  | uuid (value : Uuid)
  | list (type : ValueType) (items : List Value)

instance : Inhabited Value := ⟨.null .string⟩

namespace Value

def type : Value → ValueType
  | .null type => type
  | .bool _ => .bool
  | .int _ => .int
  | .bigInt _ => .bigInt
  | .float _ => .float
  | .decimal _ => .decimal
  | .string _ => .string
  | .timestamp _ => .timestamp
  | .uuid _ => .uuid
  | .list _ _ => .array

/-- A list typed by its first element; an empty list counts as a list of strings. -/
def ofItems (items : List Value) : Value :=
  .list ((items.head?.map Value.type).getD .string) items

def isNull : Value → Bool
  | .null _ => true
  | _ => false

def escapeChar (c : Char) : List Char :=
  if c = '\\' then ['\\', '\\'] else if c = '"' then ['\\', '"'] else [c]

def quotedOnto (text : String) (after : List Char) : List Char :=
  '"' :: text.toList.foldr (fun c rest => escapeChar c ++ rest) ('"' :: after)

def intChars (value : Int) : List Char :=
  if value < 0 then '-' :: Nat.toDigits 10 value.natAbs else Nat.toDigits 10 value.natAbs

mutual

def charsOnto : Value → (after : List Char) → List Char
  | .null _, after => "NULL".toList ++ after
  | .bool value, after => (if value then "true".toList else "false".toList) ++ after
  | .int value, after => intChars value.toInt ++ after
  | .bigInt value, after => intChars value.toInt ++ 'L' :: after
  | .float value, after => (FloatFormat.plain.render value).toList ++ after
  | .decimal value, after => value.chars ++ 'm' :: after
  | .string value, after => quotedOnto value after
  | .timestamp value, after => '\'' :: value.chars ' ' ++ '\'' :: after
  | .uuid value, after => '\'' :: value.chars ++ '\'' :: after
  | .list _ items, after => '[' :: itemsOnto items (']' :: after)

def itemsOnto : List Value → (after : List Char) → List Char
  | [], after => after
  | [item], after => charsOnto item after
  | item :: next :: rest, after => charsOnto item (',' :: ' ' :: itemsOnto (next :: rest) after)

end

def render (value : Value) : String := String.ofList (value.charsOnto [])

mutual

/-- Equality as the numbers see it: decimals whatever their scale, both zeros, and no
value that is not a number equals itself. -/
def agrees : Value → Value → Bool
  | .null left, .null right => left == right
  | .bool left, .bool right => left == right
  | .int left, .int right => left == right
  | .bigInt left, .bigInt right => left == right
  | .float left, .float right => left.sameNumber right
  | .decimal left, .decimal right => left.sameNumber right
  | .string left, .string right => left == right
  | .timestamp left, .timestamp right => decide (left = right)
  | .uuid left, .uuid right => decide (left = right)
  | .list leftType left, .list rightType right => leftType == rightType && agreesAll left right
  | _, _ => false

def agreesAll : List Value → List Value → Bool
  | [], [] => true
  | left :: lefts, right :: rights => agrees left right && agreesAll lefts rights
  | _, _ => false

end

end Value

end WhereClause
