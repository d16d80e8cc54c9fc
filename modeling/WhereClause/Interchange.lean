import WhereClause.Json.Reader
import WhereClause.Predicate
import WhereClause.Time.Reader

/-! Values and predicates as JSON.

A variant is an object with one field named for it, or only its name if it holds
nothing. A record is an object of its fields in any order, with unknown fields
ignored, or an array of its fields in order.

The arrays and objects of a value nest at most 127 deep, those in ignored fields aside.
The number that a decoder takes is how many of them may still be opened.
-/

set_option autoImplicit false

namespace WhereClause

namespace Json

def depthLimit : Nat := 127

/-- The name and the content of a variant; a bare name has no content. -/
def variant? : Json → Option (String × Option Json)
  | .string name => some (name, none)
  | .object [(name, content)] => some (name, some content)
  | _ => none

/-- A variant that holds nothing may be written with a null. -/
def emptyContent (content : Option Json) : Bool :=
  match content with
  | none => true
  | some .null => true
  | some _ => false

/-- The fields of a record in the order of their names. Every field must occur once. -/
def record? (names : List String) : Json → Option (List Json)
  | .object fields =>
    names.mapM fun name =>
      match fields.filter (·.1 == name) with
      | [(_, value)] => some value
      | _ => none
  | .array items => if items.length = names.length then some items else none
  | _ => none

def items? : Json → Option (List Json)
  | .array items => some items
  | _ => none

def string? : Json → Option String
  | .string text => some text
  | _ => none

def bool? : Json → Option Bool
  | .bool value => some value
  | _ => none

def integer? : Json → Option Int
  | .number (.integer value) => some value
  | _ => none

end Json

namespace ValueType

/-- Names of types in interchange; they differ from the displayed names in one case. -/
def interchangeName : ValueType → String
  | .bigInt => "big_int"
  | type => type.name

def all : List ValueType :=
  [.bool, .int, .bigInt, .float, .decimal, .string, .timestamp, .uuid, .array]

def toJson (type : ValueType) : Json := .string type.interchangeName

def ofJson? (json : Json) : Option ValueType := do
  let (name, content) ← json.variant?
  if Json.emptyContent content then all.find? (·.interchangeName == name) else none

end ValueType

namespace Value

def variantJson (name : String) (content : Json) : Json := .object [(name, content)]

mutual

def toJson : Value → Json
  | .null type => variantJson "Null" type.toJson
  | .bool value => variantJson "Bool" (.bool value)
  | .int value => variantJson "Int" (.ofInt value.toInt)
  | .bigInt value => variantJson "BigInt" (.ofInt value.toInt)
  | .float value => variantJson "Float" (.number (.float value))
  | .decimal value => variantJson "Decimal" (.string value.render)
  | .string value => variantJson "String" (.string value)
  | .timestamp value => variantJson "Timestamp" (.string value.render)
  | .uuid value => variantJson "Uuid" (.string value.render)
  | .list type items => variantJson "List" (.array [type.toJson, .array (toJsonAll items)])

def toJsonAll : List Value → List Json
  | [] => []
  | item :: rest => toJson item :: toJsonAll rest

end

def floatOfJson? : Json → Option Binary64
  | .number (.integer value) => some (.ofInt value)
  | .number (.float value) => some value
  | _ => none

/-- A decimal is a text, with or without an exponent, or a number. -/
def decimalOfJson? : Json → Option Decimal
  | .string text => (Decimal.read? text.toList).orElse fun _ => Decimal.readScientific? text.toList
  | .number (.integer value) => Decimal.ofParts? (value < 0) value.natAbs 0
  | .number (.float value) => Decimal.read? (FloatFormat.plain.render value).toList
  | _ => none

def int32OfJson? (json : Json) : Option Int32 := do
  let value ← json.integer?
  if -Int.pow 2 31 ≤ value ∧ value < Int.pow 2 31 then return Int32.ofInt value else none

def int64OfJson? (json : Json) : Option Int64 := do
  let value ← json.integer?
  if -Int.pow 2 63 ≤ value ∧ value < Int.pow 2 63 then return Int64.ofInt value else none

def scalarOfJson? (name : String) (content : Json) : Option Value :=
  match name with
  | "Null" => (ValueType.ofJson? content).map .null
  | "Bool" => content.bool?.map .bool
  | "Int" => (int32OfJson? content).map .int
  | "BigInt" => (int64OfJson? content).map .bigInt
  | "Float" => (floatOfJson? content).map .float
  | "Decimal" => (decimalOfJson? content).map .decimal
  | "String" => content.string?.map .string
  | "Timestamp" => (content.string?.bind fun text => Timestamp.read? text.toList).map .timestamp
  | "Uuid" => (content.string?.bind Uuid.read?).map .uuid
  | _ => none

mutual

def ofJson? : Json → Option Value
  | .object [("List", .array [type, .array items])] => do
    return .list (← ValueType.ofJson? type) (← ofJsonAll? items)
  | .object [(name, content)] => scalarOfJson? name content
  | _ => none

def ofJsonAll? : List Json → Option (List Value)
  | [] => some []
  | item :: rest => do return (← ofJson? item) :: (← ofJsonAll? rest)

end

def read? (text : String) : Option Value := do
  let json ← Json.read? text
  if json.within Json.depthLimit then ofJson? json else none

end Value

namespace Comparison

def interchangeName : Comparison → String
  | .eq => "Eq"
  | .ne => "Ne"
  | .lt => "Lt"
  | .le => "Le"
  | .gt => "Gt"
  | .ge => "Ge"

def all : List Comparison := [.eq, .ne, .lt, .le, .gt, .ge]

def toJson (op : Comparison) : Json := .string op.interchangeName

def ofJson? (json : Json) : Option Comparison := do
  let (name, content) ← json.variant?
  if Json.emptyContent content then all.find? (·.interchangeName == name) else none

end Comparison

namespace Operand

def toJson : Operand → Json
  | .constant value type =>
    Value.variantJson "Constant" (.object [("value", value.toJson), ("ty", type.toJson)])
  | .field path =>
    Value.variantJson "FieldRef"
      (.object [("path", .array (path.map .string)), ("owner", .string "Entity")])
  | .captured path value =>
    Value.variantJson "FieldRef"
      (.object [("path", .array (path.map .string)),
        ("owner", Value.variantJson "Captured" value.toJson)])

def pathOfJson? (json : Json) : Option MemberPath := do
  (← json.items?).mapM Json.string?

/-- The owner of a path decides between an entity member and a captured variable. -/
def ownedPath? (path : MemberPath) (owner : Json) : Option Operand := do
  match ← owner.variant? with
  | ("Entity", content) => if Json.emptyContent content then return .field path else none
  | ("Captured", some content) => return .captured path (← Value.ofJson? content)
  | _ => none

/-- The variant and its record take two levels. -/
def ofJson? : (depth : Nat) → Json → Option Operand
  | depth + 2, .object [("Constant", content)] => do
    match ← content.record? ["value", "ty"] with
    | [value, type] =>
      if value.within depth && type.within depth then
        return .constant (← Value.ofJson? value) (← ValueType.ofJson? type)
      else none
    | _ => none
  | depth + 2, .object [("FieldRef", content)] => do
    match ← content.record? ["path", "owner"] with
    | [path, owner] =>
      if path.within depth && owner.within depth then ownedPath? (← pathOfJson? path) owner
      else none
    | _ => none
  | _, _ => none

end Operand

namespace Predicate

def toJson : Predicate → Json
  | .compare op left right =>
    Value.variantJson "Compare"
      (.object [("op", op.toJson), ("left", left.toJson), ("right", right.toJson)])
  | .not inner => Value.variantJson "Not" inner.toJson
  | .and left right => Value.variantJson "And" (.array [left.toJson, right.toJson])
  | .or left right => Value.variantJson "Or" (.array [left.toJson, right.toJson])
  | .isNull operand => Value.variantJson "IsNull" operand.toJson
  | .isNotNull operand => Value.variantJson "IsNotNull" operand.toJson
  | .member item collection =>
    Value.variantJson "Membership"
      (.object [("item", item.toJson), ("collection", .array (Value.toJsonAll collection))])
  | .truth operand => Value.variantJson "Truth" operand.toJson

def leafOfJson? : (depth : Nat) → (name : String) → Json → Option Predicate
  | depth + 1, "Compare", content => do
    match ← content.record? ["op", "left", "right"] with
    | [op, left, right] =>
      if op.within depth then
        return .compare (← Comparison.ofJson? op) (← Operand.ofJson? depth left)
          (← Operand.ofJson? depth right)
      else none
    | _ => none
  | depth, "IsNull", content => (Operand.ofJson? depth content).map .isNull
  | depth, "IsNotNull", content => (Operand.ofJson? depth content).map .isNotNull
  | depth + 1, "Membership", content => do
    match ← content.record? ["item", "collection"] with
    | [item, collection] =>
      if collection.within depth then
        return .member (← Operand.ofJson? depth item) (← Value.ofJsonAll? (← collection.items?))
      else none
    | _ => none
  | depth, "Truth", content => (Operand.ofJson? depth content).map .truth
  | _, _, _ => none

def ofJson? : (depth : Nat) → Json → Option Predicate
  | depth + 1, .object [("Not", inner)] => do return .not (← ofJson? depth inner)
  | depth + 2, .object [("And", .array [left, right])] => do
    return .and (← ofJson? depth left) (← ofJson? depth right)
  | depth + 2, .object [("Or", .array [left, right])] => do
    return .or (← ofJson? depth left) (← ofJson? depth right)
  | depth + 1, .object [(name, content)] => leafOfJson? depth name content
  | _, _ => none

def read? (text : String) : Option Predicate :=
  (Json.read? text).bind (ofJson? Json.depthLimit)

end Predicate

end WhereClause
