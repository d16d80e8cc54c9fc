import WhereClause.Predicate
import WhereClause.Text.Escaped

/-! The structure of predicates, spelled out over several lines.

Every part stands on a line of its own, indented by its depth and closed by a comma.
-/

set_option autoImplicit false

namespace WhereClause

inductive Outline where
  | leaf (text : String)
  | tuple (name : String) (items : List Outline)
  | record (name : String) (fields : List (String × Outline))
  | list (items : List Outline)

namespace Outline

def lineBreakOnto (depth : Nat) (after : List Char) : List Char :=
  '\n' :: List.replicate (4 * depth) ' ' ++ after

mutual

def charsOnto (depth : Nat) : Outline → (after : List Char) → List Char
  | .leaf text, after => text.toList ++ after
  | .tuple name items, after =>
    name.toList ++ '(' :: itemsOnto (depth + 1) items (lineBreakOnto depth (')' :: after))
  | .record name fields, after =>
    name.toList ++ ' ' :: '\x7b' ::
      fieldsOnto (depth + 1) fields (lineBreakOnto depth ('\x7d' :: after))
  | .list [], after => '[' :: ']' :: after
  | .list (item :: rest), after =>
    '[' :: itemsOnto (depth + 1) (item :: rest) (lineBreakOnto depth (']' :: after))

def itemsOnto (depth : Nat) : List Outline → (after : List Char) → List Char
  | [], after => after
  | item :: rest, after =>
    lineBreakOnto depth (charsOnto depth item (',' :: itemsOnto depth rest after))

def fieldsOnto (depth : Nat) : List (String × Outline) → (after : List Char) → List Char
  | [], after => after
  | (name, value) :: rest, after =>
    lineBreakOnto depth (name.toList ++ ':' :: ' ' ::
      charsOnto depth value (',' :: fieldsOnto depth rest after))

end

def render (outline : Outline) : String := String.ofList (outline.charsOnto 0 [])

end Outline

def ValueType.label : ValueType → String
  | .bool => "Bool"
  | .int => "Int"
  | .bigInt => "BigInt"
  | .float => "Float"
  | .decimal => "Decimal"
  | .string => "String"
  | .timestamp => "Timestamp"
  | .uuid => "Uuid"
  | .array => "Array"

def ValueType.outline (type : ValueType) : Outline := .leaf type.label

mutual

def Value.outline : Value → Outline
  | .null type => .tuple "Null" [type.outline]
  | .bool value => .tuple "Bool" [.leaf (if value then "true" else "false")]
  | .int value => .tuple "Int" [.leaf (toString value.toInt)]
  | .bigInt value => .tuple "BigInt" [.leaf (toString value.toInt)]
  | .float value => .tuple "Float" [.leaf (FloatFormat.structural.render value)]
  | .decimal value => .tuple "Decimal" [.leaf value.render]
  | .string value => .tuple "String" [.leaf (Text.visible value)]
  | .timestamp value => .tuple "Timestamp" [.leaf value.render]
  | .uuid value => .tuple "Uuid" [.leaf value.render]
  | .list type items => .tuple "List" [type.outline, .list (Value.outlineAll items)]

def Value.outlineAll : List Value → List Outline
  | [] => []
  | item :: rest => item.outline :: Value.outlineAll rest

end

def Comparison.label : Comparison → String
  | .eq => "Eq"
  | .ne => "Ne"
  | .lt => "Lt"
  | .le => "Le"
  | .gt => "Gt"
  | .ge => "Ge"

def MemberPath.outline (path : MemberPath) : Outline :=
  .tuple "MemberPath" [.list (path.map fun segment => .leaf (Text.visible segment))]

def Operand.outline : Operand → Outline
  | .constant value type => .record "Constant" [("value", value.outline), ("ty", type.outline)]
  | .field path =>
    .record "FieldRef" [("path", MemberPath.outline path), ("owner", .leaf "Entity")]
  | .captured path value =>
    .record "FieldRef"
      [("path", MemberPath.outline path), ("owner", .tuple "Captured" [value.outline])]

def Predicate.outline : Predicate → Outline
  | .compare op left right =>
    .record "Compare" [("op", .leaf op.label), ("left", left.outline), ("right", right.outline)]
  | .not inner => .tuple "Not" [inner.outline]
  | .and left right => .tuple "And" [left.outline, right.outline]
  | .or left right => .tuple "Or" [left.outline, right.outline]
  | .isNull operand => .tuple "IsNull" [operand.outline]
  | .isNotNull operand => .tuple "IsNotNull" [operand.outline]
  | .member item collection =>
    .record "Membership"
      [("item", item.outline), ("collection", .list (Value.outlineAll collection))]
  | .truth operand => .tuple "Truth" [operand.outline]

end WhereClause
