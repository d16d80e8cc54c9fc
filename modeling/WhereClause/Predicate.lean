import WhereClause.Text.Split
import WhereClause.Value

/-! Predicates over one entity.

An operand is a constant, a member path of the entity, or a path of a captured
variable together with the variable's value. `Predicate.render` writes a predicate
in the notation that the reader accepts, with the entity called `x`.
-/

set_option autoImplicit false

namespace WhereClause

inductive Comparison where
  | eq
  | ne
  | lt
  | le
  | gt
  | ge
  deriving DecidableEq, Repr

namespace Comparison

def symbol : Comparison → String
  | .eq => "=="
  | .ne => "!="
  | .lt => "<"
  | .le => "<="
  | .gt => ">"
  | .ge => ">="

def sql : Comparison → String
  | .eq => "="
  | .ne => "<>"
  | .lt => "<"
  | .le => "<="
  | .gt => ">"
  | .ge => ">="

def negate : Comparison → Comparison
  | .eq => .ne
  | .ne => .eq
  | .lt => .ge
  | .le => .gt
  | .gt => .le
  | .ge => .lt

@[simp] theorem negate_negate (op : Comparison) : op.negate.negate = op := by
  cases op <;> rfl

end Comparison

inductive Word where
  | and
  | or
  deriving DecidableEq, Repr, Inhabited

def Word.sql : Word → String
  | .and => "AND"
  | .or => "OR"

abbrev MemberPath := List String

namespace MemberPath

/-- Split at every dot; segments may be empty. -/
def ofDotted (text : String) : MemberPath :=
  Text.splitOn '.' text

def dotted (path : MemberPath) : String := ".".intercalate path

def single? : MemberPath → Option String
  | [name] => some name
  | _ => none

end MemberPath

inductive Operand where
  | constant (value : Value) (type : ValueType)
  | field (path : MemberPath)
  | captured (path : MemberPath) (value : Value)

namespace Operand

def ofValue (value : Value) : Operand := .constant value value.type

def ofNull (type : ValueType) : Operand := .constant (.null type) type

def isNullLiteral : Operand → Bool
  | .constant value _ => value.isNull
  | _ => false

def entityPath? : Operand → Option MemberPath
  | .field path => some path
  | _ => none

def boundValue? : Operand → Option Value
  | .constant value _ => some value
  | .captured _ value => some value
  | .field _ => none

def render : Operand → String
  | .constant value _ => value.render
  | .field path => "x." ++ MemberPath.dotted path
  | .captured path _ => "$" ++ MemberPath.dotted path

end Operand

inductive Predicate where
  | compare (op : Comparison) (left right : Operand)
  | not (inner : Predicate)
  | and (left right : Predicate)
  | or (left right : Predicate)
  | isNull (operand : Operand)
  | isNotNull (operand : Operand)
  | member (item : Operand) (collection : List Value)
  | truth (operand : Operand)

namespace Predicate

def kind : Predicate → String
  | .compare _ _ _ => "comparison"
  | .not _ => "negation"
  | .and _ _ => "conjunction"
  | .or _ _ => "disjunction"
  | .isNull _ => "null test"
  | .isNotNull _ => "not-null test"
  | .member _ _ => "membership test"
  | .truth _ => "truth test"

def render : Predicate → String
  | .compare op left right => left.render ++ " " ++ op.symbol ++ " " ++ right.render
  | .not inner => "!(" ++ inner.render ++ ")"
  | .and left right => "(" ++ left.render ++ " && " ++ right.render ++ ")"
  | .or left right => "(" ++ left.render ++ " || " ++ right.render ++ ")"
  | .isNull operand => operand.render ++ ".is_none"
  | .isNotNull operand => operand.render ++ ".has_value"
  | .member item collection => item.render ++ " in " ++ (Value.ofItems collection).render
  | .truth operand => operand.render

def fold? (join : Predicate → Predicate → Predicate) : List Predicate → Option Predicate
  | [] => none
  | first :: rest => some (rest.foldl join first)

def all? : List Predicate → Option Predicate := fold? .and

def any? : List Predicate → Option Predicate := fold? .or

def joined? : Word → List Predicate → Option Predicate
  | .and => all?
  | .or => any?

end Predicate

def Word.predicate : Word → Predicate → Predicate → Predicate
  | .and => .and
  | .or => .or

end WhereClause
