/-! Truth values of conditions: true, false and unknown.

Conjunction takes the lesser of two values and disjunction the greater, with unknown
between false and true; negation exchanges the ends.
-/

set_option autoImplicit false

namespace WhereClause.Sql

inductive Truth where
  | no
  | unknown
  | yes
  deriving DecidableEq, Repr

namespace Truth

def ofBool : Bool → Truth
  | true => .yes
  | false => .no

def ofOption : Option Bool → Truth
  | some value => ofBool value
  | none => .unknown

def not : Truth → Truth
  | .no => .yes
  | .unknown => .unknown
  | .yes => .no

def and : Truth → Truth → Truth
  | .no, _ => .no
  | _, .no => .no
  | .yes, .yes => .yes
  | _, _ => .unknown

def or : Truth → Truth → Truth
  | .yes, _ => .yes
  | _, .yes => .yes
  | .no, .no => .no
  | _, _ => .unknown

/-- Disjunction of all values; there is no reason to hold an empty one true. -/
def any (values : List Truth) : Truth := values.foldr or .no

@[simp] theorem not_not (value : Truth) : value.not.not = value := by
  cases value <;> rfl

theorem not_and (left right : Truth) : (left.and right).not = left.not.or right.not := by
  cases left <;> cases right <;> rfl

theorem not_or (left right : Truth) : (left.or right).not = left.not.and right.not := by
  cases left <;> cases right <;> rfl

end Truth

end WhereClause.Sql
