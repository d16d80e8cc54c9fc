import WhereClause.Sql.Truth
import WhereClause.Predicate

/-! Conditions as the database understands them, and their meaning.

The meaning is given for any kind of value that can be compared: the columns of a row, the
parameters of a statement, and numbers.
-/

set_option autoImplicit false

namespace WhereClause.Sql

inductive Term where
  | column (name : String)
  | param (index : Nat)
  | number (value : Nat)
  deriving DecidableEq, Repr

inductive Formula where
  | compare (op : Comparison) (left right : Term)
  | nullTest (present : Bool) (tested : Term)
  | among (item : Term) (elements : List Term)
  /-- Membership in the collection that one parameter holds. -/
  | within (item : Term) (collection : Nat)
  | not (inner : Formula)
  | and (left right : Formula)
  | or (left right : Formula)
  deriving DecidableEq, Repr

def Term.columns : Term → List String
  | .column name => [name]
  | _ => []

def Formula.columns : Formula → List String
  | .compare _ left right => left.columns ++ right.columns
  | .nullTest _ tested => tested.columns
  | .among item elements => item.columns ++ elements.flatMap Term.columns
  | .within item _ => item.columns
  | .not inner => inner.columns
  | .and left right => left.columns ++ right.columns
  | .or left right => left.columns ++ right.columns

structure Model (α : Type) where
  column : String → α
  param : Nat → α
  number : Nat → α
  compare : Comparison → α → α → Truth
  isNull : α → Bool
  elements : α → List α

variable {α : Type}

def Term.eval (model : Model α) : Term → α
  | .column name => model.column name
  | .param index => model.param index
  | .number value => model.number value

def Model.among (model : Model α) (item : α) (elements : List α) : Truth :=
  .any (elements.map (model.compare .eq item))

def Formula.eval (model : Model α) : Formula → Truth
  | .compare op left right => model.compare op (left.eval model) (right.eval model)
  | .nullTest present tested => .ofBool (model.isNull (tested.eval model) != present)
  | .among item elements => model.among (item.eval model) (elements.map (Term.eval model))
  | .within item collection =>
    model.among (item.eval model) (model.elements (model.param collection))
  | .not inner => (inner.eval model).not
  | .and left right => (left.eval model).and (right.eval model)
  | .or left right => (left.eval model).or (right.eval model)

end WhereClause.Sql
