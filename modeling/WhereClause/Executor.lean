import WhereClause.Dialect
import WhereClause.Json.Basic

/-! What the program asks of a database. -/

set_option autoImplicit false

namespace WhereClause

structure Statement where
  sql : String
  params : List Value

abbrev Row := List (String × Json)

structure Executor (m : Type → Type) where
  dialect : Dialect
  /-- Run a statement that gives rows. -/
  query : Statement → ExceptT Error m (List Row)
  /-- Run a statement that gives a single number. -/
  scalar : Statement → ExceptT Error m Int
  /-- Run a statement for its effect, and count the rows it changed. -/
  execute : Statement → ExceptT Error m Nat

end WhereClause
