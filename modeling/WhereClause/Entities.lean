import WhereClause.Executor
import WhereClause.Mapping

/-! Rows of entities: fetching, counting and deleting by predicate.

Every call compiles its predicates first, then looks up the table, and only then runs a
single statement: a head, the quoted table and the condition.
-/

set_option autoImplicit false

namespace WhereClause

structure Entities (m : Type → Type) where
  executor : Executor m
  schema : Schema
  membership : Strategy := .expand

namespace Entities

inductive Head where
  | rows
  | count
  | delete
  deriving DecidableEq, Repr

def Head.sql : Head → String
  | .rows => "SELECT * FROM"
  | .count => "SELECT COUNT(*) FROM"
  | .delete => "DELETE FROM"

variable {m : Type → Type}

def style (entities : Entities m) : SqlStyle := entities.executor.dialect.style

def mapping (entities : Entities m) : Mapping :=
  { Mapping.ofSchema entities.style entities.schema with membership := entities.membership }

def statement (entities : Entities m) (head : Head) (entity : String) (condition : Condition) :
    Except Error Statement := do
  let table ← entities.schema.tableName entity
  return {
    sql := head.sql ++ " " ++ entities.style.quote table ++ " " ++ condition.native entities.style
    params := condition.params }

def statementFor (entities : Entities m) (head : Head) (entity : String) (predicate : Predicate) :
    Except Error Statement := do
  entities.statement head entity (← entities.mapping.condition entity predicate)

variable [Monad m]

def fetch (entities : Entities m) (entity : String) (predicate : Predicate) :
    ExceptT Error m (List Row) := do
  let statement ← entities.statementFor .rows entity predicate
  entities.executor.query statement

def fetchAny (entities : Entities m) (entity : String) (word : Word)
    (predicates : List Predicate) : ExceptT Error m (List Row) := do
  let condition ← entities.mapping.conditionAll entity word predicates
  let statement ← entities.statement .rows entity condition
  entities.executor.query statement

def first (entities : Entities m) (entity : String) (predicate : Predicate) :
    ExceptT Error m Row := do
  match ← entities.fetch entity predicate with
  | [] => throw .notFound
  | row :: _ => return row

def single (entities : Entities m) (entity : String) (predicate : Predicate) :
    ExceptT Error m Row := do
  match ← entities.fetch entity predicate with
  | [] => throw .notFound
  | [row] => return row
  | rows => throw (.notSingle rows.length)

def count (entities : Entities m) (entity : String) (predicate : Predicate) :
    ExceptT Error m Int := do
  let statement ← entities.statementFor .count entity predicate
  entities.executor.scalar statement

def existsRow (entities : Entities m) (entity : String) (predicate : Predicate) :
    ExceptT Error m Bool := do
  return 0 < (← entities.count entity predicate)

def delete (entities : Entities m) (entity : String) (predicate : Predicate) :
    ExceptT Error m Nat := do
  let statement ← entities.statementFor .delete entity predicate
  entities.executor.execute statement

end Entities

end WhereClause
