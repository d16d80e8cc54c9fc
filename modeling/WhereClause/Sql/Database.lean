import WhereClause.Executor
import WhereClause.Sql.Cell
import WhereClause.Sql.Limits
import WhereClause.Sql.Plan
import WhereClause.Sql.Reader

/-! A database in memory.

Names of tables and columns are compared without regard to case. Rows stay in the order in
which they were inserted, and each has a number that serves as a column of its own. A
catalogue of the tables can be read like a table, but not changed.
-/

set_option autoImplicit false

namespace WhereClause.Sql

structure Column where
  name : String
  type : ColumnType
  deriving DecidableEq, Repr

structure Record where
  number : Int
  cells : List Cell
  deriving DecidableEq, Repr

structure Table where
  name : String
  columns : List Column
  records : List Record
  deriving DecidableEq, Repr

inductive Access where
  | full
  | readOnly
  /-- The file holds something else. -/
  | foreign
  deriving DecidableEq, Repr

structure Database where
  tables : List Table := []
  access : Access := .full
  deriving DecidableEq, Repr

inductive Refusal where
  | malformed
  | excess (bound : Excess)
  | noTable (name : String)
  | noColumn (name : String)
  | width (table : String) (columns values : Nat)
  | readOnly
  | foreign
  /-- The catalogue is only changed by making tables. -/
  | fixed (table : String)
  deriving DecidableEq, Repr

def Refusal.message : Refusal → String
  | .malformed => "syntax error"
  | .excess bound => bound.message
  | .noTable name => "no such table: " ++ name
  | .noColumn name => "no such column: " ++ name
  | .width table columns values =>
    "table " ++ table ++ " has " ++ toString columns ++ " columns but " ++ toString values
      ++ " values were supplied"
  | .readOnly => "attempt to write a readonly database"
  | .foreign => "file is not a database"
  | .fixed table => "table " ++ table ++ " may not be modified"

def Refusal.code : Refusal → Nat
  | .readOnly => 8
  | .foreign => 26
  | _ => 1

def Refusal.error (refusal : Refusal) : Error :=
  .execution ("error returned from database: (code: " ++ toString refusal.code ++ ") "
    ++ refusal.message)

def sameName (left right : String) : Bool := Text.asciiLowercase left == Text.asciiLowercase right

def isRowNumber (name : String) : Bool :=
  ["rowid", "oid", "_rowid_"].contains (Text.asciiLowercase name)

namespace Table

def hasColumn (table : Table) (name : String) : Bool :=
  table.columns.any (fun column => sameName column.name name) || isRowNumber name

def datum (table : Table) (record : Record) (name : String) : Datum :=
  match (table.columns.zip record.cells).find? fun (column, _) => sameName column.name name with
  | some (column, cell) => { cell, type := some column.type }
  | none => { cell := .integer record.number, type := some .integer }

def model (table : Table) (params : Array Cell) (record : Record) : Model Datum where
  column := table.datum record
  param index := { cell := params.getD index .null, type := none }
  number value := { cell := .integer value, type := none }
  compare op left right := .ofOption ((left.compare? right).map (holds op))
  isNull datum := datum.cell.isNull
  elements _ := []

/-- Whether a row meets a condition; unknown is not enough. -/
def selects (table : Table) (params : Array Cell) (condition : Formula) (record : Record) : Bool :=
  condition.eval (table.model params record) == .yes

/-- The columns as a search sees them; the row number counts as a number. -/
def layout (table : Table) : Plan.Layout where
  place name := table.columns.findIdx? fun column => sameName column.name name
  isNumeric name := !table.columns.any fun column =>
    sameName column.name name && column.type = .text

def visit (table : Table) (params : Array Cell) (condition : Formula) : List Record :=
  let passes := Plan.passes table.layout condition.size condition.conjuncts
  Plan.arrange (passes.map fun clause record =>
      clause.all fun formula => table.selects params formula record)
    (table.records.filter (table.selects params condition))

def row (table : Table) (record : Record) : Row :=
  (table.columns.zip record.cells).map fun (column, cell) => (column.name, cell.report column.type)

def nextNumber (table : Table) : Int :=
  table.records.foldl (fun greatest record => max greatest record.number) 0 + 1

end Table

def Table.definition (table : Table) : String :=
  let quote := quoteWith '"' '"'
  let columns := table.columns.map fun column => quote column.name ++ " " ++ column.type.name
  "CREATE TABLE " ++ quote table.name ++ " (" ++ ", ".intercalate columns ++ ")"

def catalogueOf (name : String) (tables : List Table) : Table where
  name
  columns := [⟨"type", .text⟩, ⟨"name", .text⟩, ⟨"tbl_name", .text⟩, ⟨"rootpage", .integer⟩,
    ⟨"sql", .text⟩]
  records := tables.zipIdx.map fun (table, index) => {
    number := index + 1
    cells := [.text "table", .text table.name, .text table.name, .integer (index + 2),
      .text table.definition] }

namespace Database

/-- The catalogue that a name stands for: that of the database, or that of the temporary
tables, of which there are none. -/
def catalogue? (database : Database) (name : String) : Option Table :=
  match Text.asciiLowercase name with
  | "sqlite_master" | "sqlite_schema" => some (catalogueOf "sqlite_master" database.tables)
  | "sqlite_temp_master" | "sqlite_temp_schema" => some (catalogueOf "sqlite_temp_master" [])
  | _ => none

def table? (database : Database) (name : String) : Option Table :=
  (database.tables.find? fun table => sameName table.name name).or (database.catalogue? name)

def fixed? (database : Database) (name : String) : Option String :=
  (database.catalogue? name).map Table.name

def replace (database : Database) (changed : Table) : Database :=
  let tables := database.tables.map fun table =>
    if sameName table.name changed.name then changed else table
  { database with tables }

/-- The cells of parameters; the first that cannot be sent is reported by its place. -/
def bindFrom : (index : Nat) → List Value → Except Error (List Cell)
  | _, [] => .ok []
  | index, value :: rest =>
    match Cell.ofValue value with
    | .error issue => .error (.binding index issue)
    | .ok cell => do return cell :: (← bindFrom (index + 1) rest)

/-- The first bound that a statement exceeds. A deletion takes one place more in front of
its condition than a selection. -/
def excess? (tokens : List Token) : Option Excess :=
  let condition := (tokens.dropWhile (· != .word "WHERE")).drop 1
  let base := if tokens.head? == some (.word "DELETE") then 7 else 6
  let isParam : Token → Bool
    | .param _ => true
    | _ => false
  if Limits.greatestParameterCount < tokens.countP isParam then some .parameters
  else Limits.excess? base condition

def prepare (database : Database) (sql : String) : Except Error (Sql.Statement × Table) := do
  let tokens := (tokens (.native .sqlite) sql).getD []
  if let some bound := excess? tokens then throw (Refusal.excess bound).error
  match readStatement tokens with
  | none => throw Refusal.malformed.error
  | some statement =>
    if database.access = .foreign then throw Refusal.foreign.error
    match database.table? statement.table with
    | none => throw (Refusal.noTable statement.table).error
    | some table =>
      if let (.delete, some name) := (statement.action, database.fixed? statement.table) then
        throw (Refusal.fixed name).error
      match statement.condition.columns.find? fun name => !table.hasColumn name with
      | some name => throw (Refusal.noColumn name).error
      | none => return (statement, table)

def selection (database : Database) (statement : WhereClause.Statement) :
    Except Error (Table × Array Cell × Formula) := do
  let params ← bindFrom 0 statement.params
  let (prepared, table) ← database.prepare statement.sql
  return (table, params.toArray, prepared.condition)

def query (database : Database) (statement : WhereClause.Statement) : Except Error (List Row) := do
  let (table, params, condition) ← database.selection statement
  return (table.visit params condition).map table.row

def count (database : Database) (statement : WhereClause.Statement) : Except Error Int := do
  let (table, params, condition) ← database.selection statement
  return table.records.countP (table.selects params condition)

def delete (database : Database) (statement : WhereClause.Statement) :
    Except Error (Nat × Database) := do
  let (table, params, condition) ← database.selection statement
  if database.access = .readOnly then throw Refusal.readOnly.error
  let (selected, others) := table.records.partition (table.selects params condition)
  return (selected.length, database.replace { table with records := others })

def insert (database : Database) (name : String) (values : List Value) : Except Error Database := do
  let cells ← bindFrom 0 values
  match database.table? name with
  | none => throw (Refusal.noTable name).error
  | some table =>
    if let some name := database.fixed? name then throw (Refusal.fixed name).error
    if cells.isEmpty then throw Refusal.malformed.error
    if cells.length ≠ table.columns.length then
      throw (Refusal.width table.name table.columns.length cells.length).error
    let stored := (table.columns.zip cells).map fun (column, cell) => cell.stored column.type
    let added : Record := { number := table.nextNumber, cells := stored }
    return database.replace { table with records := table.records ++ [added] }

def executor : Executor (StateM Database) where
  dialect := .sqlite
  query statement := do
    let database ← get
    MonadExcept.ofExcept (database.query statement)
  scalar statement := do
    let database ← get
    MonadExcept.ofExcept (database.count statement)
  execute statement := do
    let database ← get
    let (deleted, changed) ← MonadExcept.ofExcept (database.delete statement)
    set changed
    return deleted

end Database

end WhereClause.Sql
