import WhereClause.Error
import WhereClause.Text.Order

/-! SQL dialects: how they quote names, write placeholders and test membership. -/

set_option autoImplicit false

namespace WhereClause

/-- The spellings in which dialects differ. A membership form gives the text between the
item and the single parameter, and the text after it. -/
structure SqlStyle where
  name : String
  quote : String → String
  /-- The placeholder of a parameter, counted from one. -/
  placeholder : Nat → String
  arrayMembership : Option (String × String) := none
  tableMembership : Option (String × String) := none

/-- Double every closing quote, as it stands inside a quoted name. -/
def escapeClosing (close : Char) (name : List Char) : List Char :=
  name.flatMap fun c => if c = close then [close, c] else [c]

def quoteWith (openQuote closeQuote : Char) (name : String) : String :=
  String.ofList (openQuote :: escapeClosing closeQuote name.toList ++ [closeQuote])

inductive Dialect where
  | sqlServer
  | sqlite
  | postgresql
  | mySql
  | oracle
  deriving DecidableEq, Repr

instance : Inhabited Dialect := ⟨.sqlite⟩

namespace Dialect

def all : List Dialect := [.sqlServer, .sqlite, .postgresql, .mySql, .oracle]

def name : Dialect → String
  | .sqlServer => "sqlserver"
  | .sqlite => "sqlite"
  | .postgresql => "postgresql"
  | .mySql => "mysql"
  | .oracle => "oracle"

def openQuote : Dialect → Char
  | .sqlServer => '['
  | .sqlite => '`'
  | .mySql => '`'
  | .postgresql => '"'
  | .oracle => '"'

def closeQuote : Dialect → Char
  | .sqlServer => ']'
  | .sqlite => '`'
  | .mySql => '`'
  | .postgresql => '"'
  | .oracle => '"'

def placeholder : Dialect → Nat → String
  | .sqlServer, index => "@p" ++ toString index
  | .sqlite, _ => "?"
  | .mySql, _ => "?"
  | .postgresql, index => "$" ++ toString index
  | .oracle, index => ":" ++ toString index

def style (dialect : Dialect) : SqlStyle where
  name := dialect.name
  quote := quoteWith dialect.openQuote dialect.closeQuote
  placeholder := dialect.placeholder
  arrayMembership :=
    match dialect with
    | .postgresql => some (" = ANY(", ")")
    | _ => none
  tableMembership :=
    match dialect with
    | .sqlServer => some (" IN (SELECT V FROM ", ")")
    | _ => none

def ofName (text : String) : Except Error Dialect :=
  match Text.asciiLowercase text with
  | "sqlserver" => .ok .sqlServer
  | "mssql" => .ok .sqlServer
  | "sqlite" => .ok .sqlite
  | "postgresql" => .ok .postgresql
  | "postgres" => .ok .postgresql
  | "pg" => .ok .postgresql
  | "mysql" => .ok .mySql
  | "oracle" => .ok .oracle
  | other => .error (.config (.unknownDialect other))

/-- The dialect of a database address, told by the scheme in front of its first colon. -/
def ofUrl (url : String) : Except Error Dialect :=
  match String.ofList (url.toList.takeWhile (· != ':')) with
  | "postgres" => .ok .postgresql
  | "postgresql" => .ok .postgresql
  | "mysql" => .ok .mySql
  | "mariadb" => .ok .mySql
  | "sqlite" => .ok .sqlite
  | scheme => .error (.unsupportedScheme scheme)

end Dialect

inductive Strategy where
  | expand
  | nativeArray
  | tableValued
  deriving DecidableEq, Repr

instance : Inhabited Strategy := ⟨.expand⟩

namespace Strategy

def all : List Strategy := [.expand, .nativeArray, .tableValued]

def name : Strategy → String
  | .expand => "expand"
  | .nativeArray => "native_array"
  | .tableValued => "table_valued"

/-- Read a strategy's name or its short name, in any case and with either kind of dash. -/
def ofName (text : String) : Except Error Strategy :=
  let lowered :=
    String.ofList ((Text.asciiLowercase text).toList.map fun c => if c = '-' then '_' else c)
  match lowered with
  | "expand" => .ok .expand
  | "inline" => .ok .expand
  | "native_array" => .ok .nativeArray
  | "array" => .ok .nativeArray
  | "table_valued" => .ok .tableValued
  | "tvp" => .ok .tableValued
  | other => .error (.config (.unknownStrategy other))

def form (strategy : Strategy) (style : SqlStyle) : Except Error (Option (String × String)) :=
  match strategy with
  | .expand => .ok none
  | .nativeArray =>
    match style.arrayMembership with
    | some form => .ok (some form)
    | none => .error (.unsupportedDialect style.name .nativeArrays)
  | .tableValued =>
    match style.tableMembership with
    | some form => .ok (some form)
    | none => .error (.unsupportedDialect style.name .tableValued)

end Strategy

def Word.ofName (text : String) : Except Error Word :=
  match Text.asciiLowercase text with
  | "and" => .ok .and
  | "&&" => .ok .and
  | "or" => .ok .or
  | "||" => .ok .or
  | other => .error (.config (.unknownWord other))

end WhereClause
