import WhereClause.Cli.Arguments
import WhereClause.Cli.Host
import WhereClause.Cli.Table
import WhereClause.Config
import WhereClause.Entities
import WhereClause.Inference
import WhereClause.Interchange
import WhereClause.Outline
import WhereClause.Reader.Predicate

/-! Commands: what they do and what they print. -/

set_option autoImplicit false

namespace WhereClause.Cli

inductive Failure where
  | message (text : String)
  /-- The reading of a predicate broke off without a message. -/
  | aborted
  deriving DecidableEq, Repr

namespace Failure

def ofError : Error → Failure
  | .bareCall => .aborted
  | error => .message error.chain

def during (activity : String) (error : Error) : Failure :=
  match ofError error with
  | .message text => .message (activity ++ ": " ++ text)
  | .aborted => .aborted

def exitCode : Failure → Nat
  | .message _ => 1
  | .aborted => 101

end Failure

/-- Lines printed so far, kept when a command fails. -/
abbrev Session (m : Type → Type) := ExceptT Failure (StateT (List String) m)

def readVariables : Variables → List String → Except Failure Variables
  | scope, [] => .ok scope
  | scope, text :: rest =>
    let name := text.toList.takeWhile (· != '=')
    match text.toList.dropWhile (· != '=') with
    | [] => .error (.message ("invalid --var '" ++ text ++ "': expected NAME=LITERAL"))
    | _ :: literal =>
      let name := String.ofList ((Text.trim name).dropWhile (· == '$'))
      match readLiteral (String.ofList literal) with
      | .error error => .error (.during ("value of $" ++ name) error)
      | .ok value => readVariables (scope.insert name value) rest

def Query.read (query : Query) : Except Failure (List Predicate) := do
  let scope ← readVariables .empty query.bindings
  query.predicates.mapM fun text =>
    (readPredicate text scope).mapError (.during ("parsing '" ++ text ++ "'"))

def Query.readJoined (query : Query) : Except Failure Predicate := do
  match Predicate.joined? query.word (← query.read) with
  | some predicate => return predicate
  | none => throw (.message "no predicate given")

def Query.condition (query : Query) (config : Config) (dialect : Dialect) (schema : Schema) :
    Except Failure Condition := do
  let predicates ← query.read
  let mapping := { Mapping.ofSchema dialect.style schema with membership := config.membership }
  (mapping.conditionAll query.entity query.word predicates).mapError .ofError

def paramLines (params : List Value) : List String :=
  if params.isEmpty then ["(no parameters)"]
  else
    params.zipIdx.map fun (value, index) =>
      "  @" ++ toString index ++ " " ++ value.render ++ " (" ++ value.type.name ++ ")"

def rowsJson (rows : List Row) : Json :=
  .array (rows.map fun row => .object (Text.sortByName row))

def rowLines (format : OutputFormat) (rows : List Row) : List String :=
  if rows.isEmpty then ["(no results)"]
  else
    match format with
    | .json => [(rowsJson rows).pretty]
    | .table => tableLines rows ++ ["", toString rows.length ++ " row(s) returned"]

def Options.override (options : Options) (host : Option String) (config : Config) : Config :=
  { config with
    dialect := options.dialect.getD config.dialect
    membership := options.membership.getD config.membership
    databaseUrl := (options.databaseUrl.orElse fun _ => host).orElse fun _ => config.databaseUrl }

section

variable {m : Type → Type} [Monad m]

def print (lines : List String) : Session m Unit := modify (· ++ lines)

def attempt {α : Type} (failure : Error → Failure) (action : ExceptT Error m α) : Session m α := do
  match ← ExceptT.lift (StateT.lift action.run) with
  | .ok value => return value
  | .error error => throw (failure error)

/-- The configured schema. An entity that it lacks is inferred from the query. -/
def schemaFor (host : Host m) (config : Config) (query : Query) : Session m Schema := do
  let schema ← attempt (.during "building schema") (config.schema host.files .builtins)
  if schema.containsEntity query.entity then return schema
  let predicates ← query.read
  let inferred := EntityDef.ofPredicates query.entity predicates
  let extended := { config with entities := config.entities ++ [inferred] }
  attempt .ofError (extended.schema host.files .builtins)

def connect (host : Host m) (config : Config) : Session m (Executor m) := do
  match config.databaseUrl with
  | none =>
    throw (.message ("no database URL: pass --database-url, set PREDSQL_DATABASE_URL "
      ++ "or add database_url to the config"))
  | some url =>
    match Dialect.ofUrl url with
    | .error error => throw (.ofError error)
    | .ok dialect => attempt .ofError (host.openDatabase dialect url)

def entitiesFor (host : Host m) (config : Config) (query : Query) : Session m (Entities m) := do
  let executor ← connect host config
  let schema ← schemaFor host config query
  return { executor, schema, membership := config.membership }

def runTranslate (host : Host m) (format : OutputFormat) (config : Config) (query : Query)
    (native : Bool) : Session m Unit := do
  let schema ← schemaFor host config query
  let condition ← query.condition config config.dialect schema
  let sql := if native then condition.native config.dialect.style else condition.sql
  match format with
  | .json =>
    let json := Json.object
      [("params", .array (condition.params.map Value.toJson)), ("sql", .string sql)]
    print [json.pretty]
  | .table => print (sql :: paramLines condition.params)

def explainDialect (config : Config) (schema : Schema) (query : Query) (dialect : Dialect) : String :=
  let text :=
    match query.condition config dialect schema with
    | .ok condition => condition.native dialect.style
    | .error (.message text) => text
    | .error .aborted => ""
  "  " ++ padded 10 dialect.name ++ " " ++ text

def runExplain (host : Host m) (config : Config) (query : Query) : Session m Unit := do
  let schema ← schemaFor host config query
  print ["Parsed Structure:"]
  let predicates ← query.read
  print (predicates.flatMap fun predicate => ["  " ++ predicate.render, predicate.outline.render])
  print ("" :: "Generated SQL:" :: Dialect.all.map (explainDialect config schema query))

def dialectLine (config : Config) (dialect : Dialect) : String :=
  (if dialect = config.dialect then "*" else " ") ++ " " ++ padded 10 dialect.name ++ " "
    ++ dialect.style.quote "column" ++ "  " ++ dialect.placeholder 1

def runCommand (host : Host m) (format : OutputFormat) (config : Config) :
    Command → Session m Unit
  | .translate query native => runTranslate host format config query native
  | .explain query => runExplain host config query
  | .dialects => print (Dialect.all.map (dialectLine config))
  | .fetch query => do
    let entities ← entitiesFor host config query
    let predicates ← query.read
    let rows ← attempt .ofError (entities.fetchAny query.entity query.word predicates)
    print (rowLines format rows)
  | .count query => do
    let entities ← entitiesFor host config query
    let predicate ← query.readJoined
    let count ← attempt .ofError (entities.count query.entity predicate)
    print [toString count]
  | .existence query => do
    let entities ← entitiesFor host config query
    let predicate ← query.readJoined
    let found ← attempt .ofError (entities.existsRow query.entity predicate)
    print [if found then "true" else "false"]
  | .delete query => do
    let entities ← entitiesFor host config query
    let predicate ← query.readJoined
    let deleted ← attempt .ofError (entities.delete query.entity predicate)
    print [toString deleted ++ " row(s) deleted"]

def runRequest (host : Host m) (options : Options) (command : Command) : Session m Unit := do
  let config ← attempt (.during "loading config") (Config.discover host.files options.config)
  runCommand host options.format (options.override host.databaseUrl config) command

end

structure Outcome where
  exitCode : Nat
  output : String := ""
  errors : String := ""

def joinLines (lines : List String) : String := String.join (lines.map (· ++ "\n"))

def Outcome.ofSession (result : Except Failure Unit) (lines : List String) : Outcome where
  exitCode :=
    match result with
    | .ok _ => 0
    | .error failure => failure.exitCode
  output := joinLines lines
  errors :=
    match result with
    | .error (.message text) => "Error: " ++ text ++ "\n"
    | _ => ""

def versionLine : String := "predsql 0.3.0\n"

def run {m : Type → Type} [Monad m] (host : Host m) (arguments : List String) : m Outcome :=
  match Request.read arguments with
  | .rejected => pure { exitCode := 2 }
  | .help => pure { exitCode := 0 }
  | .version => pure { exitCode := 0, output := versionLine }
  | .run options command => do
    let (result, lines) ← (runRequest host options command).run.run []
    return .ofSession result lines

end WhereClause.Cli
