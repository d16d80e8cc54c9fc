import WhereClause.Definitions
import WhereClause.Dialect
import WhereClause.Files.Access

/-! Configuration: dialect, membership strategy, database address and entities.

A configuration is TOML text. All settings have defaults, and unknown ones are ignored.
Entities may stand in the configuration itself and in a schema file beside it.
-/

set_option autoImplicit false

namespace WhereClause

structure Config where
  dialect : Dialect := .sqlite
  membership : Strategy := .expand
  databaseUrl : Option String := none
  schemaFile : Option String := none
  entities : List EntityDef := []
  deriving DecidableEq, Repr

/-- Only the full name in lower case names a dialect here. -/
def Dialect.ofTag? (json : Json) : Option Dialect := do
  let name ← json.tag?
  Dialect.all.find? (·.name == name)

def Strategy.ofTag? (json : Json) : Option Strategy := do
  let name ← json.tag?
  Strategy.all.find? (·.name == name)

/-- The definitions in a schema file: JSON if its extension says so, otherwise TOML. -/
def EntityDef.load {m : Type → Type} [Monad m] (files : Files m) (path : String) :
    ExceptT Error m (List EntityDef) := do
  match ← files.read path with
  | .error issue => throw (.file issue)
  | .ok text =>
    let format : TextFormat := if Path.extension? path == some "json" then .json else .toml
    match EntityDef.readAll? format text with
    | some defs => return defs
    | none => throw (.schema (.malformed format (some path)))

def Schema.load {m : Type → Type} [Monad m] (files : Files m) (path : String)
    (registry : Registry) : ExceptT Error m Schema := do
  let defs ← EntityDef.load files path
  Schema.build defs registry

namespace Config

/-- A setting that keeps its default if it is left out. -/
def settingOr? {α : Type} (read? : Json → Option α) (default : α) : Option Json → Option α
  | none => some default
  | some json => read? json

def ofJson? (json : Json) : Option Config := do
  match ← json.openRecord? .toml
      ["dialect", "membership", "database_url", "schema_file", "entities"] with
  | [dialect, membership, databaseUrl, schemaFile, entities] =>
    return {
      dialect := ← settingOr? Dialect.ofTag? .sqlite dialect
      membership := ← settingOr? Strategy.ofTag? .expand membership
      databaseUrl := ← Json.setting? databaseUrl
      schemaFile := ← Json.setting? schemaFile
      entities := ← Json.list? (EntityDef.ofJson? .toml) entities }
  | _ => none

def read (text : String) : Except Error Config :=
  match (Toml.read? text).bind ofJson? with
  | some config => .ok config
  | none => .error (.config .malformed)

/-- The schema file of a configuration is sought beside the configuration. -/
def relativeTo (config : Config) (path : String) : Config :=
  match config.schemaFile, Path.parent? path with
  | some schemaFile, some directory =>
    { config with schemaFile := some (Path.join directory schemaFile) }
  | _, _ => config

variable {m : Type → Type} [Monad m]

def load (files : Files m) (path : String) : ExceptT Error m Config := do
  match ← files.read path with
  | .error issue => throw (.config (.unreadable path issue))
  | .ok text =>
    let config ← Config.read text
    return config.relativeTo path

def locations (files : Files m) : List String :=
  "predsql.toml" ::
    match files.configDirectory with
    | some directory => [Path.join (Path.join directory "predsql") "config.toml"]
    | none => []

def firstFile? (files : Files m) : List String → m (Option String)
  | [] => pure none
  | path :: rest => do
    if ← files.isFile path then pure (some path) else firstFile? files rest

/-- The configuration of a named file, else of the first file at the usual locations, else
the default. -/
def discover (files : Files m) (named : Option String) : ExceptT Error m Config := do
  match named with
  | some path => load files path
  | none =>
    match ← ExceptT.lift (firstFile? files (locations files)) with
    | some path => load files path
    | none => return {}

/-- All entities: those of the configuration, then those of its schema file. -/
def definitions (files : Files m) (config : Config) : ExceptT Error m (List EntityDef) := do
  match config.schemaFile with
  | none => return config.entities
  | some path =>
    let loaded ← EntityDef.load files path
    return config.entities ++ loaded

def schema (files : Files m) (config : Config) (registry : Registry) : ExceptT Error m Schema := do
  let defs ← config.definitions files
  Schema.build defs registry

end Config

end WhereClause
