import WhereClause.Predicate

/-! Causes of failure and their messages.

Every failure is a value that names its cause; `Error.message` is the only place
that words it.
-/

set_option autoImplicit false

namespace WhereClause

inductive ReadIssue where
  | endOfInput
  | near (text : String)
  | trailing (text : String)
  | unknownVariable (path : String)
  deriving DecidableEq, Repr

def ReadIssue.message : ReadIssue → String
  | .endOfInput => "unexpected end of input"
  | .near text => "unexpected input near '" ++ text ++ "'"
  | .trailing text => "Unexpected trailing content: '" ++ text ++ "'"
  | .unknownVariable path => "unknown variable '$" ++ path ++ "'"

inductive Unsupported where
  | methodCall (method : String) (arguments : Nat)
  | suffixAsValue (suffix : String)
  | bareEntity
  | notAList (shown : String)
  | bothNull
  | orderedNull (op : Comparison)
  | notBoolean (operand : String)
  | constantItem (item : String)
  | nestedPath (path : String)
  | nothingToCombine
  deriving DecidableEq, Repr

namespace Unsupported

def construct : Unsupported → String
  | .methodCall _ _ => "method call"
  | .suffixAsValue _ => "comparison"
  | .bareEntity => "member access"
  | .notAList _ => "membership test"
  | .bothNull => "comparison"
  | .orderedNull _ => "comparison"
  | .notBoolean _ => "truth test"
  | .constantItem _ => "membership test"
  | .nestedPath _ => "member access"
  | .nothingToCombine => "conjunction"

def detail : Unsupported → String
  | .methodCall method arguments =>
    "no translation for '" ++ method ++ "' with " ++ toString arguments ++ " argument(s)"
  | .suffixAsValue suffix => "'" ++ suffix ++ "' cannot be used as a value"
  | .bareEntity => "the entity itself is not a value"
  | .notAList shown => shown ++ " is not a list"
  | .bothNull => "both sides are the null literal"
  | .orderedNull op => "'" ++ op.symbol ++ "' against the null literal"
  | .notBoolean operand => "'" ++ operand ++ "' is not a boolean"
  | .constantItem item => "item '" ++ item ++ "' must be a member access"
  | .nestedPath path => "nested entity path 'x." ++ path ++ "'"
  | .nothingToCombine => "no predicates to combine"

end Unsupported

inductive Feature where
  | nativeArrays
  | tableValued
  deriving DecidableEq, Repr

def Feature.name : Feature → String
  | .nativeArrays => "native array membership"
  | .tableValued => "table-valued parameters"

inductive TextFormat where
  | json
  | toml
  deriving DecidableEq, Repr

def TextFormat.name : TextFormat → String
  | .json => "JSON"
  | .toml => "TOML"

/-- Why a schema was refused. A malformed text names the file it came from, if any. -/
inductive SchemaIssue where
  | duplicateEntity (entity : String)
  | duplicateMember (member entity : String)
  | unknownConverter (converter member entity : String)
  | unknownBase (entity base : String)
  | cycle (entity : String)
  | malformed (format : TextFormat) (path : Option String)
  deriving DecidableEq, Repr

def SchemaIssue.message : SchemaIssue → String
  | .duplicateEntity entity => "entity '" ++ entity ++ "' is defined more than once"
  | .duplicateMember member entity =>
    "member '" ++ member ++ "' is declared twice on entity '" ++ entity ++ "'"
  | .unknownConverter converter member entity =>
    "unknown converter '" ++ converter ++ "' on member '" ++ member ++ "' of entity '" ++ entity ++ "'"
  | .unknownBase entity base => "entity '" ++ entity ++ "' extends unknown entity '" ++ base ++ "'"
  | .cycle entity => "inheritance cycle through entity '" ++ entity ++ "'"
  | .malformed format none => format.name ++ " parse error"
  | .malformed format (some path) => path ++ ": " ++ format.name ++ " parse error"

inductive FileIssue where
  | missing
  | denied
  | notDirectory
  | isDirectory
  | nameTooLong
  /-- The path holds the character that ends names. -/
  | nulInName
  deriving DecidableEq, Repr

def FileIssue.message : FileIssue → String
  | .missing => "No such file or directory (os error 2)"
  | .denied => "Permission denied (os error 13)"
  | .notDirectory => "Not a directory (os error 20)"
  | .isDirectory => "Is a directory (os error 21)"
  | .nameTooLong => "File name too long (os error 36)"
  | .nulInName => "file name contained an unexpected NUL byte"

inductive ConfigIssue where
  | unknownDialect (name : String)
  | unknownStrategy (name : String)
  | unknownWord (name : String)
  | unreadable (path : String) (issue : FileIssue)
  | malformed
  deriving DecidableEq, Repr

def ConfigIssue.message : ConfigIssue → String
  | .unknownDialect name =>
    "unknown dialect '" ++ name ++ "'. Expected: sqlserver, sqlite, postgresql, mysql, or oracle"
  | .unknownStrategy name =>
    "unknown membership strategy '" ++ name ++ "'. Expected: expand, native_array, or table_valued"
  | .unknownWord name => "unknown conjunction word '" ++ name ++ "'. Expected: and, or"
  | .unreadable path issue => path ++ ": " ++ issue.message
  | .malformed => TextFormat.toml.name ++ " parse error"

inductive BindIssue where
  | nullCollection
  | collection
  deriving DecidableEq, Repr

def BindIssue.message : BindIssue → String
  | .nullCollection => "null collection"
  | .collection =>
    "collection parameters are not supported by this driver; use the expand membership strategy"

inductive Error where
  | unsupported (cause : Unsupported)
  | unresolvableColumn (entity member : String)
  | unknownEntity (entity : String)
  | unsupportedDialect (dialect : String) (feature : Feature)
  | conversion (converter entity member value reason : String)
  | parse (position : Nat) (issue : ReadIssue)
  | schema (issue : SchemaIssue)
  | config (issue : ConfigIssue)
  | unsupportedScheme (scheme : String)
  | connection (reason : String)
  | execution (reason : String)
  | binding (index : Nat) (issue : BindIssue)
  | notFound
  | notSingle (count : Nat)
  | file (issue : FileIssue)
  /-- A call on the entity parameter itself, which ends the reading at once. -/
  | bareCall
  deriving DecidableEq, Repr

def Error.message : Error → String
  | .unsupported cause => "Unsupported construct in " ++ cause.construct ++ ": " ++ cause.detail
  | .unresolvableColumn entity member =>
    "Cannot resolve column for member '" ++ member ++ "' of entity '" ++ entity ++ "'"
  | .unknownEntity entity => "Unknown entity type: '" ++ entity ++ "'"
  | .unsupportedDialect dialect feature =>
    "Dialect '" ++ dialect ++ "' does not support " ++ feature.name
  | .conversion converter entity member value reason =>
    "Converter '" ++ converter ++ "' rejected " ++ value ++ " for member '" ++ member
      ++ "' of entity '" ++ entity ++ "': " ++ reason
  | .parse position issue => "Parse error at position " ++ toString position ++ ": " ++ issue.message
  | .schema issue => "Schema error: " ++ issue.message
  | .config issue => "Configuration error: " ++ issue.message
  | .unsupportedScheme scheme =>
    "Connection error: unsupported database URL scheme '" ++ scheme
      ++ "'. Expected: postgres, mysql, or sqlite"
  | .connection reason => "Connection error: " ++ reason
  | .execution reason => "Execution error: " ++ reason
  | .binding index issue => "Cannot bind parameter @" ++ toString index ++ ": " ++ issue.message
  | .notFound => "No rows found"
  | .notSingle count => "Expected exactly one row, found " ++ toString count
  | .file issue => "IO error: " ++ issue.message
  | .bareCall => ""

/-- The message followed by the message of its cause, where that is an error of its own. -/
def Error.chain : Error → String
  | .file issue => (Error.file issue).message ++ ": " ++ issue.message
  | error => error.message

end WhereClause
