import WhereClause.Address.Percent
import WhereClause.Address.Url
import WhereClause.Text.Escaped

/-! How a database is to be opened, as its address says.

Behind the scheme of an address stands the name of a file, and behind a question mark follow
settings in the manner of a form.
-/

set_option autoImplicit false

namespace WhereClause.Sql

inductive Setting where
  | mode
  | cache
  | immutable
  deriving DecidableEq, Repr

def Setting.name : Setting → String
  | .mode => "mode"
  | .cache => "cache"
  | .immutable => "immutable"

inductive ConnectIssue where
  | address (issue : UrlIssue)
  | fileName (fault : Utf8.Fault)
  | settingValue (setting : Setting) (value : String)
  | unknownSetting (key : String)
  | nulInName
  | unopened
  | unreadable
  | unknownHost (name : String)
  | unknownStorage (name : String)
  | noAnswer
  deriving DecidableEq, Repr

def ConnectIssue.message : ConnectIssue → String
  | .address issue => "error with configuration: " ++ issue.message
  | .fileName fault => "error with configuration: " ++ fault.message
  | .settingValue setting value =>
    "error with configuration: unknown value " ++ Text.visible value ++ " for `" ++ setting.name ++ "`"
  | .unknownSetting key =>
    "error with configuration: unknown query parameter `" ++ key
      ++ "` while parsing connection URL"
  | .nulInName =>
    "error communicating with database: filename passed to SQLite must not contain nul bytes"
  | .unopened => "error returned from database: (code: 14) unable to open database file"
  | .unreadable => "error returned from database: (code: 266) disk I/O error"
  | .unknownHost name =>
    "error returned from database: (code: 1) invalid uri authority: " ++ name
  | .unknownStorage name => "error returned from database: (code: 1) no such vfs: " ++ name
  | .noAnswer => "pool timed out while waiting for an open connection"

structure ConnectOptions where
  /-- The name of the file. -/
  name : String
  inMemory : Bool := false
  readOnly : Bool := false
  create : Bool := false
  immutable : Bool := false
  /-- The kind of storage that the file lies in. -/
  storage : Option String := none
  deriving DecidableEq, Repr

namespace ConnectOptions

/-- Follow one setting of an address. Whether others share what is read makes no difference. -/
def withSetting (options : ConnectOptions) (key value : String) :
    Except ConnectIssue ConnectOptions :=
  match key with
  | "mode" =>
    match value with
    | "ro" => .ok { options with readOnly := true }
    | "rw" => .ok options
    | "rwc" => .ok { options with create := true }
    | "memory" => .ok { options with inMemory := true }
    | _ => .error (.settingValue .mode value)
  | "cache" =>
    if value == "private" || value == "shared" then .ok options
    else .error (.settingValue .cache value)
  | "immutable" =>
    if value == "true" || value == "1" then .ok { options with immutable := true }
    else if value == "false" || value == "0" then .ok { options with immutable := false }
    else .error (.settingValue .immutable value)
  | "vfs" => .ok { options with storage := some value }
  | _ => .error (.unknownSetting key)

def dropLeads (lead : List Char) : (fuel : Nat) → List Char → List Char
  | 0, text => text
  | fuel + 1, text =>
    if lead.isPrefixOf text then dropLeads lead fuel (text.drop lead.length) else text

def ofAddress (address : List Char) : Except ConnectIssue ConnectOptions := do
  let leads := ["sqlite://".toList, "sqlite:".toList]
  let text := leads.foldl (fun text lead => dropLeads lead text.length text) address
  let name := text.takeWhile (· != '?')
  let settings := (text.dropWhile (· != '?')).drop 1
  let options ← if name == ":memory:".toList then
      pure { name := "", inMemory := true }
    else
      match Percent.decode name with
      | .ok name => pure { name }
      | .error fault => throw (.fileName fault)
  (Percent.formPairs settings).foldlM (fun options (key, value) => options.withSetting key value) options

def ofUrl (url : String) : Except ConnectIssue ConnectOptions := do
  ofAddress (← (Url.normalize url).mapError .address)

end ConnectOptions

end WhereClause.Sql
