import WhereClause.Cli.Run

/-! The program on the command line.

Files and the environment come from the system. No database driver is linked, so that
every attempt to connect is refused.
-/

set_option autoImplicit false

namespace WhereClause.Main

def fileIssue : IO.Error → FileIssue
  | .permissionDenied _ _ _ => .denied
  | .inappropriateType _ code _ => if code = 20 then .notDirectory else .isDirectory
  | .invalidArgument _ code _ => if code = 36 then .nameTooLong else .missing
  | _ => .missing

def readFile (path : String) : IO (Except FileIssue String) := do
  if path.contains '\x00' then return .error .nulInName
  match ← (IO.FS.readFile path).toBaseIO with
  | .ok text => return .ok text
  | .error error => return .error (fileIssue error)

def isFile (path : String) : IO Bool := do
  return (← readFile path).isOk

/-- The directory named by the environment if it is absolute, else the one in the user's
home. -/
def configDirectory : IO (Option String) := do
  match ← IO.getEnv "XDG_CONFIG_HOME" with
  | some directory => if Path.isAbsolute directory then return some directory else atHome
  | none => atHome
where
  atHome : IO (Option String) := do
    return (← IO.getEnv "HOME").map fun home => Path.join home ".config"

def host : IO (Cli.Host IO) := do
  return {
    files := { read := readFile, isFile, configDirectory := ← configDirectory }
    databaseUrl := ← IO.getEnv "PREDSQL_DATABASE_URL"
    openDatabase := fun dialect _ =>
      throw (.connection ("no driver for " ++ dialect.name ++ " is linked")) }

end WhereClause.Main

def main (arguments : List String) : IO UInt32 := do
  let outcome ← WhereClause.Cli.run (← WhereClause.Main.host) arguments
  IO.print outcome.output
  IO.eprint outcome.errors
  return outcome.exitCode.toUInt32
