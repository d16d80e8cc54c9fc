import WhereClause.Executor
import WhereClause.Files.Access

/-! What the command line finds around it. -/

set_option autoImplicit false

namespace WhereClause.Cli

structure Host (m : Type → Type) where
  files : Files m
  /-- The database address in the environment. -/
  databaseUrl : Option String
  /-- Open a database of a dialect at an address. -/
  openDatabase : Dialect → String → ExceptT Error m (Executor m)

end WhereClause.Cli
