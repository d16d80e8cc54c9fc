import WhereClause.Files.Tree

/-! Access to files, in memory or outside. -/

set_option autoImplicit false

namespace WhereClause

structure Files (m : Type → Type) where
  read : String → m (Except FileIssue String)
  isFile : String → m Bool
  /-- The directory of the user's configuration files, if there is one. -/
  configDirectory : Option String

def FileTree.access {m : Type → Type} [Monad m] (tree : FileTree)
    (configDirectory : Option String) : Files m where
  read path := pure (tree.read path)
  isFile path := pure (tree.isFile path)
  configDirectory

end WhereClause
