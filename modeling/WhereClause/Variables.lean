import WhereClause.Value

/-! Values of captured variables by dotted path. -/

set_option autoImplicit false

namespace WhereClause

/-- Pairs of a path and its value; no path occurs twice. -/
structure Variables where
  entries : List (String × Value) := []

namespace Variables

def empty : Variables := {}

def get? (scope : Variables) (path : String) : Option Value :=
  scope.entries.lookup path

def insert (scope : Variables) (path : String) (value : Value) : Variables :=
  { entries := (path, value) :: scope.entries.filter (·.1 != path) }

def size (scope : Variables) : Nat := scope.entries.length

end Variables

end WhereClause
