import WhereClause.Text.Split

/-! Paths as text.

Repeated separators and the name `.` do not count, except for a `.` that opens the path.
Joining and taking the parent keep the text as it was written; nothing is resolved.
-/

set_option autoImplicit false

namespace WhereClause.Path

def segments (path : String) : List String := Text.splitOn '/' path

def isAbsolute (path : String) : Bool := path.toList.head? == some '/'

/-- Drop the segments at the end that do not count; the input is in reverse order. -/
def dropIdle : List String → List String
  | [] => []
  | [first] => if first.isEmpty then [] else [first]
  | last :: before :: rest =>
    if last.isEmpty || last == "." then dropIdle (before :: rest) else last :: before :: rest

def ofReverse (absolute : Bool) (reversed : List String) : String :=
  match absolute, reversed with
  | true, [] => "/"
  | _, _ => "/".intercalate reversed.reverse

/-- The path up to its last name. A root has no parent, and neither has the empty path. -/
def parent? (path : String) : Option String :=
  match dropIdle (segments path).reverse with
  | [] => none
  | _ :: before => some (ofReverse (isAbsolute path) (dropIdle before))

def join (directory path : String) : String :=
  if isAbsolute path || directory.isEmpty then path
  else if directory.toList.getLast? == some '/' then directory ++ path
  else directory ++ "/" ++ path

/-- What follows the last dot of the last name, unless that dot opens the name. -/
def extension? (path : String) : Option String :=
  match dropIdle (segments path).reverse with
  | [] => none
  | name :: _ =>
    if name == ".." then none
    else
      match (Text.splitOn '.' name).reverse with
      | last :: stem :: rest => if rest.isEmpty && stem.isEmpty then none else some last
      | _ => none

end WhereClause.Path
