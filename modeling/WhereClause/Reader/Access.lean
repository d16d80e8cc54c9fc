import WhereClause.Reader.Literal

/-! Accesses: a literal, a captured variable or the entity parameter, each with the
members behind it and an optional test suffix or call. -/

set_option autoImplicit false

namespace WhereClause

/-- What an access starts from. A variable remembers the text from its `$` on. -/
inductive Term where
  | entity
  | field (path : MemberPath)
  | captured (path : MemberPath) (place : List Char)
  | literal (value : Value)

inductive Access where
  | plain (term : Term)
  | hasValue (term : Term)
  | isNone (term : Term)
  | call (term : Term) (method : String) (arguments : List Access)

def Access.isPlain : Access → Bool
  | .plain _ => true
  | _ => false

namespace Reader

structure Path where
  isVariable : Bool
  segments : MemberPath

def path (limit : Nat) : Reader Path := fun text =>
  let (isVariable, rest) :=
    match text with
    | '$' :: rest => (true, rest)
    | _ => (false, text)
  (separatedOne (char '.') identifier limit rest).map fun segments => { isVariable, segments }

/-- The term for the segments of a path; an entity path loses the parameter's name. -/
def Path.term (isVariable : Bool) (segments : MemberPath) (place : List Char) : Term :=
  if isVariable then .captured segments place
  else
    match segments.drop 1 with
    | [] => .entity
    | members => .field members

/-- A path without a call: its last segment is a test suffix if a variable name, or the
parameter and a member, stand in front of it. -/
def Path.plain (found : Path) (place : List Char) : Access :=
  let keep := if found.isVariable then 1 else 2
  let term := Path.term found.isVariable
  if keep < found.segments.length then
    match found.segments.getLast? with
    | some "has_value" => .hasValue (term found.segments.dropLast place)
    | some "is_none" => .isNone (term found.segments.dropLast place)
    | _ => .plain (term found.segments place)
  else .plain (term found.segments place)

def arguments (argument : Reader Access) (limit : Nat) : Reader (Option (List Access)) := fun text =>
  match padded (char '(') text with
  | .halt .recoverable _ => .done none text
  | .halt reason rest => .halt reason rest
  | .done _ rest =>
    (separated (padded (char ',')) argument limit rest).andThen fun found rest =>
      ((padded (char ')') rest).commit).map fun _ => some found

/-- The last segment of a called path names the method. A call on the entity parameter
itself stops the reading. -/
def called (found : Path) (place : List Char) (given : List Access) : Reader Access := fun rest =>
  match found.isVariable, found.segments.dropLast with
  | false, [] => .halt .bareCall rest
  | isVariable, front =>
    .done (.call (Path.term isVariable front place) (found.segments.getLast?.getD "") given) rest

/-- An access; the limit bounds how deep its argument lists nest and how long they are. -/
def access (parameter : String) : (limit : Nat) → Reader Access
  | 0, text => .halt .tooDeep text
  | limit + 1, text =>
    match literal (limit + 1) text with
    | .done value rest => .done (.plain (.literal value)) rest
    | .halt .recoverable _ =>
      (path (limit + 1) text).andThen fun found rest =>
        if found.isVariable || found.segments.head? == some parameter then
          (arguments (access parameter limit) limit rest).andThen fun given rest =>
            match given with
            | none => .done (found.plain text) rest
            | some given => called found text given rest
        else .halt .final text
    | .halt reason rest => .halt reason rest

end Reader

end WhereClause
