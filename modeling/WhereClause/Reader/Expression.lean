import WhereClause.Reader.Access

/-! Boolean expressions over accesses.

Negation binds tighter than conjunction, and conjunction tighter than disjunction;
both chains associate to the left. Each connective has a symbol and a word.
-/

set_option autoImplicit false

namespace WhereClause

/-- An expression before variables are looked up. -/
inductive Expression where
  | compare (op : Comparison) (left right : Access)
  | not (inner : Expression)
  | and (left right : Expression)
  | or (left right : Expression)
  | member (item collection : Access)
  | truth (access : Access)

namespace Reader

def comparison : Reader Comparison := fun text =>
  let sign (op : Comparison) : Reader Comparison := fun text =>
    (tag op.symbol.toList text).map fun _ => op
  orElse (sign .eq) (orElse (sign .ne) (orElse (sign .le) (orElse (sign .ge)
    (orElse (sign .lt) (sign .gt))))) text

def test (operand : Reader Access) : Reader Expression := fun text =>
  (padded operand text).andThen fun left rest =>
    if !left.isPlain then .done (.truth left) rest
    else
      match padded comparison rest with
      | .done op rest => ((padded operand rest).commit).map fun right => .compare op left right
      | .halt _ _ =>
        match padded (keyword "in".toList) rest with
        | .done _ rest =>
          ((padded operand rest).commit).map fun collection => .member left collection
        | .halt _ _ => .done (.truth left) rest

def negation : Reader Unit := orElse (char '!') (keyword "not".toList)

def andSign : Reader Unit := padded (orElse (tag "&&".toList) (keyword "and".toList))

def orSign : Reader Unit := padded (orElse (tag "||".toList) (keyword "or".toList))

def conjunction (unary : Reader Expression) (limit : Nat) : Reader Expression := fun text =>
  (unary text).andThen fun first rest => chain andSign unary .and limit first rest

def disjunction (unary : Reader Expression) (limit : Nat) : Reader Expression := fun text =>
  (conjunction unary limit text).andThen fun first rest =>
    chain orSign (conjunction unary limit) .or limit first rest

/-- A negation, a parenthesised expression or a test. The limit bounds how deep expressions
nest and how long their chains are. -/
def unary (parameter : String) : (limit : Nat) → Reader Expression
  | 0, text => .halt .tooDeep text
  | limit + 1, text =>
    match negation (skip text) with
    | .done _ rest => ((unary parameter limit rest).commit).map .not
    | .halt _ _ =>
      match padded (char '(') (skip text) with
      | .done _ rest =>
        ((disjunction (unary parameter limit) limit rest).commit).andThen fun inner rest =>
          ((padded (char ')') rest).commit).map fun _ => inner
      | .halt _ _ => test (access parameter (limit + 1)) (skip text)

def header : Reader String := fun text =>
  (identifier (skip text)).andThen fun name rest =>
    (tag "=>".toList (skip rest)).map fun _ => name

def expression (parameter : String) (limit : Nat) : Reader Expression :=
  disjunction (unary parameter limit) limit

end Reader

end WhereClause
