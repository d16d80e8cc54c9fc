import WhereClause.Reader.Expression
import WhereClause.Variables

/-! From predicate text to a predicate.

Once the whole text has been read, accesses become operands: variables are replaced
by their values, and test suffixes and calls by the predicates they stand for. Faults
are reported from left to right.
-/

set_option autoImplicit false

namespace WhereClause

def defaultParameter : String := "x"

namespace Term

def shown : Term → String
  | .entity => "the entity"
  | .field path => "x." ++ MemberPath.dotted path
  | .captured path _ => "$" ++ MemberPath.dotted path
  | .literal value => value.render

/-- The operand a term stands for; `total` is the length of the whole text in bytes. -/
def operand (scope : Variables) (total : Nat) : Term → Except Error Operand
  | .entity => .error (.unsupported .bareEntity)
  | .field path => .ok (.field path)
  | .captured path place =>
    match scope.get? (MemberPath.dotted path) with
    | some value => .ok (.captured path value)
    | none => .error (.parse (total - byteLength place) (.unknownVariable (MemberPath.dotted path)))
  | .literal value => .ok (.ofValue value)

def items (scope : Variables) (total : Nat) (term : Term) : Except Error (List Value) := do
  match ← term.operand scope total with
  | .constant (.list _ items) _ => return items
  | .captured _ (.list _ items) => return items
  | _ => throw (.unsupported (.notAList term.shown))

end Term

namespace Access

/-- The term of an access that stands for a value; suffixes and calls do not. -/
def term : Access → Except Error Term
  | .plain term => .ok term
  | .hasValue _ => .error (.unsupported (.suffixAsValue "has_value"))
  | .isNone _ => .error (.unsupported (.suffixAsValue "is_none"))
  | .call _ method _ => .error (.unsupported (.suffixAsValue (method ++ "()")))

def operand (scope : Variables) (total : Nat) (access : Access) : Except Error Operand := do
  (← access.term).operand scope total

def items (scope : Variables) (total : Nat) (access : Access) : Except Error (List Value) := do
  (← access.term).items scope total

def truth (scope : Variables) (total : Nat) : Access → Except Error Predicate
  | .plain term => return .truth (← term.operand scope total)
  | .hasValue term => return .isNotNull (← term.operand scope total)
  | .isNone term => return .isNull (← term.operand scope total)
  | .call term "contains" [item] => do
    let item ← item.operand scope total
    return .member item (← term.items scope total)
  | .call _ method arguments => .error (.unsupported (.methodCall method arguments.length))

end Access

def Expression.predicate (scope : Variables) (total : Nat) : Expression → Except Error Predicate
  | .compare op left right => do
    let left ← left.operand scope total
    return .compare op left (← right.operand scope total)
  | .not inner => return .not (← inner.predicate scope total)
  | .and left right => do
    let left ← left.predicate scope total
    return .and left (← right.predicate scope total)
  | .or left right => do
    let left ← left.predicate scope total
    return .or left (← right.predicate scope total)
  | .member item collection => do
    let item ← item.operand scope total
    return .member item (← collection.items scope total)
  | .truth access => access.truth scope total

/-- Read a predicate. The text may start with a header that names the entity parameter. -/
def readPredicate (text : String) (scope : Variables) : Except Error Predicate :=
  let chars := text.toList
  let total := byteLength chars
  let (parameter, body) :=
    match Reader.header chars with
    | .done name rest => (name, rest)
    | .halt _ _ => (defaultParameter, chars)
  match Reader.expression parameter (chars.length + 1) body with
  | .halt reason rest => .error (.ofHalt total reason rest)
  | .done expression rest =>
    let rest := Reader.skip rest
    if rest.isEmpty then expression.predicate scope total
    else .error (.parse (total - byteLength rest) (.trailing (String.ofList rest)))

end WhereClause
