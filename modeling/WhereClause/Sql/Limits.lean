import WhereClause.Sql.Token

/-! What the database's reader of statements can hold.

The reader keeps the symbols that it cannot join yet on a stack of a hundred places, and
the trees that it builds are at most a thousand levels high. Both are found by following
the tokens of a condition: what is pending, and how high the operands are.
-/

set_option autoImplicit false

namespace WhereClause.Sql

inductive Excess where
  | stack
  | height
  | parameters
  deriving DecidableEq, Repr

namespace Excess

def message : Excess → String
  | .stack => "parser stack overflow"
  | .height => "Expression tree is too large (maximum depth 1000)"
  | .parameters => "too many SQL variables"

end Excess

namespace Limits

def stackPlaces : Nat := 100

def greatestHeight : Nat := 1000

def greatestParameterCount : Nat := 32766

/-- What waits for its last operand; a connective keeps the height of its first one. -/
inductive Pending where
  | not
  | group
  | and (height : Nat)
  | or (height : Nat)
  deriving DecidableEq, Repr

/-- Places on the stack: an operator and its first operand, or a single symbol. -/
def Pending.places : Pending → Nat
  | .not => 1
  | .group => 1
  | .and _ => 2
  | .or _ => 2

def placesOf (pending : List Pending) : Nat :=
  pending.foldr (fun first taken => first.places + taken) 0

/-- Join everything that binds at least as tight as `joins` says with the operand. -/
def join (joins : Pending → Bool) : List Pending → (height : Nat) → List Pending × Nat
  | [], height => ([], height)
  | first :: rest, height =>
    if joins first then
      match first with
      | .not => join joins rest (height + 1)
      | .group => (first :: rest, height)
      | .and left => join joins rest (max left height + 1)
      | .or left => join joins rest (max left height + 1)
    else (first :: rest, height)

def joinsBeforeAnd : Pending → Bool
  | .not => true
  | .and _ => true
  | _ => false

def joinsBeforeOr : Pending → Bool
  | .group => false
  | _ => true

def passList : (elements : Nat) → List Token → Nat × List Token
  | elements, [] => (elements, [])
  | elements, .closeParen :: rest => (elements, rest)
  | elements, .comma :: rest => passList (elements + 1) rest
  | elements, _ :: rest => passList elements rest

/-- The places and the height that a test takes, and the tokens behind it. A list of one
element is compared as that element under a sign. -/
def test (tokens : List Token) : Nat × Nat × List Token :=
  match tokens with
  | _ :: .word "IS" :: .word "NULL" :: rest => (3, 2, rest)
  | _ :: .word "IS" :: .word "NOT" :: .word "NULL" :: rest => (4, 2, rest)
  | _ :: .word "IN" :: .openParen :: rest =>
    let (elements, behind) := passList 1 rest
    if elements = 1 then (5, 3, behind) else (6, 2, behind)
  | _ :: .comparison _ :: _ :: rest => (3, 2, rest)
  | _ :: rest => (1, 1, rest)
  | [] => (0, 0, [])

/-- The first bound that a condition exceeds. With an operand at hand the next token is a
connective or a closing parenthesis; otherwise the next token starts an operand. -/
def check : (fuel : Nat) → (base : Nat) → List Pending → (operand : Option Nat) → List Token →
    Option Excess
  | 0, _, _, _, _ => none
  | fuel + 1, base, pending, some height, tokens =>
    if greatestHeight < height then some .height
    else
      match tokens with
      | .word "AND" :: rest =>
        let (pending, height) := join joinsBeforeAnd pending height
        if greatestHeight < height then some .height
        else check fuel base (.and height :: pending) none rest
      | .word "OR" :: rest =>
        let (pending, height) := join joinsBeforeOr pending height
        if greatestHeight < height then some .height
        else check fuel base (.or height :: pending) none rest
      | .closeParen :: rest =>
        let (pending, height) := join joinsBeforeOr pending height
        if greatestHeight < height then some .height
        else check fuel base (pending.drop 1) (some height) rest
      | _ =>
        let (_, height) := join joinsBeforeOr pending height
        if greatestHeight < height then some .height else none
  | fuel + 1, base, pending, none, tokens =>
    match tokens with
    | .word "NOT" :: rest => check fuel base (.not :: pending) none rest
    | .openParen :: rest => check fuel base (.group :: pending) none rest
    | [] => none
    | tokens =>
      let (places, height, rest) := test tokens
      if stackPlaces < base + placesOf pending + places then some .stack
      else check fuel base pending (some height) rest

def excess? (base : Nat) (condition : List Token) : Option Excess :=
  check (condition.length + 1) base [] none condition

end Limits

end WhereClause.Sql
