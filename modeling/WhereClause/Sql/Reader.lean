import WhereClause.Sql.Formula
import WhereClause.Sql.Token

/-! Conditions and statements read from tokens.

Negation binds tighter than conjunction, and conjunction tighter than disjunction.
-/

set_option autoImplicit false

namespace WhereClause.Sql

def readTerm : List Token → Option (Term × List Token)
  | .name text :: rest => some (.column text, rest)
  | .param index :: rest => some (.param index, rest)
  | .number value :: rest => some (.number value, rest)
  | _ => none

def readTerms : List Token → Option (List Term × List Token)
  | [] => none
  | token :: rest => do
    let (term, _) ← readTerm [token]
    match rest with
    | .closeParen :: after => return ([term], after)
    | .comma :: after =>
      let (terms, behind) ← readTerms after
      return (term :: terms, behind)
    | _ => none

def readAtom (tokens : List Token) : Option (Formula × List Token) := do
  let (item, rest) ← readTerm tokens
  match rest with
  | .word "IS" :: .word "NULL" :: after => return (.nullTest false item, after)
  | .word "IS" :: .word "NOT" :: .word "NULL" :: after => return (.nullTest true item, after)
  | .word "IN" :: .openParen :: .word "SELECT" :: .word "V" :: .word "FROM" :: .param index
      :: .closeParen :: after => return (.within item index, after)
  | .word "IN" :: .openParen :: after =>
    let (elements, behind) ← readTerms after
    return (.among item elements, behind)
  | .comparison .eq :: .word "ANY" :: .openParen :: .param index :: .closeParen :: after =>
    return (.within item index, after)
  | .comparison op :: after =>
    let (other, behind) ← readTerm after
    return (.compare op item other, behind)
  | _ => none

mutual

/-- A disjunction. The first argument bounds the depth of the reading. -/
def readOr : Nat → List Token → Option (Formula × List Token)
  | 0, _ => none
  | depth + 1, tokens => do
    let (left, rest) ← readAnd depth tokens
    match rest with
    | .word "OR" :: after =>
      let (right, behind) ← readOr depth after
      return (.or left right, behind)
    | _ => return (left, rest)

def readAnd : Nat → List Token → Option (Formula × List Token)
  | 0, _ => none
  | depth + 1, tokens => do
    let (left, rest) ← readNot depth tokens
    match rest with
    | .word "AND" :: after =>
      let (right, behind) ← readAnd depth after
      return (.and left right, behind)
    | _ => return (left, rest)

def readNot : Nat → List Token → Option (Formula × List Token)
  | 0, _ => none
  | depth + 1, tokens =>
    match tokens with
    | .word "NOT" :: rest => do
      let (inner, after) ← readNot depth rest
      return (.not inner, after)
    | .openParen :: rest => do
      match ← readOr depth rest with
      | (inner, .closeParen :: after) => return (inner, after)
      | _ => none
    | _ => readAtom tokens

end

/-- The condition that a token list spells from its first to its last token. Every token
takes at most three steps down. -/
def readFormula (tokens : List Token) : Option Formula :=
  match readOr (3 * tokens.length + 3) tokens with
  | some (formula, []) => some formula
  | _ => none

inductive Action where
  | rows
  | count
  | delete
  deriving DecidableEq, Repr

structure Statement where
  action : Action
  table : String
  condition : Formula
  deriving DecidableEq, Repr

def readTarget (action : Action) : List Token → Option Statement
  | .name table :: .word "WHERE" :: rest => do
    return { action, table, condition := ← readFormula rest }
  | _ => none

def readStatement : List Token → Option Statement
  | .word "SELECT" :: .star :: .word "FROM" :: rest => readTarget .rows rest
  | .word "SELECT" :: .word "COUNT" :: .openParen :: .star :: .closeParen :: .word "FROM" :: rest =>
    readTarget .count rest
  | .word "DELETE" :: .word "FROM" :: rest => readTarget .delete rest
  | _ => none

end WhereClause.Sql
