import WhereClause.Dialect

/-! Tokens of statements.

A quoted name runs from the dialect's opening quote to a closing quote that is not
doubled. Placeholders either carry a number or are counted from left to right.
-/

set_option autoImplicit false

namespace WhereClause.Sql

inductive Token where
  | name (text : String)
  /-- A parameter, counted from zero. -/
  | param (index : Nat)
  /-- A placeholder without a number. -/
  | anonymous
  | word (text : String)
  | number (value : Nat)
  | comparison (op : Comparison)
  | openParen
  | closeParen
  | comma
  | star
  deriving DecidableEq, Repr

/-- How placeholders are written: a single character, or a lead and a number that starts
from `first`. -/
inductive Marker where
  | anonymous (sign : Char)
  | numbered (lead : List Char) (first : Nat)
  deriving DecidableEq, Repr

structure Lexicon where
  openQuote : Char
  closeQuote : Char
  marker : Marker

def nativeMarker : Dialect → Marker
  | .sqlServer => .numbered ['@', 'p'] 1
  | .sqlite => .anonymous '?'
  | .mySql => .anonymous '?'
  | .postgresql => .numbered ['$'] 1
  | .oracle => .numbered [':'] 1

def Lexicon.shared (dialect : Dialect) : Lexicon where
  openQuote := dialect.openQuote
  closeQuote := dialect.closeQuote
  marker := .numbered ['@'] 0

def Lexicon.native (dialect : Dialect) : Lexicon where
  openQuote := dialect.openQuote
  closeQuote := dialect.closeQuote
  marker := nativeMarker dialect

def scanName (close : Char) : List Char → Option (List Char × List Char)
  | [] => none
  | [c] => if c = close then some ([], []) else none
  | c :: next :: rest =>
    if c = close then
      if next = close then (scanName close rest).map fun (name, after) => (close :: name, after)
      else some ([], next :: rest)
    else (scanName close (next :: rest)).map fun (name, after) => (c :: name, after)

def digitsValue (digits : List Char) : Nat :=
  digits.foldl (fun value digit => 10 * value + (digit.toNat - '0'.toNat)) 0

def scanMarker : Marker → List Char → Option (Token × List Char)
  | .anonymous sign, c :: rest => if c = sign then some (.anonymous, rest) else none
  | .numbered lead first, text =>
    if lead.isPrefixOf text then
      let after := text.drop lead.length
      let digits := after.takeWhile Char.isDigit
      if digits.isEmpty then none
      else some (.param (digitsValue digits - first), after.dropWhile Char.isDigit)
    else none
  | _, [] => none

def scanSymbol : List Char → Option (Token × List Char)
  | '(' :: rest => some (.openParen, rest)
  | ')' :: rest => some (.closeParen, rest)
  | ',' :: rest => some (.comma, rest)
  | '*' :: rest => some (.star, rest)
  | '=' :: rest => some (.comparison .eq, rest)
  | '<' :: '>' :: rest => some (.comparison .ne, rest)
  | '<' :: '=' :: rest => some (.comparison .le, rest)
  | '>' :: '=' :: rest => some (.comparison .ge, rest)
  | '<' :: rest => some (.comparison .lt, rest)
  | '>' :: rest => some (.comparison .gt, rest)
  | _ => none

def nextToken (lexicon : Lexicon) : List Char → Option (Token × List Char)
  | [] => none
  | c :: rest =>
    if c = lexicon.openQuote then
      (scanName lexicon.closeQuote rest).map fun (name, after) => (.name (String.ofList name), after)
    else if c.isAlpha then
      some (.word (String.ofList ((c :: rest).takeWhile Char.isAlpha)),
        (c :: rest).dropWhile Char.isAlpha)
    else if c.isDigit then
      some (.number (digitsValue ((c :: rest).takeWhile Char.isDigit)),
        (c :: rest).dropWhile Char.isDigit)
    else (scanMarker lexicon.marker (c :: rest)).orElse fun _ => scanSymbol (c :: rest)

def scan (lexicon : Lexicon) : (limit : Nat) → List Char → Option (List Token)
  | _, [] => some []
  | 0, _ => none
  | limit + 1, c :: rest =>
    if c = ' ' then scan lexicon limit rest
    else
      match nextToken lexicon (c :: rest) with
      | none => none
      | some (token, after) => (scan lexicon limit after).map (token :: ·)

/-- Number the placeholders that carry no number, from left to right. -/
def numberFrom : (next : Nat) → List Token → List Token
  | _, [] => []
  | next, .anonymous :: rest => .param next :: numberFrom (next + 1) rest
  | next, token :: rest => token :: numberFrom next rest

def tokens (lexicon : Lexicon) (text : String) : Option (List Token) :=
  (scan lexicon text.length text.toList).map (numberFrom 0)

end WhereClause.Sql
