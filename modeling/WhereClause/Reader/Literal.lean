import WhereClause.Error
import WhereClause.Reader.Token

/-! Literals: `5`, `5L`, `1.5`, `2.50m`, `"text"`, `true`, `null` and lists of them. -/

set_option autoImplicit false

namespace WhereClause.Reader

def digitsValue (digits : List Char) : Nat :=
  digits.foldl (fun total c => 10 * total + (c.toNat - '0'.toNat)) 0

def signed (negative : Bool) (magnitude : Nat) : Int :=
  if negative then -(magnitude : Int) else magnitude

def int32? (value : Int) : Option Value :=
  if -Int.pow 2 31 ≤ value ∧ value < Int.pow 2 31 then some (.int (Int32.ofInt value)) else none

def int64? (value : Int) : Option Value :=
  if -Int.pow 2 63 ≤ value ∧ value < Int.pow 2 63 then some (.bigInt (Int64.ofInt value)) else none

structure Numeral where
  negative : Bool
  whole : List Char
  fraction : Option (List Char)

namespace Numeral

def integer (numeral : Numeral) : Int := signed numeral.negative (digitsValue numeral.whole)

def chars (numeral : Numeral) : List Char :=
  let body :=
    match numeral.fraction with
    | none => numeral.whole
    | some digits => numeral.whole ++ '.' :: digits
  if numeral.negative then '-' :: body else body

/-- A whole number is as small an integer as holds it; a fraction makes a float. -/
def plain? (numeral : Numeral) : Option Value :=
  match numeral.fraction with
  | some digits =>
    some (.float (Binary64.ofDecimal numeral.negative (digitsValue (numeral.whole ++ digits))
      (-digits.length)))
  | none => (int32? numeral.integer).orElse fun _ => int64? numeral.integer

def bigInt? (numeral : Numeral) : Option Value :=
  match numeral.fraction with
  | some _ => none
  | none => int64? numeral.integer

def decimal? (numeral : Numeral) : Option Value :=
  (Decimal.read? numeral.chars).map .decimal

end Numeral

def numeral : Reader Numeral := fun text =>
  let (negative, body) :=
    match text with
    | '-' :: rest => (true, rest)
    | _ => (false, text)
  let whole := body.takeWhile Char.isDigit
  if whole.isEmpty then .halt .recoverable body
  else
    match body.dropWhile Char.isDigit with
    | '.' :: rest =>
      let digits := rest.takeWhile Char.isDigit
      if digits.isEmpty then .done { negative, whole, fraction := none } ('.' :: rest)
      else .done { negative, whole, fraction := some digits } (rest.dropWhile Char.isDigit)
    | rest => .done { negative, whole, fraction := none } rest

/-- A number with its type suffix. A number out of range is a final error at its start. -/
def number : Reader Value := fun text =>
  (numeral text).andThen fun found rest =>
    let (value, rest) :=
      match rest with
      | 'L' :: rest => (found.bigInt?, rest)
      | 'm' :: rest => (found.decimal?, rest)
      | 'M' :: rest => (found.decimal?, rest)
      | rest => (found.plain?, rest)
    match value with
    | some value => .done value rest
    | none => .halt .final text

def stringBody : Reader (List Char)
  | [] => .halt .final []
  | '"' :: rest => .done [] rest
  | '\\' :: '"' :: rest => (stringBody rest).map ('"' :: ·)
  | '\\' :: '\\' :: rest => (stringBody rest).map ('\\' :: ·)
  | '\\' :: 'n' :: rest => (stringBody rest).map ('\n' :: ·)
  | '\\' :: 't' :: rest => (stringBody rest).map ('\t' :: ·)
  | c :: rest => if c = '\\' then .halt .final (c :: rest) else (stringBody rest).map (c :: ·)

def stringLiteral : Reader Value := fun text =>
  (char '"' text).andThen fun _ rest =>
    (stringBody rest).map fun chars => .string (String.ofList chars)

def constantWord (word : String) (value : Value) : Reader Value := fun text =>
  (keyword word.toList text).map fun _ => value

def listOf (item : Reader Value) (limit : Nat) : Reader Value := fun text =>
  (char '[' text).andThen fun _ rest =>
    (separated (padded (char ',')) item limit (skip rest)).andThen fun items rest =>
      ((char ']' (skip rest)).commit).map fun _ => Value.ofItems items

def literal : (limit : Nat) → Reader Value
  | 0, text => .halt .tooDeep text
  | limit + 1, text =>
    orElse (constantWord "true" (.bool true))
      (orElse (constantWord "false" (.bool false))
        (orElse (constantWord "null" (.null .string))
          (orElse stringLiteral (orElse number (listOf (literal limit) limit))))) text

end WhereClause.Reader

namespace WhereClause

/-- The error for a reader that stopped, counted in bytes from the start of the text.
Limits exceed the length of the text, so they are not reached. -/
def Error.ofHalt (total : Nat) (reason : Halt) (rest : List Char) : Error :=
  match reason with
  | .bareCall => .bareCall
  | _ =>
    .parse (total - byteLength rest)
      (if rest.isEmpty then .endOfInput else .near (String.ofList (rest.take 16)))

def readLiteral (text : String) : Except Error Value :=
  let chars := text.toList
  let total := byteLength chars
  match Reader.literal (chars.length + 1) (Text.trimStart chars) with
  | .done value rest =>
    if Text.allBlank rest then .ok value
    else .error (.parse (total - byteLength rest) (.trailing (String.ofList rest)))
  | .halt reason rest => .error (.ofHalt total reason rest)

end WhereClause
