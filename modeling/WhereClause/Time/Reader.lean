import WhereClause.Text.Blank
import WhereClause.Time.Timestamp

/-! Reading timestamps from text.

The form is `year-month-dayThour:minute:second.fraction`. Fields may have fewer
digits than they are written with, and blanks are allowed in front of a field.
-/

set_option autoImplicit false

namespace WhereClause.Timestamp

def value (digits : List Char) : Nat :=
  digits.foldl (fun total c => 10 * total + (c.toNat - '0'.toNat)) 0

def number? (most : Nat) (text : List Char) : Option (Nat × List Char) :=
  let digits := (text.take most).takeWhile Char.isDigit
  if digits.isEmpty then none else some (value digits, text.drop digits.length)

def field? (text : List Char) : Option (Nat × List Char) :=
  number? 2 (Text.trimStart text)

/-- A sign lifts the limit of four digits. -/
def year? (text : List Char) : Option (Int × List Char) :=
  match Text.trimStart text with
  | '-' :: rest => (number? rest.length rest).map fun (year, rest) => (-(year : Int), rest)
  | '+' :: rest => (number? rest.length rest).map fun (year, rest) => ((year : Int), rest)
  | rest => (number? 4 rest).map fun (year, rest) => ((year : Int), rest)

def mark? (c : Char) (text : List Char) : Option (List Char) :=
  match text with
  | d :: rest => if d = c then some rest else none
  | [] => none

/-- Up to nine digits count; further digits are skipped. -/
def fraction? (text : List Char) : Option (Nat × List Char) :=
  match text with
  | '.' :: rest =>
    let digits := rest.takeWhile Char.isDigit
    if digits.isEmpty then none
    else
      let kept := digits.take 9
      some (value kept * Nat.pow 10 (9 - kept.length), rest.drop digits.length)
  | _ => some (0, text)

def read? (text : List Char) : Option Timestamp := do
  let (year, rest) ← year? text
  let (month, rest) ← field? (← mark? '-' (Text.trimStart rest))
  let (day, rest) ← field? (← mark? '-' (Text.trimStart rest))
  let (hour, rest) ← field? (← mark? 'T' (Text.trimStart rest))
  let (minute, rest) ← field? (← mark? ':' (Text.trimStart rest))
  let (second, rest) ← field? (← mark? ':' (Text.trimStart rest))
  let (nanosecond, rest) ← fraction? rest
  if (Text.trimStart rest).isEmpty then ofFields? year month day hour minute second nanosecond
  else none

end WhereClause.Timestamp
