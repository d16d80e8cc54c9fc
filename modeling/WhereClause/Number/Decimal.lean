/-! Decimal numbers with a 96-bit mantissa and a scale of at most 28 places.

The scale is part of the value: `2.50` and `2.5` are equal as numbers and differ
as texts. A zero that is written out never carries a sign; one that is left when an
exponent rounds a number away keeps the sign of that number.
-/

set_option autoImplicit false

namespace WhereClause

/-- The number `± mantissa / 10 ^ scale`. -/
structure Decimal where
  negative : Bool
  mantissa : Nat
  scale : Nat
  fits : mantissa < Nat.pow 2 96
  scale_le : scale ≤ 28
  deriving DecidableEq

namespace Decimal

def ofParts? (negative : Bool) (mantissa scale : Nat) : Option Decimal :=
  if bounds : mantissa < Nat.pow 2 96 ∧ scale ≤ 28 then
    some { negative, mantissa, scale, fits := bounds.1, scale_le := bounds.2 }
  else none

/-- The number with these digits; zero has no sign. -/
def ofDigits? (negative : Bool) (mantissa scale : Nat) : Option Decimal :=
  ofParts? (negative && mantissa != 0) mantissa scale

instance : Inhabited Decimal where
  default := { negative := false, mantissa := 0, scale := 0, fits := by decide, scale_le := by decide }

def chars (number : Decimal) : List Char :=
  let digits := Nat.toDigits 10 number.mantissa
  let padded := List.replicate (number.scale + 1 - digits.length) '0' ++ digits
  let whole := padded.length - number.scale
  let body :=
    if number.scale = 0 then padded
    else padded.take whole ++ '.' :: padded.drop whole
  if number.negative then '-' :: body else body

def render (number : Decimal) : String := String.ofList number.chars

def isDigitOrSeparator (c : Char) : Bool := c.isDigit || c == '_'

def digitValue (c : Char) : Nat := c.toNat - '0'.toNat

/-- Round at the first digit behind the last one kept, away from zero from five on; the
digits after it only have to be digits. When the mantissa leaves its range, a digit of the
fraction is given up; without a fraction the number does not fit. -/
def roundOff? (negative : Bool) (mantissa scale : Nat) (rest : List Char) : Option Decimal :=
  if !rest.all isDigitOrSeparator then none
  else
    let next := ((rest.find? Char.isDigit).map digitValue).getD 0
    let rounded := if 5 ≤ next then mantissa + 1 else mantissa
    if rounded < Nat.pow 2 96 then ofDigits? negative rounded scale
    else if scale = 0 then none
    else ofDigits? negative ((rounded + 4) / 10) (scale - 1)

/-- Take digits while they fit and round at the first fraction digit that does not;
underscores behind a digit are skipped. -/
def readDigits? (negative : Bool) : (mantissa scale : Nat) → (fraction seen : Bool) → List Char →
    Option Decimal
  | mantissa, scale, _, seen, [] => if seen then ofDigits? negative mantissa scale else none
  | mantissa, scale, fraction, seen, c :: rest =>
    if fraction && 28 ≤ scale then roundOff? negative mantissa scale (c :: rest)
    else if c.isDigit then
      let next := 10 * mantissa + digitValue c
      if next < Nat.pow 2 96 then
        readDigits? negative next (if fraction then scale + 1 else 0) fraction true rest
      else if fraction then roundOff? negative mantissa scale (c :: rest)
      else none
    else if c = '.' && !fraction then readDigits? negative mantissa scale true seen rest
    else if c = '_' && seen then readDigits? negative mantissa scale fraction seen rest
    else none

def read? (text : List Char) : Option Decimal :=
  match text with
  | [] => none
  | '-' :: rest => readDigits? true 0 0 false false rest
  | '+' :: rest => readDigits? false 0 0 false false rest
  | _ => readDigits? false 0 0 false false text

def readNat? (text : List Char) : Option Nat :=
  let digits :=
    match text with
    | '+' :: rest => rest
    | _ => text
  if digits.isEmpty || !digits.all Char.isDigit then none
  else some (digits.foldl (fun value c => 10 * value + digitValue c) 0)

def dropDigits (mantissa : Nat) : (count : Nat) → Nat
  | 0 => mantissa
  | count + 1 => (mantissa / Nat.pow 10 count + 5) / 10

/-- Move the decimal point by an exponent of at most 28 places either way. Digits that
move behind the last place are rounded off, and the sign stays even if none is left. -/
def shift? (number : Decimal) (negative : Bool) (places : Nat) : Option Decimal :=
  if 28 < places then none
  else if negative then
    let excess := number.scale + places - 28
    ofParts? number.negative (dropDigits number.mantissa excess) (number.scale + places - excess)
  else if places ≤ number.scale then
    ofParts? number.negative number.mantissa (number.scale - places)
  else ofParts? number.negative (number.mantissa * Nat.pow 10 (places - number.scale)) 0

def readScientific? (text : List Char) : Option Decimal :=
  let isMark (c : Char) : Bool := c == 'e' || c == 'E'
  match text.dropWhile (!isMark ·) with
  | [] => none
  | _ :: exponent => do
    let number ← read? (text.takeWhile (!isMark ·))
    match exponent with
    | '-' :: places => number.shift? true (← readNat? places)
    | places => number.shift? false (← readNat? places)

def sameNumber (left right : Decimal) : Bool :=
  (left.negative == right.negative || left.mantissa == 0) &&
    left.mantissa * Nat.pow 10 right.scale == right.mantissa * Nat.pow 10 left.scale

end Decimal

end WhereClause
