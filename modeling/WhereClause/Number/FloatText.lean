import WhereClause.Number.Shortest

/-! Texts of floating-point numbers.

A `FloatFormat` says when a number is written with an exponent, whether a whole
number keeps a fraction digit, and how ties and exponents are written. The formats in
use are values of that record.
-/

set_option autoImplicit false

namespace WhereClause

structure FloatFormat where
  tie : Tie
  /-- Least position of the decimal point that is written positionally, if there is one. -/
  lowestPoint : Option Int
  /-- Greatest position of the decimal point that is written positionally, if there is one. -/
  highestPoint : Option Int
  /-- A whole number written positionally ends in `.0`. -/
  keepFraction : Bool
  /-- A positive exponent carries a sign. -/
  plusSign : Bool
  /-- A single digit before an exponent is followed by `.0`. -/
  fullMantissa : Bool := false
  /-- Least number of digits in an exponent. -/
  exponentWidth : Nat := 1

/-- Never an exponent, and no fraction on whole numbers. -/
def FloatFormat.plain : FloatFormat :=
  { tie := .up, lowestPoint := none, highestPoint := none, keepFraction := false, plusSign := false }

/-- Positional from `1e-5` to below `1e16`, always with a fraction digit. -/
def FloatFormat.json : FloatFormat :=
  { tie := .toEven, lowestPoint := some (-4), highestPoint := some 16, keepFraction := true,
    plusSign := true }

/-- Positional from `1e-4` to below `1e16`, with no sign on positive exponents. -/
def FloatFormat.structural : FloatFormat :=
  { tie := .up, lowestPoint := some (-3), highestPoint := some 16, keepFraction := true,
    plusSign := false }

namespace FloatFormat

def digitChars (digits : List Nat) : List Char :=
  digits.map fun digit => Nat.digitChar digit

def zeros (count : Nat) : List Char := List.replicate count '0'

def positional (format : FloatFormat) (number : Digits) : List Char :=
  let digits := digitChars number.digits
  let ending := if format.keepFraction then ['.', '0'] else []
  if number.digits.isEmpty then '0' :: ending
  else if number.point ≤ 0 then
    '0' :: '.' :: (zeros (-number.point).toNat ++ digits)
  else
    let whole := number.point.toNat
    if digits.length ≤ whole then digits ++ zeros (whole - digits.length) ++ ending
    else digits.take whole ++ '.' :: digits.drop whole

def scientific (format : FloatFormat) (number : Digits) : List Char :=
  let exponent := number.point - 1
  let sign := if exponent < 0 then ['-'] else if format.plusSign then ['+'] else []
  let mantissa :=
    match digitChars number.digits with
    | [] => ['0']
    | [digit] => if format.fullMantissa then [digit, '.', '0'] else [digit]
    | digit :: rest => digit :: '.' :: rest
  let magnitude := Nat.toDigits 10 exponent.natAbs
  mantissa ++ 'e' :: sign ++ zeros (format.exponentWidth - magnitude.length) ++ magnitude

def usesExponent (format : FloatFormat) (number : Digits) : Bool :=
  !number.digits.isEmpty &&
    (format.lowestPoint.any (number.point < ·) || format.highestPoint.any (· < number.point))

def layout (format : FloatFormat) (number : Digits) : List Char :=
  if format.usesExponent number then format.scientific number else format.positional number

def render (format : FloatFormat) : Binary64 → String
  | .nan => "NaN"
  | .infinite negative => if negative then "-inf" else "inf"
  | .finite negative significand exponent =>
    let body := format.layout (shortestDigits format.tie significand exponent)
    String.ofList (if negative then '-' :: body else body)

end FloatFormat

namespace Binary64

def readDigits (text : List Char) : Option Nat :=
  if text.isEmpty || !text.all Char.isDigit then none
  else some (text.foldl (fun value c => 10 * value + (c.toNat - '0'.toNat)) 0)

def readExponent (text : List Char) : Option Int :=
  match text with
  | '-' :: digits => (readDigits digits).map fun value => -(value : Int)
  | '+' :: digits => (readDigits digits).map fun value => (value : Int)
  | digits => (readDigits digits).map fun value => (value : Int)

def readMagnitude (negative : Bool) (text : List Char) : Option Binary64 :=
  let isMark (c : Char) : Bool := c == 'e' || c == 'E'
  let mantissa := text.takeWhile (!isMark ·)
  let exponent :=
    match text.dropWhile (!isMark ·) with
    | [] => some 0
    | _ :: digits => readExponent digits
  let whole := mantissa.takeWhile (· != '.')
  let fraction := (mantissa.dropWhile (· != '.')).drop 1
  match exponent, readDigits (whole ++ fraction) with
  | some power, some digits => some (ofDecimal negative digits (power - fraction.length))
  | _, _ => none

def asciiLower (text : List Char) : List Char := text.map Char.toLower

/-- Read a decimal, `inf`, `infinity` or `nan`, in any case and with an optional sign. -/
def read? (text : String) : Option Binary64 :=
  let (negative, body) :=
    match text.toList with
    | '-' :: rest => (true, rest)
    | '+' :: rest => (false, rest)
    | body => (false, body)
  let word := String.ofList (asciiLower body)
  if word = "inf" || word = "infinity" then some (.infinite negative)
  else if word = "nan" then some .nan
  else readMagnitude negative body

end Binary64

end WhereClause
