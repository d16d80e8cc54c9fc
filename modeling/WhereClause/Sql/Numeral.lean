import WhereClause.Number.Decimal
import WhereClause.Number.Extended
import WhereClause.Number.FloatText

/-! Numbers as the database reads them from text and writes them as text.

Both ways a number is scaled by powers of ten in a working precision of 64 bits, one
rounding at a time. The result is not always the nearest one, and every step counts.
-/

set_option autoImplicit false

namespace WhereClause.Sql

structure Numeral where
  negative : Bool
  whole : List Char
  fraction : Option (List Char)
  /-- Sign and digits of the exponent. -/
  exponent : Option (Bool × List Char)
  deriving DecidableEq, Repr

namespace Numeral

/-- The space and the five characters from the tab on. -/
def isBlank (c : Char) : Bool := c == ' ' || (9 ≤ c.toNat && c.toNat ≤ 13)

def trim (text : List Char) : List Char :=
  ((text.dropWhile isBlank).reverse.dropWhile isBlank).reverse

def signed : List Char → Bool × List Char
  | '-' :: rest => (true, rest)
  | '+' :: rest => (false, rest)
  | text => (false, text)

def fractionOf : List Char → Option (List Char) × List Char
  | '.' :: rest => (some (rest.takeWhile Char.isDigit), rest.dropWhile Char.isDigit)
  | text => (none, text)

def exponentOf : List Char → Option (Bool × List Char) × List Char
  | c :: rest =>
    if c = 'e' || c = 'E' then
      let (negative, digits) := signed rest
      (some (negative, digits.takeWhile Char.isDigit), digits.dropWhile Char.isDigit)
    else (none, c :: rest)
  | [] => (none, [])

/-- A number needs a digit, and so does an exponent; the digits may all stand behind the
point, or all in front of it. -/
def read? (text : List Char) : Option Numeral :=
  let (negative, body) := signed (trim text)
  let whole := body.takeWhile Char.isDigit
  let (fraction, body) := fractionOf (body.dropWhile Char.isDigit)
  let (exponent, rest) := exponentOf body
  let hasDigits := !whole.isEmpty || fraction.any (!·.isEmpty)
  if hasDigits && exponent.all (!·.2.isEmpty) && rest.isEmpty then
    some { negative, whole, fraction, exponent }
  else none

def isWhole (numeral : Numeral) : Bool := numeral.fraction.isNone && numeral.exponent.isNone

def integer (numeral : Numeral) : Int :=
  let magnitude : Int := numeral.whole.foldl (fun value c => 10 * value + Decimal.digitValue c) 0
  if numeral.negative then -magnitude else magnitude

/-- As many digits as a word of 64 bits is sure to hold, and the power of ten that makes up
for those left out. -/
def leadingDigits (numeral : Numeral) : Nat × Int :=
  let limit := (Nat.pow 2 64 - 10) / 10
  let (digits, power) := numeral.whole.foldl (fun ((digits, power) : Nat × Int) c =>
    if digits < limit then (10 * digits + Decimal.digitValue c, power) else (digits, power + 1)) (0, 0)
  (numeral.fraction.getD []).foldl (fun ((digits, power) : Nat × Int) c =>
    if digits < limit then (10 * digits + Decimal.digitValue c, power - 1) else (digits, power))
    (digits, power)

/-- Exponents beyond ten thousand are as good as ten thousand. -/
def exponentValue (numeral : Numeral) : Int :=
  match numeral.exponent with
  | none => 0
  | some (negative, digits) =>
    let magnitude : Int := digits.foldl (fun value c =>
      if value < 10000 then 10 * value + Decimal.digitValue c else 10000) 0
    if negative then -magnitude else magnitude

/-- Move powers of ten into the digits while they fit a word of 64 bits. -/
def takeIn (digits : Nat) : (power : Nat) → Nat × Nat
  | 0 => (digits, 0)
  | power + 1 =>
    if digits < (Nat.pow 2 64 - 1) / 10 then takeIn (10 * digits) power else (digits, power + 1)

def takeOut (digits : Nat) : (places : Nat) → Nat × Nat
  | 0 => (digits, 0)
  | places + 1 => if digits % 10 = 0 then takeOut (digits / 10) places else (digits, places + 1)

/-- Multiply by a power of ten in steps of a hundred, ten and one. -/
def scale (number : Extended) (negative : Bool) (power : Nat) : Extended :=
  let step (size : Int) : Extended := .powerOfTen (if negative then -size else size)
  let number := Nat.repeat (·.mul (step 100)) (power / 100) number
  let number := Nat.repeat (·.mul (step 10)) (power % 100 / 10) number
  Nat.repeat (·.mul (step 1)) (power % 10) number

def magnitude (digits : Nat) (power : Int) : Binary64 :=
  if digits = 0 then .zero false
  else
    let (digits, rest) :=
      if 0 ≤ power then takeIn digits power.toNat else takeOut digits (-power).toNat
    if rest = 0 then .ofNat digits else (scale (.ofNat digits) (power < 0) rest).toBinary64

def real (numeral : Numeral) : Binary64 :=
  let (digits, power) := numeral.leadingDigits
  let value := magnitude digits (power + numeral.exponentValue)
  if numeral.negative then value.negate else value

end Numeral

namespace RealText

/-- Fifteen digits, with an exponent of at least two digits from `1e15` on and below
`1e-4`. -/
def format : FloatFormat :=
  { tie := .up, lowestPoint := some (-3), highestPoint := some 15, keepFraction := true,
    plusSign := true, fullMantissa := true, exponentWidth := 2 }

/-- Multiply by a power of ten while a test holds, counting the powers. No number of the
format needs more than eleven steps of one size. -/
def scaleWhile (test : Extended → Bool) (power : Int) :
    (fuel : Nat) → Extended × Int → Extended × Int
  | 0, state => state
  | fuel + 1, (number, taken) =>
    if test number then
      scaleWhile test power fuel (number.mul (.powerOfTen power), taken - power)
    else (number, taken)

def settle (number : Extended) : Extended × Int :=
  let atLeast (power : Int) (number : Extended) : Bool := !number.lt (.powerOfTen power)
  let below (power : Int) (number : Extended) : Bool := number.lt (.powerOfTen power)
  if atLeast 19 number then
    scaleWhile (atLeast 19) (-1) 11
      (scaleWhile (atLeast 29) (-10) 11 (scaleWhile (atLeast 119) (-100) 11 (number, 0)))
  else
    scaleWhile (below 17) 1 11
      (scaleWhile (below 7) 10 11 (scaleWhile (below (-97)) 100 11 (number, 0)))

def digits (significand : Nat) (exponent : Int) : Digits :=
  if significand = 0 then { digits := [], point := 0 }
  else
    let (number, power) := settle { significand, exponent }
    let value := number.floor
    let excess := (Nat.toDigits 10 value).length - 15
    let kept := Shortest.digitsOf (Decimal.dropDigits value excess)
    { digits := Shortest.dropTrailingZeros kept, point := kept.length + excess + power }

def render : Binary64 → String
  | .nan => ""
  | .infinite negative => if negative then "-Inf" else "Inf"
  | .finite negative significand exponent =>
    let body := format.layout (digits significand exponent)
    String.ofList (if negative && significand != 0 then '-' :: body else body)

end RealText

end WhereClause.Sql
