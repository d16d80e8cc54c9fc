/-! Binary floating-point numbers with 53 significant bits.

A finite number is held as its sign, significand and binary exponent, so that
rounding and comparison are exact arithmetic on natural numbers. Every number
enters through `ofRatio`, which rounds to the nearest and breaks ties to even.
-/

set_option autoImplicit false

namespace WhereClause

/-- A finite value is `significand * 2 ^ exponent` with the sign in front. In
canonical form either the significand has 53 bits, or the exponent is the least
one; zero has the least exponent and keeps its sign. -/
inductive Binary64 where
  | finite (negative : Bool) (significand : Nat) (exponent : Int)
  | infinite (negative : Bool)
  | nan
  deriving DecidableEq, Repr

namespace Binary64

def leastExponent : Int := -1074

def greatestExponent : Int := 971

def zero (negative : Bool) : Binary64 := .finite negative 0 leastExponent

instance : Inhabited Binary64 := ⟨zero false⟩

def negate : Binary64 → Binary64
  | .finite negative significand exponent => .finite (!negative) significand exponent
  | .infinite negative => .infinite (!negative)
  | .nan => .nan

/-- The quotient rounded to the nearest natural number, a half going to the even one. -/
def divideToEven (numerator denominator : Nat) : Nat :=
  let quotient := numerator / denominator
  let twice := 2 * (numerator % denominator)
  if twice < denominator then quotient
  else if denominator < twice then quotient + 1
  else quotient + quotient % 2

def significandAt (numerator denominator : Nat) (exponent : Int) : Nat :=
  if 0 ≤ exponent then divideToEven numerator (denominator * Nat.pow 2 exponent.toNat)
  else divideToEven (numerator * Nat.pow 2 (-exponent).toNat) denominator

/-- The exponent at which the quotient has 53 significant bits, or the least one. -/
def exponentFor (numerator denominator : Nat) : Int :=
  let estimate : Int := (Nat.log2 numerator : Int) - (Nat.log2 denominator : Int) - 53
  let exponent := max estimate leastExponent
  let scaled :=
    if 0 ≤ exponent then numerator / (denominator * Nat.pow 2 exponent.toNat)
    else numerator * Nat.pow 2 (-exponent).toNat / denominator
  if scaled < Nat.pow 2 53 then exponent else exponent + 1

def ofRatio (negative : Bool) (numerator denominator : Nat) : Binary64 :=
  if numerator = 0 then zero negative
  else
    let exponent := exponentFor numerator denominator
    let significand := significandAt numerator denominator exponent
    let (significand, exponent) :=
      if significand = Nat.pow 2 53 then (Nat.pow 2 52, exponent + 1) else (significand, exponent)
    if greatestExponent < exponent then .infinite negative
    else .finite negative significand exponent

/-- The number nearest to `digits * 10 ^ power`. Powers far outside the range of
the format are settled without computing them. -/
def ofDecimal (negative : Bool) (digits : Nat) (power : Int) : Binary64 :=
  if digits = 0 then zero negative
  else
    let magnitude : Int := (Nat.toDigits 10 digits).length + power
    if 310 < magnitude then .infinite negative
    else if magnitude < -330 then zero negative
    else if 0 ≤ power then ofRatio negative (digits * Nat.pow 10 power.toNat) 1
    else ofRatio negative digits (Nat.pow 10 (-power).toNat)

def ofNat (value : Nat) : Binary64 := ofRatio false value 1

def ofInt (value : Int) : Binary64 := ofRatio (value < 0) value.natAbs 1

def ratio (significand : Nat) (exponent : Int) : Nat × Nat :=
  if 0 ≤ exponent then (significand * Nat.pow 2 exponent.toNat, 1)
  else (significand, Nat.pow 2 (-exponent).toNat)

/-- Product of magnitudes with the sign of the first factor; both are finite in every use. -/
def scaleUp (value factor : Binary64) : Binary64 :=
  match value, factor with
  | .finite negative first firstExponent, .finite _ second secondExponent =>
    let (firstNum, firstDen) := ratio first firstExponent
    let (secondNum, secondDen) := ratio second secondExponent
    ofRatio negative (firstNum * secondNum) (firstDen * secondDen)
  | value, _ => value

def scaleDown (value divisor : Binary64) : Binary64 :=
  match value, divisor with
  | .finite negative first firstExponent, .finite _ second secondExponent =>
    let (firstNum, firstDen) := ratio first firstExponent
    let (secondNum, secondDen) := ratio second secondExponent
    ofRatio negative (firstNum * secondDen) (firstDen * secondNum)
  | value, _ => value

def isInfinite : Binary64 → Bool
  | .infinite _ => true
  | _ => false

def isNaN : Binary64 → Bool
  | .nan => true
  | _ => false

def isZero : Binary64 → Bool
  | .finite _ 0 _ => true
  | _ => false

def compareRatios (leftNegative rightNegative : Bool) (left right : Nat × Nat) : Ordering :=
  let signed (negative : Bool) (magnitude : Nat) : Int :=
    if negative then -(magnitude : Int) else magnitude
  compare (signed leftNegative (left.1 * right.2)) (signed rightNegative (right.1 * left.2))

/-- Numeric order; nothing compares with a value that is not a number. The two zeros are equal. -/
def compare? : Binary64 → Binary64 → Option Ordering
  | .nan, _ => none
  | _, .nan => none
  | .infinite left, .infinite right =>
    some (if left = right then .eq else if left then .lt else .gt)
  | .infinite left, _ => some (if left then .lt else .gt)
  | _, .infinite right => some (if right then .gt else .lt)
  | .finite leftNegative left leftExponent, .finite rightNegative right rightExponent =>
    some (compareRatios leftNegative rightNegative (ratio left leftExponent)
      (ratio right rightExponent))

def sameNumber (left right : Binary64) : Bool :=
  left.compare? right == some .eq

end Binary64

end WhereClause
