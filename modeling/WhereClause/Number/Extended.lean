import WhereClause.Number.Binary64

/-! Positive binary numbers with 64 significant bits and no bound on the exponent.

They serve as the working precision of conversions between decimal text and `Binary64`.
Every product is rounded to the nearest, a half going to the even significand.
-/

set_option autoImplicit false

namespace WhereClause

/-- The number `significand * 2 ^ exponent`. -/
structure Extended where
  significand : Nat
  exponent : Int
  deriving DecidableEq, Repr

namespace Extended

def rounded (significand : Nat) (exponent : Int) : Extended :=
  let excess := Nat.log2 significand + 1 - 64
  { significand := Binary64.divideToEven significand (Nat.pow 2 excess)
    exponent := exponent + excess }

def ofNat (value : Nat) : Extended := rounded value 0

def tenth (places : Nat) : Extended :=
  let shift := 64 + Nat.log2 (Nat.pow 10 places)
  rounded (Binary64.divideToEven (Nat.pow 2 shift) (Nat.pow 10 places)) (-(shift : Int))

def powerOfTen (power : Int) : Extended :=
  if 0 ≤ power then ofNat (Nat.pow 10 power.toNat) else tenth (-power).toNat

def mul (left right : Extended) : Extended :=
  rounded (left.significand * right.significand) (left.exponent + right.exponent)

def lt (left right : Extended) : Bool :=
  let least := min left.exponent right.exponent
  left.significand * Nat.pow 2 (left.exponent - least).toNat
    < right.significand * Nat.pow 2 (right.exponent - least).toNat

def floor (number : Extended) : Nat :=
  if 0 ≤ number.exponent then number.significand * Nat.pow 2 number.exponent.toNat
  else number.significand / Nat.pow 2 (-number.exponent).toNat

/-- The nearest number of 53 bits; what exceeds the greatest of them is infinite. -/
def toBinary64 (number : Extended) : Binary64 :=
  let greatest : Extended := { significand := Nat.pow 2 53 - 1, exponent := Binary64.greatestExponent }
  if greatest.lt number then .infinite false
  else
    let (numerator, denominator) := Binary64.ratio number.significand number.exponent
    .ofRatio false numerator denominator

end Extended

end WhereClause
