import WhereClause.Number.Binary64

/-! Shortest decimal digits of a binary floating-point number.

Among the decimals that round back to the number, the one with the fewest
digits is chosen, and of those the nearest. Each digit count fixes a grid of
decimals, and only the two grid points around the number need to be tried.
-/

set_option autoImplicit false

namespace WhereClause

/-- Which neighbour a number half way between two equally short decimals takes. -/
inductive Tie where
  | up
  | toEven
  deriving DecidableEq, Repr

/-- The decimal `0.d₁d₂… * 10 ^ point`, without trailing zeros; zero has no digits. -/
structure Digits where
  digits : List Nat
  point : Int
  deriving DecidableEq, Repr

namespace Shortest

/-- The number and the ends of the interval that rounds to it, over one denominator.
The lower gap is half as wide at a power of two. -/
structure Interval where
  low : Nat
  value : Nat
  high : Nat
  denominator : Nat
  closed : Bool

def interval (significand : Nat) (exponent : Int) : Interval :=
  let narrow := significand = Nat.pow 2 52 && Binary64.leastExponent < exponent
  let scaledLow := if narrow then 4 * significand - 1 else 4 * significand - 2
  let unit := exponent - 2
  let (factor, denominator) :=
    if 0 ≤ unit then (Nat.pow 2 unit.toNat, 1) else (1, Nat.pow 2 (-unit).toNat)
  { low := scaledLow * factor
    value := 4 * significand * factor
    high := (4 * significand + 2) * factor
    denominator
    closed := significand % 2 = 0 }

def Interval.holds (bounds : Interval) (candidate : Nat) (power : Int) : Bool :=
  let (number, scale) :=
    if 0 ≤ power then (candidate * Nat.pow 10 power.toNat * bounds.denominator, 1)
    else (candidate * bounds.denominator, Nat.pow 10 (-power).toNat)
  if bounds.closed then bounds.low * scale ≤ number && number ≤ bounds.high * scale
  else bounds.low * scale < number && number < bounds.high * scale

def decimalPoint (numerator denominator : Nat) : Int :=
  let whole := numerator / denominator
  if 0 < whole then (Nat.toDigits 10 whole).length
  else
    let rec leadingZeros : Nat → Nat → Int
      | 0, _ => 0
      | fuel + 1, scaled =>
        if denominator ≤ scaled * 10 then 0 else leadingZeros fuel (scaled * 10) - 1
    leadingZeros 400 numerator

def attempt (bounds : Interval) (point : Int) (tie : Tie) (count : Nat) : Option (Nat × Int) :=
  let power := point - count
  let (number, scale) :=
    if 0 ≤ power then (bounds.value, bounds.denominator * Nat.pow 10 power.toNat)
    else (bounds.value * Nat.pow 10 (-power).toNat, bounds.denominator)
  let below := number / scale
  let above := below + 1
  let remainder := 2 * (number % scale)
  match bounds.holds below power, bounds.holds above power with
  | true, true =>
    let chooseAbove :=
      match compare remainder scale with
      | .lt => false
      | .gt => true
      | .eq => match tie with
        | .up => true
        | .toEven => below % 2 = 1
    some (if chooseAbove then above else below, power)
  | true, false => some (below, power)
  | false, true => some (above, power)
  | false, false => none

def digitsOf (value : Nat) : List Nat :=
  (Nat.toDigits 10 value).map fun c => c.toNat - '0'.toNat

def dropTrailingZeros (digits : List Nat) : List Nat :=
  (digits.reverse.dropWhile (· == 0)).reverse

/-- Digit counts are tried in increasing order; seventeen digits always suffice. -/
def search (bounds : Interval) (point : Int) (tie : Tie) : Digits :=
  match (List.range 18).findSome? fun count => attempt bounds point tie (count + 1) with
  | some (number, power) =>
    let digits := digitsOf number
    { digits := dropTrailingZeros digits, point := digits.length + power }
  | none => { digits := [], point := 0 }

end Shortest

def shortestDigits (tie : Tie) (significand : Nat) (exponent : Int) : Digits :=
  if significand = 0 then { digits := [], point := 0 }
  else
    let bounds := Shortest.interval significand exponent
    Shortest.search bounds (Shortest.decimalPoint bounds.value bounds.denominator) tie

end WhereClause
