import WhereClause.Json.Basic

/-! Reading JSON numbers.

A float is taken from as many leading digits as fit 64 bits, then scaled by one exact
power of ten at a time. The result may differ from the nearest float in its last bit.
-/

set_option autoImplicit false

namespace WhereClause.JsonNumber

def maxSignificand : Nat := Nat.pow 2 64 - 1

/-- Leading digits that fit 64 bits, the number of digits left out, and the rest. -/
def takeDigits (significand : Nat) : List Char → Nat × Nat × List Char
  | [] => (significand, 0, [])
  | c :: rest =>
    if c.isDigit then
      let next := 10 * significand + (c.toNat - '0'.toNat)
      if next ≤ maxSignificand then takeDigits next rest
      else
        let dropped := (c :: rest).takeWhile Char.isDigit
        (significand, dropped.length, rest.dropWhile Char.isDigit)
    else (significand, 0, c :: rest)

def powerOfTen (exponent : Nat) : Binary64 := .ofDecimal false 1 exponent

/-- Divide by `10 ^ 308` until the exponent fits the range of exact powers. -/
def scaleDown (value : Binary64) : (fuel exponent : Nat) → Binary64
  | 0, _ => value
  | fuel + 1, exponent =>
    if exponent ≤ 308 then value.scaleDown (powerOfTen exponent)
    else if value.isZero then value
    else scaleDown (value.scaleDown (powerOfTen 308)) fuel (exponent - 308)

def scaled (negative : Bool) (significand : Nat) (exponent : Int) : JsonNumber :=
  let value := Binary64.ofNat significand
  let result :=
    if exponent < 0 then some (scaleDown value 8 exponent.natAbs)
    else if significand = 0 then some value
    else if exponent ≤ 308 then
      let product := value.scaleUp (powerOfTen exponent.toNat)
      if product.isInfinite then none else some product
    else none
  match result with
  | none => .outOfRange
  | some value => .float (if negative then value.negate else value)

/-- Digits of an exponent; one beyond 32 bits is kept at the greatest value. -/
def exponentValue (digits : List Char) : Nat :=
  digits.foldl (fun total c => min (10 * total + (c.toNat - '0'.toNat)) (Nat.pow 2 31 - 1)) 0

def withExponent (negative : Bool) (significand : Nat) (exponent : Int) (text : List Char) :
    Option (JsonNumber × List Char) :=
  match text with
  | c :: rest =>
    if c = 'e' || c = 'E' then
      let (down, rest) :=
        match rest with
        | '+' :: rest => (false, rest)
        | '-' :: rest => (true, rest)
        | rest => (false, rest)
      let digits := rest.takeWhile Char.isDigit
      if digits.isEmpty then none
      else
        let change : Int := exponentValue digits
        let exponent := if down then exponent - change else exponent + change
        some (scaled negative significand exponent, rest.dropWhile Char.isDigit)
    else some (scaled negative significand exponent, text)
  | [] => some (scaled negative significand exponent, text)

/-- The digits behind the point; `dropped` digits in front of it did not fit. -/
def withFraction (negative : Bool) (significand dropped : Nat) (text : List Char) :
    Option (JsonNumber × List Char) :=
  let digits := text.takeWhile Char.isDigit
  if digits.isEmpty then none
  else
    let (significand, ignored, rest) := takeDigits significand text
    let exponent : Int := (dropped : Int) - ((digits.length - ignored : Nat) : Int)
    withExponent negative significand exponent rest

/-- An integer that fits 64 bits, signed or unsigned, stays one; minus zero is a float. -/
def whole (negative : Bool) (significand : Nat) : JsonNumber :=
  if !negative then .integer significand
  else if significand = 0 || Nat.pow 2 63 < significand then
    .float (Binary64.ofNat significand).negate
  else .integer (-(significand : Int))

def magnitude (negative : Bool) (text : List Char) : Option (JsonNumber × List Char) :=
  let digits := text.takeWhile Char.isDigit
  if digits.isEmpty || (digits.head? == some '0' && 1 < digits.length) then none
  else
    let (significand, dropped, rest) := takeDigits 0 text
    match rest with
    | '.' :: rest => withFraction negative significand dropped rest
    | c :: _ =>
      if c = 'e' || c = 'E' then withExponent negative significand dropped rest
      else if dropped = 0 then some (whole negative significand, rest)
      else some (scaled negative significand dropped, rest)
    | [] =>
      if dropped = 0 then some (whole negative significand, rest)
      else some (scaled negative significand dropped, rest)

def read? : List Char → Option (JsonNumber × List Char)
  | '-' :: rest => magnitude true rest
  | text => magnitude false text

end WhereClause.JsonNumber
