/-! Calendar timestamps without a time zone.

Dates follow the proleptic Gregorian calendar. A clock counts sixty seconds in a minute and
nanoseconds behind the second; a leap second goes on counting behind the second that it
follows, beyond a whole one. It is written as the second after, and the fraction with the
fewest of 0, 3, 6 or 9 digits that lose nothing.

A clock may put a leap second behind any second, but then its text is also that of another
time. A timestamp has leap seconds only at the end of a minute, written as second 60; these
are the times that texts give.
-/

set_option autoImplicit false

namespace WhereClause

namespace Calendar

def isLeapYear (year : Int) : Bool :=
  year % 4 == 0 && (year % 100 != 0 || year % 400 == 0)

def daysInMonth (year : Int) (month : Nat) : Nat :=
  if month = 2 then if isLeapYear year then 29 else 28
  else if month = 4 || month = 6 || month = 9 || month = 11 then 30
  else 31

def leastYear : Int := -262143

def greatestYear : Int := 262142

end Calendar

structure ClockTime where
  year : Int
  month : Nat
  day : Nat
  hour : Nat
  minute : Nat
  second : Nat
  fraction : Nat
  year_bounds : Calendar.leastYear ≤ year ∧ year ≤ Calendar.greatestYear
  month_bounds : 1 ≤ month ∧ month ≤ 12
  day_bounds : 1 ≤ day ∧ day ≤ Calendar.daysInMonth year month
  hour_lt : hour < 24
  minute_lt : minute < 60
  second_lt : second < 60
  fraction_lt : fraction < 2000000000
  deriving DecidableEq

namespace ClockTime

/-- A leap second, if this is one, follows the last second of its minute. -/
def LeapLast (time : ClockTime) : Prop := 1000000000 ≤ time.fraction → time.second = 59

def padded (width value : Nat) : List Char :=
  let digits := Nat.toDigits 10 value
  List.replicate (width - digits.length) '0' ++ digits

/-- Four digits; years outside 0 to 9999 carry a sign. -/
def yearChars (year : Int) : List Char :=
  if 0 ≤ year && year ≤ 9999 then padded 4 year.natAbs
  else (if year < 0 then '-' else '+') :: padded 4 year.natAbs

def fractionChars (nanosecond : Nat) : List Char :=
  if nanosecond = 0 then []
  else if nanosecond % 1000000 = 0 then '.' :: padded 3 (nanosecond / 1000000)
  else if nanosecond % 1000 = 0 then '.' :: padded 6 (nanosecond / 1000)
  else '.' :: padded 9 nanosecond

def shownSecond (time : ClockTime) : Nat := time.second + time.fraction / 1000000000

def nanosecond (time : ClockTime) : Nat := time.fraction % 1000000000

def chars (separator : Char) (time : ClockTime) : List Char :=
  yearChars time.year ++ '-' :: padded 2 time.month ++ '-' :: padded 2 time.day
    ++ separator :: padded 2 time.hour ++ ':' :: padded 2 time.minute
    ++ ':' :: padded 2 time.shownSecond ++ fractionChars time.nanosecond

/-- Text for people and for binding. -/
def spaced (time : ClockTime) : String := String.ofList (time.chars ' ')

/-- Text for interchange. -/
def render (time : ClockTime) : String := String.ofList (time.chars 'T')

/-- A leap second comes before the second after it. -/
def before (left right : ClockTime) : Bool :=
  let key (time : ClockTime) : List Int :=
    [time.year, time.month, time.day, time.hour, time.minute, time.second, time.fraction]
  decide (key left < key right)

end ClockTime

/-- A point in time with a text of its own. -/
structure Timestamp extends ClockTime where
  leap_last : toClockTime.LeapLast
  deriving DecidableEq

namespace Timestamp

/-- The time that is written with these fields; second 60 is the leap second behind second 59. -/
def ofFields? (year : Int) (month day hour minute second nanosecond : Nat) : Option Timestamp :=
  if yearBounds : Calendar.leastYear ≤ year ∧ year ≤ Calendar.greatestYear then
    if monthBounds : 1 ≤ month ∧ month ≤ 12 then
      if dayBounds : 1 ≤ day ∧ day ≤ Calendar.daysInMonth year month then
        if hourBound : hour < 24 then
          if minuteBound : minute < 60 then
            if secondBound : second ≤ 60 then
              if nanosecondBound : nanosecond < 1000000000 then
                some
                  { year, month, day, hour, minute
                    second := min second 59
                    fraction := (second - 59) * 1000000000 + nanosecond
                    year_bounds := yearBounds
                    month_bounds := monthBounds
                    day_bounds := dayBounds
                    hour_lt := hourBound
                    minute_lt := minuteBound
                    second_lt := by omega
                    fraction_lt := by omega
                    leap_last := by
                      intro leap
                      dsimp only at leap ⊢
                      omega }
              else none
            else none
          else none
        else none
      else none
    else none
  else none

end Timestamp

end WhereClause
