import WhereClause.Error
import WhereClause.Json.Basic
import WhereClause.Sql.Formula
import WhereClause.Sql.Numeral
import WhereClause.Text.Order

/-! Stored values, their types and their comparison.

The type of a column decides the form in which a value is stored, and the form in which a
value of no type is compared with the column. Numbers come before texts, and texts are
ordered by their bytes.
-/

set_option autoImplicit false

namespace WhereClause.Sql

inductive Cell where
  | null
  | integer (value : Int)
  | real (value : Binary64)
  | text (value : String)
  deriving DecidableEq, Repr

inductive ColumnType where
  | integer
  | real
  | text
  deriving DecidableEq, Repr

def ColumnType.name : ColumnType → String
  | .integer => "INTEGER"
  | .real => "REAL"
  | .text => "TEXT"

namespace Cell

/-- What is sent to the database for a value. A float that is no number is sent as null. -/
def ofValue : Value → Except BindIssue Cell
  | .null .array => .error .nullCollection
  | .null _ => .ok .null
  | .bool value => .ok (.integer (if value then 1 else 0))
  | .int value => .ok (.integer value.toInt)
  | .bigInt value => .ok (.integer value.toInt)
  | .float .nan => .ok .null
  | .float value => .ok (.real value)
  | .decimal value => .ok (.text value.render)
  | .string value => .ok (.text value)
  | .timestamp value => .ok (.text value.spaced)
  | .uuid value => .ok (.text value.render)
  | .list _ _ => .error .collection

def isNull : Cell → Bool
  | .null => true
  | _ => false

def fitsInteger (value : Int) : Bool := -Int.pow 2 63 ≤ value && value < Int.pow 2 63

/-- The integer that a real equals, if it is one. The least integer of all is left out. -/
def wholeNumber? : Binary64 → Option Int
  | .finite negative significand exponent =>
    let (numerator, denominator) := Binary64.ratio significand exponent
    let magnitude : Int := numerator / denominator
    let value := if negative then -magnitude else magnitude
    if numerator % denominator = 0 && fitsInteger value && value != -Int.pow 2 63 then some value
    else none
  | _ => none

def number? (text : String) : Option Cell :=
  (Numeral.read? text.toList).map fun numeral =>
    if numeral.isWhole && fitsInteger numeral.integer then .integer numeral.integer
    else .real numeral.real

def asNumber : Cell → Cell
  | .text value => (number? value).getD (.text value)
  | cell => cell

def asText : Cell → Cell
  | .integer value => .text (toString value)
  | .real value => .text (RealText.render value)
  | cell => cell

/-- The form in which a column stores a value. A real column has a single zero. -/
def stored (type : ColumnType) (cell : Cell) : Cell :=
  match type with
  | .text => cell.asText
  | .integer =>
    match cell.asNumber with
    | .real value => ((wholeNumber? value).map .integer).getD (.real value)
    | other => other
  | .real =>
    match cell.asNumber with
    | .integer value => .real (.ofInt value)
    | .real value => .real (if value.isZero then .zero false else value)
    | other => other

/-- How a stored value is reported: integers wrap around at 32 bits, and a value whose form
is not that of its column is not reported. -/
def report : ColumnType → Cell → Json
  | .integer, .integer value => .ofInt (Int32.ofInt value).toInt
  | .real, .real (.finite negative significand exponent) =>
    .number (.float (.finite negative significand exponent))
  | .text, .text value => .string value
  | _, _ => .null

def compareReal (whole : Int) : Binary64 → Ordering
  | .finite negative significand exponent =>
    Binary64.compareRatios (whole < 0) negative (whole.natAbs, 1)
      (Binary64.ratio significand exponent)
  | .infinite negative => if negative then .gt else .lt
  | .nan => .eq

def compare? : Cell → Cell → Option Ordering
  | .null, _ => none
  | _, .null => none
  | .integer left, .integer right => some (compare left right)
  | .integer left, .real right => some (compareReal left right)
  | .real left, .integer right => some (compareReal right left).swap
  | .real left, .real right => left.compare? right
  | .text left, .text right => some (compare left right)
  | .text _, _ => some .gt
  | _, .text _ => some .lt

end Cell

/-- A cell and the type of the column it comes from, if it comes from one. -/
structure Datum where
  cell : Cell
  type : Option ColumnType

namespace Datum

def beside (datum : Datum) (other : Option ColumnType) : Cell :=
  match datum.type, other with
  | none, some .text => datum.cell.asText
  | none, some _ => datum.cell.asNumber
  | some .text, some .integer => datum.cell.asNumber
  | some .text, some .real => datum.cell.asNumber
  | _, _ => datum.cell

def compare? (left right : Datum) : Option Ordering :=
  (left.beside right.type).compare? (right.beside left.type)

end Datum

def holds : Comparison → Ordering → Bool
  | .eq, order => order == .eq
  | .ne, order => order != .eq
  | .lt, order => order == .lt
  | .le, order => order != .gt
  | .gt, order => order == .gt
  | .ge, order => order != .lt

end WhereClause.Sql
