import WhereClause.Text.Hex
import WhereClause.Text.Split
import WhereClause.Text.Utf8

/-! Bytes written as a percent sign and two hexadecimal digits. -/

set_option autoImplicit false

namespace WhereClause.Percent

/-- The bytes of a text; a percent sign without two digits stands for itself. -/
def bytes : List Char → List Utf8.Byte
  | [] => []
  | '%' :: high :: low :: rest =>
    match Text.hexDigit? high, Text.hexDigit? low with
    | some first, some second => (16 * first + second) :: bytes rest
    | _, _ => Utf8.bytes '%' ++ bytes (high :: low :: rest)
  | c :: rest => Utf8.bytes c ++ bytes rest

def decode (text : List Char) : Except Utf8.Fault String := Utf8.decode (bytes text)

/-- A part of a form, in which a plus sign stands for a space. -/
def formText (text : List Char) : String :=
  Utf8.decodeLossy (bytes (text.map fun c => if c = '+' then ' ' else c))

def formPairs (text : List Char) : List (String × String) :=
  ((Text.splitChars '&' text).filter (!·.isEmpty)).map fun part =>
    (formText (part.takeWhile (· != '=')), formText ((part.dropWhile (· != '=')).drop 1))

end WhereClause.Percent
