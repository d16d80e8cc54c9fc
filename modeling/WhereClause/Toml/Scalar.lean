import WhereClause.Json.Reader

/-! Names, strings, numbers and dates of TOML text.

TOML values are held as JSON values. A date or time is kept apart from strings as an
object with one field. Readers that repeat take a limit, which is not reached if it exceeds
the length of the text.
-/

set_option autoImplicit false

namespace WhereClause.Toml

def isSpace (c : Char) : Bool := c == ' ' || c == '\t'

def skipSpaces (text : List Char) : List Char := text.dropWhile isSpace

/-- Characters that may stand in a comment or string: no controls but the tab. -/
def isPrintable (c : Char) : Bool := c == '\t' || (0x20 ≤ c.toNat && c.toNat != 0x7f)

def newline? : List Char → Option (List Char)
  | '\n' :: rest => some rest
  | '\r' :: '\n' :: rest => some rest
  | _ => none

def skipComment : List Char → List Char
  | '#' :: rest => rest.dropWhile isPrintable
  | text => text

def skipFrom : (inComment : Bool) → List Char → List Char
  | _, '\n' :: rest => skipFrom false rest
  | _, '\r' :: '\n' :: rest => skipFrom false rest
  | false, '#' :: rest => skipFrom true rest
  | inComment, c :: rest =>
    if isSpace c || (inComment && isPrintable c) then skipFrom inComment rest else c :: rest
  | _, [] => []

def skipLines (text : List Char) : List Char := skipFrom false text

def isBareChar (c : Char) : Bool := c.isAlphanum || c == '_' || c == '-'

def charOfCode? (code : Nat) : Option Char :=
  if code.isValidChar then some (Char.ofNat code) else none

def hexValue? (digits : List Char) : Option Nat :=
  digits.foldlM (fun total c => (Text.hexDigit? c).map (16 * total + ·)) 0

def escape? : List Char → Option (Char × List Char)
  | 'b' :: rest => some ('\x08', rest)
  | 't' :: rest => some ('\t', rest)
  | 'n' :: rest => some ('\n', rest)
  | 'f' :: rest => some ('\x0c', rest)
  | 'r' :: rest => some ('\r', rest)
  | '"' :: rest => some ('"', rest)
  | '\\' :: rest => some ('\\', rest)
  | 'u' :: rest => do
    if (rest.take 4).length < 4 then none
    else return (← charOfCode? (← hexValue? (rest.take 4)), rest.drop 4)
  | 'U' :: rest => do
    if (rest.take 8).length < 8 then none
    else return (← charOfCode? (← hexValue? (rest.take 8)), rest.drop 8)
  | _ => none

def basicBody : (limit : Nat) → List Char → Option (List Char × List Char)
  | 0, _ => none
  | limit + 1, text =>
    match text with
    | '"' :: rest => some ([], rest)
    | '\\' :: rest => do
      let (c, rest) ← escape? rest
      let (chars, rest) ← basicBody limit rest
      return (c :: chars, rest)
    | c :: rest =>
      if isPrintable c then (basicBody limit rest).map fun (chars, rest) => (c :: chars, rest)
      else none
    | [] => none

def literalBody : List Char → Option (List Char × List Char)
  | '\'' :: rest => some ([], rest)
  | c :: rest =>
    if isPrintable c then (literalBody rest).map fun (chars, rest) => (c :: chars, rest) else none
  | [] => none

/-- Up to two quotes may stand in front of the three that close a string. -/
def closing? (quote : Char) (text : List Char) : Option (List Char × List Char) :=
  let count := (text.takeWhile (· == quote)).length
  if 3 ≤ count && count ≤ 5 then some (List.replicate (count - 3) quote, text.drop count)
  else none

def skipFold : List Char → List Char
  | '\n' :: rest => skipFold rest
  | '\r' :: '\n' :: rest => skipFold rest
  | c :: rest => if isSpace c then skipFold rest else c :: rest
  | [] => []

/-- A backslash at the end of a line removes the white space that follows. -/
def continuation? (text : List Char) : Option (List Char) :=
  (newline? (skipSpaces text)).map skipFold

/-- A quote inside a string of several lines: the closing quotes, or one or two quotes
that stand for themselves. -/
def longBody (quote : Char) (escapes : Bool) : (limit : Nat) → List Char → Option (List Char × List Char)
  | 0, _ => none
  | limit + 1, text =>
    match text with
    | [] => none
    | c :: rest =>
      if c = quote then
        match closing? quote text with
        | some (quotes, rest) => some (quotes, rest)
        | none =>
          if (text.takeWhile (· == quote)).length < 3 then
            (longBody quote escapes limit rest).map fun (chars, rest) => (c :: chars, rest)
          else none
      else if c = '\\' && escapes then
        match continuation? rest with
        | some rest => longBody quote escapes limit rest
        | none => do
          let (c, rest) ← escape? rest
          let (chars, rest) ← longBody quote escapes limit rest
          return (c :: chars, rest)
      else
        match newline? text with
        | some rest =>
          (longBody quote escapes limit rest).map fun (chars, rest) => ('\n' :: chars, rest)
        | none =>
          if isPrintable c then
            (longBody quote escapes limit rest).map fun (chars, rest) => (c :: chars, rest)
          else none

/-- A line break right after the opening quotes is dropped. -/
def longString (limit : Nat) (quote : Char) (escapes : Bool) (text : List Char) :
    Option (String × List Char) :=
  let body := (newline? text).getD text
  (longBody quote escapes limit body).map fun (chars, rest) => (String.ofList chars, rest)

def shortString (limit : Nat) : List Char → Option (String × List Char)
  | '"' :: rest => (basicBody limit rest).map fun (chars, rest) => (String.ofList chars, rest)
  | '\'' :: rest => (literalBody rest).map fun (chars, rest) => (String.ofList chars, rest)
  | _ => none

def string (limit : Nat) : List Char → Option (String × List Char)
  | '"' :: '"' :: '"' :: rest => longString limit '"' true rest
  | '\'' :: '\'' :: '\'' :: rest => longString limit '\'' false rest
  | text => shortString limit text

def simpleKey (limit : Nat) (text : List Char) : Option (String × List Char) :=
  match text with
  | c :: _ =>
    if c = '"' || c = '\'' then shortString limit text
    else
      let name := text.takeWhile isBareChar
      if name.isEmpty then none else some (String.ofList name, text.drop name.length)
  | [] => none

def key (limit : Nat) : (count : Nat) → List Char → Option (List String × List Char)
  | 0, _ => none
  | count + 1, text => do
    let (name, rest) ← simpleKey limit (skipSpaces text)
    match skipSpaces rest with
    | '.' :: rest => (key limit count rest).map fun (names, rest) => (name :: names, rest)
    | rest => some ([name], rest)

/-- How many names a key may have, and how many brackets may be open at once, at most. -/
def nestingLimit : Nat := 79

def keyPath (limit : Nat) (text : List Char) : Option (List String × List Char) :=
  key limit nestingLimit text

def groupedDigits (isDigit : Char → Bool) (text : List Char) : Option (List Char) :=
  let wellPlaced :=
    text.head? != some '_' && text.getLast? != some '_' &&
      (text.zip (text.drop 1)).all fun (left, right) => !(left == '_' && right == '_')
  let digits := text.filter (· != '_')
  if wellPlaced && !digits.isEmpty && digits.all isDigit then some digits else none

def digitValue (c : Char) : Nat := (Text.hexDigit? c).getD 0

def baseValue (base : Nat) (digits : List Char) : Nat :=
  digits.foldl (fun total c => base * total + digitValue c) 0

def integerJson? (value : Int) : Option Json :=
  if -Int.pow 2 63 ≤ value ∧ value < Int.pow 2 63 then some (.ofInt value) else none

def isOctal (c : Char) : Bool := '0' ≤ c && c ≤ '7'

def isHex (c : Char) : Bool := (Text.hexDigit? c).isSome

def isBinary (c : Char) : Bool := c == '0' || c == '1'

/-- A decimal integer has no leading zeros. -/
def decimalDigits? (text : List Char) : Option (List Char) :=
  match groupedDigits Char.isDigit text with
  | some digits => if digits.head? == some '0' && 1 < digits.length then none else some digits
  | none => none

def unsignedInteger? : List Char → Option Json
  | '0' :: 'x' :: rest => (groupedDigits isHex rest).bind fun digits =>
      integerJson? (baseValue 16 digits)
  | '0' :: 'o' :: rest => (groupedDigits isOctal rest).bind fun digits =>
      integerJson? (baseValue 8 digits)
  | '0' :: 'b' :: rest => (groupedDigits isBinary rest).bind fun digits =>
      integerJson? (baseValue 2 digits)
  | text => (decimalDigits? text).bind fun digits => integerJson? (baseValue 10 digits)

def integer? : List Char → Option Json
  | '+' :: rest => (decimalDigits? rest).bind fun digits => integerJson? (baseValue 10 digits)
  | '-' :: rest => (decimalDigits? rest).bind fun digits => integerJson? (-(baseValue 10 digits : Int))
  | text => unsignedInteger? text

def unsigned : List Char → List Char
  | '+' :: rest => rest
  | '-' :: rest => rest
  | text => text

/-- A float has a fraction or an exponent, or is one of the special values. Digits that
exceed the range upward are refused. -/
def float? (text : List Char) : Option Json :=
  let body := unsigned text
  let isMark (c : Char) : Bool := c == 'e' || c == 'E'
  let number := (Binary64.read? (String.ofList (text.filter (· != '_')))).getD (.zero false)
  if body == "inf".toList || body == "nan".toList then some (.number (.float number))
  else
    let mantissa := body.takeWhile (!isMark ·)
    let exponent := (body.dropWhile (!isMark ·)).drop 1
    let hasExponent := body.any isMark
    let exponentValid := !hasExponent || (groupedDigits Char.isDigit (unsigned exponent)).isSome
    let whole := mantissa.takeWhile (· != '.')
    let hasFraction := mantissa.any (· == '.')
    let fraction := (mantissa.dropWhile (· != '.')).drop 1
    let fractionValid := !hasFraction || (groupedDigits Char.isDigit fraction).isSome
    if (hasExponent || hasFraction) && exponentValid && fractionValid
        && (decimalDigits? whole).isSome && number != .infinite false then
      some (.number (.float number))
    else none

def numberOf (digits : List Char) : Nat := baseValue 10 digits

def twoDigits? : List Char → Option (Nat × List Char)
  | a :: b :: rest => if a.isDigit && b.isDigit then some (numberOf [a, b], rest) else none
  | _ => none

def after? (mark : Char) : List Char → Option (List Char)
  | c :: rest => if c = mark then some rest else none
  | [] => none

def daysInMonth (year month : Nat) : Nat :=
  if month = 2 then if year % 4 = 0 && (year % 100 != 0 || year % 400 = 0) then 29 else 28
  else if month = 4 || month = 6 || month = 9 || month = 11 then 30
  else 31

def date? (text : List Char) : Option (List Char) := do
  let year := text.take 4
  if year.length = 4 && year.all Char.isDigit then
    let (month, rest) ← twoDigits? (← after? '-' (text.drop 4))
    let (day, rest) ← twoDigits? (← after? '-' rest)
    if 1 ≤ month && month ≤ 12 && 1 ≤ day && day ≤ daysInMonth (numberOf year) month then some rest
    else none
  else none

def time? (text : List Char) : Option (List Char) := do
  let (hour, rest) ← twoDigits? text
  let (minute, rest) ← twoDigits? (← after? ':' rest)
  let (second, rest) ← twoDigits? (← after? ':' rest)
  if hour < 24 && minute < 60 && second ≤ 60 then
    match rest with
    | '.' :: digits =>
      let fraction := digits.takeWhile Char.isDigit
      if fraction.isEmpty then none else some (digits.drop fraction.length)
    | rest => some rest
  else none

def offset? (text : List Char) : Option (List Char) :=
  match text with
  | [] => some []
  | 'Z' :: rest => some rest
  | 'z' :: rest => some rest
  | c :: rest => do
    if c = '+' || c = '-' then
      let (hour, rest) ← twoDigits? rest
      let (minute, rest) ← twoDigits? (← after? ':' rest)
      if hour < 24 && minute < 60 then some rest else none
    else none

def isMoment (text : List Char) : Bool :=
  match date? text with
  | some [] => true
  | some (c :: rest) =>
    (c == 'T' || c == 't' || c == ' ') && ((time? rest).bind offset?) == some []
  | none => time? text == some []

def isScalarChar (c : Char) : Bool := c.isAlphanum || c == '_' || c == '-' || c == '+' || c == '.' || c == ':'

/-- The characters of a number, word or date. A date may be followed by a space and a time. -/
def scalarChars (text : List Char) : List Char :=
  let first := text.takeWhile isScalarChar
  match text.drop first.length with
  | ' ' :: rest =>
    let second := rest.takeWhile isScalarChar
    if date? first == some [] && (time? second).isSome then first ++ ' ' :: second else first
  | _ => first

def scalar (text : List Char) : Option (Json × List Char) :=
  let chars := scalarChars text
  let value? : Option Json :=
    if chars == "true".toList then some (.bool true)
    else if chars == "false".toList then some (.bool false)
    else if isMoment chars then some (.object [("moment", .string (String.ofList chars))])
    else (integer? chars).orElse fun _ => float? chars
  value?.map fun value => (value, text.drop chars.length)

end WhereClause.Toml
