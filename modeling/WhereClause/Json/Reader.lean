import WhereClause.Json.Number
import WhereClause.Text.Hex

/-! Reading JSON text.

Arrays and objects may nest as deep as the text is long; whoever decodes a value decides
how deep its parts may lie.
-/

set_option autoImplicit false

namespace WhereClause.Json

def isBlank (c : Char) : Bool := c == ' ' || c == '\t' || c == '\n' || c == '\r'

def skip (text : List Char) : List Char := text.dropWhile isBlank

def codeUnit? (a b c d : Char) : Option Nat := do
  return 4096 * (← Text.hexDigit? a) + 256 * (← Text.hexDigit? b) + 16 * (← Text.hexDigit? c) + (← Text.hexDigit? d)

def plainEscape? : Char → Option Char
  | '"' => some '"'
  | '\\' => some '\\'
  | '/' => some '/'
  | 'b' => some '\x08'
  | 'f' => some '\x0c'
  | 'n' => some '\n'
  | 'r' => some '\r'
  | 't' => some '\t'
  | _ => none

def isHighSurrogate (unit : Nat) : Bool := 0xd800 ≤ unit && unit < 0xdc00

def isLowSurrogate (unit : Nat) : Bool := 0xdc00 ≤ unit && unit < 0xe000

def joinSurrogates (high low : Nat) : Char :=
  Char.ofNat (0x10000 + (high - 0xd800) * 0x400 + (low - 0xdc00))

/-- The characters up to the closing quote. Surrogates must come in pairs, and control
characters must be escaped. -/
def stringBody : List Char → Option (List Char × List Char)
  | [] => none
  | '"' :: rest => some ([], rest)
  | '\\' :: 'u' :: a :: b :: c :: d :: '\\' :: 'u' :: e :: f :: g :: h :: rest => do
    let unit ← codeUnit? a b c d
    if isHighSurrogate unit then
      let low ← codeUnit? e f g h
      if isLowSurrogate low then
        (stringBody rest).map fun (chars, rest) => (joinSurrogates unit low :: chars, rest)
      else none
    else if isLowSurrogate unit then none
    else
      (stringBody ('\\' :: 'u' :: e :: f :: g :: h :: rest)).map fun (chars, rest) =>
        (Char.ofNat unit :: chars, rest)
  | '\\' :: 'u' :: a :: b :: c :: d :: rest => do
    let unit ← codeUnit? a b c d
    if isHighSurrogate unit || isLowSurrogate unit then none
    else (stringBody rest).map fun (chars, rest) => (Char.ofNat unit :: chars, rest)
  | '\\' :: c :: rest => do
    let plain ← plainEscape? c
    (stringBody rest).map fun (chars, rest) => (plain :: chars, rest)
  | c :: rest =>
    if c = '\\' || c.toNat < 0x20 then none
    else (stringBody rest).map fun (chars, rest) => (c :: chars, rest)
termination_by text => text.length

/-- The text behind a string whose escapes are well formed, paired or not. -/
def passString : List Char → Option (List Char)
  | [] => none
  | '"' :: rest => some rest
  | '\\' :: 'u' :: a :: b :: c :: d :: rest =>
    if (codeUnit? a b c d).isSome then passString rest else none
  | '\\' :: c :: rest => if (plainEscape? c).isSome then passString rest else none
  | c :: rest => if c = '\\' || c.toNat < 0x20 then none else passString rest

def quotedText (text : List Char) : Option (Json × List Char) :=
  match stringBody text with
  | some (chars, rest) => some (.string (String.ofList chars), rest)
  | none => (passString text).map fun rest => (.unpaired, rest)

def word? (word : String) (value : Json) (text : List Char) : Option (Json × List Char) :=
  if word.toList.isPrefixOf text then some (value, text.drop word.length) else none

def items (item : List Char → Option (Json × List Char)) :
    (limit : Nat) → List Char → Option (List Json × List Char)
  | 0, _ => none
  | limit + 1, text =>
    match item text with
    | none => none
    | some (value, rest) =>
      match skip rest with
      | ',' :: next => (items item limit next).map fun (values, rest) => (value :: values, rest)
      | ']' :: next => some ([value], next)
      | _ => none

/-- A field name, the colon and the field's value. A name with half of a surrogate pair
cannot be given. -/
def field (item : List Char → Option (Json × List Char)) (text : List Char) :
    Option ((Option String × Json) × List Char) :=
  match skip text with
  | '"' :: rest => do
    let (name, rest) ← quotedText rest
    let name? := match name with
      | .string name => some name
      | _ => none
    match skip rest with
    | ':' :: rest => (item rest).map fun (value, rest) => ((name?, value), rest)
    | _ => none
  | _ => none

def fields (item : List Char → Option (Json × List Char)) :
    (limit : Nat) → List Char → Option (List (Option String × Json) × List Char)
  | 0, _ => none
  | limit + 1, text =>
    match field item text with
    | none => none
    | some (first, rest) =>
      match skip rest with
      | ',' :: next => (fields item limit next).map fun (values, rest) => (first :: values, rest)
      | '\x7d' :: next => some ([first], next)
      | _ => none

/-- An object is only there if all its names are. -/
def ofFields (fields : List (Option String × Json)) : Json :=
  match fields.mapM fun (name?, value) => name?.map (·, value) with
  | some fields => .object fields
  | none => .unpaired

def nested (item : List Char → Option (Json × List Char)) (limit : Nat) :
    List Char → Option (Json × List Char)
  | '[' :: rest =>
    match skip rest with
    | ']' :: rest => some (.array [], rest)
    | _ => (items item limit rest).map fun (values, rest) => (.array values, rest)
  | '\x7b' :: rest =>
    match skip rest with
    | '\x7d' :: rest => some (.object [], rest)
    | _ => (fields item limit rest).map fun (values, rest) => (ofFields values, rest)
  | '"' :: rest => quotedText rest
  | 'n' :: rest => word? "null" .null ('n' :: rest)
  | 't' :: rest => word? "true" (.bool true) ('t' :: rest)
  | 'f' :: rest => word? "false" (.bool false) ('f' :: rest)
  | text => (JsonNumber.read? text).map fun (value, rest) => (.number value, rest)

def value : (limit : Nat) → List Char → Option (Json × List Char)
  | 0, _ => none
  | limit + 1, text => nested (value limit) limit (skip text)

/-- Read a whole text as one value. It has no more parts, and nests no deeper, than its text
is long. -/
def read? (text : String) : Option Json :=
  match value text.length text.toList with
  | some (json, rest) => if (skip rest).isEmpty then some json else none
  | none => none

end WhereClause.Json
