import WhereClause.Text.Hex
import WhereClause.Text.Order
import WhereClause.Text.Split

/-! Addresses of databases.

An address is a scheme, and behind a colon either a path of any form or, behind two slashes, a
host with a path. In its normal form there are no blanks around it and no empty parts in front
of the path, and the segments `.` and `..` of the path are resolved. Nothing is escaped, since
whoever reads a part of an address takes escapes away.
-/

set_option autoImplicit false

namespace WhereClause

inductive UrlIssue where
  | relative
  | emptyHost
  | portNumber
  | numericHost
  | hostCharacter
  deriving DecidableEq, Repr

def UrlIssue.message : UrlIssue → String
  | .relative => "relative URL without a base"
  | .emptyHost => "empty host"
  | .portNumber => "invalid port number"
  | .numericHost => "invalid IPv6 address"
  | .hostCharacter => "invalid domain character"

namespace Url

/-- The text without control characters and spaces around it, and without line breaks and
tabs in it. -/
def clean (text : List Char) : List Char :=
  let start := text.dropWhile (· ≤ ' ')
  let trimmed := (start.reverse.dropWhile (· ≤ ' ')).reverse
  trimmed.filter fun c => !(c == '\t' || c == '\n' || c == '\r')

def endsPath (c : Char) : Bool := c == '?' || c == '#'

def isSingleDot (segment : List Char) : Bool :=
  [".", "%2e"].contains (Text.asciiLowercase (String.ofList segment))

def isDoubleDot (segment : List Char) : Bool :=
  ["..", "%2e.", ".%2e", "%2e%2e"].contains (Text.asciiLowercase (String.ofList segment))

/-- A letter of a drive is never taken away from a path. -/
def isDrive : List Char → Bool
  | [letter, mark] => letter.isAlpha && (mark == ':' || mark == '|')
  | _ => false

/-- The segments in front of a segment `..`; the input is in reverse order. -/
def leave : List (List Char) → List (List Char)
  | [] => []
  | last :: before => if isDrive last then last :: before else before

/-- Resolve the dots among segments; those in front are in reverse order. -/
def resolve : (before : List (List Char)) → List (List Char) → List (List Char)
  | before, [] => before.reverse
  | before, [last] =>
    if isDoubleDot last then ([] :: leave before).reverse
    else if isSingleDot last then ([] :: before).reverse
    else (last :: before).reverse
  | before, segment :: rest =>
    if isDoubleDot segment then resolve (leave before) rest
    else if isSingleDot segment then resolve before rest
    else resolve (segment :: before) rest

/-- The normal form of a path that starts with a slash; the slash is left out in the input. -/
def normalPath (path : List Char) : List Char :=
  (resolve [] (Text.splitChars '/' path)).flatMap ('/' :: ·)

def splitDouble? : List Char → Option (List Char × List Char)
  | ':' :: ':' :: rest => some ([], rest)
  | c :: rest => (splitDouble? rest).map fun (before, behind) => (c :: before, behind)
  | [] => none

/-- Groups of hexadecimal digits between colons: eight of them, or fewer around a double
colon. -/
def isNumericHost (text : List Char) : Bool :=
  let isGroup (group : List Char) : Bool :=
    !group.isEmpty && group.length ≤ 4 && group.all fun c => (Text.hexDigit? c).isSome
  let groups (part : List Char) : List (List Char) :=
    if part.isEmpty then [] else Text.splitChars ':' part
  match splitDouble? text with
  | none => (groups text).length == 8 && (groups text).all isGroup
  | some (before, behind) =>
    let shown := groups before ++ groups behind
    shown.length ≤ 7 && shown.all isGroup

def isBarred (c : Char) : Bool :=
  ['\x00', ' ', '#', '/', ':', '<', '>', '?', '@', '[', '\\', ']', '^', '|'].contains c

/-- The host in front of a colon, and what follows it. A colon between brackets is part of
the host. -/
def splitHost : (bracketed : Bool) → List Char → List Char × List Char
  | _, [] => ([], [])
  | bracketed, c :: rest =>
    if c == ':' && !bracketed then ([], c :: rest)
    else
      let bracketed := c == '[' || (bracketed && c != ']')
      let (host, behind) := splitHost bracketed rest
      (c :: host, behind)

def checkHost (host : List Char) : Except UrlIssue Unit :=
  match host with
  | '[' :: rest =>
    if rest.getLast? == some ']' && isNumericHost rest.dropLast then .ok () else .error .numericHost
  | _ => if host.any isBarred then .error .hostCharacter else .ok ()

def portNumber (text : List Char) : Except UrlIssue (List Char × List Char) :=
  let digits := text.takeWhile Char.isDigit
  let rest := text.dropWhile Char.isDigit
  let number := digits.foldl (fun total c => 10 * total + (c.toNat - '0'.toNat)) 0
  if 65535 < number || !(rest.isEmpty || rest.head? == some '\\') then .error .portNumber
  else .ok (if digits.isEmpty then [] else ':' :: Nat.toDigits 10 number, rest)

/-- The user in front of a host. An empty password and its colon are left out. -/
def user (text : List Char) : List Char :=
  let name := text.takeWhile (· != ':')
  let password := (text.dropWhile (· != ':')).drop 1
  let shown := if password.isEmpty then name else name ++ ':' :: password
  if shown.isEmpty then [] else shown ++ ['@']

def authority (text : List Char) : Except UrlIssue (List Char) := do
  let ends (c : Char) : Bool := c == '/' || endsPath c
  let place := text.takeWhile (!ends ·)
  let rest := text.dropWhile (!ends ·)
  let hostPart := (place.reverse.takeWhile (· != '@')).reverse
  let hasUser := place.contains '@'
  let userPart := if hasUser then place.take (place.length - hostPart.length - 1) else []
  if hasUser && userPart.isEmpty && hostPart.isEmpty && !rest.isEmpty then throw .emptyHost
  let (host, portPart) := splitHost false hostPart
  checkHost host
  if host.isEmpty && !portPart.isEmpty then throw .emptyHost
  let (number, left) ← portNumber (portPart.drop 1)
  if host.isEmpty && !(user userPart).isEmpty then throw .emptyHost
  let path := (left ++ rest).takeWhile (!endsPath ·)
  let tail := (left ++ rest).dropWhile (!endsPath ·)
  let normal := match path with
    | [] => []
    | '/' :: below => normalPath below
    | _ => normalPath path
  return user userPart ++ host ++ number ++ normal ++ tail

def body (text : List Char) : Except UrlIssue (List Char) :=
  match text with
  | '/' :: '/' :: rest => do return '/' :: '/' :: (← authority rest)
  | '/' :: rest =>
    let path := normalPath (rest.takeWhile (!endsPath ·))
    let tail := rest.dropWhile (!endsPath ·)
    -- A path is never taken for a host.
    .ok ((if ['/', '/'].isPrefixOf path then '/' :: '.' :: path else path) ++ tail)
  | _ => .ok text

def normalize (text : String) : Except UrlIssue (List Char) :=
  let cleaned := clean text.toList
  match cleaned.dropWhile (· != ':') with
  | [] => .error .relative
  | _ :: rest => do return cleaned.takeWhile (· != ':') ++ ':' :: (← body rest)

end Url

end WhereClause
