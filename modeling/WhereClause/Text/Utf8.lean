/-! Characters as bytes, and bytes read as characters.

Bytes that are no character are cut off where the first byte appears that cannot continue
one. A reader either stops there or puts the replacement character in their place.
-/

set_option autoImplicit false

namespace WhereClause.Utf8

abbrev Byte := Nat

def bytes (c : Char) : List Byte := (String.utf8EncodeChar c).map UInt8.toNat

/-- How many bytes follow a first byte, and the range of the next one. -/
def following? (first : Byte) : Option (Nat × Byte × Byte) :=
  if first < 0x80 then some (0, 0x80, 0xBF)
  else if first < 0xC2 then none
  else if first < 0xE0 then some (1, 0x80, 0xBF)
  else if first = 0xE0 then some (2, 0xA0, 0xBF)
  else if first = 0xED then some (2, 0x80, 0x9F)
  else if first < 0xF0 then some (2, 0x80, 0xBF)
  else if first = 0xF0 then some (3, 0x90, 0xBF)
  else if first < 0xF4 then some (3, 0x80, 0xBF)
  else if first = 0xF4 then some (3, 0x80, 0x8F)
  else none

inductive Piece where
  | char (c : Char)
  /-- Bytes that no character starts with. -/
  | invalid (length : Nat)
  /-- The text ends within a character. -/
  | incomplete
  deriving DecidableEq, Repr

def continued : (count : Nat) → (low high : Byte) → (code seen : Nat) → List Byte →
    Piece × List Byte
  | 0, _, _, code, _, rest => (.char (Char.ofNat code), rest)
  | _ + 1, _, _, _, _, [] => (.incomplete, [])
  | count + 1, low, high, code, seen, next :: rest =>
    if low ≤ next && next ≤ high then
      continued count 0x80 0xBF (64 * code + next % 64) (seen + 1) rest
    else (.invalid seen, next :: rest)

/-- The first piece of a text. The bits of a first byte that tell the length do not count. -/
def piece (first : Byte) (rest : List Byte) : Piece × List Byte :=
  match following? first with
  | none => (.invalid 1, rest)
  | some (0, _, _) => (.char (Char.ofNat first), rest)
  | some (count, low, high) => continued count low high (first % Nat.pow 2 (6 - count)) 1 rest

def pieces : (fuel : Nat) → List Byte → List Piece
  | 0, _ => []
  | _, [] => []
  | fuel + 1, first :: rest =>
    let (found, rest) := piece first rest
    found :: pieces fuel rest

/-- Where bytes are no text, and how many of them unless the text ends there. -/
structure Fault where
  start : Nat
  length : Option Nat
  deriving DecidableEq, Repr

def Fault.message (fault : Fault) : String :=
  match fault.length with
  | some length =>
    "invalid utf-8 sequence of " ++ toString length ++ " bytes from index " ++ toString fault.start
  | none => "incomplete utf-8 byte sequence from index " ++ toString fault.start

def joined : (start : Nat) → List Piece → Except Fault (List Char)
  | _, [] => .ok []
  | start, .char c :: rest => (joined (start + c.utf8Size) rest).map (c :: ·)
  | start, .invalid length :: _ => .error ⟨start, some length⟩
  | start, .incomplete :: _ => .error ⟨start, none⟩

def decode (text : List Byte) : Except Fault String :=
  (joined 0 (pieces text.length text)).map String.ofList

/-- Every fault is read as one replacement character. -/
def decodeLossy (text : List Byte) : String :=
  String.ofList ((pieces text.length text).map fun
    | .char c => c
    | _ => '�')

end WhereClause.Utf8
