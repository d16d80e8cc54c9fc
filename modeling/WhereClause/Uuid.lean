import WhereClause.Text.Hex

/-! Universally unique identifiers: 128 bits, written as 32 hexadecimal digits. -/

set_option autoImplicit false

namespace WhereClause

structure Uuid where
  bits : BitVec 128
  deriving DecidableEq

namespace Uuid

instance : Inhabited Uuid := ⟨⟨0⟩⟩

def digits (id : Uuid) : List Char :=
  let found := Nat.toDigits 16 id.bits.toNat
  List.replicate (32 - found.length) '0' ++ found

def chars (id : Uuid) : List Char :=
  let all := id.digits
  all.take 8 ++ '-' :: (all.drop 8).take 4 ++ '-' :: (all.drop 12).take 4
    ++ '-' :: (all.drop 16).take 4 ++ '-' :: all.drop 20

def render (id : Uuid) : String := String.ofList id.chars

def ofDigits? (text : List Char) : Option Uuid :=
  if text.length = 32 then
    (text.foldlM (fun total c => (Text.hexDigit? c).map (16 * total + ·)) 0).map
      fun total => ⟨BitVec.ofNat 128 total⟩
  else none

/-- The hyphens of the written form stand after 8, 12, 16 and 20 digits. -/
def ofHyphenated? (text : List Char) : Option Uuid :=
  let hyphens := [8, 13, 18, 23]
  if text.length = 36 && hyphens.all (fun i => text[i]? == some '-') then
    ofDigits? (text.filter (· != '-'))
  else none

/-- The hyphenated form, also in braces or after `urn:uuid:` in any case, or the bare
digits. -/
def read? (text : String) : Option Uuid :=
  let chars := text.toList
  match chars.length with
  | 32 => ofDigits? chars
  | 36 => ofHyphenated? chars
  | 38 =>
    if chars.head? == some '\x7b' && chars.getLast? == some '\x7d' then
      ofHyphenated? (chars.drop 1).dropLast
    else none
  | 45 =>
    if (chars.take 9).map Char.toLower == "urn:uuid:".toList then ofHyphenated? (chars.drop 9)
    else none
  | _ => none

end Uuid

end WhereClause
