import WhereClause.Text.Ranges

/-! White space: the full set of the character standard, and the four characters that
separate tokens. -/

set_option autoImplicit false

namespace WhereClause.Text

def blankRanges : Ranges :=
  [
    (0x9, 0xd), (0x20, 0x20), (0x85, 0x85), (0xa0, 0xa0), (0x1680, 0x1680), (0x2000, 0x200a),
    (0x2028, 0x2029), (0x202f, 0x202f), (0x205f, 0x205f), (0x3000, 0x3000)
  ]

def isBlank (c : Char) : Bool := blankRanges.holds c.toNat

def trimStart (text : List Char) : List Char := text.dropWhile isBlank

def trim (text : List Char) : List Char := (trimStart (trimStart text).reverse).reverse

def allBlank (text : List Char) : Bool := text.all isBlank

def isSeparator (c : Char) : Bool :=
  c == ' ' || c == '\t' || c == '\r' || c == '\n'

end WhereClause.Text
