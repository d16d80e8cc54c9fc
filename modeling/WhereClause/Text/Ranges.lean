/-! Sets of characters given as ranges of code points. -/

set_option autoImplicit false

namespace WhereClause.Text

/-- Pairs of a first and a last code point. -/
abbrev Ranges := List (Nat × Nat)

def Ranges.holds (ranges : Ranges) (code : Nat) : Bool :=
  ranges.any fun (first, last) => first ≤ code && code ≤ last

end WhereClause.Text
