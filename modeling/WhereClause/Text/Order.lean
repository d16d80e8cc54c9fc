/-! Names in a fixed order, and letters of ASCII in lower case. -/

set_option autoImplicit false

namespace WhereClause.Text

/-- Sorted by code points, which is also the order of the UTF-8 bytes. -/
def sortNames (names : List String) : List String :=
  names.mergeSort fun left right => decide (left ≤ right)

def sortByName {α : Type} (entries : List (String × α)) : List (String × α) :=
  entries.mergeSort fun left right => decide (left.1 ≤ right.1)

def asciiLowercase (text : String) : String :=
  String.ofList (text.toList.map Char.toLower)

end WhereClause.Text
