/-! Texts cut at every occurrence of a character. -/

set_option autoImplicit false

namespace WhereClause.Text

/-- The parts between separators; parts may be empty, and there is at least one. -/
def splitChars (separator : Char) : List Char → List (List Char)
  | [] => [[]]
  | c :: rest =>
    if c = separator then [] :: splitChars separator rest
    else
      match splitChars separator rest with
      | [] => [[c]]
      | part :: parts => (c :: part) :: parts

def splitOn (separator : Char) (text : String) : List String :=
  (splitChars separator text.toList).map String.ofList

end WhereClause.Text
