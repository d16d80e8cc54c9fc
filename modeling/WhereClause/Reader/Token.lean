import WhereClause.Reader.Outcome
import WhereClause.Text.Letter

/-! Identifiers and keywords. -/

set_option autoImplicit false

namespace WhereClause.Reader

def isNameStart (c : Char) : Bool := Text.isLetter c || c == '_'

def isNameChar (c : Char) : Bool := Text.isLetter c || Text.isNumeral c || c == '_'

def identifier : Reader String := fun text =>
  match text with
  | c :: rest =>
    if isNameStart c then
      .done (String.ofList (c :: rest.takeWhile isNameChar)) (rest.dropWhile isNameChar)
    else .halt .recoverable text
  | [] => .halt .recoverable text

/-- A fixed word that no name character follows. -/
def keyword (word : List Char) : Reader Unit := fun text =>
  (tag word text).andThen fun _ rest =>
    match rest with
    | c :: _ => if isNameChar c then .halt .recoverable rest else .done () rest
    | [] => .done () rest

end WhereClause.Reader
