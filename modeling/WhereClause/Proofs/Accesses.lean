import WhereClause.Proofs.Remainder

/-! Texts of accesses.

An access is a literal or a path, and behind a path may stand an argument list. What the reader of
accesses takes off a text is always such a text; the arguments are accesses again.
-/

set_option autoImplicit false

namespace WhereClause.Reader

open MemberPath

/-- Texts of a kind, each behind a comma and with white space around it. -/
inductive Following (kind : List Char → Prop) : List Char → Prop where
  | nil : Following kind []
  | cons {before text behind rest : List Char} : Gap before → kind text → Gap behind →
      Following kind rest → Following kind (',' :: before ++ text ++ behind ++ rest)

inductive Listed (kind : List Char → Prop) : List Char → Prop where
  | nil : Listed kind []
  | cons {text behind rest : List Char} : kind text → Gap behind → Following kind rest →
      Listed kind (text ++ behind ++ rest)

inductive Arguments (kind : List Char → Prop) : List Char → Prop where
  | closed {opening inside closing : List Char} : Gap opening → Listed kind inside → Gap closing →
      Arguments kind ('(' :: opening ++ inside ++ closing ++ [')'])

/-- A path of a variable, or of the entity that has the given name. -/
def Path.Owned (name : String) (found : Path) : Prop :=
  found.segments.Proper ∧ (found.isVariable = true ∨ found.segments.head? = some name)

/-- The texts of accesses, with the argument lists of their calls. -/
inductive AccessText (name : String) : List Char → Prop where
  | literal {text : List Char} {value : Value} : LiteralText text value → AccessText name text
  | path {found : Path} : found.Owned name → AccessText name found.chars
  | call {found : Path} {gap list : List Char} : found.Owned name → Gap gap →
      Arguments (AccessText name) list → AccessText name (found.chars ++ gap ++ list)

section Texts

variable {α : Type} {kind : List Char → Prop}

end Texts

theorem identifier_proper {text rest : List Char} {name : String}
    (read : identifier text = .done name rest) : isIdentifier name = true := by
  unfold identifier at read
  split at read
  · split at read
    · next start =>
      cases read
      simp only [isIdentifier, String.toList_ofList, start, Bool.true_and, List.all_eq_true]
      exact fun c member => List.mem_takeWhile_imp member
    · cases read
  · cases read

end WhereClause.Reader
