import WhereClause.Text.Blank

/-! Outcomes of reading from the front of a text.

A reader either produces a value and the text after it, or stops at a place in the
text. A recoverable stop lets the caller try something else; the other stops are
final. Texts are lists of characters, and places are given by what remains.

Readers that repeat or nest take a limit. Each round consumes a character, so a limit
above the length of the text is never reached.
-/

set_option autoImplicit false

namespace WhereClause

inductive Halt where
  | recoverable
  | final
  /-- A call on the entity parameter itself. -/
  | bareCall
  /-- Repetition or nesting beyond the limit the reader was given. -/
  | tooDeep
  deriving DecidableEq, Repr

inductive Outcome (α : Type) where
  | done (value : α) (rest : List Char)
  | halt (reason : Halt) (rest : List Char)
  deriving Repr

abbrev Reader (α : Type) := List Char → Outcome α

namespace Outcome

variable {α β : Type}

def andThen (outcome : Outcome α) (next : α → Reader β) : Outcome β :=
  match outcome with
  | .done value rest => next value rest
  | .halt reason rest => .halt reason rest

def map (transform : α → β) (outcome : Outcome α) : Outcome β :=
  outcome.andThen fun value rest => .done (transform value) rest

def commit : Outcome α → Outcome α
  | .halt .recoverable rest => .halt .final rest
  | outcome => outcome

end Outcome

def byteLength (text : List Char) : Nat := text.foldr (fun c behind => c.utf8Size + behind) 0

namespace Reader

variable {α β : Type}

def skip (text : List Char) : List Char := text.dropWhile Text.isSeparator

def padded (inner : Reader α) : Reader α := fun text =>
  (inner (skip text)).andThen fun value rest => .done value (skip rest)

def tag (word : List Char) : Reader Unit := fun text =>
  if word.isPrefixOf text then .done () (text.drop word.length) else .halt .recoverable text

def char (c : Char) : Reader Unit := tag [c]

/-- The first reader that does not stop recoverably. -/
def orElse (first second : Reader α) : Reader α := fun text =>
  match first text with
  | .halt .recoverable _ => second text
  | outcome => outcome

/-- Items after the first, each behind a separator. A recoverable stop ends the list
before the separator. -/
def separatedTail (separator : Reader Unit) (item : Reader α) : (limit : Nat) → Reader (List α)
  | 0, text => .halt .tooDeep text
  | limit + 1, text =>
    match separator text with
    | .halt .recoverable _ => .done [] text
    | .halt reason rest => .halt reason rest
    | .done _ next =>
      match item next with
      | .halt .recoverable _ => .done [] text
      | .halt reason rest => .halt reason rest
      | .done value rest => (separatedTail separator item limit rest).map (value :: ·)

def separated (separator : Reader Unit) (item : Reader α) (limit : Nat) : Reader (List α) :=
  fun text =>
    match item text with
    | .halt .recoverable _ => .done [] text
    | .halt reason rest => .halt reason rest
    | .done value rest => (separatedTail separator item limit rest).map (value :: ·)

def separatedOne (separator : Reader Unit) (item : Reader α) (limit : Nat) : Reader (List α) :=
  fun text =>
    (item text).andThen fun value rest =>
      (separatedTail separator item limit rest).map (value :: ·)

/-- Operands joined from the left. Behind an operator the operand is required. -/
def chain (operator : Reader Unit) (operand : Reader α) (join : α → α → α) :
    (limit : Nat) → (first : α) → Reader α
  | 0, _, text => .halt .tooDeep text
  | limit + 1, first, text =>
    match operator text with
    | .halt .recoverable _ => .done first text
    | .halt reason rest => .halt reason rest
    | .done _ next =>
      match (operand next).commit with
      | .halt reason rest => .halt reason rest
      | .done value rest => chain operator operand join limit (join first value) rest

end Reader

end WhereClause
