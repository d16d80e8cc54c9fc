import Mathlib.Data.List.Chain
import WhereClause.Proofs.Draft
import WhereClause.Proofs.Numbering

/-! Spelling of conditions in a dialect.

Beside quoted names and placeholders, the conditions of a dialect consist of a few fixed
phrases. A spelling is a list of marks, each a phrase, a name or a bound value. In the
spellings that occur, whatever could run into the text behind it is followed by a phrase
that starts with a blank, a comma or a closing parenthesis.
-/

set_option autoImplicit false

namespace WhereClause

inductive Phrase where
  | openParen
  | closeParen
  | notOpen
  | connective (word : Word)
  | comparison (op : Comparison)
  | nullTest (present : Bool)
  | amongOpen
  | arrayOpen
  | tableOpen
  | comma
  | never
  deriving DecidableEq, Repr

def Phrase.text : Phrase → String
  | .openParen => "("
  | .closeParen => ")"
  | .notOpen => "NOT ("
  | .connective word => " " ++ word.sql ++ " "
  | .comparison op => " " ++ op.sql ++ " "
  | .nullTest present => if present then " IS NOT NULL" else " IS NULL"
  | .amongOpen => " IN ("
  | .arrayOpen => " = ANY("
  | .tableOpen => " IN (SELECT V FROM "
  | .comma => ", "
  | .never => Mapping.alwaysFalse

inductive Mark where
  | fixed (phrase : Phrase)
  | name (column : String)
  | bound (value : Value)

namespace Mark

def piece (quote : String → String) : Mark → Piece
  | .fixed phrase => .text phrase.text
  | .name column => .text (quote column)
  | .bound value => .bound value

/-- Marks that letters, digits or quotes behind them would change. -/
def loose : Mark → Bool
  -- these two end in a letter and in a digit
  | .fixed (.nullTest _) => true
  | .fixed .never => true
  | .fixed _ => false
  | _ => true

def breaks : Mark → Bool
  | .fixed .openParen => false
  | .fixed .notOpen => false
  | .fixed .never => false
  | .fixed _ => true
  | _ => false

def Follows (mark next : Mark) : Prop := mark.loose = true → next.breaks = true

def Orderly (marks : List Mark) : Prop := marks.IsChain Follows

theorem Orderly.tail {mark : Mark} {marks : List Mark} (orderly : Orderly (mark :: marks)) :
    Orderly marks := List.IsChain.tail orderly

theorem Orderly.head {mark : Mark} {marks : List Mark} (orderly : Orderly (mark :: marks))
    (loose : mark.loose = true) : ∀ next ∈ marks.head?, next.breaks = true :=
  fun _ member => List.IsChain.rel_head? orderly member loose

theorem Orderly.single (mark : Mark) : Orderly [mark] := List.IsChain.singleton mark

theorem Orderly.tight {mark : Mark} {marks : List Mark} (orderly : Orderly marks)
    (tight : mark.loose = false) : Orderly (mark :: marks) :=
  List.IsChain.cons orderly fun _ _ loose => by simp [tight] at loose

theorem Orderly.before {mark next : Mark} {marks : List Mark} (orderly : Orderly (next :: marks))
    (breaks : next.breaks = true) : Orderly (mark :: next :: marks) :=
  List.IsChain.cons_cons (fun _ => breaks) orderly

theorem Orderly.append {first rest : List Mark} (orderly : Orderly first)
    (restOrderly : Orderly rest) (breaks : ∀ next ∈ rest.head?, next.breaks = true) :
    Orderly (first ++ rest) :=
  List.IsChain.append orderly restOrderly fun _ _ next member _ => breaks next member

def enclose (marks : List Mark) : List Mark :=
  .fixed .openParen :: marks ++ [.fixed .closeParen]

theorem Orderly.enclose {marks : List Mark} (orderly : Orderly marks) :
    Orderly (enclose marks) := by
  have closed : Orderly (marks ++ [.fixed .closeParen]) :=
    orderly.append (.single _) (by simp [breaks])
  exact closed.tight rfl

def grouped (parent shape : Shape) (marks : List Mark) : List Mark :=
  if shape = .atom || shape = parent then marks else enclose marks

theorem Orderly.grouped {marks : List Mark} (orderly : Orderly marks) (parent shape : Shape) :
    Orderly (grouped parent shape marks) := by
  unfold Mark.grouped
  split
  · exact orderly
  · exact orderly.enclose

theorem grouped_eq {β : Type} (read : List Mark → β) {marks : List Mark}
    (enclosed : read (enclose marks) = read marks) (parent shape : Shape) :
    read (grouped parent shape marks) = read marks := by
  unfold grouped
  split
  · rfl
  · exact enclosed

def listed : (first : Value) → (others : List Value) → List Mark
  | first, [] => [.bound first]
  | first, next :: rest => .bound first :: .fixed .comma :: listed next rest

theorem map_piece_listed (quote : String → String) (first : Value) (others : List Value) :
    (listed first others).map (piece quote) = Mapping.listPieces (first :: others) := by
  induction others generalizing first with
  | nil => rfl
  | cons next rest ih => simp [listed, Mapping.listPieces, piece, Phrase.text, ih]

theorem orderly_listed (first : Value) (others : List Value) : Orderly (listed first others) := by
  induction others generalizing first with
  | nil => exact .single _
  | cons next rest ih => exact ((ih next).tight rfl).before rfl

/-- The marks of a collection that is bound element by element, or as a whole behind a
phrase that opens it. -/
def collected (opening : Option Phrase) (first : Value) (others : List Value) : List Mark :=
  match opening with
  | none => .fixed .amongOpen :: listed first others ++ [.fixed .closeParen]
  | some phrase =>
    [.fixed phrase, .bound (Value.ofItems (first :: others)), .fixed .closeParen]

end Mark

def Slot.mark : Slot → Mark
  | .column name => .name name
  | .bound value => .bound value

namespace Draft

def marks (opening : Option Phrase) : Draft → List Mark
  | .compare op left right => [left.mark, .fixed (.comparison op), right.mark]
  | .nullTest present tested => [tested.mark, .fixed (.nullTest present)]
  | .member item first others => item.mark :: Mark.collected opening first others
  | .never => [.fixed .never]
  | .not inner => .fixed .notOpen :: inner.marks opening ++ [.fixed .closeParen]
  | .join word left right =>
    Mark.grouped word.shape left.shape (left.marks opening) ++
      .fixed (.connective word) :: Mark.grouped word.shape right.shape (right.marks opening)

def joinMarks (opening : Option Phrase) (word : Word) : List Draft → List Mark
  | [] => []
  | [part] => Mark.enclose (part.marks opening)
  | part :: next :: rest =>
    Mark.enclose (part.marks opening) ++
      .fixed (.connective word) :: joinMarks opening word (next :: rest)

def combinedMarks (opening : Option Phrase) (word : Word) : List Draft → List Mark
  | [part] => part.marks opening
  | parts => joinMarks opening word parts

def combinedShape (word : Word) : List Draft → Shape
  | [part] => part.shape
  | _ => word.shape

section

variable (opening : Option Phrase) (fits : ∀ phrase ∈ opening,
  (Mark.fixed phrase).breaks = true ∧ (Mark.fixed phrase).loose = false)
include fits

theorem orderly_marks (draft : Draft) : Mark.Orderly (draft.marks opening) := by
  induction draft with
  | compare op left right => exact ((Mark.Orderly.single _).tight rfl).before rfl
  | nullTest present tested => exact (Mark.Orderly.single _).before rfl
  | never => exact .single _
  | member item first others =>
    cases opening with
    | none =>
      have listed := (Mark.orderly_listed first others).append (.single (.fixed .closeParen))
        (by simp [Mark.breaks])
      exact (listed.tight rfl).before rfl
    | some phrase =>
      obtain ⟨breaks, tight⟩ := fits phrase rfl
      have collection :
          Mark.Orderly [.bound (Value.ofItems (first :: others)), .fixed .closeParen] :=
        (Mark.Orderly.single _).before rfl
      exact (collection.tight tight).before breaks
  | not inner ih =>
    have closed := ih.append (.single (.fixed .closeParen)) (by simp [Mark.breaks])
    exact closed.tight rfl
  | join word left right leftIh rightIh =>
    apply (leftIh.grouped word.shape left.shape).append
    · exact (rightIh.grouped word.shape right.shape).tight rfl
    · simp [Mark.breaks]

theorem orderly_joinMarks (word : Word) (parts : List Draft) : Mark.Orderly (joinMarks opening word parts) := by
  induction parts with
  | nil => exact List.IsChain.nil
  | cons part rest ih =>
    have enclosed := (part.orderly_marks opening fits).enclose
    cases rest with
    | nil => exact enclosed
    | cons next rest => exact enclosed.append (ih.tight rfl) (by simp [Mark.breaks])

theorem orderly_combinedMarks (word : Word) (parts : List Draft) : Mark.Orderly (combinedMarks opening word parts) :=
  match parts with
  | [] => List.IsChain.nil
  | [part] => part.orderly_marks opening fits
  | part :: next :: rest => orderly_joinMarks opening fits word (part :: next :: rest)

end

theorem grouped_pieces (quote : String → String) (parent shape : Shape) (marks : List Mark) :
    Clause.grouped { pieces := marks.map (Mark.piece quote), shape } parent =
      (Mark.grouped parent shape marks).map (Mark.piece quote) := by
  unfold Clause.grouped Mark.grouped
  split
  · rfl
  · simp [Mark.enclose, Mark.piece, Phrase.text]

theorem clause_eq_marks (quote : String → String) (opening : Option Phrase) (draft : Draft) :
    draft.clause quote (opening.map fun phrase => (phrase.text, ")")) =
      { pieces := (draft.marks opening).map (Mark.piece quote), shape := draft.shape } := by
  induction draft with
  | compare op left right => cases left <;> cases right <;> rfl
  | nullTest present tested => cases tested <;> rfl
  | never => rfl
  | member item first others =>
    have slot : item.piece quote = item.mark.piece quote := by cases item <;> rfl
    cases opening with
    | none =>
      simp [clause, marks, shape, Clause.atom, slot, Mapping.collectionPieces, Mark.collected,
        Mark.map_piece_listed, Mark.piece, Phrase.text]
    | some phrase => simp [clause, marks, shape, Clause.atom, slot, Mapping.collectionPieces,
        Mark.collected, Mark.piece, Phrase.text]
  | not inner ih =>
    simp only [clause, ih, Clause.negated, marks, List.map_cons, List.map_append, List.cons_append]
    rfl
  | join word left right leftIh rightIh =>
    simp only [clause, leftIh, rightIh, Clause.join, grouped_pieces, marks, List.map_append,
      List.map_cons]
    rfl

theorem joinPieces_clauses (quote : String → String) (opening : Option Phrase) (word : Word)
    (parts : List Draft) :
    Clause.joinPieces (" " ++ word.sql ++ " ")
        (parts.map (clause quote (opening.map fun phrase => (phrase.text, ")")))) =
      (joinMarks opening word parts).map (Mark.piece quote) := by
  have enclosed (part : Draft) :
      (part.clause quote (opening.map fun phrase => (phrase.text, ")"))).enclosed =
        (Mark.enclose (part.marks opening)).map (Mark.piece quote) := by
    rw [clause_eq_marks]
    simp [Clause.enclosed, Mark.enclose, Mark.piece, Phrase.text]
  induction parts with
  | nil => rfl
  | cons part rest ih =>
    cases rest with
    | nil => exact enclosed part
    | cons next rest =>
      simp only [List.map_cons, Clause.joinPieces, joinMarks, List.map_append] at ih ⊢
      rw [enclosed, ih]
      rfl

theorem combined_clauses (quote : String → String) (opening : Option Phrase) (word : Word)
    (parts : List Draft) :
    Clause.combined word
        (parts.map (clause quote (opening.map fun phrase => (phrase.text, ")")))) =
      { pieces := (combinedMarks opening word parts).map (Mark.piece quote)
        shape := combinedShape word parts } :=
  match parts with
  | [] => rfl
  | [part] => part.clause_eq_marks quote opening
  | part :: next :: rest =>
    congrArg (Clause.mk · word.shape) (joinPieces_clauses quote opening word (part :: next :: rest))

end Draft

def Dialect.opening : Dialect → Strategy → Option Phrase
  | .postgresql, .nativeArray => some .arrayOpen
  | .sqlServer, .tableValued => some .tableOpen
  | _, _ => none

theorem Dialect.opening_fits (dialect : Dialect) (strategy : Strategy) :
    ∀ phrase ∈ dialect.opening strategy,
      (Mark.fixed phrase).breaks = true ∧ (Mark.fixed phrase).loose = false := by
  cases dialect <;> cases strategy <;> simp [opening, Mark.breaks, Mark.loose]

theorem Dialect.openQuote_cases (dialect : Dialect) :
    dialect.openQuote = '[' ∨ dialect.openQuote = '`' ∨ dialect.openQuote = '"' := by
  cases dialect <;> simp [Dialect.openQuote]

theorem Dialect.closeQuote_apart (dialect : Dialect) :
    dialect.closeQuote ∉ [' ', ',', ')'] := by
  cases dialect <;> decide

theorem Mapping.form_dialect {mapping : Mapping} {dialect : Dialect}
    (speaks : mapping.style = dialect.style) :
    mapping.form = (dialect.opening mapping.membership).map fun phrase => (phrase.text, ")") := by
  unfold Mapping.form
  rw [speaks]
  cases dialect <;> cases mapping.membership <;> rfl

namespace Mapping

variable {mapping : Mapping} {dialect : Dialect} {entity : String}

/-- A compiled condition spells the draft of its predicate. -/
theorem condition_spelled {predicate : Predicate} {condition : Condition}
    (speaks : mapping.style = dialect.style)
    (compiled : mapping.condition entity predicate = .ok condition) :
    ∃ draft, mapping.Drafted entity false predicate draft ∧
      condition = Clause.condition {
        pieces := (draft.marks (dialect.opening mapping.membership)).map
          (Mark.piece dialect.style.quote)
        shape := draft.shape } := by
  obtain ⟨clause, clauseCompiled, rfl⟩ := condition_eq_ok.mp compiled
  obtain ⟨draft, drafted, rfl⟩ := clause_eq_ok clauseCompiled
  refine ⟨draft, drafted, ?_⟩
  rw [form_dialect speaks, Draft.clause_eq_marks, speaks]

theorem mapM_condition {predicates : List Predicate} {parts : List Condition}
    (compiled : predicates.mapM (mapping.condition entity) = .ok parts) :
    ∃ drafts, List.Forall₂ (mapping.Drafted entity false) predicates drafts ∧
      parts = (drafts.map (Draft.clause mapping.style.quote mapping.form)).map Clause.condition := by
  have pairs := mapM_eq_ok.mp compiled
  clear compiled
  induction pairs with
  | nil => exact ⟨[], .nil, rfl⟩
  | cons partCompiled _ ih =>
    obtain ⟨clause, clauseCompiled, rfl⟩ := condition_eq_ok.mp partCompiled
    obtain ⟨draft, drafted, rfl⟩ := clause_eq_ok clauseCompiled
    obtain ⟨drafts, restDrafted, rfl⟩ := ih
    exact ⟨draft :: drafts, .cons drafted restDrafted, by simp⟩

theorem conditionAll_spelled {word : Word} {predicates : List Predicate} {condition : Condition}
    (speaks : mapping.style = dialect.style)
    (compiled : mapping.conditionAll entity word predicates = .ok condition) :
    ∃ drafts, List.Forall₂ (mapping.Drafted entity false) predicates drafts ∧
      condition = Clause.condition {
        pieces := (Draft.combinedMarks (dialect.opening mapping.membership) word drafts).map
          (Mark.piece dialect.style.quote)
        shape := Draft.combinedShape word drafts } := by
  obtain ⟨parts, partsCompiled, combined⟩ := bind_eq_ok.mp compiled
  obtain ⟨drafts, drafted, rfl⟩ := mapM_condition partsCompiled
  refine ⟨drafts, drafted, ?_⟩
  rw [← Condition.combine_conditions combined, form_dialect speaks, speaks, Draft.combined_clauses]

end Mapping

namespace Mark

/-- The text of marks whose bound values are numbered from `next` on. -/
def textFrom (quote : String → String) (placeholder : Nat → String) :
    (next : Nat) → List Mark → List Char
  | _, [] => []
  | next, .fixed phrase :: rest => phrase.text.toList ++ textFrom quote placeholder next rest
  | next, .name column :: rest => (quote column).toList ++ textFrom quote placeholder next rest
  | next, .bound _ :: rest =>
    (placeholder next).toList ++ textFrom quote placeholder (next + 1) rest

theorem toList_render (quote : String → String) (placeholder : Nat → String) (next : Nat)
    (marks : List Mark) :
    (Condition.render placeholder (Clause.chunksFrom next (marks.map (piece quote)))).toList =
      textFrom quote placeholder next marks := by
  induction marks generalizing next with
  | nil => rfl
  | cons mark marks ih =>
    simp only [Condition.render, String.toList_join] at ih
    cases mark <;>
      simp [Condition.render, piece, Clause.chunksFrom, textFrom, String.toList_join, ih]

/-- Texts that end a word, a number or a quoted name in front of them. -/
def Break (text : List Char) : Prop := ∀ c ∈ text.head?, c = ' ' ∨ c = ',' ∨ c = ')'

theorem breaks_phrase {phrase : Phrase} (breaks : (fixed phrase).breaks = true)
    (rest : List Char) : Break (phrase.text.toList ++ rest) := by
  intro c member
  cases phrase with
  | openParen => cases breaks
  | notOpen => cases breaks
  | never => cases breaks
  | nullTest present => cases present <;> simp [Phrase.text] at member <;> simp [← member]
  | _ => simp [Phrase.text] at member; simp [← member]

/-- The text behind a loose mark is a break. -/
theorem Orderly.break_behind {mark : Mark} {marks : List Mark} (orderly : Orderly (mark :: marks))
    (loose : mark.loose = true) (quote : String → String) (placeholder : Nat → String)
    (next : Nat) : Break (textFrom quote placeholder next marks) := by
  cases marks with
  | nil => intro c member; cases member
  | cons follower marks =>
    have breaks := orderly.head loose follower rfl
    cases follower with
    | fixed phrase => exact breaks_phrase breaks _
    | name column => cases breaks
    | bound value => cases breaks

end Mark

end WhereClause
