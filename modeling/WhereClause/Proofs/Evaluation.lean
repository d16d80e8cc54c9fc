import WhereClause.Proofs.Grammar
import WhereClause.Proofs.Scanning
import WhereClause.Sql.Cell

/-! Evaluation of drafts.

An engine is what a database does with the values that are sent to it and with the cells it
holds. The tokens that spell a draft are read as a condition which, in every row, has the truth
value of the draft.
-/

set_option autoImplicit false

namespace WhereClause.Sql

structure Engine (α : Type) where
  /-- What a parameter becomes when it is sent. -/
  bind : Value → α
  number : Nat → α
  /-- The order of two values, unless one of them is null or they cannot be compared. -/
  compare? : α → α → Option Ordering
  isNull : α → Bool
  elements : α → List α

namespace Engine

variable {α : Type}

/-- Two values that can be compared and are not equal. -/
def Differ (engine : Engine α) (left right : α) : Prop :=
  ∃ order, engine.compare? left right = some order ∧ order ≠ .eq

/-- What is expected of an engine. Collections matter only where they are bound as a whole. -/
structure Lawful (engine : Engine α) (strategy : Strategy) : Prop where
  isNull_null : ∀ type, engine.isNull (engine.bind (.null type)) = true
  compare_null : ∀ left right, engine.isNull left = true → engine.compare? left right = none
  compare_bool : ∀ value, engine.compare? (engine.bind (.bool value)) (engine.bind (.bool value)) =
    some .eq
  differ_bool : ∀ value, engine.Differ (engine.bind (.bool value)) (engine.bind (.bool (!value)))
  differ_number : engine.Differ (engine.number 1) (engine.number 0)
  elements_items : strategy ≠ .expand → ∀ items,
    engine.elements (engine.bind (.ofItems items)) = items.map engine.bind

def compare (engine : Engine α) (op : Comparison) (left right : α) : Truth :=
  .ofOption ((engine.compare? left right).map (holds op))

def among (engine : Engine α) (item : α) (values : List Value) : Truth :=
  .any (values.map fun value => engine.compare .eq item (engine.bind value))

def model (engine : Engine α) (row : String → α) (params : List Value) : Model α where
  column := row
  -- compiled conditions use no number beyond their parameters
  param index := engine.bind (params.getD index (.null .string))
  number := engine.number
  compare := engine.compare
  isNull := engine.isNull
  elements := engine.elements

theorem compare_negate (engine : Engine α) (op : Comparison) (left right : α) :
    engine.compare op.negate left right = (engine.compare op left right).not := by
  unfold compare
  cases engine.compare? left right with
  | none => rfl
  | some order => cases op <;> cases order <;> rfl

theorem Differ.compare_eq {engine : Engine α} {left right : α} (differ : engine.Differ left right) :
    engine.compare .eq left right = .no := by
  obtain ⟨order, compared, apart⟩ := differ
  have unequal : (order == .eq) = false := beq_false_of_ne apart
  simp only [compare, compared, Option.map_some, holds, unequal, Truth.ofOption, Truth.ofBool]

theorem model_among (engine : Engine α) (row : String → α) (params : List Value) (item : α)
    (values : List Value) :
    (engine.model row params).among item (values.map engine.bind) = engine.among item values := by
  simp only [Model.among, among, List.map_map]
  rfl

def memory : Engine Datum where
  bind value := { cell := (Cell.ofValue value).toOption.getD .null, type := none }
  number value := { cell := .integer value, type := none }
  compare? := Datum.compare?
  isNull datum := datum.cell.isNull
  elements _ := []

theorem memory_compare_null {left right : Datum} (null : left.cell.isNull = true) :
    left.compare? right = none := by
  have beside : left.beside right.type = .null := by
    rcases left with ⟨cell, type⟩
    cases cell with
    | null => unfold Datum.beside; split <;> rfl
    | _ => cases null
  simp only [Datum.compare?, beside, Cell.compare?]

theorem memory_lawful : memory.Lawful .expand where
  isNull_null type := by cases type <;> rfl
  compare_null _ _ null := memory_compare_null null
  compare_bool value := by cases value <;> rfl
  differ_bool value := by cases value <;> exact ⟨_, rfl, by decide⟩
  differ_number := ⟨_, rfl, by decide⟩
  elements_items other := absurd rfl other

end Engine

end Sql

open Sql

variable {α : Type}

namespace Slot

def values : Slot → List Value
  | .column _ => []
  | .bound value => [value]

/-- The term that is read for a slot if a value in it gets the number `next`. -/
def term (next : Nat) : Slot → Sql.Term
  | .column name => .column name
  | .bound _ => .param next

def eval (engine : Engine α) (row : String → α) : Slot → α
  | .column name => row name
  | .bound value => engine.bind value

end Slot

def Draft.eval (engine : Engine α) (row : String → α) : Draft → Truth
  | .compare op left right => engine.compare op (left.eval engine row) (right.eval engine row)
  | .nullTest present tested => .ofBool (engine.isNull (tested.eval engine row) != present)
  | .member item first others => engine.among (item.eval engine row) (first :: others)
  | .never => .no
  | .not inner => (inner.eval engine row).not
  | .join word left right => word.truth (left.eval engine row) (right.eval engine row)

namespace Mark

def values : List Mark → List Value
  | [] => []
  | .fixed _ :: rest => values rest
  | .name _ :: rest => values rest
  | .bound value :: rest => value :: values rest

theorem values_append (first rest : List Mark) :
    values (first ++ rest) = values first ++ values rest := by
  induction first with
  | nil => rfl
  | cons mark first ih => cases mark <;> simp [values, ih]

@[simp] theorem values_enclose (marks : List Mark) : values (enclose marks) = values marks := by
  simp [enclose, values, values_append]

@[simp] theorem values_grouped (parent shape : Shape) (marks : List Mark) :
    values (grouped parent shape marks) = values marks :=
  grouped_eq values (values_enclose marks) parent shape

theorem boundValues_pieces (quote : String → String) (marks : List Mark) :
    Clause.boundValues (marks.map (piece quote)) = values marks := by
  induction marks with
  | nil => rfl
  | cons mark marks ih => cases mark <;> simp [piece, values, ih]

theorem tokensFrom_append (token : Nat → Token) (next : Nat) (first rest : List Mark) :
    tokensFrom token next (first ++ rest) =
      tokensFrom token next first ++ tokensFrom token (next + (values first).length) rest := by
  induction first generalizing next with
  | nil => rfl
  | cons mark first ih =>
    cases mark <;> simp [tokensFrom, values, ih, Nat.add_assoc, Nat.add_comm 1]

theorem values_slot (slot : Slot) (rest : List Mark) :
    values (slot.mark :: rest) = slot.values ++ values rest := by
  cases slot <;> rfl

theorem tokensFrom_slot (next : Nat) (slot : Slot) (rest : List Mark) :
    tokensFrom .param next (slot.mark :: rest) =
      (slot.term next).token :: tokensFrom .param (next + slot.values.length) rest := by
  cases slot <;> rfl

theorem values_listed (first : Value) (others : List Value) :
    values (listed first others) = first :: others := by
  induction others generalizing first with
  | nil => rfl
  | cons next others ih => simp [listed, values, ih]

theorem tokensFrom_listed (next : Nat) (first : Value) (others : List Value) :
    tokensFrom .param next (listed first others) =
      listedTokens (.param next) ((List.range' (next + 1) others.length).map .param) := by
  induction others generalizing first next with
  | nil => rfl
  | cons second others ih =>
    simp [listed, tokensFrom, Phrase.tokens, listedTokens, Sql.Term.token, ih, List.range'_succ]

end Mark

def Supplies (params : List Value) (next : Nat) (values : List Value) : Prop :=
  ∃ rest, params.drop next = values ++ rest

namespace Supplies

variable {params first rest : List Value} {next : Nat}

theorem left (supplies : Supplies params next (first ++ rest)) : Supplies params next first := by
  obtain ⟨behind, same⟩ := supplies
  exact ⟨rest ++ behind, by rw [same, List.append_assoc]⟩

theorem right (supplies : Supplies params next (first ++ rest)) :
    Supplies params (next + first.length) rest := by
  obtain ⟨behind, same⟩ := supplies
  exact ⟨behind, by rw [← List.drop_drop, same, List.append_assoc, List.drop_left]⟩

theorem param {value : Value} (supplies : Supplies params next (value :: rest))
    (engine : Engine α) (row : String → α) :
    (engine.model row params).param next = engine.bind value := by
  obtain ⟨behind, same⟩ := supplies
  have found : params[next]? = some value := by
    rw [← List.head?_drop, same]
    rfl
  simp [Engine.model, List.getD, found]

theorem term {slot : Slot} (supplies : Supplies params next (slot.values ++ rest))
    (engine : Engine α) (row : String → α) :
    (slot.term next).eval (engine.model row params) = slot.eval engine row := by
  cases slot with
  | column name => rfl
  | bound value => exact supplies.param engine row

theorem range (supplies : Supplies params next rest) (engine : Engine α) (row : String → α) :
    ((List.range' next rest.length).map Sql.Term.param).map (Sql.Term.eval (engine.model row params)) =
      rest.map engine.bind := by
  induction rest generalizing next with
  | nil => rfl
  | cons value rest ih =>
    have behind : Supplies params (next + 1) rest := @right params [value] rest next supplies
    simp only [List.length_cons, List.range'_succ, List.map_cons, ih behind]
    rw [Sql.Term.eval, supplies.param engine row]

end Supplies

namespace Draft

/-- A condition that is read for a draft, whose values get the numbers from `next` on. -/
structure ReadAs (strategy : Strategy) (draft : Draft) (next : Nat) (marks : List Mark)
    (formula : Formula) : Prop where
  spells : Spells draft.shape (Mark.tokensFrom .param next marks) formula
  eval : ∀ {α : Type} (engine : Engine α) (row : String → α) (params : List Value),
    engine.Lawful strategy → Supplies params next (Mark.values marks) →
    formula.eval (engine.model row params) = draft.eval engine row

variable {strategy : Strategy} {next : Nat}

theorem readAs_compare (op : Comparison) (left right : Slot) :
    (compare op left right).ReadAs strategy next [left.mark, .fixed (.comparison op), right.mark]
      (.compare op (left.term next) (right.term (next + left.values.length))) where
  spells := by
    rw [Mark.tokensFrom_slot, Mark.tokensFrom, Mark.tokensFrom_slot]
    exact .compare op _ _
  eval engine row params _ supplies := by
    rw [Mark.values_slot, Mark.values, Mark.values_slot] at supplies
    simp only [Formula.eval, eval, supplies.term engine row, supplies.right.term engine row]
    rfl

theorem readAs_nullTest (present : Bool) (tested : Slot) :
    (nullTest present tested).ReadAs strategy next [tested.mark, .fixed (.nullTest present)]
      (.nullTest present (tested.term next)) where
  spells := by
    rw [Mark.tokensFrom_slot]
    cases present with
    | false => exact .isNull _
    | true => exact .isNotNull _
  eval engine row params _ supplies := by
    rw [Mark.values_slot] at supplies
    simp only [Formula.eval, eval, supplies.term engine row]
    rfl

theorem readAs_never :
    never.ReadAs strategy next [.fixed .never] (.compare .eq (.number 1) (.number 0)) where
  spells := .compare .eq (.number 1) (.number 0)
  eval _ _ _ lawful _ := lawful.differ_number.compare_eq

theorem readAs_among (item : Slot) (first : Value) (others : List Value) :
    (member item first others).ReadAs strategy next (item.mark :: Mark.collected none first others)
      (.among (item.term next) (.param (next + item.values.length) ::
        (List.range' (next + item.values.length + 1) others.length).map .param)) where
  spells := by
    rw [Mark.tokensFrom_slot, Mark.collected, List.cons_append, Mark.tokensFrom,
      Mark.tokensFrom_append, Mark.tokensFrom_listed]
    exact .among _ _ _
  eval engine row params _ supplies := by
    rw [Mark.values_slot, Mark.collected, List.cons_append, Mark.values, Mark.values_append,
      Mark.values_listed] at supplies
    have elements := supplies.right.left.range engine row
    rw [List.length_cons, List.range'_succ, List.map_cons] at elements
    simp only [Formula.eval, eval, supplies.term engine row, elements]
    exact engine.model_among row params _ _

theorem readAs_within {opening : Phrase} (whole : opening = .arrayOpen ∨ opening = .tableOpen)
    (collective : strategy ≠ .expand) (item : Slot) (first : Value) (others : List Value) :
    (member item first others).ReadAs strategy next
      (item.mark :: Mark.collected (some opening) first others)
      (.within (item.term next) (next + item.values.length)) where
  spells := by
    rw [Mark.tokensFrom_slot]
    rcases whole with rfl | rfl
    · exact .withinArray _ _
    · exact .withinTable _ _
  eval engine row params lawful supplies := by
    rw [Mark.values_slot] at supplies
    have collection := supplies.right.param engine row
    simp only [Formula.eval, eval, supplies.term engine row, collection]
    exact (congrArg _ (lawful.elements_items collective _)).trans (engine.model_among row params _ _)

theorem ReadAs.enclosed {draft : Draft} {marks : List Mark} {formula : Formula}
    (readAs : draft.ReadAs strategy next marks formula) :
    Spells .atom (Mark.tokensFrom .param next (Mark.enclose marks)) formula := by
  rw [Mark.enclose, List.cons_append, Mark.tokensFrom, Mark.tokensFrom_append]
  exact .group readAs.spells.weaken

/-- A side of a connective is read by itself, since another connective stands in parentheses. -/
theorem ReadAs.grouped {draft : Draft} {marks : List Mark} {formula : Formula}
    (readAs : draft.ReadAs strategy next marks formula) (parent : Shape) :
    Spells parent (Mark.tokensFrom .param next (Mark.grouped parent draft.shape marks)) formula := by
  have spells := readAs.spells
  unfold Mark.grouped
  split
  next same =>
    -- no parentheses: there is no connective, or it is the parent's own
    rcases (by simpa using same : draft.shape = .atom ∨ draft.shape = parent) with atom | parent
    · rw [atom] at spells
      exact spells.lift _
    · rwa [parent] at spells
  next => exact readAs.enclosed.lift parent

theorem readAs_not {inner : Draft} {marks : List Mark} {formula : Formula}
    (readAs : inner.ReadAs strategy next marks formula) :
    (not inner).ReadAs strategy next (.fixed .notOpen :: marks ++ [.fixed .closeParen])
      (.not formula) where
  spells := .not readAs.enclosed
  eval engine row params lawful supplies := by
    have inside : Supplies params next (Mark.values marks) := by
      rw [List.cons_append, Mark.values, Mark.values_append] at supplies
      exact supplies.left
    simp only [Formula.eval, eval, readAs.eval engine row params lawful inside]

theorem readAs_join (word : Word) {left right : Draft} {first rest : List Mark}
    {leftFormula rightFormula : Formula} (leftAs : left.ReadAs strategy next first leftFormula)
    (rightAs : right.ReadAs strategy (next + (Mark.values first).length) rest rightFormula) :
    ∃ formula, (join word left right).ReadAs strategy next
        (Mark.grouped word.shape left.shape first ++
          .fixed (.connective word) :: Mark.grouped word.shape right.shape rest) formula ∧
      formula.operands word = leftFormula.operands word ++ rightFormula.operands word := by
  obtain ⟨formula, spells, operands⟩ :=
    (leftAs.grouped word.shape).join word (rightAs.grouped word.shape)
  refine ⟨formula, ⟨?_, fun engine row params lawful supplies => ?_⟩, operands⟩
  · rw [Mark.tokensFrom_append, Mark.values_grouped]
    exact spells
  · rw [Mark.values_append, Mark.values, Mark.values_grouped, Mark.values_grouped] at supplies
    rw [Formula.eval_of_operands _ operands, leftAs.eval engine row params lawful supplies.left,
      rightAs.eval engine row params lawful supplies.right, eval]

end Draft

theorem Dialect.opening_cases (dialect : Dialect) (strategy : Strategy) :
    dialect.opening strategy = none ∨ strategy ≠ .expand ∧
      ∃ phrase, dialect.opening strategy = some phrase ∧
        (phrase = .arrayOpen ∨ phrase = .tableOpen) := by
  cases dialect <;> cases strategy <;> simp [opening]

/-- Whatever number the first value gets, the spelling of a draft is read as a condition with
the truth value of the draft. -/
theorem Draft.exists_readAs (dialect : Dialect) (strategy : Strategy) (draft : Draft) (next : Nat) :
    ∃ formula, draft.ReadAs strategy next (draft.marks (dialect.opening strategy)) formula := by
  induction draft generalizing next with
  | compare op left right => exact ⟨_, readAs_compare op left right⟩
  | nullTest present tested => exact ⟨_, readAs_nullTest present tested⟩
  | never => exact ⟨_, readAs_never⟩
  | member item first others =>
    rcases dialect.opening_cases strategy with single | ⟨collective, phrase, opening, whole⟩
    · rw [single]
      exact ⟨_, readAs_among item first others⟩
    · rw [opening]
      exact ⟨_, readAs_within whole collective item first others⟩
  | not inner ih =>
    obtain ⟨formula, readAs⟩ := ih next
    exact ⟨_, readAs_not readAs⟩
  | join word left right leftIh rightIh =>
    obtain ⟨leftFormula, leftAs⟩ := leftIh next
    -- the values on the right are numbered behind those on the left
    obtain ⟨rightFormula, rightAs⟩ := rightIh _
    obtain ⟨formula, readAs, _⟩ := readAs_join word leftAs rightAs
    exact ⟨formula, readAs⟩

end WhereClause
