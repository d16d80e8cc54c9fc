import WhereClause.Proofs.Numbering
import WhereClause.Proofs.Skeleton

/-! Values do not reach the text of a condition.

Two predicates are similar if they differ only in the values they bind. Values steer the
compilation in a few places: a null literal turns a comparison into a null test, a truth test
wants a boolean, a collection may be empty, and a converter may refuse. Each of these is either
fixed by similarity or ends in an error, so what is written is the same.
-/

set_option autoImplicit false

namespace WhereClause

inductive Operand.Similar : Operand → Operand → Prop where
  | constant {value other : Value} {type otherType : ValueType} :
      Similar (.constant value type) (.constant other otherType)
  | field {path : MemberPath} : Similar (.field path) (.field path)
  | captured {path otherPath : MemberPath} {value other : Value} :
      Similar (.captured path value) (.captured otherPath other)

/-- Predicates that differ only in values. Null literals stand in the same places of
comparisons, and collections are empty together; where each element is bound by itself, they
have the same size. -/
inductive Predicate.Similar (strategy : Strategy) : Predicate → Predicate → Prop where
  | compare {op : Comparison} {left right otherLeft otherRight : Operand} :
      left.Similar otherLeft → right.Similar otherRight →
      left.isNullLiteral = otherLeft.isNullLiteral →
      right.isNullLiteral = otherRight.isNullLiteral →
      Similar strategy (.compare op left right) (.compare op otherLeft otherRight)
  | not {inner other : Predicate} :
      Similar strategy inner other → Similar strategy (.not inner) (.not other)
  | and {left right otherLeft otherRight : Predicate} :
      Similar strategy left otherLeft → Similar strategy right otherRight →
      Similar strategy (.and left right) (.and otherLeft otherRight)
  | or {left right otherLeft otherRight : Predicate} :
      Similar strategy left otherLeft → Similar strategy right otherRight →
      Similar strategy (.or left right) (.or otherLeft otherRight)
  | isNull {tested other : Operand} :
      tested.Similar other → Similar strategy (.isNull tested) (.isNull other)
  | isNotNull {tested other : Operand} :
      tested.Similar other → Similar strategy (.isNotNull tested) (.isNotNull other)
  | truth {tested other : Operand} :
      tested.Similar other → Similar strategy (.truth tested) (.truth other)
  | member {item other : Operand} {collection otherCollection : List Value} :
      item.Similar other → collection.isEmpty = otherCollection.isEmpty →
      (strategy = .expand → collection.length = otherCollection.length) →
      Similar strategy (.member item collection) (.member other otherCollection)

theorem Operand.Similar.skeleton_eq {operand other : Operand} (similar : operand.Similar other) :
    operand.skeleton = other.skeleton := by
  cases similar <;> rfl

theorem Predicate.skeleton_compare {op : Comparison} {left right otherLeft otherRight : Operand}
    (leftSimilar : left.Similar otherLeft) (rightSimilar : right.Similar otherRight)
    (leftNull : left.isNullLiteral = otherLeft.isNullLiteral)
    (rightNull : right.isNullLiteral = otherRight.isNullLiteral) (whole negated : Bool) :
    (compare op left right).skeleton whole negated =
      (compare op otherLeft otherRight).skeleton whole negated := by
  have leftSame := leftSimilar.skeleton_eq
  have rightSame := rightSimilar.skeleton_eq
  unfold skeleton Operand.besideNull?
  rw [leftNull, rightNull, leftSame, rightSame]
  cases otherLeft.isNullLiteral <;> cases otherRight.isNullLiteral <;>
    cases (op.signed negated).nullTest? <;> simp [leftSame, rightSame]

theorem Predicate.skeleton_member {item other : Operand} {collection otherCollection : List Value}
    (similar : item.Similar other) (empty : collection.isEmpty = otherCollection.isEmpty)
    {whole : Bool} (size : whole = false → collection.length = otherCollection.length)
    (negated : Bool) :
    (member item collection).skeleton whole negated =
      (member other otherCollection).skeleton whole negated := by
  cases collection with
  | nil =>
    cases otherCollection with
    | nil => rfl
    | cons element elements => cases empty
  | cons element elements =>
    cases otherCollection with
    | nil => cases empty
    | cons otherElement otherElements =>
      cases whole with
      | true => simp [skeleton, similar.skeleton_eq]
      | false =>
        have sizes : elements.length = otherElements.length := by simpa using size rfl
        simp [skeleton, similar.skeleton_eq, sizes]

namespace Mapping

variable {mapping : Mapping} {entity : String}

theorem expand_of_form_none
    (supported : mapping.membership.form mapping.style = .ok mapping.form)
    (single : mapping.form.isSome = false) : mapping.membership = .expand := by
  have none : mapping.form = none := by simpa using single
  rw [none] at supported
  cases strategy : mapping.membership with
  | expand => rfl
  | nativeArray =>
    cases found : mapping.style.arrayMembership <;>
      simp [strategy, Strategy.form, found] at supported
  | tableValued =>
    cases found : mapping.style.tableMembership <;>
      simp [strategy, Strategy.form, found] at supported

/-- Similar predicates have one skeleton, as far as they can be drafted. -/
theorem Drafted.skeleton_similar {negated : Bool} {predicate other : Predicate} {draft : Draft}
    (drafted : mapping.Drafted entity negated predicate draft)
    (similar : predicate.Similar mapping.membership other) :
    predicate.skeleton mapping.form.isSome negated =
      other.skeleton mapping.form.isSome negated := by
  induction drafted generalizing other with
  | compare _ _ _ _ =>
    cases similar with
    | compare left right leftNull rightNull =>
      exact Predicate.skeleton_compare left right leftNull rightNull _ _
  | compareNull _ _ _ =>
    cases similar with
    | compare left right leftNull rightNull =>
      exact Predicate.skeleton_compare left right leftNull rightNull _ _
  | isNull _ => cases similar with | isNull tested => simp [Predicate.skeleton, tested.skeleton_eq]
  | isNotNull _ =>
    cases similar with | isNotNull tested => simp [Predicate.skeleton, tested.skeleton_eq]
  | truth _ _ _ => cases similar with | truth tested => simp [Predicate.skeleton, tested.skeleton_eq]
  -- sizes are compared only where each element is bound by itself
  | never _ supported _ =>
    cases similar with
    | member item empty size =>
      exact Predicate.skeleton_member item empty
        (fun single => size (expand_of_form_none supported single)) _
  | member _ supported _ _ _ =>
    cases similar with
    | member item empty size =>
      exact Predicate.skeleton_member item empty
        (fun single => size (expand_of_form_none supported single)) _
  | not _ ih => cases similar with | not inner => exact ih inner
  | and _ _ leftIh rightIh =>
    cases similar with
    | and left right => simp only [Predicate.skeleton, leftIh left, rightIh right]
  | or _ _ leftIh rightIh =>
    cases similar with
    | or left right => simp only [Predicate.skeleton, leftIh left, rightIh right]

end Mapping

def Piece.blank : Piece → Piece
  | .text content => .text content
  | .bound _ => .bound .blank

namespace Clause

def blank (clause : Clause) : Clause :=
  { clause with pieces := clause.pieces.map Piece.blank }

theorem blank_negated (clause : Clause) : clause.negated.blank = clause.blank.negated := by
  simp [blank, negated, atom, Piece.blank]

theorem blank_grouped (clause : Clause) (parent : Shape) :
    (clause.grouped parent).map Piece.blank = clause.blank.grouped parent := by
  unfold grouped blank
  split
  · rfl
  · simp [Piece.blank]

theorem blank_join (word : Word) (left right : Clause) :
    (join word left right).blank = join word left.blank right.blank := by
  simp [blank, join, Piece.blank, blank_grouped]

theorem chunksFrom_blank (next : Nat) (pieces : List Piece) :
    chunksFrom next (pieces.map Piece.blank) = chunksFrom next pieces := by
  induction pieces generalizing next with
  | nil => rfl
  | cons piece pieces ih =>
    cases piece with
    | text content => exact congrArg (Chunk.text content :: ·) (ih next)
    | bound value => exact congrArg (Chunk.param next :: ·) (ih (next + 1))

theorem length_boundValues_blank (pieces : List Piece) :
    (boundValues (pieces.map Piece.blank)).length = (boundValues pieces).length := by
  induction pieces with
  | nil => rfl
  | cons piece pieces ih => cases piece <;> simp [Piece.blank, ih]

/-- Clauses that differ only in bound values have one text, and as many parameters. -/
theorem condition_of_blank {clause other : Clause} (blank : clause.blank = other.blank) :
    clause.condition.chunks = other.condition.chunks ∧
      clause.condition.shape = other.condition.shape ∧
      clause.condition.params.length = other.condition.params.length := by
  have pieces : clause.pieces.map Piece.blank = other.pieces.map Piece.blank :=
    congrArg Clause.pieces blank
  have shape : clause.blank.shape = other.blank.shape := congrArg Clause.shape blank
  refine ⟨?_, shape, ?_⟩
  · unfold condition
    rw [← chunksFrom_blank 0 clause.pieces, pieces, chunksFrom_blank]
  · unfold condition
    rw [← length_boundValues_blank clause.pieces, pieces, length_boundValues_blank]

end Clause

theorem Slot.blank_piece (quote : String → String) (slot : Slot) :
    ((slot.recast id).piece quote).blank = (slot.piece quote).blank := by
  cases slot <;> rfl

theorem Mapping.blank_listPieces (values : List Value) :
    (listPieces values).map Piece.blank = listPieces (values.map fun _ => .blank) := by
  induction values with
  | nil => rfl
  | cons value values ih =>
    cases values with
    | nil => rfl
    | cons next values => simp only [List.map_cons, listPieces, Piece.blank] at ih ⊢; rw [ih]

/-- Forgetting values before spelling is no different from forgetting them after it. -/
theorem Draft.blank_clause (quote : String → String) (form : Option (String × String))
    (draft : Draft) :
    ((draft.recast id form.isSome).clause quote form).blank = (draft.clause quote form).blank := by
  induction draft with
  | compare op left right =>
    simp only [recast, clause, Clause.blank, Clause.atom, List.map_cons, List.map_nil,
      Slot.blank_piece]
  | nullTest present tested =>
    simp only [recast, clause, Clause.blank, Clause.atom, List.map_cons, List.map_nil,
      Slot.blank_piece]
  | never => rfl
  | member item first others =>
    have collection : (Mapping.collectionPieces form (.blank ::
        if form.isSome then [] else others.map fun _ => .blank)).map Piece.blank =
          (Mapping.collectionPieces form (first :: others)).map Piece.blank := by
      cases form with
      | none => simp [Mapping.collectionPieces, Mapping.blank_listPieces]
      | some form => rfl
    simp only [recast, clause, Clause.blank, Clause.atom, List.map_cons, Slot.blank_piece,
      collection]
  | not inner ih => simp only [recast, clause, Clause.blank_negated, ih]
  | join word left right leftIh rightIh =>
    simp only [recast, clause, Clause.blank_join, leftIh, rightIh]

namespace Mapping

variable {mapping : Mapping} {entity : String}

theorem clause_similar {negated : Bool} {predicate other : Predicate} {clause otherClause : Clause}
    (similar : predicate.Similar mapping.membership other)
    (compiled : mapping.clause entity negated predicate = .ok clause)
    (otherCompiled : mapping.clause entity negated other = .ok otherClause) :
    clause.blank = otherClause.blank := by
  obtain ⟨draft, drafted, rfl⟩ := clause_eq_ok compiled
  obtain ⟨otherDraft, otherDrafted, rfl⟩ := clause_eq_ok otherCompiled
  have recast : draft.recast id mapping.form.isSome = otherDraft.recast id mapping.form.isSome := by
    rw [drafted.recast_skeleton, otherDrafted.recast_skeleton, drafted.skeleton_similar similar]
  rw [← Draft.blank_clause, recast, Draft.blank_clause]

/-- Conditions of similar predicates are the same but for the values of their parameters. -/
theorem condition_similar {predicate other : Predicate} {condition otherCondition : Condition}
    (similar : predicate.Similar mapping.membership other)
    (compiled : mapping.condition entity predicate = .ok condition)
    (otherCompiled : mapping.condition entity other = .ok otherCondition) :
    condition.sql = otherCondition.sql ∧ condition.text = otherCondition.text ∧
    (∀ style, condition.native style = otherCondition.native style) ∧
    condition.shape = otherCondition.shape ∧
    condition.params.length = otherCondition.params.length := by
  obtain ⟨clause, clauseCompiled, rfl⟩ := condition_eq_ok.mp compiled
  obtain ⟨otherClause, otherClauseCompiled, rfl⟩ := condition_eq_ok.mp otherCompiled
  -- the text is made from the chunks, and these do not show the values
  obtain ⟨chunks, shape, size⟩ :=
    Clause.condition_of_blank (clause_similar similar clauseCompiled otherClauseCompiled)
  have text : clause.condition.text = otherClause.condition.text :=
    congrArg (Condition.render fun index => "@" ++ toString index) chunks
  refine ⟨congrArg ("WHERE " ++ ·) text, text, fun style => ?_, shape, size⟩
  exact congrArg (fun chunks =>
    "WHERE " ++ Condition.render (fun index => style.placeholder (index + 1)) chunks) chunks

/-- Another constant of another type, another variable, and a collection of another size. -/
theorem condition_similar_array :
    let mapping : Mapping :=
      { Mapping.identity Dialect.postgresql.style with membership := .nativeArray }
    let predicate (constant variableValue : Value) (collection : List Value) : Predicate :=
      .or (.compare .lt (.field ["a"]) (.ofValue constant))
        (.not (.member (.captured ["v"] variableValue) collection))
    ∃ condition other,
      mapping.condition "E" (predicate (.int 1) (.int 2) [.int 3]) = .ok condition ∧
      mapping.condition "E" (predicate (.string "x' OR 1 = 1") (.bool true)
        [.string "@0", .null .int]) = .ok other ∧
      condition.sql = other.sql ∧ condition.params.length = other.params.length := by
  intro mapping predicate
  obtain ⟨condition, compiled⟩ : ∃ condition,
      mapping.condition "E" (predicate (.int 1) (.int 2) [.int 3]) = .ok condition := ⟨_, rfl⟩
  obtain ⟨other, otherCompiled⟩ : ∃ other,
      mapping.condition "E" (predicate (.string "x' OR 1 = 1") (.bool true)
        [.string "@0", .null .int]) = .ok other := ⟨_, rfl⟩
  have similar : (predicate (.int 1) (.int 2) [.int 3]).Similar mapping.membership
      (predicate (.string "x' OR 1 = 1") (.bool true) [.string "@0", .null .int]) :=
    .or (.compare .field .constant rfl rfl) (.not (.member .captured rfl nofun))
  obtain ⟨sql, _, _, _, size⟩ := condition_similar similar compiled otherCompiled
  exact ⟨condition, other, compiled, otherCompiled, sql, size⟩

end Mapping

end WhereClause
