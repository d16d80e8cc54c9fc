import WhereClause.Proofs.Joining

/-! Chains of one connective.

How a chain of conjunctions or of disjunctions is nested does not show in its condition: a clause
that is joined by the word at its own top needs no parentheses, so both nestings write the same
pieces. The same holds of chains anywhere in a tree, below negations and between other connectives.
-/

set_option autoImplicit false

namespace WhereClause

/-- Predicates that differ only by the nesting of chains of one connective, anywhere in the tree. -/
inductive Predicate.Reassociates : Predicate → Predicate → Prop where
  | rotate (word : Word) (first second third : Predicate) :
      Reassociates (word.predicate first (word.predicate second third))
        (word.predicate (word.predicate first second) third)
  | not {inner other : Predicate} : Reassociates inner other → Reassociates (.not inner) (.not other)
  | join (word : Word) {left other right another : Predicate} :
      Reassociates left other → Reassociates right another →
      Reassociates (word.predicate left right) (word.predicate other another)
  | refl (predicate : Predicate) : Reassociates predicate predicate
  | symm {first second : Predicate} : Reassociates first second → Reassociates second first
  | trans {first second third : Predicate} :
      Reassociates first second → Reassociates second third → Reassociates first third

namespace Clause

theorem pieces_join (word : Word) (left right : Clause) :
    (join word left right).pieces =
      left.grouped word.shape ++ .text (" " ++ word.sql ++ " ") :: right.grouped word.shape := rfl

theorem grouped_join (word : Word) (left right : Clause) :
    (join word left right).grouped word.shape = (join word left right).pieces := by
  simp [grouped, join]

theorem join_assoc (word : Word) (first second third : Clause) :
    join word first (join word second third) = join word (join word first second) third := by
  have pieces : (join word first (join word second third)).pieces =
      (join word (join word first second) third).pieces := by
    simp only [pieces_join, grouped_join, List.append_assoc, List.cons_append]
  exact congrArg (fun pieces => { pieces, shape := word.shape : Clause }) pieces

end Clause

namespace Mapping

variable (mapping : Mapping) (entity : String)

/-- The clause of a connective, or of its negation, is made of the clauses of its sides. -/
theorem clause_joined (negated : Bool) (word : Word) (left right : Predicate) :
    mapping.clause entity negated (word.predicate left right) = do
      let joined ← mapping.clause entity false (word.predicate left right)
      return if negated then joined.negated else joined := by
  cases negated <;> cases word <;> simp [Word.predicate, clause]

theorem clause_rotate (word : Word) (first second third : Predicate) :
    mapping.clause entity false (word.predicate first (word.predicate second third)) =
      mapping.clause entity false (word.predicate (word.predicate first second) third) := by
  simp [clause_word, Clause.join_assoc]

theorem clause_reassociates {first second : Predicate} (same : first.Reassociates second)
    (negated : Bool) : mapping.clause entity negated first = mapping.clause entity negated second := by
  -- on how the two are related, below any number of negations: a rotation is the only case where
  -- the trees differ at the top
  induction same generalizing negated with
  | rotate word first second third =>
    rw [clause_joined, clause_rotate, ← clause_joined]
  | not _ ih => exact ih (!negated)
  | join word _ _ leftIh rightIh =>
    rw [clause_joined, clause_word, leftIh false, rightIh false, ← clause_word, ← clause_joined]
  | refl predicate => rfl
  | symm _ ih => exact (ih negated).symm
  | trans _ _ firstIh secondIh => exact (firstIh negated).trans (secondIh negated)

/-- Predicates that differ only by the nesting of chains have the same condition, chunk by chunk
and with the same parameters and shape, or fail with the same error. -/
theorem condition_reassociates (mapping : Mapping) (entity : String) {first second : Predicate}
    (same : first.Reassociates second) :
    mapping.condition entity first = mapping.condition entity second := by
  rw [condition_eq, condition_eq, mapping.clause_reassociates entity same false]

/-- Chains of both connectives below a negation, each nested to the right and to the left. -/
theorem condition_reassociates_denied :
    let mapping := Mapping.identity Dialect.postgresql.style
    let truth (member : String) : Predicate := .truth (.field [member])
    let right : Predicate :=
      .not (.or (truth "a") (.or (.and (truth "b") (.and (truth "c") (truth "d"))) (truth "e")))
    let left : Predicate :=
      .not (.or (.or (truth "a") (.and (.and (truth "b") (truth "c")) (truth "d"))) (truth "e"))
    right.Reassociates left ∧ mapping.condition "Node" right = mapping.condition "Node" left ∧
      ∃ condition, mapping.condition "Node" left = .ok condition ∧ condition.text =
        "NOT (\"a\" = @0 OR (\"b\" = @1 AND \"c\" = @2 AND \"d\" = @3) OR \"e\" = @4)" := by
  intro mapping truth right left
  have inner : Predicate.Reassociates (.and (truth "b") (.and (truth "c") (truth "d")))
      (.and (.and (truth "b") (truth "c")) (truth "d")) := .rotate .and _ _ _
  have outer : Predicate.Reassociates
      (.or (truth "a") (.or (.and (truth "b") (.and (truth "c") (truth "d"))) (truth "e")))
      (.or (.or (truth "a") (.and (.and (truth "b") (truth "c")) (truth "d"))) (truth "e")) :=
    (Predicate.Reassociates.join .or (.refl _) (.join .or inner (.refl _))).trans (.rotate .or _ _ _)
  have same : right.Reassociates left := .not outer
  exact ⟨same, condition_reassociates mapping "Node" same, _, rfl, by decide⟩

end Mapping

end WhereClause
