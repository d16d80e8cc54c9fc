import WhereClause.Proofs.Numbering

/-! The tests of a predicate.

A predicate is a tree of negations, conjunctions and disjunctions over tests. Of the negations,
a test sees those that stand directly above it, and of these only whether their number is odd.
Compiling a predicate compiles its tests from left to right, each as if it stood alone: it binds
what they bind, one after the other, and stops where the first of them does.
-/

set_option autoImplicit false

namespace WhereClause

/-- A predicate without negations and connectives. -/
inductive Test where
  | compare (op : Comparison) (left right : Operand)
  | isNull (tested : Operand)
  | isNotNull (tested : Operand)
  | member (item : Operand) (collection : List Value)
  | truth (tested : Operand)

def Test.predicate : Test → Predicate
  | .compare op left right => .compare op left right
  | .isNull tested => .isNull tested
  | .isNotNull tested => .isNotNull tested
  | .member item collection => .member item collection
  | .truth tested => .truth tested

/-- A test, and whether an odd number of negations stands directly above it. -/
structure Leaf where
  test : Test
  denied : Bool

def Leaf.predicate (leaf : Leaf) : Predicate :=
  if leaf.denied then .not leaf.test.predicate else leaf.test.predicate

namespace Predicate

/-- The leaves of a predicate that stands below `negations` negations, from left to right. -/
def leavesBelow : (negations : Nat) → Predicate → List Leaf
  | negations, .compare op left right => [⟨.compare op left right, negations % 2 == 1⟩]
  | negations, .isNull tested => [⟨.isNull tested, negations % 2 == 1⟩]
  | negations, .isNotNull tested => [⟨.isNotNull tested, negations % 2 == 1⟩]
  | negations, .member item collection => [⟨.member item collection, negations % 2 == 1⟩]
  | negations, .truth tested => [⟨.truth tested, negations % 2 == 1⟩]
  | negations, .not inner => inner.leavesBelow (negations + 1)
  -- a connective stands between its sides and the negations above it
  | _, .and left right => left.leavesBelow 0 ++ right.leavesBelow 0
  | _, .or left right => left.leavesBelow 0 ++ right.leavesBelow 0

def leaves (predicate : Predicate) : List Leaf := predicate.leavesBelow 0

end Predicate

theorem odd_succ (number : Nat) : ((number + 1) % 2 == 1) = !(number % 2 == 1) := by
  by_cases odd : number % 2 = 1
  · have even : (number + 1) % 2 = 0 := by omega
    simp [odd, even]
  · have next : (number + 1) % 2 = 1 := by omega
    simp [odd, next]

namespace Clause

@[simp] theorem boundValues_grouped (clause : Clause) (parent : Shape) :
    boundValues (clause.grouped parent) = boundValues clause.pieces := by
  unfold grouped
  split
  · rfl
  · simp

@[simp] theorem boundValues_join (word : Word) (left right : Clause) :
    boundValues (join word left right).pieces =
      boundValues left.pieces ++ boundValues right.pieces := by
  simp [join]

@[simp] theorem boundValues_negated (clause : Clause) :
    boundValues clause.negated.pieces = boundValues clause.pieces := by
  simp [negated, atom]

end Clause

namespace Mapping

variable (mapping : Mapping) (entity : String)

def clauseValues (negated : Bool) (predicate : Predicate) : Except Error (List Value) := do
  return Clause.boundValues (← mapping.clause entity negated predicate).pieces

def params (predicate : Predicate) : Except Error (List Value) := do
  return (← mapping.condition entity predicate).params

theorem params_eq (predicate : Predicate) :
    mapping.params entity predicate = mapping.clauseValues entity false predicate := by
  unfold params clauseValues
  rw [condition_eq]
  simp only [bind_assoc, pure_bind]
  rfl

theorem params_leaf (leaf : Leaf) :
    mapping.params entity leaf.predicate =
      mapping.clauseValues entity leaf.denied leaf.test.predicate := by
  obtain ⟨test, denied⟩ := leaf
  rw [params_eq]
  cases denied <;> rfl

def leafParams (leaves : List Leaf) : Except Error (List Value) := do
  return (← leaves.mapM fun leaf => mapping.params entity leaf.predicate).flatten

theorem leafParams_single (leaf : Leaf) :
    mapping.leafParams entity [leaf] =
      mapping.clauseValues entity leaf.denied leaf.test.predicate := by
  simp [leafParams, params_leaf]

/-- Connectives bind what their sides bind, whether they are negated or not. -/
theorem clauseValues_join (word : Word) (negated : Bool) {left right : Predicate}
    {leftLeaves rightLeaves : List Leaf}
    (first : mapping.clauseValues entity false left = mapping.leafParams entity leftLeaves)
    (second : mapping.clauseValues entity false right = mapping.leafParams entity rightLeaves) :
    mapping.clauseValues entity negated (word.predicate left right) =
      mapping.leafParams entity (leftLeaves ++ rightLeaves) := by
  have joined : mapping.clauseValues entity negated (word.predicate left right) = (do
      let first ← mapping.clauseValues entity false left
      let second ← mapping.clauseValues entity false right
      return first ++ second) := by
    cases word <;> cases negated <;> simp [clauseValues, Word.predicate, clause]
  rw [joined, first, second]
  simp [leafParams]

theorem clauseValues_leaves (predicate : Predicate) (negations : Nat) :
    mapping.clauseValues entity (negations % 2 == 1) predicate =
      mapping.leafParams entity (predicate.leavesBelow negations) := by
  -- on the predicate, below any number of negations: those above a connective go no further
  induction predicate generalizing negations with
  | compare op left right =>
    exact (mapping.leafParams_single entity ⟨.compare op left right, _⟩).symm
  | isNull tested => exact (mapping.leafParams_single entity ⟨.isNull tested, _⟩).symm
  | isNotNull tested => exact (mapping.leafParams_single entity ⟨.isNotNull tested, _⟩).symm
  | member item collection =>
    exact (mapping.leafParams_single entity ⟨.member item collection, _⟩).symm
  | truth tested => exact (mapping.leafParams_single entity ⟨.truth tested, _⟩).symm
  | not inner ih =>
    have flipped := ih (negations + 1)
    rw [odd_succ] at flipped
    exact flipped
  | and left right leftIh rightIh =>
    exact mapping.clauseValues_join entity .and _ (leftIh 0) (rightIh 0)
  | or left right leftIh rightIh =>
    exact mapping.clauseValues_join entity .or _ (leftIh 0) (rightIh 0)

/-- A predicate binds what its leaves bind on their own, in order, and fails as the first of them
that fails. -/
theorem params_leaves (predicate : Predicate) :
    mapping.params entity predicate = mapping.leafParams entity predicate.leaves := by
  rw [params_eq]
  exact mapping.clauseValues_leaves entity predicate 0

end Mapping

end WhereClause
