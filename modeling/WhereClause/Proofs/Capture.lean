import WhereClause.Proofs.Noninterference
import WhereClause.Reader.Predicate

/-! Captured variables do not reach the text of a condition.

A text is read with the values of its variables, and then compiled. Two runs on the same text
are compared, with variables of the same names whose values are lists of the same length or
no lists at all. Of a value, reading asks only whether it is a list, and a null in a variable is
no null literal; so both runs end in the same error or in similar predicates.
-/

set_option autoImplicit false

namespace WhereClause

def Value.items? : Value → Option (List Value)
  | .list _ items => some items
  | _ => none

def Value.length? (value : Value) : Option Nat := value.items?.map List.length

def Operand.items? : Operand → Option (List Value)
  | .constant value _ => value.items?
  | .field _ => none
  | .captured _ value => value.items?

/-- Variables of the same names, with lists of the same length in the same places. -/
def Variables.SameForm (first second : Variables) : Prop :=
  ∀ path, (first.get? path).map Value.length? = (second.get? path).map Value.length?

/-- Two runs that fail with the same error, or succeed with related results. -/
inductive Agree {ε α β : Type} (related : α → β → Prop) : Except ε α → Except ε β → Prop where
  | error (issue : ε) : Agree related (.error issue) (.error issue)
  | ok {result : α} {other : β} : related result other → Agree related (.ok result) (.ok other)

namespace Agree

variable {ε α β γ δ : Type} {related : α → β → Prop} {relatedNext : γ → δ → Prop}

theorem bind {first : Except ε α} {second : Except ε β} {next : α → Except ε γ}
    {nextSecond : β → Except ε δ} (agree : Agree related first second)
    (step : ∀ {result other}, related result other →
      Agree relatedNext (next result) (nextSecond other)) :
    Agree relatedNext (first >>= next) (second >>= nextSecond) := by
  cases agree with
  | error issue => exact .error issue
  | ok results => exact step results

theorem self (first : Except ε α) :
    Agree (fun result other => first = .ok result ∧ result = other) first first := by
  cases first with
  | error issue => exact .error issue
  | ok result => exact .ok ⟨rfl, rfl⟩

theorem same {first : Except ε α} {next : α → Except ε γ} {nextSecond : α → Except ε δ}
    (step : ∀ result, Agree relatedNext (next result) (nextSecond result)) :
    Agree relatedNext (first >>= next) (first >>= nextSecond) := by
  cases first with
  | error issue => exact .error issue
  | ok result => exact step result

end Agree

/-- Operands that differ only in the value of a variable, with the same number of elements if
they are lists. -/
structure Operand.Alike (operand other : Operand) : Prop where
  similar : operand.Similar other
  nulls : operand.isNullLiteral = other.isNullLiteral
  lengths : operand.items?.map List.length = other.items?.map List.length

/-- Predicates that differ only in values, however their collections are bound. -/
def Predicate.Alike (predicate other : Predicate) : Prop :=
  ∀ strategy, predicate.Similar strategy other

theorem Predicate.Alike.member {item other : Operand} {collection others : List Value}
    (alike : item.Alike other) (sizes : collection.length = others.length) :
    (Predicate.member item collection).Alike (.member other others) := by
  intro strategy
  refine .member alike.similar ?_ fun _ => sizes
  rw [Bool.eq_iff_iff, List.isEmpty_iff_length_eq_zero, List.isEmpty_iff_length_eq_zero, sizes]

theorem Term.items_eq (scope : Variables) (total : Nat) (term : Term) :
    term.items scope total = (term.operand scope total >>= fun operand =>
      operand.items?.elim (.error (.unsupported (.notAList term.shown))) .ok) := by
  unfold items
  congr 1
  funext operand
  cases operand with
  | constant value type => cases value <;> rfl
  | field path => rfl
  | captured path value => cases value <;> rfl

section

variable {first second : Variables} (same : first.SameForm second) (total : Nat)
include same

theorem Term.operand_agree (term : Term) :
    Agree Operand.Alike (term.operand first total) (term.operand second total) := by
  cases term with
  | entity => exact .error _
  | field path => exact .ok ⟨.field, rfl, rfl⟩
  | literal value => exact .ok ⟨.constant, rfl, rfl⟩
  | captured path place =>
    have form := same (MemberPath.dotted path)
    simp only [operand]
    cases found : first.get? (MemberPath.dotted path) with
    | none =>
      cases otherFound : second.get? (MemberPath.dotted path) with
      | none => exact .error _
      | some other => simp [found, otherFound] at form
    | some value =>
      cases otherFound : second.get? (MemberPath.dotted path) with
      | none => simp [found, otherFound] at form
      | some other =>
        have lengths : value.length? = other.length? := by simpa [found, otherFound] using form
        -- a null in a variable is no null literal, so the values need no comparison
        exact .ok ⟨.captured, rfl, lengths⟩

/-- The elements of a term are as many in both runs, or it is no list in both. -/
theorem Term.items_agree (term : Term) :
    Agree (fun items others => items.length = others.length)
      (term.items first total) (term.items second total) := by
  rw [items_eq, items_eq]
  refine (term.operand_agree same total).bind fun {operand other} alike => ?_
  have lengths := alike.lengths
  cases found : operand.items? with
  | none =>
    cases otherFound : other.items? with
    | none => exact .error _
    | some others => simp [found, otherFound] at lengths
  | some items =>
    cases otherFound : other.items? with
    | none => simp [found, otherFound] at lengths
    | some others => exact .ok (by simpa [found, otherFound] using lengths)

theorem Access.operand_agree (access : Access) :
    Agree Operand.Alike (access.operand first total) (access.operand second total) :=
  .same fun term => term.operand_agree same total

theorem Access.items_agree (access : Access) :
    Agree (fun items others => items.length = others.length)
      (access.items first total) (access.items second total) :=
  .same fun term => term.items_agree same total

theorem Access.truth_agree (access : Access) :
    Agree Predicate.Alike (access.truth first total) (access.truth second total) := by
  unfold truth
  split
  · next term =>
      exact (term.operand_agree same total).bind fun alike => .ok fun _ => .truth alike.similar
  · next term =>
      exact (term.operand_agree same total).bind fun alike => .ok fun _ => .isNotNull alike.similar
  · next term =>
      exact (term.operand_agree same total).bind fun alike => .ok fun _ => .isNull alike.similar
  · next term item =>
      exact (item.operand_agree same total).bind fun alike =>
        (term.items_agree same total).bind fun sizes => .ok (.member alike sizes)
  · exact .error _

/-- Both runs look up the same variables in the same order, so they meet the same fault first. -/
theorem Expression.predicate_agree (expression : Expression) :
    Agree Predicate.Alike (expression.predicate first total)
      (expression.predicate second total) := by
  induction expression with
  | compare op left right =>
    exact (left.operand_agree same total).bind fun leftAlike =>
      (right.operand_agree same total).bind fun rightAlike =>
        .ok fun _ =>
          .compare leftAlike.similar rightAlike.similar leftAlike.nulls rightAlike.nulls
  | not inner ih => exact ih.bind fun alike => .ok fun strategy => .not (alike strategy)
  | and left right leftIh rightIh =>
    exact leftIh.bind fun leftAlike => rightIh.bind fun rightAlike =>
      .ok fun strategy => .and (leftAlike strategy) (rightAlike strategy)
  | or left right leftIh rightIh =>
    exact leftIh.bind fun leftAlike => rightIh.bind fun rightAlike =>
      .ok fun strategy => .or (leftAlike strategy) (rightAlike strategy)
  | member item collection =>
    exact (item.operand_agree same total).bind fun alike =>
      (collection.items_agree same total).bind fun sizes => .ok (.member alike sizes)
  | truth access => exact access.truth_agree same total

theorem readPredicate_agree (text : String) :
    Agree Predicate.Alike (readPredicate text first) (readPredicate text second) := by
  -- the variables come in only after the whole text has been read
  unfold readPredicate
  dsimp only
  split
  · exact .error _
  · next expression rest _ =>
    split
    · exact expression.predicate_agree same _
    · exact .error _

end

structure Condition.SameButValues (condition other : Condition) : Prop where
  sql : condition.sql = other.sql
  native : ∀ style, condition.native style = other.native style
  shape : condition.shape = other.shape
  size : condition.params.length = other.params.length

theorem Clause.condition_sameButValues {clause other : Clause}
    (blank : clause.blank = other.blank) : clause.condition.SameButValues other.condition := by
  obtain ⟨chunks, shape, size⟩ := condition_of_blank blank
  refine ⟨?_, fun style => ?_, shape, size⟩
  · rw [Condition.sql, Condition.text, chunks]
    rfl
  · rw [Condition.native, chunks]
    rfl

/-- Reading and compiling a text with other values of its variables: the same error, or
predicates that no mapping compiles to statements which differ in more than bound values. -/
theorem readPredicate_sameForm {first second : Variables} (same : first.SameForm second)
    (text : String) :
    (∃ issue, readPredicate text first = .error issue ∧
      readPredicate text second = .error issue) ∨
    ∃ predicate other, readPredicate text first = .ok predicate ∧
      readPredicate text second = .ok other ∧
      ∀ (mapping : Mapping) (entity : String) (condition otherCondition : Condition),
        mapping.condition entity predicate = .ok condition →
        mapping.condition entity other = .ok otherCondition →
        condition.SameButValues otherCondition := by
  have agree := readPredicate_agree same text
  generalize readPredicate text first = run, readPredicate text second = otherRun at agree
  cases agree with
  | error issue => exact .inl ⟨issue, rfl, rfl⟩
  | @ok predicate other alike =>
    refine .inr ⟨predicate, other, rfl, rfl, ?_⟩
    intro mapping entity condition otherCondition compiled otherCompiled
    obtain ⟨clause, clauseCompiled, rfl⟩ := Mapping.condition_eq_ok.mp compiled
    obtain ⟨otherClause, otherClauseCompiled, rfl⟩ := Mapping.condition_eq_ok.mp otherCompiled
    exact Clause.condition_sameButValues
      (Mapping.clause_similar (alike mapping.membership) clauseCompiled otherClauseCompiled)

/-- A null and a text that looks like a statement in the place of numbers. -/
theorem readPredicate_sameForm_injected :
    let text := "x.a == $v && x.b in $w"
    let first : Variables := { entries :=
      [("v", .int 1), ("w", .list .int [.int 2, .int 3])] }
    let second : Variables := { entries :=
      [("w", .list .string [.string "') OR 1 = 1", .null .bool]), ("v", .null .string)] }
    let mapping := Mapping.identity Dialect.sqlServer.style
    ∃ predicate other condition otherCondition,
      readPredicate text first = .ok predicate ∧ readPredicate text second = .ok other ∧
      mapping.condition "E" predicate = .ok condition ∧
      mapping.condition "E" other = .ok otherCondition ∧
      condition.text = "[a] = @0 AND [b] IN (@1, @2)" ∧
      condition.SameButValues otherCondition := by
  intro text first second mapping
  let shared (value : Value) (items : List Value) : Predicate :=
    .and (.compare .eq (.field ["a"]) (.captured ["v"] value)) (.member (.field ["b"]) items)
  have same : first.SameForm second := by
    intro path
    by_cases isV : path = "v"
    · subst isV
      rfl
    by_cases isW : path = "w"
    · subst isW
      rfl
    simp [first, second, Variables.get?, List.lookup_cons, beq_false_of_ne isV, beq_false_of_ne isW]
  have read : readPredicate text first = .ok (shared (.int 1) [.int 2, .int 3]) := by
    dsimp only [text, first, shared]
    rfl
  have otherRead : readPredicate text second =
      .ok (shared (.null .string) [.string "') OR 1 = 1", .null .bool]) := by
    dsimp only [text, second, shared]
    rfl
  obtain ⟨issue, failed, -⟩ | ⟨predicate, other, isRead, otherIsRead, alike⟩ :=
    readPredicate_sameForm same text
  · cases read.symm.trans failed
  · cases read.symm.trans isRead
    cases otherRead.symm.trans otherIsRead
    exact ⟨_, _, _, _, read, otherRead, rfl, rfl, by decide, alike mapping "E" _ _ rfl rfl⟩

end WhereClause
