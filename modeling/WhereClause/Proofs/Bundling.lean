import WhereClause.Proofs.Binding
import WhereClause.Proofs.Capture
import WhereClause.Proofs.Failure

/-! Collections that are bound as a whole, or element by element.

A predicate is compiled in both ways. Either both fail with the same error, or they give conditions
that differ only where the predicate tests membership in a collection that is not empty: there one
has a single placeholder for a list and the other a placeholder for each element. All numbers behind
such a test are shifted, and a list that is bound for any other reason stays what it is.
-/

set_option autoImplicit false

namespace WhereClause

/-- What a parameter stands for where collections are bound as a whole: a value, or the elements of
a membership test on an item. -/
inductive Binding where
  | single
  | collection (item : Operand) (elements : List Value)

def Operand.bindings : Operand → List Binding
  | .constant _ _ => [.single]
  | .field _ => []
  | .captured _ _ => [.single]

def Predicate.bindings : Predicate → List Binding
  | .compare _ left right =>
    match left.besideNull? right with
    | some other => other.bindings
    | none => left.bindings ++ right.bindings
  | .not inner => inner.bindings
  | .and left right => left.bindings ++ right.bindings
  | .or left right => left.bindings ++ right.bindings
  | .isNull tested => tested.bindings
  | .isNotNull tested => tested.bindings
  | .member _ [] => []
  | .member item elements => item.bindings ++ [.collection item elements]
  | .truth tested => tested.bindings ++ [.single]

namespace Binding

def values : Binding → Value → List Value
  | .collection _ _, .list _ items => items
  | _, value => [value]

/-- Parameters with each list that is bound for a collection replaced by its elements. -/
def unbundled (bindings : List Binding) (params : List Value) : List Value :=
  (List.zipWith values bindings params).flatten

end Binding

def Chunk.listed : (next count : Nat) → List Chunk
  | _, 0 => []
  | next, 1 => [.param next]
  | next, count + 2 => .param next :: .text ", " :: listed (next + 1) (count + 1)

/-- Chunks of a condition that binds collections as a whole, beside those of one that binds each
element. The texts are the same but for those around a collection, and the placeholders of both are
counted on from their own numbers. -/
inductive Chunk.Alongside (form : String × String) : List Binding → (next nextEach : Nat) →
    (whole each : List Chunk) → Prop where
  | nil {next nextEach : Nat} : Alongside form [] next nextEach [] []
  | text {bindings : List Binding} {next nextEach : Nat} {whole each : List Chunk}
      (content : String) :
      Alongside form bindings next nextEach whole each →
      Alongside form bindings next nextEach (.text content :: whole) (.text content :: each)
  | single {bindings : List Binding} {next nextEach : Nat} {whole each : List Chunk} :
      Alongside form bindings (next + 1) (nextEach + 1) whole each →
      Alongside form (.single :: bindings) next nextEach (.param next :: whole)
        (.param nextEach :: each)
  | collection {item : Operand} {elements : List Value} {bindings : List Binding}
      {next nextEach : Nat} {whole each : List Chunk} :
      Alongside form bindings (next + 1) (nextEach + elements.length) whole each →
      Alongside form (.collection item elements :: bindings) next nextEach
        (.text form.1 :: .param next :: .text form.2 :: whole)
        (.text " IN (" :: listed nextEach elements.length ++ .text ")" :: each)

namespace Mapping

def expanding (mapping : Mapping) : Mapping := { mapping with membership := .expand }

/-- A collection is bound as the list of its elements as they are stored; there is a first one, and
the list has its type. -/
def Binds (mapping : Mapping) (entity : String) : Binding → Value → Prop
  | .single, _ => True
  | .collection item elements, value =>
    ∃ first others, elements.mapM (mapping.convert entity item.entityPath?) = .ok (first :: others) ∧
      value = .list first.type (first :: others)

inductive Unbundles (mapping : Mapping) (entity : String) (form : String × String) :
    List Binding → (whole each : List Piece) → Prop where
  | nil : Unbundles mapping entity form [] [] []
  | text {bindings : List Binding} {whole each : List Piece} (content : String) :
      Unbundles mapping entity form bindings whole each →
      Unbundles mapping entity form bindings (.text content :: whole) (.text content :: each)
  | single {bindings : List Binding} {whole each : List Piece} (value : Value) :
      Unbundles mapping entity form bindings whole each →
      Unbundles mapping entity form (.single :: bindings) (.bound value :: whole)
        (.bound value :: each)
  | collection {item : Operand} {elements : List Value} {first : Value} {others : List Value}
      {bindings : List Binding} {whole each : List Piece} :
      elements.mapM (mapping.convert entity item.entityPath?) = .ok (first :: others) →
      Unbundles mapping entity form bindings whole each →
      Unbundles mapping entity form (.collection item elements :: bindings)
        (collectionPieces (some form) (first :: others) ++ whole)
        (collectionPieces none (first :: others) ++ each)

variable {mapping : Mapping} {entity : String} {form : String × String}

namespace Unbundles

variable {bindings otherBindings : List Binding} {whole each otherWhole otherEach : List Piece}

theorem append (first : mapping.Unbundles entity form bindings whole each)
    (rest : mapping.Unbundles entity form otherBindings otherWhole otherEach) :
    mapping.Unbundles entity form (bindings ++ otherBindings) (whole ++ otherWhole)
      (each ++ otherEach) := by
  induction first with
  | nil => exact rest
  | text content _ ih => exact .text content ih
  | single value _ ih => exact .single value ih
  | collection converted _ ih => simpa only [List.append_assoc] using .collection converted ih

theorem closed (unbundles : mapping.Unbundles entity form bindings whole each) (content : String) :
    mapping.Unbundles entity form bindings (whole ++ [.text content]) (each ++ [.text content]) := by
  simpa using unbundles.append (.text content .nil)

theorem chunksFrom_listPieces (next : Nat) (values : List Value) :
    Clause.chunksFrom next (listPieces values) = Chunk.listed next values.length := by
  induction values generalizing next with
  | nil => rfl
  | cons value values ih =>
    cases values with
    | nil => rfl
    | cons second values =>
      have rest := ih (next + 1)
      simp only [List.length_cons] at rest
      simp [listPieces, Clause.chunksFrom, Chunk.listed, rest]

theorem chunksFrom_elements (next : Nat) (values : List Value) (rest : List Piece) :
    Clause.chunksFrom next (collectionPieces none values ++ rest) =
      .text " IN (" :: Chunk.listed next values.length ++
        .text ")" :: Clause.chunksFrom (next + values.length) rest := by
  simp [collectionPieces, Clause.chunksFrom, Clause.chunksFrom_append, chunksFrom_listPieces,
    Clause.boundValues_listPieces]

/-- Numbering keeps both sides alongside, whatever numbers they start from. -/
theorem alongside (unbundles : mapping.Unbundles entity form bindings whole each)
    (next nextEach : Nat) :
    Chunk.Alongside form bindings next nextEach (Clause.chunksFrom next whole)
      (Clause.chunksFrom nextEach each) := by
  induction unbundles generalizing next nextEach with
  | nil => exact .nil
  | text content _ ih => exact .text content (ih next nextEach)
  | single value _ ih => exact .single (ih (next + 1) (nextEach + 1))
  | @collection item elements first others _ _ _ converted _ ih =>
    have size : elements.length = (first :: others).length := (mapM_eq_ok.mp converted).length_eq
    rw [chunksFrom_elements, ← size]
    exact .collection (ih (next + 1) (nextEach + elements.length))

theorem binds (unbundles : mapping.Unbundles entity form bindings whole each) :
    List.Forall₂ (mapping.Binds entity) bindings (Clause.boundValues whole) := by
  induction unbundles with
  | nil => exact .nil
  | text content _ ih => exact ih
  | single value _ ih => exact .cons trivial ih
  | collection converted _ ih => exact .cons ⟨_, _, converted, rfl⟩ ih

theorem unbundled_params (unbundles : mapping.Unbundles entity form bindings whole each) :
    Binding.unbundled bindings (Clause.boundValues whole) = Clause.boundValues each := by
  induction unbundles with
  | nil => rfl
  | text content _ ih => exact ih
  | single value _ ih => exact congrArg (value :: ·) ih
  | @collection item elements first others bindings whole each _ _ ih =>
    have elementwise : Clause.boundValues (collectionPieces none (first :: others) ++ each) =
        first :: others ++ Clause.boundValues each := by
      simp [collectionPieces, Clause.boundValues_listPieces]
    rw [elementwise, ← ih]
    rfl

end Unbundles

end Mapping

structure Clause.Unbundles (mapping : Mapping) (entity : String) (form : String × String)
    (bindings : List Binding) (whole each : Clause) : Prop where
  shape : whole.shape = each.shape
  pieces : mapping.Unbundles entity form bindings whole.pieces each.pieces

namespace Clause.Unbundles

variable {mapping : Mapping} {entity : String} {form : String × String}
  {bindings otherBindings : List Binding} {whole each otherWhole otherEach : Clause}

theorem negated (unbundles : Clause.Unbundles mapping entity form bindings whole each) :
    Clause.Unbundles mapping entity form bindings whole.negated each.negated :=
  ⟨rfl, .text "NOT (" (unbundles.pieces.closed ")")⟩

/-- Parentheses depend on the shape, so both sides get them or neither does. -/
theorem grouped (unbundles : Clause.Unbundles mapping entity form bindings whole each)
    (parent : Shape) :
    mapping.Unbundles entity form bindings (whole.grouped parent) (each.grouped parent) := by
  unfold Clause.grouped
  rw [unbundles.shape]
  split
  · exact unbundles.pieces
  · exact .text "(" (unbundles.pieces.closed ")")

theorem join (word : Word) (left : Clause.Unbundles mapping entity form bindings whole each)
    (right : Clause.Unbundles mapping entity form otherBindings otherWhole otherEach) :
    Clause.Unbundles mapping entity form (bindings ++ otherBindings)
      (Clause.join word whole otherWhole) (Clause.join word each otherEach) :=
  ⟨rfl, (left.grouped word.shape).append (.text _ (right.grouped word.shape))⟩

end Clause.Unbundles

namespace Mapping

variable {mapping : Mapping} {entity : String} (form : String × String)

theorem operand_unbundles (peer : Option MemberPath) (operand : Operand) :
    Agree (fun piece other => mapping.Unbundles entity form operand.bindings [piece] [other])
      (mapping.operand entity peer operand) (mapping.expanding.operand entity peer operand) := by
  cases operand with
  | field path => exact .same fun text => .ok (.text text .nil)
  | captured path value => exact .same fun stored => .ok (.single stored .nil)
  | constant value type => exact .same fun stored => .ok (.single stored .nil)

theorem nullTest_unbundles (present : Bool) (tested : Operand) :
    Agree (Clause.Unbundles mapping entity form tested.bindings)
      (mapping.nullTest entity present tested) (mapping.expanding.nullTest entity present tested) :=
  (operand_unbundles form none tested).bind fun pieces => .ok ⟨rfl, pieces.closed _⟩

theorem nullComparison_unbundles (op : Comparison) (other : Operand) :
    Agree (Clause.Unbundles mapping entity form other.bindings)
      (mapping.nullComparison entity op other) (mapping.expanding.nullComparison entity op other) := by
  cases op with
  | eq => exact nullTest_unbundles form false other
  | ne => exact nullTest_unbundles form true other
  | lt => exact .error _
  | le => exact .error _
  | gt => exact .error _
  | ge => exact .error _

theorem compare_unbundles (op : Comparison) (left right : Operand) :
    Agree (Clause.Unbundles mapping entity form (Predicate.compare op left right).bindings)
      (mapping.compare entity op left right) (mapping.expanding.compare entity op left right) := by
  unfold compare Predicate.bindings Operand.besideNull?
  cases left.isNullLiteral <;> cases right.isNullLiteral
  · refine (operand_unbundles form _ left).bind fun first => ?_
    refine (operand_unbundles form _ right).bind fun second => ?_
    exact .ok ⟨rfl, first.append (.text _ second)⟩
  · exact nullComparison_unbundles form op left
  · exact nullComparison_unbundles form op right
  · exact .error _

theorem truth_unbundles (expected : Bool) (tested : Operand) :
    Agree (Clause.Unbundles mapping entity form (Predicate.truth tested).bindings)
      (mapping.truth entity expected tested) (mapping.expanding.truth entity expected tested) := by
  have passed : Agree (Clause.Unbundles mapping entity form (Predicate.truth tested).bindings)
      (do
        let piece ← mapping.operand entity none tested
        let wanted ← mapping.convert entity tested.entityPath? (.bool expected)
        return Clause.atom [piece, .text " = ", .bound wanted])
      (do
        let piece ← mapping.expanding.operand entity none tested
        let wanted ← mapping.convert entity tested.entityPath? (.bool expected)
        return Clause.atom [piece, .text " = ", .bound wanted]) := by
    refine (operand_unbundles form none tested).bind fun pieces => .same fun wanted => ?_
    exact .ok ⟨rfl, pieces.append (.text " = " (.single wanted .nil))⟩
  unfold truth
  split
  · split
    · exact .error _
    · exact passed
  · exact passed

/-- The elements are converted before they are bound, so both ways bind the same ones. -/
theorem elements_unbundles (item : Operand) (element : Value) (elements : List Value) :
    Agree (Clause.Unbundles mapping entity form (Predicate.member item (element :: elements)).bindings)
      (do
        let piece ← mapping.operand entity none item
        let values ← (element :: elements).mapM (mapping.convert entity item.entityPath?)
        return Clause.atom (piece :: collectionPieces (some form) values))
      (do
        let piece ← mapping.expanding.operand entity none item
        let values ← (element :: elements).mapM (mapping.convert entity item.entityPath?)
        return Clause.atom (piece :: collectionPieces none values)) := by
  refine (operand_unbundles form none item).bind fun pieces => (Agree.self _).bind ?_
  rintro values _ ⟨converted, rfl⟩
  obtain ⟨first, others, _, _, rfl⟩ := List.forall₂_cons_left_iff.mp (mapM_eq_ok.mp converted)
  refine .ok ⟨rfl, ?_⟩
  simpa [Predicate.bindings, Clause.atom] using pieces.append (.collection converted .nil)

theorem member_unbundles {form : String × String}
    (supported : mapping.membership.form mapping.style = .ok (some form)) (item : Operand)
    (collection : List Value) :
    Agree (Clause.Unbundles mapping entity form (Predicate.member item collection).bindings)
      (mapping.member entity item collection) (mapping.expanding.member entity item collection) := by
  -- the form is asked for even where the collection is empty and it is not used
  have forms : Agree (fun whole each => whole = some form ∧ each = none)
      (mapping.membership.form mapping.style)
      (mapping.expanding.membership.form mapping.expanding.style) := by
    rw [supported]
    exact .ok ⟨rfl, rfl⟩
  have empty : Clause.Unbundles mapping entity form [] (.atom [.text alwaysFalse])
      (.atom [.text alwaysFalse]) := ⟨rfl, .text alwaysFalse .nil⟩
  cases item with
  | constant value type => cases collection <;> exact .error _
  | captured path value =>
    cases collection with
    | nil => exact forms.bind fun _ => .ok empty
    | cons element elements =>
      refine forms.bind ?_
      rintro _ _ ⟨rfl, rfl⟩
      exact elements_unbundles form (.captured path value) element elements
  | field path =>
    cases collection with
    | nil => exact forms.bind fun _ => .same fun _ => .ok empty
    | cons element elements =>
      refine forms.bind ?_
      rintro _ _ ⟨rfl, rfl⟩
      exact elements_unbundles form (.field path) element elements

theorem clause_unbundles {form : String × String}
    (supported : mapping.membership.form mapping.style = .ok (some form)) (negated : Bool)
    (predicate : Predicate) :
    Agree (Clause.Unbundles mapping entity form predicate.bindings)
      (mapping.clause entity negated predicate)
      (mapping.expanding.clause entity negated predicate) := by
  -- on the predicate, for both signs at once; a sign changes neither what is bound nor where
  induction predicate generalizing negated with
  | compare op left right => exact compare_unbundles form (op.signed negated) left right
  | isNull tested => exact nullTest_unbundles form negated tested
  | isNotNull tested => exact nullTest_unbundles form (!negated) tested
  | truth tested => exact truth_unbundles form (!negated) tested
  | member item collection =>
    refine (member_unbundles supported item collection).bind fun found => .ok ?_
    cases negated with
    | false => exact found
    | true => exact found.negated
  | not inner ih => exact ih (!negated)
  | and left right leftIh rightIh =>
    refine (leftIh false).bind fun first => (rightIh false).bind fun second => .ok ?_
    cases negated with
    | false => exact first.join .and second
    | true => exact (first.join .and second).negated
  | or left right leftIh rightIh =>
    refine (leftIh false).bind fun first => (rightIh false).bind fun second => .ok ?_
    cases negated with
    | false => exact first.join .or second
    | true => exact (first.join .or second).negated

theorem exists_form (bundles : mapping.membership ≠ .expand)
    (supported : mapping.style.Supports mapping.membership) :
    ∃ form, mapping.membership.form mapping.style = .ok (some form) := by
  obtain ⟨found, isFound⟩ : ∃ found, mapping.membership.form mapping.style = .ok found := by
    by_contra missing
    exact fails_form.mp (fails_iff_not_ok.mpr missing) supported
  cases found with
  | some form => exact ⟨form, isFound⟩
  | none =>
    have single : mapping.form.isSome = false := by simp [Mapping.form, isFound]
    exact absurd (expand_of_form_none (form_eq_ok isFound) single) bundles

/-- With a strategy that binds collections as a whole and with the one that expands them, a
predicate fails with the same error or gives conditions of the same shape, which are the same outside
of the collections. Replacing the list of each collection by its elements gives the parameters of the
expanded condition; such a list has elements and the type of the first. -/
theorem condition_unbundles (bundles : mapping.membership ≠ .expand)
    (supported : mapping.style.Supports mapping.membership) (entity : String)
    (predicate : Predicate) :
    (∃ issue, mapping.condition entity predicate = .error issue ∧
      mapping.expanding.condition entity predicate = .error issue) ∨
    ∃ form whole each, mapping.membership.form mapping.style = .ok (some form) ∧
      mapping.condition entity predicate = .ok whole ∧
      mapping.expanding.condition entity predicate = .ok each ∧
      whole.shape = each.shape ∧
      Chunk.Alongside form predicate.bindings 0 0 whole.chunks each.chunks ∧
      List.Forall₂ (mapping.Binds entity) predicate.bindings whole.params ∧
      Binding.unbundled predicate.bindings whole.params = each.params := by
  obtain ⟨form, isForm⟩ := exists_form bundles supported
  have agree : Agree (Clause.Unbundles mapping entity form predicate.bindings) _ _ :=
    clause_unbundles isForm false predicate
  rw [condition_eq, condition_eq]
  generalize mapping.clause entity false predicate = run,
    mapping.expanding.clause entity false predicate = otherRun at agree
  cases agree with
  | error issue => exact .inl ⟨issue, rfl, rfl⟩
  | @ok whole each unbundles =>
    obtain ⟨shape, pieces⟩ := unbundles
    exact .inr ⟨form, whole.condition, each.condition, isForm, rfl, rfl, shape,
      pieces.alongside 0 0, pieces.binds, pieces.unbundled_params⟩

/-- Converted elements in a test that is negated, a captured item, a list that a variable holds,
and an empty collection. -/
theorem condition_unbundles_shifted :
    let words (_ member : String) : Option Converter :=
      if member = "flag" then some .boolAsString else none
    let mapping : Mapping := { Mapping.identity Dialect.sqlServer.style with
      converters := some words, membership := .tableValued }
    let predicate : Predicate := .and
      (.not (.member (.field ["flag"]) [.bool true, .bool false]))
      (.or (.member (.captured ["v"] (.int 7)) [.int 8])
        (.and (.compare .eq (.field ["a"]) (.captured ["w"] (.list .int [.int 1, .int 2])))
          (.member (.field ["b"]) [])))
    ∃ whole each, mapping.condition "E" predicate = .ok whole ∧
      mapping.expanding.condition "E" predicate = .ok each ∧
      whole.text = "NOT ([flag] IN (SELECT V FROM @0)) AND " ++
        "(@1 IN (SELECT V FROM @2) OR ([a] = @3 AND 1 = 0))" ∧
      each.text = "NOT ([flag] IN (@0, @1)) AND (@2 IN (@3) OR ([a] = @4 AND 1 = 0))" ∧
      whole.params = [.list .string [.string "true", .string "false"], .int 7,
        .list .int [.int 8], .list .int [.int 1, .int 2]] ∧
      each.params = [.string "true", .string "false", .int 7, .int 8,
        .list .int [.int 1, .int 2]] := by
  intro words mapping predicate
  have bundles : mapping.membership ≠ .expand := by decide
  have supported : mapping.style.Supports mapping.membership := rfl
  obtain ⟨issue, failed, -⟩ | ⟨form, whole, each, -, compiled, eachCompiled, -, -, -, params⟩ :=
    condition_unbundles bundles supported "E" predicate
  · cases failed
  · cases compiled
    cases eachCompiled
    exact ⟨_, _, rfl, rfl, by decide, by decide, rfl, params.symm⟩

end Mapping

end WhereClause
