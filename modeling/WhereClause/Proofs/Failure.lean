import WhereClause.Proofs.Draft
import WhereClause.Proofs.Leaves

/-! When a predicate cannot be compiled, and with which error.

A predicate fails as the first of its leaves that fails on its own, so neither the tests around a
leaf nor the values that are bound before it matter. `Leaf.Faulty` lists what can be wrong with a
leaf. Whether it is negated matters too: a converter may take one boolean and reject the other.
-/

set_option autoImplicit false

namespace WhereClause

section

variable {ε α β : Type}

def Fails (outcome : Except ε α) : Prop := ∃ issue, outcome = .error issue

@[simp] theorem fails_error (issue : ε) : Fails (.error issue : Except ε α) := ⟨issue, rfl⟩

@[simp] theorem not_fails_ok (value : α) : ¬ Fails (.ok value : Except ε α) := by
  rintro ⟨issue, failed⟩
  cases failed

theorem fails_iff_not_ok {outcome : Except ε α} :
    Fails outcome ↔ ¬ ∃ value, outcome = .ok value := by
  cases outcome <;> simp

/-- A computation fails in its first step or behind it. -/
theorem fails_bind {first : Except ε α} {next : α → Except ε β} {behind : Prop}
    (later : ∀ value, Fails (next value) ↔ behind) :
    Fails (first >>= next) ↔ Fails first ∨ behind := by
  cases first with
  | error issue => simp [bind, Except.bind]
  | ok value => simpa [bind, Except.bind] using later value

@[simp] theorem fails_map {first : Except ε α} {transform : α → β} :
    Fails (transform <$> first) ↔ Fails first := by
  cases first <;> simp [Functor.map, Except.map]

theorem fails_mapM {step : α → Except ε β} {items : List α} :
    Fails (items.mapM step) ↔ ∃ item ∈ items, Fails (step item) := by
  simp [fails_iff_not_ok, exists_mapM_eq_ok]

end

/-- Comparisons that ask for an order, which the null literal has not. -/
def Comparison.Orders (op : Comparison) : Prop := op ≠ .eq ∧ op ≠ .ne

def SqlStyle.Supports (style : SqlStyle) : Strategy → Prop
  | .expand => True
  | .nativeArray => style.arrayMembership.isSome
  | .tableValued => style.tableMembership.isSome

namespace Mapping

def Readable (mapping : Mapping) (entity : String) (path : MemberPath) : Prop :=
  ∃ member column, path = [member] ∧ mapping.resolve entity member = .ok column

def Rejects (mapping : Mapping) (entity : String) (path : MemberPath) (value : Value) : Prop :=
  ∃ member lookup converter reason, path = [member] ∧ mapping.converters = some lookup ∧
    lookup entity member = some converter ∧ converter.convert value = .error reason

end Mapping

namespace Operand

def Unreadable (mapping : Mapping) (entity : String) (operand : Operand) : Prop :=
  ∃ path, operand.entityPath? = some path ∧ ¬ mapping.Readable entity path

/-- The values that are converted for an operand if it is a member, with the member's path. -/
def converts (operand : Operand) (values : List Value) : List (MemberPath × Value) :=
  operand.entityPath?.toList.flatMap fun path => values.map fun value => (path, value)

end Operand

def Test.operands : Test → List Operand
  | .compare _ left right => [left, right]
  | .isNull tested => [tested]
  | .isNotNull tested => [tested]
  | .member item _ => [item]
  | .truth tested => [tested]

def Leaf.conversions (leaf : Leaf) : List (MemberPath × Value) :=
  match leaf.test with
  | .compare _ left right =>
    -- beside the null literal nothing is converted
    if left.isNullLiteral || right.isNullLiteral then []
    else right.converts left.boundValue?.toList ++ left.converts right.boundValue?.toList
  | .isNull _ => []
  | .isNotNull _ => []
  | .member item collection => item.converts collection
  | .truth tested => tested.converts [.bool (!leaf.denied)]

/-- Tests that have no condition, whatever their members and converters are. -/
def Test.Inexpressible (mapping : Mapping) : Test → Prop
  | .compare op left right =>
    left.isNullLiteral = true ∧ right.isNullLiteral = true ∨
      (left.isNullLiteral = true ∨ right.isNullLiteral = true) ∧ op.Orders
  | .isNull _ => False
  | .isNotNull _ => False
  -- an unsupported strategy matters also where the collection is empty and none is bound
  | .member item _ =>
    (∃ value type, item = .constant value type) ∨ ¬ mapping.style.Supports mapping.membership
  | .truth tested => ∃ value, tested.boundValue? = some value ∧ value.type ≠ .bool

/-- A leaf cannot be expressed, reads a path that is not readable, or binds a value that its
converter rejects. -/
def Leaf.Faulty (mapping : Mapping) (entity : String) (leaf : Leaf) : Prop :=
  leaf.test.Inexpressible mapping ∨
  (∃ operand ∈ leaf.test.operands, operand.Unreadable mapping entity) ∨
  ∃ pair ∈ leaf.conversions, mapping.Rejects entity pair.1 pair.2

namespace Mapping

variable {mapping : Mapping} {entity : String}

theorem fails_column {path : MemberPath} :
    Fails (mapping.column entity path) ↔ ¬ mapping.Readable entity path := by
  rw [fails_iff_not_ok, not_iff_not]
  constructor
  · rintro ⟨text, found⟩
    obtain ⟨member, column, single, resolved, _⟩ := column_eq_ok found
    exact ⟨member, column, single, resolved⟩
  · rintro ⟨member, column, rfl, resolved⟩
    exact ⟨_, bind_eq_ok.mpr ⟨column, resolved, rfl⟩⟩

theorem single?_eq_some {path : MemberPath} {member : String} :
    MemberPath.single? path = some member ↔ path = [member] := by
  match path with
  | [] => simp [MemberPath.single?]
  | [_] => simp [MemberPath.single?]
  | _ :: _ :: _ => simp [MemberPath.single?]

theorem peerConverter_eq_some {peer : Option MemberPath} {member : String} {converter : Converter} :
    mapping.peerConverter entity peer = some (member, converter) ↔
      peer = some [member] ∧ ∃ lookup, mapping.converters = some lookup ∧
        lookup entity member = some converter := by
  simp only [peerConverter, Option.bind_eq_bind, Option.bind_eq_some_iff, single?_eq_some,
    Option.pure_def, Option.some.injEq, Prod.mk.injEq]
  constructor
  · rintro ⟨lookup, listed, _, peered, _, rfl, _, found, rfl, rfl⟩
    exact ⟨peered, lookup, listed, found⟩
  · rintro ⟨peered, lookup, listed, found⟩
    exact ⟨lookup, listed, _, peered, member, rfl, converter, found, rfl, rfl⟩

theorem fails_convert {peer : Option MemberPath} {value : Value} :
    Fails (mapping.convert entity peer value) ↔
      ∃ path, peer = some path ∧ mapping.Rejects entity path value := by
  unfold convert
  split
  next unconverted =>
    simp only [not_fails_ok, false_iff, not_exists, not_and]
    rintro path rfl ⟨member, lookup, converter, reason, rfl, listed, found, _⟩
    rw [peerConverter_eq_some.mpr ⟨rfl, lookup, listed, found⟩] at unconverted
    cases unconverted
  next member converter converted =>
    obtain ⟨rfl, lookup, listed, found⟩ := peerConverter_eq_some.mp converted
    split
    next stored taken =>
      simp only [not_fails_ok, false_iff, not_exists, not_and]
      rintro path same ⟨_, _, _, reason, rfl, otherListed, otherFound, refused⟩
      cases same
      cases listed.symm.trans otherListed
      cases found.symm.trans otherFound
      rw [taken] at refused
      cases refused
    next reason refused =>
      simp only [fails_error, true_iff]
      exact ⟨_, rfl, member, lookup, converter, reason, rfl, listed, found, refused⟩

theorem rejects_converts {operand : Operand} {values : List Value} :
    (∃ pair ∈ operand.converts values, mapping.Rejects entity pair.1 pair.2) ↔
      ∃ value ∈ values, Fails (mapping.convert entity operand.entityPath? value) := by
  simp only [fails_convert]
  cases found : operand.entityPath? <;> simp [Operand.converts, found]

/-- An operand fails if it is a member without a column, or a value that is rejected. -/
theorem fails_operand {operand : Operand} {peer : Option MemberPath} :
    Fails (mapping.operand entity peer operand) ↔ operand.Unreadable mapping entity ∨
      ∃ value ∈ operand.boundValue?.toList, Fails (mapping.convert entity peer value) := by
  cases operand with
  | field path =>
    simp [operand, fails_column, Operand.Unreadable, Operand.entityPath?, Operand.boundValue?]
  | captured path value =>
    simp [operand, Operand.Unreadable, Operand.entityPath?, Operand.boundValue?]
  | constant value type =>
    simp [operand, Operand.Unreadable, Operand.entityPath?, Operand.boundValue?]

theorem fails_alone {operand : Operand} :
    Fails (mapping.operand entity none operand) ↔ operand.Unreadable mapping entity := by
  simp [fails_operand, fails_convert]

theorem fails_nullTest {present : Bool} {tested : Operand} :
    Fails (mapping.nullTest entity present tested) ↔ tested.Unreadable mapping entity := by
  simp [nullTest, fails_alone]

theorem fails_nullComparison {op : Comparison} {other : Operand} :
    Fails (mapping.nullComparison entity op other) ↔
      op.Orders ∨ other.Unreadable mapping entity := by
  cases op <;> simp [nullComparison, fails_nullTest, Comparison.Orders]

theorem orders_signed (negated : Bool) (op : Comparison) :
    (op.signed negated).Orders ↔ op.Orders := by
  cases negated <;> cases op <;> simp [Comparison.signed, Comparison.negate, Comparison.Orders]

theorem readable_nullLiteral {operand : Operand} (null : operand.isNullLiteral = true) :
    ¬ operand.Unreadable mapping entity := by
  rintro ⟨path, isPath, _⟩
  cases operand with
  | constant value type => cases isPath
  | field path => cases null
  | captured path value => cases null

theorem fails_sides {op : Comparison} {left right : Operand} :
    Fails (do
        let leftPiece ← mapping.operand entity right.entityPath? left
        let rightPiece ← mapping.operand entity left.entityPath? right
        return Clause.atom [leftPiece, .text (" " ++ op.sql ++ " "), rightPiece]) ↔
      (left.Unreadable mapping entity ∨ right.Unreadable mapping entity) ∨
      ∃ pair ∈ right.converts left.boundValue?.toList ++ left.converts right.boundValue?.toList,
        mapping.Rejects entity pair.1 pair.2 := by
  have second (leftPiece : Piece) : Fails (do
      let rightPiece ← mapping.operand entity left.entityPath? right
      return Clause.atom [leftPiece, .text (" " ++ op.sql ++ " "), rightPiece]) ↔
        Fails (mapping.operand entity left.entityPath? right) := by
    simp
  rw [fails_bind second, fails_operand, fails_operand, ← rejects_converts, ← rejects_converts]
  simp only [List.mem_append, or_and_right, exists_or]
  exact or_or_or_comm

theorem fails_compare {denied : Bool} {op : Comparison} {left right : Operand} :
    Fails (mapping.compare entity (op.signed denied) left right) ↔
      Leaf.Faulty mapping entity ⟨.compare op left right, denied⟩ := by
  unfold compare Leaf.Faulty Leaf.conversions Test.Inexpressible Test.operands
  cases leftNull : left.isNullLiteral <;> cases rightNull : right.isNullLiteral
  · simpa [leftNull, rightNull] using fails_sides
  · simp [leftNull, rightNull, fails_nullComparison, orders_signed, readable_nullLiteral rightNull]
  · simp [leftNull, rightNull, fails_nullComparison, orders_signed, readable_nullLiteral leftNull]
  · simp [leftNull, rightNull]

theorem fails_truth {denied : Bool} {tested : Operand} :
    Fails (mapping.truth entity (!denied) tested) ↔
      Leaf.Faulty mapping entity ⟨.truth tested, denied⟩ := by
  unfold truth Leaf.Faulty Leaf.conversions Test.Inexpressible Test.operands
  have checked : Fails (do
        let piece ← mapping.operand entity none tested
        let wanted ← mapping.convert entity tested.entityPath? (.bool (!denied))
        return Clause.atom [piece, .text " = ", .bound wanted]) ↔
      tested.Unreadable mapping entity ∨
      ∃ pair ∈ tested.converts [.bool (!denied)], mapping.Rejects entity pair.1 pair.2 := by
    rw [rejects_converts, ← fails_alone]
    exact fails_bind fun _ => by simp
  cases bound : tested.boundValue? with
  | none => simpa [bound] using checked
  | some value =>
    by_cases typed : value.type = .bool
    · simpa [bound, typed] using checked
    · exact iff_of_true ⟨_, by simp [typed]; rfl⟩ (.inl ⟨value, bound, typed⟩)

theorem fails_form {strategy : Strategy} {style : SqlStyle} :
    Fails (strategy.form style) ↔ ¬ style.Supports strategy := by
  cases strategy with
  | expand => simp [Strategy.form, SqlStyle.Supports]
  | nativeArray =>
    cases found : style.arrayMembership <;> simp [Strategy.form, SqlStyle.Supports, found]
  | tableValued =>
    cases found : style.tableMembership <;> simp [Strategy.form, SqlStyle.Supports, found]

theorem fails_elements {item : Operand} {collection : List Value}
    {form : Option (String × String)} :
    Fails (do
        let piece ← mapping.operand entity none item
        let values ← collection.mapM (mapping.convert entity item.entityPath?)
        return Clause.atom (piece :: collectionPieces form values)) ↔
      item.Unreadable mapping entity ∨
      ∃ pair ∈ item.converts collection, mapping.Rejects entity pair.1 pair.2 := by
  rw [rejects_converts, ← fails_alone, ← fails_mapM]
  exact fails_bind fun _ => by simp

theorem fails_member {denied : Bool} {item : Operand} {collection : List Value} :
    Fails (mapping.member entity item collection) ↔
      Leaf.Faulty mapping entity ⟨.member item collection, denied⟩ := by
  by_cases accessed : ∃ value type, item = .constant value type
  · obtain ⟨value, type, rfl⟩ := accessed
    exact iff_of_true ⟨_, rfl⟩ (.inl (.inl ⟨value, type, rfl⟩))
  · have steps : Fails (mapping.member entity item collection) ↔
        Fails (mapping.membership.form mapping.style) ∨ item.Unreadable mapping entity ∨
        ∃ pair ∈ item.converts collection, mapping.Rejects entity pair.1 pair.2 := by
      cases item with
      | constant value type => exact absurd ⟨value, type, rfl⟩ accessed
      | captured path value =>
        cases collection with
        | nil =>
          refine fails_bind fun form => ?_
          simp [Operand.Unreadable, Operand.converts, Operand.entityPath?, pure, Except.pure]
        | cons element elements => exact fails_bind fun form => fails_elements
      | field path =>
        cases collection with
        -- the item is not written, but its column is looked for
        | nil =>
          refine fails_bind fun form => ?_
          simp [Operand.Unreadable, Operand.converts, Operand.entityPath?, fails_column]
        | cons element elements => exact fails_bind fun form => fails_elements
    rw [steps, fails_form]
    simp [Leaf.Faulty, Leaf.conversions, Test.Inexpressible, Test.operands, accessed]

theorem fails_leaf (leaf : Leaf) :
    Fails (mapping.condition entity leaf.predicate) ↔ leaf.Faulty mapping entity := by
  obtain ⟨test, denied⟩ := leaf
  have compiled : Fails (mapping.condition entity (Leaf.mk test denied).predicate) ↔
      Fails (mapping.clause entity denied test.predicate) := by
    rw [condition_eq]
    cases denied <;> exact fails_map
  rw [compiled]
  cases test with
  | compare op left right => exact fails_compare
  | isNull tested =>
    refine fails_nullTest.trans ?_
    simp [Leaf.Faulty, Leaf.conversions, Test.Inexpressible, Test.operands]
  | isNotNull tested =>
    refine fails_nullTest.trans ?_
    simp [Leaf.Faulty, Leaf.conversions, Test.Inexpressible, Test.operands]
  | member item collection => exact fails_map.trans fails_member
  | truth tested => exact fails_truth

theorem exists_params {predicate : Predicate} :
    (∃ values, mapping.params entity predicate = .ok values) ↔
      ∃ condition, mapping.condition entity predicate = .ok condition := by
  unfold params
  cases mapping.condition entity predicate <;> simp [bind, Except.bind, pure, Except.pure]

theorem params_eq_error {predicate : Predicate} {issue : Error} :
    mapping.params entity predicate = .error issue ↔
      mapping.condition entity predicate = .error issue := by
  unfold params
  cases mapping.condition entity predicate <;> simp [bind, Except.bind, pure, Except.pure]

/-- Leaves that are compiled one by one all compile, or the first that does not ends it. -/
theorem exists_leafParams {leaves : List Leaf} :
    (∃ values, mapping.leafParams entity leaves = .ok values) ↔
      ∀ leaf ∈ leaves, ∃ condition, mapping.condition entity leaf.predicate = .ok condition := by
  unfold leafParams
  simp only [← exists_params, ← exists_mapM_eq_ok]
  cases leaves.mapM fun leaf => mapping.params entity leaf.predicate <;>
    simp [bind, Except.bind, pure, Except.pure]

theorem leafParams_eq_error {leaves : List Leaf} {issue : Error} :
    mapping.leafParams entity leaves = .error issue ↔
      ∃ front leaf back, leaves = front ++ leaf :: back ∧
        (∀ earlier ∈ front, ∃ condition,
          mapping.condition entity earlier.predicate = .ok condition) ∧
        mapping.condition entity leaf.predicate = .error issue := by
  unfold leafParams
  simp only [← exists_params, ← params_eq_error, ← mapM_eq_error]
  cases leaves.mapM fun leaf => mapping.params entity leaf.predicate <;>
    simp [bind, Except.bind, pure, Except.pure]

/-- A predicate compiles exactly if each of its leaves does on its own. Otherwise its error is that
of the first leaf that does not, and a leaf does not exactly if it is faulty. -/
theorem condition_fails (mapping : Mapping) (entity : String) (predicate : Predicate) :
    ((∃ condition, mapping.condition entity predicate = .ok condition) ↔
      ∀ leaf ∈ predicate.leaves, ∃ condition,
        mapping.condition entity leaf.predicate = .ok condition) ∧
    (∀ issue, mapping.condition entity predicate = .error issue ↔
      ∃ front leaf back, predicate.leaves = front ++ leaf :: back ∧
        (∀ earlier ∈ front, ∃ condition,
          mapping.condition entity earlier.predicate = .ok condition) ∧
        mapping.condition entity leaf.predicate = .error issue) ∧
    ∀ leaf : Leaf, (∃ issue, mapping.condition entity leaf.predicate = .error issue) ↔
      leaf.Faulty mapping entity := by
  refine ⟨?_, fun issue => ?_, fails_leaf⟩
  · rw [← exists_params, params_leaves]
    exact exists_leafParams
  · rw [← params_eq_error, params_leaves]
    exact leafParams_eq_error

/-- A converter that takes only one boolean: the first test of a member passes, its negation does
not, and the fault behind that is not reached. -/
theorem condition_fails_denied :
    let grudging : Converter := {
      name := "grudging"
      convert := fun value =>
        match value with
        | .bool false => .error "no"
        | other => .ok other }
    let mapping : Mapping := { Mapping.identity Dialect.sqlite.style with
      converters := some fun _ _ => some grudging }
    let flag : Predicate := .truth (.field ["flag"])
    let predicate : Predicate := .and (.not (.or flag (.not flag))) (.isNull (.field ["a", "b"]))
    mapping.condition "E" predicate =
        .error (.conversion "grudging" "E" "flag" "false" "no") ∧
      Leaf.Faulty mapping "E" ⟨.truth (.field ["flag"]), true⟩ := by
  intro grudging mapping flag predicate
  obtain ⟨_, first, faulty⟩ := condition_fails mapping "E" predicate
  have failed : mapping.condition "E" (.not flag) =
      .error (.conversion "grudging" "E" "flag" "false" "no") := by rfl
  refine ⟨(first _).mpr ⟨[⟨.truth (.field ["flag"]), false⟩], ⟨.truth (.field ["flag"]), true⟩, _,
    rfl, ?_, failed⟩, (faulty _).mp ⟨_, failed⟩⟩
  intro earlier member
  cases List.mem_singleton.mp member
  exact ⟨_, rfl⟩

end Mapping

end WhereClause
