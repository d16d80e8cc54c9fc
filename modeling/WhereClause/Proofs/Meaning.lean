import WhereClause.Proofs.Evaluation

/-! Meaning of predicates, and of the conditions they become.

`Predicate.meaning` says directly, without any rewriting of negations, what a predicate is in a
row: true, false or unknown. The condition that a mapping makes of a predicate, read by the
grammar of conditions with its parameters in the places of the placeholders, has that value.
-/

set_option autoImplicit false

namespace WhereClause

open Sql

variable {α : Type}

def Mapping.stored? (mapping : Mapping) (entity : String) (peer : Option MemberPath)
    (value : Value) : Option Value :=
  match mapping.converters, peer with
  | some lookup, some [member] =>
    match lookup entity member with
    | some converter => (converter.convert value).toOption
    | none => some value
  | _, _ => some value

/-- What an operand is in a row: a cell, or a value as it is sent for its peer. -/
def Operand.value? (mapping : Mapping) (entity : String) (engine : Engine α) (row : String → α)
    (peer : Option MemberPath) : Operand → Option α
  | .field [member] => (mapping.resolve entity member).toOption.map row
  | .field _ => none
  | .captured _ value => (mapping.stored? entity peer value).map engine.bind
  | .constant value _ => (mapping.stored? entity peer value).map engine.bind

namespace Predicate

/-- The truth value of a predicate in a row, unless a member has no column or a value cannot be
stored for its member. -/
def meaning (mapping : Mapping) (entity : String) (engine : Engine α) (row : String → α) :
    Predicate → Option Truth
  | .compare op left right =>
    match op, left.besideNull? right with
    -- only these two comparisons with the null literal are null tests
    | .eq, some other => do
      return .ofBool (engine.isNull (← other.value? mapping entity engine row none))
    | .ne, some other => do
      return (Truth.ofBool (engine.isNull (← other.value? mapping entity engine row none))).not
    | op, _ => do
      return engine.compare op (← left.value? mapping entity engine row right.entityPath?)
        (← right.value? mapping entity engine row left.entityPath?)
  | .not inner => do return (← inner.meaning mapping entity engine row).not
  | .and left right => do
    return (← left.meaning mapping entity engine row).and (← right.meaning mapping entity engine row)
  | .or left right => do
    return (← left.meaning mapping entity engine row).or (← right.meaning mapping entity engine row)
  | .isNull tested => do
    return .ofBool (engine.isNull (← tested.value? mapping entity engine row none))
  | .isNotNull tested => do
    return (Truth.ofBool (engine.isNull (← tested.value? mapping entity engine row none))).not
  | .truth tested => do
    return engine.compare .eq (← tested.value? mapping entity engine row none)
      (engine.bind (← mapping.stored? entity tested.entityPath? (.bool true)))
  | .member item collection => do
    return engine.among (← item.value? mapping entity engine row none)
      (← collection.mapM (mapping.stored? entity item.entityPath?))

/-- Members whose truth tests are negated. Conjunctions and disjunctions are negated as a whole,
which negates no test inside them. -/
def denied : (negated : Bool) → Predicate → List String
  | negated, .truth (.field [name]) => if negated then [name] else []
  | negated, .not inner => inner.denied (!negated)
  | _, .and left right => left.denied false ++ right.denied false
  | _, .or left right => left.denied false ++ right.denied false
  | _, _ => []

end Predicate

def Sql.Engine.OneOf (engine : Engine α) (yes no cell : α) : Prop :=
  engine.isNull cell = true ∨
    engine.compare? cell yes = some .eq ∧ engine.Differ cell no ∨
    engine.Differ cell yes ∧ engine.compare? cell no = some .eq

/-- A cell that is null or is one of the two forms in which booleans are stored for a member. -/
def Mapping.HoldsBoolean (mapping : Mapping) (entity : String) (engine : Engine α)
    (member : String) (cell : α) : Prop :=
  ∃ yes no, mapping.stored? entity (some [member]) (.bool true) = some yes ∧
    mapping.stored? entity (some [member]) (.bool false) = some no ∧
    engine.OneOf (engine.bind yes) (engine.bind no) cell

namespace Sql.Engine

variable {engine : Engine α} {strategy : Strategy}

theorem OneOf.compare_not (lawful : engine.Lawful strategy) {yes no cell : α}
    (oneOf : engine.OneOf yes no cell) :
    engine.compare .eq cell no = (engine.compare .eq cell yes).not := by
  rcases oneOf with null | ⟨equal, differ⟩ | ⟨differ, equal⟩
  · simp [compare, lawful.compare_null cell _ null, Truth.ofOption, Truth.not]
  · rw [differ.compare_eq]
    simp [compare, equal, holds, Truth.ofOption, Truth.ofBool, Truth.not]
  · rw [differ.compare_eq]
    simp [compare, equal, holds, Truth.ofOption, Truth.ofBool, Truth.not]

theorem Lawful.oneOf_bool (lawful : engine.Lawful strategy) {value : Value}
    (typed : value.type = .bool) :
    engine.OneOf (engine.bind (.bool true)) (engine.bind (.bool false)) (engine.bind value) := by
  cases value with
  | null type => exact .inl (lawful.isNull_null type)
  | bool value =>
    cases value with
    | true => exact .inr (.inl ⟨lawful.compare_bool true, lawful.differ_bool true⟩)
    | false => exact .inr (.inr ⟨lawful.differ_bool false, lawful.compare_bool false⟩)
  | _ => cases typed

end Sql.Engine

def Sql.Truth.signed (negated : Bool) (truth : Truth) : Truth :=
  if negated then truth.not else truth

theorem Sql.Engine.compare_signed (engine : Engine α) (negated : Bool) (op : Comparison)
    (left right : α) :
    engine.compare (op.signed negated) left right = (engine.compare op left right).signed negated := by
  cases negated with
  | false => rfl
  | true => exact engine.compare_negate op left right

theorem Draft.eval_signed (engine : Engine α) (row : String → α) (negated : Bool) (draft : Draft) :
    (draft.signed negated).eval engine row = (draft.eval engine row).signed negated := by
  cases negated <;> rfl

namespace Mapping

variable {mapping : Mapping} {entity : String} {engine : Engine α} {row : String → α}

theorem toOption_convert (peer : Option MemberPath) (value : Value) :
    (mapping.convert entity peer value).toOption = mapping.stored? entity peer value := by
  cases found : mapping.converters with
  | none => simp [convert, peerConverter, stored?, found, Except.toOption]
  | some lookup =>
    rcases peer with _ | _ | ⟨member, _ | _⟩
    · simp [convert, peerConverter, stored?, found, Except.toOption]
    · simp [convert, peerConverter, stored?, found, MemberPath.single?, Except.toOption]
    · cases listed : lookup entity member with
      | none =>
        simp [convert, peerConverter, stored?, found, MemberPath.single?, listed, Except.toOption]
      | some converter =>
        cases stored : converter.convert value <;>
          simp [convert, peerConverter, stored?, found, MemberPath.single?, listed, stored,
            Except.toOption]
    · simp [convert, peerConverter, stored?, found, MemberPath.single?, Except.toOption]

theorem stored?_of_convert {peer : Option MemberPath} {value stored : Value}
    (converted : mapping.convert entity peer value = .ok stored) :
    mapping.stored? entity peer value = some stored := by
  rw [← toOption_convert, converted]
  rfl

theorem mapM_stored? {peer : Option MemberPath} {values stored : List Value}
    (converted : values.mapM (mapping.convert entity peer) = .ok stored) :
    values.mapM (mapping.stored? entity peer) = some stored :=
  mapM_eq_some stored?_of_convert converted

theorem Fills.value? {peer : Option MemberPath} {operand : Operand} {slot : Slot}
    (fills : mapping.Fills entity peer operand slot) :
    operand.value? mapping entity engine row peer = some (slot.eval engine row) := by
  cases fills with
  | field resolved => simp [Operand.value?, resolved, Slot.eval, Except.toOption]
  | captured converted => simp [Operand.value?, stored?_of_convert converted, Slot.eval]
  | constant converted => simp [Operand.value?, stored?_of_convert converted, Slot.eval]

theorem stored?_none (value : Value) : mapping.stored? entity none value = some value :=
  stored?_of_convert (convert_none value)

/-- A negated truth test asks for the stored false, which is right where booleans are held. -/
theorem truth_denied (lawful : engine.Lawful mapping.membership) {tested : Operand} {slot : Slot}
    {wanted : Value} (typed : ∀ value, tested.boundValue? = some value → value.type = .bool)
    (fills : mapping.Fills entity none tested slot)
    (converted : mapping.convert entity tested.entityPath? (.bool false) = .ok wanted)
    (booleans : ∀ member ∈ (Predicate.truth tested).denied true, ∀ column,
      mapping.resolve entity member = .ok column →
      mapping.HoldsBoolean entity engine member (row column)) :
    ∃ yes, mapping.stored? entity tested.entityPath? (.bool true) = some yes ∧
      engine.compare .eq (slot.eval engine row) (engine.bind wanted) =
        (engine.compare .eq (slot.eval engine row) (engine.bind yes)).not := by
  have stored := stored?_of_convert converted
  -- a value that is sent beside no member is sent as it is
  have bound : ∀ value held, tested.entityPath? = none → value.type = .bool →
      mapping.convert entity none value = .ok held → ∃ yes,
        mapping.stored? entity tested.entityPath? (.bool true) = some yes ∧
        engine.compare .eq (engine.bind held) (engine.bind wanted) =
          (engine.compare .eq (engine.bind held) (engine.bind yes)).not := by
    intro value held peerless boolean kept
    rw [peerless, stored?_none] at stored ⊢
    cases Option.some.inj stored
    cases Except.ok.inj ((convert_none value).symm.trans kept)
    exact ⟨_, rfl, (lawful.oneOf_bool boolean).compare_not lawful⟩
  cases fills with
  | @field member column resolved =>
    obtain ⟨yes, no, storedYes, storedNo, oneOf⟩ := booleans member (by simp [Predicate.denied])
      column resolved
    cases Option.some.inj (stored.symm.trans storedNo)
    exact ⟨yes, storedYes, oneOf.compare_not lawful⟩
  | captured kept => exact bound _ _ rfl (typed _ rfl) kept
  | constant kept => exact bound _ _ rfl (typed _ rfl) kept

theorem nullTest_signed (negated : Bool) {op : Comparison} {present : Bool}
    (test : (op.signed negated).nullTest? = some present) :
    op = .eq ∧ present = negated ∨ op = .ne ∧ present = !negated := by
  cases negated <;> cases op <;> simp_all [Comparison.signed, Comparison.negate,
    Comparison.nullTest?]

theorem isNull_signed (negated null : Bool) :
    Truth.ofBool (null != negated) = (Truth.ofBool null).signed negated ∧
      Truth.ofBool (null != !negated) = (Truth.ofBool null).not.signed negated := by
  cases negated <;> cases null <;> exact ⟨rfl, rfl⟩

/-- The draft of a predicate has the predicate's meaning, and that of its negation the negated
meaning. -/
theorem Drafted.meaning {negated : Bool} {predicate : Predicate} {draft : Draft}
    (drafted : mapping.Drafted entity negated predicate draft)
    (lawful : engine.Lawful mapping.membership)
    (booleans : ∀ member ∈ predicate.denied negated, ∀ column,
      mapping.resolve entity member = .ok column →
      mapping.HoldsBoolean entity engine member (row column)) :
    ∃ truth, predicate.meaning mapping entity engine row = some truth ∧
      draft.eval engine row = truth.signed negated := by
  induction drafted with
  | @compare negated op left right first second leftPresent rightPresent leftFills rightFills =>
    have apart : left.besideNull? right = none := by
      simp [Operand.besideNull?, leftPresent, rightPresent]
    refine ⟨engine.compare op (first.eval engine row) (second.eval engine row), ?_, ?_⟩
    · simp [Predicate.meaning, apart, leftFills.value?, rightFills.value?]
    · exact engine.compare_signed negated op _ _
  | @compareNull negated present op left right other slot beside test fills =>
    obtain ⟨isNull, isNotNull⟩ := isNull_signed negated (engine.isNull (slot.eval engine row))
    rcases nullTest_signed negated test with ⟨rfl, rfl⟩ | ⟨rfl, rfl⟩
    · exact ⟨_, by simp [Predicate.meaning, beside, fills.value?], isNull⟩
    · exact ⟨_, by simp [Predicate.meaning, beside, fills.value?], isNotNull⟩
  | @isNull negated tested slot fills =>
    exact ⟨_, by simp [Predicate.meaning, fills.value?], (isNull_signed negated _).1⟩
  | @isNotNull negated tested slot fills =>
    exact ⟨_, by simp [Predicate.meaning, fills.value?], (isNull_signed negated _).2⟩
  | @truth negated tested slot wanted typed fills converted =>
    cases negated with
    | false =>
      have stored := stored?_of_convert converted
      simp only [Bool.not_false] at stored
      exact ⟨engine.compare .eq (slot.eval engine row) (engine.bind wanted),
        by simp [Predicate.meaning, fills.value?, stored], rfl⟩
    -- the draft asks for the other boolean, so the cell has to be one of the two
    | true =>
      obtain ⟨yes, stored, denied⟩ := truth_denied lawful typed fills converted booleans
      exact ⟨_, by simp [Predicate.meaning, fills.value?, stored], denied⟩
  | @never negated item slot accessed supported fills =>
    refine ⟨.no, ?_, Draft.eval_signed engine row negated .never⟩
    simp [Predicate.meaning, fills.value?, Engine.among, Truth.any]
  | @member negated item slot element first elements others _ _ fills converted othersConverted =>
    refine ⟨engine.among (slot.eval engine row) (first :: others), ?_,
      Draft.eval_signed engine row negated _⟩
    simp [Predicate.meaning, fills.value?, List.mapM_cons, stored?_of_convert converted,
      mapM_stored? othersConverted]
  | @not negated inner draft _ ih =>
    obtain ⟨truth, meaning, eval⟩ := ih booleans
    refine ⟨truth.not, by simp [Predicate.meaning, meaning], ?_⟩
    cases negated with
    | false => exact eval
    -- two negations cancel, and the draft has neither
    | true => exact eval.trans truth.not_not.symm
  | @and negated left right first second _ _ leftIh rightIh =>
    obtain ⟨leftTruth, leftMeaning, leftEval⟩ :=
      leftIh fun member found => booleans member (List.mem_append_left _ found)
    obtain ⟨rightTruth, rightMeaning, rightEval⟩ :=
      rightIh fun member found => booleans member (List.mem_append_right _ found)
    refine ⟨leftTruth.and rightTruth, by simp [Predicate.meaning, leftMeaning, rightMeaning], ?_⟩
    rw [Draft.eval_signed, Draft.eval, leftEval, rightEval]
    rfl
  | @or negated left right first second _ _ leftIh rightIh =>
    obtain ⟨leftTruth, leftMeaning, leftEval⟩ :=
      leftIh fun member found => booleans member (List.mem_append_left _ found)
    obtain ⟨rightTruth, rightMeaning, rightEval⟩ :=
      rightIh fun member found => booleans member (List.mem_append_right _ found)
    refine ⟨leftTruth.or rightTruth, by simp [Predicate.meaning, leftMeaning, rightMeaning], ?_⟩
    rw [Draft.eval_signed, Draft.eval, leftEval, rightEval]
    rfl

end Mapping

def Sql.readWhere : List Token → Option Formula
  | .word "WHERE" :: rest => readFormula rest
  | _ => none

namespace Mapping

/-- A compiled condition is read as one whose truth value in every row is the meaning of the
predicate. Truth tests that are negated ask for the stored false, so their members are expected
to hold booleans. -/
theorem condition_meaning {mapping : Mapping} {dialect : Dialect} {entity : String}
    {predicate : Predicate} {condition : Condition} (speaks : mapping.style = dialect.style)
    (compiled : mapping.condition entity predicate = .ok condition) :
    ∃ formula,
      (tokens (.shared dialect) condition.text).bind readFormula = some formula ∧
      (tokens (.native dialect) (condition.native mapping.style)).bind readWhere = some formula ∧
      ∀ {α : Type} (engine : Engine α) (row : String → α), engine.Lawful mapping.membership →
        (∀ member ∈ predicate.denied false, ∀ column, mapping.resolve entity member = .ok column →
          mapping.HoldsBoolean entity engine member (row column)) →
        predicate.meaning mapping entity engine row =
          some (formula.eval (engine.model row condition.params)) := by
  obtain ⟨draft, drafted, rfl⟩ := condition_spelled speaks compiled
  obtain ⟨formula, readAs⟩ := draft.exists_readAs dialect mapping.membership 0
  have orderly := draft.orderly_marks _ (dialect.opening_fits mapping.membership)
  have read := readAs.spells.readFormula
  refine ⟨formula, ?_, ?_, fun engine row lawful booleans => ?_⟩
  · rw [Mark.tokens_shared orderly dialect (speaks ▸ Mark.toList_render _ _ 0 _)]
    exact read
  · have tokens := Mark.tokens_native orderly dialect (Mark.toList_render dialect.style.quote _ 0 _)
    rw [speaks]
    exact (congrArg (Option.bind · readWhere) tokens).trans read
  · obtain ⟨truth, meaning, eval⟩ := drafted.meaning lawful booleans
    rw [meaning, readAs.eval engine row _ lawful ⟨[], ?_⟩, eval]
    · rfl
    · simp [Clause.condition, Mark.boundValues_pieces]

/-- Negations of a truth test and of a disjunction, in a row that meets them and in one where
the truth test is unknown. -/
theorem condition_meaning_denied :
    let adult : Predicate := .compare .ge (.field ["age"]) (.ofValue (.int 18))
    let listed : Predicate := .member (.field ["name"]) [.string "a", .string "b"]
    let predicate : Predicate := .and (.not (.truth (.field ["active"]))) (.not (.or adult listed))
    let row (active : Cell) : String → Datum
      | "active" => ⟨active, some .integer⟩
      | "age" => ⟨.integer 17, some .integer⟩
      | _ => ⟨.text "c", some .text⟩
    ∃ condition formula,
      (Mapping.identity Dialect.sqlite.style).condition "User" predicate = .ok condition ∧
      (tokens (.shared .sqlite) condition.text).bind readFormula = some formula ∧
      formula.eval (Engine.memory.model (row (.integer 0)) condition.params) = .yes ∧
      formula.eval (Engine.memory.model (row .null) condition.params) = .unknown := by
  intro adult listed predicate row
  let mapping := Mapping.identity Dialect.sqlite.style
  obtain ⟨condition, compiled⟩ : ∃ condition, mapping.condition "User" predicate = .ok condition :=
    ⟨_, rfl⟩
  obtain ⟨formula, read, _, meaning⟩ := @condition_meaning mapping .sqlite _ _ _ rfl compiled
  have evaluated (active : Cell) (boolean : mapping.HoldsBoolean "User" Engine.memory "active"
      ⟨active, some .integer⟩) := meaning Engine.memory (row active) Engine.memory_lawful (by
    intro member denied column resolved
    cases List.mem_singleton.mp denied
    cases resolved
    exact boolean)
  refine ⟨condition, formula, compiled, read, ?_, ?_⟩
  · have value : predicate.meaning mapping "User" Engine.memory (row (.integer 0)) = some .yes := rfl
    rw [evaluated (.integer 0) ⟨_, _, rfl, rfl, .inr (.inr ⟨⟨_, rfl, by decide⟩, rfl⟩)⟩] at value
    exact Option.some.inj value
  · have value : predicate.meaning mapping "User" Engine.memory (row .null) = some .unknown := rfl
    rw [evaluated .null ⟨_, _, rfl, rfl, .inl rfl⟩] at value
    exact Option.some.inj value

end Mapping

end WhereClause
