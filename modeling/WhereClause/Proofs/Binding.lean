import WhereClause.Proofs.Leaves
import WhereClause.Proofs.Meaning
import WhereClause.Proofs.Noninterference

/-! What a condition binds.

`Leaf.bound?` says of each test which values become parameters, in which order, and which of them
pass through a converter: a value beside a member is stored as that member stores it, the boolean
that a member is tested for and the elements of a collection too, and all else is bound as it is.
The parameters of a condition are those of its tests, one after the other.
-/

set_option autoImplicit false

namespace WhereClause

/-- The value of an operand that has one, as it is stored for the operand on the other side. -/
def Operand.sent? (mapping : Mapping) (entity : String) (operand peer : Operand) :
    Option (List Value) :=
  match operand.boundValue? with
  | none => some []
  | some value => do return [← mapping.stored? entity peer.entityPath? value]

def Operand.raw (operand : Operand) : List Value := operand.boundValue?.toList

/-- Elements are bound one by one, or together as a list typed by its first element. -/
def Strategy.collect (strategy : Strategy) (elements : List Value) : List Value :=
  if strategy = .expand then elements else [Value.ofItems elements]

/-- The values that a leaf binds, unless a converter rejects one of them. -/
def Leaf.bound? (mapping : Mapping) (entity : String) (leaf : Leaf) : Option (List Value) :=
  match leaf.test with
  | .compare _ left right =>
    match left.isNullLiteral, right.isNullLiteral with
    | false, false => do
      return (← left.sent? mapping entity right) ++ (← right.sent? mapping entity left)
    | false, true => some left.raw
    | true, false => some right.raw
    | true, true => none
  | .isNull tested => some tested.raw
  | .isNotNull tested => some tested.raw
  | .truth tested => do
    let wanted ← mapping.stored? entity tested.entityPath? (.bool (!leaf.denied))
    return tested.raw ++ [wanted]
  | .member _ [] => some []
  | .member item collection => do
    let stored ← collection.mapM (mapping.stored? entity item.entityPath?)
    return item.raw ++ mapping.membership.collect stored

def Predicate.bound? (mapping : Mapping) (entity : String) (predicate : Predicate) :
    Option (List Value) := do
  return (← predicate.leaves.mapM (Leaf.bound? mapping entity)).flatten

namespace Clause

theorem boundValues_slot (quote : String → String) (slot : Slot) (rest : List Piece) :
    boundValues (slot.piece quote :: rest) = slot.values ++ boundValues rest := by
  cases slot <;> rfl

theorem boundValues_listPieces (values : List Value) :
    boundValues (Mapping.listPieces values) = values := by
  induction values with
  | nil => rfl
  | cons value values ih =>
    cases values with
    | nil => rfl
    | cons next values => exact congrArg (value :: ·) ih

end Clause

namespace Mapping

variable {mapping : Mapping} {entity : String}

theorem Fills.sent? {operand peer : Operand} {slot : Slot}
    (fills : mapping.Fills entity peer.entityPath? operand slot) :
    operand.sent? mapping entity peer = some slot.values := by
  cases fills with
  | field _ => rfl
  | captured converted =>
    simp [Operand.sent?, Operand.boundValue?, stored?_of_convert converted, Slot.values]
  | constant converted =>
    simp [Operand.sent?, Operand.boundValue?, stored?_of_convert converted, Slot.values]

theorem Fills.raw {operand : Operand} {slot : Slot}
    (fills : mapping.Fills entity none operand slot) : operand.raw = slot.values := by
  cases fills with
  | field _ => rfl
  | captured converted => rw [convert_none] at converted; cases converted; rfl
  | constant converted => rw [convert_none] at converted; cases converted; rfl

theorem boundValues_collection
    (supported : mapping.membership.form mapping.style = .ok mapping.form) (values : List Value) :
    Clause.boundValues (collectionPieces mapping.form values) =
      mapping.membership.collect values := by
  unfold Strategy.collect
  cases found : mapping.form with
  | none =>
    have single := expand_of_form_none supported (by rw [found]; rfl)
    simp [collectionPieces, Clause.boundValues_listPieces, single]
  | some form =>
    have whole : mapping.membership ≠ .expand := by
      intro single
      rw [single, found] at supported
      cases supported
    simp [collectionPieces, whole]

theorem Drafted.bound? {leaf : Leaf} {draft : Draft}
    (drafted : mapping.Drafted entity leaf.denied leaf.test.predicate draft) :
    leaf.bound? mapping entity =
      some (Clause.boundValues (draft.clause mapping.style.quote mapping.form).pieces) := by
  obtain ⟨test, denied⟩ := leaf
  cases test with
  | compare op left right =>
    cases drafted with
    | compare leftPresent rightPresent leftFills rightFills =>
      simp [Leaf.bound?, leftPresent, rightPresent, leftFills.sent?, rightFills.sent?,
        Draft.clause, Clause.atom, Clause.boundValues_slot]
    | compareNull beside _ fills =>
      unfold Operand.besideNull? at beside
      split at beside
      next leftPresent rightNull =>
        cases beside
        simp [Leaf.bound?, leftPresent, rightNull, fills.raw, Draft.clause, Clause.atom,
          Clause.boundValues_slot]
      next leftNull rightPresent =>
        cases beside
        simp [Leaf.bound?, leftNull, rightPresent, fills.raw, Draft.clause, Clause.atom,
          Clause.boundValues_slot]
      next => cases beside
  | isNull tested =>
    cases drafted with
    | isNull fills =>
      simp [Leaf.bound?, fills.raw, Draft.clause, Clause.atom, Clause.boundValues_slot]
  | isNotNull tested =>
    cases drafted with
    | isNotNull fills =>
      simp [Leaf.bound?, fills.raw, Draft.clause, Clause.atom, Clause.boundValues_slot]
  | truth tested =>
    cases drafted with
    | truth _ fills converted =>
      simp [Leaf.bound?, fills.raw, stored?_of_convert converted, Draft.clause, Clause.atom,
        Clause.boundValues_slot, Slot.values]
  | member item collection =>
    cases drafted with
    | never _ _ _ => cases denied <;> rfl
    | member _ supported fills converted othersConverted =>
      have stored := boundValues_collection supported
      cases denied <;>
        simp [Leaf.bound?, fills.raw, stored?_of_convert converted, mapM_stored? othersConverted,
          Draft.clause_signed, Draft.clause, Clause.atom, Clause.boundValues_slot, stored]

theorem bound?_of_params {leaf : Leaf} {values : List Value}
    (compiled : mapping.params entity leaf.predicate = .ok values) :
    leaf.bound? mapping entity = some values := by
  rw [params_leaf] at compiled
  obtain ⟨clause, clauseCompiled, same⟩ := bind_eq_ok.mp compiled
  obtain ⟨draft, drafted, rfl⟩ := clause_eq_ok clauseCompiled
  rw [drafted.bound?, pure_eq_ok.mp same]

/-- The parameters of a compiled condition are what the leaves of its predicate bind, from left to
right, each value converted for the member that it stands beside and for no other. -/
theorem params_bound {predicate : Predicate} {condition : Condition}
    (compiled : mapping.condition entity predicate = .ok condition) :
    predicate.bound? mapping entity = some condition.params := by
  have params : mapping.params entity predicate = .ok condition.params := by
    rw [Mapping.params, compiled]
    rfl
  rw [params_leaves] at params
  obtain ⟨parts, partsCompiled, same⟩ := bind_eq_ok.mp params
  have bound : predicate.leaves.mapM (Leaf.bound? mapping entity) = some parts :=
    mapM_eq_some bound?_of_params partsCompiled
  rw [Predicate.bound?, bound, ← pure_eq_ok.mp same]
  rfl

/-- Three negations of a truth test, an absent variable beside a member, a collection that is bound
as a whole, and values that stand beside no converter. -/
theorem params_bound_converted :
    let words (_ member : String) : Option Converter :=
      if member = "flag" then some .boolAsString else none
    let mapping : Mapping := { Mapping.identity Dialect.sqlServer.style with
      converters := some words, membership := .tableValued }
    let predicate : Predicate := .and
      (.not (.not (.not (.truth (.field ["flag"])))))
      (.or
        (.and (.compare .eq (.captured ["v"] (.null .bool)) (.field ["flag"]))
          (.not (.member (.field ["flag"]) [.bool true, .bool false])))
        (.not (.or (.truth (.captured ["w"] (.bool true)))
          (.compare .ne (.captured ["w"] (.bool true)) (.ofNull .bool)))))
    ∃ condition, mapping.condition "E" predicate = .ok condition ∧
      condition.params = [.string "false", .string "null",
        .list .string [.string "true", .string "false"], .bool true, .bool true, .bool true] := by
  intro words mapping predicate
  obtain ⟨condition, compiled⟩ : ∃ condition, mapping.condition "E" predicate = .ok condition :=
    ⟨_, rfl⟩
  have bound := params_bound compiled
  exact ⟨condition, compiled, (Option.some.inj bound).symm⟩

end Mapping

end WhereClause
