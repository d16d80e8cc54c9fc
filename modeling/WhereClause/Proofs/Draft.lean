import WhereClause.Proofs.Clauses

/-! Drafts of conditions.

A draft is a condition before it is spelled: columns are names, bound values stand in their
places, and negation has been carried inward. `Mapping.Drafted` says which draft a predicate
has, and compiling a predicate is spelling its draft.
-/

set_option autoImplicit false

namespace WhereClause

inductive Slot where
  | column (name : String)
  | bound (value : Value)

/-- The elements of a membership test are not empty; `never` stands for an empty one. -/
inductive Draft where
  | compare (op : Comparison) (left right : Slot)
  | nullTest (present : Bool) (tested : Slot)
  | member (item : Slot) (first : Value) (others : List Value)
  | never
  | not (inner : Draft)
  | join (word : Word) (left right : Draft)

namespace Slot

def piece (quote : String → String) : Slot → Piece
  | .column name => .text (quote name)
  | .bound value => .bound value

def columns : Slot → List String
  | .column name => [name]
  | .bound _ => []

@[simp] theorem columns_bound (value : Value) : (bound value).columns = [] := rfl

end Slot

namespace Draft

def signed (negated : Bool) (draft : Draft) : Draft := if negated then .not draft else draft

def shape : Draft → Shape
  | .join word _ _ => word.shape
  | _ => .atom

def columns : Draft → List String
  | .compare _ left right => left.columns ++ right.columns
  | .nullTest _ tested => tested.columns
  | .member item _ _ => item.columns
  | .never => []
  | .not inner => inner.columns
  | .join _ left right => left.columns ++ right.columns

def clause (quote : String → String) (form : Option (String × String)) : Draft → Clause
  | .compare op left right =>
    .atom [left.piece quote, .text (" " ++ op.sql ++ " "), right.piece quote]
  | .nullTest present tested =>
    .atom [tested.piece quote, .text (if present then " IS NOT NULL" else " IS NULL")]
  | .member item first others =>
    .atom (item.piece quote :: Mapping.collectionPieces form (first :: others))
  | .never => .atom [.text Mapping.alwaysFalse]
  | .not inner => (inner.clause quote form).negated
  | .join word left right => .join word (left.clause quote form) (right.clause quote form)

theorem clause_signed (quote : String → String) (form : Option (String × String))
    (negated : Bool) (draft : Draft) :
    (signed negated draft).clause quote form =
      if negated then (draft.clause quote form).negated else draft.clause quote form := by
  cases negated <;> rfl

theorem columns_signed (negated : Bool) (draft : Draft) :
    (signed negated draft).columns = draft.columns := by
  cases negated <;> rfl

end Draft

def Comparison.signed (negated : Bool) (op : Comparison) : Comparison :=
  if negated then op.negate else op

def Comparison.nullTest? : Comparison → Option Bool
  | .eq => some false
  | .ne => some true
  | _ => none

/-- The operand that is compared with the null literal, if just one of two is that. -/
def Operand.besideNull? (left right : Operand) : Option Operand :=
  match left.isNullLiteral, right.isNullLiteral with
  | false, true => some left
  | true, false => some right
  | _, _ => none

namespace Mapping

def form (mapping : Mapping) : Option (String × String) :=
  match mapping.membership.form mapping.style with
  | .ok form => form
  | .error _ => none

/-- What an operand puts into a condition: the column of a member that is named by a single
segment, or a value as it is stored for the member on the other side. -/
inductive Fills (mapping : Mapping) (entity : String) (peer : Option MemberPath) :
    Operand → Slot → Prop where
  | field {member column : String} : mapping.resolve entity member = .ok column →
      Fills mapping entity peer (.field [member]) (.column column)
  | captured {path : MemberPath} {value stored : Value} :
      mapping.convert entity peer value = .ok stored →
      Fills mapping entity peer (.captured path value) (.bound stored)
  | constant {value stored : Value} {type : ValueType} :
      mapping.convert entity peer value = .ok stored →
      Fills mapping entity peer (.constant value type) (.bound stored)

/-- The draft of a predicate or of its negation, with everything that is checked on the way. -/
inductive Drafted (mapping : Mapping) (entity : String) : Bool → Predicate → Draft → Prop where
  | compare {negated : Bool} {op : Comparison} {left right : Operand} {first second : Slot} :
      left.isNullLiteral = false → right.isNullLiteral = false →
      mapping.Fills entity right.entityPath? left first →
      mapping.Fills entity left.entityPath? right second →
      Drafted mapping entity negated (.compare op left right)
        (.compare (op.signed negated) first second)
  | compareNull {negated present : Bool} {op : Comparison} {left right other : Operand}
      {slot : Slot} :
      left.besideNull? right = some other → (op.signed negated).nullTest? = some present →
      mapping.Fills entity none other slot →
      Drafted mapping entity negated (.compare op left right) (.nullTest present slot)
  | isNull {negated : Bool} {tested : Operand} {slot : Slot} :
      mapping.Fills entity none tested slot →
      Drafted mapping entity negated (.isNull tested) (.nullTest negated slot)
  | isNotNull {negated : Bool} {tested : Operand} {slot : Slot} :
      mapping.Fills entity none tested slot →
      Drafted mapping entity negated (.isNotNull tested) (.nullTest (!negated) slot)
  -- a negated test still asks for equality, but with the stored false
  | truth {negated : Bool} {tested : Operand} {slot : Slot} {wanted : Value} :
      (∀ value, tested.boundValue? = some value → value.type = .bool) →
      mapping.Fills entity none tested slot →
      mapping.convert entity tested.entityPath? (.bool (!negated)) = .ok wanted →
      Drafted mapping entity negated (.truth tested) (.compare .eq slot (.bound wanted))
  -- the item of an empty membership test is checked and then not written
  | never {negated : Bool} {item : Operand} {slot : Slot} :
      (∀ value type, item ≠ .constant value type) →
      mapping.membership.form mapping.style = .ok mapping.form →
      mapping.Fills entity none item slot →
      Drafted mapping entity negated (.member item []) (.signed negated .never)
  | member {negated : Bool} {item : Operand} {slot : Slot} {element first : Value}
      {elements others : List Value} :
      (∀ value type, item ≠ .constant value type) →
      mapping.membership.form mapping.style = .ok mapping.form →
      mapping.Fills entity none item slot →
      mapping.convert entity item.entityPath? element = .ok first →
      elements.mapM (mapping.convert entity item.entityPath?) = .ok others →
      Drafted mapping entity negated (.member item (element :: elements))
        (.signed negated (.member slot first others))
  | not {negated : Bool} {inner : Predicate} {draft : Draft} :
      Drafted mapping entity (!negated) inner draft →
      Drafted mapping entity negated (.not inner) draft
  -- connectives are negated as a whole, so their sides are drafted as they are
  | and {negated : Bool} {left right : Predicate} {first second : Draft} :
      Drafted mapping entity false left first → Drafted mapping entity false right second →
      Drafted mapping entity negated (.and left right) (.signed negated (.join .and first second))
  | or {negated : Bool} {left right : Predicate} {first second : Draft} :
      Drafted mapping entity false left first → Drafted mapping entity false right second →
      Drafted mapping entity negated (.or left right) (.signed negated (.join .or first second))

variable {mapping : Mapping} {entity : String}

theorem column_eq_ok {path : MemberPath} {text : String}
    (found : mapping.column entity path = .ok text) :
    ∃ member column, path = [member] ∧ mapping.resolve entity member = .ok column ∧
      text = mapping.style.quote column := by
  match path with
  | [] => cases found
  | _ :: _ :: _ => cases found
  | [member] =>
    obtain ⟨column, resolved, same⟩ := bind_eq_ok.mp found
    exact ⟨member, column, rfl, resolved, (pure_eq_ok.mp same).symm⟩

theorem operand_eq_ok {peer : Option MemberPath} {operand : Operand} {piece : Piece}
    (written : mapping.operand entity peer operand = .ok piece) :
    ∃ slot, mapping.Fills entity peer operand slot ∧ piece = slot.piece mapping.style.quote := by
  cases operand with
  | field path =>
    obtain ⟨text, found, same⟩ := bind_eq_ok.mp written
    obtain ⟨member, column, rfl, resolved, rfl⟩ := column_eq_ok found
    exact ⟨.column column, .field resolved, (pure_eq_ok.mp same).symm⟩
  | captured path value =>
    obtain ⟨stored, converted, same⟩ := bind_eq_ok.mp written
    exact ⟨.bound stored, .captured converted, (pure_eq_ok.mp same).symm⟩
  | constant value type =>
    obtain ⟨stored, converted, same⟩ := bind_eq_ok.mp written
    exact ⟨.bound stored, .constant converted, (pure_eq_ok.mp same).symm⟩

theorem nullTest_eq_ok {present : Bool} {tested : Operand} {clause : Clause}
    (compiled : mapping.nullTest entity present tested = .ok clause) :
    ∃ slot, mapping.Fills entity none tested slot ∧
      clause = (Draft.nullTest present slot).clause mapping.style.quote mapping.form := by
  obtain ⟨piece, written, same⟩ := bind_eq_ok.mp compiled
  obtain ⟨slot, fills, rfl⟩ := operand_eq_ok written
  exact ⟨slot, fills, (pure_eq_ok.mp same).symm⟩

theorem nullComparison_eq_ok {op : Comparison} {other : Operand} {clause : Clause}
    (compiled : mapping.nullComparison entity op other = .ok clause) :
    ∃ present slot, op.nullTest? = some present ∧ mapping.Fills entity none other slot ∧
      clause = (Draft.nullTest present slot).clause mapping.style.quote mapping.form := by
  cases op with
  | eq =>
    obtain ⟨slot, fills, same⟩ := nullTest_eq_ok compiled
    exact ⟨false, slot, rfl, fills, same⟩
  | ne =>
    obtain ⟨slot, fills, same⟩ := nullTest_eq_ok compiled
    exact ⟨true, slot, rfl, fills, same⟩
  | lt => cases compiled
  | le => cases compiled
  | gt => cases compiled
  | ge => cases compiled

theorem compare_eq_ok {negated : Bool} {op : Comparison} {left right : Operand} {clause : Clause}
    (compiled : mapping.compare entity (op.signed negated) left right = .ok clause) :
    ∃ draft, mapping.Drafted entity negated (.compare op left right) draft ∧
      clause = draft.clause mapping.style.quote mapping.form := by
  unfold compare at compiled
  split at compiled
  · cases compiled
  next leftPresent rightNull =>
    obtain ⟨present, slot, test, fills, same⟩ := nullComparison_eq_ok compiled
    have beside : left.besideNull? right = some left := by
      simp only [Operand.besideNull?, leftPresent, rightNull]
    exact ⟨_, .compareNull beside test fills, same⟩
  next leftNull rightPresent =>
    obtain ⟨present, slot, test, fills, same⟩ := nullComparison_eq_ok compiled
    have beside : left.besideNull? right = some right := by
      simp only [Operand.besideNull?, leftNull, rightPresent]
    exact ⟨_, .compareNull beside test fills, same⟩
  next leftPresent rightPresent =>
    obtain ⟨leftPiece, leftWritten, rest⟩ := bind_eq_ok.mp compiled
    obtain ⟨rightPiece, rightWritten, same⟩ := bind_eq_ok.mp rest
    obtain ⟨first, leftFills, rfl⟩ := operand_eq_ok leftWritten
    obtain ⟨second, rightFills, rfl⟩ := operand_eq_ok rightWritten
    exact ⟨_, .compare leftPresent rightPresent leftFills rightFills, (pure_eq_ok.mp same).symm⟩

theorem truth_eq_ok {negated : Bool} {tested : Operand} {clause : Clause}
    (compiled : mapping.truth entity (!negated) tested = .ok clause) :
    ∃ draft, mapping.Drafted entity negated (.truth tested) draft ∧
      clause = draft.clause mapping.style.quote mapping.form := by
  unfold truth at compiled
  -- both ways through the check of the type go on with the same steps
  have passed : (∀ value, tested.boundValue? = some value → value.type = .bool) ∧
      (do
        let piece ← mapping.operand entity none tested
        let wanted ← mapping.convert entity tested.entityPath? (.bool (!negated))
        return Clause.atom [piece, .text " = ", .bound wanted]) = Except.ok clause := by
    split at compiled
    next value bound =>
      split at compiled
      · cases compiled
      next typed =>
        refine ⟨fun other found => ?_, compiled⟩
        rw [bound] at found
        exact Option.some.inj found ▸ Decidable.not_not.mp typed
    next unbound =>
      refine ⟨fun other found => ?_, compiled⟩
      rw [unbound] at found
      cases found
  obtain ⟨typed, rest⟩ := passed
  obtain ⟨piece, written, rest⟩ := bind_eq_ok.mp rest
  obtain ⟨wanted, converted, same⟩ := bind_eq_ok.mp rest
  obtain ⟨slot, fills, rfl⟩ := operand_eq_ok written
  exact ⟨_, .truth typed fills converted, (pure_eq_ok.mp same).symm⟩

theorem convert_none (value : Value) : mapping.convert entity none value = .ok value := by
  cases found : mapping.converters <;> simp [convert, peerConverter, found]

theorem form_eq_ok {form : Option (String × String)}
    (supported : mapping.membership.form mapping.style = .ok form) :
    mapping.membership.form mapping.style = .ok mapping.form := by
  simp only [Mapping.form, supported]

theorem member_nil_eq_ok {negated : Bool} {item : Operand} {found : Clause}
    (accessed : ∀ value type, item ≠ .constant value type)
    (compiled : mapping.member entity item [] = .ok found) :
    mapping.Drafted entity negated (.member item []) (.signed negated .never) ∧
      found = Draft.never.clause mapping.style.quote mapping.form := by
  cases item with
  | constant value type => exact absurd rfl (accessed value type)
  | captured path value =>
    obtain ⟨form, supported, same⟩ := bind_eq_ok.mp compiled
    exact ⟨.never accessed (form_eq_ok supported) (.captured (convert_none value)),
      (pure_eq_ok.mp same).symm⟩
  | field path =>
    obtain ⟨form, supported, rest⟩ := bind_eq_ok.mp compiled
    obtain ⟨text, resolved, same⟩ := bind_eq_ok.mp rest
    obtain ⟨member, column, rfl, resolved, _⟩ := column_eq_ok resolved
    exact ⟨.never accessed (form_eq_ok supported) (.field resolved), (pure_eq_ok.mp same).symm⟩

theorem member_cons_eq_ok {negated : Bool} {item : Operand} {element : Value}
    {elements : List Value} {found : Clause} (accessed : ∀ value type, item ≠ .constant value type)
    (compiled : mapping.member entity item (element :: elements) = .ok found) :
    ∃ draft, mapping.Drafted entity negated (.member item (element :: elements))
        (.signed negated draft) ∧
      found = draft.clause mapping.style.quote mapping.form := by
  have steps : (do
      let form ← mapping.membership.form mapping.style
      let piece ← mapping.operand entity none item
      let values ← (element :: elements).mapM (mapping.convert entity item.entityPath?)
      return Clause.atom (piece :: collectionPieces form values)) = Except.ok found := by
    cases item with
    | constant value type => exact absurd rfl (accessed value type)
    | captured path value => exact compiled
    | field path => exact compiled
  obtain ⟨form, supported, rest⟩ := bind_eq_ok.mp steps
  obtain ⟨piece, written, rest⟩ := bind_eq_ok.mp rest
  obtain ⟨values, converted, same⟩ := bind_eq_ok.mp rest
  obtain ⟨slot, fills, rfl⟩ := operand_eq_ok written
  rw [List.mapM_cons] at converted
  obtain ⟨first, firstConverted, rest⟩ := bind_eq_ok.mp converted
  obtain ⟨others, othersConverted, rest⟩ := bind_eq_ok.mp rest
  cases pure_eq_ok.mp rest
  -- the form that was found is the one that the draft is spelled with
  have whole := form_eq_ok supported
  cases Except.ok.inj (supported.symm.trans whole)
  exact ⟨.member slot first others, .member accessed whole fills firstConverted othersConverted,
    (pure_eq_ok.mp same).symm⟩

theorem member_eq_ok {negated : Bool} {item : Operand} {collection : List Value} {found : Clause}
    (compiled : mapping.member entity item collection = .ok found) :
    ∃ draft, mapping.Drafted entity negated (.member item collection) (.signed negated draft) ∧
      found = draft.clause mapping.style.quote mapping.form := by
  have accessed : ∀ value type, item ≠ .constant value type := by
    rintro value type rfl
    cases collection <;> cases compiled
  cases collection with
  | nil => exact ⟨.never, member_nil_eq_ok accessed compiled⟩
  | cons element elements => exact member_cons_eq_ok accessed compiled

/-- Compiling a predicate spells its draft. -/
theorem clause_eq_ok {negated : Bool} {predicate : Predicate} {clause : Clause}
    (compiled : mapping.clause entity negated predicate = .ok clause) :
    ∃ draft, mapping.Drafted entity negated predicate draft ∧
      clause = draft.clause mapping.style.quote mapping.form := by
  -- on the predicate, for both signs at once: a negation flips the sign and writes nothing
  induction predicate generalizing negated clause with
  | compare op left right => exact compare_eq_ok compiled
  | isNull tested =>
    obtain ⟨slot, fills, same⟩ := nullTest_eq_ok compiled
    exact ⟨_, .isNull fills, same⟩
  | isNotNull tested =>
    obtain ⟨slot, fills, same⟩ := nullTest_eq_ok compiled
    exact ⟨_, .isNotNull fills, same⟩
  | truth tested => exact truth_eq_ok compiled
  | member item collection =>
    obtain ⟨found, foundCompiled, same⟩ := bind_eq_ok.mp compiled
    obtain ⟨draft, drafted, rfl⟩ := member_eq_ok foundCompiled
    exact ⟨_, drafted, by rw [Draft.clause_signed]; exact (pure_eq_ok.mp same).symm⟩
  | not inner ih =>
    obtain ⟨draft, drafted, same⟩ := ih compiled
    exact ⟨draft, .not drafted, same⟩
  | and left right leftIh rightIh =>
    obtain ⟨leftClause, leftCompiled, rest⟩ := bind_eq_ok.mp compiled
    obtain ⟨rightClause, rightCompiled, same⟩ := bind_eq_ok.mp rest
    obtain ⟨first, leftDrafted, rfl⟩ := leftIh leftCompiled
    obtain ⟨second, rightDrafted, rfl⟩ := rightIh rightCompiled
    refine ⟨_, .and leftDrafted rightDrafted, ?_⟩
    rw [Draft.clause_signed]
    exact (pure_eq_ok.mp same).symm
  | or left right leftIh rightIh =>
    obtain ⟨leftClause, leftCompiled, rest⟩ := bind_eq_ok.mp compiled
    obtain ⟨rightClause, rightCompiled, same⟩ := bind_eq_ok.mp rest
    obtain ⟨first, leftDrafted, rfl⟩ := leftIh leftCompiled
    obtain ⟨second, rightDrafted, rfl⟩ := rightIh rightCompiled
    refine ⟨_, .or leftDrafted rightDrafted, ?_⟩
    rw [Draft.clause_signed]
    exact (pure_eq_ok.mp same).symm

end Mapping

end WhereClause
