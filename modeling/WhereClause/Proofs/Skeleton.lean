import WhereClause.Proofs.Draft

/-! Skeletons of predicates.

A skeleton is the draft that a predicate would have if members were their own columns and every
value were null. The draft that a mapping makes differs from it only in the names of the columns
and in the values, so all that the values decide is already decided by the predicate alone.
-/

set_option autoImplicit false

namespace WhereClause

def Value.blank : Value := .null .string

def Slot.recast (rename : String → String) : Slot → Slot
  | .column name => .column (rename name)
  | .bound _ => .bound .blank

/-- Rename columns and forget values. Of collections that are bound as a `whole`, the size is
forgotten too. -/
def Draft.recast (rename : String → String) (whole : Bool) : Draft → Draft
  | .compare op left right => .compare op (left.recast rename) (right.recast rename)
  | .nullTest present tested => .nullTest present (tested.recast rename)
  | .member item _ others =>
    .member (item.recast rename) .blank (if whole then [] else others.map fun _ => .blank)
  | .never => .never
  | .not inner => .not (inner.recast rename whole)
  | .join word left right => .join word (left.recast rename whole) (right.recast rename whole)

@[simp] theorem Draft.recast_signed (rename : String → String) (whole negated : Bool)
    (draft : Draft) :
    (draft.signed negated).recast rename whole = (draft.recast rename whole).signed negated := by
  cases negated <;> rfl

def Operand.skeleton : Operand → Slot
  | .field path => .column (path.headD "")
  | .captured _ _ => .bound .blank
  | .constant _ _ => .bound .blank

def Predicate.skeleton (whole : Bool) : (negated : Bool) → Predicate → Draft
  | negated, .compare op left right =>
    match left.besideNull? right, (op.signed negated).nullTest? with
    | some other, some present => .nullTest present other.skeleton
    | _, _ => .compare (op.signed negated) left.skeleton right.skeleton
  | negated, .isNull tested => .nullTest negated tested.skeleton
  | negated, .isNotNull tested => .nullTest (!negated) tested.skeleton
  | _, .truth tested => .compare .eq tested.skeleton (.bound .blank)
  | negated, .member _ [] => .signed negated .never
  | negated, .member item (_ :: elements) =>
    .signed negated (.member item.skeleton .blank
      (if whole then [] else elements.map fun _ => .blank))
  | negated, .not inner => inner.skeleton whole (!negated)
  | negated, .and left right =>
    .signed negated (.join .and (left.skeleton whole false) (right.skeleton whole false))
  | negated, .or left right =>
    .signed negated (.join .or (left.skeleton whole false) (right.skeleton whole false))

namespace Mapping

def columnOf (mapping : Mapping) (entity member : String) : String :=
  (mapping.resolve entity member).toOption.getD ""

variable {mapping : Mapping} {entity : String}

theorem Fills.recast_skeleton {peer : Option MemberPath} {operand : Operand} {slot : Slot}
    (fills : mapping.Fills entity peer operand slot) (rename : String → String) :
    slot.recast rename = operand.skeleton.recast (rename ∘ mapping.columnOf entity) := by
  cases fills with
  | field resolved => simp [Slot.recast, Operand.skeleton, columnOf, resolved, Except.toOption]
  | captured _ => rfl
  | constant _ => rfl

/-- A draft is the skeleton of its predicate up to names and values. -/
theorem Drafted.recast_skeleton {negated : Bool} {predicate : Predicate} {draft : Draft}
    (drafted : mapping.Drafted entity negated predicate draft) (rename : String → String)
    (whole : Bool) :
    draft.recast rename whole =
      (predicate.skeleton whole negated).recast (rename ∘ mapping.columnOf entity) whole := by
  induction drafted with
  | compare leftPresent rightPresent leftFills rightFills =>
    simp only [Predicate.skeleton, Operand.besideNull?, leftPresent, rightPresent, Draft.recast,
      leftFills.recast_skeleton rename, rightFills.recast_skeleton rename]
  | compareNull beside test fills =>
    simp only [Predicate.skeleton, beside, test, Draft.recast, fills.recast_skeleton rename]
  | isNull fills => exact congrArg (Draft.nullTest _) (fills.recast_skeleton rename)
  | isNotNull fills => exact congrArg (Draft.nullTest _) (fills.recast_skeleton rename)
  | truth _ fills _ => exact congrArg (Draft.compare .eq · _) (fills.recast_skeleton rename)
  | never _ _ _ => simp only [Predicate.skeleton, Draft.recast_signed, Draft.recast]
  | @member _ item slot _ _ elements others _ _ fills _ converted =>
    -- converting the elements keeps their number
    have size : (others.map fun _ => Value.blank) = elements.map fun _ => Value.blank := by
      simp only [List.map_const', (mapM_eq_ok.mp converted).length_eq]
    cases whole <;>
      simp [Predicate.skeleton, Draft.recast, fills.recast_skeleton rename, size]
  | not _ ih => exact ih
  | and _ _ leftIh rightIh =>
    simp only [Predicate.skeleton, Draft.recast_signed, Draft.recast, leftIh, rightIh]
  | or _ _ leftIh rightIh =>
    simp only [Predicate.skeleton, Draft.recast_signed, Draft.recast, leftIh, rightIh]

end Mapping

end WhereClause
