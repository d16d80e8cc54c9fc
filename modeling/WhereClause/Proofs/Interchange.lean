import WhereClause.Interchange
import WhereClause.Proofs.JsonText
import WhereClause.Proofs.ScalarText

/-! Values and predicates in interchange are read back.

Whatever holds no float, and no year beyond four digits, is taken from its compact JSON text again.
All of it is kept, types that do not fit their values and the places of decimals included; only a
zero loses its sign, which makes no difference to the numbers.
-/

set_option autoImplicit false

namespace WhereClause

namespace Json

theorem fieldsWithin_iff {depth : Nat} {fields : List (String × Json)} :
    fieldsWithin depth fields = true ↔ ∀ field ∈ fields, field.2.within depth = true := by
  induction fields with
  | nil => simp [fieldsWithin]
  | cons field fields ih => simp [fieldsWithin, ih]

theorem allWithin_iff {depth : Nat} {items : List Json} :
    allWithin depth items = true ↔ ∀ item ∈ items, item.within depth = true := by
  induction items with
  | nil => simp [allWithin]
  | cons item items ih => simp [allWithin, ih]

theorem within_object {depth : Nat} {fields : List (String × Json)}
    (fits : (Json.object fields).within depth = true) :
    ∃ inner, depth = inner + 1 ∧ ∀ field ∈ fields, field.2.within inner = true := by
  cases depth with
  | zero => simp [within] at fits
  | succ inner => exact ⟨inner, rfl, fieldsWithin_iff.mp (by simpa [within] using fits)⟩

theorem within_array {depth : Nat} {items : List Json}
    (fits : (Json.array items).within depth = true) :
    ∃ inner, depth = inner + 1 ∧ ∀ item ∈ items, item.within inner = true := by
  cases depth with
  | zero => simp [within] at fits
  | succ inner => exact ⟨inner, rfl, allWithin_iff.mp (by simpa [within] using fits)⟩

end Json

namespace Value

theorem within_variant {depth : Nat} {name : String} {content : Json}
    (fits : (variantJson name content).within depth = true) :
    ∃ inner, depth = inner + 1 ∧ content.within inner = true := by
  obtain ⟨inner, rfl, each⟩ := Json.within_object fits
  exact ⟨inner, rfl, each _ (List.mem_singleton_self _)⟩

/-- Values without floats whose years have four digits. -/
inductive Exchangeable : Value → Prop where
  | null (type : ValueType) : Exchangeable (.null type)
  | bool (value : Bool) : Exchangeable (.bool value)
  | int (value : Int32) : Exchangeable (.int value)
  | bigInt (value : Int64) : Exchangeable (.bigInt value)
  | decimal (value : Decimal) : Exchangeable (.decimal value)
  | string (value : String) : Exchangeable (.string value)
  | timestamp {time : Timestamp} : time.PlainYear → Exchangeable (.timestamp time)
  | uuid (value : Uuid) : Exchangeable (.uuid value)
  | list (type : ValueType) {items : List Value} : (∀ item ∈ items, Exchangeable item) →
      Exchangeable (.list type items)

mutual

/-- The same value, with no sign at a zero. -/
def settled : Value → Value
  | .decimal value => .decimal value.settled
  | .list type items => .list type (settledAll items)
  | value => value

def settledAll : List Value → List Value
  | [] => []
  | item :: rest => settled item :: settledAll rest

end

theorem toJsonAll_eq (items : List Value) : toJsonAll items = items.map toJson := by
  induction items with
  | nil => rfl
  | cons item items ih => rw [toJsonAll, ih, List.map_cons]

end Value

theorem ValueType.ofJson?_toJson (type : ValueType) : ofJson? type.toJson = some type := by
  cases type <;> rfl

theorem Comparison.ofJson?_toJson (op : Comparison) : ofJson? op.toJson = some op := by
  cases op <;> rfl

namespace Value

theorem int32OfJson?_ofInt (value : Int32) : int32OfJson? (.ofInt value.toInt) = some value := by
  have range : -Int.pow 2 31 ≤ value.toInt ∧ value.toInt < Int.pow 2 31 :=
    ⟨value.le_toInt, value.toInt_lt⟩
  simp only [int32OfJson?, Json.ofInt, Json.integer?, Option.bind_eq_bind, Option.bind_some, range,
    and_self, if_true, Int32.ofInt_toInt, Option.pure_def]

theorem int64OfJson?_ofInt (value : Int64) : int64OfJson? (.ofInt value.toInt) = some value := by
  have range : -Int.pow 2 63 ≤ value.toInt ∧ value.toInt < Int.pow 2 63 :=
    ⟨value.le_toInt, value.toInt_lt⟩
  simp only [int64OfJson?, Json.ofInt, Json.integer?, Option.bind_eq_bind, Option.bind_some, range,
    and_self, if_true, Int64.ofInt_toInt, Option.pure_def]

theorem decimalOfJson?_render (value : Decimal) :
    decimalOfJson? (.string value.render) = some value.settled := by
  rw [decimalOfJson?, Decimal.render, String.toList_ofList, value.read_settled]
  rfl

theorem ofJsonAll?_map {items : List Value}
    (each : ∀ item ∈ items, ofJson? item.toJson = some item.settled) :
    ofJsonAll? (toJsonAll items) = some (settledAll items) := by
  induction items with
  | nil => rfl
  | cons item items ih =>
    obtain ⟨here, each⟩ := List.forall_mem_cons.mp each
    simp [toJsonAll, ofJsonAll?, settledAll, here, ih each]

theorem Exchangeable.ofJson?_toJson {value : Value} (exchangeable : value.Exchangeable) :
    ofJson? value.toJson = some value.settled := by
  induction exchangeable with
  | null type => simp [toJson, variantJson, ofJson?, scalarOfJson?, ValueType.ofJson?_toJson, settled]
  | bool value => rfl
  | int value => simp [toJson, variantJson, ofJson?, scalarOfJson?, int32OfJson?_ofInt, settled]
  | bigInt value => simp [toJson, variantJson, ofJson?, scalarOfJson?, int64OfJson?_ofInt, settled]
  | decimal value => simp [toJson, variantJson, ofJson?, scalarOfJson?, decimalOfJson?_render, settled]
  | string value => rfl
  | @timestamp time plain =>
    simp [toJson, variantJson, ofJson?, scalarOfJson?, Json.string?, ClockTime.render,
      Timestamp.read?_chars plain, settled]
  | uuid value => simp [toJson, variantJson, ofJson?, scalarOfJson?, Json.string?, Uuid.read?_render, settled]
  | list type _ ih =>
    simp [toJson, variantJson, ofJson?, ValueType.ofJson?_toJson, ofJsonAll?_map ih, settled]

end Value

/-! Operands and predicates. -/

namespace Operand

def values (operand : Operand) : List Value := operand.boundValue?.toList

def settled : Operand → Operand
  | .constant value type => .constant value.settled type
  | .field path => .field path
  | .captured path value => .captured path value.settled

def agrees : Operand → Operand → Bool
  | .constant left leftType, .constant right rightType => left.agrees right && leftType == rightType
  | .field left, .field right => left == right
  | .captured leftPath left, .captured rightPath right => leftPath == rightPath && left.agrees right
  | _, _ => false

theorem pathOfJson?_strings (path : MemberPath) :
    pathOfJson? (.array (path.map .string)) = some path := by
  have segments : (path.map Json.string).mapM Json.string? = some path := by
    induction path with
    | nil => rfl
    | cons name path ih => simp [Json.string?, ih]
  simp [pathOfJson?, Json.items?, segments]

theorem ofJson?_toJson {operand : Operand} (each : ∀ value ∈ operand.values, value.Exchangeable)
    {depth : Nat} (fits : operand.toJson.within depth = true) :
    ofJson? depth operand.toJson = some operand.settled := by
  cases operand with
  | constant value type =>
    have read := (each value (by simp [values, boundValue?])).ofJson?_toJson
    obtain ⟨_, rfl, content⟩ := Value.within_variant fits
    obtain ⟨inner, rfl, parts⟩ := Json.within_object content
    have valueFits := parts ("value", value.toJson) (by simp)
    have typeFits := parts ("ty", type.toJson) (by simp)
    simp [toJson, Value.variantJson, ofJson?, Json.record?, valueFits, typeFits, read,
      ValueType.ofJson?_toJson, settled]
  | field path =>
    obtain ⟨_, rfl, content⟩ := Value.within_variant fits
    obtain ⟨inner, rfl, parts⟩ := Json.within_object content
    have pathFits := parts ("path", .array (path.map .string)) (by simp)
    have ownerFits := parts ("owner", .string "Entity") (by simp)
    simp [toJson, Value.variantJson, ofJson?, Json.record?, pathFits, ownerFits, pathOfJson?_strings,
      ownedPath?, Json.variant?, Json.emptyContent, settled]
  | captured path value =>
    have read := (each value (by simp [values, boundValue?])).ofJson?_toJson
    obtain ⟨_, rfl, content⟩ := Value.within_variant fits
    obtain ⟨inner, rfl, parts⟩ := Json.within_object content
    have pathFits := parts ("path", .array (path.map .string)) (by simp)
    have ownerFits := parts ("owner", Value.variantJson "Captured" value.toJson) (by simp)
    rw [Value.variantJson] at ownerFits
    simp [toJson, Value.variantJson, ofJson?, Json.record?, pathFits, ownerFits, pathOfJson?_strings,
      ownedPath?, Json.variant?, read, settled]

end Operand

namespace Predicate

def values : Predicate → List Value
  | .compare _ left right => left.values ++ right.values
  | .not inner => inner.values
  | .and left right => left.values ++ right.values
  | .or left right => left.values ++ right.values
  | .isNull operand => operand.values
  | .isNotNull operand => operand.values
  | .member item collection => item.values ++ collection
  | .truth operand => operand.values

def settled : Predicate → Predicate
  | .compare op left right => .compare op left.settled right.settled
  | .not inner => .not inner.settled
  | .and left right => .and left.settled right.settled
  | .or left right => .or left.settled right.settled
  | .isNull operand => .isNull operand.settled
  | .isNotNull operand => .isNotNull operand.settled
  | .member item collection => .member item.settled (Value.settledAll collection)
  | .truth operand => .truth operand.settled

def agrees : Predicate → Predicate → Bool
  | .compare op left right, .compare op' left' right' =>
    op == op' && left.agrees left' && right.agrees right'
  | .not inner, .not inner' => inner.agrees inner'
  | .and left right, .and left' right' => left.agrees left' && right.agrees right'
  | .or left right, .or left' right' => left.agrees left' && right.agrees right'
  | .isNull operand, .isNull operand' => operand.agrees operand'
  | .isNotNull operand, .isNotNull operand' => operand.agrees operand'
  | .member item collection, .member item' collection' =>
    item.agrees item' && Value.agreesAll collection collection'
  | .truth operand, .truth operand' => operand.agrees operand'
  | _, _ => false

theorem ofJson?_toJson {predicate : Predicate}
    (each : ∀ value ∈ predicate.values, value.Exchangeable) {depth : Nat}
    (fits : predicate.toJson.within depth = true) :
    ofJson? depth predicate.toJson = some predicate.settled := by
  -- Each variant uses up one level of the depth, and its fields or items another one.
  induction predicate generalizing depth with
  | compare op left right =>
    obtain ⟨leftEach, rightEach⟩ := List.forall_mem_append.mp each
    obtain ⟨_, rfl, content⟩ := Value.within_variant fits
    obtain ⟨inner, rfl, parts⟩ := Json.within_object content
    have opFits := parts ("op", op.toJson) (by simp)
    have leftRead := Operand.ofJson?_toJson leftEach (parts ("left", left.toJson) (by simp))
    have rightRead := Operand.ofJson?_toJson rightEach (parts ("right", right.toJson) (by simp))
    simp [toJson, Value.variantJson, ofJson?, leafOfJson?, Json.record?, opFits, leftRead, rightRead,
      Comparison.ofJson?_toJson, settled]
  | not inner ih =>
    obtain ⟨_, rfl, content⟩ := Value.within_variant fits
    simp [toJson, Value.variantJson, ofJson?, ih each content, settled]
  | and left right leftIh rightIh =>
    obtain ⟨leftEach, rightEach⟩ := List.forall_mem_append.mp each
    obtain ⟨_, rfl, content⟩ := Value.within_variant fits
    obtain ⟨inner, rfl, parts⟩ := Json.within_array content
    have leftRead := leftIh leftEach (parts left.toJson (by simp))
    have rightRead := rightIh rightEach (parts right.toJson (by simp))
    simp [toJson, Value.variantJson, ofJson?, leftRead, rightRead, settled]
  | or left right leftIh rightIh =>
    obtain ⟨leftEach, rightEach⟩ := List.forall_mem_append.mp each
    obtain ⟨_, rfl, content⟩ := Value.within_variant fits
    obtain ⟨inner, rfl, parts⟩ := Json.within_array content
    have leftRead := leftIh leftEach (parts left.toJson (by simp))
    have rightRead := rightIh rightEach (parts right.toJson (by simp))
    simp [toJson, Value.variantJson, ofJson?, leftRead, rightRead, settled]
  | isNull operand =>
    obtain ⟨_, rfl, content⟩ := Value.within_variant fits
    simp [toJson, Value.variantJson, ofJson?, leafOfJson?, Operand.ofJson?_toJson each content, settled]
  | isNotNull operand =>
    obtain ⟨_, rfl, content⟩ := Value.within_variant fits
    simp [toJson, Value.variantJson, ofJson?, leafOfJson?, Operand.ofJson?_toJson each content, settled]
  | member item collection =>
    obtain ⟨itemEach, itemsEach⟩ := List.forall_mem_append.mp each
    obtain ⟨_, rfl, content⟩ := Value.within_variant fits
    obtain ⟨inner, rfl, parts⟩ := Json.within_object content
    have itemRead := Operand.ofJson?_toJson itemEach (parts ("item", item.toJson) (by simp))
    have itemsFit := parts ("collection", .array (Value.toJsonAll collection)) (by simp)
    have itemsRead := Value.ofJsonAll?_map fun value member => (itemsEach value member).ofJson?_toJson
    simp [toJson, Value.variantJson, ofJson?, leafOfJson?, Json.record?, itemRead, itemsFit, itemsRead,
      Json.items?, settled]
  | truth operand =>
    obtain ⟨_, rfl, content⟩ := Value.within_variant fits
    simp [toJson, Value.variantJson, ofJson?, leafOfJson?, Operand.ofJson?_toJson each content, settled]

end Predicate

/-! Trees that are written. -/

theorem Value.plain_variant (name : String) {content : Json} (plain : content.Plain) :
    (variantJson name content).Plain := by
  refine .object fun field member => ?_
  rw [List.mem_singleton.mp member]
  exact plain

theorem Value.Exchangeable.plain {value : Value} (exchangeable : value.Exchangeable) :
    value.toJson.Plain := by
  induction exchangeable with
  | null type => exact plain_variant _ (.string _)
  | bool value => exact plain_variant _ (.bool _)
  | int value =>
    have least : -Int.pow 2 63 ≤ value.toInt := Int.le_trans (by decide) value.le_toInt
    have most : value.toInt < Int.pow 2 64 := Int.lt_trans value.toInt_lt (by decide)
    exact plain_variant _ (.integer least most)
  | bigInt value =>
    have most : value.toInt < Int.pow 2 64 := Int.lt_trans value.toInt_lt (by decide)
    exact plain_variant _ (.integer value.le_toInt most)
  | decimal value => exact plain_variant _ (.string _)
  | string value => exact plain_variant _ (.string _)
  | timestamp _ => exact plain_variant _ (.string _)
  | uuid value => exact plain_variant _ (.string _)
  | @list type items _ ih =>
    refine plain_variant _ (.array ?_)
    simp only [List.forall_mem_cons, toJsonAll_eq]
    refine ⟨.string _, .array ?_, by simp⟩
    simpa using ih

theorem Decimal.sameNumber_settled (number : Decimal) : number.sameNumber number.settled = true := by
  by_cases zero : number.mantissa = 0
  · simp [sameNumber, settled, zero]
  · simp [sameNumber, settled, zero]

theorem Value.agreesAll_settled {items : List Value}
    (each : ∀ item ∈ items, item.agrees item.settled = true) :
    agreesAll items (settledAll items) = true := by
  induction items with
  | nil => rfl
  | cons item items ih =>
    obtain ⟨here, each⟩ := List.forall_mem_cons.mp each
    simp [settledAll, agreesAll, here, ih each]

theorem Value.Exchangeable.agrees_settled {value : Value} (exchangeable : value.Exchangeable) :
    value.agrees value.settled = true := by
  induction exchangeable with
  | null type => simp [settled, agrees]
  | bool value => simp [settled, agrees]
  | int value => simp [settled, agrees]
  | bigInt value => simp [settled, agrees]
  | decimal value => simp [settled, agrees, value.sameNumber_settled]
  | string value => simp [settled, agrees]
  | timestamp _ => simp [settled, agrees]
  | uuid value => simp [settled, agrees]
  | list type _ ih => simp [settled, agrees, agreesAll_settled ih]

theorem Operand.agrees_settled {operand : Operand}
    (each : ∀ value ∈ operand.values, value.Exchangeable) :
    operand.agrees operand.settled = true := by
  cases operand with
  | constant value type =>
    have agree := (each value (by simp [values, boundValue?])).agrees_settled
    simp [settled, agrees, agree]
  | field path => simp [settled, agrees]
  | captured path value =>
    have agree := (each value (by simp [values, boundValue?])).agrees_settled
    simp [settled, agrees, agree]

theorem Predicate.agrees_settled {predicate : Predicate}
    (each : ∀ value ∈ predicate.values, value.Exchangeable) :
    predicate.agrees predicate.settled = true := by
  induction predicate with
  | compare op left right =>
    obtain ⟨leftEach, rightEach⟩ := List.forall_mem_append.mp each
    simp [settled, agrees, Operand.agrees_settled leftEach, Operand.agrees_settled rightEach]
  | not inner ih => simp [settled, agrees, ih each]
  | and left right leftIh rightIh =>
    obtain ⟨leftEach, rightEach⟩ := List.forall_mem_append.mp each
    simp [settled, agrees, leftIh leftEach, rightIh rightEach]
  | or left right leftIh rightIh =>
    obtain ⟨leftEach, rightEach⟩ := List.forall_mem_append.mp each
    simp [settled, agrees, leftIh leftEach, rightIh rightEach]
  | isNull operand => simp [settled, agrees, Operand.agrees_settled each]
  | isNotNull operand => simp [settled, agrees, Operand.agrees_settled each]
  | member item collection =>
    obtain ⟨itemEach, itemsEach⟩ := List.forall_mem_append.mp each
    have items := Value.agreesAll_settled fun value member => (itemsEach value member).agrees_settled
    simp [settled, agrees, Operand.agrees_settled itemEach, items]
  | truth operand => simp [settled, agrees, Operand.agrees_settled each]

end WhereClause
