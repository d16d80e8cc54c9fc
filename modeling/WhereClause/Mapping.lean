import WhereClause.Schema
import WhereClause.Condition

/-! Predicates to conditions.

A predicate is compiled from left to right. Each value that is bound goes to the end of the
list of parameters, and its place in that list is put where it stands in the text. Negation
is carried inward: it flips comparisons and null tests and exchanges true and false, and only
conjunctions, disjunctions and membership tests are put behind `NOT`.
-/

set_option autoImplicit false

namespace WhereClause

/-- What a condition depends on: the dialect's spellings, the columns of members, the
converters of members if they are used, and how collections are bound. -/
structure Mapping where
  style : SqlStyle
  resolve : (entity member : String) → Except Error String
  converters : Option ((entity member : String) → Option Converter) := none
  membership : Strategy := .expand

namespace Mapping

def identity (style : SqlStyle) : Mapping where
  style
  resolve _ member := .ok member

def ofSchema (style : SqlStyle) (schema : Schema) : Mapping where
  style
  resolve := schema.resolveColumn
  converters := some schema.converterFor

def column (mapping : Mapping) (entity : String) (path : MemberPath) :
    Except Error String :=
  match MemberPath.single? path with
  | none => .error (.unsupported (.nestedPath (MemberPath.dotted path)))
  | some member => do
    return mapping.style.quote (← mapping.resolve entity member)

/-- The converter of the member that a value stands opposite to. -/
def peerConverter (mapping : Mapping) (entity : String) (peer : Option MemberPath) :
    Option (String × Converter) := do
  let lookup ← mapping.converters
  let member ← MemberPath.single? (← peer)
  return (member, ← lookup entity member)

def convert (mapping : Mapping) (entity : String) (peer : Option MemberPath)
    (value : Value) : Except Error Value :=
  match mapping.peerConverter entity peer with
  | none => .ok value
  | some (member, converter) =>
    match converter.convert value with
    | .ok converted => .ok converted
    | .error reason => .error (.conversion converter.name entity member value.render reason)

def convertAll (mapping : Mapping) (entity : String) (peer : Option MemberPath)
    (values : List Value) : Except Error (List Value) :=
  values.mapM (mapping.convert entity peer)

def alwaysFalse : String := "1 = 0"

end Mapping

/-- A condition whose parameters are still in the compiler's list. -/
structure Fragment where
  chunks : List Chunk
  shape : Shape

namespace Fragment

def atom (chunks : List Chunk) : Fragment := { chunks, shape := .atom }

def grouped (fragment : Fragment) (parent : Shape) : List Chunk :=
  if fragment.shape = .atom || fragment.shape = parent then fragment.chunks
  else .text "(" :: fragment.chunks ++ [.text ")"]

def join (word : Word) (left right : Fragment) : Fragment where
  chunks := left.grouped word.shape ++ .text (" " ++ word.sql ++ " ") :: right.grouped word.shape
  shape := word.shape

def negated (fragment : Fragment) : Fragment :=
  atom (.text "NOT (" :: fragment.chunks ++ [.text ")"])

end Fragment

abbrev Compiler (α : Type) := StateT (Array Value) (Except Error) α

namespace Compiler

/-- Put a value behind the parameters there are; the chunk carries its place. -/
def push (value : Value) : Compiler Chunk :=
  modifyGet fun params =>
    let params := params.push value
    (.param (params.size - 1), params)

variable (mapping : Mapping) (entity : String)

def bind (peer : Option MemberPath) (value : Value) : Compiler Chunk := do
  push (← mapping.convert entity peer value)

def operand (peer : Option MemberPath) : Operand → Compiler (List Chunk)
  | .field path => return [.text (← mapping.column entity path)]
  | .captured _ value => return [← bind mapping entity peer value]
  | .constant value _ => return [← bind mapping entity peer value]

def nullTest (present : Bool) (tested : Operand) : Compiler Fragment := do
  let chunks ← operand mapping entity none tested
  return .atom (chunks ++ [.text (if present then " IS NOT NULL" else " IS NULL")])

/-- Comparing with the null literal is a null test; it has no order. -/
def nullComparison (op : Comparison) (other : Operand) : Compiler Fragment :=
  match op with
  | .eq => nullTest mapping entity false other
  | .ne => nullTest mapping entity true other
  | _ => throw (.unsupported (.orderedNull op))

def compare (op : Comparison) (left right : Operand) : Compiler Fragment :=
  match left.isNullLiteral, right.isNullLiteral with
  | true, true => throw (.unsupported .bothNull)
  | false, true => nullComparison mapping entity op left
  | true, false => nullComparison mapping entity op right
  | false, false => do
    let leftChunks ← operand mapping entity right.entityPath? left
    let rightChunks ← operand mapping entity left.entityPath? right
    return .atom (leftChunks ++ .text (" " ++ op.sql ++ " ") :: rightChunks)

def truth (expected : Bool) (tested : Operand) : Compiler Fragment := do
  match tested.boundValue? with
  | some value =>
    if value.type ≠ .bool then throw (.unsupported (.notBoolean tested.render))
  | none => pure ()
  let chunks ← operand mapping entity none tested
  let wanted ← bind mapping entity tested.entityPath? (.bool expected)
  return .atom (chunks ++ [.text " = ", wanted])

def pushAll : List Value → Compiler (List Chunk)
  | [] => return []
  | [value] => return [← push value]
  | value :: next :: rest => do
    let chunk ← push value
    return chunk :: .text ", " :: (← pushAll (next :: rest))

def lower (form : Option (String × String)) (item : List Chunk) (values : List Value) :
    Compiler (List Chunk) :=
  match form with
  | none => return item ++ .text " IN (" :: (← pushAll values) ++ [.text ")"]
  | some (between, after) =>
    return item ++ [.text between, ← push (Value.ofItems values), .text after]

/-- Membership of a member or variable. Nothing is in an empty collection, but the
member must still have a column. -/
def member (item : Operand) (collection : List Value) : Compiler Fragment := do
  if let .constant value _ := item then
    throw (.unsupported (.constantItem value.render))
  let form ← mapping.membership.form mapping.style
  if collection.isEmpty then
    if let some path := item.entityPath? then
      let _ ← mapping.column entity path
    return .atom [.text Mapping.alwaysFalse]
  else
    let chunks ← operand mapping entity none item
    let values ← mapping.convertAll entity item.entityPath? collection
    return .atom (← lower form chunks values)

def predicate : (negated : Bool) → Predicate → Compiler Fragment
  | negated, .compare op left right =>
    compare mapping entity (if negated then op.negate else op) left right
  | negated, .not inner => predicate (!negated) inner
  | negated, .isNull tested => nullTest mapping entity negated tested
  | negated, .isNotNull tested => nullTest mapping entity (!negated) tested
  | negated, .truth tested => truth mapping entity (!negated) tested
  | negated, .member item collection => do
    let found ← member mapping entity item collection
    return if negated then found.negated else found
  | negated, .and left right => do
    let left ← predicate false left
    let right ← predicate false right
    return if negated then (Fragment.join .and left right).negated else Fragment.join .and left right
  | negated, .or left right => do
    let left ← predicate false left
    let right ← predicate false right
    return if negated then (Fragment.join .or left right).negated else Fragment.join .or left right

end Compiler

namespace Mapping

def condition (mapping : Mapping) (entity : String) (predicate : Predicate) :
    Except Error Condition := do
  let (fragment, params) ← (Compiler.predicate mapping entity false predicate).run #[]
  return { chunks := fragment.chunks, params := params.toList, shape := fragment.shape }

def conditionAll (mapping : Mapping) (entity : String) (word : Word)
    (predicates : List Predicate) : Except Error Condition := do
  let parts ← predicates.mapM (mapping.condition entity)
  Condition.combine word parts

end Mapping

end WhereClause
