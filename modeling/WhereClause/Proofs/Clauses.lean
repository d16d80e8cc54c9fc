import WhereClause.Mapping
import WhereClause.Proofs.Success

/-! Predicates before their values are numbered.

A clause keeps the values that it binds where they stand in the text, so that it can be taken
apart and put together without a list of parameters. Compiling a predicate behind any parameters
gives the chunks of its clause with the values numbered on from there, and appends exactly these
values; it fails where the clause does.
-/

set_option autoImplicit false

namespace WhereClause

inductive Piece where
  | text (content : String)
  | bound (value : Value)

structure Clause where
  pieces : List Piece
  shape : Shape

namespace Clause

def atom (pieces : List Piece) : Clause := { pieces, shape := .atom }

def grouped (clause : Clause) (parent : Shape) : List Piece :=
  if clause.shape = .atom || clause.shape = parent then clause.pieces
  else .text "(" :: clause.pieces ++ [.text ")"]

def join (word : Word) (left right : Clause) : Clause where
  pieces := left.grouped word.shape ++ .text (" " ++ word.sql ++ " ") :: right.grouped word.shape
  shape := word.shape

def negated (clause : Clause) : Clause :=
  atom (.text "NOT (" :: clause.pieces ++ [.text ")"])

def chunksFrom : (next : Nat) → List Piece → List Chunk
  | _, [] => []
  | next, .text content :: rest => .text content :: chunksFrom next rest
  | next, .bound _ :: rest => .param next :: chunksFrom (next + 1) rest

def boundValues (pieces : List Piece) : List Value :=
  pieces.filterMap fun piece =>
    match piece with
    | .text _ => none
    | .bound value => some value

def condition (clause : Clause) : Condition where
  chunks := chunksFrom 0 clause.pieces
  params := boundValues clause.pieces
  shape := clause.shape

@[simp] theorem boundValues_nil : boundValues [] = [] := rfl

@[simp] theorem boundValues_text (content : String) (rest : List Piece) :
    boundValues (.text content :: rest) = boundValues rest := rfl

@[simp] theorem boundValues_bound (value : Value) (rest : List Piece) :
    boundValues (.bound value :: rest) = value :: boundValues rest := rfl

@[simp] theorem boundValues_append (first rest : List Piece) :
    boundValues (first ++ rest) = boundValues first ++ boundValues rest :=
  List.filterMap_append

theorem chunksFrom_append (next : Nat) (first rest : List Piece) :
    chunksFrom next (first ++ rest) =
      chunksFrom next first ++ chunksFrom (next + (boundValues first).length) rest := by
  induction first generalizing next with
  | nil => simp [chunksFrom]
  | cons piece first ih =>
    cases piece with
    | text content => simp [chunksFrom, ih]
    | bound value => simp [chunksFrom, ih, Nat.add_assoc, Nat.add_comm 1]

end Clause

namespace Mapping

variable (mapping : Mapping) (entity : String)

def operand (peer : Option MemberPath) : Operand → Except Error Piece
  | .field path => return .text (← mapping.column entity path)
  | .captured _ value => return .bound (← mapping.convert entity peer value)
  | .constant value _ => return .bound (← mapping.convert entity peer value)

def nullTest (present : Bool) (tested : Operand) : Except Error Clause := do
  let piece ← mapping.operand entity none tested
  return .atom [piece, .text (if present then " IS NOT NULL" else " IS NULL")]

def nullComparison (op : Comparison) (other : Operand) : Except Error Clause :=
  match op with
  | .eq => mapping.nullTest entity false other
  | .ne => mapping.nullTest entity true other
  | _ => .error (.unsupported (.orderedNull op))

def compare (op : Comparison) (left right : Operand) : Except Error Clause :=
  match left.isNullLiteral, right.isNullLiteral with
  | true, true => .error (.unsupported .bothNull)
  | false, true => mapping.nullComparison entity op left
  | true, false => mapping.nullComparison entity op right
  | false, false => do
    let leftPiece ← mapping.operand entity right.entityPath? left
    let rightPiece ← mapping.operand entity left.entityPath? right
    return .atom [leftPiece, .text (" " ++ op.sql ++ " "), rightPiece]

def truth (expected : Bool) (tested : Operand) : Except Error Clause := do
  match tested.boundValue? with
  | some value =>
    if value.type ≠ .bool then throw (.unsupported (.notBoolean tested.render))
  | none => pure ()
  let piece ← mapping.operand entity none tested
  let wanted ← mapping.convert entity tested.entityPath? (.bool expected)
  return .atom [piece, .text " = ", .bound wanted]

def listPieces : List Value → List Piece
  | [] => []
  | [value] => [.bound value]
  | value :: next :: rest => .bound value :: .text ", " :: listPieces (next :: rest)

def collectionPieces (form : Option (String × String)) (values : List Value) : List Piece :=
  match form with
  | none => .text " IN (" :: listPieces values ++ [.text ")"]
  | some (between, after) => [.text between, .bound (Value.ofItems values), .text after]

def member (item : Operand) (collection : List Value) : Except Error Clause := do
  if let .constant value _ := item then
    throw (.unsupported (.constantItem value.render))
  let form ← mapping.membership.form mapping.style
  if collection.isEmpty then
    if let some path := item.entityPath? then
      let _ ← mapping.column entity path
    return .atom [.text alwaysFalse]
  else
    let piece ← mapping.operand entity none item
    let values ← collection.mapM (mapping.convert entity item.entityPath?)
    return .atom (piece :: collectionPieces form values)

def clause : (negated : Bool) → Predicate → Except Error Clause
  | negated, .compare op left right =>
    mapping.compare entity (if negated then op.negate else op) left right
  | negated, .not inner => clause (!negated) inner
  | negated, .isNull tested => mapping.nullTest entity negated tested
  | negated, .isNotNull tested => mapping.nullTest entity (!negated) tested
  | negated, .truth tested => mapping.truth entity (!negated) tested
  | negated, .member item collection => do
    let found ← mapping.member entity item collection
    return if negated then found.negated else found
  | negated, .and left right => do
    let left ← clause false left
    let right ← clause false right
    return if negated then (Clause.join .and left right).negated else Clause.join .and left right
  | negated, .or left right => do
    let left ← clause false left
    let right ← clause false right
    return if negated then (Clause.join .or left right).negated else Clause.join .or left right

end Mapping

/-! Compiling behind the parameters there are. -/

namespace Compiler

/-- The chunks of pieces that stand behind some parameters, and all parameters after them. -/
def numbered (params : Array Value) (pieces : List Piece) : List Chunk × Array Value :=
  (Clause.chunksFrom params.size pieces, params ++ (Clause.boundValues pieces).toArray)

def numberedClause (params : Array Value) (clause : Clause) : Fragment × Array Value :=
  ({ chunks := (numbered params clause.pieces).1, shape := clause.shape },
    (numbered params clause.pieces).2)

@[simp] theorem numbered_nil (params : Array Value) : numbered params [] = ([], params) := by
  simp [numbered, Clause.chunksFrom]

@[simp] theorem numbered_text (params : Array Value) (content : String) (rest : List Piece) :
    numbered params (.text content :: rest) =
      (.text content :: (numbered params rest).1, (numbered params rest).2) := rfl

@[simp] theorem numbered_bound (params : Array Value) (value : Value) (rest : List Piece) :
    numbered params (.bound value :: rest) =
      (.param params.size :: (numbered (params.push value) rest).1,
        (numbered (params.push value) rest).2) := by
  simp [numbered, Clause.chunksFrom]

/-- The pieces behind are numbered on from the values that the pieces in front bind. -/
@[simp] theorem numbered_append (params : Array Value) (first rest : List Piece) :
    numbered params (first ++ rest) =
      ((numbered params first).1 ++ (numbered (numbered params first).2 rest).1,
        (numbered (numbered params first).2 rest).2) := by
  simp [numbered, Clause.chunksFrom_append]

theorem numbered_cons (params : Array Value) (piece : Piece) (rest : List Piece) :
    numbered params (piece :: rest) =
      ((numbered params [piece]).1 ++ (numbered (numbered params [piece]).2 rest).1,
        (numbered (numbered params [piece]).2 rest).2) :=
  numbered_append params [piece] rest

@[simp] theorem numberedClause_atom (params : Array Value) (pieces : List Piece) :
    numberedClause params (.atom pieces) =
      (.atom (numbered params pieces).1, (numbered params pieces).2) := rfl

theorem numberedClause_negated (params : Array Value) (clause : Clause) :
    numberedClause params clause.negated =
      ((numberedClause params clause).1.negated, (numberedClause params clause).2) := by
  rw [Clause.negated, numberedClause_atom]
  simp [Fragment.negated, numberedClause]

theorem numbered_grouped (params : Array Value) (clause : Clause) (parent : Shape) :
    numbered params (clause.grouped parent) =
      ((numberedClause params clause).1.grouped parent, (numberedClause params clause).2) := by
  have shape : (numberedClause params clause).1.shape = clause.shape := rfl
  unfold Clause.grouped Fragment.grouped
  rw [shape]
  split
  · rfl
  · simp [numberedClause]

theorem numberedClause_join (params : Array Value) (word : Word) (left right : Clause) :
    numberedClause params (.join word left right) =
      (.join word (numberedClause params left).1
          (numberedClause (numberedClause params left).2 right).1,
        (numberedClause (numberedClause params left).2 right).2) := by
  simp [numberedClause, Clause.join, Fragment.join, numbered_grouped]

theorem push_run (params : Array Value) (value : Value) :
    (push value).run params = pure (.param params.size, params.push value) := by
  simp [push, modifyGet, MonadStateOf.modifyGet, StateT.modifyGet, StateT.run]

theorem pushAll_run (values : List Value) (params : Array Value) :
    (pushAll values).run params = pure (numbered params (Mapping.listPieces values)) := by
  induction values generalizing params with
  | nil => simp [pushAll, Mapping.listPieces]
  | cons value rest ih =>
    cases rest with
    | nil => simp [pushAll, Mapping.listPieces, push_run]
    | cons next rest => simp [pushAll, Mapping.listPieces, push_run, ih]

theorem lower_run (form : Option (String × String)) (item : List Chunk) (values : List Value)
    (params : Array Value) :
    (lower form item values).run params =
      pure (item ++ (numbered params (Mapping.collectionPieces form values)).1,
        (numbered params (Mapping.collectionPieces form values)).2) := by
  cases form with
  | none => simp [lower, Mapping.collectionPieces, pushAll_run]
  | some form => simp [lower, Mapping.collectionPieces, push_run]

variable (mapping : Mapping) (entity : String)

theorem bind_run (peer : Option MemberPath) (value : Value) (params : Array Value) :
    (bind mapping entity peer value).run params =
      (fun value => (.param params.size, params.push value)) <$> mapping.convert entity peer value := by
  simp [bind, push_run]

theorem operand_run (peer : Option MemberPath) (operand : Operand) (params : Array Value) :
    (Compiler.operand mapping entity peer operand).run params =
      (numbered params [·]) <$> mapping.operand entity peer operand := by
  cases operand with
  | field path => simp [Compiler.operand, Mapping.operand]
  | captured path value => simp [Compiler.operand, Mapping.operand, bind_run]
  | constant value type => simp [Compiler.operand, Mapping.operand, bind_run]

theorem nullTest_run (present : Bool) (tested : Operand) (params : Array Value) :
    (nullTest mapping entity present tested).run params =
      numberedClause params <$> mapping.nullTest entity present tested := by
  simp [nullTest, Mapping.nullTest, operand_run, numbered_cons params _ [_]]

theorem nullComparison_run (op : Comparison) (other : Operand) (params : Array Value) :
    (nullComparison mapping entity op other).run params =
      numberedClause params <$> mapping.nullComparison entity op other := by
  cases op with
  | eq => exact nullTest_run mapping entity false other params
  | ne => exact nullTest_run mapping entity true other params
  | lt | le | gt | ge => rfl

theorem compare_run (op : Comparison) (left right : Operand) (params : Array Value) :
    (compare mapping entity op left right).run params =
      numberedClause params <$> mapping.compare entity op left right := by
  unfold compare Mapping.compare
  cases left.isNullLiteral <;> cases right.isNullLiteral
  · simp [operand_run, numbered_cons params _ [_, _]]
  · exact nullComparison_run mapping entity op left params
  · exact nullComparison_run mapping entity op right params
  · rfl

theorem truth_run (expected : Bool) (tested : Operand) (params : Array Value) :
    (truth mapping entity expected tested).run params =
      numberedClause params <$> mapping.truth entity expected tested := by
  unfold truth Mapping.truth
  cases tested.boundValue? with
  | none => simp [operand_run, bind_run, numbered_cons params _ [_, _]]
  | some value =>
    by_cases boolean : value.type = .bool
    · simp [boolean, operand_run, bind_run, numbered_cons params _ [_, _]]
    · simp only [ne_eq, boolean, not_false_eq_true, if_true]
      rfl

theorem member_run (item : Operand) (collection : List Value) (params : Array Value) :
    (member mapping entity item collection).run params =
      numberedClause params <$> mapping.member entity item collection := by
  cases item with
  | constant value type => rfl
  | field path =>
    cases collection with
    | nil => simp [member, Mapping.member, Operand.entityPath?]
    | cons first rest =>
      simp [member, Mapping.member, operand_run, lower_run, Mapping.convertAll,
        numbered_cons params _ (Mapping.collectionPieces _ _)]
  | captured path value =>
    cases collection with
    | nil => simp [member, Mapping.member, Operand.entityPath?]
    | cons first rest =>
      simp [member, Mapping.member, operand_run, lower_run, Mapping.convertAll,
        numbered_cons params _ (Mapping.collectionPieces _ _)]

/-- Both sides of a connective, the right one behind the parameters of the left one. -/
theorem join_run (word : Word) (negated : Bool) {left right : Compiler Fragment}
    {leftClause rightClause : Except Error Clause}
    (leftRun : ∀ params, left.run params = numberedClause params <$> leftClause)
    (rightRun : ∀ params, right.run params = numberedClause params <$> rightClause)
    (params : Array Value) :
    (do
      let left ← left
      let right ← right
      return if negated then (Fragment.join word left right).negated
        else Fragment.join word left right : Compiler Fragment).run params =
      numberedClause params <$> (do
        let left ← leftClause
        let right ← rightClause
        return if negated then (Clause.join word left right).negated
          else Clause.join word left right) := by
  cases negated with
  | false => simp [leftRun, rightRun, numberedClause_join]
  | true => simp [leftRun, rightRun, numberedClause_join, numberedClause_negated]

/-- Behind any parameters, a predicate is compiled to its clause, numbered on from there, and its
values are appended in the order of their numbers. -/
theorem predicate_run (negated : Bool) (predicate : Predicate) (params : Array Value) :
    (Compiler.predicate mapping entity negated predicate).run params =
      numberedClause params <$> mapping.clause entity negated predicate := by
  -- on the predicate, behind any parameters: the right side of a connective starts where the left
  -- one ended
  induction predicate generalizing negated params with
  | compare op left right => exact compare_run mapping entity _ left right params
  | not inner ih => exact ih (!negated) params
  | isNull tested => exact nullTest_run mapping entity negated tested params
  | isNotNull tested => exact nullTest_run mapping entity (!negated) tested params
  | truth tested => exact truth_run mapping entity (!negated) tested params
  | member item collection =>
    cases negated with
    | false => simp [Compiler.predicate, Mapping.clause, member_run]
    | true => simp [Compiler.predicate, Mapping.clause, member_run, numberedClause_negated]
  | and left right leftIh rightIh =>
    exact join_run .and negated (leftIh false) (rightIh false) params
  | or left right leftIh rightIh =>
    exact join_run .or negated (leftIh false) (rightIh false) params

end Compiler

/-- Compiling a predicate is numbering its clause. -/
theorem Mapping.condition_eq (mapping : Mapping) (entity : String) (predicate : Predicate) :
    mapping.condition entity predicate = do
      return (← mapping.clause entity false predicate).condition := by
  rw [condition, Compiler.predicate_run]
  cases mapping.clause entity false predicate with
  | error issue => rfl
  | ok clause => simp [Compiler.numberedClause, Compiler.numbered, Clause.condition]

theorem Mapping.condition_eq_ok {mapping : Mapping} {entity : String} {predicate : Predicate}
    {condition : Condition} :
    mapping.condition entity predicate = .ok condition ↔
      ∃ clause, mapping.clause entity false predicate = .ok clause ∧
        clause.condition = condition := by
  rw [condition_eq, bind_eq_ok]
  simp only [pure_eq_ok]

end WhereClause
