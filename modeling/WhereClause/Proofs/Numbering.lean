import WhereClause.Proofs.Clauses

/-! Numbers of parameters.

Whatever compiling and combining give, in any nesting, is the numbering of one clause: its
pieces from left to right, with the bound values counted from zero. The placeholders
therefore carry the places of the parameters in order, each once.
-/

set_option autoImplicit false

namespace WhereClause

namespace Clause

/-- Numbering behind `offset` other parameters is numbering and then renumbering. -/
theorem chunksFrom_shift (offset next : Nat) (pieces : List Piece) :
    (chunksFrom next pieces).map (Condition.shiftChunk offset) =
      chunksFrom (next + offset) pieces := by
  induction pieces generalizing next with
  | nil => rfl
  | cons piece pieces ih =>
    cases piece with
    | text content => simp [chunksFrom, Condition.shiftChunk, ih]
    | bound value => simp [chunksFrom, Condition.shiftChunk, ih, Nat.add_right_comm next 1 offset]

def enclosed (clause : Clause) : List Piece := .text "(" :: clause.pieces ++ [.text ")"]

def joinPieces (separator : String) : List Clause → List Piece
  | [] => []
  | [part] => part.enclosed
  | part :: next :: rest => part.enclosed ++ .text separator :: joinPieces separator (next :: rest)

def combined (word : Word) : List Clause → Clause
  | [part] => part
  | parts => { pieces := joinPieces (" " ++ word.sql ++ " ") parts, shape := word.shape }

theorem grouped_condition (offset : Nat) (clause : Clause) :
    Condition.grouped offset clause.condition = chunksFrom offset clause.enclosed := by
  simp [Condition.grouped, condition, enclosed, chunksFrom, chunksFrom_append, chunksFrom_shift]

@[simp] theorem boundValues_enclosed (clause : Clause) :
    boundValues clause.enclosed = boundValues clause.pieces := by
  simp [enclosed]

theorem joinChunks_conditions (separator : String) (offset : Nat) (clauses : List Clause) :
    Condition.joinChunks separator offset (clauses.map condition) =
      chunksFrom offset (joinPieces separator clauses) := by
  induction clauses generalizing offset with
  | nil => rfl
  | cons part rest ih =>
    cases rest with
    | nil => exact grouped_condition offset part
    | cons next rest =>
      -- the parts behind are renumbered by as many values as this one binds
      have behind := ih (offset + (boundValues part.pieces).length)
      simp only [List.map_cons] at behind ⊢
      simp only [Condition.joinChunks, joinPieces, chunksFrom_append, grouped_condition,
        chunksFrom, boundValues_enclosed]
      exact congrArg (fun chunks => _ ++ Chunk.text separator :: chunks) behind

theorem flatMap_params_conditions (separator : String) (clauses : List Clause) :
    (clauses.map condition).flatMap Condition.params =
      boundValues (joinPieces separator clauses) := by
  induction clauses with
  | nil => rfl
  | cons part rest ih =>
    cases rest with
    | nil => simp [joinPieces, condition]
    | cons next rest =>
      simp only [List.map_cons, List.flatMap_cons] at ih ⊢
      simp [joinPieces, condition, ← ih]

end Clause

namespace Condition

/-- Combining conditions that number clauses numbers a clause again. -/
theorem combine_conditions {word : Word} {clauses : List Clause} {condition : Condition}
    (combined : combine word (clauses.map Clause.condition) = .ok condition) :
    (Clause.combined word clauses).condition = condition := by
  match clauses with
  | [] => simp [combine] at combined
  | [part] => exact Except.ok.inj combined
  | part :: next :: rest =>
    let separator := " " ++ word.sql ++ " "
    have chunks := Clause.joinChunks_conditions separator 0 (part :: next :: rest)
    have params := Clause.flatMap_params_conditions separator (part :: next :: rest)
    rw [← Except.ok.inj combined, Clause.combined, Clause.condition, ← chunks, ← params]
    · rfl
    · intro part single
      cases single

/-- Conditions that compiling and combining can give, in any nesting and with any mappings. -/
inductive Obtainable : Condition → Prop where
  | compiled {mapping : Mapping} {entity : String} {predicate : Predicate} {condition : Condition} :
      mapping.condition entity predicate = .ok condition → Obtainable condition
  | compiledAll {mapping : Mapping} {entity : String} {word : Word} {predicates : List Predicate}
      {condition : Condition} :
      mapping.conditionAll entity word predicates = .ok condition → Obtainable condition
  | combined {word : Word} {parts : List Condition} {condition : Condition} :
      (∀ part ∈ parts, Obtainable part) → combine word parts = .ok condition →
      Obtainable condition

end Condition

theorem Mapping.condition_numbers {mapping : Mapping} {entity : String} {predicate : Predicate}
    {condition : Condition} (compiled : mapping.condition entity predicate = .ok condition) :
    ∃ clause : Clause, clause.condition = condition := by
  obtain ⟨clause, _, same⟩ := condition_eq_ok.mp compiled
  exact ⟨clause, same⟩

namespace Condition

theorem exists_clauses {parts : List Condition}
    (numbered : ∀ part ∈ parts, ∃ clause : Clause, clause.condition = part) :
    ∃ clauses : List Clause, clauses.map Clause.condition = parts := by
  induction parts with
  | nil => exact ⟨[], rfl⟩
  | cons part parts ih =>
    obtain ⟨clause, same⟩ := numbered part (by simp)
    obtain ⟨clauses, rest⟩ := ih fun other member => numbered other (by simp [member])
    exact ⟨clause :: clauses, by simp [same, rest]⟩

theorem Obtainable.numbers {condition : Condition} (obtained : Obtainable condition) :
    ∃ clause : Clause, clause.condition = condition := by
  -- on how the condition was obtained: combining keeps what compiling establishes
  induction obtained with
  | compiled compiled => exact Mapping.condition_numbers compiled
  | compiledAll compiled =>
    obtain ⟨parts, partsCompiled, combined⟩ := bind_eq_ok.mp compiled
    have numbered : ∀ part ∈ parts, ∃ clause : Clause, clause.condition = part := by
      intro part member
      obtain ⟨predicate, _, partCompiled⟩ := mapM_mem partsCompiled member
      exact Mapping.condition_numbers partCompiled
    obtain ⟨clauses, rfl⟩ := exists_clauses numbered
    exact ⟨_, combine_conditions combined⟩
  | combined _ combined ih =>
    obtain ⟨clauses, rfl⟩ := exists_clauses ih
    exact ⟨_, combine_conditions combined⟩

end Condition

def Chunk.index? : Chunk → Option Nat
  | .text _ => none
  | .param index => some index

namespace Condition

def placeholders (condition : Condition) : List Nat := condition.chunks.filterMap Chunk.index?

/-- The text in which placeholders are counted from `next` on as they are met, whatever
numbers they carry. This is how a database reads placeholders that show no number. -/
def countedText (placeholder : Nat → String) : (next : Nat) → List Chunk → String
  | _, [] => ""
  | next, .text content :: rest => content ++ countedText placeholder next rest
  | next, .param _ :: rest => placeholder next ++ countedText placeholder (next + 1) rest

theorem filterMap_index_chunksFrom (next : Nat) (pieces : List Piece) :
    (Clause.chunksFrom next pieces).filterMap Chunk.index? =
      List.range' next (Clause.boundValues pieces).length := by
  induction pieces generalizing next with
  | nil => rfl
  | cons piece pieces ih =>
    cases piece with
    | text content => simp [Clause.chunksFrom, List.filterMap_cons, Chunk.index?, ih]
    | bound value => simp [Clause.chunksFrom, Chunk.index?, ih, List.range'_succ]

theorem render_chunksFrom (placeholder : Nat → String) (next : Nat) (pieces : List Piece) :
    render (fun index => placeholder (index + 1)) (Clause.chunksFrom next pieces) =
      countedText placeholder (next + 1) (Clause.chunksFrom next pieces) := by
  induction pieces generalizing next with
  | nil => rfl
  | cons piece pieces ih =>
    cases piece with
    | text content =>
      have rest := ih next
      simp only [render] at rest
      simp [Clause.chunksFrom, render, countedText, rest]
    | bound value =>
      have rest := ih (next + 1)
      simp only [render] at rest
      simp [Clause.chunksFrom, render, countedText, rest]

theorem map_getElem?_range {α : Type} (items : List α) :
    (List.range items.length).map (items[·]?) = items.map some := by
  apply List.ext_getElem?
  intro index
  by_cases bound : index < items.length
  · simp [bound]
  · simp [bound]

/-- The placeholders of a condition carry the places of its parameters in order, each once.
So the placeholder met first stands for the first parameter, the next for the second, also
in a text whose placeholders show no number. -/
theorem placeholders_in_order {condition : Condition} (obtained : Obtainable condition) :
    condition.placeholders = List.range condition.params.length ∧
    condition.placeholders.map (condition.params[·]?) = condition.params.map some ∧
    ∀ style : SqlStyle,
      condition.native style = "WHERE " ++ countedText style.placeholder 1 condition.chunks := by
  obtain ⟨clause, rfl⟩ := obtained.numbers
  have numbers : clause.condition.placeholders = List.range clause.condition.params.length := by
    rw [List.range_eq_range']
    exact filterMap_index_chunksFrom 0 clause.pieces
  refine ⟨numbers, ?_, fun style => ?_⟩
  · rw [numbers]
    exact map_getElem?_range clause.condition.params
  · exact congrArg ("WHERE " ++ ·) (render_chunksFrom style.placeholder 0 clause.pieces)

/-- Two compiled conditions joined, and the result joined with a third. -/
theorem placeholders_in_order_nested :
    let either : Condition := {
      chunks := [.text "(", .text "`a`", .text " = ", .param 0, .text ")", .text " OR ", .text "(",
        .param 1, .text " IN (", .param 2, .text ", ", .param 3, .text ")", .text ")"]
      params := [.int 1, .int 7, .int 8, .int 9]
      shape := .or }
    let other : Condition := {
      chunks := [.text "`b`", .text " = ", .param 0]
      params := [.int 2]
      shape := .atom }
    (combine .and [either, other]).map placeholders = .ok [0, 1, 2, 3, 4] := by
  intro either other
  let mapping := Mapping.identity Dialect.sqlite.style
  let equal (member : String) (value : Int32) : Predicate :=
    .compare .eq (.field [member]) (.ofValue (.int value))
  let among : Predicate := .member (.captured ["v"] (.int 7)) [.int 8, .int 9]
  have eitherCompiled : mapping.conditionAll "E" .or [equal "a" 1, among] = .ok either := rfl
  have otherCompiled : mapping.condition "E" (equal "b" 2) = .ok other := rfl
  have parts : ∀ part ∈ [either, other], Obtainable part := by
    intro part member
    rcases List.mem_pair.mp member with rfl | rfl
    · exact .compiledAll eitherCompiled
    · exact .compiled otherCompiled
  have obtained := @Obtainable.combined .and [either, other] _ parts rfl
  exact congrArg Except.ok (placeholders_in_order obtained).1

end Condition

end WhereClause
