import WhereClause.Proofs.Meaning

/-! Predicates that are joined before they are compiled, or after.

Joined first, predicates make one tree whose values are numbered as they come, with parentheses
only where connectives differ. Compiled first, each has its own numbers and stands in parentheses.
Both ways bind the same values in the same order, write the same conditions up to parentheses and
are read as the word applied to the same operands, or fail with the same error.
-/

set_option autoImplicit false

namespace WhereClause

/-- A list with stretches of it put between parentheses. -/
inductive Encloses {α : Type} (opening closing : α) : (plain written : List α) → Prop where
  | nil : Encloses opening closing [] []
  | cons (item : α) {plain written : List α} :
      Encloses opening closing plain written →
      Encloses opening closing (item :: plain) (item :: written)
  | group {inner innerWritten rest restWritten : List α} :
      Encloses opening closing inner innerWritten → Encloses opening closing rest restWritten →
      Encloses opening closing (inner ++ rest)
        (opening :: innerWritten ++ closing :: restWritten)

namespace Encloses

variable {α : Type} {opening closing : α}

theorem refl (items : List α) : Encloses opening closing items items := by
  induction items with
  | nil => exact .nil
  | cons item items ih => exact .cons item ih

theorem append {first firstWritten rest restWritten : List α}
    (firstEncloses : Encloses opening closing first firstWritten)
    (restEncloses : Encloses opening closing rest restWritten) :
    Encloses opening closing (first ++ rest) (firstWritten ++ restWritten) := by
  induction firstEncloses with
  | nil => exact restEncloses
  | cons item _ ih => exact .cons item ih
  | group inner _ _ ih => simpa using Encloses.group inner ih

theorem enclosed {plain written : List α} (encloses : Encloses opening closing plain written) :
    Encloses opening closing plain (opening :: written ++ [closing]) := by
  simpa using Encloses.group encloses .nil

end Encloses

namespace Clause

theorem boundValues_encloses {plain written : List Piece}
    (encloses : Encloses (.text "(") (.text ")") plain written) :
    boundValues written = boundValues plain := by
  induction encloses with
  | nil => rfl
  | cons piece _ ih => cases piece <;> simp [ih]
  | group _ _ innerIh restIh => simp [innerIh, restIh]

/-- Parentheses take no numbers. -/
theorem chunksFrom_encloses {plain written : List Piece}
    (encloses : Encloses (.text "(") (.text ")") plain written) (next : Nat) :
    Encloses (.text "(") (.text ")") (chunksFrom next plain) (chunksFrom next written) := by
  induction encloses generalizing next with
  | nil => exact .nil
  | cons piece _ ih =>
    cases piece with
    | text content => exact .cons _ (ih next)
    | bound value => exact .cons _ (ih (next + 1))
  | group inner _ innerIh restIh =>
    simp only [List.cons_append, chunksFrom, chunksFrom_append, boundValues_encloses inner]
    exact .group (innerIh next) (restIh _)

def plainPieces (separator : String) : List Clause → List Piece
  | [] => []
  | first :: rest => first.pieces ++ rest.flatMap fun part => .text separator :: part.pieces

theorem encloses_joinPieces (separator : String) (parts : List Clause) :
    Encloses (.text "(") (.text ")") (plainPieces separator parts) (joinPieces separator parts) := by
  induction parts with
  | nil => exact .nil
  | cons part rest ih =>
    have enclosed : Encloses (.text "(") (.text ")") part.pieces part.enclosed :=
      (Encloses.refl part.pieces).enclosed
    cases rest with
    | nil => simpa [plainPieces, joinPieces] using enclosed
    | cons next rest => exact enclosed.append (.cons _ ih)

theorem encloses_combined (word : Word) (parts : List Clause) :
    Encloses (.text "(") (.text ")") (plainPieces (" " ++ word.sql ++ " ") parts)
      (combined word parts).pieces :=
  match parts with
  | [] => .nil
  | [part] => by simpa [plainPieces, combined] using Encloses.refl part.pieces
  | part :: next :: rest => encloses_joinPieces _ (part :: next :: rest)

theorem encloses_grouped {plain : List Piece} {clause : Clause}
    (encloses : Encloses (.text "(") (.text ")") plain clause.pieces) (parent : Shape) :
    Encloses (.text "(") (.text ")") plain (clause.grouped parent) := by
  unfold grouped
  split
  · exact encloses
  · exact encloses.enclosed

def folded (word : Word) : List Clause → Clause
  | [] => atom []
  | first :: rest => rest.foldl (join word) first

theorem encloses_foldl (word : Word) (rest : List Clause) {plain : List Piece} {first : Clause}
    (encloses : Encloses (.text "(") (.text ")") plain first.pieces) :
    Encloses (.text "(") (.text ")")
      (plain ++ rest.flatMap fun part => .text (" " ++ word.sql ++ " ") :: part.pieces)
      (rest.foldl (join word) first).pieces := by
  induction rest generalizing plain first with
  | nil => simpa using encloses
  | cons next rest ih =>
    have nextEncloses := encloses_grouped (Encloses.refl next.pieces) word.shape
    have joined : Encloses (.text "(") (.text ")")
        (plain ++ .text (" " ++ word.sql ++ " ") :: next.pieces) (join word first next).pieces :=
      (encloses_grouped encloses word.shape).append (.cons _ nextEncloses)
    simpa using ih joined

theorem encloses_folded (word : Word) (parts : List Clause) :
    Encloses (.text "(") (.text ")") (plainPieces (" " ++ word.sql ++ " ") parts)
      (folded word parts).pieces :=
  match parts with
  | [] => .nil
  | first :: rest => encloses_foldl word rest (.refl first.pieces)

end Clause

theorem Predicate.joined?_cons (word : Word) (first : Predicate) (rest : List Predicate) :
    joined? word (first :: rest) = some (rest.foldl word.predicate first) := by
  cases word <;> rfl

theorem Condition.combine_clauses (word : Word) (first : Clause) (rest : List Clause) :
    combine word ((first :: rest).map Clause.condition) =
      .ok (Clause.combined word (first :: rest)).condition := by
  cases combined : combine word ((first :: rest).map Clause.condition) with
  | ok condition => rw [combine_conditions combined]
  | error issue => cases rest <;> cases combined

namespace Mapping

variable (mapping : Mapping) (entity : String)

theorem clause_word (word : Word) (left right : Predicate) :
    mapping.clause entity false (word.predicate left right) = do
      let left ← mapping.clause entity false left
      let right ← mapping.clause entity false right
      return Clause.join word left right := by
  cases word <;> rfl

/-- A tree of joined predicates is compiled part by part from the left. -/
theorem clause_foldl (word : Word) (first : Predicate) (rest : List Predicate) :
    mapping.clause entity false (rest.foldl word.predicate first) = do
      let start ← mapping.clause entity false first
      let parts ← rest.mapM (mapping.clause entity false)
      return parts.foldl (Clause.join word) start := by
  induction rest generalizing first with
  | nil => simp
  | cons next rest ih => simp [ih, clause_word]

theorem condition_foldl (word : Word) (first : Predicate) (rest : List Predicate) :
    mapping.condition entity (rest.foldl word.predicate first) = do
      let parts ← (first :: rest).mapM (mapping.clause entity false)
      return (Clause.folded word parts).condition := by
  simp [condition_eq, clause_foldl, Clause.folded]

theorem mapM_condition_eq (predicates : List Predicate) :
    predicates.mapM (mapping.condition entity) = do
      let parts ← predicates.mapM (mapping.clause entity false)
      return parts.map Clause.condition := by
  induction predicates with
  | nil => simp
  | cons predicate predicates ih => simp [condition_eq, ih]

theorem conditionAll_cons (word : Word) (first : Predicate) (rest : List Predicate) :
    mapping.conditionAll entity word (first :: rest) = do
      let parts ← (first :: rest).mapM (mapping.clause entity false)
      return (Clause.combined word parts).condition := by
  rw [conditionAll, mapM_condition_eq]
  cases compiled : (first :: rest).mapM (mapping.clause entity false) with
  | error issue => rfl
  | ok clauses =>
    obtain ⟨_, _, _, _, rfl⟩ := List.forall₂_cons_left_iff.mp (mapM_eq_ok.mp compiled)
    exact Condition.combine_clauses word _ _

end Mapping

open Sql

structure Condition.ReadAs (dialect : Dialect) (condition : Condition) (formula : Formula) : Prop where
  shared : (tokens (.shared dialect) condition.text).bind readFormula = some formula
  native : (tokens (.native dialect) (condition.native dialect.style)).bind readWhere = some formula

/-- What is read from conditions whose placeholders are counted on behind those of the
conditions before them. -/
inductive Condition.AllReadAs (dialect : Dialect) :
    (offset : Nat) → List Condition → List Formula → Prop where
  | nil {offset : Nat} : AllReadAs dialect offset [] []
  | cons {offset : Nat} {part : Condition} {rest : List Condition} {formula : Formula}
      {formulas : List Formula} :
      (tokens (.shared dialect) (render (fun index => "@" ++ toString index)
        (part.chunks.map (shiftChunk offset)))).bind readFormula = some formula →
      AllReadAs dialect (offset + part.params.length) rest formulas →
      AllReadAs dialect offset (part :: rest) (formula :: formulas)

/-- Both conditions are read as the word applied to the operands of the parts, in order, and so
hold in the same rows. -/
def Condition.ReadAlike (dialect : Dialect) (word : Word) (parts : List Condition)
    (first second : Condition) : Prop :=
  ∃ formulas left right, AllReadAs dialect 0 parts formulas ∧
    first.ReadAs dialect left ∧ second.ReadAs dialect right ∧
    left.operands word = formulas.flatMap (Formula.operands word) ∧
    right.operands word = formulas.flatMap (Formula.operands word) ∧
    ∀ {α : Type} (model : Model α), left.eval model = right.eval model

namespace Draft

variable {strategy : Strategy} {opening : Option Phrase}

inductive AllReadAs (strategy : Strategy) (opening : Option Phrase) :
    (next : Nat) → List Draft → List Formula → Prop where
  | nil {next : Nat} : AllReadAs strategy opening next [] []
  | cons {next : Nat} {draft : Draft} {rest : List Draft} {formula : Formula}
      {formulas : List Formula} :
      draft.ReadAs strategy next (draft.marks opening) formula →
      AllReadAs strategy opening (next + (Mark.values (draft.marks opening)).length) rest formulas →
      AllReadAs strategy opening next (draft :: rest) (formula :: formulas)

theorem exists_allReadAs (dialect : Dialect) (strategy : Strategy) (drafts : List Draft)
    (next : Nat) :
    ∃ formulas, AllReadAs strategy (dialect.opening strategy) next drafts formulas := by
  induction drafts generalizing next with
  | nil => exact ⟨[], .nil⟩
  | cons draft rest ih =>
    obtain ⟨formula, readAs⟩ := draft.exists_readAs dialect strategy next
    obtain ⟨formulas, restAs⟩ := ih (next + (Mark.values (draft.marks (dialect.opening strategy))).length)
    exact ⟨formula :: formulas, .cons readAs restAs⟩

/-- Drafts in parentheses are read as the word applied to all their operands. -/
theorem AllReadAs.join (word : Word) {next : Nat} {drafts : List Draft} {formulas : List Formula}
    (allAs : AllReadAs strategy opening next drafts formulas) (nonempty : drafts ≠ []) :
    ∃ formula, Spells word.shape (Mark.tokensFrom .param next (joinMarks opening word drafts)) formula ∧
      formula.operands word = formulas.flatMap (Formula.operands word) := by
  induction allAs with
  | nil => exact absurd rfl nonempty
  | @cons next draft rest formula formulas readAs restAs ih =>
    have enclosed := readAs.enclosed.lift word.shape
    cases restAs with
    | nil => exact ⟨formula, enclosed, by simp⟩
    | cons secondAs restAs =>
      obtain ⟨others, spells, operands⟩ := ih (by simp)
      obtain ⟨joined, joinedSpells, joinedOperands⟩ := enclosed.join word spells
      refine ⟨joined, ?_, by simp [joinedOperands, operands]⟩
      rw [joinMarks, Mark.tokensFrom_append, Mark.values_enclose]
      exact joinedSpells

theorem AllReadAs.combined (word : Word) {next : Nat} {drafts : List Draft} {formulas : List Formula}
    (allAs : AllReadAs strategy opening next drafts formulas) (nonempty : drafts ≠ []) :
    ∃ shape formula,
      Spells shape (Mark.tokensFrom .param next (combinedMarks opening word drafts)) formula ∧
      formula.operands word = formulas.flatMap (Formula.operands word) := by
  cases allAs with
  | nil => exact absurd rfl nonempty
  | cons readAs restAs =>
    cases restAs with
    | nil => exact ⟨_, _, readAs.spells, by simp⟩
    | cons secondAs restAs =>
      exact ⟨_, (AllReadAs.cons readAs (.cons secondAs restAs)).join word (by simp)⟩

theorem AllReadAs.foldl (word : Word) {next : Nat} {first : Draft} {formula : Formula}
    {rest : List Draft} {formulas : List Formula}
    (readAs : first.ReadAs strategy next (first.marks opening) formula)
    (restAs : AllReadAs strategy opening (next + (Mark.values (first.marks opening)).length) rest formulas) :
    ∃ folded, (rest.foldl (Draft.join word) first).ReadAs strategy next
        ((rest.foldl (Draft.join word) first).marks opening) folded ∧
      folded.operands word = (formula :: formulas).flatMap (Formula.operands word) := by
  induction rest generalizing first formula formulas with
  | nil =>
    cases restAs
    exact ⟨formula, readAs, by simp⟩
  | cons second rest ih =>
    cases restAs with
    | cons secondAs restAs =>
      obtain ⟨joined, joinedAs, operands⟩ := readAs_join word readAs secondAs
      obtain ⟨folded, foldedAs, foldedOperands⟩ := ih joinedAs (by
        simpa [marks, Mark.values_append, Mark.values, Nat.add_assoc] using restAs)
      exact ⟨folded, foldedAs, by simp [foldedOperands, operands]⟩

theorem folded_clauses (quote : String → String) (form : Option (String × String)) (word : Word)
    (first : Draft) (rest : List Draft) :
    Clause.folded word ((first :: rest).map (clause quote form)) =
      (rest.foldl (Draft.join word) first).clause quote form := by
  induction rest generalizing first with
  | nil => rfl
  | cons second rest ih => exact ih (Draft.join word first second)

end Draft

theorem Mapping.mapM_clause {mapping : Mapping} {entity : String} {predicates : List Predicate}
    {clauses : List Clause}
    (compiled : predicates.mapM (mapping.clause entity false) = .ok clauses) :
    ∃ drafts : List Draft, drafts.length = predicates.length ∧
      clauses = drafts.map (Draft.clause mapping.style.quote mapping.form) := by
  have pairs := mapM_eq_ok.mp compiled
  clear compiled
  induction pairs with
  | nil => exact ⟨[], rfl, rfl⟩
  | cons partCompiled _ ih =>
    obtain ⟨draft, _, rfl⟩ := clause_eq_ok partCompiled
    obtain ⟨drafts, sameLength, rfl⟩ := ih
    exact ⟨draft :: drafts, by simp [sameLength], rfl⟩

namespace Condition

variable {dialect : Dialect}

theorem readAs_marks {marks : List Mark} (orderly : Mark.Orderly marks) {shape top : Shape}
    {formula : Formula} (spells : Spells shape (Mark.tokensFrom .param 0 marks) formula) :
    (Clause.condition { pieces := marks.map (Mark.piece dialect.style.quote), shape := top }).ReadAs
      dialect formula where
  shared := by
    have scanned := Mark.tokens_shared orderly dialect (Mark.toList_render dialect.style.quote _ 0 _)
    exact (congrArg (Option.bind · readFormula) scanned).trans spells.readFormula
  native := by
    have scanned := Mark.tokens_native orderly dialect (Mark.toList_render dialect.style.quote _ 0 _)
    exact (congrArg (Option.bind · readWhere) scanned).trans spells.readFormula

theorem allReadAs_drafts {strategy : Strategy} {next : Nat} {drafts : List Draft}
    {formulas : List Formula}
    (allAs : Draft.AllReadAs strategy (dialect.opening strategy) next drafts formulas) :
    AllReadAs dialect next ((drafts.map (Draft.clause dialect.style.quote
      ((dialect.opening strategy).map fun phrase => (phrase.text, ")")))).map Clause.condition)
      formulas := by
  induction allAs with
  | nil => exact .nil
  | @cons next draft rest formula formulas readAs _ ih =>
    have orderly := draft.orderly_marks _ (dialect.opening_fits strategy)
    simp only [List.map_cons, Draft.clause_eq_marks] at ih ⊢
    refine .cons ?_ ?_
    · simp only [Clause.condition, Clause.chunksFrom_shift, Nat.zero_add]
      rw [Mark.tokens_sharedFrom orderly dialect (Mark.toList_render _ _ next _)]
      exact readAs.spells.readFormula
    · simpa only [Clause.condition, Mark.boundValues_pieces] using ih

end Condition

namespace Mapping

theorem readAlike_clauses {dialect : Dialect} (strategy : Strategy) (word : Word) (first : Draft)
    (rest : List Draft) :
    let clauses := (first :: rest).map (Draft.clause dialect.style.quote
      ((dialect.opening strategy).map fun phrase => (phrase.text, ")")))
    Condition.ReadAlike dialect word (clauses.map Clause.condition)
      (Clause.combined word clauses).condition (Clause.folded word clauses).condition := by
  intro clauses
  obtain ⟨formulas, allAs⟩ := Draft.exists_allReadAs dialect strategy (first :: rest) 0
  have fits := dialect.opening_fits strategy
  obtain ⟨shape, left, leftSpells, leftOperands⟩ := allAs.combined word (by simp)
  refine ⟨formulas, left, ?_⟩
  cases allAs with
  | cons readAs restAs =>
    obtain ⟨right, rightAs, rightOperands⟩ := Draft.AllReadAs.foldl word readAs restAs
    refine ⟨right, Condition.allReadAs_drafts (.cons readAs restAs), ?_, ?_, leftOperands, rightOperands,
      fun model => ?_⟩
    · rw [Draft.combined_clauses]
      exact Condition.readAs_marks (Draft.orderly_combinedMarks _ fits word _) leftSpells
    · rw [Draft.folded_clauses, Draft.clause_eq_marks]
      exact Condition.readAs_marks (Draft.orderly_marks _ fits _) rightAs.spells
    · rw [left.eval_operands model word, right.eval_operands model word, leftOperands, rightOperands]

/-- Predicates that are compiled and then joined by a word give the condition of the predicate
that the word makes of them, up to parentheses around parts, or both fail with the same error. -/
theorem conditionAll_joined (mapping : Mapping) (entity : String) (word : Word)
    (predicates : List Predicate) (nonempty : predicates ≠ []) :
    ∃ joined, Predicate.joined? word predicates = some joined ∧
      ((∃ issue, mapping.conditionAll entity word predicates = .error issue ∧
          mapping.condition entity joined = .error issue) ∨
        ∃ parts together whole, predicates.mapM (mapping.condition entity) = .ok parts ∧
          mapping.conditionAll entity word predicates = .ok together ∧
          mapping.condition entity joined = .ok whole ∧
          together.params = whole.params ∧
          (∃ plain, Encloses (.text "(") (.text ")") plain together.chunks ∧
            Encloses (.text "(") (.text ")") plain whole.chunks) ∧
          ∀ dialect : Dialect, mapping.style = dialect.style →
            Condition.ReadAlike dialect word parts together whole) := by
  obtain ⟨first, rest, rfl⟩ := List.exists_cons_of_ne_nil nonempty
  refine ⟨_, Predicate.joined?_cons word first rest, ?_⟩
  rw [conditionAll_cons, condition_foldl, mapM_condition_eq]
  cases compiled : (first :: rest).mapM (mapping.clause entity false) with
  -- both compile the parts in one and the same order, so the same part fails first
  | error issue => exact .inl ⟨issue, rfl, rfl⟩
  | ok clauses =>
    right
    have combined := Clause.encloses_combined word clauses
    have folded := Clause.encloses_folded word clauses
    refine ⟨_, _, _, rfl, rfl, rfl, ?_, ?_, fun dialect speaks => ?_⟩
    · exact (Clause.boundValues_encloses combined).trans (Clause.boundValues_encloses folded).symm
    · exact ⟨_, Clause.chunksFrom_encloses combined 0, Clause.chunksFrom_encloses folded 0⟩
    · obtain ⟨drafts, sameLength, rfl⟩ := mapM_clause compiled
      obtain ⟨draft, drafts, rfl⟩ := List.exists_cons_of_length_eq_add_one sameLength
      rw [form_dialect speaks, speaks]
      exact readAlike_clauses mapping.membership word draft drafts

/-- A conjunction among parts of a conjunction: compiled first it keeps parentheses that the
tree does not need. -/
theorem conditionAll_joined_nested :
    let mapping := Mapping.identity Dialect.sqlServer.style
    let truth (member : String) : Predicate := .truth (.field [member])
    let predicates := [.or (truth "a") (truth "b"), .and (truth "c") (truth "d"), truth "e"]
    ∃ joined parts together whole, Predicate.joined? .and predicates = some joined ∧
      mapping.conditionAll "Node" .and predicates = .ok together ∧
      mapping.condition "Node" joined = .ok whole ∧
      together.text = "([a] = @0 OR [b] = @1) AND ([c] = @2 AND [d] = @3) AND ([e] = @4)" ∧
      whole.text = "([a] = @0 OR [b] = @1) AND [c] = @2 AND [d] = @3 AND [e] = @4" ∧
      together.params = whole.params ∧
      Condition.ReadAlike .sqlServer .and parts together whole := by
  intro mapping truth predicates
  obtain ⟨joined, isJoined, failed | ⟨parts, together, whole, -, all, one, params, -, alike⟩⟩ :=
    conditionAll_joined mapping "Node" .and predicates (List.cons_ne_nil _ _)
  · obtain ⟨issue, failed, -⟩ := failed
    cases failed
  · cases isJoined
    cases all
    cases one
    exact ⟨_, parts, _, _, rfl, rfl, rfl, by decide, by decide, params, alike .sqlServer rfl⟩

end Mapping

end WhereClause
