import WhereClause.Entities
import WhereClause.Proofs.Division
import WhereClause.Proofs.Skeleton

/-! Identifiers in conditions and statements.

Whatever characters the names of columns and tables have, cutting a text at its quoted names
finds the names that were resolved, in the order in which they are written. The text around
them has no quote in it, is the same for all names, and holds just the placeholders of the
parameters.
-/

set_option autoImplicit false

namespace WhereClause

open Sql

namespace Mark

def names : List Mark → List String
  | [] => []
  | .fixed _ :: rest => names rest
  | .name column :: rest => column :: names rest
  | .bound _ :: rest => names rest

theorem names_append (first rest : List Mark) :
    names (first ++ rest) = names first ++ names rest := by
  induction first with
  | nil => rfl
  | cons mark first ih => cases mark <;> simp [names, ih]

@[simp] theorem names_enclose (marks : List Mark) : names (enclose marks) = names marks := by
  simp [enclose, names, names_append]

theorem names_grouped (parent shape : Shape) (marks : List Mark) :
    names (grouped parent shape marks) = names marks :=
  grouped_eq names (names_enclose marks) parent shape

theorem names_divisionFrom (placeholder : Nat → String) (next : Nat) (marks : List Mark) :
    (divisionFrom placeholder next marks).names = names marks := by
  induction marks generalizing next with
  | nil => rfl
  | cons mark marks ih =>
    cases mark with
    | fixed phrase => exact ih next
    | name column => exact congrArg (column :: ·) (ih next)
    | bound value => exact ih (next + 1)

theorem names_slot (slot : Slot) (rest : List Mark) :
    names (slot.mark :: rest) = slot.columns ++ names rest := by
  cases slot <;> rfl

theorem names_listed (first : Value) (others : List Value) : names (listed first others) = [] := by
  induction others generalizing first with
  | nil => rfl
  | cons next others ih => exact ih next

theorem names_collected (opening : Option Phrase) (first : Value) (others : List Value) :
    names (collected opening first others) = [] := by
  cases opening with
  | none => simp [collected, names, names_append, names_listed]
  | some phrase => rfl

end Mark

namespace Draft

theorem names_marks (opening : Option Phrase) (draft : Draft) :
    Mark.names (draft.marks opening) = draft.columns := by
  induction draft with
  | compare op left right => simp [marks, columns, Mark.names_slot, Mark.names]
  | nullTest present tested => simp [marks, columns, Mark.names_slot, Mark.names]
  | member item first others => simp [marks, columns, Mark.names_slot, Mark.names_collected]
  | never => rfl
  | not inner ih => simp [marks, columns, Mark.names, Mark.names_append, ih]
  | join word left right leftIh rightIh =>
    simp [marks, columns, Mark.names, Mark.names_append, Mark.names_grouped, leftIh, rightIh]

theorem names_combinedMarks (opening : Option Phrase) (word : Word) (drafts : List Draft) :
    Mark.names (combinedMarks opening word drafts) = drafts.flatMap columns := by
  have joined : Mark.names (joinMarks opening word drafts) = drafts.flatMap columns := by
    induction drafts with
    | nil => rfl
    | cons part rest ih =>
      cases rest with
      | nil => simp [joinMarks, names_marks]
      | cons next rest =>
        rw [joinMarks, Mark.names_append, Mark.names_enclose, names_marks, Mark.names, ih]
        rfl
  cases drafts with
  | nil => rfl
  | cons part rest =>
    cases rest with
    | nil => simp [combinedMarks, names_marks]
    | cons next rest => exact joined

end Draft

def Operand.members : Operand → List String
  | .field path => (MemberPath.single? path).toList
  | _ => []

/-- The members whose columns are written, in the order in which they are written. A test for
membership in an empty collection writes none. -/
def Predicate.members : Predicate → List String
  | .compare _ left right => left.members ++ right.members
  | .not inner => inner.members
  | .and left right => left.members ++ right.members
  | .or left right => left.members ++ right.members
  | .isNull tested => tested.members
  | .isNotNull tested => tested.members
  | .truth tested => tested.members
  | .member _ [] => []
  | .member item (_ :: _) => item.members

namespace Mapping

variable {mapping : Mapping} {entity : String}

def Resolves (mapping : Mapping) (entity : String) (members columns : List String) : Prop :=
  members.mapM (mapping.resolve entity) = .ok columns

theorem Resolves.nil : mapping.Resolves entity [] [] := rfl

theorem Resolves.append {first rest firstColumns restColumns : List String}
    (resolves : mapping.Resolves entity first firstColumns)
    (restResolves : mapping.Resolves entity rest restColumns) :
    mapping.Resolves entity (first ++ rest) (firstColumns ++ restColumns) :=
  mapM_eq_ok.mpr (List.rel_append (mapM_eq_ok.mp resolves) (mapM_eq_ok.mp restResolves))

theorem Fills.resolves {peer : Option MemberPath} {operand : Operand} {slot : Slot}
    (fills : mapping.Fills entity peer operand slot) :
    mapping.Resolves entity operand.members slot.columns := by
  cases fills with
  | @field member column resolved =>
    exact mapM_eq_ok.mpr (.cons resolved .nil)
  | captured _ => exact .nil
  | constant _ => exact .nil

theorem members_besideNull {left right other : Operand}
    (beside : left.besideNull? right = some other) :
    left.members ++ right.members = other.members := by
  have null : ∀ operand : Operand, operand.isNullLiteral = true → operand.members = [] := by
    intro operand literal
    cases operand with
    | constant value type => rfl
    | field path => cases literal
    | captured path value => cases literal
  unfold Operand.besideNull? at beside
  split at beside
  next _ rightNull => rw [null right rightNull, List.append_nil, Option.some.inj beside]
  next leftNull _ => rw [null left leftNull, List.nil_append, Option.some.inj beside]
  next => cases beside

theorem Drafted.resolves {negated : Bool} {predicate : Predicate} {draft : Draft}
    (drafted : mapping.Drafted entity negated predicate draft) :
    mapping.Resolves entity predicate.members draft.columns := by
  induction drafted with
  | compare _ _ leftFills rightFills => exact leftFills.resolves.append rightFills.resolves
  | compareNull beside _ fills =>
    rw [Predicate.members, members_besideNull beside]
    exact fills.resolves
  | isNull fills => exact fills.resolves
  | isNotNull fills => exact fills.resolves
  | truth _ fills _ =>
    rw [Draft.columns, Slot.columns_bound, List.append_nil]
    exact fills.resolves
  | never _ _ _ =>
    rw [Draft.columns_signed]
    exact .nil
  | member _ _ fills _ _ =>
    rw [Draft.columns_signed]
    exact fills.resolves
  | not _ ih => exact ih
  | and _ _ leftIh rightIh =>
    rw [Draft.columns_signed]
    exact leftIh.append rightIh
  | or _ _ leftIh rightIh =>
    rw [Draft.columns_signed]
    exact leftIh.append rightIh

end Mapping

namespace Mark

def recast (rename : String → String) : Mark → Mark
  | .fixed phrase => .fixed phrase
  | .name column => .name (rename column)
  | .bound _ => .bound .blank

@[simp] theorem recast_fixed (rename : String → String) (phrase : Phrase) :
    (fixed phrase).recast rename = .fixed phrase := rfl

@[simp] theorem recast_bound (rename : String → String) (value : Value) :
    (bound value).recast rename = .bound .blank := rfl

@[simp] theorem recast_slot (rename other : String → String) (slot : Slot) :
    (slot.recast rename).mark.recast other = slot.mark.recast (other ∘ rename) := by
  cases slot <;> rfl

theorem recast_listed (rename : String → String) (first : Value) (others : List Value) :
    (listed first others).map (recast rename) = listed .blank (others.map fun _ => .blank) := by
  induction others generalizing first with
  | nil => rfl
  | cons next others ih => simp only [List.map_cons, listed, ih next, recast_bound, recast_fixed]

theorem recast_grouped (rename : String → String) (parent shape : Shape) (marks : List Mark) :
    (grouped parent shape marks).map (recast rename) =
      grouped parent shape (marks.map (recast rename)) := by
  unfold grouped
  split
  · rfl
  · simp [enclose]

/-- What is outside the names depends neither on the names nor on the values. -/
theorem outside_recast (rename : String → String) (placeholder : Nat → String) (next : Nat)
    (marks : List Mark) :
    (divisionFrom placeholder next (marks.map (recast rename))).outside =
      (divisionFrom placeholder next marks).outside := by
  induction marks generalizing next with
  | nil => rfl
  | cons mark marks ih =>
    cases mark with
    | fixed phrase => exact Division.outside_after (ih next) _
    | name column => exact Division.outside_behind (ih next) _ _
    | bound value => exact Division.outside_after (ih (next + 1)) _

end Mark

namespace Draft

theorem shape_recast (rename : String → String) (whole : Bool) (draft : Draft) :
    (draft.recast rename whole).shape = draft.shape := by
  cases draft <;> rfl

theorem marks_recast (rename other : String → String) (opening : Option Phrase) (draft : Draft) :
    ((draft.recast rename opening.isSome).marks opening).map (Mark.recast other) =
      (draft.marks opening).map (Mark.recast (other ∘ rename)) := by
  induction draft with
  | compare op left right => simp [recast, marks]
  | nullTest present tested => simp [recast, marks]
  | never => rfl
  | member item first others =>
    cases opening with
    | none => simp [recast, marks, Mark.collected, Mark.recast_listed]
    | some phrase => simp [recast, marks, Mark.collected]
  | not inner ih => simp [recast, marks, ih]
  | join word left right leftIh rightIh =>
    simp [recast, marks, Mark.recast_grouped, shape_recast, leftIh, rightIh]

theorem recast_combinedMarks (rename : String → String) (opening : Option Phrase) (word : Word)
    {first second : List Draft} (alike : List.Forall₂ (fun left right =>
      (left.marks opening).map (Mark.recast rename) =
        (right.marks opening).map (Mark.recast rename)) first second) :
    (combinedMarks opening word first).map (Mark.recast rename) =
      (combinedMarks opening word second).map (Mark.recast rename) := by
  have joined : (joinMarks opening word first).map (Mark.recast rename) =
      (joinMarks opening word second).map (Mark.recast rename) := by
    induction alike with
    | nil => rfl
    | cons same rest ih =>
      cases rest with
      | nil => simp [joinMarks, Mark.enclose, same]
      | cons next rest =>
        rw [joinMarks, joinMarks, List.map_append, List.map_append, List.map_cons, ih]
        simp [Mark.enclose, same]
  cases alike with
  | nil => rfl
  | cons same rest =>
    cases rest with
    | nil => exact same
    | cons next rest => exact joined

end Draft

structure Identifies (dialect : Dialect) (marker : Marker) (text : String) (names : List String)
    (outside : List (List Char)) (placeholders : List String) : Prop where
  scanned : ∃ division, divide dialect text = some division ∧ division.names = names ∧
    division.outside = outside
  unquoted : ∀ part ∈ outside, dialect.openQuote ∉ part ∧ dialect.closeQuote ∉ part
  counted : outside.flatMap (placeholdersIn marker) = placeholders

structure Cut (dialect : Dialect) (marker : Marker) (text : List Char) (division : Division)
    (placeholders : List String) : Prop where
  divides : Divides dialect text division
  unquoted : division.Unquoted
  counted : division.placeholders marker = placeholders

namespace Cut

variable {dialect : Dialect} {marker : Marker} {rest : List Char} {division : Division}
  {placeholders : List String}

theorem after {lexicon : Lexicon} (apart : lexicon.Apart) {text : List Char} (plain : Plain text)
    (cut : Cut dialect lexicon.marker rest division placeholders) :
    Cut dialect lexicon.marker (text ++ rest) (division.after text) placeholders where
  divides := cut.divides.after fun c member opened =>
    (plain c member).1 (opened ▸ dialect.quotes_listed.1)
  unquoted := cut.unquoted.after fun c member => (plain c member).1
  counted := by
    rw [Division.placeholders_after apart (fun c member => (plain c member).2), cut.counted]

theorem behind (name : String) (ends : ∀ c ∈ rest.head?, c ≠ dialect.closeQuote)
    (cut : Cut dialect marker rest division placeholders) :
    Cut dialect marker ((dialect.style.quote name).toList ++ rest) (division.behind name)
      placeholders where
  divides := cut.divides.behind name ends
  unquoted := cut.unquoted.behind name
  counted := by rw [Division.placeholders_behind, cut.counted]

theorem identifies {text : String}
    (cut : Cut dialect marker text.toList division placeholders) :
    Identifies dialect marker text division.names division.outside placeholders where
  scanned := ⟨division, cut.divides text.length (Nat.le_of_eq String.length_toList), rfl, rfl⟩
  unquoted part member := by
    have plain := cut.unquoted part member
    exact ⟨fun opened => plain _ opened dialect.quotes_listed.1,
      fun closed => plain _ closed dialect.quotes_listed.2⟩
  counted := cut.counted

end Cut

theorem Mark.Orderly.cut {lexicon : Lexicon} (apart : lexicon.Apart) {placeholder : Nat → String}
    {token : Nat → Token} (writes : lexicon.marker.Writes placeholder token) (dialect : Dialect)
    {marks : List Mark} (orderly : Orderly marks) :
    Cut dialect lexicon.marker (textFrom dialect.style.quote placeholder 0 marks)
      (divisionFrom placeholder 0 marks) ((List.range (values marks).length).map placeholder) where
  divides := orderly.divides writes dialect 0
  unquoted := unquoted_divisionFrom writes marks 0
  counted := by rw [orderly.placeholders apart writes 0, List.range_eq_range']

namespace Mapping

inductive Compiles (mapping : Mapping) (entity : String) (word : Word) :
    List Predicate → Condition → Prop where
  | one {predicate : Predicate} {condition : Condition} :
      mapping.condition entity predicate = .ok condition →
      Compiles mapping entity word [predicate] condition
  | all {predicates : List Predicate} {condition : Condition} :
      mapping.conditionAll entity word predicates = .ok condition →
      Compiles mapping entity word predicates condition

variable {mapping : Mapping} {entity : String} {word : Word} {predicates : List Predicate}
  {condition : Condition}

theorem Compiles.conditionAll (compiles : mapping.Compiles entity word predicates condition) :
    mapping.conditionAll entity word predicates = .ok condition := by
  cases compiles with
  | one compiled => simp [Mapping.conditionAll, compiled, bind, Except.bind, pure, Except.pure,
      Condition.combine]
  | all compiled => exact compiled

theorem resolves_flatMap {drafts : List Draft}
    (drafted : List.Forall₂ (mapping.Drafted entity false) predicates drafts) :
    mapping.Resolves entity (predicates.flatMap Predicate.members)
      (drafts.flatMap Draft.columns) := by
  induction drafted with
  | nil => exact .nil
  | cons first _ ih => exact first.resolves.append ih

def skeletonMarks (dialect : Dialect) (strategy : Strategy) (word : Word)
    (predicates : List Predicate) : List Mark :=
  let opening := dialect.opening strategy
  Draft.combinedMarks opening word (predicates.map (Predicate.skeleton opening.isSome false))

/-- Without the names, a draft is spelled like the skeleton of its predicate. -/
theorem Drafted.recast_marks {negated : Bool} {predicate : Predicate} {draft : Draft}
    (drafted : mapping.Drafted entity negated predicate draft) (opening : Option Phrase) :
    (draft.marks opening).map (Mark.recast fun _ => "") =
      ((predicate.skeleton opening.isSome negated).marks opening).map
        (Mark.recast fun _ => "") := by
  have recast := drafted.recast_skeleton id opening.isSome
  calc (draft.marks opening).map (Mark.recast fun _ => "")
    _ = ((draft.recast id opening.isSome).marks opening).map (Mark.recast fun _ => "") :=
      (draft.marks_recast id (fun _ => "") opening).symm
    _ = _ := by
      rw [recast]
      exact Draft.marks_recast _ _ opening _

theorem outside_skeletonMarks {dialect : Dialect} {drafts : List Draft}
    (drafted : List.Forall₂ (mapping.Drafted entity false) predicates drafts)
    (placeholder : Nat → String) :
    (Mark.divisionFrom placeholder 0
        (Draft.combinedMarks (dialect.opening mapping.membership) word drafts)).outside =
      (Mark.divisionFrom placeholder 0
        (skeletonMarks dialect mapping.membership word predicates)).outside := by
  let opening := dialect.opening mapping.membership
  have alike : List.Forall₂ (fun left right => (left.marks opening).map (Mark.recast fun _ => "") =
      (right.marks opening).map (Mark.recast fun _ => "")) drafts
        (predicates.map (Predicate.skeleton opening.isSome false)) := by
    induction drafted with
    | nil => exact .nil
    | cons first _ ih => exact .cons (first.recast_marks opening) ih
  -- once all names are forgotten the two are spelled alike, and no name reaches the outside
  have recast := Draft.recast_combinedMarks (fun _ => "") opening word alike
  rw [← Mark.outside_recast (fun _ => ""), recast, Mark.outside_recast, skeletonMarks]

end Mapping

theorem Mark.Orderly.cut_where {lexicon : Lexicon} (apart : lexicon.Apart)
    {placeholder : Nat → String} {token : Nat → Token}
    (writes : lexicon.marker.Writes placeholder token) (dialect : Dialect) {marks : List Mark}
    (orderly : Orderly marks) (shape : Shape) :
    let condition := Clause.condition { pieces := marks.map (piece dialect.style.quote), shape }
    Cut dialect lexicon.marker ("WHERE " ++ Condition.render placeholder condition.chunks).toList
      ((divisionFrom placeholder 0 marks).after "WHERE ".toList)
      ((List.range condition.params.length).map placeholder) := by
  intro condition
  have text : ("WHERE " ++ Condition.render placeholder condition.chunks).toList =
      "WHERE ".toList ++ textFrom dialect.style.quote placeholder 0 marks := by
    rw [String.toList_append, ← toList_render]
    rfl
  have params : condition.params = values marks := boundValues_pieces dialect.style.quote marks
  rw [text, params]
  exact (orderly.cut apart writes dialect).after apart (by decide)

theorem Entities.Head.plain (head : Entities.Head) : Plain (head.sql ++ " ").toList := by
  cases head <;> decide

theorem Entities.cut_statement {m : Type → Type} {entities : Entities m} {dialect : Dialect}
    (speaks : entities.style = dialect.style) {head : Entities.Head} {entity : String}
    {condition : Condition} {statement : Statement}
    (stated : entities.statement head entity condition = .ok statement) {division : Division}
    {placeholders : List String}
    (cut : Cut dialect (nativeMarker dialect) (condition.native dialect.style).toList division
      placeholders) :
    ∃ table, entities.schema.tableName entity = .ok table ∧
      statement.params = condition.params ∧
      Cut dialect (nativeMarker dialect) statement.sql.toList
        (((division.after [' ']).behind table).after (head.sql ++ " ").toList) placeholders := by
  obtain ⟨table, found, same⟩ := bind_eq_ok.mp stated
  cases pure_eq_ok.mp same
  have text : (head.sql ++ " " ++ entities.style.quote table ++ " " ++
      condition.native entities.style).toList = (head.sql ++ " ").toList ++
        ((dialect.style.quote table).toList ++
          ([' '] ++ (condition.native dialect.style).toList)) := by
    simp [speaks]
  have apart := Lexicon.native_apart dialect
  have spaced := @Cut.after dialect _ _ _ (.native dialect) apart [' '] (by decide) cut
  have named := spaced.behind table fun c member same =>
    dialect.closeQuote_apart (same ▸ by simp at member; simp [← member])
  have whole := named.after apart head.plain
  exact ⟨table, found, rfl, text ▸ whole⟩

namespace Mapping

/-- For each dialect, strategy, word and predicates there are texts that stand around the names
in every condition and every statement, and the names are those of the members' columns. -/
theorem identifiers_recovered (dialect : Dialect) (strategy : Strategy) (word : Word)
    (predicates : List Predicate) :
    ∃ shared native : List (List Char), ∃ full : Entities.Head → List (List Char),
      ∀ {mapping : Mapping} {entity : String} {condition : Condition},
        mapping.style = dialect.style → mapping.membership = strategy →
        mapping.Compiles entity word predicates condition →
        ∃ names, mapping.Resolves entity (predicates.flatMap Predicate.members) names ∧
          Identifies dialect (.numbered ['@'] 0) condition.sql names shared
            ((List.range condition.params.length).map fun index => "@" ++ toString index) ∧
          Identifies dialect (nativeMarker dialect) (condition.native dialect.style) names native
            ((List.range condition.params.length).map fun index =>
              dialect.placeholder (index + 1)) ∧
          ∀ {m : Type → Type} (entities : Entities m) (head : Entities.Head)
            (statement : Statement), entities.mapping = mapping →
            entities.statement head entity condition = .ok statement →
            ∃ table, entities.schema.tableName entity = .ok table ∧
              Identifies dialect (nativeMarker dialect) statement.sql (table :: names) (full head)
                ((List.range statement.params.length).map fun index =>
                  dialect.placeholder (index + 1)) := by
  let skeleton (placeholder : Nat → String) : Division := (Mark.divisionFrom placeholder 0
    (skeletonMarks dialect strategy word predicates)).after "WHERE ".toList
  let shared := skeleton fun index => "@" ++ toString index
  let native := skeleton fun index => dialect.placeholder (index + 1)
  refine ⟨shared.outside, native.outside, fun head =>
    (((native.after [' ']).behind "").after (head.sql ++ " ").toList).outside, ?_⟩
  intro mapping entity condition speaks bound compiles
  obtain ⟨drafts, drafted, rfl⟩ := conditionAll_spelled speaks compiles.conditionAll
  subst bound
  let marks := Draft.combinedMarks (dialect.opening mapping.membership) word drafts
  have names : Mark.names marks = drafts.flatMap Draft.columns := Draft.names_combinedMarks _ _ _
  have orderly : Mark.Orderly marks :=
    Draft.orderly_combinedMarks _ (dialect.opening_fits mapping.membership) word drafts
  -- what is outside the names of this condition is outside those of the skeleton
  have outside (placeholder : Nat → String) :
      ((Mark.divisionFrom placeholder 0 marks).after "WHERE ".toList).outside =
        (skeleton placeholder).outside :=
    Division.outside_after (outside_skeletonMarks drafted placeholder) _
  have sharedCut := orderly.cut_where (Lexicon.shared_apart dialect) Marker.shared_writes dialect
    (Draft.combinedShape word drafts)
  have nativeCut := orderly.cut_where (Lexicon.native_apart dialect) (Marker.native_writes dialect)
    dialect (Draft.combinedShape word drafts)
  refine ⟨drafts.flatMap Draft.columns, resolves_flatMap drafted, ?_, ?_, ?_⟩
  · rw [← names, ← Mark.names_divisionFrom (fun index => "@" ++ toString index) 0, ← outside]
    exact sharedCut.identifies
  · rw [← names, ← Mark.names_divisionFrom (fun index => dialect.placeholder (index + 1)) 0,
      ← outside]
    exact nativeCut.identifies
  · intro m entities head statement same stated
    have spoken : entities.style = dialect.style := by rw [← speaks, ← same]; rfl
    obtain ⟨table, found, params, cut⟩ := Entities.cut_statement spoken stated nativeCut
    -- the table is one more name in front, so its characters are not outside either
    have spaced := Division.outside_after (outside fun index => dialect.placeholder (index + 1)) [' ']
    have around := Division.outside_after (Division.outside_behind spaced table "")
      (head.sql ++ " ").toList
    refine ⟨table, found, ?_⟩
    have identified := cut.identifies
    rw [around] at identified
    rw [params, ← names, ← Mark.names_divisionFrom (fun index => dialect.placeholder (index + 1)) 0]
    exact identified

/-- Names that look like quotes, placeholders and conditions, and an empty one. -/
theorem identifiers_recovered_hostile :
    let schema : Schema := { entities := [("E", {
      table := "t]@0?", columns := [("a", ⟨"] = 1 OR [", none⟩), ("b", ⟨"", none⟩)] })] }
    let executor : Executor Id := {
      dialect := .sqlServer, query := fun _ => pure [], scalar := fun _ => pure 0
      execute := fun _ => pure 0 }
    let entities : Entities Id := { executor, schema }
    let predicate : Predicate := .and (.compare .eq (.field ["a"]) (.ofValue (.int 1)))
      (.not (.truth (.field ["b"])))
    ∃ statement division, entities.statementFor .rows "E" predicate = .ok statement ∧
      divide .sqlServer statement.sql = some division ∧
      division.names = ["t]@0?", "] = 1 OR [", ""] ∧
      division.outside.flatMap (placeholdersIn (nativeMarker .sqlServer)) = ["@p1", "@p2"] := by
  intro schema executor entities predicate
  obtain ⟨_, _, full, recovered⟩ := identifiers_recovered .sqlServer .expand .and [predicate]
  obtain ⟨condition, compiled, size⟩ : ∃ condition,
      entities.mapping.condition "E" predicate = .ok condition ∧ condition.params.length = 2 :=
    ⟨_, rfl, rfl⟩
  obtain ⟨statement, stated, same⟩ : ∃ statement,
      entities.statement .rows "E" condition = .ok statement ∧ statement.params = condition.params :=
    ⟨_, rfl, rfl⟩
  obtain ⟨names, resolves, _, _, inStatement⟩ := recovered rfl rfl (.one compiled)
  obtain ⟨table, found, identified⟩ := inStatement entities .rows statement rfl stated
  obtain ⟨division, divided, sameNames, sameOutside⟩ := identified.scanned
  have resolved : entities.mapping.Resolves "E" ["a", "b"] ["] = 1 OR [", ""] := rfl
  cases Except.ok.inj (resolves.symm.trans resolved)
  cases found
  refine ⟨statement, division, ?_, divided, sameNames, ?_⟩
  · exact bind_eq_ok.mpr ⟨condition, compiled, stated⟩
  · rw [sameOutside, identified.counted, same, size]
    decide

end Mapping

end WhereClause
