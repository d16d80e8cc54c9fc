import WhereClause.Proofs.Joints

/-! Grouping of conditions.

Whether AND binds stronger than OR never matters for a condition: each of its groups, and the
top level, is joined by one connective at most, and the shape tells the one at the top level.
This is read off the joints of the text, outside of quoted names.
-/

set_option autoImplicit false

namespace WhereClause

open Sql

namespace Joint

/-- The depth behind some joints, unless one of them closes more than is open. -/
def depthFrom : (depth : Nat) → List Joint → Option Nat
  | depth, [] => some depth
  | depth, .opening :: rest => depthFrom (depth + 1) rest
  | 0, .closing :: _ => none
  | depth + 1, .closing :: rest => depthFrom depth rest
  | depth, .connective _ :: rest => depthFrom depth rest

/-- The connectives that stand directly in a group, up to its end. The depth is that of the
groups inside of it. -/
def direct : (depth : Nat) → List Joint → List Word
  | _, [] => []
  | depth, .opening :: rest => direct (depth + 1) rest
  | 0, .closing :: _ => []
  | depth + 1, .closing :: rest => direct depth rest
  | 0, .connective word :: rest => word :: direct 0 rest
  | depth + 1, .connective _ :: rest => direct (depth + 1) rest

def groups : List Joint → List (List Word)
  | [] => []
  | .opening :: rest => direct 0 rest :: groups rest
  | .closing :: rest => groups rest
  | .connective _ :: rest => groups rest

end Joint

open Joint

/-- Connectives that can stand in one group without any rule of precedence. -/
def Unmixed (words : List Word) : Prop := ¬ (.and ∈ words ∧ .or ∈ words)

/-- Joints whose grouping is written out, with a shape that tells what joins the top level. -/
structure WellGrouped (shape : Shape) (joints : List Joint) : Prop where
  balanced : depthFrom 0 joints = some 0
  unmixed : ∀ words ∈ direct 0 joints :: groups joints, Unmixed words
  and_iff : shape = .and ↔ .and ∈ direct 0 joints
  or_iff : shape = .or ↔ .or ∈ direct 0 joints
  atom_iff : shape = .atom ↔ direct 0 joints = []

inductive Arranged : Shape → List Joint → Prop where
  | test : Arranged .atom []
  | group {shape : Shape} {joints : List Joint} :
      Arranged shape joints → Arranged .atom (.opening :: joints ++ [.closing])
  | join (word : Word) {left right : Shape} {joints others : List Joint} :
      Arranged left joints → Arranged right others →
      left = .atom ∨ left = word.shape → right = .atom ∨ right = word.shape →
      Arranged word.shape (joints ++ .connective word :: others)

namespace Arranged

variable {shape : Shape} {joints : List Joint}

/-- Behind arranged joints the depth is what it was in front of them. -/
theorem depthFrom_append (arranged : Arranged shape joints) (depth : Nat) (rest : List Joint) :
    depthFrom depth (joints ++ rest) = depthFrom depth rest := by
  induction arranged generalizing depth rest with
  | test => rfl
  | group _ ih => simp [depthFrom, ih]
  | join word _ _ _ _ leftIh rightIh => simp [leftIh, depthFrom, rightIh]

/-- In a group inside of another one, arranged joints are passed over. -/
theorem direct_succ_append (arranged : Arranged shape joints) (depth : Nat) (rest : List Joint) :
    direct (depth + 1) (joints ++ rest) = direct (depth + 1) rest := by
  induction arranged generalizing depth rest with
  | test => rfl
  | group _ ih => simp [direct, ih]
  | join word _ _ _ _ leftIh rightIh => simp [leftIh, direct, rightIh]

/-- The connectives that arranged joints add to the group they stand in are those of their
shape. -/
theorem direct_append (arranged : Arranged shape joints) :
    ∃ words, (∀ word ∈ words, word.shape = shape) ∧ (words = [] ↔ shape = .atom) ∧
      ∀ rest, direct 0 (joints ++ rest) = words ++ direct 0 rest := by
  induction arranged with
  | test => exact ⟨[], by simp, by simp, fun _ => rfl⟩
  | group inner _ => exact ⟨[], by simp, by simp, by simp [direct, inner.direct_succ_append]⟩
  | join word _ _ leftFits rightFits leftIh rightIh =>
    obtain ⟨first, firstShape, firstEmpty, firstDirect⟩ := leftIh
    obtain ⟨second, secondShape, secondEmpty, secondDirect⟩ := rightIh
    have joined : word.shape ≠ .atom := by cases word <;> decide
    -- a side that is an atom adds nothing, and any other side adds the same word
    have fits {side : Shape} {words : List Word} (fit : side = .atom ∨ side = word.shape)
        (empty : words = [] ↔ side = .atom) (same : ∀ other ∈ words, other.shape = side) :
        ∀ other ∈ words, other.shape = word.shape := by
      intro other member
      rcases fit with rfl | rfl
      · simp [empty.mpr rfl] at member
      · exact same other member
    refine ⟨first ++ word :: second, ?_, by simp [joined], ?_⟩
    · simp only [List.forall_mem_append, List.forall_mem_cons]
      exact ⟨fits leftFits firstEmpty firstShape, trivial, fits rightFits secondEmpty secondShape⟩
    · simp [firstDirect, direct, secondDirect]

theorem unmixed_of_shape {words : List Word} (same : ∀ word ∈ words, word.shape = shape) :
    Unmixed words := by
  rintro ⟨hasAnd, hasOr⟩
  cases (same _ hasAnd).trans (same _ hasOr).symm

/-- Arranged joints add no mixed group to those behind them. -/
theorem groups_append (arranged : Arranged shape joints) (rest : List Joint) :
    ∀ words ∈ groups (joints ++ rest), Unmixed words ∨ words ∈ groups rest := by
  induction arranged generalizing rest with
  | test => exact fun _ => .inr
  | group inner ih =>
    obtain ⟨own, same, _, read⟩ := inner.direct_append
    intro words member
    simp only [List.cons_append, List.append_assoc, groups, List.mem_cons, read] at member
    rcases member with rfl | member
    · -- the closing parenthesis ends the group
      exact .inl (by simpa [direct] using unmixed_of_shape same)
    · exact ih (.closing :: rest) words member
  | join word _ _ _ _ leftIh rightIh =>
    intro words member
    rw [List.append_assoc] at member
    rcases leftIh _ words member with unmixed | member
    · exact .inl unmixed
    · exact rightIh _ words member

theorem wellGrouped (arranged : Arranged shape joints) : WellGrouped shape joints := by
  obtain ⟨words, same, empty, read⟩ := arranged.direct_append
  have top : direct 0 joints = words := by simpa [direct] using read []
  have has (word : Word) : shape = word.shape ↔ word ∈ words := by
    constructor
    · intro shaped
      have present : words ≠ [] := by
        rw [Ne, empty, shaped]
        cases word <;> decide
      obtain ⟨other, member⟩ := List.exists_mem_of_ne_nil words present
      have equal : other.shape = word.shape := (same other member).trans shaped
      cases other <;> cases word <;> first | exact member | cases equal
    · exact fun member => (same word member).symm
  refine ⟨by simpa [depthFrom] using arranged.depthFrom_append 0 [], ?_, ?_, ?_, ?_⟩
  · intro group member
    rcases List.mem_cons.mp member with rfl | member
    · exact top ▸ unmixed_of_shape same
    · simpa [groups] using arranged.groups_append [] group (by simpa using member)
  · exact top ▸ has .and
  · exact top ▸ has .or
  · exact top ▸ empty.symm

end Arranged

/-! ### Compiled conditions -/

namespace Mark

theorem joints_enclose (marks : List Mark) :
    (enclose marks).flatMap joints = .opening :: marks.flatMap joints ++ [.closing] := by
  simp [enclose, Phrase.joints]

theorem joints_listed (first : Value) (others : List Value) :
    (listed first others).flatMap joints = [] := by
  induction others generalizing first with
  | nil => rfl
  | cons next rest ih => simp [listed, Phrase.joints, ih]

/-- A side of a connective is an atom or has that connective itself. -/
theorem arranged_grouped {shape : Shape} {marks : List Mark}
    (arranged : Arranged shape (marks.flatMap joints)) (parent : Shape) :
    ∃ side, (side = .atom ∨ side = parent) ∧
      Arranged side ((grouped parent shape marks).flatMap joints) := by
  unfold grouped
  split
  · next bare => exact ⟨shape, by simpa using bare, arranged⟩
  · exact ⟨.atom, .inl rfl, joints_enclose marks ▸ arranged.group⟩

end Mark

@[simp] theorem Slot.joints_mark (slot : Slot) : slot.mark.joints = [] := by cases slot <;> rfl

theorem Draft.arranged (dialect : Dialect) (strategy : Strategy) (draft : Draft) :
    Arranged draft.shape ((draft.marks (dialect.opening strategy)).flatMap Mark.joints) := by
  induction draft with
  | compare op left right => simpa [marks, Phrase.joints, shape] using Arranged.test
  | nullTest present tested => simpa [marks, Phrase.joints, shape] using Arranged.test
  | never => exact .test
  | member item first others =>
    -- every form of a collection is one group without connectives
    have collected :
        (Mark.collected (dialect.opening strategy) first others).flatMap Mark.joints =
          [.opening, .closing] := by
      cases dialect <;> cases strategy <;>
        simp [Mark.collected, Dialect.opening, Mark.joints_listed, Phrase.joints]
    simpa [marks, collected, shape] using Arranged.test.group
  | not inner ih => simpa [marks, Phrase.joints, shape] using ih.group
  | join word left right leftIh rightIh =>
    obtain ⟨leftSide, leftFits, leftArranged⟩ := Mark.arranged_grouped leftIh word.shape
    obtain ⟨rightSide, rightFits, rightArranged⟩ := Mark.arranged_grouped rightIh word.shape
    simpa [marks, Phrase.joints, shape] using
      Arranged.join word leftArranged rightArranged leftFits rightFits

namespace Condition

/-- Conditions that compiling and combining can give in any nesting, with mappings that speak
some of the dialects. -/
inductive SpokenIn (dialects : List Dialect) : Condition → Prop where
  | compiled {mapping : Mapping} {dialect : Dialect} {entity : String} {predicate : Predicate}
      {condition : Condition} :
      dialect ∈ dialects → mapping.style = dialect.style →
      mapping.condition entity predicate = .ok condition → SpokenIn dialects condition
  | compiledAll {mapping : Mapping} {dialect : Dialect} {entity : String} {word : Word}
      {predicates : List Predicate} {condition : Condition} :
      dialect ∈ dialects → mapping.style = dialect.style →
      mapping.conditionAll entity word predicates = .ok condition → SpokenIn dialects condition
  | combined {word : Word} {parts : List Condition} {condition : Condition} :
      (∀ part ∈ parts, SpokenIn dialects part) → combine word parts = .ok condition →
      SpokenIn dialects condition

def HasJoints (dialects : List Dialect) (chunks : List Chunk) (joints : List Joint) : Prop :=
  ∀ placeholder, Jointless dialects placeholder →
    Passes dialects (render placeholder chunks).toList joints

def Joined (dialects : List Dialect) (condition : Condition) : Prop :=
  ∃ joints, Arranged condition.shape joints ∧ HasJoints dialects condition.chunks joints

variable {dialects : List Dialect}

theorem toList_render_append (placeholder : Nat → String) (first rest : List Chunk) :
    (render placeholder (first ++ rest)).toList =
      (render placeholder first).toList ++ (render placeholder rest).toList := by
  simp [render, String.toList_join]

theorem toList_render_text (placeholder : Nat → String) (content : String) (rest : List Chunk) :
    (render placeholder (.text content :: rest)).toList =
      content.toList ++ (render placeholder rest).toList := by
  simp [render, String.toList_join]

theorem render_shift (placeholder : Nat → String) (offset : Nat) (chunks : List Chunk) :
    render placeholder (chunks.map (shiftChunk offset)) =
      render (fun index => placeholder (index + offset)) chunks := by
  unfold render
  rw [List.map_map]
  congr 2
  funext chunk
  cases chunk <;> rfl

theorem joined_compiled {mapping : Mapping} {dialect : Dialect} {entity : String}
    {predicate : Predicate} {condition : Condition} (known : dialect ∈ dialects)
    (speaks : mapping.style = dialect.style)
    (compiled : mapping.condition entity predicate = .ok condition) :
    condition.Joined dialects := by
  obtain ⟨draft, _, rfl⟩ := mapping.condition_spelled speaks compiled
  refine ⟨_, draft.arranged dialect mapping.membership, ?_⟩
  intro placeholder jointless
  have orderly := draft.orderly_marks _ (dialect.opening_fits mapping.membership)
  simpa only [Clause.condition, Mark.toList_render] using orderly.passes known jointless 0

/-- A part in parentheses is one group, and what stands behind it is read on its own. -/
theorem HasJoints.grouped {part : Condition} {joints others : List Joint} {rest : List Chunk}
    (reads : HasJoints dialects part.chunks joints) (readsRest : HasJoints dialects rest others)
    (offset : Nat) :
    HasJoints dialects (part.grouped offset ++ rest)
      (.opening :: joints ++ [.closing] ++ others) := by
  intro placeholder jointless
  obtain ⟨_, _, opens, readOpen⟩ := Phrase.run_text dialects .openParen
  obtain ⟨_, _, closes, readClose⟩ := Phrase.run_text dialects .closeParen
  obtain rfl := opens rfl
  obtain rfl := closes rfl
  have inner := reads _ fun index => jointless (index + offset)
  have closed := Passes.after readClose (readsRest placeholder jointless)
  have stop := @Mark.breaks_phrase .closeParen rfl (render placeholder rest).toList
  have whole := Passes.after readOpen (inner.append stop closed)
  simpa [Condition.grouped, toList_render_append, toList_render_text, render_shift, Phrase.text,
    Phrase.joints] using whole

theorem HasJoints.nil : HasJoints dialects [] [] := fun _ _ => .nil

theorem HasJoints.connective {word : Word} {rest : List Chunk} {joints : List Joint}
    (reads : HasJoints dialects rest joints) :
    HasJoints dialects (.text (" " ++ word.sql ++ " ") :: rest) (.connective word :: joints) := by
  intro placeholder jointless
  obtain ⟨_, _, back, read⟩ := Phrase.run_text dialects (.connective word)
  obtain rfl := back rfl
  have whole := Passes.after read (reads placeholder jointless)
  rwa [toList_render_text]

/-- The parts are joined one behind the other; a single one is an atom. -/
theorem joined_joinChunks (word : Word) {parts : List Condition} {first : Condition}
    (joinedFirst : first.Joined dialects) (joined : ∀ part ∈ parts, part.Joined dialects)
    (offset : Nat) :
    ∃ joints, Arranged (if parts = [] then .atom else word.shape) joints ∧
      HasJoints dialects (joinChunks (" " ++ word.sql ++ " ") offset (first :: parts)) joints := by
  obtain ⟨joints, arranged, reads⟩ := joinedFirst
  induction parts generalizing first joints offset with
  | nil => exact ⟨_, arranged.group, by simpa [joinChunks] using reads.grouped .nil offset⟩
  | cons next rest ih =>
    obtain ⟨nextJoints, nextArranged, nextReads⟩ := joined next List.mem_cons_self
    obtain ⟨others, othersArranged, othersRead⟩ :=
      ih (fun part member => joined part (List.mem_cons_of_mem next member))
        (offset + first.params.length) nextJoints nextArranged nextReads
    refine ⟨_, Arranged.join word arranged.group othersArranged (.inl rfl) ?_, ?_⟩
    · split
      · exact .inl rfl
      · exact .inr rfl
    · exact reads.grouped othersRead.connective offset

theorem joined_combine {word : Word} {parts : List Condition} {condition : Condition}
    (joined : ∀ part ∈ parts, part.Joined dialects)
    (combined : combine word parts = .ok condition) : condition.Joined dialects := by
  match parts with
  | [] => cases combined
  | [part] => exact Except.ok.inj combined ▸ joined part (by simp)
  | part :: next :: rest =>
    rw [← Except.ok.inj combined]
    exact joined_joinChunks word (joined part (by simp))
      (fun other member => joined other (List.mem_cons_of_mem part member)) 0

theorem SpokenIn.joined {condition : Condition} (spoken : SpokenIn dialects condition) :
    condition.Joined dialects := by
  induction spoken with
  | compiled known speaks compiled => exact joined_compiled known speaks compiled
  | compiledAll known speaks compiled =>
    obtain ⟨parts, partsCompiled, combined⟩ := bind_eq_ok.mp compiled
    apply joined_combine _ combined
    intro part member
    obtain ⟨predicate, _, partCompiled⟩ := mapM_mem partsCompiled member
    exact joined_compiled known speaks partCompiled
  | combined _ combined ih => exact joined_combine ih combined

/-- However a condition was compiled and combined, its text, its statement and what is sent to
the database of any dialect have the same joints: parentheses match, no group is joined by two
connectives, and the shape tells what joins the top level. -/
theorem spoken_wellGrouped {condition : Condition} (spoken : SpokenIn dialects condition) :
    ∃ joints, WellGrouped condition.shape joints ∧
      joints? dialects condition.text = some joints ∧
      joints? dialects condition.sql = some joints ∧
      ∀ dialect : Dialect, joints? dialects (condition.native dialect.style) = some joints := by
  obtain ⟨joints, arranged, reads⟩ := spoken.joined
  have whole {placeholder : Nat → String} (jointless : Jointless dialects placeholder) :
      joints? dialects ("WHERE " ++ render placeholder condition.chunks) = some joints := by
    have plain : Plain "WHERE ".toList := by decide
    have lead : Place.start.run dialects "WHERE ".toList = (.start, []) := by
      rw [Place.start, Place.run_plain fun c member => (plain c member).1]
      decide
    apply Passes.joints?_eq
    simpa using Passes.after lead (reads placeholder jointless)
  have shared := Marker.shared_writes.jointless dialects
  exact ⟨joints, arranged.wellGrouped, (reads _ shared).joints?_eq, whole shared,
    fun dialect => whole ((Marker.native_writes dialect).jointless dialects)⟩

/-- Parts of two dialects, one of them with a name that looks like the end of a group. -/
theorem spoken_wellGrouped_mixed :
    ∃ condition joints, SpokenIn [.sqlServer, .postgresql] condition ∧
      condition.text = "([a]]) AND (] = @0 OR [b] = @1) AND (NOT (\"c\" = @2 AND \"d\" = @3))" ∧
      WellGrouped .and joints ∧
      joints? [.sqlServer, .postgresql] condition.text = some joints ∧
      groups joints = [[.or], [], [.and]] := by
  let truth (member : String) : Predicate := .truth (.field [member])
  let brackets := Mapping.identity Dialect.sqlServer.style
  let doubled := Mapping.identity Dialect.postgresql.style
  let denied : Predicate := .not (.and (truth "c") (truth "d"))
  obtain ⟨first, firstCompiled⟩ : ∃ first,
      brackets.conditionAll "E" .and [.or (truth "a]) AND (") (truth "b")] = .ok first := ⟨_, rfl⟩
  obtain ⟨second, secondCompiled⟩ : ∃ second,
      doubled.condition "E" denied = .ok second := ⟨_, rfl⟩
  obtain ⟨condition, combined⟩ : ∃ condition, combine .and [first, second] = .ok condition :=
    ⟨_, rfl⟩
  have spoken : SpokenIn [.sqlServer, .postgresql] condition := by
    refine .combined ?_ combined
    simp only [List.forall_mem_cons, List.not_mem_nil, false_implies, implies_true, and_true]
    exact ⟨.compiledAll (by simp) rfl firstCompiled, .compiled (by simp) rfl secondCompiled⟩
  obtain ⟨joints, grouped, read, -⟩ := spoken_wellGrouped spoken
  cases firstCompiled
  cases secondCompiled
  cases combined
  have found : some joints = some [.opening, .connective .or, .closing, .connective .and,
      .opening, .opening, .connective .and, .closing, .closing] := by
    rw [← read]
    decide
  cases found
  exact ⟨_, _, spoken, by decide, grouped, read, by decide⟩

end Condition

end WhereClause
