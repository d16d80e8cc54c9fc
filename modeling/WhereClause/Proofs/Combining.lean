import WhereClause.Proofs.Joining

/-! Values of combined conditions.

A placeholder denotes the parameter that its number leads to. Combining renumbers the placeholders of
each part by the parameters that stand before its own, so each still denotes the value it denoted in
its part, in whatever order a part uses its numbers and however often. Parts may also be combined in
groups first; that adds parentheses around the groups and changes nothing else.
-/

set_option autoImplicit false

namespace WhereClause

def Chunk.piece? (params : List Value) : Chunk → Option Piece
  | .text content => some (.text content)
  | .param index => params[index]?.map .bound

def Piece.enclosed (pieces : List Piece) : List Piece := .text "(" :: pieces ++ [.text ")"]

namespace Condition

/-- The chunks with every placeholder replaced by the value it denotes. -/
def filled? (condition : Condition) : Option (List Piece) :=
  condition.chunks.mapM (Chunk.piece? condition.params)

/-- Every placeholder denotes one of the condition's own parameters. -/
def Closed (condition : Condition) : Prop :=
  ∀ index, .param index ∈ condition.chunks → index < condition.params.length

theorem Closed.exists_filled {condition : Condition} (closed : condition.Closed) :
    ∃ pieces, condition.filled? = some pieces := by
  apply exists_mapM_some
  intro chunk member
  cases chunk with
  | text content => exact ⟨.text content, rfl⟩
  | param index =>
    have bound := closed index member
    exact ⟨.bound condition.params[index], by simp [Chunk.piece?, bound]⟩

def Fill (params : List Value) : List Chunk → List Piece → Prop :=
  List.Forall₂ fun chunk piece => chunk.piece? params = some piece

section Filling

variable {before own after : List Value}

/-- A renumbered chunk denotes among all parameters what it denotes among those of its part. -/
theorem piece?_shift {chunk : Chunk} {piece : Piece} (denotes : chunk.piece? own = some piece) :
    (shiftChunk before.length chunk).piece? (before ++ (own ++ after)) = some piece := by
  cases chunk with
  | text content => exact denotes
  | param index =>
    obtain ⟨value, found, rfl⟩ := Option.map_eq_some_iff.mp denotes
    have bound := (List.getElem?_eq_some_iff.mp found).1
    have moved : (before ++ (own ++ after))[index + before.length]? = some value := by
      rw [List.getElem?_append_right (by omega), Nat.add_sub_cancel,
        List.getElem?_append_left bound, found]
    simp [shiftChunk, Chunk.piece?, moved]

theorem fill_grouped {part : Condition} {pieces : List Piece} (filled : part.filled? = some pieces) :
    Fill (before ++ (part.params ++ after)) (part.grouped before.length) (Piece.enclosed pieces) := by
  have shifted : Fill (before ++ (part.params ++ after))
      (part.chunks.map (shiftChunk before.length)) pieces :=
    List.forall₂_map_left_iff.mpr ((mapM_some_iff.mp filled).imp fun _ _ => piece?_shift)
  exact .cons rfl (List.rel_append shifted (.cons rfl .nil))

end Filling

/-- The parts one behind the other; each is renumbered by all the parameters before its own. -/
theorem fill_joinChunks (separator : String) {parts : List Condition} {fillings : List (List Piece)}
    (filled : List.Forall₂ (fun part pieces => part.filled? = some pieces) parts fillings)
    (before : List Value) :
    Fill (before ++ parts.flatMap Condition.params) (joinChunks separator before.length parts)
      ([.text separator].intercalate (fillings.map Piece.enclosed)) := by
  induction filled generalizing before with
  | nil => exact .nil
  | @cons part pieces parts fillings filled rest ih =>
    have own := @fill_grouped before (parts.flatMap Condition.params) part pieces filled
    cases rest with
    | nil => simpa [joinChunks] using own
    | cons nextFilled rest =>
      -- the parameters of this part stand before those of the parts behind it
      have behind := ih (before ++ part.params)
      simp only [List.append_assoc, List.length_append] at behind
      simp only [List.map_cons, List.intercalate_cons_cons, List.append_assoc] at behind ⊢
      exact List.rel_append own (.cons rfl behind)

theorem combine_several (word : Word) {parts : List Condition} (several : 2 ≤ parts.length) :
    combine word parts = .ok {
      chunks := joinChunks (" " ++ word.sql ++ " ") 0 parts
      params := parts.flatMap Condition.params
      shape := word.shape } := by
  match parts with
  | [] => cases several
  | [_] => simp at several
  | _ :: _ :: _ => rfl

section Grouping

variable {separator : String} {word : Word}

@[simp] theorem shiftChunk_text (offset : Nat) (content : String) :
    shiftChunk offset (.text content) = .text content := rfl

theorem shiftChunk_shiftChunk (offset extra : Nat) (chunk : Chunk) :
    shiftChunk extra (shiftChunk offset chunk) = shiftChunk (offset + extra) chunk := by
  cases chunk with
  | text content => rfl
  | param index => simp [shiftChunk, Nat.add_assoc]

theorem grouped_shift (offset extra : Nat) (part : Condition) :
    (part.grouped offset).map (shiftChunk extra) = part.grouped (offset + extra) := by
  simp [grouped, shiftChunk_shiftChunk, Function.comp_def]

/-- Parts that are combined behind others are renumbered as a whole. -/
theorem joinChunks_shift (offset extra : Nat) (parts : List Condition) :
    (joinChunks separator offset parts).map (shiftChunk extra) =
      joinChunks separator (offset + extra) parts := by
  induction parts generalizing offset with
  | nil => rfl
  | cons part parts ih =>
    cases parts with
    | nil => exact grouped_shift offset extra part
    | cons next parts =>
      have behind := ih (offset + part.params.length)
      rw [Nat.add_right_comm] at behind
      simp [joinChunks, grouped_shift, behind]

theorem joinChunks_append {first rest : List Condition} (firstPresent : first ≠ [])
    (restPresent : rest ≠ []) (offset : Nat) :
    joinChunks separator offset (first ++ rest) =
      joinChunks separator offset first ++ .text separator ::
        joinChunks separator (offset + (first.flatMap Condition.params).length) rest := by
  induction first generalizing offset with
  | nil => exact absurd rfl firstPresent
  | cons part first ih =>
    cases first with
    | nil =>
      obtain ⟨next, rest, rfl⟩ := List.exists_cons_of_ne_nil restPresent
      simp [joinChunks]
    | cons next first =>
      have behind := ih (by simp) (offset + part.params.length)
      simp only [List.cons_append] at behind
      simp [joinChunks, behind, Nat.add_assoc]

/-- The condition of a group, put in parentheses as one part: its parts keep their own. -/
theorem encloses_group {group : List Condition} {combined : Condition}
    (isCombined : combine word group = .ok combined) :
    combined.params = group.flatMap Condition.params ∧ ∀ offset,
      Encloses (.text "(") (.text ")") (joinChunks (" " ++ word.sql ++ " ") offset group)
        (combined.grouped offset) := by
  match group with
  | [] => cases isCombined
  | [part] =>
    -- a single part stays as it is, so the parentheses are those that it has among all parts
    cases isCombined
    exact ⟨by simp, fun offset => .refl _⟩
  | part :: next :: rest =>
    cases isCombined
    refine ⟨rfl, fun offset => ?_⟩
    rw [grouped, joinChunks_shift, Nat.zero_add]
    exact (Encloses.refl _).enclosed

theorem ne_nil_of_combine {group : List Condition} {combined : Condition}
    (isCombined : combine word group = .ok combined) : group ≠ [] := by
  rintro rfl
  cases isCombined

theorem encloses_groups {groups : List (List Condition)} {combined : List Condition}
    (areCombined : List.Forall₂ (fun group part => combine word group = .ok part) groups combined)
    (offset : Nat) :
    Encloses (.text "(") (.text ")") (joinChunks (" " ++ word.sql ++ " ") offset groups.flatten)
      (joinChunks (" " ++ word.sql ++ " ") offset combined) := by
  induction areCombined generalizing offset with
  | nil => exact .nil
  | @cons group part groups combined isCombined rest ih =>
    obtain ⟨params, encloses⟩ := encloses_group isCombined
    cases rest with
    | nil => simpa [joinChunks] using encloses offset
    | @cons next _ others _ nextCombined rest =>
      have present := ne_nil_of_combine isCombined
      have restPresent : (next :: others).flatten ≠ [] := by simp [ne_nil_of_combine nextCombined]
      rw [List.flatten_cons, joinChunks_append present restPresent, ← params]
      exact (encloses offset).append (.cons _ (ih _))

theorem flatMap_params_groups {groups : List (List Condition)} {combined : List Condition}
    (areCombined : List.Forall₂ (fun group part => combine word group = .ok part) groups combined) :
    combined.flatMap Condition.params = groups.flatten.flatMap Condition.params := by
  induction areCombined with
  | nil => rfl
  | cons isCombined _ ih => simp [(encloses_group isCombined).1, ih]

theorem exists_combine {parts : List Condition} (present : parts ≠ []) :
    ∃ whole, combine word parts = .ok whole := by
  match parts with
  | [] => exact absurd rfl present
  | [part] => exact ⟨part, rfl⟩
  | _ :: _ :: _ => exact ⟨_, rfl⟩

/-- Combining the conditions of groups adds parentheses around them; a single group is all there
is, and gets none. -/
theorem combine_groups {groups : List (List Condition)} {combined : List Condition}
    (areCombined : List.Forall₂ (fun group part => combine word group = .ok part) groups combined)
    (several : 2 ≤ groups.flatten.length) :
    ∃ again, combine word combined = .ok again ∧
      again.params = groups.flatten.flatMap Condition.params ∧
      Encloses (.text "(") (.text ")") (joinChunks (" " ++ word.sql ++ " ") 0 groups.flatten)
        again.chunks := by
  have params := flatMap_params_groups areCombined
  have encloses := encloses_groups areCombined 0
  match combined with
  | [] =>
    cases areCombined
    cases several
  | [part] =>
    obtain ⟨group, rest, isCombined, none, rfl⟩ := List.forall₂_cons_right_iff.mp areCombined
    cases List.forall₂_nil_right_iff.mp none
    simp only [List.flatten_cons, List.flatten_nil, List.append_nil] at several ⊢
    rw [combine_several word several] at isCombined
    cases isCombined
    exact ⟨_, rfl, rfl, .refl _⟩
  | _ :: _ :: _ => exact ⟨_, rfl, params, encloses⟩

end Grouping

/-- Conditions that are combined keep their values: the parameters are those of the parts, one part
after the other, and with every placeholder replaced by the value it denotes, the parts stand in
parentheses with the word between them. Combining consecutive parts in groups first gives the same
parameters and the same chunks with parentheses added. -/
theorem combine_filled (word : Word) {parts : List Condition} (several : 2 ≤ parts.length)
    (closed : ∀ part ∈ parts, part.Closed) :
    ∃ whole fillings, combine word parts = .ok whole ∧
      whole.params = parts.flatMap Condition.params ∧
      parts.mapM filled? = some fillings ∧
      whole.filled? = some
        ([.text (" " ++ word.sql ++ " ")].intercalate (fillings.map Piece.enclosed)) ∧
      ∀ groups : List (List Condition), groups.flatten = parts → (∀ group ∈ groups, group ≠ []) →
        ∃ combined again, groups.mapM (combine word) = .ok combined ∧
          combine word combined = .ok again ∧ again.params = whole.params ∧
          Encloses (.text "(") (.text ")") whole.chunks again.chunks := by
  obtain ⟨fillings, filled⟩ := exists_mapM_some fun part member => (closed part member).exists_filled
  refine ⟨_, fillings, combine_several word several, rfl, filled, ?_, ?_⟩
  · exact mapM_some_iff.mpr (fill_joinChunks (" " ++ word.sql ++ " ") (mapM_some_iff.mp filled) [])
  · rintro groups rfl present
    obtain ⟨combined, areCombined⟩ :=
      exists_mapM_eq_ok.mpr fun group member => @exists_combine word group (present group member)
    obtain ⟨again, isCombined, params, encloses⟩ :=
      combine_groups (mapM_eq_ok.mp areCombined) several
    exact ⟨combined, again, areCombined, isCombined, params, encloses⟩

/-- A part that uses its parameters twice and in another order, one without parameters, and a third,
of which the last two are combined first. -/
theorem combine_filled_twice :
    let range : Condition := {
      chunks := [.param 1, .text " < ", .text "[a]", .text " OR ", .param 1, .text " = ", .param 0]
      params := [.int 1, .int 2]
      shape := .or }
    let absent : Condition := { chunks := [.text "[b]", .text " IS NULL"], params := [], shape := .atom }
    let equal : Condition := {
      chunks := [.text "[c]", .text " = ", .param 0], params := [.int 3], shape := .atom }
    ∃ whole combined again, combine .and [range, absent, equal] = .ok whole ∧
      [[range], [absent, equal]].mapM (combine .and) = .ok combined ∧
      combine .and combined = .ok again ∧
      whole.text = "(@1 < [a] OR @1 = @0) AND ([b] IS NULL) AND ([c] = @2)" ∧
      again.text = "(@1 < [a] OR @1 = @0) AND (([b] IS NULL) AND ([c] = @2))" ∧
      whole.filled? = some [.text "(", .bound (.int 2), .text " < ", .text "[a]", .text " OR ",
        .bound (.int 2), .text " = ", .bound (.int 1), .text ")", .text " AND ", .text "(",
        .text "[b]", .text " IS NULL", .text ")", .text " AND ", .text "(", .text "[c]", .text " = ",
        .bound (.int 3), .text ")"] ∧
      again.params = whole.params ∧
      Encloses (.text "(") (.text ")") whole.chunks again.chunks := by
  intro range absent equal
  have closed : ∀ part ∈ [range, absent, equal], part.Closed := by
    simp only [List.forall_mem_cons, List.not_mem_nil, false_implies, implies_true, and_true, Closed]
    refine ⟨?_, ?_, ?_⟩ <;> simp [range, absent, equal]
  obtain ⟨whole, fillings, isWhole, -, areFilled, filled, regroups⟩ :=
    combine_filled .and (by decide : 2 ≤ [range, absent, equal].length) closed
  obtain ⟨combined, again, areCombined, isAgain, params, encloses⟩ :=
    regroups [[range], [absent, equal]] rfl (by simp)
  cases isWhole
  cases areCombined
  cases isAgain
  cases areFilled
  exact ⟨_, _, _, rfl, rfl, rfl, by decide, by decide, filled, params, encloses⟩

end Condition

end WhereClause
