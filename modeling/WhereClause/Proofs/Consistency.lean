import WhereClause.Proofs.Inheritance

/-! Definitions that make a schema.

Base links may lead anywhere: up a chain, to an entity that is not defined, or into a cycle, also
from entities outside of it. `Ascends` says that they lead to an entity without a base. Just the
definitions where this holds of every entity, and where names and converters are in order, are
built into a schema. The way up depends only on which entities are defined, so neither their order
nor other entities beside them change what is known of an entity.
-/

set_option autoImplicit false

namespace WhereClause.Schema

/-- Base links lead from an entity to those above it, up to one that has no base. -/
inductive Ascends (defs : List EntityDef) : EntityDef → (above : List EntityDef) → Prop where
  | root {entity : EntityDef} : entity.base = none → Ascends defs entity []
  | base {entity parent : EntityDef} {above : List EntityDef} :
      parent ∈ defs → entity.base = some parent.name → Ascends defs parent above →
      Ascends defs entity (parent :: above)

/-- Base links lead to an entity without a base, and to no entity twice on the way. -/
def Founded (defs : List EntityDef) (entity : EntityDef) : Prop :=
  ∃ above, Ascends defs entity above ∧ ((entity :: above).map EntityDef.name).Nodup

structure Consistent (registry : Registry) (defs : List EntityDef) : Prop where
  valid : ValidEntities registry defs
  founded : ∀ entity ∈ defs, Founded defs entity

section Climb

variable {defs chain above : List EntityDef} {entity parent : EntityDef} {base : String}

theorem find?_base (distinct : (defs.map EntityDef.name).Nodup) (based : entity.base = some base)
    (defined : parent ∈ defs) (leads : entity.base = some parent.name) :
    find? defs base = some parent := by
  cases based.symm.trans leads
  exact (find?_named distinct).mpr ⟨defined, rfl⟩

theorem ascends_baseless (baseless : entity.base = none) :
    Ascends defs entity above ↔ above = [] := by
  constructor
  · rintro (_ | ⟨_, based, _⟩)
    · rfl
    · cases baseless.symm.trans based
  · rintro rfl
    exact .root baseless

theorem ascends_based (distinct : (defs.map EntityDef.name).Nodup) (based : entity.base = some base)
    (found : find? defs base = some parent) :
    Ascends defs entity above ↔ ∃ higher, parent :: higher = above ∧ Ascends defs parent higher := by
  obtain ⟨defined, named⟩ := (find?_named distinct).mp found
  constructor
  · rintro (baseless | ⟨otherDefined, leads, ascends⟩)
    · cases baseless.symm.trans based
    · cases found.symm.trans (find?_base distinct based otherDefined leads)
      exact ⟨_, rfl, ascends⟩
  · rintro ⟨higher, rfl, ascends⟩
    exact .base defined (named ▸ based) ascends

/-- The climb succeeds exactly if base links lead to an entity without a base, over entities that
are neither repeated nor passed before. -/
theorem ancestors_eq_ok {current : EntityDef} (distinct : (defs.map EntityDef.name).Nodup) :
    ancestors defs chain current = .ok above ↔ Ascends defs current above ∧
      (above.map EntityDef.name).Nodup ∧ ∀ ancestor ∈ above, ∀ passed ∈ chain,
        passed.name ≠ ancestor.name := by
  -- along the climb; the chain holds what has been passed, and each round adds the parent
  fun_induction ancestors defs chain current generalizing above with
  | case1 chain current baseless =>
    rw [ascends_baseless baseless]
    constructor
    · rintro ⟨⟩
      simp
    · rintro ⟨rfl, _⟩
      rfl
  | case2 chain current base based unknown =>
    constructor
    · intro failed
      cases failed
    · rintro ⟨baseless | ⟨defined, leads, _⟩, _⟩
      · cases baseless.symm.trans based
      · cases unknown.symm.trans (find?_base distinct based defined leads)
  | case3 chain current base based parent found fresh ih =>
    have unpassed : ∀ passed ∈ chain, passed.name ≠ parent.name := by simpa using fresh
    rw [map_eq_ok, ascends_based distinct based found]
    constructor
    · rintro ⟨higher, climbed, rfl⟩
      obtain ⟨ascends, once, apart⟩ := ih.mp climbed
      refine ⟨⟨higher, rfl, ascends⟩, ?_, ?_⟩
      · exact nodup_names_cons.mpr ⟨fun other member => (apart other member parent (by simp)).symm, once⟩
      · rw [List.forall_mem_cons]
        exact ⟨unpassed, fun other member passed earlier => apart other member passed (by simp [earlier])⟩
    · rintro ⟨⟨higher, rfl, ascends⟩, once, apart⟩
      obtain ⟨fresh, once⟩ := nodup_names_cons.mp once
      refine ⟨higher, ih.mpr ⟨ascends, once, fun other member => ?_⟩, rfl⟩
      rw [List.forall_mem_cons]
      exact ⟨(fresh other member).symm, apart other (by simp [member])⟩
  | case4 chain current base based parent found visited =>
    rw [ascends_based distinct based found]
    constructor
    · intro failed
      cases failed
    · rintro ⟨⟨higher, rfl, _⟩, _, apart⟩
      refine absurd ?_ visited
      simpa using apart parent (by simp)

theorem lineage_eq_ok (distinct : (defs.map EntityDef.name).Nodup) :
    lineage defs entity = .ok chain ↔ ∃ above, entity :: above = chain ∧
      Ascends defs entity above ∧ ((entity :: above).map EntityDef.name).Nodup := by
  simp only [lineage, map_eq_ok, ancestors_eq_ok distinct, nodup_names_cons, List.mem_singleton,
    forall_eq]
  constructor
  · rintro ⟨above, ⟨ascends, once, apart⟩, same⟩
    exact ⟨above, same, ascends, fun other member => (apart other member).symm, once⟩
  · rintro ⟨above, same, ascends, apart, once⟩
    exact ⟨above, ⟨ascends, once, fun other member => (apart other member).symm⟩, same⟩

/-- The climb as a loop that is stopped after so many rounds. -/
def climb (defs : List EntityDef) : (rounds : Nat) → (chain : List EntityDef) →
    (current : EntityDef) → Option (Except SchemaIssue (List EntityDef))
  | 0, _, _ => none
  | rounds + 1, chain, current =>
    match current.base with
    | none => some (.ok [])
    | some base =>
      match find? defs base with
      | none => some (.error (.unknownBase current.name base))
      | some parent =>
        if chain.any (·.name == parent.name) then some (.error (.cycle parent.name))
        else (climb defs rounds (parent :: chain) parent).map (Except.map (parent :: ·))

/-- Each round takes one of the definitions that are not on the chain yet. -/
theorem climb_eq {rounds : Nat} {current : EntityDef} (enough : unvisited defs chain < rounds) :
    climb defs rounds chain current = some (ancestors defs chain current) := by
  induction rounds generalizing chain current with
  | zero => cases enough
  | succ rounds ih =>
    fun_cases ancestors defs chain current with
    | case1 baseless => simp [climb, baseless]
    | case2 base based unknown => simp [climb, based, unknown]
    | case3 base based parent found fresh =>
      have fewer := unvisited_lt (List.mem_of_find?_eq_some found) fresh
      have rest := @ih (parent :: chain) parent (by omega)
      simp [climb, based, found, fresh, rest]
    | case4 base based parent found visited => simp [climb, based, found, visited]

/-- As many rounds as there are definitions are enough for every climb. -/
theorem climb_length (defined : entity ∈ defs) :
    climb defs defs.length [entity] entity = some (ancestors defs [entity] entity) := by
  apply climb_eq
  have fewer : unvisited defs [entity] < unvisited defs [] := unvisited_lt defined rfl
  have most : unvisited defs [] ≤ defs.length := List.length_filter_le _ _
  omega

end Climb

section Accepted

variable {registry : Registry} {defs : List EntityDef} {entity : EntityDef}

theorem exists_entityInfo (distinct : (defs.map EntityDef.name).Nodup) :
    (∃ info, entityInfo registry defs entity = .ok info) ↔ Founded defs entity := by
  simp only [entityInfo, bind_eq_ok, pure_eq_ok, lineage_eq_ok distinct]
  constructor
  · rintro ⟨_, _, ⟨above, _, ascends, once⟩, _⟩
    exact ⟨above, ascends, once⟩
  · rintro ⟨above, ascends, once⟩
    exact ⟨_, _, ⟨above, rfl, ascends, once⟩, rfl⟩

theorem exists_build :
    (∃ schema, build defs registry = .ok schema) ↔ Consistent registry defs := by
  constructor
  · rintro ⟨schema, built⟩
    obtain ⟨valid, entered⟩ := build_eq_ok built
    refine ⟨valid, fun entity defined => ?_⟩
    obtain ⟨info, _, resolved⟩ := lookup_entered entered valid.distinct defined
    exact (exists_entityInfo valid.distinct).mp ⟨info, resolved⟩
  · rintro ⟨valid, founded⟩
    have checked : checkEntities registry [] defs = .ok () :=
      checkEntities_eq_ok.mpr ⟨valid, by simp⟩
    -- the entities are resolved one by one, each against all definitions
    have resolves : ∀ entity ∈ defs, ∃ entry, (do
        return (entity.name, ← entityInfo registry defs entity)) = Except.ok entry := by
      intro entity defined
      obtain ⟨info, resolved⟩ := (exists_entityInfo valid.distinct).mpr (founded entity defined)
      exact ⟨_, bind_eq_ok.mpr ⟨info, resolved, rfl⟩⟩
    obtain ⟨entries, resolved⟩ := exists_mapM_eq_ok.mpr resolves
    refine ⟨{ entities := entries }, mapError_eq_ok.mpr ?_⟩
    exact bind_eq_ok.mpr ⟨(), checked, bind_eq_ok.mpr ⟨entries, resolved, rfl⟩⟩

theorem exists_build_error :
    (∃ issue, build defs registry = .error (.schema issue)) ↔ ¬ Consistent registry defs := by
  rw [← exists_build, build]
  generalize (checkEntities registry [] defs >>= fun _ => _) = built
  cases built <;> simp [Except.mapError]

theorem Inherits.trans {middle ancestor : EntityDef} {near far : Nat}
    (lower : Inherits defs entity near middle) (upper : Inherits defs middle far ancestor) :
    Inherits defs entity (near + far) ancestor := by
  induction lower with
  | self => simpa using upper
  | @base _ _ _ distance defined based _ ih =>
    rw [Nat.add_right_comm distance 1 far]
    exact .base defined based (ih upper)

/-- An entity that leads into a cycle meets an entity at two distances. -/
theorem not_founded_of_cycle (distinct : (defs.map EntityDef.name).Nodup) {looped : EntityDef}
    {near round : Nat} (leads : Inherits defs entity near looped)
    (cycle : Inherits defs looped (round + 1) looped) : ¬ Founded defs entity := by
  rintro ⟨above, ascends, once⟩
  have climbed := (lineage_eq_ok distinct).mpr ⟨above, rfl, ascends, once⟩
  have first := (getElem?_lineage distinct climbed near looped).mpr leads
  have again := (getElem?_lineage distinct climbed _ looped).mpr (leads.trans cycle)
  have bound := (List.getElem?_eq_some_iff.mp first).1
  have same := (List.getElem?_inj bound (List.Nodup.of_map _ once)).mp (first.trans again.symm)
  omega

/-- A schema is built exactly from consistent definitions. All others are refused with an error of
the schema, also where an entity is its own base or only leads into a cycle of others. No climb takes
more rounds than there are definitions. -/
theorem build_accepts (defs : List EntityDef) (registry : Registry) :
    ((∃ schema, build defs registry = .ok schema) ↔ Consistent registry defs) ∧
    ((∃ issue, build defs registry = .error (.schema issue)) ↔ ¬ Consistent registry defs) ∧
    (∀ entity ∈ defs, entity.base = some entity.name →
      ∃ issue, build defs registry = .error (.schema issue)) ∧
    (∀ entity ∈ defs, ∀ looped near round, Inherits defs entity near looped →
      Inherits defs looped (round + 1) looped →
      ∃ issue, build defs registry = .error (.schema issue)) ∧
    ∀ entity ∈ defs,
      climb defs defs.length [entity] entity = some (ancestors defs [entity] entity) := by
  have refused : ∀ entity ∈ defs, ∀ looped near round, Inherits defs entity near looped →
      Inherits defs looped (round + 1) looped →
      ∃ issue, build defs registry = .error (.schema issue) := by
    intro entity defined looped near round leads cycle
    refine exists_build_error.mpr fun consistent => ?_
    exact not_founded_of_cycle consistent.valid.distinct leads cycle (consistent.founded entity defined)
  refine ⟨exists_build, exists_build_error, ?_, refused, fun entity => climb_length⟩
  intro entity defined based
  exact refused entity defined entity 0 0 (.self entity) (.base defined based (.self entity))

/-- A chain of two, and an entity that leads into a cycle of two others. -/
theorem build_accepts_tail :
    let animal : EntityDef := { name := "Animal", members := [{ name := "call" }] }
    let dog : EntityDef := { name := "Dog", base := "Animal", members := [{ name := "call" }] }
    let hen : EntityDef := { name := "Hen", base := "Egg" }
    let egg : EntityDef := { name := "Egg", base := "Hen" }
    let chick : EntityDef := { name := "Chick", base := "Egg" }
    (∃ schema, build [dog, animal] Registry.empty = .ok schema) ∧
      ∃ issue, build [chick, hen, egg] Registry.empty = .error (.schema issue) := by
  intro animal dog hen egg chick
  constructor
  · refine (build_accepts [dog, animal] Registry.empty).1.mpr ⟨⟨by decide, ?_⟩, ?_⟩
    · simp only [List.forall_mem_cons, List.not_mem_nil, false_implies, implies_true, and_true]
      exact ⟨⟨by decide, by simp [dog]⟩, ⟨by decide, by simp [animal]⟩⟩
    · have rooted : Ascends [dog, animal] animal [] := .root rfl
      simp only [List.forall_mem_cons, List.not_mem_nil, false_implies, implies_true, and_true]
      exact ⟨⟨[animal], .base (by simp) rfl rooted, by decide⟩, ⟨[], rooted, by decide⟩⟩
  · have toEgg : Inherits [chick, hen, egg] chick 1 egg := .base (by simp) rfl (.self egg)
    have fromHen : Inherits [chick, hen, egg] hen 1 egg := .base (by simp) rfl (.self egg)
    have around : Inherits [chick, hen, egg] egg 2 egg := .base (by simp) rfl fromHen
    exact (build_accepts [chick, hen, egg] Registry.empty).2.2.2.1 chick (by simp) egg 1 1 toEgg around

end Accepted

section Extended

variable {registry : Registry} {first second : List EntityDef} {entity : EntityDef}

/-- More definitions do not change the way up. -/
theorem Ascends.mono (within : first ⊆ second) {above : List EntityDef}
    (ascends : Ascends first entity above) : Ascends second entity above := by
  induction ascends with
  | root baseless => exact .root baseless
  | base defined based _ ih => exact .base (within defined) based ih

theorem Founded.mono (within : first ⊆ second) (founded : Founded first entity) :
    Founded second entity := by
  obtain ⟨above, ascends, once⟩ := founded
  exact ⟨above, ascends.mono within, once⟩

theorem Consistent.perm (reordered : first.Perm second) (consistent : Consistent registry first) :
    Consistent registry second where
  valid := {
    distinct := (reordered.map EntityDef.name).nodup_iff.mp consistent.valid.distinct
    members := fun entity defined =>
      consistent.valid.members entity (reordered.mem_iff.mpr defined) }
  founded entity defined :=
    (consistent.founded entity (reordered.mem_iff.mpr defined)).mono reordered.subset

theorem entityInfo_mono (within : first ⊆ second) (distinct : (first.map EntityDef.name).Nodup)
    (secondDistinct : (second.map EntityDef.name).Nodup) {info : EntityInfo}
    (resolved : entityInfo registry first entity = .ok info) :
    entityInfo registry second entity = .ok info := by
  obtain ⟨chain, climbed, same⟩ := bind_eq_ok.mp resolved
  obtain ⟨above, listed, ascends, once⟩ := (lineage_eq_ok distinct).mp climbed
  have climbedToo : lineage second entity = .ok chain :=
    (lineage_eq_ok secondDistinct).mpr ⟨above, listed, ascends.mono within, once⟩
  exact bind_eq_ok.mpr ⟨chain, climbedToo, same⟩

theorem entity_of_build {schema : Schema} (built : build first registry = .ok schema)
    (defined : entity ∈ first) :
    ∃ info, schema.entity entity.name = .ok info ∧ entityInfo registry first entity = .ok info := by
  obtain ⟨valid, entered⟩ := build_eq_ok built
  obtain ⟨info, looked, resolved⟩ := lookup_entered entered valid.distinct defined
  exact ⟨info, by simp only [Schema.entity, looked], resolved⟩

/-- What a schema says of an entity stays the same beside more definitions and in any order, and
whether definitions make a schema does not depend on their order. -/
theorem build_extends (registry : Registry) (first second : List EntityDef) :
    (first ⊆ second → ∀ small large, build first registry = .ok small →
      build second registry = .ok large → ∀ entity ∈ first,
        (∃ table, small.tableName entity.name = .ok table ∧ large.tableName entity.name = .ok table) ∧
        ∀ member, small.columnInfo entity.name member = large.columnInfo entity.name member) ∧
    (first.Perm second → ((∃ schema, build first registry = .ok schema) ↔
      ∃ schema, build second registry = .ok schema)) := by
  constructor
  · intro within small large built builtToo entity defined
    have distinct := (build_eq_ok built).1.distinct
    have distinctToo := (build_eq_ok builtToo).1.distinct
    obtain ⟨info, looked, resolved⟩ := entity_of_build built defined
    obtain ⟨other, lookedToo, resolvedToo⟩ := entity_of_build builtToo (within defined)
    cases resolvedToo.symm.trans (entityInfo_mono within distinct distinctToo resolved)
    refine ⟨⟨info.table, ?_, ?_⟩, fun member => ?_⟩
    · rw [tableName, looked]
      rfl
    · rw [tableName, lookedToo]
      rfl
    · rw [columnInfo, columnInfo, looked, lookedToo]
  · intro reordered
    rw [exists_build, exists_build]
    exact ⟨.perm reordered, .perm reordered.symm⟩

/-- A base that is defined behind its heir, and then in front of it with another heir between. -/
theorem build_extends_between :
    let animal : EntityDef := {
      name := "Animal"
      members := [{ name := "call", column := "animal_call", converter := "lowercase" }] }
    let dog : EntityDef := { name := "Dog", base := "Animal", table := "dogs" }
    let cat : EntityDef := { name := "Cat", base := "Animal", members := [{ name := "call" }] }
    ∃ small large, build [dog, animal] Registry.builtins = .ok small ∧
      build [animal, cat, dog] Registry.builtins = .ok large ∧
      (∃ table, small.tableName "Dog" = .ok table ∧ large.tableName "Dog" = .ok table) ∧
      (∀ member, small.columnInfo "Dog" member = large.columnInfo "Dog" member) ∧
      ∃ schema, build [animal, dog] Registry.builtins = .ok schema := by
  intro animal dog cat
  have members : ∀ entity ∈ [animal, cat, dog], ValidMembers Registry.builtins entity.members := by
    simp only [List.forall_mem_cons, List.not_mem_nil, false_implies, implies_true, and_true]
    exact ⟨⟨by decide, by decide⟩, ⟨by decide, by decide⟩, ⟨by decide, by decide⟩⟩
  have heir {defs : List EntityDef} (defined : animal ∈ defs) {entity : EntityDef}
      (based : entity.base = "Animal") (apart : entity.name ≠ "Animal") : Founded defs entity :=
    ⟨[animal], .base defined based (.root rfl), by simpa [animal] using apart⟩
  have root (defs : List EntityDef) : Founded defs animal := ⟨[], .root rfl, by decide⟩
  have within : [dog, animal] ⊆ [animal, cat, dog] := by simp
  have consistent : Consistent Registry.builtins [dog, animal] := by
    refine ⟨⟨by decide, fun entity member => members entity (within member)⟩, ?_⟩
    simp only [List.forall_mem_cons, List.not_mem_nil, false_implies, implies_true, and_true]
    exact ⟨heir (by simp) rfl (by decide), root _⟩
  have consistentToo : Consistent Registry.builtins [animal, cat, dog] := by
    refine ⟨⟨by decide, members⟩, ?_⟩
    simp only [List.forall_mem_cons, List.not_mem_nil, false_implies, implies_true, and_true]
    exact ⟨root _, heir (by simp) rfl (by decide), heir (by simp) rfl (by decide)⟩
  obtain ⟨small, built⟩ := exists_build.mpr consistent
  obtain ⟨large, builtToo⟩ := exists_build.mpr consistentToo
  obtain ⟨table, columns⟩ := (build_extends Registry.builtins [dog, animal] [animal, cat, dog]).1
    within small large built builtToo dog (by simp)
  have swapped := (build_extends Registry.builtins [dog, animal] [animal, dog]).2 (.swap animal dog [])
  exact ⟨small, large, built, builtToo, table, columns, swapped.mp ⟨small, built⟩⟩

end Extended

end WhereClause.Schema
