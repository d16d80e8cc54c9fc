import WhereClause.Cli.Run
import WhereClause.Proofs.Consistency
import WhereClause.Proofs.Draft

/-! Entities that are inferred from predicates.

An entity that the definitions lack is given the members that the predicates about it read. A
condition depends on a mapping only through these members, and each of them is its own column, so
the predicates compile as if every member of every entity were. Whatever else is defined stays as
it was.
-/

set_option autoImplicit false

namespace WhereClause

def Predicate.operands : Predicate → List Operand
  | .compare _ left right => [left, right]
  | .isNull tested => [tested]
  | .isNotNull tested => [tested]
  | .truth tested => [tested]
  | .member item _ => [item]
  | .not inner => inner.operands
  | .and left right => left.operands ++ right.operands
  | .or left right => left.operands ++ right.operands

section Collected

variable {members : List String} {name : String}

theorem Operand.mem_addMember {operand : Operand} :
    name ∈ operand.addMember members ↔ name ∈ members ∨ .field [name] = operand := by
  unfold addMember
  cases operand with
  | constant value type => simp [entityPath?]
  | captured path value => simp [entityPath?]
  | field path =>
    cases path with
    | nil => simp [entityPath?, MemberPath.single?]
    | cons other rest =>
      cases rest with
      | nil =>
        by_cases listed : other ∈ members
        · simp only [entityPath?, MemberPath.single?, Option.bind_some, List.contains_iff_mem, listed,
            if_true]
          grind
        · simp [entityPath?, MemberPath.single?, listed]
      | cons next rest => simp [entityPath?, MemberPath.single?]

theorem Operand.nodup_addMember (operand : Operand) (distinct : members.Nodup) :
    (operand.addMember members).Nodup := by
  unfold addMember
  split
  next other _ =>
    by_cases listed : other ∈ members
    · simpa [listed] using distinct
    · have apart : ∀ earlier ∈ members, earlier ≠ other := by
        rintro earlier member rfl
        exact listed member
      simpa [listed, List.nodup_append, distinct] using apart
  next => exact distinct

/-- The members are collected operand by operand, as they stand. -/
theorem Predicate.addMembers_eq (predicate : Predicate) (members : List String) :
    predicate.addMembers members = predicate.operands.foldl Operand.addMember members := by
  induction predicate generalizing members with
  | compare op left right => rfl
  | isNull tested => rfl
  | isNotNull tested => rfl
  | truth tested => rfl
  | member item collection => rfl
  | not inner ih => exact ih members
  | and left right leftIh rightIh => simp [addMembers, operands, leftIh, rightIh]
  | or left right leftIh rightIh => simp [addMembers, operands, leftIh, rightIh]

theorem mem_collected {operands : List Operand} :
    name ∈ operands.foldl Operand.addMember members ↔ name ∈ members ∨ .field [name] ∈ operands := by
  induction operands generalizing members with
  | nil => simp
  | cons operand operands ih => simp [ih, Operand.mem_addMember, or_assoc]

theorem nodup_collected (operands : List Operand) (distinct : members.Nodup) :
    (operands.foldl Operand.addMember members).Nodup := by
  induction operands generalizing members with
  | nil => exact distinct
  | cons operand operands ih => exact ih (operand.nodup_addMember distinct)

end Collected

namespace Mapping

def converter? (mapping : Mapping) (entity member : String) : Option Converter :=
  mapping.converters.bind fun lookup => lookup entity member

/-- Mappings that differ only in members that no operand reads. -/
structure AlikeOn (first second : Mapping) (entity : String) (operands : List Operand) : Prop where
  style : first.style = second.style
  membership : first.membership = second.membership
  resolve : ∀ member, .field [member] ∈ operands →
    first.resolve entity member = second.resolve entity member
  converter : ∀ member, .field [member] ∈ operands →
    first.converter? entity member = second.converter? entity member

section Alike

variable {first second : Mapping} {entity : String} {operands : List Operand}

theorem AlikeOn.mono {others : List Operand} (alike : AlikeOn first second entity operands)
    (within : others ⊆ operands) : AlikeOn first second entity others where
  style := alike.style
  membership := alike.membership
  resolve member read := alike.resolve member (within read)
  converter member read := alike.converter member (within read)

theorem column_alike (alike : AlikeOn first second entity operands) {path : MemberPath}
    (read : .field path ∈ operands) : first.column entity path = second.column entity path := by
  unfold column
  match path with
  | [] => rfl
  | [member] => simp only [MemberPath.single?, alike.style, alike.resolve member read]
  | _ :: _ :: _ => rfl

theorem peerConverter_eq (mapping : Mapping) (entity : String) (peer : Option MemberPath) :
    mapping.peerConverter entity peer = do
      let member ← MemberPath.single? (← peer)
      return (member, ← mapping.converter? entity member) := by
  unfold peerConverter converter?
  cases mapping.converters <;> cases peer.bind MemberPath.single? <;> simp

theorem convert_alike (alike : AlikeOn first second entity operands) {peer : Operand}
    (read : peer ∈ operands) (value : Value) :
    first.convert entity peer.entityPath? value = second.convert entity peer.entityPath? value := by
  cases peer with
  | constant bound type => exact (convert_none value).trans (convert_none value).symm
  | captured path bound => exact (convert_none value).trans (convert_none value).symm
  | field path =>
    have same : first.peerConverter entity (some path) = second.peerConverter entity (some path) := by
      rw [peerConverter_eq, peerConverter_eq]
      match path with
      | [] => rfl
      | [member] => simp [MemberPath.single?, alike.converter member read]
      | _ :: _ :: _ => rfl
    simp only [Operand.entityPath?, convert, same]

theorem operand_alike (alike : AlikeOn first second entity operands) {operand : Operand}
    (read : operand ∈ operands) {peer : Option MemberPath}
    (converts : ∀ value, first.convert entity peer value = second.convert entity peer value) :
    first.operand entity peer operand = second.operand entity peer operand := by
  cases operand with
  | constant value type => simp only [Mapping.operand, converts]
  | captured path value => simp only [Mapping.operand, converts]
  | field path => simp only [Mapping.operand, column_alike alike read]

theorem operand_alone_alike (alike : AlikeOn first second entity operands) {operand : Operand}
    (read : operand ∈ operands) :
    first.operand entity none operand = second.operand entity none operand := by
  apply operand_alike alike read
  intro value
  rw [convert_none, convert_none]

theorem nullTest_alike (alike : AlikeOn first second entity operands) {tested : Operand}
    (read : tested ∈ operands) (present : Bool) :
    first.nullTest entity present tested = second.nullTest entity present tested := by
  rw [nullTest, nullTest, operand_alone_alike alike read]

theorem nullComparison_alike (alike : AlikeOn first second entity operands) {other : Operand}
    (read : other ∈ operands) (op : Comparison) :
    first.nullComparison entity op other = second.nullComparison entity op other := by
  cases op <;> simp only [nullComparison, nullTest_alike alike read]

theorem compare_alike (alike : AlikeOn first second entity operands) {left right : Operand}
    (leftRead : left ∈ operands) (rightRead : right ∈ operands) (op : Comparison) :
    first.compare entity op left right = second.compare entity op left right := by
  have leftSame := operand_alike alike leftRead (convert_alike alike rightRead)
  have rightSame := operand_alike alike rightRead (convert_alike alike leftRead)
  simp only [compare, nullComparison_alike alike leftRead, nullComparison_alike alike rightRead,
    leftSame, rightSame]

theorem truth_alike (alike : AlikeOn first second entity operands) {tested : Operand}
    (read : tested ∈ operands) (expected : Bool) :
    first.truth entity expected tested = second.truth entity expected tested := by
  simp only [truth, operand_alone_alike alike read, convert_alike alike read]

theorem member_alike (alike : AlikeOn first second entity operands) {item : Operand}
    (read : item ∈ operands) (collection : List Value) :
    first.member entity item collection = second.member entity item collection := by
  have converts : first.convert entity item.entityPath? = second.convert entity item.entityPath? := by
    funext value
    exact convert_alike alike read value
  unfold member
  rw [alike.style, alike.membership, operand_alone_alike alike read, converts]
  -- what is left is the column that an empty collection asks for
  cases item with
  | constant value type => rfl
  | captured path value => rfl
  | field path => simp only [Operand.entityPath?, column_alike alike read]

/-- The clause of a predicate depends on a mapping only through the members that it reads. -/
theorem clause_alike {predicate : Predicate}
    (alike : AlikeOn first second entity predicate.operands) (negated : Bool) :
    first.clause entity negated predicate = second.clause entity negated predicate := by
  induction predicate generalizing negated with
  | compare op left right =>
    exact compare_alike alike (by simp [Predicate.operands]) (by simp [Predicate.operands]) _
  | isNull tested => exact nullTest_alike alike (by simp [Predicate.operands]) _
  | isNotNull tested => exact nullTest_alike alike (by simp [Predicate.operands]) _
  | truth tested => exact truth_alike alike (by simp [Predicate.operands]) _
  | member item collection =>
    have read : item ∈ (Predicate.member item collection).operands := by simp [Predicate.operands]
    simp only [clause, member_alike alike read]
  | not inner ih => exact ih alike (!negated)
  | and left right leftIh rightIh =>
    simp only [clause, leftIh (alike.mono (List.subset_append_left _ _)),
      rightIh (alike.mono (List.subset_append_right _ _))]
  | or left right leftIh rightIh =>
    simp only [clause, leftIh (alike.mono (List.subset_append_left _ _)),
      rightIh (alike.mono (List.subset_append_right _ _))]

theorem mapM_condition_alike {predicates : List Predicate}
    (alike : AlikeOn first second entity (predicates.flatMap Predicate.operands)) :
    predicates.mapM (first.condition entity) = predicates.mapM (second.condition entity) := by
  induction predicates with
  | nil => rfl
  | cons predicate predicates ih =>
    rw [List.flatMap_cons] at alike
    have here := clause_alike (alike.mono (List.subset_append_left _ _)) false
    have behind := ih (alike.mono (List.subset_append_right _ _))
    rw [List.mapM_cons, List.mapM_cons, condition_eq, condition_eq, here, behind]

end Alike

end Mapping

namespace Schema

variable {registry : Registry}

theorem preferred_unset {α : Type} {setting : MemberDef → Option α} {found : List MemberDef}
    (unset : ∀ declared ∈ found, setting declared = none) : preferred setting found = none := by
  have first : found.head?.bind setting = none := by
    cases listed : found.head? with
    | none => rfl
    | some declared => exact unset declared (List.mem_of_head? listed)
  have last : found.getLast?.bind setting = none := by
    cases listed : found.getLast? with
    | none => rfl
    | some declared => exact unset declared (List.mem_of_getLast? listed)
  simp [preferred, first, last]

theorem columnInfoOf_unset {chain : List EntityDef} {member : String}
    (unset : ∀ entity ∈ chain, ∀ declared ∈ entity.members,
      declared.column = none ∧ declared.converter = none) :
    columnInfoOf registry chain member = { column := member, converter := none } := by
  have declared : ∀ found ∈ declarations chain member,
      found.column = none ∧ found.converter = none := by
    intro found listed
    obtain ⟨entity, passed, here⟩ := List.mem_filterMap.mp listed
    exact unset entity passed found (List.mem_of_find?_eq_some here)
  simp [columnInfoOf, preferred_unset fun found listed => (declared found listed).1,
    preferred_unset fun found listed => (declared found listed).2]

section Inferred

variable {name : String} {predicates : List Predicate}

theorem names_ofPredicates :
    (EntityDef.ofPredicates name predicates).members.map MemberDef.name =
      (predicates.flatMap Predicate.operands).foldl Operand.addMember [] := by
  have collected : predicates.foldl Predicate.addMembers [] =
      (predicates.flatMap Predicate.operands).foldl Operand.addMember [] := by
    rw [List.foldl_flatMap]
    congr 1
    funext members predicate
    exact predicate.addMembers_eq members
  simp [EntityDef.ofPredicates, collected, Function.comp_def]

theorem validMembers_ofPredicates :
    ValidMembers registry (EntityDef.ofPredicates name predicates).members where
  distinct := by
    rw [names_ofPredicates]
    exact nodup_collected _ List.nodup_nil
  registered := by simp [EntityDef.ofPredicates]

theorem columnInfo_inferred {defs : List EntityDef} {schema : Schema}
    (built : build defs registry = .ok schema)
    (defined : EntityDef.ofPredicates name predicates ∈ defs) {member : String}
    (read : .field [member] ∈ predicates.flatMap Predicate.operands) :
    schema.columnInfo name member = .ok { column := member, converter := none } := by
  obtain ⟨valid, entered⟩ := build_eq_ok built
  obtain ⟨info, looked, resolved⟩ := lookup_entered entered valid.distinct defined
  have alone : lineage defs (EntityDef.ofPredicates name predicates) =
      .ok [EntityDef.ofPredicates name predicates] := by
    unfold lineage ancestors
    rfl
  rw [entityInfo, alone] at resolved
  cases resolved
  have listed : member ∈ memberNames [EntityDef.ofPredicates name predicates] := by
    simp only [memberNames, List.flatMap_singleton, List.mem_eraseDups, names_ofPredicates]
    exact mem_collected.mpr (.inr read)
  have unset : ∀ entity ∈ [EntityDef.ofPredicates name predicates], ∀ declared ∈ entity.members,
      declared.column = none ∧ declared.converter = none := by
    simp [EntityDef.ofPredicates]
  exact (columnInfo_eq looked).trans ((if_pos listed).trans (congrArg _ (columnInfoOf_unset unset)))

end Inferred

section Inserted

variable {inline loaded : List EntityDef} {entity : EntityDef}

theorem Consistent.insert (consistent : Consistent registry (inline ++ loaded))
    (fresh : ∀ other ∈ inline ++ loaded, other.name ≠ entity.name) (baseless : entity.base = none)
    (members : ValidMembers registry entity.members) :
    Consistent registry (inline ++ entity :: loaded) := by
  have valid : ValidEntities registry (entity :: (inline ++ loaded)) :=
    validEntities_cons.mpr ⟨members, fresh, consistent.valid⟩
  have founded : ∀ other ∈ entity :: (inline ++ loaded), Founded (entity :: (inline ++ loaded)) other := by
    rw [List.forall_mem_cons]
    constructor
    · exact ⟨[], .root baseless, by simp⟩
    · intro other defined
      exact (consistent.founded other defined).mono (List.subset_cons_self _ _)
  exact Consistent.perm List.perm_middle.symm ⟨valid, founded⟩

/-- What is known of an entity by its name stays the same if no definition of that name is added. -/
theorem entity_kept {first second : List EntityDef} {small large : Schema} (within : first ⊆ second)
    (built : build first registry = .ok small) (builtToo : build second registry = .ok large)
    {other : String} (old : ∀ entity ∈ second, entity.name = other → entity ∈ first) :
    large.entity other = small.entity other := by
  by_cases known : ∃ entity ∈ first, entity.name = other
  · obtain ⟨entity, defined, rfl⟩ := known
    have distinct := (build_eq_ok built).1.distinct
    have distinctToo := (build_eq_ok builtToo).1.distinct
    obtain ⟨info, looked, resolved⟩ := entity_of_build built defined
    obtain ⟨infoToo, lookedToo, resolvedToo⟩ := entity_of_build builtToo (within defined)
    cases resolvedToo.symm.trans (entityInfo_mono within distinct distinctToo resolved)
    rw [looked, lookedToo]
  · have undefined : ∀ entity ∈ first, entity.name ≠ other := by
      intro entity defined named
      exact known ⟨entity, defined, named⟩
    have undefinedToo : ∀ entity ∈ second, entity.name ≠ other := by
      intro entity defined named
      exact undefined entity (old entity defined named) named
    simp only [Schema.entity, lookup_undefined (build_eq_ok built).2 undefined,
      lookup_undefined (build_eq_ok builtToo).2 undefinedToo]

end Inserted

end Schema

/-- For the predicates that an entity is inferred from, its members are columns of the same name
and nothing is converted. -/
theorem Mapping.alikeOn_inferred {registry : Registry} {defs : List EntityDef} {schema : Schema}
    {name : String} {predicates : List Predicate} (built : Schema.build defs registry = .ok schema)
    (defined : EntityDef.ofPredicates name predicates ∈ defs) (style : SqlStyle)
    (strategy : Strategy) :
    AlikeOn { ofSchema style schema with membership := strategy }
      { identity style with membership := strategy } name
      (predicates.flatMap Predicate.operands) where
  style := rfl
  membership := rfl
  resolve member read := by
    simp only [ofSchema, identity, Schema.resolveColumn, Schema.columnInfo_inferred built defined read]
    rfl
  converter member read := by
    simp only [converter?, ofSchema, identity, Schema.converterFor, Option.bind_some,
      Schema.columnInfo_inferred built defined read, Option.bind_none]

section Commands

variable {m : Type → Type} [Monad m] {loaded : List EntityDef} {schema : Schema} {config : Config}

/-- Whenever it is read, the schema file of a configuration defines these entities. Without a file
there are none. -/
def Config.Supplies (files : Files m) (config : Config) (loaded : List EntityDef) : Prop :=
  match config.schemaFile with
  | none => loaded = []
  | some path => EntityDef.load files path = pure loaded

variable [LawfulMonad m]

theorem Config.schema_of_supplies {files : Files m} {registry : Registry}
    (supplies : config.Supplies files loaded)
    (built : Schema.build (config.entities ++ loaded) registry = .ok schema) :
    config.schema files registry = pure schema := by
  have defs : config.definitions files = pure (config.entities ++ loaded) := by
    unfold Supplies at supplies
    unfold definitions
    cases named : config.schemaFile with
    | none =>
      simp only [named] at supplies
      rw [supplies, List.append_nil]
    | some path =>
      simp only [named] at supplies
      simp only [supplies, pure_bind]
  rw [Config.schema, defs, pure_bind, built]
  rfl

theorem Cli.attempt_pure {α : Type} (failure : Error → Failure) (value : α) :
    attempt failure (pure value : ExceptT Error m α) = pure value := by
  unfold attempt
  have lifted : (ExceptT.lift (StateT.lift (pure value : ExceptT Error m α).run) :
      Session m (Except Error α)) = pure (.ok value) := by
    apply ExceptT.ext
    apply StateT.ext
    intro lines
    simp
  rw [lifted, pure_bind]

/-- A query about an entity that the definitions lack is answered with the inferred entity behind
those of the configuration. -/
theorem Cli.schemaFor_undefined {host : Host m} {query : Query} {predicates : List Predicate}
    {extended : Schema} (supplies : config.Supplies host.files loaded)
    (built : Schema.build (config.entities ++ loaded) .builtins = .ok schema)
    (undefined : ∀ entity ∈ config.entities ++ loaded, entity.name ≠ query.entity)
    (read : query.read = .ok predicates)
    (builtToo : Schema.build (config.entities ++ .ofPredicates query.entity predicates :: loaded)
      .builtins = .ok extended) :
    schemaFor host config query = pure extended := by
  have missing : schema.containsEntity query.entity = false := by
    unfold Schema.containsEntity
    rw [Schema.lookup_undefined (Schema.build_eq_ok built).2 undefined]
    rfl
  let inferred : Config :=
    { config with entities := config.entities ++ [.ofPredicates query.entity predicates] }
  have suppliesToo : inferred.Supplies host.files loaded := supplies
  have builtInferred : Schema.build (inferred.entities ++ loaded) .builtins = .ok extended := by
    simpa [inferred] using builtToo
  have readAll : (liftM query.read : Session m (List Predicate)) = pure predicates := by
    rw [read]
    rfl
  unfold schemaFor
  rw [Config.schema_of_supplies supplies built, attempt_pure, pure_bind, missing]
  simp only [Bool.false_eq_true, if_false, pure_bind, readAll]
  rw [Config.schema_of_supplies suppliesToo builtInferred, attempt_pure]

end Commands

/-- Definitions that make a schema still do with an entity inferred for predicates about a name that
they lack. All other entities keep their tables and columns, and the predicates have the conditions
or the error that they have where every member is its own column. This is the schema in which a
command answers a query about that name. -/
theorem Schema.build_inferred {registry : Registry} {inline loaded : List EntityDef} {schema : Schema}
    (built : build (inline ++ loaded) registry = .ok schema) {name : String}
    (undefined : ∀ entity ∈ inline ++ loaded, entity.name ≠ name) (predicates : List Predicate) :
    ∃ extended, build (inline ++ .ofPredicates name predicates :: loaded) registry = .ok extended ∧
      (∀ other, other ≠ name → extended.tableName other = schema.tableName other ∧
        ∀ member, extended.columnInfo other member = schema.columnInfo other member) ∧
      (∀ (dialect : Dialect) (strategy : Strategy) (word : Word),
        { Mapping.ofSchema dialect.style extended with membership := strategy }.conditionAll
            name word predicates =
          { Mapping.identity dialect.style with membership := strategy }.conditionAll
            name word predicates) ∧
      ∀ {m : Type → Type} [Monad m] [LawfulMonad m] (host : Cli.Host m) (config : Config)
        (query : Cli.Query), registry = .builtins → config.entities = inline →
        config.Supplies host.files loaded → query.entity = name → query.read = .ok predicates →
        Cli.schemaFor host config query = pure extended := by
  let inferred : EntityDef := .ofPredicates name predicates
  have consistent : Consistent registry (inline ++ inferred :: loaded) :=
    (exists_build.mp ⟨schema, built⟩).insert undefined rfl validMembers_ofPredicates
  obtain ⟨extended, builtToo⟩ := exists_build.mpr consistent
  refine ⟨extended, builtToo, ?_, ?_, ?_⟩
  · intro other differs
    have within : inline ++ loaded ⊆ inline ++ inferred :: loaded := by simp
    have old : ∀ entity ∈ inline ++ inferred :: loaded, entity.name = other →
        entity ∈ inline ++ loaded := by
      intro entity defined named
      have apart : entity ≠ inferred := by
        rintro rfl
        exact differs named.symm
      simpa [apart] using defined
    have kept := entity_kept within built builtToo old
    simp only [tableName, columnInfo, kept, implies_true, and_self]
  · intro dialect strategy word
    have defined : inferred ∈ inline ++ inferred :: loaded := by simp
    have alike := Mapping.alikeOn_inferred builtToo defined dialect.style strategy
    rw [Mapping.conditionAll, Mapping.conditionAll, Mapping.mapM_condition_alike alike]
  · intro m _ _ host config query registered same supplies named read
    subst registered same named
    exact Cli.schemaFor_undefined supplies built undefined read builtToo

/-- A query about an entity that neither the configuration nor its schema file defines. One of its
members is only asked for in an empty collection, another one is read twice. -/
theorem Schema.build_inferred_between :
    let animal : EntityDef := {
      name := "Animal"
      members := [{ name := "tail", column := "tail_kind", converter := "lowercase" }] }
    let dog : EntityDef := { name := "Dog", base := "Animal", table := "dogs" }
    let text :=
      "[[entities]]\nname = \"Animal\"\nmembers = [[\"tail\", \"tail_kind\", \"lowercase\"]]"
    let host : Cli.Host Id := {
      files := { read _ := pure (.ok text), isFile _ := pure true, configDirectory := none }
      databaseUrl := none
      openDatabase _ _ := throw .notFound }
    let config : Config := { schemaFile := "animals.toml", entities := [dog] }
    let query : Cli.Query := {
      entity := "Cat"
      predicates := ["x.tail in []", "x.age > 3 or not x.age.is_none"]
      word := .or }
    ∃ small large predicates condition, build [dog, animal] .builtins = .ok small ∧
      Cli.schemaFor host config query = pure large ∧
      (∀ member, large.columnInfo "Dog" member = small.columnInfo "Dog" member) ∧
      query.read = .ok predicates ∧
      (Mapping.ofSchema Dialect.sqlServer.style large).conditionAll "Cat" .or predicates =
        .ok condition ∧
      condition.text = "(1 = 0) OR ([age] > @0 OR [age] IS NOT NULL)" := by
  intro animal dog text host config query
  let predicates : List Predicate := [
    .member (.field ["tail"]) [],
    .or (.compare .gt (.field ["age"]) (.constant (.int 3) .int)) (.not (.isNull (.field ["age"])))]
  have read : query.read = .ok predicates := by
    dsimp only [query, predicates]
    rfl
  have defines : EntityDef.readAll? .toml text = some [animal] := by decide +kernel
  have supplies : config.Supplies host.files [animal] := by
    have format : (Path.extension? "animals.toml" == some "json") = false := by decide +kernel
    simp [Config.Supplies, config, EntityDef.load, host, format, defines]
  have consistent : Consistent .builtins ([dog] ++ [animal]) := by
    refine ⟨⟨by decide, ?_⟩, ?_⟩
    · simp only [List.cons_append, List.nil_append, List.forall_mem_cons, List.not_mem_nil,
        false_implies, implies_true, and_true]
      exact ⟨⟨by decide, by decide⟩, ⟨by decide, by decide⟩⟩
    · simp only [List.cons_append, List.nil_append, List.forall_mem_cons, List.not_mem_nil,
        false_implies, implies_true, and_true]
      exact ⟨⟨[animal], .base (by simp) rfl (.root rfl), by decide⟩, ⟨[], .root rfl, by decide⟩⟩
  obtain ⟨small, built⟩ := exists_build.mpr consistent
  have undefined : ∀ entity ∈ [dog] ++ [animal], entity.name ≠ "Cat" := by decide
  obtain ⟨large, -, kept, same, commands⟩ := build_inferred built undefined predicates
  have compiled := same .sqlServer .expand .or
  have answered := commands host config query rfl rfl supplies rfl read
  exact ⟨small, large, predicates, _, built, answered, (kept "Dog" (by decide)).2, read,
    compiled.trans rfl, by decide⟩

end WhereClause
