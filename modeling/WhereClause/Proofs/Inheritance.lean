import Mathlib.Data.List.Nodup
import WhereClause.Proofs.Success
import WhereClause.Schema

/-! Inherited members.

`Inherits` follows base links one by one, and `Declares` tells how far above an entity a member is
declared. In a schema that was built, just the declared members have a column. Each setting of a
member comes from the closest declaration or else from the root, the declaration farthest up.
-/

set_option autoImplicit false

namespace WhereClause.Schema

/-- So many base links lead from an entity to another. -/
inductive Inherits (defs : List EntityDef) : EntityDef → Nat → EntityDef → Prop where
  | self (entity : EntityDef) : Inherits defs entity 0 entity
  | base {entity parent ancestor : EntityDef} {distance : Nat} :
      parent ∈ defs → entity.base = some parent.name → Inherits defs parent distance ancestor →
      Inherits defs entity (distance + 1) ancestor

/-- A declaration of a member, so many base links above an entity. -/
def Declares (defs : List EntityDef) (entity : EntityDef) (member : String) (distance : Nat)
    (declaration : MemberDef) : Prop :=
  ∃ ancestor, Inherits defs entity distance ancestor ∧ declaration ∈ ancestor.members ∧
    declaration.name = member

def Closest (defs : List EntityDef) (entity : EntityDef) (member : String)
    (declaration : MemberDef) : Prop :=
  ∃ distance, Declares defs entity member distance declaration ∧
    ∀ other found, Declares defs entity member other found → distance ≤ other

def Root (defs : List EntityDef) (entity : EntityDef) (member : String)
    (declaration : MemberDef) : Prop :=
  ∃ distance, Declares defs entity member distance declaration ∧
    ∀ other found, Declares defs entity member other found → other ≤ distance

section Lists

variable {α β : Type}

theorem find?_named {name : α → String} {items : List α} (distinct : (items.map name).Nodup)
    {wanted : String} {item : α} :
    items.find? (name · == wanted) = some item ↔ item ∈ items ∧ name item = wanted := by
  induction items with
  | nil => simp
  | cons first rest ih =>
    obtain ⟨fresh, distinct⟩ := List.nodup_cons.mp distinct
    by_cases same : name first = wanted
    · have absent : ∀ other ∈ rest, name other ≠ wanted := by
        rintro other member rfl
        exact fresh (same ▸ List.mem_map_of_mem member)
      have found : (first :: rest).find? (name · == wanted) = some first := by simp [same]
      rw [found]
      constructor
      · rintro ⟨⟩
        exact ⟨by simp, same⟩
      · rintro ⟨member, named⟩
        rcases List.mem_cons.mp member with rfl | member
        · rfl
        · exact absurd named (absent item member)
    · have skipped : (first :: rest).find? (name · == wanted) = rest.find? (name · == wanted) := by
        simp [same]
      rw [skipped, ih distinct, List.mem_cons]
      constructor
      · rintro ⟨member, named⟩
        exact ⟨.inr member, named⟩
      · rintro ⟨rfl | member, named⟩
        · exact absurd named same
        · exact ⟨member, named⟩

theorem nodup_names_cons {name : α → String} {first : α} {rest : List α} :
    ((first :: rest).map name).Nodup ↔
      (∀ other ∈ rest, name other ≠ name first) ∧ (rest.map name).Nodup := by
  simp [List.nodup_cons]

theorem lookup_map_value (value : String → β) (names : List String) (name : String) :
    (names.map fun other => (other, value other)).lookup name =
      if name ∈ names then some (value name) else none := by
  induction names with
  | nil => rfl
  | cons first rest ih =>
    by_cases same : name = first
    · simp [same]
    · have differ : (name == first) = false := beq_eq_false_iff_ne.mpr same
      simp [List.lookup_cons, differ, same, ih]

variable {found? : α → Option β} {items : List α} {result : β}

theorem head?_filterMap_first (first : (items.filterMap found?).head? = some result) :
    ∃ position : Nat, items[position]?.bind found? = some result ∧
      ∀ (other : Nat) (found : β), items[other]?.bind found? = some found → position ≤ other := by
  rw [List.head?_filterMap] at first
  obtain ⟨front, item, back, rfl, found, passed⟩ := List.findSome?_eq_some_iff.mp first
  refine ⟨front.length, by simp [found], fun other value placed => Nat.le_of_not_lt fun before => ?_⟩
  rw [List.getElem?_append_left before] at placed
  obtain ⟨earlier, member, same⟩ := Option.bind_eq_some_iff.mp placed
  simp [passed earlier (List.mem_of_getElem? member)] at same

theorem getLast?_filterMap_last (last : (items.filterMap found?).getLast? = some result) :
    ∃ position : Nat, items[position]?.bind found? = some result ∧
      ∀ (other : Nat) (found : β), items[other]?.bind found? = some found → other ≤ position := by
  rw [List.getLast?_filterMap] at last
  obtain ⟨front, item, back, reversed, found, passed⟩ := List.findSome?_eq_some_iff.mp last
  obtain rfl : items = back.reverse ++ item :: front.reverse := by
    simpa using congrArg List.reverse reversed
  refine ⟨back.reverse.length, by simp [found],
    fun other value placed => Nat.le_of_not_lt fun behind => ?_⟩
  obtain ⟨beyond, rfl⟩ := Nat.exists_eq_add_of_lt behind
  rw [Nat.add_assoc, List.getElem?_append_right (by omega), Nat.add_sub_cancel_left,
    List.getElem?_cons_succ] at placed
  obtain ⟨later, member, same⟩ := Option.bind_eq_some_iff.mp placed
  simp [passed later (by simpa using List.mem_of_getElem? member)] at same

end Lists

structure ValidMembers (registry : Registry) (members : List MemberDef) : Prop where
  distinct : (members.map MemberDef.name).Nodup
  registered : ∀ member ∈ members, ∀ converter, member.converter = some converter →
    registry.contains converter = true

structure ValidEntities (registry : Registry) (defs : List EntityDef) : Prop where
  distinct : (defs.map EntityDef.name).Nodup
  members : ∀ entity ∈ defs, ValidMembers registry entity.members

theorem validMembers_cons {registry : Registry} {first : MemberDef} {rest : List MemberDef} :
    ValidMembers registry (first :: rest) ↔
      (∀ converter, first.converter = some converter → registry.contains converter = true) ∧
      (∀ member ∈ rest, member.name ≠ first.name) ∧ ValidMembers registry rest := by
  constructor
  · rintro ⟨distinct, registered⟩
    obtain ⟨fresh, distinct⟩ := nodup_names_cons.mp distinct
    exact ⟨registered first (by simp), fresh, distinct,
      fun member found => registered member (by simp [found])⟩
  · rintro ⟨firstRegistered, fresh, distinct, registered⟩
    refine ⟨nodup_names_cons.mpr ⟨fresh, distinct⟩, fun member found => ?_⟩
    rcases List.mem_cons.mp found with rfl | found
    · exact firstRegistered
    · exact registered member found

theorem checkMembers_eq_ok {registry : Registry} {entity : String} {seen : List String}
    {members : List MemberDef} :
    checkMembers registry entity seen members = .ok () ↔
      ValidMembers registry members ∧ ∀ member ∈ members, member.name ∉ seen := by
  induction members generalizing seen with
  | nil => simpa [checkMembers] using ValidMembers.mk (by simp) (by simp)
  | cons first rest ih =>
    rw [checkMembers, validMembers_cons]
    split
    next repeated => grind
    next fresh =>
      cases named : first.converter with
      | none =>
        simp only [ih]
        grind
      | some converter =>
        simp only
        split
        next registered =>
          rw [ih]
          grind
        next unknown => grind

theorem validEntities_cons {registry : Registry} {first : EntityDef} {rest : List EntityDef} :
    ValidEntities registry (first :: rest) ↔
      ValidMembers registry first.members ∧
      (∀ entity ∈ rest, entity.name ≠ first.name) ∧ ValidEntities registry rest := by
  constructor
  · rintro ⟨distinct, members⟩
    obtain ⟨fresh, distinct⟩ := nodup_names_cons.mp distinct
    exact ⟨members first (by simp), fresh, distinct,
      fun entity found => members entity (by simp [found])⟩
  · rintro ⟨firstMembers, fresh, distinct, members⟩
    refine ⟨nodup_names_cons.mpr ⟨fresh, distinct⟩, fun entity found => ?_⟩
    rcases List.mem_cons.mp found with rfl | found
    · exact firstMembers
    · exact members entity found

theorem checkEntities_eq_ok {registry : Registry} {seen : List String} {defs : List EntityDef} :
    checkEntities registry seen defs = .ok () ↔
      ValidEntities registry defs ∧ ∀ entity ∈ defs, entity.name ∉ seen := by
  induction defs generalizing seen with
  | nil => simpa [checkEntities] using ValidEntities.mk (by simp) (by simp)
  | cons first rest ih =>
    rw [checkEntities, validEntities_cons]
    split
    next repeated => grind
    next fresh =>
      rw [bind_eq_ok]
      constructor
      · rintro ⟨⟨⟩, passed, restPassed⟩
        obtain ⟨members, _⟩ := checkMembers_eq_ok.mp passed
        grind
      · rintro ⟨⟨members, apart, valid⟩, unseen⟩
        refine ⟨(), checkMembers_eq_ok.mpr ⟨members, by simp⟩, ?_⟩
        grind

theorem inherits_zero {defs : List EntityDef} {entity ancestor : EntityDef} :
    Inherits defs entity 0 ancestor ↔ entity = ancestor := by
  constructor
  · rintro ⟨⟩
    rfl
  · rintro rfl
    exact .self entity

theorem Inherits.based {defs : List EntityDef} {entity ancestor : EntityDef} {distance : Nat}
    (inherits : Inherits defs entity (distance + 1) ancestor) : entity.base ≠ none := by
  obtain _ | ⟨_, based, _⟩ := inherits
  simp [based]

theorem inherits_succ {defs : List EntityDef} {entity parent ancestor : EntityDef} {base : String}
    {distance : Nat} (distinct : (defs.map EntityDef.name).Nodup) (based : entity.base = some base)
    (found : find? defs base = some parent) :
    Inherits defs entity (distance + 1) ancestor ↔ Inherits defs parent distance ancestor := by
  obtain ⟨defined, named⟩ := (find?_named distinct).mp found
  constructor
  · rintro (_ | ⟨otherDefined, otherBased, inherits⟩)
    have sameName := Option.some.inj (based.symm.trans otherBased)
    have same := (find?_named distinct).mpr ⟨otherDefined, sameName.symm⟩
    rwa [Option.some.inj (same.symm.trans found)] at inherits
  · exact fun inherits => .base defined (named ▸ based) inherits

theorem getElem?_ancestors {defs chain above : List EntityDef} {current : EntityDef}
    (distinct : (defs.map EntityDef.name).Nodup) (climbed : ancestors defs chain current = .ok above)
    (distance : Nat) (ancestor : EntityDef) :
    above[distance]? = some ancestor ↔ Inherits defs current (distance + 1) ancestor := by
  -- along the climb; each round adds the parent of the entity reached last
  fun_induction ancestors defs chain current generalizing above distance with
  | case1 chain current baseless =>
    cases Except.ok.inj climbed
    constructor
    · simp
    · exact fun inherits => absurd baseless inherits.based
  | case2 chain current base based unknown => cases climbed
  | case3 chain current base based parent found fresh ih =>
    obtain ⟨higher, climbedOn, rfl⟩ := map_eq_ok.mp climbed
    rw [inherits_succ distinct based found]
    cases distance with
    | zero => simp [inherits_zero]
    | succ distance => exact ih climbedOn distance
  | case4 chain current base based parent found visited => cases climbed

theorem getElem?_lineage {defs chain : List EntityDef} {entity : EntityDef}
    (distinct : (defs.map EntityDef.name).Nodup) (climbed : lineage defs entity = .ok chain)
    (distance : Nat) (ancestor : EntityDef) :
    chain[distance]? = some ancestor ↔ Inherits defs entity distance ancestor := by
  obtain ⟨above, climbedOn, rfl⟩ := map_eq_ok.mp climbed
  cases distance with
  | zero => simp [inherits_zero]
  | succ distance => exact getElem?_ancestors distinct climbedOn distance ancestor

theorem Inherits.defined {defs : List EntityDef} {entity ancestor : EntityDef} {distance : Nat}
    (inherits : Inherits defs entity distance ancestor) (defined : entity ∈ defs) :
    ancestor ∈ defs := by
  induction inherits with
  | self => exact defined
  | base parentDefined _ _ ih => exact ih parentDefined

section Built

variable {registry : Registry} {defs chain : List EntityDef} {entity : EntityDef} {member : String}

theorem declares_iff (valid : ValidEntities registry defs) (defined : entity ∈ defs)
    (climbed : lineage defs entity = .ok chain) {distance : Nat} {declaration : MemberDef} :
    Declares defs entity member distance declaration ↔
      chain[distance]?.bind (fun ancestor => ancestor.members.find? (·.name == member)) =
        some declaration := by
  rw [Option.bind_eq_some_iff]
  apply exists_congr
  intro ancestor
  rw [getElem?_lineage valid.distinct climbed]
  apply and_congr_right
  intro inherits
  exact (find?_named (valid.members ancestor (inherits.defined defined)).distinct).symm

theorem closest_of_head? (valid : ValidEntities registry defs) (defined : entity ∈ defs)
    (climbed : lineage defs entity = .ok chain) {declaration : MemberDef}
    (first : (declarations chain member).head? = some declaration) :
    Closest defs entity member declaration := by
  obtain ⟨distance, placed, least⟩ := head?_filterMap_first first
  refine ⟨distance, (declares_iff valid defined climbed).mpr placed, fun other found declares => ?_⟩
  exact least other found ((declares_iff valid defined climbed).mp declares)

theorem root_of_getLast? (valid : ValidEntities registry defs) (defined : entity ∈ defs)
    (climbed : lineage defs entity = .ok chain) {declaration : MemberDef}
    (last : (declarations chain member).getLast? = some declaration) :
    Root defs entity member declaration := by
  obtain ⟨distance, placed, greatest⟩ := getLast?_filterMap_last last
  refine ⟨distance, (declares_iff valid defined climbed).mpr placed, fun other found declares => ?_⟩
  exact greatest other found ((declares_iff valid defined climbed).mp declares)

theorem Declares.unique (valid : ValidEntities registry defs) (defined : entity ∈ defs)
    (climbed : lineage defs entity = .ok chain) {distance : Nat} {first second : MemberDef}
    (declares : Declares defs entity member distance first)
    (declaresToo : Declares defs entity member distance second) : first = second := by
  have placed := (declares_iff valid defined climbed).mp declares
  have placedToo := (declares_iff valid defined climbed).mp declaresToo
  exact Option.some.inj (placed.symm.trans placedToo)

theorem mem_memberNames (valid : ValidEntities registry defs) (climbed : lineage defs entity = .ok chain) :
    member ∈ memberNames chain ↔
      ∃ distance declaration, Declares defs entity member distance declaration := by
  simp only [memberNames, List.mem_eraseDups, List.mem_flatMap, List.mem_map]
  constructor
  · rintro ⟨ancestor, listed, declaration, declared, named⟩
    obtain ⟨distance, placed⟩ := List.mem_iff_getElem?.mp listed
    exact ⟨distance, declaration, ancestor,
      (getElem?_lineage valid.distinct climbed distance ancestor).mp placed, declared, named⟩
  · rintro ⟨distance, declaration, ancestor, inherits, declared, named⟩
    have placed := (getElem?_lineage valid.distinct climbed distance ancestor).mpr inherits
    exact ⟨ancestor, List.mem_of_getElem? placed, declaration, declared, named⟩

theorem Closest.unique (valid : ValidEntities registry defs) (defined : entity ∈ defs)
    (climbed : lineage defs entity = .ok chain) {first second : MemberDef}
    (closest : Closest defs entity member first) (closestToo : Closest defs entity member second) :
    first = second := by
  obtain ⟨distance, declares, least⟩ := closest
  obtain ⟨other, declaresToo, leastToo⟩ := closestToo
  obtain rfl := Nat.le_antisymm (least _ _ declaresToo) (leastToo _ _ declares)
  exact declares.unique valid defined climbed declaresToo

theorem Root.unique (valid : ValidEntities registry defs) (defined : entity ∈ defs)
    (climbed : lineage defs entity = .ok chain) {first second : MemberDef}
    (root : Root defs entity member first) (rootToo : Root defs entity member second) :
    first = second := by
  obtain ⟨distance, declares, greatest⟩ := root
  obtain ⟨other, declaresToo, greatestToo⟩ := rootToo
  obtain rfl := Nat.le_antisymm (greatestToo _ _ declares) (greatest _ _ declaresToo)
  exact declares.unique valid defined climbed declaresToo

theorem exists_closest_root (valid : ValidEntities registry defs) (defined : entity ∈ defs)
    (climbed : lineage defs entity = .ok chain) (declared : member ∈ memberNames chain) :
    ∃ closest root, (declarations chain member).head? = some closest ∧
      (declarations chain member).getLast? = some root ∧
      (∀ other, Closest defs entity member other ↔ other = closest) ∧
      (∀ other, Root defs entity member other ↔ other = root) := by
  obtain ⟨distance, declaration, declares⟩ := (mem_memberNames valid climbed).mp declared
  obtain ⟨ancestor, placed, found⟩ :=
    Option.bind_eq_some_iff.mp ((declares_iff valid defined climbed).mp declares)
  have listed : declaration ∈ declarations chain member :=
    List.mem_filterMap.mpr ⟨ancestor, List.mem_of_getElem? placed, found⟩
  have nonempty := List.ne_nil_of_mem listed
  have first := List.head?_eq_some_head nonempty
  have last := List.getLast?_eq_some_getLast nonempty
  have closest := closest_of_head? valid defined climbed first
  have root := root_of_getLast? valid defined climbed last
  refine ⟨_, _, first, last, fun other => ⟨fun found => ?_, ?_⟩, fun other => ⟨fun found => ?_, ?_⟩⟩
  · exact found.unique valid defined climbed closest
  · rintro rfl
    exact closest
  · exact found.unique valid defined climbed root
  · rintro rfl
    exact root

end Built

section Entries

variable {registry : Registry} {defs listed : List EntityDef} {entries : List (String × EntityInfo)}

def Entered (registry : Registry) (defs : List EntityDef) (entity : EntityDef)
    (entry : String × EntityInfo) : Prop :=
  entry.1 = entity.name ∧ entityInfo registry defs entity = .ok entry.2

theorem build_eq_ok {schema : Schema} (built : build defs registry = .ok schema) :
    ValidEntities registry defs ∧
      List.Forall₂ (Entered registry defs) defs schema.entities := by
  obtain ⟨⟨⟩, checked, rest⟩ := bind_eq_ok.mp (mapError_eq_ok.mp built)
  obtain ⟨entries, resolved, same⟩ := bind_eq_ok.mp rest
  refine ⟨(checkEntities_eq_ok.mp checked).1, ?_⟩
  rw [← pure_eq_ok.mp same]
  refine (mapM_eq_ok.mp resolved).imp fun entity entry entered => ?_
  obtain ⟨info, resolved, same⟩ := bind_eq_ok.mp entered
  obtain rfl := pure_eq_ok.mp same
  exact ⟨rfl, resolved⟩

theorem lookup_entered (entered : List.Forall₂ (Entered registry defs) listed entries)
    (distinct : (listed.map EntityDef.name).Nodup) {entity : EntityDef} (member : entity ∈ listed) :
    ∃ info, entries.lookup entity.name = some info ∧ entityInfo registry defs entity = .ok info := by
  induction entered with
  | nil => cases member
  | @cons first entry rest others entered _ ih =>
    obtain ⟨fresh, distinct⟩ := nodup_names_cons.mp distinct
    obtain ⟨name, info⟩ := entry
    obtain ⟨rfl, resolved⟩ := entered
    rcases List.mem_cons.mp member with rfl | member
    · exact ⟨info, by simp, resolved⟩
    · obtain ⟨found, looked, resolved⟩ := ih distinct member
      have differ : (entity.name == first.name) = false :=
        beq_eq_false_iff_ne.mpr (fresh entity member)
      exact ⟨found, by simp [List.lookup_cons, differ, looked], resolved⟩

theorem lookup_undefined (entered : List.Forall₂ (Entered registry defs) listed entries)
    {name : String} (undefined : ∀ entity ∈ listed, entity.name ≠ name) :
    entries.lookup name = none := by
  induction entered with
  | nil => rfl
  | @cons first entry rest others entered _ ih =>
    have differ : (name == entry.1) = false := by
      rw [entered.1]
      exact beq_eq_false_iff_ne.mpr (undefined first (by simp)).symm
    rw [List.lookup_cons, differ]
    exact ih fun entity member => undefined entity (by simp [member])

end Entries

theorem Declares.registered {registry : Registry} {defs : List EntityDef} {entity : EntityDef}
    {member : String} {distance : Nat} {declaration : MemberDef}
    (declares : Declares defs entity member distance declaration)
    (valid : ValidEntities registry defs) (defined : entity ∈ defs) {converter : String}
    (named : declaration.converter = some converter) : registry.contains converter = true := by
  obtain ⟨ancestor, inherits, declared, _⟩ := declares
  have members := valid.members ancestor (inherits.defined defined)
  exact members.registered declaration declared converter named

/-- What is known of a member from its closest declaration and its root. A converter that one of
them names is not missing. -/
structure Settles (registry : Registry) (member : String) (closest root : MemberDef)
    (info : ColumnInfo) : Prop where
  column : info.column = (closest.column.or root.column).getD member
  converter : info.converter = (closest.converter.or root.converter).bind registry.get?
  converted : info.converter.isSome = (closest.converter.or root.converter).isSome

theorem columnInfoOf_settles {registry : Registry} {chain : List EntityDef} {member : String}
    {closest root : MemberDef} (first : (declarations chain member).head? = some closest)
    (last : (declarations chain member).getLast? = some root)
    (registered : ∀ converter, closest.converter.or root.converter = some converter →
      registry.contains converter = true) :
    Settles registry member closest root (columnInfoOf registry chain member) := by
  have settled {α : Type} (setting : MemberDef → Option α) :
      preferred setting (declarations chain member) = (setting closest).or (setting root) := by
    simp [preferred, first, last]
  constructor
  · simp only [columnInfoOf, settled]
  · simp only [columnInfoOf, settled]
  · simp only [columnInfoOf, settled]
    cases named : closest.converter.or root.converter with
    | none => rfl
    | some converter => simpa [Registry.contains] using registered converter named

/-- The columns of an entity are those of the members declared along its lineage. -/
theorem columnInfo_eq {schema : Schema} {registry : Registry} {chain : List EntityDef}
    {name member table : String} (looked : schema.entities.lookup name = some {
      table
      columns := (memberNames chain).map fun other => (other, columnInfoOf registry chain other) }) :
    schema.columnInfo name member =
      if member ∈ memberNames chain then .ok (columnInfoOf registry chain member)
      else .error (.unresolvableColumn name member) := by
  simp only [columnInfo, Schema.entity, looked, bind, Except.bind, lookup_map_value]
  by_cases listed : member ∈ memberNames chain
  · simp only [if_pos listed]
    rfl
  · simp only [if_neg listed]
    rfl

/-- A member has a column just if it is declared on the entity or on one above it. The closest
declaration decides the column and the converter, each by itself, and leaves to the root what it
does not set; a column that neither sets has the member's name. -/
theorem columnInfo_overrides {defs : List EntityDef} {registry : Registry} {schema : Schema}
    (built : build defs registry = .ok schema) (name member : String) :
    ((∀ entity ∈ defs, entity.name ≠ name) →
      schema.columnInfo name member = .error (.unknownEntity name)) ∧
    ∀ entity ∈ defs, entity.name = name →
      ((∃ distance declaration, Declares defs entity member distance declaration) →
        ∃ closest root info, schema.columnInfo name member = .ok info ∧
          (∀ other, Closest defs entity member other ↔ other = closest) ∧
          (∀ other, Root defs entity member other ↔ other = root) ∧
          Settles registry member closest root info) ∧
      ((¬ ∃ distance declaration, Declares defs entity member distance declaration) →
        schema.columnInfo name member = .error (.unresolvableColumn name member)) := by
  obtain ⟨valid, entered⟩ := build_eq_ok built
  constructor
  · intro undefined
    simp only [columnInfo, Schema.entity, lookup_undefined entered undefined]
    rfl
  · rintro entity defined rfl
    obtain ⟨info, looked, resolved⟩ := lookup_entered entered valid.distinct defined
    obtain ⟨chain, climbed, same⟩ := bind_eq_ok.mp resolved
    obtain rfl := pure_eq_ok.mp same
    have declared : member ∈ memberNames chain ↔
        ∃ distance declaration, Declares defs entity member distance declaration :=
      mem_memberNames valid climbed
    rw [columnInfo_eq looked, ← declared]
    constructor
    · intro listed
      obtain ⟨closest, root, first, last, isClosest, isRoot⟩ :=
        exists_closest_root valid defined climbed listed
      refine ⟨closest, root, _, if_pos listed, isClosest, isRoot,
        columnInfoOf_settles first last fun converter named => ?_⟩
      obtain ⟨_, closestDeclares, _⟩ := (isClosest closest).mpr rfl
      obtain ⟨_, rootDeclares, _⟩ := (isRoot root).mpr rfl
      rcases Option.or_eq_some_iff.mp named with named | ⟨_, named⟩
      · exact closestDeclares.registered valid defined named
      · exact rootDeclares.registered valid defined named
    · exact fun unlisted => if_neg unlisted

/-- A member that is declared on three entities in a row: the closest declaration sets nothing, and
what the middle one sets does not count. -/
theorem columnInfo_overrides_gap :
    let animal : EntityDef := {
      name := "Animal"
      members := [{ name := "call", column := "animal_call", converter := "lowercase" }] }
    let dog : EntityDef := {
      name := "Dog"
      base := "Animal"
      members := [{ name := "call", column := "dog_call", converter := "bool_as_int" }] }
    let puppy : EntityDef := { name := "Puppy", base := "Dog", members := [{ name := "call" }] }
    ∃ schema, build [puppy, animal, dog] Registry.builtins = .ok schema ∧
      (∃ info, schema.columnInfo "Puppy" "call" = .ok info ∧ info.column = "animal_call" ∧
        info.converter.map Converter.name = some "lowercase") ∧
      schema.columnInfo "Puppy" "tail" = .error (.unresolvableColumn "Puppy" "tail") ∧
      schema.columnInfo "Cat" "call" = .error (.unknownEntity "Cat") := by
  intro animal dog puppy
  have accepted : (build [puppy, animal, dog] Registry.builtins).toOption.isSome = true := by cbv
  obtain ⟨schema, built⟩ : ∃ schema, build [puppy, animal, dog] Registry.builtins = .ok schema := by
    cases built : build [puppy, animal, dog] Registry.builtins with
    | ok schema => exact ⟨schema, rfl⟩
    | error issue =>
      rw [built] at accepted
      cases accepted
  have distinct : ([puppy, animal, dog].map EntityDef.name).Nodup := by decide
  have above (distance : Nat) (ancestor : EntityDef) :
      Inherits [puppy, animal, dog] puppy (distance + 2) ancestor ↔
        Inherits [puppy, animal, dog] animal distance ancestor :=
    (inherits_succ distinct rfl rfl).trans (inherits_succ distinct rfl rfl)
  have nearest : Declares [puppy, animal, dog] puppy "call" 0 { name := "call" } :=
    ⟨puppy, .self puppy, by simp [puppy], rfl⟩
  have farthest : Declares [puppy, animal, dog] puppy "call" 2
      { name := "call", column := "animal_call", converter := "lowercase" } :=
    ⟨animal, (above 0 animal).mpr (.self animal), by simp [animal], rfl⟩
  have topmost : ∀ other found, Declares [puppy, animal, dog] puppy "call" other found →
      other ≤ 2 := by
    rintro other found ⟨ancestor, inherits, _⟩
    by_contra beyond
    obtain ⟨distance, rfl⟩ : ∃ distance, other = distance + 1 + 2 := ⟨other - 3, by omega⟩
    exact ((above (distance + 1) ancestor).mp inherits).based rfl
  obtain ⟨closest, root, info, resolved, isClosest, isRoot, settles⟩ :=
    ((columnInfo_overrides built "Puppy" "call").2 puppy (by simp) rfl).1 ⟨0, _, nearest⟩
  obtain rfl := (isClosest _).mp ⟨0, nearest, by simp⟩
  obtain rfl := (isRoot _).mp ⟨2, farthest, topmost⟩
  refine ⟨schema, built, ⟨info, resolved, settles.column, ?_⟩, ?_, ?_⟩
  · rw [settles.converter]
    rfl
  · refine ((columnInfo_overrides built "Puppy" "tail").2 puppy (by simp) rfl).2 ?_
    rintro ⟨distance, declaration, ancestor, inherits, declared, named⟩
    have calls : ∀ entity ∈ [puppy, animal, dog], ∀ other ∈ entity.members, other.name = "call" := by
      decide
    rw [calls ancestor (inherits.defined (by simp)) declaration declared] at named
    exact absurd named (by decide)
  · exact (columnInfo_overrides built "Cat" "call").1 (by decide)

end WhereClause.Schema
