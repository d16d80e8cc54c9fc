import WhereClause.Converter
import WhereClause.Error

/-! Entities, their tables and the columns of their members.

An entity inherits the members of its base. A member's column and converter come from
the declaration closest to the entity, failing that from the one farthest up; the
declarations between them do not count.
-/

set_option autoImplicit false

namespace WhereClause

structure MemberDef where
  name : String
  column : Option String := none
  converter : Option String := none
  deriving DecidableEq, Repr

structure EntityDef where
  name : String
  table : Option String := none
  base : Option String := none
  members : List MemberDef := []
  deriving DecidableEq, Repr

structure ColumnInfo where
  column : String
  converter : Option Converter

structure EntityInfo where
  table : String
  columns : List (String × ColumnInfo)

structure Schema where
  entities : List (String × EntityInfo) := []

namespace Schema

def checkMembers (registry : Registry) (entity : String) :
    (seen : List String) → List MemberDef → Except SchemaIssue Unit
  | _, [] => .ok ()
  | seen, member :: rest =>
    if seen.contains member.name then .error (.duplicateMember member.name entity)
    else
      match member.converter with
      | some converter =>
        if registry.contains converter then
          checkMembers registry entity (member.name :: seen) rest
        else .error (.unknownConverter converter member.name entity)
      | none => checkMembers registry entity (member.name :: seen) rest

/-- The first repeated entity or faulty member, in the order of the definitions. -/
def checkEntities (registry : Registry) :
    (seen : List String) → List EntityDef → Except SchemaIssue Unit
  | _, [] => .ok ()
  | seen, entity :: rest =>
    if seen.contains entity.name then .error (.duplicateEntity entity.name)
    else do
      checkMembers registry entity.name [] entity.members
      checkEntities registry (entity.name :: seen) rest

def find? (defs : List EntityDef) (name : String) : Option EntityDef :=
  defs.find? (·.name == name)

def unvisited (defs chain : List EntityDef) : Nat :=
  (defs.filter fun entity => !chain.any (·.name == entity.name)).length

theorem unvisited_lt {defs chain : List EntityDef} {parent : EntityDef}
    (defined : parent ∈ defs) (fresh : chain.any (·.name == parent.name) = false) :
    unvisited defs (parent :: chain) < unvisited defs chain := by
  have narrowed : (defs.filter fun entity => !(parent :: chain).any (·.name == entity.name)) =
      (defs.filter fun entity => !chain.any (·.name == entity.name)).filter
        fun entity => !(parent.name == entity.name) := by
    rw [List.filter_filter]
    congr 1
    funext entity
    simp [Bool.not_or]
  unfold unvisited
  rw [narrowed]
  apply List.length_filter_lt_length_iff_exists.mpr
  exact ⟨parent, List.mem_filter.mpr ⟨defined, by simp [fresh]⟩, by simp⟩

/-- The entities above `current`, nearest first; `chain` holds those already passed. -/
def ancestors (defs chain : List EntityDef) (current : EntityDef) :
    Except SchemaIssue (List EntityDef) :=
  match current.base with
  | none => .ok []
  | some base =>
    match _found : find? defs base with
    | none => .error (.unknownBase current.name base)
    | some parent =>
      if _fresh : chain.any (·.name == parent.name) = false then
        (ancestors defs (parent :: chain) parent).map (parent :: ·)
      else .error (.cycle parent.name)
termination_by unvisited defs chain
decreasing_by
  exact unvisited_lt (List.mem_of_find?_eq_some _found) _fresh

def lineage (defs : List EntityDef) (entity : EntityDef) : Except SchemaIssue (List EntityDef) :=
  (ancestors defs [entity] entity).map (entity :: ·)

def declarations (chain : List EntityDef) (member : String) : List MemberDef :=
  chain.filterMap fun entity => entity.members.find? (·.name == member)

/-- Closest declaration first, then the farthest. -/
def preferred {α : Type} (setting : MemberDef → Option α) (found : List MemberDef) : Option α :=
  (found.head?.bind setting).orElse fun _ => found.getLast?.bind setting

def columnInfoOf (registry : Registry) (chain : List EntityDef) (member : String) : ColumnInfo :=
  let found := declarations chain member
  { column := (preferred MemberDef.column found).getD member
    converter := (preferred MemberDef.converter found).bind registry.get? }

def memberNames (chain : List EntityDef) : List String :=
  (chain.flatMap fun entity => entity.members.map MemberDef.name).eraseDups

def entityInfo (registry : Registry) (defs : List EntityDef) (entity : EntityDef) :
    Except SchemaIssue EntityInfo := do
  let chain ← lineage defs entity
  return {
    table := entity.table.getD entity.name
    columns := (memberNames chain).map fun member => (member, columnInfoOf registry chain member) }

def build (defs : List EntityDef) (registry : Registry) : Except Error Schema :=
  let built : Except SchemaIssue Schema := do
    checkEntities registry [] defs
    let entities ← defs.mapM fun entity => do
      return (entity.name, ← entityInfo registry defs entity)
    return { entities }
  built.mapError .schema

def entity (schema : Schema) (name : String) : Except Error EntityInfo :=
  match schema.entities.lookup name with
  | some info => .ok info
  | none => .error (.unknownEntity name)

def tableName (schema : Schema) (name : String) : Except Error String := do
  return (← schema.entity name).table

def columnInfo (schema : Schema) (name member : String) : Except Error ColumnInfo := do
  match (← schema.entity name).columns.lookup member with
  | some info => return info
  | none => throw (.unresolvableColumn name member)

def containsEntity (schema : Schema) (name : String) : Bool :=
  (schema.entities.lookup name).isSome

def entityNames (schema : Schema) : List String :=
  Text.sortNames (schema.entities.map (·.1))

def resolveColumn (schema : Schema) (name member : String) : Except Error String := do
  return (← schema.columnInfo name member).column

def converterFor (schema : Schema) (name member : String) : Option Converter :=
  match schema.columnInfo name member with
  | .ok info => info.converter
  | .error _ => none

end Schema

end WhereClause
