import WhereClause.Predicate
import WhereClause.Schema

/-! A definition for an entity that the schema lacks, inferred from its predicates. -/

set_option autoImplicit false

namespace WhereClause

def Operand.addMember (members : List String) (operand : Operand) : List String :=
  match operand.entityPath?.bind MemberPath.single? with
  | some member => if members.contains member then members else members ++ [member]
  | none => members

/-- Add the members that a predicate reads, in the order in which it reads them. -/
def Predicate.addMembers : (members : List String) → Predicate → List String
  | members, .compare _ left right => right.addMember (left.addMember members)
  | members, .isNull operand => operand.addMember members
  | members, .isNotNull operand => operand.addMember members
  | members, .truth operand => operand.addMember members
  | members, .member item _ => item.addMember members
  | members, .not inner => inner.addMembers members
  | members, .and left right => right.addMembers (left.addMembers members)
  | members, .or left right => right.addMembers (left.addMembers members)

def EntityDef.ofPredicates (name : String) (predicates : List Predicate) : EntityDef where
  name
  members := (predicates.foldl Predicate.addMembers []).map fun member => { name := member }

end WhereClause
