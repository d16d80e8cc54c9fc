import WhereClause.Sql.Formula

/-! The order in which the database visits the rows that a condition selects.

Rows are kept by number, and a condition on the number narrows the search. One pass over the
table visits rows by rising number, whatever it is narrowed to. A disjunction can instead be
searched one alternative after the other, so its order shows in the answer. The database does
that where it estimates the passes to be cheaper than any single one.

Estimates are logarithms: adding ten doubles a quantity.
-/

set_option autoImplicit false

namespace WhereClause.Sql

namespace Formula

def conjuncts : Formula → List Formula
  | .and left right => left.conjuncts ++ right.conjuncts
  | formula => [formula]

def disjuncts : Formula → List Formula
  | .or left right => left.disjuncts ++ right.disjuncts
  | formula => [formula]

def size : Formula → Nat
  | .not inner => inner.size + 1
  | .and left right => left.size + right.size + 1
  | .or left right => left.size + right.size + 1
  | _ => 1

end Formula

namespace Estimate

/-- Tenths of a doubling for the eight steps from a power of two to the next. -/
def eighths : List Nat := [0, 2, 3, 5, 6, 7, 8, 9]

def ofCount (count : Nat) : Nat :=
  let doublings := count.log2
  let leading := if doublings < 3 then count <<< (3 - doublings) else count >>> (doublings - 3)
  10 * doublings + eighths.getD (leading - 8) 0

/-- What the greater of two quantities gains from one that is lower by `gap`. -/
def gain (gap : Nat) : Nat :=
  [10, 10, 9, 9, 8, 8, 7, 7, 7, 6, 6, 6, 5, 5, 5, 4, 4, 4, 4, 3, 3, 3, 3, 3, 3,
    2, 2, 2, 2, 2, 2, 2].getD gap (if gap ≤ 49 then 1 else 0)

def sum (left right : Int) : Int := max left right + gain (left - right).natAbs

end Estimate

structure Cost where
  work : Int
  rows : Int
  deriving DecidableEq, Repr

namespace Cost

def sum (left right : Cost) : Cost where
  work := Estimate.sum left.work right.work
  rows := Estimate.sum left.rows right.rows

def lt (left right : Cost) : Bool :=
  left.work < right.work || (left.work == right.work && left.rows < right.rows)

/-- The least work; among equals, the fewest rows. -/
def merge (best other : Cost) : Cost :=
  if other.work ≤ best.work then { other with rows := min other.rows best.rows } else best

end Cost

inductive Bound where
  | equal
  | among (count : Nat)
  | above
  | below
  | null
  deriving DecidableEq, Repr

namespace Bound

def ofComparison? : Comparison → Option Bound
  | .eq => some .equal
  | .ne => none
  | .lt | .le => some .below
  | .gt | .ge => some .above

def swapped : Bound → Bound
  | .above => .below
  | .below => .above
  | bound => bound

end Bound

namespace Plan

/-- The columns of a table: the place of each, or none for the row number, and whether
numbers are stored in it. -/
structure Layout where
  place : String → Option Nat
  isNumeric : String → Bool

abbrev Place := Option Nat

variable (layout : Layout)

def isColumn : Term → Bool
  | .column _ => true
  | _ => false

/-- Whether a condition depends on the row. A number is never missing. -/
def reads : Formula → Bool
  | .compare _ left right => isColumn left || isColumn right
  | .nullTest _ (.column name) => (layout.place name).isSome
  | .nullTest _ _ => false
  | .among item _ => isColumn item
  | .within item _ => isColumn item
  | .not inner => reads inner
  | .and left right => reads left || reads right
  | .or left right => reads left || reads right

def bound? : Formula → Option (Place × Bound)
  | .compare op (.column name) right =>
    if isColumn right then none else (Bound.ofComparison? op).map (layout.place name, ·)
  | .compare op _ (.column name) =>
    (Bound.ofComparison? op).map fun bound => (layout.place name, bound.swapped)
  | .among (.column name) [_] => some (layout.place name, .equal)
  | .among (.column name) elements => some (layout.place name, .among elements.length)
  | .nullTest false (.column name) => (layout.place name).map fun place => (some place, .null)
  | _ => none

/-- Alternatives that all fix one column say together that it is one of several values. -/
def merged? (formula : Formula) : Option (Place × Bound) :=
  match formula.disjuncts with
  | first :: second :: rest =>
    match bound? layout first with
    | some (place, .equal) =>
      if (second :: rest).all (bound? layout · == some (place, .equal)) then
        some (place, .among (rest.length + 2))
      else none
    | _ => none
  | _ => none

/-- Columns of one kind that a condition makes equal; a bound on one is a bound on both. -/
def equated? : Formula → Option (Place × Place)
  | .compare .eq (.column left) (.column right) =>
    if layout.isNumeric left == layout.isNumeric right then
      some (layout.place left, layout.place right)
    else none
  | _ => none

def narrows (formula : Formula) : Bool :=
  match formula with
  | .compare op left right => op != .ne && (isColumn left || isColumn right)
  | _ => (bound? layout formula).isSome || (merged? layout formula).isSome

def searchable (formula : Formula) : Bool :=
  let alternatives := formula.disjuncts
  1 < alternatives.length &&
    alternatives.all fun alternative => alternative.conjuncts.any (narrows layout)

/-- What is known of columns: bounds, each with the part of the conjunction that it comes
from, and columns that are equal. -/
structure Knowledge where
  bounds : List (Option Nat × Place × Bound)
  equal : List (Place × Place)

def Knowledge.ofClause (clause : List Formula) : Knowledge where
  bounds := clause.zipIdx.filterMap fun (formula, part) =>
    ((bound? layout formula).or (merged? layout formula)).map (some part, ·)
  equal := clause.filterMap (equated? layout)

namespace Knowledge

def empty : Knowledge := ⟨[], []⟩

def outer (knowledge : Knowledge) : Knowledge :=
  { knowledge with bounds := knowledge.bounds.map fun (_, bound) => (none, bound) }

def append (inner outer : Knowledge) : Knowledge :=
  ⟨inner.bounds ++ outer.bounds, inner.equal ++ outer.equal⟩

def reached (knowledge : Knowledge) : (fuel : Nat) → List Place → List Place
  | 0, places => places
  | fuel + 1, places =>
    let linked := knowledge.equal.flatMap fun (left, right) =>
      if places.contains left then [right] else if places.contains right then [left] else []
    knowledge.reached fuel (places ++ linked.filter (!places.contains ·))

def numberBounds (knowledge : Knowledge) : List (Option Nat × Bound) :=
  let places := knowledge.reached knowledge.equal.length [none]
  knowledge.bounds.filterMap fun (part, place, bound) =>
    if places.contains place then some (part, bound) else none

end Knowledge

/-- Each part that a search leaves to be tested takes away some rows, and an equality most. -/
def remaining (clause : List Formula) (used : List (Option Nat)) (rows : Int) : Int :=
  let tested := (clause.zipIdx.filter fun (formula, part) =>
    reads layout formula && !used.contains (some part)).map Prod.fst
  let fixes := tested.any fun formula => (bound? layout formula).map Prod.snd == some .equal
  min (rows - tested.length) (if fixes then 180 else 200)

def singlePasses (clause : List Formula) (known : List (Option Nat × Bound)) : List Cost :=
  let cost (work : Int) (used : List (Option Nat)) (rows : Int) : Cost :=
    { work, rows := remaining layout clause used rows }
  let narrowed := known.flatMap fun (part, bound) =>
    match bound with
    | .equal => [cost 45 [part] 0]
    | .among count => [cost (45 + Estimate.ofCount count) [part] (Estimate.ofCount count)]
    | .above => cost 196 [part] 180 :: (known.filter (·.2 == .below)).map fun (upper, _) =>
        cost 156 [part, upper] 140
    | .below => [cost 196 [part] 180]
    | .null => []
  cost 216 [] 200 :: narrowed

/-- The ways to search a conjunction: single passes, and for each disjunction the passes over
its alternatives, with its part. `outer` is what surrounding conditions say. -/
def ways : (fuel : Nat) → (clause : List Formula) → (outer : Knowledge) → List (Cost × Option Nat)
  | 0, _, _ => []
  | fuel + 1, clause, outer =>
    let knowledge := (Knowledge.ofClause layout clause).append outer
    let alternatives := clause.zipIdx.filterMap fun (formula, part) =>
      if searchable layout formula then
        let costs := formula.disjuncts.filterMap fun alternative =>
          (ways fuel alternative.conjuncts knowledge.outer).foldl
            (fun best (cost, _) => some ((best.map (Cost.merge · cost)).getD cost)) none
        match costs with
        | [] => none
        | first :: rest =>
          let total := rest.foldl Cost.sum first
          some ({ total with work := total.work + 1 }, some part)
      else none
    (singlePasses layout clause knowledge.numberBounds).map (·, none) ++ alternatives

/-- The part of a conjunction whose alternatives are searched, if any. The first of the
cheapest ways is taken. -/
def split? (ways : List (Cost × Option Nat)) : Option Nat :=
  match ways with
  | [] => none
  | first :: rest => (rest.foldl (fun best way => if way.1.lt best.1 then way else best) first).2

/-- The conjunctions that are searched one after the other. A part beside the disjunction
goes along with every alternative if it compares a column, makes two columns equal, or is a
disjunction itself. -/
def passes : (fuel : Nat) → (clause : List Formula) → List (List Formula)
  | 0, clause => [clause]
  | fuel + 1, clause =>
    match split? (ways layout (fuel + 1) clause .empty) with
    | none => [clause]
    | some part =>
      let others := (clause.eraseIdx part).filter fun formula =>
        (bound? layout formula).isSome || (equated? layout formula).isSome
          || 1 < formula.disjuncts.length
      ((clause[part]?.map Formula.disjuncts).getD []).flatMap fun alternative =>
        passes fuel (alternative.conjuncts ++ others)

def arrange {α : Type} : (passes : List (α → Bool)) → (rows : List α) → List α
  | [], rows => rows
  | pass :: later, rows => rows.filter pass ++ arrange later (rows.filter (!pass ·))

end Plan

end WhereClause.Sql
