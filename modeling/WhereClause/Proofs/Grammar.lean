import WhereClause.Condition
import WhereClause.Sql.Reader

/-! The grammar of conditions.

`Spells` says which token lists spell a condition, with negation binding tighter than
conjunction and conjunction tighter than disjunction; a connective without parentheses groups
to the right. The reader finds the condition of every list that spells one, and two lists that
spell conditions at the same connective can be joined by it: the operands stay the same, whatever
grouping results.
-/

set_option autoImplicit false

namespace WhereClause.Sql

def Term.token : Term → Token
  | .column name => .name name
  | .param index => .param index
  | .number value => .number value

def listedTokens : (first : Term) → (others : List Term) → List Token
  | first, [] => [first.token]
  | first, next :: rest => first.token :: .comma :: listedTokens next rest

/-- Token lists that spell a condition with a given connective, or none, at the top. -/
inductive Spells : Shape → List Token → Formula → Prop where
  | compare (op : Comparison) (left right : Term) :
      Spells .atom [left.token, .comparison op, right.token] (.compare op left right)
  | isNull (tested : Term) :
      Spells .atom [tested.token, .word "IS", .word "NULL"] (.nullTest false tested)
  | isNotNull (tested : Term) :
      Spells .atom [tested.token, .word "IS", .word "NOT", .word "NULL"] (.nullTest true tested)
  | among (item first : Term) (others : List Term) :
      Spells .atom (item.token :: .word "IN" :: .openParen ::
        listedTokens first others ++ [.closeParen]) (.among item (first :: others))
  | withinArray (item : Term) (index : Nat) :
      Spells .atom [item.token, .comparison .eq, .word "ANY", .openParen, .param index, .closeParen]
        (.within item index)
  | withinTable (item : Term) (index : Nat) :
      Spells .atom [item.token, .word "IN", .openParen, .word "SELECT", .word "V", .word "FROM",
        .param index, .closeParen] (.within item index)
  | group {tokens : List Token} {inner : Formula} :
      Spells .or tokens inner → Spells .atom (.openParen :: tokens ++ [.closeParen]) inner
  | not {tokens : List Token} {inner : Formula} :
      Spells .atom tokens inner → Spells .atom (.word "NOT" :: tokens) (.not inner)
  | factor {tokens : List Token} {formula : Formula} :
      Spells .atom tokens formula → Spells .and tokens formula
  | and {first rest : List Token} {left right : Formula} :
      Spells .atom first left → Spells .and rest right →
      Spells .and (first ++ .word "AND" :: rest) (.and left right)
  | alternative {tokens : List Token} {formula : Formula} :
      Spells .and tokens formula → Spells .or tokens formula
  | or {first rest : List Token} {left right : Formula} :
      Spells .and first left → Spells .or rest right →
      Spells .or (first ++ .word "OR" :: rest) (.or left right)

theorem readTerm_token (term : Term) (rest : List Token) :
    readTerm (term.token :: rest) = some (term, rest) := by
  cases term <;> rfl

theorem readTerms_listed (first : Term) (others : List Term) (rest : List Token) :
    readTerms (listedTokens first others ++ .closeParen :: rest) = some (first :: others, rest) := by
  induction others generalizing first with
  | nil => simp [listedTokens, readTerms, readTerm_token]
  | cons next others ih => simp [listedTokens, readTerms, readTerm_token, ih]

def readAt : Shape → Nat → List Token → Option (Formula × List Token)
  | .atom => readNot
  | .and => readAnd
  | .or => readOr

def Stops : Shape → List Token → Prop
  | .atom, _ => True
  | .and, rest => rest.head? ≠ some (.word "AND")
  | .or, rest => rest.head? ≠ some (.word "AND") ∧ rest.head? ≠ some (.word "OR")

/-- Steps down that reading takes beside those for the tokens. -/
def slack : Shape → Nat
  | .atom => 1
  | .and => 2
  | .or => 3

theorem exists_below {shape : Shape} {length depth : Nat} (deep : 3 * length + slack shape ≤ depth) :
    ∃ below, depth = below + 1 := by
  refine ⟨depth - 1, ?_⟩
  cases shape <;> simp only [slack] at deep <;> omega

theorem readNot_term (depth : Nat) (item : Term) (rest : List Token) :
    readNot (depth + 1) (item.token :: rest) = readAtom (item.token :: rest) := by
  cases item <;> rfl

-- The first element is no word, so the list is not taken for a selection from a table.
theorem readAtom_among (item first : Term) (others : List Term) (rest : List Token) :
    readAtom (item.token :: .word "IN" :: .openParen ::
      (listedTokens first others ++ .closeParen :: rest)) =
        some (.among item (first :: others), rest) := by
  have elements := readTerms_listed first others rest
  unfold readAtom
  rw [readTerm_token]
  cases others <;> cases first <;>
    simp only [listedTokens, Term.token, List.cons_append, List.nil_append] at elements ⊢ <;>
    simp [elements]

theorem readAtom_compare (op : Comparison) (left right : Term) (rest : List Token) :
    readAtom (left.token :: .comparison op :: right.token :: rest) =
      some (.compare op left right, rest) := by
  unfold readAtom
  rw [readTerm_token]
  cases op <;> cases right <;> rfl

theorem readAnd_stop {depth : Nat} {tokens rest : List Token} {formula : Formula}
    (read : readNot depth tokens = some (formula, rest)) (stops : Stops .and rest) :
    readAnd (depth + 1) tokens = some (formula, rest) := by
  simp only [readAnd, read, Option.bind_eq_bind, Option.bind_some]
  split
  · exact absurd rfl stops
  · rfl

theorem readOr_stop {depth : Nat} {tokens rest : List Token} {formula : Formula}
    (read : readAnd depth tokens = some (formula, rest)) (stops : Stops .or rest) :
    readOr (depth + 1) tokens = some (formula, rest) := by
  simp only [readOr, read, Option.bind_eq_bind, Option.bind_some]
  split
  · exact absurd rfl stops.2
  · rfl

/-- The reader takes a spelled condition off the front of any tokens that do not continue it. -/
theorem Spells.read {shape : Shape} {tokens : List Token} {formula : Formula}
    (spells : Spells shape tokens formula) (depth : Nat) (rest : List Token)
    (deep : 3 * tokens.length + slack shape ≤ depth) (stops : Stops shape rest) :
    readAt shape depth (tokens ++ rest) = some (formula, rest) := by
  -- on the spelling; the slack pays for stepping down to a tighter connective without a token
  induction spells generalizing depth rest with obtain ⟨depth, rfl⟩ := exists_below deep
  | compare op left right =>
    exact (readNot_term depth left _).trans (readAtom_compare op left right rest)
  | isNull tested =>
    refine (readNot_term depth tested _).trans ?_
    simp [readAtom, readTerm_token]
  | isNotNull tested =>
    refine (readNot_term depth tested _).trans ?_
    simp [readAtom, readTerm_token]
  | among item first others =>
    refine (readNot_term depth item _).trans ?_
    simpa using readAtom_among item first others rest
  | withinArray item index =>
    refine (readNot_term depth item _).trans ?_
    simp [readAtom, readTerm_token]
  | withinTable item index =>
    refine (readNot_term depth item _).trans ?_
    simp [readAtom, readTerm_token]
  | @group tokens inner _ ih =>
    have read := ih depth (.closeParen :: rest) (by simp [slack] at deep ⊢; omega) (by simp [Stops])
    simp only [readAt] at read
    simp [readAt, readNot, read]
  | @not tokens inner _ ih =>
    have read := ih depth rest (by simp [slack] at deep ⊢; omega) trivial
    simp only [readAt] at read
    simp [readAt, readNot, read]
  | factor _ ih =>
    have read := ih depth rest (by simp [slack] at deep ⊢; omega) trivial
    exact readAnd_stop read stops
  | @and first others left right _ _ leftIh rightIh =>
    have leftRead := leftIh depth (.word "AND" :: others ++ rest)
      (by simp [slack] at deep ⊢; omega) trivial
    have rightRead := rightIh depth rest (by simp [slack] at deep ⊢; omega) stops
    simp only [readAt, List.cons_append] at leftRead rightRead
    simp [readAt, readAnd, leftRead, rightRead]
  | alternative _ ih =>
    have read := ih depth rest (by simp [slack] at deep ⊢; omega) stops.1
    exact readOr_stop read stops
  | @or first others left right _ _ leftIh rightIh =>
    have leftRead := leftIh depth (.word "OR" :: others ++ rest)
      (by simp [slack] at deep ⊢; omega) (by simp [Stops])
    have rightRead := rightIh depth rest (by simp [slack] at deep ⊢; omega) stops
    simp only [readAt, List.cons_append] at leftRead rightRead
    simp [readAt, readOr, leftRead, rightRead]

namespace Spells

variable {tokens : List Token} {formula : Formula}

theorem lift (spells : Spells .atom tokens formula) (shape : Shape) :
    Spells shape tokens formula :=
  match shape with
  | .atom => spells
  | .and => .factor spells
  | .or => .alternative (.factor spells)

theorem weaken {shape : Shape} (spells : Spells shape tokens formula) :
    Spells .or tokens formula :=
  match shape, spells with
  | .atom, spells => spells.lift .or
  | .and, spells => .alternative spells
  | .or, spells => spells

theorem readFormula {shape : Shape} (spells : Spells shape tokens formula) :
    readFormula tokens = some formula := by
  have read := spells.weaken.read (3 * tokens.length + 3) [] (Nat.le_refl _) (by simp [Stops])
  simp only [readAt, List.append_nil] at read
  simp only [Sql.readFormula, read]

end Spells

namespace Truth

theorem and_assoc (first second third : Truth) :
    (first.and second).and third = first.and (second.and third) := by
  cases first <;> cases second <;> cases third <;> rfl

theorem or_assoc (first second third : Truth) :
    (first.or second).or third = first.or (second.or third) := by
  cases first <;> cases second <;> cases third <;> rfl

end Truth

end Sql

open Sql

namespace Word

def truth : Word → Truth → Truth → Truth
  | .and => .and
  | .or => .or

def truthAll (word : Word) (truths : List Truth) : Truth :=
  truths.foldr word.truth (match word with | .and => .yes | .or => .no)

theorem truth_assoc (word : Word) (first second third : Truth) :
    word.truth (word.truth first second) third = word.truth first (word.truth second third) := by
  cases word with
  | and => exact first.and_assoc second third
  | or => exact first.or_assoc second third

@[simp] theorem truthAll_single (word : Word) (truth : Truth) : word.truthAll [truth] = truth := by
  cases word <;> cases truth <;> rfl

theorem truthAll_append (word : Word) (first rest : List Truth) :
    word.truthAll (first ++ rest) = word.truth (word.truthAll first) (word.truthAll rest) := by
  induction first with
  | nil =>
    rw [List.nil_append]
    generalize truthAll word rest = truth
    cases word <;> cases truth <;> rfl
  | cons head first ih =>
    have unfolded (truths : List Truth) :
        word.truthAll (head :: truths) = word.truth head (word.truthAll truths) := rfl
    rw [List.cons_append, unfolded, unfolded, ih, truth_assoc]

end Word

namespace Sql.Formula

/-- The conditions that a connective joins at the top, in whatever grouping. -/
def operands (word : Word) : Formula → List Formula
  | .and left right =>
    if word = .and then left.operands word ++ right.operands word else [.and left right]
  | .or left right =>
    if word = .or then left.operands word ++ right.operands word else [.or left right]
  | formula => [formula]

variable {α : Type} (model : Model α)

theorem eval_operands (word : Word) (formula : Formula) :
    formula.eval model = word.truthAll ((formula.operands word).map (eval model)) := by
  induction formula with
  | and left right leftIh rightIh =>
    cases word with
    | and =>
      simp only [operands, if_true, List.map_append, Word.truthAll_append, ← leftIh, ← rightIh]
      rfl
    | or => simp [operands]
  | or left right leftIh rightIh =>
    cases word with
    | and => simp [operands]
    | or =>
      simp only [operands, if_true, List.map_append, Word.truthAll_append, ← leftIh, ← rightIh]
      rfl
  | _ => simp [operands]

theorem eval_of_operands {word : Word} {formula left right : Formula}
    (same : formula.operands word = left.operands word ++ right.operands word) :
    formula.eval model = word.truth (left.eval model) (right.eval model) := by
  rw [eval_operands model word formula, same, List.map_append, Word.truthAll_append,
    ← eval_operands, ← eval_operands]

end Sql.Formula

namespace Sql.Spells

-- The reader groups to the right, so the tokens in front decide which condition results; its
-- operands are the same as if they had been read by themselves.
theorem joinAnd {first rest : List Token} {left right : Formula} (leftSpells : Spells .and first left)
    (rightSpells : Spells .and rest right) :
    ∃ formula, Spells .and (first ++ .word "AND" :: rest) formula ∧
      formula.operands .and = left.operands .and ++ right.operands .and := by
  generalize same : Shape.and = shape at leftSpells
  induction leftSpells with cases same
  | factor spells => exact ⟨_, .and spells rightSpells, rfl⟩
  | @and _ _ front _ spells _ _ ih =>
    obtain ⟨formula, joined, operands⟩ := ih rfl
    refine ⟨.and front formula, by simpa using Spells.and spells joined, ?_⟩
    simp [Formula.operands, operands]

theorem joinOr {first rest : List Token} {left right : Formula} (leftSpells : Spells .or first left)
    (rightSpells : Spells .or rest right) :
    ∃ formula, Spells .or (first ++ .word "OR" :: rest) formula ∧
      formula.operands .or = left.operands .or ++ right.operands .or := by
  generalize same : Shape.or = shape at leftSpells
  induction leftSpells with cases same
  | alternative spells => exact ⟨_, .or spells rightSpells, rfl⟩
  | @or _ _ front _ spells _ _ ih =>
    obtain ⟨formula, joined, operands⟩ := ih rfl
    refine ⟨.or front formula, by simpa using Spells.or spells joined, ?_⟩
    simp [Formula.operands, operands]

theorem join (word : Word) {first rest : List Token} {left right : Formula}
    (leftSpells : Spells word.shape first left) (rightSpells : Spells word.shape rest right) :
    ∃ formula, Spells word.shape (first ++ .word word.sql :: rest) formula ∧
      formula.operands word = left.operands word ++ right.operands word :=
  match word with
  | .and => leftSpells.joinAnd rightSpells
  | .or => leftSpells.joinOr rightSpells

end Sql.Spells

end WhereClause
