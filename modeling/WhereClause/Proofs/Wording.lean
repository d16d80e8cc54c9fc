import WhereClause.Condition
import WhereClause.Proofs.Operands

/-! Texts of predicates.

A predicate can be written in many ways: with symbols or words for its connectives, with any
white space around them, with parentheses around any part and without those that precedence and
left associativity make superfluous, and with a header that gives the entity another name. Every
such text is read as the predicate, unless the header gives the entity a name that is taken for a
literal or a negation where a member is read.
-/

set_option autoImplicit false

namespace WhereClause

namespace Word

def signs : Word → List String
  | .and => ["&&", "and"]
  | .or => ["||", "or"]

def tighter : Word → Shape
  | .and => .atom
  | .or => .and

end Word

def Predicate.fields : Predicate → List MemberPath
  | .compare _ left right => left.entityPath?.toList ++ right.entityPath?.toList
  | .not inner => inner.fields
  | .and left right => left.fields ++ right.fields
  | .or left right => left.fields ++ right.fields
  | .isNull tested => tested.entityPath?.toList
  | .isNotNull tested => tested.entityPath?.toList
  | .member item _ => item.entityPath?.toList
  | .truth tested => tested.entityPath?.toList

/-- The members that stand first in a test, where a negation may stand as well. -/
def Predicate.leadingFields : Predicate → List MemberPath
  | .compare _ left _ => left.entityPath?.toList
  | .not inner => inner.leadingFields
  | .and left right => left.leadingFields ++ right.leadingFields
  | .or left right => left.leadingFields ++ right.leadingFields
  | .isNull tested => tested.entityPath?.toList
  | .isNotNull tested => tested.entityPath?.toList
  | .member item _ => item.entityPath?.toList
  | .truth tested => tested.entityPath?.toList

/-- Where a predicate reads members, the name of their entity is not taken for another word. -/
structure Predicate.Nameable (predicate : Predicate) (name : String) : Prop where
  literal : predicate.fields ≠ [] → name ∉ Reader.literalWords
  negation : predicate.leadingFields ≠ [] → name ≠ "not"

theorem Predicate.Nameable.parts {word : Word} {left right : Predicate} {name : String}
    (free : (word.predicate left right).Nameable name) : left.Nameable name ∧ right.Nameable name := by
  obtain ⟨literal, negation⟩ := free
  have fields : (word.predicate left right).fields = left.fields ++ right.fields := by
    cases word <;> rfl
  have leading : (word.predicate left right).leadingFields =
      left.leadingFields ++ right.leadingFields := by
    cases word <;> rfl
  rw [fields] at literal
  rw [leading] at negation
  exact ⟨⟨fun some => literal (List.append_ne_nil_of_left_ne_nil some _),
      fun some => negation (List.append_ne_nil_of_left_ne_nil some _)⟩,
    ⟨fun some => literal (List.append_ne_nil_of_right_ne_nil _ some),
      fun some => negation (List.append_ne_nil_of_right_ne_nil _ some)⟩⟩

namespace Reader

open Bounded

/-- The texts of a predicate whose entity has the given name. The shape is that of the
connective which stands outside all parentheses. Words need something other than a name next
to them, which symbols do not. -/
inductive PredicateText (name : String) (scope : Variables) : Shape → List Char → Predicate → Prop where
  | compare (op : Comparison) (before after : List Char) {first second : List Char}
      {left right : Operand} :
      OperandText name scope first left → Gap before → Gap after →
      OperandText name scope second right →
      PredicateText name scope .atom (first ++ (before ++ (op.symbol.toList ++ (after ++ second))))
        (.compare op left right)
  | member (before after : List Char) {first second : List Char} {item collection : Operand}
      {type : ValueType} {items : List Value} :
      OperandText name scope first item → Gap before → Gap after →
      OperandText name scope second collection → collection.boundValue? = some (.list type items) →
      Apart (first ++ before) "in".toList → Apart "in".toList (after ++ second) →
      PredicateText name scope .atom (first ++ (before ++ ("in".toList ++ (after ++ second))))
        (.member item items)
  | truth {text : List Char} {tested : Operand} : OperandText name scope text tested →
      PredicateText name scope .atom text (.truth tested)
  | nullTest (present : Bool) {text : List Char} {tested : Operand} :
      ReferenceText name scope text tested →
      PredicateText name scope .atom (text ++ '.' :: (suffix present).toList)
        (if present then .isNotNull tested else .isNull tested)
  | group (opening closing : List Char) {shape : Shape} {text : List Char} {inner : Predicate} :
      Gap opening → PredicateText name scope shape text inner → Gap closing →
      PredicateText name scope .atom ('(' :: (opening ++ (text ++ (closing ++ [')'])))) inner
  | not (sign : String) (gap : List Char) {text : List Char} {inner : Predicate} :
      sign ∈ ["!", "not"] → Gap gap → PredicateText name scope .atom text inner →
      Apart sign.toList (gap ++ text) →
      PredicateText name scope .atom (sign.toList ++ (gap ++ text)) (.not inner)
  | lift (word : Word) {text : List Char} {inner : Predicate} :
      PredicateText name scope word.tighter text inner →
      PredicateText name scope word.shape text inner
  | join (word : Word) (sign : String) (before after : List Char) {first second : List Char}
      {left right : Predicate} :
      PredicateText name scope word.shape first left → Gap before → sign ∈ word.signs → Gap after →
      PredicateText name scope word.tighter second right →
      Apart (first ++ before) sign.toList → Apart sign.toList (after ++ second) →
      PredicateText name scope word.shape (first ++ (before ++ (sign.toList ++ (after ++ second))))
        (word.predicate left right)

/-- The texts of a predicate with or without a header, which names the entity. -/
inductive SentenceText (scope : Variables) : (name : String) → List Char → Predicate → Prop where
  | bare (opening closing : List Char) {body : List Char} {predicate : Predicate} :
      Gap opening → PredicateText defaultParameter scope .or body predicate → Gap closing →
      SentenceText scope defaultParameter (opening ++ (body ++ closing)) predicate
  | headed (name : String) (opening before after closing : List Char) {body : List Char}
      {predicate : Predicate} :
      isIdentifier name = true → Gap opening → Gap before → Gap after →
      PredicateText name scope .or body predicate → Gap closing →
      SentenceText scope name
        (opening ++ (name.toList ++ (before ++ ("=>".toList ++ (after ++ (body ++ closing)))))) predicate

theorem comparison_read (op : Comparison) {rest : List Char} (other : rest.head? ≠ some '=') :
    comparison (op.symbol.toList ++ rest) = .done op rest := by
  cases op with
  | eq => rfl
  | ne => rfl
  | le => rfl
  | ge => rfl
  | lt =>
    cases rest with
    | nil => rfl
    | cons c rest =>
      have ne : '=' ≠ c := by
        rintro rfl
        exact other rfl
      simp [comparison, orElse, tag, Comparison.symbol, Outcome.map, Outcome.andThen, ne]
  | gt =>
    cases rest with
    | nil => rfl
    | cons c rest =>
      have ne : '=' ≠ c := by
        rintro rfl
        exact other rfl
      simp [comparison, orElse, tag, Comparison.symbol, Outcome.map, Outcome.andThen, ne]

theorem comparison_refuses {text : List Char} (other : ∀ c ∈ text.head?, c ∉ ['=', '!', '<', '>']) :
    Refuses comparison text := by
  have sign (op : Comparison) {c : Char} {more : List Char} (spelled : op.symbol.toList = c :: more)
      (known : c ∈ ['=', '!', '<', '>']) :
      Refuses (fun text => (tag op.symbol.toList text).map fun _ => op) text := by
    rw [spelled]
    exact (tag_refuses (fun same => other c same known) more).map _
  exact (sign .eq rfl (by decide)).both ((sign .ne rfl (by decide)).both ((sign .le rfl (by decide)).both
    ((sign .ge rfl (by decide)).both ((sign .lt rfl (by decide)).both (sign .gt rfl (by decide))))))

section

variable {name : String} {scope : Variables} {text : List Char}

theorem OperandText.padded_read {operand : Operand} (written : OperandText name scope text operand)
    (named : isIdentifier name = true) (free : operand.entityPath? ≠ none → name ∉ literalWords)
    {rest : List Char} (apart : Apart text rest) (uncalled : (skip rest).head? ≠ some '(')
    {limit : Nat} (covers : text.length < limit) :
    ∃ term : Term, padded (access name limit) (text ++ rest) = .done (.plain term) (skip rest) ∧
      ∀ total, term.operand scope total = .ok operand := by
  obtain ⟨term, read, resolves⟩ := written.access_read named free apart uncalled covers
  refine ⟨term, padded_of_done ?_, resolves⟩
  rwa [((written.opens named).solid rest).skip]

end

section

variable {operand : Reader Access} {text behind rest : List Char} {left : Term} {right : Access}

theorem test_compare {op : Comparison}
    (leftRead : padded operand text = .done (.plain left) (op.symbol.toList ++ behind))
    (other : behind.head? ≠ some '=')
    (rightRead : padded operand (skip behind) = .done right rest) :
    test operand text = .done (.compare op (.plain left) right) rest := by
  have solid : Solid (op.symbol.toList ++ behind) := by
    cases op <;> (rintro c ⟨⟩; rfl)
  have sign : padded comparison (op.symbol.toList ++ behind) = .done op (skip behind) :=
    padded_of_done (by rw [solid.skip, comparison_read op other])
  simp [test, leftRead, Access.isPlain, sign, rightRead]

theorem test_member (leftRead : padded operand text = .done (.plain left) ("in".toList ++ behind))
    (ends : ∀ c ∈ behind.head?, isNameChar c = false)
    (rightRead : padded operand (skip behind) = .done right rest) :
    test operand text = .done (.member (.plain left) right) rest := by
  have solid : Solid ("in".toList ++ behind) := by
    rintro c ⟨⟩
    rfl
  have word : padded (keyword "in".toList) ("in".toList ++ behind) = .done () (skip behind) :=
    padded_of_done (by rw [solid.skip, keyword_append _ ends])
  have refuses : Refuses comparison (skip ("in".toList ++ behind)) := by
    rw [solid.skip]
    exact comparison_refuses (by rintro c ⟨⟩; decide)
  obtain ⟨place, halts⟩ := refuses.padded
  simp only [test, leftRead, andThen_done, halts, word, rightRead, commit_done, map_done]
  rfl

theorem test_truth {tested : Access} (read : padded operand text = .done tested (skip rest))
    (other : ∀ c ∈ (skip rest).head?, c ∉ ['=', '!', '<', '>', 'i']) :
    test operand text = .done (.truth tested) (skip rest) := by
  have sign : Refuses comparison (skip (skip rest)) := by
    rw [(solid_skip rest).skip]
    exact comparison_refuses fun c first known => other c first (List.mem_append_left ['i'] known)
  have word : Refuses (keyword "in".toList) (skip (skip rest)) := by
    rw [(solid_skip rest).skip]
    exact keyword_refuses_head (fun first => other 'i' first (by decide)) ['n']
  obtain ⟨place, signHalts⟩ := sign.padded
  obtain ⟨place, wordHalts⟩ := word.padded
  simp only [test, read, andThen_done, signHalts, wordHalts]
  split <;> rfl

theorem unary_test {name : String} (opens : Opens ['=', '('] text) {rest : List Char}
    (negative : Refuses negation (text ++ rest)) (limit : Nat) :
    unary name (limit + 1) (text ++ rest) = test (access name (limit + 1)) (text ++ rest) := by
  have solid := (opens.solid rest).skip
  obtain ⟨place, negationHalts⟩ := negative
  have group : Refuses (padded (char '(')) (text ++ rest) := by
    apply Refuses.padded
    rw [solid]
    exact char_refuses (opens.head_ne (by decide) rest)
  obtain ⟨place, groupHalts⟩ := group
  simp [unary, solid, negationHalts, groupHalts]

end

/-! Connectives: each word has a reader for its sign and one for its operands. -/

def signReader : Word → Reader Unit
  | .and => andSign
  | .or => orSign

def operandReader (unary : Reader Expression) (limit : Nat) : Word → Reader Expression
  | .and => unary
  | .or => conjunction unary limit

def joinedBy : Word → Expression → Expression → Expression
  | .and => .and
  | .or => .or

def chained (unary : Reader Expression) (limit : Nat) (word : Word) : Reader Expression := fun text =>
  (operandReader unary limit word text).andThen
    (chain (signReader word) (operandReader unary limit word) (joinedBy word) limit)

def signStarts : Word → List Char
  | .and => ['&', 'a']
  | .or => ['|', 'o']

theorem sign_starts {word : Word} {sign : String} (known : sign ∈ word.signs) :
    ∃ c more, sign.toList = c :: more ∧ c ∈ signStarts word ∧ Text.isSeparator c = false := by
  have all : ∀ sign ∈ word.signs, ∃ c ∈ sign.toList.head?, c ∈ signStarts word ∧
      Text.isSeparator c = false := by
    cases word <;> decide
  obtain ⟨c, first, start⟩ := all sign known
  obtain ⟨more, same⟩ := List.head?_eq_some_iff.mp first
  exact ⟨c, more, same, start⟩

theorem connective_read {c d : Char} {symbol word sign rest : List Char}
    (known : sign = c :: symbol ∨ sign = d :: word) (other : c ≠ d)
    (separate : Text.isSeparator c = false ∧ Text.isSeparator d = false)
    (named : ∀ x ∈ d :: word, isNameChar x = true) (apart : Apart sign rest) :
    padded (orElse (tag (c :: symbol)) (keyword (d :: word))) (sign ++ rest) = .done () (skip rest) := by
  apply padded_of_done
  rcases known with rfl | rfl
  · rw [Solid.skip (by rintro x ⟨⟩; exact separate.1)]
    exact orElse_of_done (tag_append _ _) _
  · have refuses : Refuses (tag (c :: symbol)) (d :: word ++ rest) :=
      tag_refuses (by simpa using other.symm) symbol
    rw [Solid.skip (by rintro x ⟨⟩; exact separate.2), refuses.orElse]
    exact keyword_append _ (apart (ends_named [] (by simp) named)).ends

theorem sign_read {word : Word} {sign : String} (known : sign ∈ word.signs) {rest : List Char}
    (apart : Apart sign.toList rest) :
    signReader word (sign.toList ++ rest) = .done () (skip rest) := by
  cases word with
  | and =>
    have all : ∀ sign ∈ Word.signs .and,
        sign.toList = ['&', '&'] ∨ sign.toList = ['a', 'n', 'd'] := by
      decide
    exact connective_read (all sign known) (by decide) (by decide) (by decide) apart
  | or =>
    have all : ∀ sign ∈ Word.signs .or, sign.toList = ['|', '|'] ∨ sign.toList = ['o', 'r'] := by
      decide
    exact connective_read (all sign known) (by decide) (by decide) (by decide) apart

theorem sign_refuses {word : Word} {rest : List Char}
    (other : ∀ c ∈ (skip rest).head?, c ∉ signStarts word) : Refuses (signReader word) (skip rest) := by
  have connective {c d : Char} (known : c ∈ signStarts word ∧ d ∈ signStarts word)
      (symbol keyword : List Char) :
      Refuses (padded (orElse (tag (c :: symbol)) (Reader.keyword (d :: keyword)))) (skip rest) := by
    apply Refuses.padded
    rw [(solid_skip rest).skip]
    exact (tag_refuses (fun first => other c first known.1) symbol).both
      (keyword_refuses_head (fun first => other d first known.2) keyword)
  cases word with
  | and => exact connective (by decide) ['&'] ['n', 'd']
  | or => exact connective (by decide) ['|'] ['r']

theorem chain_ends {sign : Reader Unit} {operand : Reader Expression}
    {join : Expression → Expression → Expression} {limit : Nat} {first : Expression} {rest : List Char}
    (refuses : Refuses sign rest) (covers : 0 < limit) :
    chain sign operand join limit first rest = .done first rest := by
  obtain ⟨limit, rfl⟩ := Nat.exists_eq_add_one.mpr covers
  obtain ⟨place, halts⟩ := refuses
  simp [chain, halts]

def followers : Shape → List Char
  | .or => ['|', 'o', ')']
  | _ => ['&', 'a', '|', 'o', ')']

def Follows (shape : Shape) (rest : List Char) : Prop := ∀ c ∈ (skip rest).head?, c ∈ followers shape

/-- The expression becomes the predicate, whatever the length of the whole text. -/
def Denotes (scope : Variables) (expression : Expression) (predicate : Predicate) : Prop :=
  ∀ total, expression.predicate scope total = .ok predicate

def Chains (name : String) (scope : Variables) (limit : Nat) (word : Word) (text rest : List Char)
    (predicate : Predicate) : Prop :=
  ∃ expression left, rest.length < left ∧
    chained (unary name limit) limit word text =
      chain (signReader word) (operandReader (unary name limit) limit word) (joinedBy word) left
        expression rest ∧
    Denotes scope expression predicate

/-- What reading makes of a text of a shape in front of any other text. -/
def ReadsAs (name : String) (scope : Variables) (shape : Shape) (text : List Char)
    (predicate : Predicate) : Prop :=
  ∀ (rest : List Char) (limit : Nat), Apart text rest → Follows shape rest →
    (text ++ rest).length < limit →
    match shape with
    | .atom => ∃ expression, unary name limit (text ++ rest) = .done expression (skip rest) ∧
        Denotes scope expression predicate
    | .and => Chains name scope limit .and (text ++ rest) (skip rest) predicate
    | .or => Chains name scope limit .or (text ++ rest) (skip rest) predicate

section

variable {name : String} {scope : Variables} {text : List Char} {predicate : Predicate}

theorem Follows.tighter {word : Word} {rest : List Char} (follows : Follows word.shape rest) :
    Follows word.tighter rest := by
  have all : ∀ word : Word, ∀ c ∈ followers word.shape, c ∈ followers word.tighter := by
    rintro (_ | _) <;> decide
  exact fun c first => all word c (follows c first)

/-- The operands of a word are read to their end. -/
theorem ReadsAs.operand {word : Word} (reads : ReadsAs name scope word.tighter text predicate)
    {rest : List Char} {limit : Nat} (apart : Apart text rest) (follows : Follows word.shape rest)
    (covers : (text ++ rest).length < limit) :
    ∃ expression, operandReader (unary name limit) limit word (text ++ rest) =
      .done expression (skip rest) ∧ Denotes scope expression predicate := by
  have read := reads rest limit apart follows.tighter covers
  cases word with
  | and => exact read
  | or =>
    obtain ⟨expression, left, room, read, denotes⟩ := read
    have refuses : Refuses (signReader .and) (skip rest) := by
      apply sign_refuses
      have all : ∀ c ∈ followers .or, c ∉ signStarts .and := by decide
      exact fun c first => all c (follows c first)
    rw [chain_ends refuses (Nat.zero_lt_of_lt room)] at read
    exact ⟨expression, read, denotes⟩

theorem ReadsAs.lift (word : Word) (reads : ReadsAs name scope word.tighter text predicate) :
    ReadsAs name scope word.shape text predicate := by
  intro rest limit apart follows covers
  obtain ⟨expression, read, denotes⟩ := reads.operand apart follows covers
  have chains : Chains name scope limit word (text ++ rest) (skip rest) predicate := by
    refine ⟨expression, limit, ?_, ?_, denotes⟩
    · have shorter := length_skip_le rest
      rw [List.length_append] at covers
      omega
    · rw [chained, read, andThen_done]
  cases word <;> exact chains

theorem Denotes.join {left right : Expression} {leftPredicate rightPredicate : Predicate}
    (leftDenotes : Denotes scope left leftPredicate) (rightDenotes : Denotes scope right rightPredicate)
    (word : Word) :
    Denotes scope (joinedBy word left right) (word.predicate leftPredicate rightPredicate) := by
  intro total
  cases word <;>
  · simp only [joinedBy, Expression.predicate, leftDenotes total, rightDenotes total]
    rfl

/-- A word and an operand behind a text are joined to what was read before. -/
theorem ReadsAs.join {word : Word} {sign : String} {first before after second : List Char}
    {left right : Predicate} (leftReads : ReadsAs name scope word.shape first left)
    (beforeBlank : Gap before) (known : sign ∈ word.signs) (afterBlank : Gap after)
    (rightReads : ReadsAs name scope word.tighter second right)
    (solid : ∀ rest, Solid (second ++ rest)) (nonempty : second ≠ [])
    (apartBefore : Apart (first ++ before) sign.toList)
    (apartAfter : Apart sign.toList (after ++ second)) :
    ReadsAs name scope word.shape (first ++ (before ++ (sign.toList ++ (after ++ second))))
      (word.predicate left right) := by
  intro rest limit apart follows covers
  obtain ⟨c, more, spelled, signStart, separate⟩ := sign_starts known
  have signNonempty : sign.toList ≠ [] := by simp [spelled]
  have skipped : skip (before ++ (sign.toList ++ (after ++ (second ++ rest)))) =
      sign.toList ++ (after ++ (second ++ rest)) := by
    rw [beforeBlank.skip, spelled]
    exact Solid.skip (by rintro d ⟨⟩; exact separate)
  have signFollows : Follows word.shape (before ++ (sign.toList ++ (after ++ (second ++ rest)))) := by
    have all : ∀ word : Word, ∀ c ∈ signStarts word, c ∈ followers word.shape := by
      rintro (_ | _) <;> decide
    rw [Follows, skipped, spelled]
    rintro d ⟨⟩
    exact all word c signStart
  have signRead : signReader word (sign.toList ++ (after ++ (second ++ rest))) =
      .done () (second ++ rest) := by
    have apart := apartAfter.append (by simp [nonempty]) rest
    rw [List.append_assoc] at apart
    rw [sign_read known apart, afterBlank.skip, (solid rest).skip]
  simp only [List.append_assoc] at covers ⊢
  -- the left text is read up to the sign, where the chain still has room for an operand
  have leftChains : Chains name scope limit word
      (first ++ (before ++ (sign.toList ++ (after ++ (second ++ rest)))))
      (sign.toList ++ (after ++ (second ++ rest))) left := by
    have read := leftReads _ limit ((apartBefore.append signNonempty _).gap beforeBlank) signFollows
      covers
    rw [skipped] at read
    cases word <;> exact read
  obtain ⟨leftExpression, room, fits, leftRead, leftDenotes⟩ := leftChains
  obtain ⟨room, rfl⟩ := Nat.exists_eq_add_one.mpr (Nat.zero_lt_of_lt fits)
  simp only [← List.append_assoc] at apart
  simp only [List.length_append] at covers fits
  obtain ⟨rightExpression, rightRead, rightDenotes⟩ := rightReads.operand apart.of_append follows
    (show (second ++ rest).length < limit by rw [List.length_append]; omega)
  have chains : Chains name scope limit word
      (first ++ (before ++ (sign.toList ++ (after ++ (second ++ rest))))) (skip rest)
      (word.predicate left right) := by
    refine ⟨_, room, ?_, ?_, leftDenotes.join rightDenotes word⟩
    · have shorter := length_skip_le rest
      have signLength := List.length_pos_iff.mpr signNonempty
      omega
    · rw [leftRead, chain, signRead]
      simp only [rightRead, commit_done]
  cases word <;> exact chains

theorem ReadsAs.toOr {shape : Shape} (reads : ReadsAs name scope shape text predicate) :
    ReadsAs name scope .or text predicate := by
  cases shape with
  | atom => exact .lift .or (.lift .and reads)
  | and => exact .lift .or reads
  | or => exact reads

/-- In front of a closing parenthesis or the end, a text is read to its end. -/
theorem ReadsAs.whole {shape : Shape} (reads : ReadsAs name scope shape text predicate)
    {rest : List Char} {limit : Nat} (apart : Apart text rest)
    (closes : ∀ c ∈ (skip rest).head?, c = ')') (covers : (text ++ rest).length < limit) :
    ∃ expression, disjunction (unary name limit) limit (text ++ rest) = .done expression (skip rest) ∧
      Denotes scope expression predicate := by
  have follows : Follows .or rest := by
    intro c first
    rw [closes c first]
    decide
  have refuses : Refuses (signReader .or) (skip rest) := by
    apply sign_refuses
    intro c first
    rw [closes c first]
    decide
  obtain ⟨expression, room, fits, read, denotes⟩ := reads.toOr rest limit apart follows covers
  rw [chain_ends refuses (Nat.zero_lt_of_lt fits)] at read
  exact ⟨expression, read, denotes⟩

theorem ReadsAs.group {shape : Shape} (reads : ReadsAs name scope shape text predicate)
    (solid : ∀ rest, Solid (text ++ rest)) {opening closing : List Char} (openingBlank : Gap opening)
    (closingBlank : Gap closing) :
    ReadsAs name scope .atom ('(' :: (opening ++ (text ++ (closing ++ [')'])))) predicate := by
  intro rest limit _ _ covers
  obtain ⟨limit, rfl⟩ := Nat.exists_eq_add_one.mpr (Nat.zero_lt_of_lt covers)
  have shown : '(' :: (opening ++ (text ++ (closing ++ [')']))) ++ rest =
      '(' :: (opening ++ (text ++ (closing ++ ')' :: rest))) := by simp
  rw [shown] at covers ⊢
  have closed : skip (closing ++ ')' :: rest) = ')' :: rest := by
    rw [closingBlank.skip]
    exact Solid.skip (by rintro c ⟨⟩; rfl)
  have apart : Apart text (closing ++ ')' :: rest) :=
    fun _ => closingBlank.breaks (.cons (by decide) rest)
  have shorter : (text ++ (closing ++ ')' :: rest)).length < limit := by
    simp only [List.length_append, List.length_cons] at covers ⊢
    omega
  obtain ⟨expression, read, denotes⟩ := reads.whole apart (by rw [closed]; rintro c ⟨⟩; rfl) shorter
  refine ⟨expression, ?_, denotes⟩
  have solidOpening : Solid ('(' :: (opening ++ (text ++ (closing ++ ')' :: rest)))) := by
    rintro c ⟨⟩
    rfl
  obtain ⟨place, halts⟩ := negation_refuses_sign (c := '(') (by decide)
    (opening ++ (text ++ (closing ++ ')' :: rest)))
  have opened := padded_char .nil (c := '(') rfl (opening ++ (text ++ (closing ++ ')' :: rest)))
  rw [List.nil_append, openingBlank.skip, (solid _).skip] at opened
  have shut := padded_char .nil (c := ')') rfl rest
  rw [List.nil_append] at shut
  rw [unary, solidOpening.skip, halts]
  simp only [opened, read, closed, commit_done, andThen_done, shut, map_done]

theorem unary_gap {gap : List Char} (blank : Gap gap) {limit : Nat} (covers : 0 < limit) :
    unary name limit (gap ++ text) = unary name limit text := by
  obtain ⟨limit, rfl⟩ := Nat.exists_eq_add_one.mpr covers
  rw [unary, unary, blank.skip]

theorem negation_read {sign : String} (known : sign ∈ ["!", "not"]) {rest : List Char}
    (apart : Apart sign.toList rest) : negation (sign.toList ++ rest) = .done () rest := by
  rcases List.mem_cons.mp known with rfl | known
  · exact orElse_of_done (char_cons '!' rest) _
  · cases List.mem_singleton.mp known
    have refuses : Refuses (char '!') ("not".toList ++ rest) := char_refuses (by rintro ⟨⟩)
    rw [negation, refuses.orElse]
    exact keyword_append _ (apart (by decide)).ends

theorem ReadsAs.not (reads : ReadsAs name scope .atom text predicate) (nonempty : text ≠ [])
    {sign : String} (known : sign ∈ ["!", "not"]) {gap : List Char} (blank : Gap gap)
    (apart : Apart sign.toList (gap ++ text)) :
    ReadsAs name scope .atom (sign.toList ++ (gap ++ text)) (.not predicate) := by
  intro rest limit apartRest follows covers
  obtain ⟨limit, rfl⟩ := Nat.exists_eq_add_one.mpr (Nat.zero_lt_of_lt covers)
  have all : ∀ sign ∈ ["!", "not"], ∃ c ∈ sign.toList.head?, Text.isSeparator c = false := by decide
  obtain ⟨c, first, separate⟩ := all sign known
  obtain ⟨more, spelled⟩ := List.head?_eq_some_iff.mp first
  have solid : Solid (sign.toList ++ (gap ++ (text ++ rest))) := by
    rw [spelled]
    rintro d ⟨⟩
    exact separate
  have signRead : negation (sign.toList ++ (gap ++ (text ++ rest))) =
      .done () (gap ++ (text ++ rest)) := by
    have apart := apart.append (by simp [nonempty]) rest
    rw [List.append_assoc] at apart
    exact negation_read known apart
  simp only [List.append_assoc] at covers ⊢
  rw [spelled] at covers
  simp only [← List.append_assoc] at apartRest
  have shorter : (text ++ rest).length < limit := by
    simp only [List.length_append, List.length_cons] at covers ⊢
    omega
  obtain ⟨expression, read, denotes⟩ := reads rest limit apartRest.of_append follows shorter
  refine ⟨.not expression, ?_, ?_⟩
  · rw [unary, solid.skip, signRead]
    simp only [unary_gap blank (Nat.zero_lt_of_lt shorter), read, commit_done, map_done]
  · intro total
    simp only [Expression.predicate, denotes total]
    rfl

theorem Follows.quiet {rest : List Char} (follows : Follows .atom rest) :
    (skip rest).head? ≠ some '(' ∧ ∀ c ∈ (skip rest).head?, c ∉ ['=', '!', '<', '>', 'i'] := by
  have all : ∀ c ∈ followers .atom, c ≠ '(' ∧ c ∉ ['=', '!', '<', '>', 'i'] := by decide
  exact ⟨fun first => (all '(' (follows '(' first)).1 rfl, fun c first => (all c (follows c first)).2⟩

theorem reads_truth {tested : Operand} (written : OperandText name scope text tested)
    (named : isIdentifier name = true) (free : tested.entityPath? ≠ none → name ∉ literalWords)
    (affirms : tested.entityPath? ≠ none → name ≠ "not") :
    ReadsAs name scope .atom text (.truth tested) := by
  intro rest limit apart follows covers
  obtain ⟨limit, rfl⟩ := Nat.exists_eq_add_one.mpr (Nat.zero_lt_of_lt covers)
  obtain ⟨uncalled, quiet⟩ := follows.quiet
  obtain ⟨term, read, resolves⟩ := written.padded_read named free apart uncalled
    (show text.length < limit + 1 by rw [List.length_append] at covers; omega)
  refine ⟨.truth (.plain term), ?_, ?_⟩
  · rw [unary_test (written.opens named) (written.refuses_negation named affirms apart),
      test_truth read quiet]
  · intro total
    simp only [Expression.predicate, Access.truth, resolves total]
    rfl

theorem reads_nullTest {tested : Operand} (written : ReferenceText name scope text tested)
    (named : isIdentifier name = true) (free : tested.entityPath? ≠ none → name ∉ literalWords)
    (affirms : tested.entityPath? ≠ none → name ≠ "not") (present : Bool) :
    ReadsAs name scope .atom (text ++ '.' :: (suffix present).toList)
      (if present then .isNotNull tested else .isNull tested) := by
  intro rest limit apart follows covers
  obtain ⟨limit, rfl⟩ := Nat.exists_eq_add_one.mpr (Nat.zero_lt_of_lt covers)
  obtain ⟨uncalled, quiet⟩ := follows.quiet
  have breaks : Breaks rest := by
    apply apart
    have named : ∀ c ∈ (suffix present).toList, isNameChar c = true := by cases present <;> decide
    have ends := ends_named (text ++ ['.']) (by cases present <;> decide) named
    simpa using ends
  obtain ⟨term, resolves, read⟩ := written.access_suffixed named free present breaks uncalled
    (show (text ++ '.' :: (suffix present).toList).length < limit + 1 by
      rw [List.length_append] at covers; omega)
  have opens := written.opens named
  have padded : padded (access name (limit + 1)) (text ++ '.' :: (suffix present).toList ++ rest) =
      .done (if present then .hasValue term else .isNone term) (skip rest) := by
    apply padded_of_done
    rwa [((opens.append _).solid rest).skip]
  have negative : Refuses negation (text ++ '.' :: (suffix present).toList ++ rest) := by
    rw [List.append_assoc]
    exact written.refuses_negation named affirms _
  refine ⟨.truth (if present then .hasValue term else .isNone term), ?_, ?_⟩
  · rw [unary_test (opens.append _) negative, test_truth padded quiet]
  · intro total
    cases present <;>
    · simp only [Expression.predicate, Access.truth, resolves total, if_true, Bool.false_eq_true,
        if_false]
      rfl

theorem plain_operand (term : Term) (total : Nat) :
    (Access.plain term).operand scope total = term.operand scope total := rfl

theorem operands_read {sign first before after second : List Char} {left right : Operand}
    (firstWritten : OperandText name scope first left) (beforeBlank : Gap before)
    (signOpens : Opens ['('] sign) (apartBefore : Apart (first ++ before) sign) (afterBlank : Gap after)
    (secondWritten : OperandText name scope second right) (named : isIdentifier name = true)
    (leftFree : left.entityPath? ≠ none → name ∉ literalWords)
    (affirms : left.entityPath? ≠ none → name ≠ "not")
    (rightFree : right.entityPath? ≠ none → name ∉ literalWords) {rest : List Char} {limit : Nat}
    (apart : Apart (first ++ (before ++ (sign ++ (after ++ second)))) rest)
    (follows : Follows .atom rest)
    (covers : (first ++ (before ++ (sign ++ (after ++ second))) ++ rest).length < limit + 1) :
    ∃ leftTerm rightTerm : Term,
      padded (access name (limit + 1)) (first ++ (before ++ (sign ++ (after ++ (second ++ rest))))) =
        .done (.plain leftTerm) (sign ++ (after ++ (second ++ rest))) ∧
      padded (access name (limit + 1)) (skip (after ++ (second ++ rest))) =
        .done (.plain rightTerm) (skip rest) ∧
      unary name (limit + 1) (first ++ (before ++ (sign ++ (after ++ (second ++ rest))))) =
        test (access name (limit + 1)) (first ++ (before ++ (sign ++ (after ++ (second ++ rest))))) ∧
      (∀ total, leftTerm.operand scope total = .ok left) ∧
      ∀ total, rightTerm.operand scope total = .ok right := by
  have skipped : skip (before ++ (sign ++ (after ++ (second ++ rest)))) =
      sign ++ (after ++ (second ++ rest)) := by
    rw [beforeBlank.skip, (signOpens.solid _).skip]
  have signApart := (apartBefore.append signOpens.ne_nil (after ++ (second ++ rest))).gap beforeBlank
  simp only [← List.append_assoc] at apart
  simp only [List.length_append] at covers
  obtain ⟨leftTerm, leftRead, leftResolves⟩ := firstWritten.padded_read named leftFree signApart
    (by rw [skipped]; exact signOpens.head_ne (by decide) _) (show first.length < limit + 1 by omega)
  obtain ⟨rightTerm, rightRead, rightResolves⟩ := secondWritten.padded_read named rightFree
    apart.of_append follows.quiet.1 (show second.length < limit + 1 by omega)
  refine ⟨leftTerm, rightTerm, by rwa [skipped] at leftRead, ?_, ?_, leftResolves, rightResolves⟩
  · rwa [afterBlank.skip, ((secondWritten.opens named).solid rest).skip]
  · exact unary_test (firstWritten.opens named)
      (firstWritten.refuses_negation named affirms signApart) _

theorem reads_compare {op : Comparison} {first before after second : List Char} {left right : Operand}
    (firstWritten : OperandText name scope first left) (beforeBlank : Gap before)
    (afterBlank : Gap after) (secondWritten : OperandText name scope second right)
    (named : isIdentifier name = true)
    (leftFree : left.entityPath? ≠ none → name ∉ literalWords)
    (affirms : left.entityPath? ≠ none → name ≠ "not")
    (rightFree : right.entityPath? ≠ none → name ∉ literalWords) :
    ReadsAs name scope .atom (first ++ (before ++ (op.symbol.toList ++ (after ++ second))))
      (.compare op left right) := by
  intro rest limit apart follows covers
  obtain ⟨limit, rfl⟩ := Nat.exists_eq_add_one.mpr (Nat.zero_lt_of_lt covers)
  have signOpens : Opens ['('] op.symbol.toList := by cases op <;> exact ⟨_, rfl, by decide⟩
  have signBreaks : Breaks op.symbol.toList := by cases op <;> exact .cons (by decide) _
  obtain ⟨leftTerm, rightTerm, leftRead, rightRead, unaryRead, leftResolves, rightResolves⟩ :=
    operands_read firstWritten beforeBlank signOpens (fun _ => signBreaks) afterBlank secondWritten
      named leftFree affirms rightFree apart follows covers
  -- otherwise `<` and `>` would be taken for `<=` and `>=`
  have unequal : (after ++ (second ++ rest)).head? ≠ some '=' := by
    cases after with
    | nil => exact (secondWritten.opens named).head_ne (by decide) rest
    | cons c after =>
      rintro ⟨⟩
      cases afterBlank '=' List.mem_cons_self
  refine ⟨.compare op (.plain leftTerm) (.plain rightTerm), ?_, ?_⟩
  · simp only [List.append_assoc]
    rw [unaryRead, test_compare leftRead unequal rightRead]
  · intro total
    simp only [Expression.predicate, plain_operand, leftResolves total, rightResolves total]
    rfl

theorem items_of_operand {term : Term} {collection : Operand} {total : Nat} {type : ValueType}
    {items : List Value} (resolves : term.operand scope total = .ok collection)
    (bound : collection.boundValue? = some (.list type items)) :
    (Access.plain term).items scope total = .ok items := by
  change term.items scope total = .ok items
  rw [Term.items, resolves]
  cases collection with
  | field path => cases bound
  | constant value type =>
    cases bound
    rfl
  | captured path value =>
    cases bound
    rfl

theorem reads_member {first before after second : List Char} {item collection : Operand}
    {type : ValueType} {items : List Value} (firstWritten : OperandText name scope first item)
    (beforeBlank : Gap before) (afterBlank : Gap after)
    (secondWritten : OperandText name scope second collection)
    (bound : collection.boundValue? = some (.list type items))
    (apartBefore : Apart (first ++ before) "in".toList)
    (apartAfter : Apart "in".toList (after ++ second)) (named : isIdentifier name = true)
    (free : item.entityPath? ≠ none → name ∉ literalWords)
    (affirms : item.entityPath? ≠ none → name ≠ "not") :
    ReadsAs name scope .atom (first ++ (before ++ ("in".toList ++ (after ++ second))))
      (.member item items) := by
  intro rest limit apart follows covers
  obtain ⟨limit, rfl⟩ := Nat.exists_eq_add_one.mpr (Nat.zero_lt_of_lt covers)
  -- members of the entity have no list to look into
  have noField : collection.entityPath? ≠ none → name ∉ literalWords := by
    cases collection with
    | field path => cases bound
    | constant value type => exact fun present => absurd rfl present
    | captured path value => exact fun present => absurd rfl present
  obtain ⟨itemTerm, collectionTerm, itemRead, collectionRead, unaryRead, itemResolves,
      collectionResolves⟩ :=
    operands_read firstWritten beforeBlank ⟨'i', rfl, by decide⟩ apartBefore afterBlank secondWritten
      named free affirms noField apart follows covers
  have nonempty : after ++ second ≠ [] := by simp [(secondWritten.opens named).ne_nil]
  have ends := ((apartAfter (by decide)).append nonempty rest).ends
  rw [List.append_assoc] at ends
  refine ⟨.member (.plain itemTerm) (.plain collectionTerm), ?_, ?_⟩
  · simp only [List.append_assoc]
    rw [unaryRead, test_member itemRead ends collectionRead]
  · intro total
    simp only [Expression.predicate, plain_operand, itemResolves total,
      items_of_operand (collectionResolves total) bound]
    rfl

theorem PredicateText.opens {shape : Shape} (written : PredicateText name scope shape text predicate)
    (named : isIdentifier name = true) : Opens ['='] text := by
  have operand {first : List Char} {operand : Operand} (written : OperandText name scope first operand)
      (rest : List Char) : Opens ['='] (first ++ rest) :=
    ((written.opens named).mono (by simp)).append rest
  induction written with
  | compare _ _ _ first _ _ _ => exact operand first _
  | member _ _ first _ _ _ _ _ _ => exact operand first _
  | truth tested => simpa using operand tested []
  | nullTest _ tested => exact ((tested.opens named).mono (by simp)).append _
  | group _ _ _ _ _ => exact ⟨'(', rfl, by decide⟩
  | not _ _ known _ _ _ =>
    have all : ∀ sign ∈ ["!", "not"], Opens ['='] sign.toList := by
      unfold Opens
      decide
    exact (all _ known).append _
  | lift _ _ ih => exact ih
  | join _ _ _ _ _ _ _ _ _ _ _ ih => exact ih.append _

/-- Every text of a predicate is read as the predicate, whatever stands behind it that cannot
belong to it. -/
theorem PredicateText.reads {shape : Shape} (written : PredicateText name scope shape text predicate)
    (named : isIdentifier name = true) (free : predicate.Nameable name) :
    ReadsAs name scope shape text predicate := by
  induction written with
  | compare op _ _ first before after second =>
    exact reads_compare first before after second named
      (fun present => free.literal (by simp [Predicate.fields, present]))
      (fun present => free.negation (by simp [Predicate.leadingFields, present]))
      (fun present => free.literal (by simp [Predicate.fields, present]))
  | member _ _ first before after second bound apartBefore apartAfter =>
    exact reads_member first before after second bound apartBefore apartAfter named
      (fun present => free.literal (by simp [Predicate.fields, present]))
      (fun present => free.negation (by simp [Predicate.leadingFields, present]))
  | truth tested =>
    exact reads_truth tested named
      (fun present => free.literal (by simp [Predicate.fields, present]))
      (fun present => free.negation (by simp [Predicate.leadingFields, present]))
  | nullTest present tested =>
    refine reads_nullTest tested named (fun field => free.literal ?_) (fun field => free.negation ?_)
      present
    · cases present <;> simp [Predicate.fields, field]
    · cases present <;> simp [Predicate.leadingFields, field]
  | group _ _ opening inner closing ih =>
    exact (ih free).group (inner.opens named).solid opening closing
  | not _ _ known gap inner apart ih =>
    exact (ih ⟨free.literal, free.negation⟩).not (inner.opens named).ne_nil known gap apart
  | lift word _ ih => exact (ih free).lift word
  | join word _ _ _ left before known after right apartBefore apartAfter leftIh rightIh =>
    obtain ⟨leftFree, rightFree⟩ := free.parts
    exact (leftIh leftFree).join before known after (rightIh rightFree) (right.opens named).solid
      (right.opens named).ne_nil apartBefore apartAfter

theorem expression_read {opening closing : List Char} (openingBlank : Gap opening)
    (written : PredicateText name scope .or text predicate) (closingBlank : Gap closing)
    (named : isIdentifier name = true) (free : predicate.Nameable name)
    {limit : Nat} (covers : (text ++ closing).length < limit) :
    ∃ expression, Reader.expression name limit (opening ++ (text ++ closing)) = .done expression [] ∧
      Denotes scope expression predicate := by
  have ended : skip closing = [] := by
    rw [← List.append_nil closing, closingBlank.skip]
    rfl
  have apart : Apart text closing := by
    have breaks := closingBlank.breaks .nil
    rw [List.append_nil] at breaks
    exact fun _ => breaks
  obtain ⟨found, read, denotes⟩ := (written.reads named free).whole apart (by simp [ended]) covers
  refine ⟨found, ?_, denotes⟩
  have blank : unary name limit (opening ++ (text ++ closing)) = unary name limit (text ++ closing) :=
    unary_gap openingBlank (Nat.zero_lt_of_lt covers)
  rw [ended, disjunction, conjunction] at read
  rw [Reader.expression, disjunction, conjunction, blank, read]

/-! Headers. -/

theorem header_gap {gap : List Char} (blank : Gap gap) : header (gap ++ text) = header text := by
  rw [header, header, blank.skip]

theorem header_refuses_sign {c : Char} (separate : Text.isSeparator c = false)
    (nameless : isNameStart c = false) (rest : List Char) : Refuses header (c :: rest) := by
  have refuses : Refuses identifier (skip (c :: rest)) := by
    rw [Solid.skip (by rintro d ⟨⟩; exact separate)]
    exact identifier_refuses (by rintro d ⟨⟩; exact nameless)
  obtain ⟨place, halts⟩ := refuses
  exact ⟨place, by simp [header, halts, Outcome.andThen]⟩

theorem header_eq {rest : List Char} (named : isIdentifier name = true)
    (ends : ∀ c ∈ rest.head?, isNameChar c = false) :
    header (name.toList ++ rest) = (tag "=>".toList (skip rest)).map fun _ => name := by
  obtain ⟨c, more, spelled, start, -⟩ := identifier_chars named
  have solid : Solid (name.toList ++ rest) := by
    rw [spelled]
    rintro d ⟨⟩
    exact isSeparator_of_start start
  rw [header, solid.skip, identifier_append named ends, andThen_done]

theorem header_refuses_name {rest : List Char} (named : isIdentifier name = true)
    (ends : ∀ c ∈ rest.head?, isNameChar c = false) (stops : Refuses (tag "=>".toList) (skip rest)) :
    Refuses header (name.toList ++ rest) := by
  rw [Refuses, header_eq named ends]
  exact stops.map _

theorem ReferenceText.headless {operand : Operand} (written : ReferenceText name scope text operand)
    (named : isIdentifier name = true) (rest : List Char) : Refuses header (text ++ rest) := by
  cases written with
  | field _ _ =>
    rw [List.append_assoc]
    refine header_refuses_name named (by rintro c ⟨⟩; rfl) ?_
    rw [Solid.skip (by rintro c ⟨⟩; rfl)]
    exact tag_refuses (by rintro ⟨⟩) ['>']
  | captured _ _ _ _ => exact header_refuses_sign rfl rfl _

theorem OperandText.headless {operand : Operand} (written : OperandText name scope text operand)
    (named : isIdentifier name = true) {rest : List Char} (apart : Apart text rest)
    (stops : Refuses (tag "=>".toList) (skip rest)) : Refuses header (text ++ rest) := by
  cases written with
  | literal trimmed read =>
    cases (readLiteral_eq_ok trimmed).mp read with
    | @word word _ known =>
      have all : ∀ known ∈ constantWords, isIdentifier known.1 = true := by decide
      have constant : isIdentifier word = true := all _ known
      obtain ⟨c, more, spelled, -, inside⟩ := identifier_chars constant
      have nonempty : word.toList ≠ [] := by
        rw [spelled]
        exact List.cons_ne_nil c more
      exact header_refuses_name constant (apart (ends_named [] nonempty inside)).ends stops
    | number written =>
      obtain ⟨⟨c, first, starts⟩, -⟩ := written.ends
      obtain ⟨more, rfl⟩ := List.head?_eq_some_iff.mp first
      have all : ∀ c ∈ '-' :: "0123456789".toList,
          Text.isSeparator c = false ∧ isNameStart c = false := by
        decide
      have known : c ∈ '-' :: "0123456789".toList := by
        rcases starts with rfl | digit
        · exact List.mem_cons_self
        · exact List.mem_cons_of_mem _ (mem_digits digit)
      exact header_refuses_sign (all c known).1 (all c known).2 _
    | string _ => exact header_refuses_sign rfl rfl _
    | empty _ => exact header_refuses_sign rfl rfl _
    | list _ _ _ _ _ => exact header_refuses_sign rfl rfl _
  | reference written _ => exact written.headless named rest

/-- No predicate starts with a header. -/
theorem PredicateText.headless {shape : Shape} (written : PredicateText name scope shape text predicate)
    (named : isIdentifier name = true) {rest : List Char} (apart : Apart text rest)
    (stops : Refuses (tag "=>".toList) (skip rest)) : Refuses header (text ++ rest) := by
  -- a name in front could be that of a header, so what stands behind it must be no arrow
  have behind {before sign : List Char} (blank : Gap before) (opens : Opens [] sign) {more : List Char}
      (other : Refuses (tag "=>".toList) (sign ++ more)) :
      Refuses (tag "=>".toList) (skip (before ++ (sign ++ more))) := by
    rwa [blank.skip, (opens.solid more).skip]
  induction written generalizing rest with
  | compare op _ _ firstWritten beforeBlank _ _ =>
    have opens : Opens [] op.symbol.toList := by cases op <;> exact ⟨_, rfl, by decide⟩
    have signBreaks : Breaks op.symbol.toList := by cases op <;> exact .cons (by decide) _
    simp only [List.append_assoc]
    refine firstWritten.headless named
      (fun _ => beforeBlank.breaks (signBreaks.append opens.ne_nil _)) (behind beforeBlank opens ?_)
    cases op <;> exact ⟨_, rfl⟩
  | member _ _ firstWritten beforeBlank _ _ _ apartBefore _ =>
    have opens : Opens [] "in".toList := ⟨'i', rfl, by decide⟩
    simp only [List.append_assoc]
    exact firstWritten.headless named ((apartBefore.append opens.ne_nil _).gap beforeBlank)
      (behind beforeBlank opens ⟨_, rfl⟩)
  | truth tested => exact tested.headless named apart stops
  | nullTest present tested =>
    rw [List.append_assoc]
    exact tested.headless named _
  | group _ _ _ _ _ => exact header_refuses_sign rfl rfl _
  | not _ _ known blank inner apartSign _ =>
    have opens := inner.opens named
    rcases List.mem_cons.mp known with rfl | known
    · exact header_refuses_sign rfl rfl _
    · cases List.mem_singleton.mp known
      simp only [List.append_assoc]
      have breaks := (apartSign (by decide)).append (by simp [opens.ne_nil]) rest
      rw [List.append_assoc] at breaks
      refine header_refuses_name (by decide) breaks.ends ?_
      rw [blank.skip, (opens.solid rest).skip]
      exact tag_refuses (opens.head_ne (by decide) rest) ['>']
  | lift _ _ ih => exact ih apart stops
  | join word sign _ _ _ beforeBlank known _ _ apartBefore _ leftIh _ =>
    obtain ⟨c, more, spelled, start, separate⟩ := sign_starts known
    have opens : Opens [] sign.toList := ⟨c, by rw [spelled]; rfl, separate, by simp⟩
    have unequal : c ≠ '=' := by
      have all : ∀ word : Word, ∀ c ∈ signStarts word, c ≠ '=' := by rintro (_ | _) <;> decide
      exact all word c start
    simp only [List.append_assoc]
    refine leftIh ((apartBefore.append opens.ne_nil _).gap beforeBlank) (behind beforeBlank opens ?_)
    rw [spelled]
    refine tag_refuses ?_ ['>']
    rintro ⟨⟩
    exact unequal rfl

theorem readPredicate_of_header {chars opening closing : List Char}
    (found : header chars = .done name (opening ++ (text ++ closing)) ∨
      Refuses header chars ∧ name = defaultParameter ∧ chars = opening ++ (text ++ closing))
    (openingBlank : Gap opening) (written : PredicateText name scope .or text predicate)
    (closingBlank : Gap closing) (named : isIdentifier name = true)
    (free : predicate.Nameable name)
    (covers : (text ++ closing).length ≤ chars.length) :
    readPredicate (String.ofList chars) scope = .ok predicate := by
  obtain ⟨expression, read, denotes⟩ := expression_read openingBlank written closingBlank named free
    (Nat.lt_succ_of_le covers)
  rcases found with found | ⟨⟨place, halts⟩, rfl, same⟩
  · delta readPredicate
    simp only [String.toList_ofList, found, read]
    exact denotes _
  · rw [← same] at read
    delta readPredicate
    simp only [String.toList_ofList, halts, read]
    exact denotes _

theorem readPredicate_bare {opening closing : List Char} (openingBlank : Gap opening)
    (written : PredicateText defaultParameter scope .or text predicate) (closingBlank : Gap closing) :
    readPredicate (String.ofList (opening ++ (text ++ closing))) scope = .ok predicate := by
  have named : isIdentifier defaultParameter = true := by decide
  have ended : skip closing = [] := by
    rw [← List.append_nil closing, closingBlank.skip]
    rfl
  have headless : Refuses header (opening ++ (text ++ closing)) := by
    rw [Refuses, header_gap openingBlank]
    refine written.headless named ?_ (by rw [ended]; exact ⟨[], rfl⟩)
    have breaks := closingBlank.breaks .nil
    rw [List.append_nil] at breaks
    exact fun _ => breaks
  exact readPredicate_of_header (.inr ⟨headless, rfl, rfl⟩) openingBlank written closingBlank named
    ⟨fun _ => by decide, fun _ => by decide⟩ (by simp)

theorem readPredicate_headed {opening before after closing : List Char}
    (named : isIdentifier name = true) (openingBlank : Gap opening) (beforeBlank : Gap before) (afterBlank : Gap after)
    (written : PredicateText name scope .or text predicate) (closingBlank : Gap closing)
    (free : predicate.Nameable name) :
    readPredicate (String.ofList
      (opening ++ (name.toList ++ (before ++ ("=>".toList ++ (after ++ (text ++ closing))))))) scope =
        .ok predicate := by
  have arrow : skip (before ++ ("=>".toList ++ (after ++ (text ++ closing)))) =
      "=>".toList ++ (after ++ (text ++ closing)) := by
    rw [beforeBlank.skip]
    exact Solid.skip (by rintro c ⟨⟩; rfl)
  have breaks : Breaks ("=>".toList ++ (after ++ (text ++ closing))) := .cons (by decide) _
  have ends := (beforeBlank.breaks breaks).ends
  refine readPredicate_of_header (.inl ?_) afterBlank written closingBlank named free ?_
  · rw [header_gap openingBlank, header_eq named ends, arrow, tag_append, map_done]
  · simp only [List.length_append]
    omega

end

/-- Every text of a predicate is read as the predicate, if no member is read from an entity whose name
is a literal, or `not` where the member stands first in a test. -/
theorem readPredicate_sentence {scope : Variables} {name text : String} {predicate : Predicate}
    (written : SentenceText scope name text.toList predicate)
    (free : predicate.Nameable name) :
    readPredicate text scope = .ok predicate := by
  generalize same : text.toList = chars at written
  rw [← String.ofList_toList (s := text), same]
  cases written with
  | bare _ _ opening body closing => exact readPredicate_bare opening body closing
  | headed _ _ _ _ _ named opening before after body closing =>
    exact readPredicate_headed named opening before after body closing free

/-- A predicate with words and symbols, superfluous parentheses and a name of its own for the entity;
and a member behind a comparison, of an entity with the name of a negation. -/
theorem readPredicate_sentence_mixed :
    let text := " e=>\tnot(e.a.b.is_none&&(e.c))or e.d in[1 ,2]\n"
    let predicate : Predicate := .or (.not (.and (.isNull (.field ["a", "b"])) (.truth (.field ["c"]))))
      (.member (.field ["d"]) [.int 1, .int 2])
    let behind : Predicate := .compare .eq (.ofValue (.int 1)) (.field ["a"])
    SentenceText {} "e" text.toList predicate ∧ readPredicate text {} = .ok predicate ∧
      SentenceText {} "not" "not=>1==not.a".toList behind ∧
      readPredicate "not=>1==not.a" {} = .ok behind := by
  intro text predicate behind
  have absent : PredicateText "e" {} .atom "e.a.b.is_none".toList (.isNull (.field ["a", "b"])) :=
    .nullTest false (.field ["a", "b"] ⟨by decide, by decide⟩)
  have truth : PredicateText "e" {} .atom "e.c".toList (.truth (.field ["c"])) :=
    .truth (.reference (.field ["c"] ⟨by decide, by decide⟩) (by decide))
  have denied : PredicateText "e" {} .atom "not(e.a.b.is_none&&(e.c))".toList
      (.not (.and (.isNull (.field ["a", "b"])) (.truth (.field ["c"])))) :=
    .not "not" [] (by decide) .nil
      (.group [] [] .nil (.join .and "&&" [] [] (.lift .and absent) .nil (by decide) .nil
        (.group [] [] .nil truth .nil) (by decide) (by decide)) .nil) (by decide)
  have collection : OperandText "e" {} "[1 ,2]".toList (.ofValue (.ofItems [.int 1, .int 2])) :=
    .literal (by decide) rfl
  have listed : PredicateText "e" {} .atom "e.d in[1 ,2]".toList
      (.member (.field ["d"]) [.int 1, .int 2]) :=
    .member [' '] [] (.reference (.field ["d"] ⟨by decide, by decide⟩) (by decide)) .blank .nil
      collection rfl (by decide) (by decide)
  have written : SentenceText {} "e" " e=>\tnot(e.a.b.is_none&&(e.c))or e.d in[1 ,2]\n".toList predicate :=
    .headed "e" [' '] [] ['\t'] ['\n'] (by decide) .blank .nil (by decide)
      (.join .or "or" [] [' '] (.lift .or (.lift .and denied)) .nil (by decide) .blank
        (.lift .and listed) (by decide) (by decide)) (by decide)
  have one : OperandText "not" {} "1".toList (.ofValue (.int 1)) := .literal (by decide) rfl
  have compared : PredicateText "not" {} .atom "1==not.a".toList behind :=
    .compare .eq [] [] one .nil .nil (.reference (.field ["a"] ⟨by decide, by decide⟩) (by decide))
  have headed : SentenceText {} "not" "not=>1==not.a".toList behind :=
    .headed "not" [] [] [] [] (by decide) .nil .nil .nil (.lift .or (.lift .and compared)) .nil
  exact ⟨written, readPredicate_sentence written ⟨by decide, by decide⟩,
    headed, readPredicate_sentence headed ⟨by decide, by decide⟩⟩

/-- Where a member should stand behind one of these names, a literal or a negation is read. -/
theorem refused_of_reserved {name : String} (reserved : name ∈ "not" :: literalWords) :
    SentenceText {} name (name ++ " => " ++ name ++ ".a").toList (.truth (.field ["a"])) ∧
      ∃ issue, readPredicate (name ++ " => " ++ name ++ ".a") {} = .error issue := by
  constructor
  · have all : ∀ name ∈ "not" :: literalWords, isIdentifier name = true := by decide
    have spelled : (name ++ " => " ++ name ++ ".a").toList = [] ++ (name.toList ++ ([' '] ++
        ("=>".toList ++ ([' '] ++ (name.toList ++ '.' :: (MemberPath.dotted ["a"]).toList ++ []))))) := by
      simp [MemberPath.dotted]
    have member : PredicateText name {} .atom (name.toList ++ '.' :: (MemberPath.dotted ["a"]).toList)
        (.truth (.field ["a"])) :=
      .truth (.reference (.field ["a"] ⟨by decide, by decide⟩) (by decide))
    rw [spelled]
    exact .headed name [] [' '] [' '] [] (all name reserved) .nil .blank .blank
      (.lift .or (.lift .and member)) .nil
  · simp only [literalWords, List.mem_cons, List.not_mem_nil, or_false] at reserved
    rcases reserved with rfl | rfl | rfl | rfl <;> exact ⟨_, rfl⟩

theorem readPredicate_reserved_name :
    SentenceText {} "true" "true => true.a".toList (.truth (.field ["a"])) ∧
      ∃ issue, readPredicate "true => true.a" {} = .error issue :=
  refused_of_reserved (by decide)

end Reader

end WhereClause
