import WhereClause.Proofs.Literals
import WhereClause.Reader.Predicate

/-! Texts of operands.

An operand is a literal, a path of members behind the name of the entity, or a path of a variable.
A path is read up to the first character that no name and no further member can start with, and
its last name is a test suffix if enough names stand in front of it.
-/

set_option autoImplicit false

namespace WhereClause

namespace MemberPath

structure Proper (path : MemberPath) : Prop where
  nonempty : path ≠ []
  names : ∀ segment ∈ path, Reader.isIdentifier segment = true

/-- A path whose last name is no test suffix behind another name. -/
def Plain (path : MemberPath) : Prop :=
  2 ≤ path.length → path.getLast? ≠ some "has_value" ∧ path.getLast? ≠ some "is_none"

instance (path : MemberPath) : Decidable path.Plain :=
  inferInstanceAs (Decidable (2 ≤ path.length →
    path.getLast? ≠ some "has_value" ∧ path.getLast? ≠ some "is_none"))

def pointed (path : MemberPath) : List Char := path.flatMap fun segment => '.' :: segment.toList

theorem toList_dotted (first : String) (rest : MemberPath) :
    (dotted (first :: rest)).toList = first.toList ++ pointed rest := by
  induction rest generalizing first with
  | nil => simp [dotted, pointed]
  | cons next rest ih =>
    have joined : dotted (first :: next :: rest) = first ++ "." ++ dotted (next :: rest) :=
      String.intercalate_cons_cons
    simp [joined, ih, pointed]

theorem length_le_pointed (path : MemberPath) : path.length ≤ (pointed path).length := by
  induction path with
  | nil => simp
  | cons segment path ih =>
    simp only [pointed, List.flatMap_cons, List.length_append, List.length_cons] at ih ⊢
    omega

end MemberPath

def Operand.path : Operand → MemberPath
  | .field path => path
  | .captured path _ => path
  | .constant _ _ => []

namespace Reader

open MemberPath Bounded

theorem breaks_pointed (path : MemberPath) {rest : List Char} (breaks : Breaks rest) :
    ∀ c ∈ (pointed path ++ rest).head?, isNameChar c = false := by
  cases path with
  | nil => exact breaks.ends
  | cons segment path =>
    rintro c ⟨⟩
    rfl

theorem separatedTail_pointed {path : MemberPath}
    (names : ∀ segment ∈ path, isIdentifier segment = true) {rest : List Char} (breaks : Breaks rest)
    {limit : Nat} (covers : path.length < limit) :
    separatedTail (char '.') identifier limit (pointed path ++ rest) = .done path rest := by
  induction path generalizing limit with
  | nil =>
    obtain ⟨limit, rfl⟩ := Nat.exists_eq_add_one.mpr covers
    obtain ⟨place, halts⟩ := char_refuses fun same => (breaks '.' same).2 rfl
    simp [separatedTail, pointed, halts]
  | cons segment path ih =>
    obtain ⟨limit, rfl⟩ := Nat.exists_eq_add_one.mpr (Nat.zero_lt_of_lt covers)
    have tail := ih (fun other member => names other (List.mem_cons_of_mem _ member))
      (Nat.lt_of_succ_lt_succ covers)
    have name := identifier_append (names segment List.mem_cons_self) (breaks_pointed path breaks)
    have spelled : pointed (segment :: path) ++ rest =
        '.' :: (segment.toList ++ (pointed path ++ rest)) := by
      simp [pointed]
    simp [separatedTail, spelled, name, tail]

theorem separatedOne_dotted {first : String} {path : MemberPath}
    (names : ∀ segment ∈ first :: path, isIdentifier segment = true) {rest : List Char}
    (breaks : Breaks rest) {limit : Nat} (covers : path.length < limit) :
    separatedOne (char '.') identifier limit ((dotted (first :: path)).toList ++ rest) =
      .done (first :: path) rest := by
  have name := identifier_append (names first List.mem_cons_self) (breaks_pointed path breaks)
  have tail := separatedTail_pointed (fun other member => names other (List.mem_cons_of_mem _ member))
    breaks covers
  rw [toList_dotted, List.append_assoc]
  simp [separatedOne, name, tail]

/-- Words that are literals wherever an operand is read. -/
def literalWords : List String := ["true", "false", "null"]

theorem literal_refuses_name {name : String} (proper : isIdentifier name = true)
    (free : name ∉ literalWords) {rest : List Char} (ends : ∀ c ∈ rest.head?, isNameChar c = false)
    (limit : Nat) : Refuses (literal (limit + 1)) (name.toList ++ rest) := by
  obtain ⟨c, more, spelled, start, inside⟩ := identifier_chars proper
  have head : (name.toList ++ rest).head? = some c := by rw [spelled]; rfl
  have other {d : Char} (notStart : isNameStart d = false) : (name.toList ++ rest).head? ≠ some d := by
    rw [head]
    rintro ⟨⟩
    rw [notStart] at start
    cases start
  have word {word : String} {value : Value} (reserved : word ∈ literalWords)
      (named : ∀ c ∈ word.toList, isNameChar c = true) :
      Refuses (constantWord word value) (name.toList ++ rest) := by
    refine (keyword_refuses named inside ends fun same => free ?_).map _
    rwa [String.toList_inj.mp same]
  refine (word (by decide) (by decide)).both ((word (by decide) (by decide)).both
    ((word (by decide) (by decide)).both ((stringLiteral_refuses (other rfl)).both
      ((number_refuses (other rfl) ?_).both (listOf_refuses (other rfl) _ _)))))
  rw [head]
  rintro d ⟨⟩
  by_contra digit
  have all : ∀ c ∈ "0123456789".toList, isNameStart c = false := by decide
  rw [all c (mem_digits (Bool.not_eq_false _ ▸ digit))] at start
  cases start

theorem access_of_path {name : String} {limit : Nat} {found : Path} {text rest : List Char}
    (refuses : Refuses (literal (limit + 1)) text)
    (read : path (limit + 1) text = .done found rest)
    (known : found.isVariable = true ∨ found.segments.head? = some name)
    (uncalled : (skip rest).head? ≠ some '(') :
    access name (limit + 1) text = .done (found.plain text) rest := by
  obtain ⟨place, halts⟩ := refuses
  obtain ⟨call, noCall⟩ := (char_refuses uncalled).padded
  have none : arguments (access name limit) limit rest = .done none rest := by
    simp [arguments, noCall]
  have owned : (found.isVariable || found.segments.head? == some name) = true := by
    rcases known with captured | entity
    · simp [captured]
    · simp [entity]
  rw [access, halts]
  simp only [read, andThen_done, owned, if_true, none]

def Path.chars (found : Path) : List Char :=
  if found.isVariable then '$' :: (dotted found.segments).toList else (dotted found.segments).toList

theorem chars_named {found : Path} (proper : Proper found.segments) :
    ∃ c ∈ found.chars.getLast?, isNameChar c = true := by
  obtain ⟨isVariable, segments⟩ := found
  obtain ⟨first, segments, rfl⟩ := List.exists_cons_of_ne_nil proper.nonempty
  have behind {path : MemberPath} (names : ∀ segment ∈ path, isIdentifier segment = true)
      {front : List Char} (named : ∃ c ∈ front.getLast?, isNameChar c = true) :
      ∃ c ∈ (front ++ pointed path).getLast?, isNameChar c = true := by
    induction path generalizing front with
    | nil => simpa [pointed] using named
    | cons segment path ih =>
      obtain ⟨c, more, spelled, -, inside⟩ := identifier_chars (names segment List.mem_cons_self)
      have next := ends_named (front ++ ['.']) (by simp [spelled]) inside
      simpa [pointed] using ih (fun other member => names other (List.mem_cons_of_mem _ member)) next
  obtain ⟨c, more, spelled, -, inside⟩ := identifier_chars (proper.names first List.mem_cons_self)
  have names : ∀ segment ∈ segments, isIdentifier segment = true :=
    fun segment member => proper.names segment (List.mem_cons_of_mem _ member)
  have ends (front : List Char) := behind names (ends_named front (by simp [spelled]) inside)
  cases isVariable with
  | true => simpa [Path.chars, toList_dotted] using ends ['$']
  | false => simpa [Path.chars, toList_dotted] using ends []

theorem path_unmarked {text : List Char} (unmarked : text.head? ≠ some '$') (limit : Nat) :
    path limit text = (separatedOne (char '.') identifier limit text).map fun segments =>
      { isVariable := false, segments } := by
  unfold path
  split
  next same =>
    split at same
    · exact absurd rfl unmarked
    · cases same
      rfl

theorem path_read {found : Path} (proper : Proper found.segments) {rest : List Char}
    (breaks : Breaks rest) {limit : Nat} (covers : found.chars.length < limit) :
    path limit (found.chars ++ rest) = .done found rest := by
  obtain ⟨isVariable, segments⟩ := found
  obtain ⟨first, segments, rfl⟩ := List.exists_cons_of_ne_nil proper.nonempty
  have spelled := toList_dotted first segments
  have count := length_le_pointed segments
  have read : separatedOne (char '.') identifier limit ((dotted (first :: segments)).toList ++ rest) =
      .done (first :: segments) rest := by
    apply separatedOne_dotted proper.names breaks
    have within : (dotted (first :: segments)).toList.length ≤
        (Path.chars { isVariable, segments := first :: segments }).length := by
      cases isVariable <;> simp [Path.chars]
    rw [spelled, List.length_append] at within
    omega
  cases isVariable with
  | true => simp [path, Path.chars, read]
  | false =>
    obtain ⟨c, more, same, start, -⟩ := identifier_chars (proper.names first List.mem_cons_self)
    have unmarked : ((dotted (first :: segments)).toList ++ rest).head? ≠ some '$' := by
      rw [spelled, same]
      rintro ⟨⟩
      cases start
    change path limit ((dotted (first :: segments)).toList ++ rest) = _
    rw [path_unmarked unmarked, read, map_done]

/-- A path of the entity or of a variable is read as an access. -/
theorem access_read {name : String} {found : Path} (proper : Proper found.segments)
    (known : found.isVariable = true ∨ found.segments.head? = some name ∧ name ∉ literalWords)
    {rest : List Char} (breaks : Breaks rest) (uncalled : (skip rest).head? ≠ some '(') {limit : Nat}
    (covers : found.chars.length < limit) :
    access name limit (found.chars ++ rest) = .done (found.plain (found.chars ++ rest)) rest := by
  obtain ⟨limit, rfl⟩ := Nat.exists_eq_add_one.mpr (Nat.zero_lt_of_lt covers)
  refine access_of_path ?_ (path_read proper breaks covers) (known.imp_right And.left) uncalled
  rcases known with captured | ⟨entity, free⟩
  · have marked : found.chars = '$' :: (dotted found.segments).toList := by simp [Path.chars, captured]
    rw [marked]
    exact literal_refuses (by rintro c ⟨⟩; rfl) (by rintro c ⟨⟩; decide) limit
  · obtain ⟨isVariable, segments⟩ := found
    obtain ⟨members, rfl⟩ : ∃ members, segments = name :: members := by
      cases segments with
      | nil => cases entity
      | cons first members =>
        cases entity
        exact ⟨members, rfl⟩
    cases isVariable with
    | true => exact literal_refuses (by rintro c ⟨⟩; rfl) (by rintro c ⟨⟩; decide) limit
    | false =>
      have spelled : Path.chars { isVariable := false, segments := name :: members } =
          name.toList ++ pointed members := toList_dotted name members
      rw [spelled, List.append_assoc]
      exact literal_refuses_name (proper.names name List.mem_cons_self) free
        (breaks_pointed members breaks) limit

theorem plain_of_unsuffixed {found : Path}
    (unsuffixed : (if found.isVariable then 1 else 2) < found.segments.length →
      found.segments.getLast? ≠ some "has_value" ∧ found.segments.getLast? ≠ some "is_none")
    (place : List Char) :
    found.plain place = .plain (Path.term found.isVariable found.segments place) := by
  simp only [Path.plain]
  by_cases long : (if found.isVariable then 1 else 2) < found.segments.length
  · obtain ⟨hasValue, isNone⟩ := unsuffixed long
    rw [if_pos long]
    split
    · next last => exact absurd last hasValue
    · next last => exact absurd last isNone
    · rfl
  · rw [if_neg long]

theorem plain_suffixed {isVariable : Bool} {segments : MemberPath}
    (long : (if isVariable then 1 else 2) ≤ segments.length) (place : List Char) :
    Path.plain { isVariable, segments := segments ++ ["has_value"] } place =
        .hasValue (Path.term isVariable segments place) ∧
      Path.plain { isVariable, segments := segments ++ ["is_none"] } place =
        .isNone (Path.term isVariable segments place) := by
  have longer : (if isVariable then 1 else 2) < segments.length + 1 := Nat.lt_succ_of_le long
  simp [Path.plain, longer]

inductive ReferenceText (name : String) (scope : Variables) : List Char → Operand → Prop where
  | field (path : MemberPath) : path.Proper →
      ReferenceText name scope (name.toList ++ '.' :: (dotted path).toList) (.field path)
  | captured (path : MemberPath) (value : Value) : path.Proper →
      scope.get? (dotted path) = some value →
      ReferenceText name scope ('$' :: (dotted path).toList) (.captured path value)

/-- The text of an operand. A literal stands for the value that it is read as by itself. -/
inductive OperandText (name : String) (scope : Variables) : List Char → Operand → Prop where
  | literal {text : List Char} {value : Value} : Trimmed text →
      readLiteral (String.ofList text) = .ok value → OperandText name scope text (.ofValue value)
  | reference {text : List Char} {operand : Operand} : ReferenceText name scope text operand →
      operand.path.Plain → OperandText name scope text operand

section

variable {name : String} {scope : Variables} {text : List Char} {operand : Operand}

theorem ReferenceText.opens (written : ReferenceText name scope text operand)
    (named : isIdentifier name = true) : Opens ['=', '('] text := by
  cases written with
  | field _ _ =>
    obtain ⟨c, more, spelled, start, -⟩ := identifier_chars named
    refine ⟨c, by simp [spelled], isSeparator_of_start start, fun known => ?_⟩
    have all : ∀ c ∈ ['=', '('], isNameStart c = false := by decide
    rw [all c known] at start
    cases start
  | captured _ _ _ _ => exact ⟨'$', rfl, by decide⟩

theorem OperandText.opens (written : OperandText name scope text operand)
    (named : isIdentifier name = true) : Opens ['=', '('] text := by
  cases written with
  | literal trimmed read =>
    obtain ⟨c, first, known⟩ := ((readLiteral_eq_ok trimmed).mp read).starts
    have all : ∀ c ∈ literalStarts, Text.isSeparator c = false ∧ c ∉ ['=', '('] := by decide
    exact ⟨c, first, all c known⟩
  | reference written _ => exact written.opens named

theorem negation_refuses_sign {c : Char} (other : c ≠ '!' ∧ c ≠ 'n') (rest : List Char) :
    Refuses negation (c :: rest) := by
  have keyword : Refuses (keyword ['n', 'o', 't']) (c :: rest) :=
    keyword_refuses_head (by simpa using other.2) _
  exact (char_refuses (by simpa using other.1)).both keyword

theorem negation_refuses_name {run rest : List Char} (nonempty : run ≠ [])
    (inside : ∀ c ∈ run, isNameChar c = true) (ends : ∀ c ∈ rest.head?, isNameChar c = false)
    (other : run ≠ "not".toList) : Refuses negation (run ++ rest) := by
  refine (char_refuses ?_).both (keyword_refuses (by decide) inside ends other)
  obtain ⟨c, run, rfl⟩ := List.exists_cons_of_ne_nil nonempty
  rintro ⟨⟩
  cases inside '!' List.mem_cons_self

theorem ReferenceText.refuses_negation (written : ReferenceText name scope text operand)
    (named : isIdentifier name = true) (affirms : operand.entityPath? ≠ none → name ≠ "not")
    (rest : List Char) : Refuses negation (text ++ rest) := by
  cases written with
  | field _ _ =>
    obtain ⟨c, more, spelled, -, inside⟩ := identifier_chars named
    have other : name.toList ≠ "not".toList := fun same =>
      affirms (by simp [Operand.entityPath?]) (String.toList_inj.mp same)
    rw [List.append_assoc]
    exact negation_refuses_name (by simp [spelled]) inside (by rintro d ⟨⟩; rfl) other
  | captured _ _ _ _ => exact negation_refuses_sign (by decide) _

theorem OperandText.refuses_negation (written : OperandText name scope text operand)
    (named : isIdentifier name = true) (affirms : operand.entityPath? ≠ none → name ≠ "not")
    {rest : List Char} (apart : Apart text rest) : Refuses negation (text ++ rest) := by
  cases written with
  | literal trimmed read =>
    cases (readLiteral_eq_ok trimmed).mp read with
    | word known =>
      have all : ∀ known ∈ constantWords, known.1.toList ≠ [] ∧ known.1.toList ≠ "not".toList ∧
          (∀ c ∈ known.1.toList, isNameChar c = true) := by decide
      obtain ⟨nonempty, other, inside⟩ := all _ known
      exact negation_refuses_name nonempty inside (apart (ends_named [] nonempty inside)).ends other
    | number written =>
      obtain ⟨⟨c, first, starts⟩, -⟩ := written.ends
      obtain ⟨more, rfl⟩ := List.head?_eq_some_iff.mp first
      refine negation_refuses_sign ?_ _
      rcases starts with rfl | digit
      · decide
      · have all : ∀ c ∈ "0123456789".toList, c ≠ '!' ∧ c ≠ 'n' := by decide
        exact all c (mem_digits digit)
    | string _ => exact negation_refuses_sign (by decide) _
    | empty _ => exact negation_refuses_sign (by decide) _
    | list _ _ _ _ _ => exact negation_refuses_sign (by decide) _
  | reference written _ => exact written.refuses_negation named affirms rest

structure Path.Refers (name : String) (scope : Variables) (found : Path) (operand : Operand) :
    Prop where
  proper : found.segments.Proper
  owned : found.isVariable = true ∨ found.segments.head? = some name ∧ name ∉ literalWords
  /-- A suffix behind the path is recognised. -/
  long : (if found.isVariable then 1 else 2) ≤ found.segments.length
  unsuffixed : operand.path.Plain → (if found.isVariable then 1 else 2) < found.segments.length →
    found.segments.getLast? ≠ some "has_value" ∧ found.segments.getLast? ≠ some "is_none"
  resolves : ∀ place total,
    (Path.term found.isVariable found.segments place).operand scope total = .ok operand

theorem ReferenceText.refers (written : ReferenceText name scope text operand)
    (named : isIdentifier name = true) (free : operand.entityPath? ≠ none → name ∉ literalWords) :
    ∃ found : Path, text = found.chars ∧ found.Refers name scope operand := by
  cases written with
  | field path proper =>
    obtain ⟨nonempty, names⟩ := proper
    obtain ⟨first, rest, rfl⟩ := List.exists_cons_of_ne_nil nonempty
    refine ⟨{ isVariable := false, segments := name :: first :: rest }, ?_, ?_⟩
    · simp [Path.chars, toList_dotted, pointed]
    · exact {
        proper := ⟨List.cons_ne_nil _ _, by simpa [named] using names⟩
        owned := .inr ⟨rfl, free (by simp [Operand.entityPath?])⟩
        long := by simp
        unsuffixed := fun plain long => by simpa [Operand.path] using plain (Nat.le_of_lt_succ long)
        resolves := fun _ _ => rfl }
  | captured path value proper held =>
    refine ⟨{ isVariable := true, segments := path }, by simp [Path.chars], ?_⟩
    exact {
      proper
      owned := .inl rfl
      long := List.length_pos_iff.mpr proper.nonempty
      unsuffixed := fun plain long => plain long
      resolves := fun place total => by simp [Path.term, Term.operand, held] }

theorem OperandText.access_read (written : OperandText name scope text operand)
    (named : isIdentifier name = true) (free : operand.entityPath? ≠ none → name ∉ literalWords)
    {rest : List Char} (apart : Apart text rest) (uncalled : (skip rest).head? ≠ some '(')
    {limit : Nat} (covers : text.length < limit) :
    ∃ term : Term, access name limit (text ++ rest) = .done (.plain term) rest ∧
      ∀ total, term.operand scope total = .ok operand := by
  cases written with
  | literal trimmed read =>
    have literalRead := ((readLiteral_eq_ok trimmed).mp read).read apart covers
    obtain ⟨limit, rfl⟩ := Nat.exists_eq_add_one.mpr (Nat.zero_lt_of_lt covers)
    exact ⟨_, by rw [access, literalRead], fun total => rfl⟩
  | reference written plain =>
    obtain ⟨found, rfl, refers⟩ := written.refers named free
    have read := access_read refers.proper refers.owned (apart (chars_named refers.proper)) uncalled
      covers
    rw [plain_of_unsuffixed (refers.unsuffixed plain)] at read
    exact ⟨_, read, refers.resolves _⟩

def suffix (present : Bool) : String := if present then "has_value" else "is_none"

/-- A path with a suffix behind it is read as a null test of what the path stands for. -/
theorem ReferenceText.access_suffixed (written : ReferenceText name scope text operand)
    (named : isIdentifier name = true) (free : operand.entityPath? ≠ none → name ∉ literalWords)
    (present : Bool) {rest : List Char} (breaks : Breaks rest)
    (uncalled : (skip rest).head? ≠ some '(') {limit : Nat}
    (covers : (text ++ '.' :: (suffix present).toList).length < limit) :
    ∃ term : Term, (∀ total, term.operand scope total = .ok operand) ∧
      access name limit (text ++ '.' :: (suffix present).toList ++ rest) =
        .done (if present then .hasValue term else .isNone term) rest := by
  obtain ⟨⟨isVariable, segments⟩, rfl, refers⟩ := written.refers named free
  -- to the path reader the suffix is one more name
  let longer : Path := { isVariable, segments := segments ++ [suffix present] }
  have spelled : longer.chars =
      Path.chars { isVariable, segments } ++ '.' :: (suffix present).toList := by
    obtain ⟨first, rest, same⟩ := List.exists_cons_of_ne_nil refers.proper.nonempty
    simp only [longer] at same ⊢
    subst same
    cases isVariable <;> simp [Path.chars, toList_dotted, pointed]
  rw [← spelled] at covers ⊢
  have proper : longer.segments.Proper := by
    refine ⟨by simp [longer], ?_⟩
    have suffixNamed : isIdentifier (suffix present) = true := by cases present <;> decide
    intro segment member
    rcases List.mem_append.mp member with inside | last
    · exact refers.proper.names segment inside
    · rwa [List.mem_singleton.mp last]
  have owned : longer.isVariable = true ∨ longer.segments.head? = some name ∧ name ∉ literalWords := by
    rcases refers.owned with captured | ⟨entity, free⟩
    · exact .inl captured
    · have first : segments.head? = some name := entity
      exact .inr ⟨by simp [longer, List.head?_append, first], free⟩
  have read := access_read proper owned breaks uncalled covers
  refine ⟨_, refers.resolves (longer.chars ++ rest), ?_⟩
  obtain ⟨hasValue, isNone⟩ := plain_suffixed refers.long (longer.chars ++ rest)
  cases present with
  | true => exact read.trans (congrArg (Outcome.done · rest) hasValue)
  | false => exact read.trans (congrArg (Outcome.done · rest) isNone)

end

end Reader

end WhereClause
