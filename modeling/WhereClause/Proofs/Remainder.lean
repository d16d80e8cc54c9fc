import WhereClause.Proofs.Operands

/-! What readers leave of the text.

A reader is given an end of the whole text, and what it leaves when it is done or stops is an end
of it again. A variable also keeps the text from its sign on, and that text starts with its name.
-/

set_option autoImplicit false

namespace WhereClause

/-- An outcome that leaves an end of the whole text. If it is a result, it is a good one. -/
inductive Outcome.Within {α : Type} (whole : List Char) (good : α → Prop) : Outcome α → Prop where
  | done {value : α} {rest : List Char} :
      good value → rest <:+ whole → Within whole good (.done value rest)
  | halt {reason : Halt} {rest : List Char} : rest <:+ whole → Within whole good (.halt reason rest)

def Reader.Stays {α : Type} (whole : List Char) (good : α → Prop) (reader : Reader α) : Prop :=
  ∀ text, text <:+ whole → (reader text).Within whole good

namespace Outcome

/-- Go on with a result, or with something else after a recoverable stop. -/
def recover {α β : Type} (outcome : Outcome α) (instead : Outcome β) (next : α → Reader β) :
    Outcome β :=
  match outcome with
  | .halt .recoverable _ => instead
  | .halt reason rest => .halt reason rest
  | .done value rest => next value rest

variable {α β : Type} {whole : List Char} {good : α → Prop} {better : β → Prop} {outcome : Outcome α}

theorem Within.andThen (within : outcome.Within whole good) {next : α → Reader β}
    (stays : ∀ value rest, good value → rest <:+ whole → (next value rest).Within whole better) :
    (outcome.andThen next).Within whole better := by
  cases within with
  | done isGood ends => exact stays _ _ isGood ends
  | halt ends => exact .halt ends

theorem Within.recover (within : outcome.Within whole good) {instead : Outcome β}
    (insteadWithin : instead.Within whole better) {next : α → Reader β}
    (stays : ∀ value rest, good value → rest <:+ whole → (next value rest).Within whole better) :
    (outcome.recover instead next).Within whole better := by
  cases within with
  | done isGood ends => exact stays _ _ isGood ends
  | @halt reason rest ends =>
    cases reason with
    | recoverable => exact insteadWithin
    | final => exact .halt ends
    | bareCall => exact .halt ends
    | tooDeep => exact .halt ends

theorem Within.of_done (within : outcome.Within whole good) {value : α} {rest : List Char}
    (read : outcome = .done value rest) : good value ∧ rest <:+ whole := by
  subst read
  cases within with
  | done isGood ends => exact ⟨isGood, ends⟩

theorem Within.of_halt (within : outcome.Within whole good) {reason : Halt} {rest : List Char}
    (stopped : outcome = .halt reason rest) : rest <:+ whole := by
  subst stopped
  cases within with
  | halt ends => exact ends

theorem recover_eq_done {instead : Outcome β} {next : α → Reader β} {value : β} {rest : List Char}
    (read : outcome.recover instead next = .done value rest) :
    (∃ place, outcome = .halt .recoverable place ∧ instead = .done value rest) ∨
      ∃ first place, outcome = .done first place ∧ next first place = .done value rest := by
  cases outcome with
  | done first place => exact .inr ⟨first, place, rfl, read⟩
  | halt reason place =>
    cases reason with
    | recoverable => exact .inl ⟨place, rfl, read⟩
    | final => cases read
    | bareCall => cases read
    | tooDeep => cases read

theorem Within.map (within : outcome.Within whole good) {transform : α → β}
    (improves : ∀ value, good value → better (transform value)) :
    (outcome.map transform).Within whole better := by
  apply within.andThen
  intro value rest isGood ends
  exact .done (improves value isGood) ends

theorem Within.commit (within : outcome.Within whole good) : outcome.commit.Within whole good := by
  cases within with
  | done isGood ends => exact .done isGood ends
  | @halt reason rest ends => cases reason <;> exact .halt ends

end Outcome

namespace Reader

variable {α : Type} {whole : List Char} {good : α → Prop}

theorem skip_suffix (text : List Char) : skip text <:+ text := List.dropWhile_suffix _

theorem behind_suffix {c : Char} {text : List Char} (ends : c :: text <:+ whole) : text <:+ whole :=
  (List.suffix_cons c text).trans ends

theorem Stays.padded {reader : Reader α} (stays : Stays whole good reader) :
    Stays whole good (padded reader) := by
  intro text ends
  apply (stays _ ((skip_suffix text).trans ends)).andThen
  intro value rest isGood restEnds
  exact .done isGood ((skip_suffix rest).trans restEnds)

theorem orElse_eq (first second : Reader α) (text : List Char) :
    orElse first second text = (first text).recover (second text) .done := by
  unfold orElse
  cases first text with
  | done value rest => rfl
  | halt reason rest => cases reason <;> rfl

theorem Stays.orElse {first second : Reader α} (firstStays : Stays whole good first)
    (secondStays : Stays whole good second) : Stays whole good (orElse first second) := by
  intro text ends
  rw [orElse_eq]
  exact (firstStays text ends).recover (secondStays text ends) fun _ _ => .done

theorem tag_stays (word : List Char) : Stays whole (fun _ => True) (tag word) := by
  intro text ends
  unfold tag
  split
  · exact .done trivial ((List.drop_suffix _ _).trans ends)
  · exact .halt ends

theorem keyword_stays (word : List Char) : Stays whole (fun _ => True) (keyword word) := by
  intro text ends
  apply (tag_stays word text ends).andThen
  intro _ rest _ restEnds
  split
  · split
    · exact .halt restEnds
    · exact .done trivial restEnds
  · exact .done trivial restEnds

theorem padded_char_stays (c : Char) : Stays whole (fun _ => True) (padded (char c)) :=
  (tag_stays [c]).padded

theorem identifier_stays : Stays whole (fun _ => True) identifier := by
  intro text ends
  unfold identifier
  split
  · next c rest =>
    split
    · exact .done trivial ((List.dropWhile_suffix _).trans (behind_suffix ends))
    · exact .halt ends
  · exact .halt ends

section Repeated

variable {separator : Reader Unit} {item : Reader α}

theorem separatedTail_succ (limit : Nat) (text : List Char) :
    separatedTail separator item (limit + 1) text =
      (separator text).recover (.done [] text) fun _ next =>
        (item next).recover (.done [] text) fun value rest =>
          (separatedTail separator item limit rest).map (value :: ·) := by
  rw [separatedTail]
  cases separator text with
  | done value next => rfl
  | halt reason rest => cases reason <;> rfl

theorem separated_eq (limit : Nat) (text : List Char) :
    separated separator item limit text =
      (item text).recover (.done [] text) fun value rest =>
        (separatedTail separator item limit rest).map (value :: ·) := rfl

theorem separatedTail_stays (between : Stays whole (fun _ => True) separator)
    (each : Stays whole good item) (limit : Nat) :
    Stays whole (fun items => ∀ value ∈ items, good value) (separatedTail separator item limit) := by
  induction limit with
  | zero => exact fun text ends => .halt ends
  | succ limit ih =>
    intro text ends
    have stopped : (Outcome.done [] text).Within whole fun items => ∀ value ∈ items, good value :=
      .done (by simp) ends
    rw [separatedTail_succ]
    apply (between text ends).recover stopped
    intro _ next _ nextEnds
    apply (each next nextEnds).recover stopped
    intro value rest isGood restEnds
    apply (ih rest restEnds).map
    intro items areGood
    exact List.forall_mem_cons.mpr ⟨isGood, areGood⟩

theorem separated_stays (between : Stays whole (fun _ => True) separator)
    (each : Stays whole good item) (limit : Nat) :
    Stays whole (fun items => ∀ value ∈ items, good value) (separated separator item limit) := by
  intro text ends
  rw [separated_eq]
  apply (each text ends).recover (.done (by simp) ends)
  intro value rest isGood restEnds
  apply (separatedTail_stays between each limit rest restEnds).map
  intro items areGood
  exact List.forall_mem_cons.mpr ⟨isGood, areGood⟩

theorem chain_succ {operator : Reader Unit} {operand : Reader α} {join : α → α → α} (limit : Nat)
    (first : α) (text : List Char) :
    chain operator operand join (limit + 1) first text =
      (operator text).recover (.done first text) fun _ next =>
        ((operand next).commit).andThen fun value rest =>
          chain operator operand join limit (join first value) rest := by
  rw [chain]
  cases operator text with
  | done value next =>
    simp only [Outcome.recover]
    cases (operand next).commit <;> rfl
  | halt reason rest => cases reason <;> rfl

theorem chain_stays {operator : Reader Unit} {operand : Reader α} {join : α → α → α}
    (between : Stays whole (fun _ => True) operator) (each : Stays whole good operand)
    (joins : ∀ left right, good left → good right → good (join left right)) (limit : Nat) {first : α}
    (firstGood : good first) : Stays whole good (chain operator operand join limit first) := by
  -- on the limit: what has been joined so far stays good
  induction limit generalizing first with
  | zero => exact fun text ends => .halt ends
  | succ limit ih =>
    intro text ends
    rw [chain_succ]
    apply (between text ends).recover (.done firstGood ends)
    intro _ next _ nextEnds
    apply (each next nextEnds).commit.andThen
    intro value rest isGood restEnds
    exact ih (joins first value firstGood isGood) rest restEnds

end Repeated

section Literals

theorem unsigned_within (negative : Bool) {body : List Char} (ends : body <:+ whole) :
    (unsigned negative body).Within whole fun _ => True := by
  have behind : body.dropWhile Char.isDigit <:+ whole := (List.dropWhile_suffix _).trans ends
  unfold unsigned
  dsimp only
  split
  · exact .halt ends
  · split
    · next rest found =>
      rw [found] at behind
      split
      · exact .done trivial behind
      · exact .done trivial ((List.dropWhile_suffix _).trans (behind_suffix behind))
    · exact .done trivial behind

theorem numeral_stays : Stays whole (fun _ => True) numeral := by
  intro text ends
  by_cases signed : text.head? = some '-'
  · obtain ⟨body, rfl⟩ := List.head?_eq_some_iff.mp signed
    rw [numeral_signed]
    exact unsigned_within true (behind_suffix ends)
  · rw [numeral_unsigned signed]
    exact unsigned_within false ends

theorem number_stays : Stays whole (fun _ => True) number := by
  intro text ends
  apply (numeral_stays text ends).andThen
  intro found rest _ restEnds
  -- a type suffix is taken off what remains, and a number out of range stops at its start
  split
  next shown same =>
    split
    · split at same
      all_goals obtain ⟨-, rfl⟩ := Prod.mk.inj same
      · exact .done trivial (behind_suffix restEnds)
      · exact .done trivial (behind_suffix restEnds)
      · exact .done trivial (behind_suffix restEnds)
      · exact .done trivial restEnds
    · exact .halt ends

theorem stringBody_stays : Stays whole (fun _ => True) stringBody := by
  intro text ends
  fun_induction stringBody text with
  | case1 => exact .halt ends
  | case2 rest => exact .done trivial (behind_suffix ends)
  | case3 rest ih => exact (ih (behind_suffix (behind_suffix ends))).map fun _ _ => trivial
  | case4 rest ih => exact (ih (behind_suffix (behind_suffix ends))).map fun _ _ => trivial
  | case5 rest ih => exact (ih (behind_suffix (behind_suffix ends))).map fun _ _ => trivial
  | case6 rest ih => exact (ih (behind_suffix (behind_suffix ends))).map fun _ _ => trivial
  | case7 => exact .halt ends
  | case8 _ _ _ _ _ _ _ _ ih => exact (ih (behind_suffix ends)).map fun _ _ => trivial

theorem stringLiteral_stays : Stays whole (fun _ => True) stringLiteral := by
  intro text ends
  apply (tag_stays _ text ends).andThen
  intro _ rest _ restEnds
  exact (stringBody_stays rest restEnds).map fun _ _ => trivial

theorem constantWord_stays (word : String) (value : Value) :
    Stays whole (fun _ => True) (constantWord word value) := by
  intro text ends
  exact (keyword_stays _ text ends).map fun _ _ => trivial

theorem listOf_stays {item : Reader Value} (each : Stays whole (fun _ => True) item) (limit : Nat) :
    Stays whole (fun _ => True) (listOf item limit) := by
  intro text ends
  apply (tag_stays _ text ends).andThen
  intro _ rest _ restEnds
  have start : skip rest <:+ whole := (skip_suffix rest).trans restEnds
  apply (separated_stays (padded_char_stays ',') each limit _ start).andThen
  intro items behind _ behindEnds
  exact ((tag_stays _ _ ((skip_suffix behind).trans behindEnds)).commit).map fun _ _ => trivial

theorem literal_stays (limit : Nat) : Stays whole (fun _ => True) (literal limit) := by
  induction limit with
  | zero => exact fun text ends => .halt ends
  | succ limit ih =>
    intro text ends
    unfold literal
    apply Stays.orElse (constantWord_stays _ _) _ text ends
    apply Stays.orElse (constantWord_stays _ _)
    apply Stays.orElse (constantWord_stays _ _)
    apply Stays.orElse stringLiteral_stays
    apply Stays.orElse number_stays
    exact listOf_stays ih limit

end Literals

end Reader

/-- A variable that keeps the text from its sign on. -/
def Term.Placed (whole : List Char) : Term → Prop
  | .captured path place =>
    place <:+ whole ∧ '$' :: (MemberPath.dotted path).toList <+: place
  | _ => True

inductive Access.Placed (whole : List Char) : Access → Prop where
  | plain {term : Term} : term.Placed whole → Placed whole (.plain term)
  | hasValue {term : Term} : term.Placed whole → Placed whole (.hasValue term)
  | isNone {term : Term} : term.Placed whole → Placed whole (.isNone term)
  | call {term : Term} {method : String} {arguments : List Access} :
      term.Placed whole → (∀ argument ∈ arguments, Placed whole argument) →
      Placed whole (.call term method arguments)

def Expression.Placed (whole : List Char) : Expression → Prop
  | .compare _ left right => left.Placed whole ∧ right.Placed whole
  | .not inner => inner.Placed whole
  | .and left right => left.Placed whole ∧ right.Placed whole
  | .or left right => left.Placed whole ∧ right.Placed whole
  | .member item collection => item.Placed whole ∧ collection.Placed whole
  | .truth access => access.Placed whole

theorem MemberPath.dotted_prefix {front path : MemberPath} (starts : front <+: path) :
    (dotted front).toList <+: (dotted path).toList := by
  obtain ⟨back, rfl⟩ := starts
  cases front with
  | nil => simp [dotted]
  | cons first rest =>
    rw [List.cons_append, toList_dotted, toList_dotted]
    simp [pointed]

namespace Reader

variable {whole : List Char}

theorem identifier_eq_done {text rest : List Char} {name : String}
    (read : identifier text = .done name rest) : text = name.toList ++ rest := by
  unfold identifier at read
  split at read
  · split at read
    · cases read
      simp
    · cases read
  · cases read

theorem separatedTail_names {limit : Nat} {text rest : List Char} {names : List String}
    (read : separatedTail (char '.') identifier limit text = .done names rest) :
    text = MemberPath.pointed names ++ rest := by
  induction limit generalizing text names with
  | zero => cases read
  | succ limit ih =>
    rw [separatedTail_succ] at read
    rcases Outcome.recover_eq_done read with ⟨_, _, ended⟩ | ⟨_, next, pointed, read⟩
    · cases ended
      rfl
    · rcases Outcome.recover_eq_done read with ⟨_, _, ended⟩ | ⟨name, behind, named, read⟩
      · cases ended
        rfl
      · obtain ⟨names, tailRead, rfl⟩ := map_eq_done read
        rw [tag_eq_done pointed, identifier_eq_done named, ih tailRead]
        simp [MemberPath.pointed]

theorem separatedOne_names {limit : Nat} {text rest : List Char} {names : List String}
    (read : separatedOne (char '.') identifier limit text = .done names rest) :
    text = (MemberPath.dotted names).toList ++ rest := by
  obtain ⟨name, behind, named, read⟩ := andThen_eq_done read
  obtain ⟨names, tailRead, rfl⟩ := map_eq_done read
  rw [identifier_eq_done named, separatedTail_names tailRead, MemberPath.toList_dotted,
    List.append_assoc]

theorem path_marked (limit : Nat) (text : List Char) :
    path limit ('$' :: text) = (separatedOne (char '.') identifier limit text).map fun segments =>
      { isVariable := true, segments } := rfl

theorem path_eq_done {limit : Nat} {text rest : List Char} {found : Path}
    (read : path limit text = .done found rest) (marked : found.isVariable = true) :
    '$' :: (MemberPath.dotted found.segments).toList <+: text := by
  by_cases signed : text.head? = some '$'
  · obtain ⟨behind, rfl⟩ := List.head?_eq_some_iff.mp signed
    rw [path_marked] at read
    obtain ⟨segments, named, rfl⟩ := map_eq_done read
    rw [separatedOne_names named]
    exact ⟨rest, rfl⟩
  · rw [path_unmarked signed] at read
    obtain ⟨segments, _, rfl⟩ := map_eq_done read
    cases marked

theorem path_stays (limit : Nat) : Stays whole (fun _ => True) (path limit) := by
  have names : Stays whole (fun _ => True) (separatedOne (char '.') identifier limit) := by
    intro text ends
    apply (identifier_stays text ends).andThen
    intro name rest _ restEnds
    exact (separatedTail_stays (tag_stays _) identifier_stays limit rest restEnds).map
      fun _ _ => trivial
  intro text ends
  by_cases signed : text.head? = some '$'
  · obtain ⟨behind, rfl⟩ := List.head?_eq_some_iff.mp signed
    rw [path_marked]
    exact (names behind (behind_suffix ends)).map fun _ _ => trivial
  · rw [path_unmarked signed]
    exact (names text ends).map fun _ _ => trivial

/-- Any front of a path that was read makes a term that keeps its place. -/
def Path.Kept (whole text : List Char) (found : Path) : Prop :=
  ∀ front, front <+: found.segments → (Path.term found.isVariable front text).Placed whole

theorem path_within (limit : Nat) {text : List Char} (ends : text <:+ whole) :
    (path limit text).Within whole (Path.Kept whole text) := by
  have within := path_stays limit text ends
  cases read : path limit text with
  | halt reason rest =>
    rw [read] at within
    cases within with
    | halt restEnds => exact .halt restEnds
  | done found rest =>
    rw [read] at within
    cases within with
    | done _ restEnds =>
      -- a test suffix or a method is taken off the end, so the name is a front of what was read
      refine .done (fun front starts => ?_) restEnds
      unfold Path.term
      split
      · next marked =>
        have shorter : '$' :: (MemberPath.dotted front).toList <+:
            '$' :: (MemberPath.dotted found.segments).toList :=
          (List.prefix_cons_inj '$').mpr (MemberPath.dotted_prefix starts)
        exact ⟨ends, shorter.trans (path_eq_done read marked)⟩
      · split <;> trivial

theorem Path.plain_placed {text : List Char} {found : Path} (kept : found.Kept whole text) :
    (found.plain text).Placed whole := by
  have all := kept _ List.prefix_rfl
  have front := kept _ (List.dropLast_prefix _)
  unfold Path.plain
  extract_lets keep term
  split
  · split
    · exact .hasValue front
    · exact .isNone front
    · exact .plain all
  · exact .plain all

theorem called_within {text rest : List Char} {found : Path} (kept : found.Kept whole text)
    {given : List Access} (placed : ∀ argument ∈ given, argument.Placed whole)
    (restEnds : rest <:+ whole) :
    (called found text given rest).Within whole (Access.Placed whole) := by
  have front := kept _ (List.dropLast_prefix _)
  unfold called
  split
  · exact .halt restEnds
  · exact .done (.call front placed) restEnds

theorem arguments_eq (argument : Reader Access) (limit : Nat) (text : List Char) :
    arguments argument limit text =
      (padded (char '(') text).recover (.done none text) fun _ rest =>
        (separated (padded (char ',')) argument limit rest).andThen fun found rest =>
          ((padded (char ')') rest).commit).map fun _ => some found := by
  unfold arguments
  cases padded (char '(') text with
  | done value rest => rfl
  | halt reason rest => cases reason <;> rfl

theorem arguments_stays {argument : Reader Access} (each : Stays whole (Access.Placed whole) argument)
    (limit : Nat) :
    Stays whole (fun given => ∀ items ∈ given, ∀ item ∈ items, Access.Placed whole item)
      (arguments argument limit) := by
  intro text ends
  rw [arguments_eq]
  apply (padded_char_stays '(' text ends).recover (.done (by simp) ends)
  intro _ rest _ restEnds
  apply (separated_stays (padded_char_stays ',') each limit rest restEnds).andThen
  intro items behind placed behindEnds
  apply ((padded_char_stays ')' behind behindEnds).commit).map
  rintro _ _ _ ⟨⟩
  exact placed

theorem access_stays (parameter : String) (limit : Nat) :
    Stays whole (Access.Placed whole) (access parameter limit) := by
  induction limit with
  | zero => exact fun text ends => .halt ends
  | succ limit ih =>
    intro text ends
    have start : (literal (limit + 1) text).Within whole fun _ => True :=
      literal_stays (limit + 1) text ends
    unfold access
    -- a path is tried only where no literal starts
    generalize literal (limit + 1) text = first at start ⊢
    cases start with
    | done _ restEnds => exact .done (.plain trivial) restEnds
    | @halt reason rest restEnds =>
      cases reason with
      | recoverable =>
        apply (path_within (limit + 1) ends).andThen
        intro found rest kept restEnds
        split
        · apply (arguments_stays ih limit rest restEnds).andThen
          intro given behind placed behindEnds
          cases given with
          | none => exact .done (Path.plain_placed kept) behindEnds
          | some given => exact called_within kept (placed given rfl) behindEnds
        · exact .halt ends
      | final => exact .halt restEnds
      | bareCall => exact .halt restEnds
      | tooDeep => exact .halt restEnds

theorem comparison_stays : Stays whole (fun _ => True) comparison := by
  have sign (op : Comparison) : Stays whole (fun _ => True) fun text =>
      (tag op.symbol.toList text).map fun _ => op := by
    intro text ends
    exact (tag_stays _ text ends).map fun _ _ => trivial
  exact (sign .eq).orElse ((sign .ne).orElse ((sign .le).orElse ((sign .ge).orElse
    ((sign .lt).orElse (sign .gt)))))

theorem test_stays {operand : Reader Access} (each : Stays whole (Access.Placed whole) operand) :
    Stays whole (Expression.Placed whole) (test operand) := by
  intro text ends
  apply (each.padded text ends).andThen
  intro left rest leftPlaced restEnds
  split
  · exact .done leftPlaced restEnds
  · split
    · next op behind compared =>
      obtain ⟨-, behindEnds⟩ := (comparison_stays.padded rest restEnds).of_done compared
      apply ((each.padded behind behindEnds).commit).map
      intro right rightPlaced
      exact ⟨leftPlaced, rightPlaced⟩
    · split
      · next behind tested =>
        obtain ⟨-, behindEnds⟩ := ((keyword_stays _).padded rest restEnds).of_done tested
        apply ((each.padded behind behindEnds).commit).map
        intro collection collectionPlaced
        exact ⟨leftPlaced, collectionPlaced⟩
      · exact .done leftPlaced restEnds

section Connectives

variable {unary : Reader Expression} (each : Stays whole (Expression.Placed whole) unary) (limit : Nat)

theorem sign_stays (symbol word : List Char) :
    Stays whole (fun _ => True) (padded (orElse (tag symbol) (keyword word))) :=
  ((tag_stays symbol).orElse (keyword_stays word)).padded

include each

theorem conjunction_stays : Stays whole (Expression.Placed whole) (conjunction unary limit) := by
  intro text ends
  apply (each text ends).andThen
  intro first rest placed restEnds
  exact chain_stays (sign_stays _ _) each (fun _ _ => And.intro) limit placed rest restEnds

theorem disjunction_stays : Stays whole (Expression.Placed whole) (disjunction unary limit) := by
  have conjunctions := conjunction_stays each limit
  intro text ends
  apply (conjunctions text ends).andThen
  intro first rest placed restEnds
  exact chain_stays (sign_stays _ _) conjunctions (fun _ _ => And.intro) limit placed rest restEnds

end Connectives

theorem unary_stays (parameter : String) (limit : Nat) :
    Stays whole (Expression.Placed whole) (unary parameter limit) := by
  induction limit with
  | zero => exact fun text ends => .halt ends
  | succ limit ih =>
    intro text ends
    have start : skip text <:+ whole := (skip_suffix text).trans ends
    have negations : Stays whole (fun _ => True) negation := (tag_stays _).orElse (keyword_stays _)
    unfold unary
    split
    · next rest denied =>
      obtain ⟨-, restEnds⟩ := (negations _ start).of_done denied
      exact ((ih rest restEnds).commit).map fun _ placed => placed
    · split
      · next rest opened =>
        obtain ⟨-, restEnds⟩ := (padded_char_stays '(' _ start).of_done opened
        apply ((disjunction_stays ih limit rest restEnds).commit).andThen
        intro inner behind placed behindEnds
        exact ((padded_char_stays ')' behind behindEnds).commit).map fun _ _ => placed
      · exact test_stays (access_stays parameter (limit + 1)) _ start

theorem expression_stays (parameter : String) (limit : Nat) :
    Stays whole (Expression.Placed whole) (expression parameter limit) :=
  disjunction_stays (unary_stays parameter limit) limit

theorem header_stays : Stays whole (fun _ => True) header := by
  intro text ends
  apply (identifier_stays _ ((skip_suffix text).trans ends)).andThen
  intro name rest _ restEnds
  exact (tag_stays _ _ ((skip_suffix rest).trans restEnds)).map fun _ _ => trivial

end Reader

end WhereClause
