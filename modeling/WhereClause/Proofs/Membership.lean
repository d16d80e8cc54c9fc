import WhereClause.Proofs.Stopping

/-! The two spellings of membership.

`$list.contains(item)` is a call that stands alone as a test, and `item in $list` has an operator of
its own. Both are read to the same item and the same list, which lie at different places of their
texts, and both are resolved in the same order.
-/

set_option autoImplicit false

namespace WhereClause

open MemberPath

/-- The same result, or errors of the same kind which may differ in the place they name. -/
inductive SameKind {α : Type} : Except Error α → Except Error α → Prop where
  | ok (value : α) : SameKind (.ok value) (.ok value)
  | parse (first second : Nat) (issue : ReadIssue) :
      SameKind (.error (.parse first issue)) (.error (.parse second issue))
  | unsupported (cause : Unsupported) :
      SameKind (.error (.unsupported cause)) (.error (.unsupported cause))

theorem SameKind.bind {α β : Type} {left right : Except Error α} {next other : α → Except Error β}
    (same : SameKind left right) (nextSame : ∀ value, SameKind (next value) (other value)) :
    SameKind (left >>= next) (right >>= other) := by
  cases same with
  | ok value => exact nextSame value
  | parse first second issue => exact .parse first second issue
  | unsupported cause => exact .unsupported cause

theorem SameKind.elim {α : Type} {left right : Except Error α} (same : SameKind left right) :
    (∃ value, left = .ok value ∧ right = .ok value) ∨
      (∃ place other issue, left = .error (.parse place issue) ∧ right = .error (.parse other issue)) ∨
      ∃ cause, left = .error (.unsupported cause) ∧ right = .error (.unsupported cause) := by
  cases same with
  | ok value => exact .inl ⟨value, rfl, rfl⟩
  | parse place other issue => exact .inr (.inl ⟨place, other, issue, rfl, rfl⟩)
  | unsupported cause => exact .inr (.inr ⟨cause, rfl, rfl⟩)

namespace Term

inductive Moved : Term → Term → Prop where
  | same (term : Term) : Moved term term
  | captured (path : MemberPath) (place other : List Char) :
      Moved (.captured path place) (.captured path other)

variable {left right : Term} (moved : Moved left right) (scope : Variables) (total length : Nat)
include moved

theorem Moved.operand : SameKind (left.operand scope total) (right.operand scope length) := by
  have found (path : MemberPath) (place other : List Char) :
      SameKind ((Term.captured path place).operand scope total)
        ((Term.captured path other).operand scope length) := by
    simp only [Term.operand]
    split
    · exact .ok _
    · exact .parse _ _ _
  cases moved with
  | same =>
    cases left with
    | entity => exact .unsupported _
    | field path => exact .ok _
    | literal value => exact .ok _
    | captured path place => exact found path place place
  | captured path place other => exact found path place other

theorem Moved.items : SameKind (left.items scope total) (right.items scope length) := by
  have shown : left.shown = right.shown := by
    cases moved with
    | same term => rfl
    | captured path place other => rfl
  refine (moved.operand scope total length).bind fun operand => ?_
  rw [shown]
  split
  · exact .ok _
  · exact .ok _
  · exact .unsupported _

end Term

namespace Reader

/-- Texts of items: literals, paths of variables, and the entity with the members behind it. No path
ends in a test suffix. -/
inductive ItemText : String → Prop where
  | literal {text : String} {value : Value} : Trimmed text.toList → readLiteral text = .ok value →
      ItemText text
  | captured {path : MemberPath} : path.Proper → path.Plain → ItemText ("$" ++ dotted path)
  | entity {members : MemberPath} : (∀ member ∈ members, isIdentifier member = true) →
      members.Plain → ItemText (dotted (defaultParameter :: members))

/-- The term that an item is read as, which depends on the place only if it is a variable. -/
structure ItemRead (text : List Char) (term : List Char → Term) : Prop where
  opens : Opens ['=', '('] text
  negationless : ∀ {rest}, Apart text rest → Refuses negation (text ++ rest)
  headless : ∀ {rest}, Apart text rest → Refuses (tag "=>".toList) (skip rest) →
    Refuses header (text ++ rest)
  access : ∀ {rest limit}, Apart text rest → (skip rest).head? ≠ some '(' → text.length < limit →
    access defaultParameter limit (text ++ rest) = .done (.plain (term (text ++ rest))) rest
  moved : ∀ place other, (term place).Moved (term other)

theorem itemRead_literal {text : List Char} {value : Value} (trimmed : Trimmed text)
    (read : readLiteral (String.ofList text) = .ok value) :
    ItemRead text fun _ => .literal value := by
  have written : OperandText defaultParameter .empty text (.ofValue value) := .literal trimmed read
  refine ⟨written.opens (by decide), written.refuses_negation (by decide) (fun _ => by decide),
    written.headless (by decide), fun apart _ covers => ?_, fun _ _ => .same _⟩
  have literalRead := ((readLiteral_eq_ok trimmed).mp read).read apart covers
  obtain ⟨limit, rfl⟩ := Nat.exists_eq_add_one.mpr (Nat.zero_lt_of_lt covers)
  rw [Reader.access, literalRead]

theorem access_item (found : Path) (proper : found.segments.Proper)
    (owned : found.isVariable = true ∨ found.segments.head? = some defaultParameter)
    (unsuffixed : (if found.isVariable then 1 else 2) < found.segments.length →
      found.segments.getLast? ≠ some "has_value" ∧ found.segments.getLast? ≠ some "is_none")
    {rest : List Char} {limit : Nat} (apart : Apart found.chars rest)
    (uncalled : (skip rest).head? ≠ some '(') (covers : found.chars.length < limit) :
    access defaultParameter limit (found.chars ++ rest) =
      .done (.plain (Path.term found.isVariable found.segments (found.chars ++ rest))) rest := by
  have known : found.isVariable = true ∨
      found.segments.head? = some defaultParameter ∧ defaultParameter ∉ literalWords :=
    owned.imp_right fun entity => ⟨entity, by decide⟩
  rw [access_read proper known (apart (chars_named proper)) uncalled covers,
    plain_of_unsuffixed unsuffixed]

theorem itemRead_captured {path : MemberPath} (proper : path.Proper) (plain : path.Plain) :
    ItemRead ('$' :: (dotted path).toList) (.captured path) where
  opens := ⟨'$', rfl, by decide⟩
  negationless := fun _ => negation_refuses_sign (by decide) _
  headless := fun _ _ => header_refuses_sign rfl rfl _
  access := access_item { isVariable := true, segments := path } proper (.inl rfl) plain
  moved := fun place other => .captured path place other

theorem itemRead_entity {members : MemberPath}
    (names : ∀ member ∈ members, isIdentifier member = true) (plain : members.Plain) :
    ItemRead (dotted (defaultParameter :: members)).toList
      (Path.term false (defaultParameter :: members)) := by
  let found : Path := { isVariable := false, segments := defaultParameter :: members }
  have proper : found.segments.Proper :=
    ⟨List.cons_ne_nil _ _, List.forall_mem_cons.mpr ⟨by decide, names⟩⟩
  have spelled := toList_dotted defaultParameter members
  refine ⟨?_, fun _ => ?_, fun apart stops => ?_, ?_, fun place other => .same _⟩
  · rw [spelled]
    exact ⟨'x', rfl, by decide⟩
  · rw [spelled]
    exact negation_refuses_sign (by decide) _
  · have breaks := apart (@chars_named found proper)
    rw [spelled, List.append_assoc]
    refine header_refuses_name (by decide) (breaks_pointed members breaks) ?_
    -- Behind the entity alone an arrow would make a header; behind a member there is a point first.
    cases members with
    | nil => exact stops
    | cons member members =>
      rw [Solid.skip (by rintro c ⟨⟩; rfl)]
      exact tag_refuses (by rintro ⟨⟩) ['>']
  · refine access_item found proper (.inr rfl) fun long => ?_
    have last : found.segments.getLast? = members.getLast? := by
      cases members with
      | nil => simp [found] at long
      | cons member members => simp [found]
    rw [last]
    exact plain (Nat.le_of_lt_succ long)

theorem ItemText.read {text : String} (written : ItemText text) : ∃ term, ItemRead text.toList term := by
  cases written with
  | @literal _ value trimmed read =>
    rw [← String.ofList_toList (s := text)] at read
    exact ⟨_, itemRead_literal trimmed read⟩
  | captured proper plain => exact ⟨_, by simpa using itemRead_captured proper plain⟩
  | entity names plain => exact ⟨_, itemRead_entity names plain⟩

/-! Both texts are read. -/

theorem expression_of_test {name : String} {text : List Char} {found : Expression}
    (opens : Opens ['=', '('] text) (negative : Refuses negation text) {limit : Nat}
    (read : test (access name (limit + 1)) text = .done found []) :
    expression name (limit + 1) text = .done found [] := by
  have tested : unary name (limit + 1) text = test (access name (limit + 1)) text := by
    rw [← List.append_nil text] at negative ⊢
    exact unary_test opens negative limit
  have conjoined : Refuses andSign [] := ⟨[], rfl⟩
  have disjoined : Refuses orSign [] := ⟨[], rfl⟩
  rw [expression, disjunction, conjunction, tested, read, andThen_done,
    chain_ends conjoined (Nat.succ_pos limit), andThen_done, chain_ends disjoined (Nat.succ_pos limit)]

section Spellings

variable {path : MemberPath} {item : List Char} {term : List Char → Term}

theorem arguments_item (read : ItemRead item term) {limit : Nat} (covers : item.length < limit) :
    arguments (access defaultParameter limit) limit ('(' :: (item ++ [')'])) =
      .done (some [.plain (term (item ++ [')']))]) [] := by
  have opened : padded (char '(') ('(' :: (item ++ [')'])) = .done () (item ++ [')']) := by
    have solid := (read.opens.solid [')']).skip
    have bracket : padded (char '(') ('(' :: (item ++ [')'])) = .done () (skip (item ++ [')'])) :=
      padded_char .nil rfl (item ++ [')'])
    rwa [solid] at bracket
  have closed : padded (char ')') [')'] = .done () [] := rfl
  have ends : Apart item [')'] := fun _ => .cons (by decide) _
  have argument := read.access ends (by decide) covers
  have alone : separatedTail (padded (char ',')) (access defaultParameter limit) limit [')'] =
      .done [] [')'] := by
    obtain ⟨limit, rfl⟩ := Nat.exists_eq_add_one.mpr (Nat.zero_lt_of_lt covers)
    rfl
  rw [arguments_eq, opened, Outcome.recover, separated_eq, argument, Outcome.recover, alone, map_done,
    andThen_done, closed, commit_done, map_done]

theorem access_call (proper : path.Proper) (read : ItemRead item term) {limit : Nat}
    {text : List Char}
    (spelled : text = '$' :: (dotted (path ++ ["contains"])).toList ++ '(' :: (item ++ [')']))
    (covers : text.length < limit) :
    access defaultParameter limit text =
      .done (.call (.captured path text) "contains" [.plain (term (item ++ [')']))]) [] := by
  let found : Path := { isVariable := true, segments := path ++ ["contains"] }
  have named : found.segments.Proper := by
    refine ⟨by simp [found], fun segment member => ?_⟩
    rcases List.mem_append.mp member with inside | last
    · exact proper.names segment inside
    · rw [List.mem_singleton.mp last]
      decide
  obtain ⟨limit, rfl⟩ := Nat.exists_eq_add_one.mpr (Nat.zero_lt_of_lt covers)
  have lengths : text.length = found.chars.length + (item.length + 2) := by
    simp [spelled, found, Path.chars]
    omega
  have pathRead : Reader.path (limit + 1) text = .done found ('(' :: (item ++ [')'])) := by
    rw [spelled]
    exact path_read named (.cons (by decide) _) (by omega)
  obtain ⟨place, halts⟩ : Refuses (literal (limit + 1)) text := by
    rw [spelled]
    exact literal_refuses (by rintro c ⟨⟩; rfl) (by rintro c ⟨⟩; decide) limit
  -- Arguments are read with what is left of the limit, one level further down.
  have fits : item.length < limit := by omega
  have argument := arguments_item read fits
  rw [access, halts]
  simp [pathRead, found, argument, called, Path.term]

/-- An item and a variable with `in` between them is a test of its own. -/
theorem test_spelled (proper : path.Proper) (plain : path.Plain) (read : ItemRead item term)
    {limit : Nat} {text : List Char}
    (spelled : text = item ++ (" in ".toList ++ '$' :: (dotted path).toList))
    (covers : text.length < limit) :
    test (access defaultParameter limit) text =
      .done (.member (.plain (term text)) (.plain (.captured path ('$' :: (dotted path).toList)))) [] := by
  have lengths : text.length = item.length + ('$' :: (dotted path).toList).length + 4 := by
    simp [spelled]
    omega
  have solid : skip text = text := by
    rw [spelled]
    exact (read.opens.solid _).skip
  have leftRead : padded (access defaultParameter limit) text =
      .done (.plain (term text)) (skip (" in ".toList ++ '$' :: (dotted path).toList)) := by
    apply padded_of_done
    rw [solid, spelled]
    exact read.access (fun _ => .cons (by decide) _) (by rintro ⟨⟩) (by omega)
  have rightRead : padded (access defaultParameter limit) ('$' :: (dotted path).toList) =
      .done (.plain (.captured path ('$' :: (dotted path).toList))) (skip []) := by
    have found : access defaultParameter limit ('$' :: (dotted path).toList ++ []) =
        .done (.plain (.captured path ('$' :: (dotted path).toList ++ []))) [] :=
      (itemRead_captured proper plain).access (fun _ => .nil) (by rintro ⟨⟩) (by omega)
    rw [List.append_nil] at found
    exact padded_of_done found
  exact test_member leftRead (by rintro c ⟨⟩; rfl) rightRead

end Spellings

/-! From the expressions to the predicates. -/

theorem introduces_of_refuses {text : List Char} (refuses : Refuses header text) :
    Introduces text defaultParameter text := by
  obtain ⟨place, halts⟩ := refuses
  refine .inr ⟨fun name body headed => ?_, rfl, rfl⟩
  rw [header_eq_done.mpr headed] at halts
  cases halts

theorem readPredicate_of_test {text : String} {found : Expression} (headless : Refuses header text.toList)
    (opens : Opens ['=', '('] text.toList) (negative : Refuses negation text.toList)
    (read : test (access defaultParameter (text.toList.length + 1)) text.toList = .done found [])
    (scope : Variables) :
    readPredicate text scope = found.predicate scope (byteLength text.toList) := by
  rw [readPredicate_of_introduces (introduces_of_refuses headless),
    expression_of_test opens negative read]
  rfl

theorem dotted_append {path : MemberPath} (nonempty : path ≠ []) (segment : String) :
    (dotted (path ++ [segment])).toList = (dotted path).toList ++ '.' :: segment.toList := by
  obtain ⟨first, rest, rfl⟩ := List.exists_cons_of_ne_nil nonempty
  rw [List.cons_append, toList_dotted, toList_dotted]
  simp [pointed]

section Lowering

variable {path : MemberPath} {item : String} {term : List Char → Term} (proper : path.Proper)
  (read : ItemRead item.toList term) (scope : Variables)
include proper read

theorem readPredicate_call :
    let text := "$" ++ dotted path ++ ".contains(" ++ item ++ ")"
    ∃ place total, readPredicate text scope = (do
      let found ← (term place).operand scope total
      return .member found (← (Term.captured path text.toList).items scope total)) := by
  intro text
  have spelled : text.toList =
      '$' :: (dotted (path ++ ["contains"])).toList ++ '(' :: (item.toList ++ [')']) := by
    rw [dotted_append proper.nonempty]
    simp [text]
  have called := access_call proper read spelled (Nat.lt_succ_self _)
  have tested : test (access defaultParameter (text.toList.length + 1)) text.toList =
      .done (.truth (.call (.captured path text.toList) "contains"
        [.plain (term (item.toList ++ [')']))])) (skip []) := by
    have solid : skip text.toList = text.toList := by
      rw [spelled]
      rfl
    exact test_truth (padded_of_done (by rw [solid, called])) (by rintro c ⟨⟩)
  refine ⟨item.toList ++ [')'], byteLength text.toList, ?_⟩
  rw [readPredicate_of_test _ _ _ tested]
  · rfl
  · rw [spelled]
    exact header_refuses_sign rfl rfl _
  · rw [spelled]
    exact ⟨'$', rfl, by decide⟩
  · rw [spelled]
    exact negation_refuses_sign (by decide) _

theorem readPredicate_in (plain : path.Plain) :
    let text := item ++ " in $" ++ dotted path
    ∃ place total, readPredicate text scope = (do
      let found ← (term text.toList).operand scope total
      return .member found (← (Term.captured path place).items scope total)) := by
  intro text
  have spelled : text.toList = item.toList ++ (" in ".toList ++ '$' :: (dotted path).toList) := by
    simp [text]
  have tested := test_spelled proper plain read spelled (Nat.lt_succ_self _)
  have apart : Apart item.toList (" in ".toList ++ '$' :: (dotted path).toList) :=
    fun _ => .cons (by decide) _
  refine ⟨'$' :: (dotted path).toList, byteLength text.toList, ?_⟩
  rw [readPredicate_of_test _ _ _ tested]
  · rfl
  · rw [spelled]
    exact read.headless apart (tag_refuses (by rintro ⟨⟩) ['>'])
  · rw [spelled]
    exact read.opens.append _
  · rw [spelled]
    exact read.negationless apart

end Lowering

end Reader

/-- Both spellings of membership give the same predicate, or an error of the same kind. -/
theorem readPredicate_spellings {path : MemberPath} (proper : path.Proper) (plain : path.Plain)
    {item : String} (written : Reader.ItemText item) (scope : Variables) :
    let call := readPredicate ("$" ++ dotted path ++ ".contains(" ++ item ++ ")") scope
    let test := readPredicate (item ++ " in $" ++ dotted path) scope
    (∃ found items, call = .ok (.member found items) ∧ test = .ok (.member found items)) ∨
      (∃ place other issue, call = .error (.parse place issue) ∧ test = .error (.parse other issue)) ∨
      ∃ cause, call = .error (.unsupported cause) ∧ test = .error (.unsupported cause) := by
  intro call test
  obtain ⟨term, read⟩ := written.read
  obtain ⟨place, total, called⟩ : ∃ place total, call = _ :=
    Reader.readPredicate_call proper read scope
  obtain ⟨other, length, tested⟩ : ∃ place total, test = _ :=
    Reader.readPredicate_in proper read scope plain
  have same : SameKind call test := by
    rw [called, tested]
    refine ((read.moved _ _).operand scope total length).bind fun found => ?_
    exact ((Term.Moved.captured path _ _).items scope total length).bind fun items => .ok _
  -- What was read is a membership test, and not a comparison that happens to be common to both.
  rcases same.elim with ⟨predicate, callOk, testOk⟩ | failed
  · obtain ⟨found, -, rest⟩ := bind_eq_ok.mp (called.symm.trans callOk)
    obtain ⟨items, -, member⟩ := bind_eq_ok.mp rest
    cases pure_eq_ok.mp member
    exact .inl ⟨found, items, callOk, testOk⟩
  · exact .inr failed

/-- A member with the name of a suffix, which is no suffix behind the entity alone. -/
theorem readPredicate_spellings_member :
    let scope : Variables := { entries := [("known.ids", .list .int [.int 1, .null .int])] }
    ∃ found items,
      readPredicate "$known.ids.contains(x.is_none)" scope = .ok (.member found items) ∧
        readPredicate "x.is_none in $known.ids" scope = .ok (.member found items) := by
  intro scope
  have proper : Proper ["known", "ids"] := ⟨by decide, by decide⟩
  have written : Reader.ItemText (dotted [defaultParameter, "is_none"]) :=
    .entity (by decide) (by decide)
  have read : readPredicate "$known.ids.contains(x.is_none)" scope =
      .ok (.member (.field ["is_none"]) [.int 1, .null .int]) := rfl
  rcases readPredicate_spellings proper (by decide) written scope with
    both | ⟨_, _, _, failed, -⟩ | ⟨_, failed, -⟩
  · exact both
  · cases read.symm.trans failed
  · cases read.symm.trans failed

end WhereClause
