import WhereClause.Proofs.Remainder
import WhereClause.Proofs.Success

/-! Places of errors.

Readers leave ends of the text, so an error is counted in bytes up to where a character starts, and
what it says is read off the text from there on. The name of a variable is looked up only after the
whole text has been read; its error points back to it.
-/

set_option autoImplicit false

namespace WhereClause

def ReadIssue.Describes (scope : Variables) (place : List Char) : ReadIssue → Prop
  | .endOfInput => place = []
  | .near shown => place ≠ [] ∧ shown = String.ofList (place.take 16)
  | .trailing shown => place ≠ [] ∧ shown = String.ofList place
  | .unknownVariable name => '$' :: name.toList <+: place ∧ scope.get? name = none

/-- An error of reading, if there is one, points to an end of the whole text that it describes. -/
def Points {α : Type} (scope : Variables) (whole : List Char) (outcome : Except Error α) : Prop :=
  ∀ position issue, outcome = .error (.parse position issue) →
    ∃ place, place <:+ whole ∧ position = byteLength whole - byteLength place ∧
      issue.Describes scope place

section Lowering

variable {α β : Type} {scope : Variables} {whole : List Char}

theorem Points.ok (value : α) : Points scope whole (.ok value) := by
  intro position issue failed
  cases failed

theorem Points.unsupported (cause : Unsupported) :
    Points scope whole (.error (.unsupported cause) : Except Error α) := by
  intro position issue failed
  cases failed

theorem Points.bind {outcome : Except Error α} {next : α → Except Error β}
    (points : Points scope whole outcome) (nextPoints : ∀ value, Points scope whole (next value)) :
    Points scope whole (outcome >>= next) := by
  intro position issue failed
  rcases bind_eq_error.mp failed with failed | ⟨value, _, failed⟩
  · exact points position issue failed
  · exact nextPoints value position issue failed

theorem Points.trailing {rest : List Char} (ends : rest <:+ whole) (remains : rest ≠ []) :
    Points scope whole (.error (.parse (byteLength whole - byteLength rest)
      (.trailing (String.ofList rest))) : Except Error α) := by
  intro position issue failed
  cases failed
  exact ⟨rest, ends, rfl, remains, rfl⟩

theorem Points.ofHalt (reason : Halt) {rest : List Char} (ends : rest <:+ whole) :
    Points scope whole (.error (.ofHalt (byteLength whole) reason rest) : Except Error α) := by
  intro position issue failed
  unfold Error.ofHalt at failed
  split at failed
  · cases failed
  · cases failed
    refine ⟨rest, ends, rfl, ?_⟩
    cases rest with
    | nil => rfl
    | cons c rest => exact ⟨by simp, rfl⟩

/-- A variable is looked up last, and one that is missing points back to where it was read. -/
theorem Term.operand_points {term : Term} (placed : term.Placed whole) :
    Points scope whole (term.operand scope (byteLength whole)) := by
  cases term with
  | entity => exact .unsupported _
  | field path => exact .ok _
  | literal value => exact .ok _
  | captured path place =>
    simp only [Term.operand]
    split
    · exact .ok _
    · next missing =>
      intro position issue failed
      cases failed
      exact ⟨place, placed.1, rfl, placed.2, missing⟩

theorem Term.items_points {term : Term} (placed : term.Placed whole) :
    Points scope whole (term.items scope (byteLength whole)) := by
  apply (operand_points placed).bind
  intro operand
  split
  · exact .ok _
  · exact .ok _
  · exact .unsupported _

namespace Access

variable {access : Access} (placed : access.Placed whole)

include placed

theorem term_points {next : Term → Except Error α}
    (each : ∀ term : Term, term.Placed whole → Points scope whole (next term)) :
    Points scope whole (access.term >>= next) := by
  cases placed with
  | @plain term termPlaced => exact each term termPlaced
  | hasValue => exact .unsupported _
  | isNone => exact .unsupported _
  | call => exact .unsupported _

theorem operand_points : Points scope whole (access.operand scope (byteLength whole)) :=
  term_points placed fun _ => Term.operand_points

theorem items_points : Points scope whole (access.items scope (byteLength whole)) :=
  term_points placed fun _ => Term.items_points

theorem truth_points : Points scope whole (access.truth scope (byteLength whole)) := by
  cases placed with
  | plain placed => exact (Term.operand_points placed).bind fun _ => .ok _
  | hasValue placed => exact (Term.operand_points placed).bind fun _ => .ok _
  | isNone placed => exact (Term.operand_points placed).bind fun _ => .ok _
  | @call term method arguments placed argumentsPlaced =>
    unfold Access.truth
    split
    · next same => cases same
    · next same => cases same
    · next same => cases same
    · next item same =>
      cases same
      apply (operand_points (argumentsPlaced item (by simp))).bind
      intro _
      exact (Term.items_points placed).bind fun _ => .ok _
    · exact .unsupported _

end Access

theorem Expression.predicate_points {expression : Expression} (placed : expression.Placed whole) :
    Points scope whole (expression.predicate scope (byteLength whole)) := by
  induction expression with
  | compare op left right =>
    apply (Access.operand_points placed.1).bind
    intro _
    exact (Access.operand_points placed.2).bind fun _ => .ok _
  | not inner ih => exact (ih placed).bind fun _ => .ok _
  | and left right leftIh rightIh =>
    apply (leftIh placed.1).bind
    intro _
    exact (rightIh placed.2).bind fun _ => .ok _
  | or left right leftIh rightIh =>
    apply (leftIh placed.1).bind
    intro _
    exact (rightIh placed.2).bind fun _ => .ok _
  | member item collection =>
    apply (Access.operand_points placed.1).bind
    intro _
    exact (Access.items_points placed.2).bind fun _ => .ok _
  | truth access => exact Access.truth_points placed

theorem readPredicate_points (text : String) (scope : Variables) :
    Points scope text.toList (readPredicate text scope) := by
  unfold readPredicate
  extract_lets chars total
  split
  next parameter body start =>
    -- the body is what a header leaves, or the whole text
    have ends : body <:+ chars := by
      split at start
      · next name rest headed =>
        obtain ⟨-, rfl⟩ := Prod.mk.inj start
        exact ((Reader.header_stays chars List.suffix_rfl).of_done headed).2
      · obtain ⟨-, rfl⟩ := Prod.mk.inj start
        exact List.suffix_rfl
    have within := Reader.expression_stays parameter (chars.length + 1) body ends
    split
    · next reason rest stopped => exact .ofHalt reason (within.of_halt stopped)
    · next expression rest read =>
      obtain ⟨placed, restEnds⟩ := within.of_done read
      have skipped : Reader.skip rest <:+ chars := (Reader.skip_suffix rest).trans restEnds
      extract_lets rest
      split
      · exact Expression.predicate_points placed
      · next remains => exact .trailing skipped fun nothing => remains (by simp [nothing])

theorem readLiteral_points (text : String) (scope : Variables) :
    Points scope text.toList (readLiteral text) := by
  unfold readLiteral
  extract_lets chars total
  have start : Text.trimStart chars <:+ chars := List.dropWhile_suffix _
  have within := Reader.literal_stays (chars.length + 1) _ start
  split
  · next value rest read =>
    obtain ⟨-, restEnds⟩ := within.of_done read
    split
    · exact .ok _
    · next remains => exact .trailing restEnds fun nothing => remains (by rw [nothing]; rfl)
  · next reason rest stopped => exact .ofHalt reason (within.of_halt stopped)

end Lowering

theorem utf8ByteSize_ofList (chars : List Char) :
    (String.ofList chars).utf8ByteSize = byteLength chars := by
  induction chars with
  | nil => rfl
  | cons c chars ih => simp [String.ofList_cons, ih, byteLength]

theorem byteLength_append (front back : List Char) :
    byteLength (front ++ back) = byteLength front + byteLength back := by
  simp [← utf8ByteSize_ofList, String.ofList_append, String.utf8ByteSize_append]

theorem Points.split {α : Type} {scope : Variables} {text : String} {outcome : Except Error α}
    (points : Points scope text.toList outcome) {position : Nat} {issue : ReadIssue}
    (failed : outcome = .error (.parse position issue)) :
    ∃ front rest : String, text = front ++ rest ∧ front.utf8ByteSize = position ∧
      issue.Describes scope rest.toList := by
  obtain ⟨place, ⟨front, same⟩, rfl, describes⟩ := points position issue failed
  refine ⟨String.ofList front, String.ofList place, ?_, ?_, ?_⟩
  · rw [← String.ofList_append, same, String.ofList_toList]
  · rw [utf8ByteSize_ofList, ← same, byteLength_append]
    omega
  · rw [String.toList_ofList]
    exact describes

namespace ReadIssue

theorem message_endOfInput : endOfInput.message = "unexpected end of input" := rfl

theorem message_near (shown : String) :
    (near shown).message = "unexpected input near '" ++ shown ++ "'" := rfl

theorem message_trailing (shown : String) :
    (trailing shown).message = "Unexpected trailing content: '" ++ shown ++ "'" := rfl

theorem message_unknownVariable (name : String) :
    (unknownVariable name).message = "unknown variable '$" ++ name ++ "'" := rfl

theorem message_injective : Function.Injective message := by
  intro first second same
  rw [← String.toList_inj] at same
  cases first <;> cases second <;>
    simp [message_endOfInput, message_near, message_trailing, message_unknownVariable] at same ⊢
  all_goals exact String.toList_inj.mp same

end ReadIssue

/-- An error of reading points to where a character of the text starts, or to its end. What it shows
is the text from there on, and a variable that it calls unknown is written there. -/
theorem error_points_to_text (text : String) (scope : Variables) (position : Nat) (issue : ReadIssue)
    (failed : readPredicate text scope = .error (.parse position issue) ∨
      readLiteral text = .error (.parse position issue)) :
    position ≤ text.utf8ByteSize ∧ (⟨position⟩ : String.Pos.Raw).IsValid text ∧
      ∃ front rest, text = front ++ rest ∧ front.utf8ByteSize = position ∧
        (∀ shown, issue.message = "unexpected input near '" ++ shown ++ "'" →
          rest ≠ "" ∧ shown = String.ofList (rest.toList.take 16)) ∧
        (issue.message = "unexpected end of input" → position = text.utf8ByteSize) ∧
        (∀ shown, issue.message = "Unexpected trailing content: '" ++ shown ++ "'" →
          shown ≠ "" ∧ shown = rest) ∧
        ∀ name, issue.message = "unknown variable '$" ++ name ++ "'" →
          (∃ behind, rest = "$" ++ name ++ behind) ∧ scope.get? name = none := by
  have parts : ∃ front rest : String, text = front ++ rest ∧ front.utf8ByteSize = position ∧
      issue.Describes scope rest.toList := by
    rcases failed with failed | failed
    · exact (readPredicate_points text scope).split failed
    · exact (readLiteral_points text scope).split failed
  obtain ⟨front, rest, rfl, rfl, describes⟩ := parts
  have size : (front ++ rest).utf8ByteSize = front.utf8ByteSize + rest.utf8ByteSize :=
    String.utf8ByteSize_append
  refine ⟨by omega, String.Pos.Raw.isValid_iff_exists_append.mpr ⟨front, rest, rfl, rfl⟩,
    front, rest, rfl, rfl, ?_, ?_, ?_, ?_⟩
  · intro shown worded
    obtain rfl : issue = .near shown := ReadIssue.message_injective worded
    exact ⟨fun nothing => describes.1 (String.toList_eq_nil_iff.mpr nothing), describes.2⟩
  · intro worded
    obtain rfl : issue = .endOfInput := ReadIssue.message_injective worded
    obtain rfl : rest = "" := String.toList_eq_nil_iff.mp describes
    simp
  · intro shown worded
    obtain rfl : issue = .trailing shown := ReadIssue.message_injective worded
    obtain rfl : shown = rest := describes.2.trans String.ofList_toList
    exact ⟨fun nothing => describes.1 (String.toList_eq_nil_iff.mpr nothing), rfl⟩
  · intro name worded
    obtain rfl : issue = .unknownVariable name := ReadIssue.message_injective worded
    obtain ⟨⟨behind, same⟩, missing⟩ := describes
    refine ⟨⟨String.ofList behind, String.toList_inj.mp ?_⟩, missing⟩
    simp [← same]

-- a character of two bytes stands in front of the variable, and a test suffix behind it
theorem error_points_to_text_variable :
    readPredicate "x.name == \"é\" && $b.c.is_none" .empty =
        .error (.parse 18 (.unknownVariable "b.c")) ∧
      (⟨18⟩ : String.Pos.Raw).IsValid "x.name == \"é\" && $b.c.is_none" ∧
      ∃ front rest behind, "x.name == \"é\" && $b.c.is_none" = front ++ rest ∧
        front.utf8ByteSize = 18 ∧ rest = "$" ++ "b.c" ++ behind := by
  have failed : readPredicate "x.name == \"é\" && $b.c.is_none" .empty =
      .error (.parse 18 (.unknownVariable "b.c")) := rfl
  obtain ⟨_, boundary, front, rest, split, size, _, _, _, unknown⟩ :=
    error_points_to_text _ _ _ _ (.inl failed)
  obtain ⟨⟨behind, starts⟩, _⟩ := unknown "b.c" rfl
  exact ⟨failed, boundary, front, rest, behind, split, size, starts⟩

end WhereClause
