import WhereClause.Proofs.Accesses
import WhereClause.Proofs.Places
import WhereClause.Proofs.Wording

/-! Why reading stops.

Each round of a reader takes something off the text, so a limit above the length of the text is not
reached. What is left are stops that become errors, and the stop at a call on the entity itself.
That one is made only where the text has the name of the entity, with nothing in front of it that
would make it another name, and an argument list behind it.
-/

set_option autoImplicit false

namespace WhereClause

namespace Outcome

variable {α β : Type}

def Stops (allowed : Halt → Prop) (outcome : Outcome α) : Prop :=
  ∀ reason rest, outcome = .halt reason rest → allowed reason

namespace Stops

variable {allowed : Halt → Prop} {outcome : Outcome α}

theorem done (value : α) (rest : List Char) : (Outcome.done value rest).Stops allowed := by
  intro reason place stopped
  cases stopped

theorem halt {reason : Halt} (known : allowed reason) (rest : List Char) :
    (Outcome.halt reason rest : Outcome α).Stops allowed := by
  rintro _ _ ⟨⟩
  exact known

theorem andThen (stops : outcome.Stops allowed) {next : α → Reader β}
    (step : ∀ value rest, outcome = .done value rest → (next value rest).Stops allowed) :
    (outcome.andThen next).Stops allowed := by
  cases outcome with
  | done value rest => exact step value rest rfl
  | halt reason rest => exact .halt (stops reason rest rfl) rest

theorem map (stops : outcome.Stops allowed) (transform : α → β) :
    (outcome.map transform).Stops allowed :=
  stops.andThen fun value rest _ => .done (transform value) rest

theorem recover (stops : outcome.Stops allowed) {instead : Outcome β}
    (insteadStops : instead.Stops allowed) {next : α → Reader β}
    (step : ∀ value rest, outcome = .done value rest → (next value rest).Stops allowed) :
    (outcome.recover instead next).Stops allowed := by
  cases outcome with
  | done value rest => exact step value rest rfl
  | halt reason rest =>
    have known := stops reason rest rfl
    cases reason with
    | recoverable => exact insteadStops
    | final => exact .halt known rest
    | bareCall => exact .halt known rest
    | tooDeep => exact .halt known rest

theorem commit (stops : outcome.Stops allowed) (final : allowed .final) :
    outcome.commit.Stops allowed := by
  cases outcome with
  | done value rest => exact .done value rest
  | halt reason rest =>
    have known := stops reason rest rfl
    cases reason with
    | recoverable => exact .halt final rest
    | final => exact .halt known rest
    | bareCall => exact .halt known rest
    | tooDeep => exact .halt known rest

end Stops

end Outcome

namespace Reader

open MemberPath

/-! Places where a name can start. -/

/-- A front behind which a name is a name of its own, and neither a variable nor a member. -/
def Clear (front : List Char) : Prop :=
  ∀ c ∈ front.getLast?, isNameChar c = false ∧ c ≠ '$' ∧ c ≠ '.'

def CallsEntity (name : String) (whole : List Char) : Prop :=
  ∃ front gap list rest, whole = front ++ name.toList ++ gap ++ list ++ rest ∧
    Clear front ∧ Gap gap ∧ Arguments (AccessText name) list

section Places

variable {whole : List Char}

theorem Clear.sign (front : List Char) {c : Char}
    (clear : isNameChar c = false ∧ c ≠ '$' ∧ c ≠ '.') : Clear (front ++ [c]) := by
  intro d last
  rw [List.getLast?_concat] at last
  cases last
  exact clear

theorem Clear.gap {front gap : List Char} (clear : Clear front) (blank : Gap gap) :
    Clear (front ++ gap) := by
  rcases List.eq_nil_or_concat gap with rfl | ⟨others, c, rfl⟩
  · simpa using clear
  · have separator := blank c (by simp)
    have apart : ∀ d, Text.isSeparator d = true → d ≠ '$' ∧ d ≠ '.' := by
      intro d known
      constructor <;> (rintro rfl; cases known)
    rw [List.concat_eq_append, ← List.append_assoc]
    exact .sign _ ⟨isNameChar_separator separator, apart c separator⟩

/-- An end of the whole text at which a name, if there is one, is not the end of a longer name and
belongs to neither a variable nor a path. -/
def Fresh (whole text : List Char) : Prop :=
  ∃ front, whole = front ++ text ∧ ((∃ c ∈ text.head?, isNameStart c = true) → Clear front)

theorem Fresh.suffix {text : List Char} (fresh : Fresh whole text) : text <:+ whole := by
  obtain ⟨front, rfl, -⟩ := fresh
  exact ⟨front, rfl⟩

theorem Fresh.skip {text : List Char} (fresh : Fresh whole text) : Fresh whole (skip text) := by
  obtain ⟨front, rfl, clear⟩ := fresh
  obtain ⟨gap, blank, same⟩ := exists_gap text
  cases gap with
  | nil =>
    rw [List.nil_append] at same
    rw [← same]
    exact ⟨front, rfl, clear⟩
  | cons c gap =>
    -- whatever stood in front of it, a name behind white space stands alone
    have last : ((front ++ c :: gap) ++ Reader.skip text) = front ++ text := by
      rw [List.append_assoc, ← same]
    refine ⟨front ++ c :: gap, last.symm, fun _ d member => ?_⟩
    have nonempty : c :: gap ≠ [] := List.cons_ne_nil c gap
    have separated : Clear ([] ++ c :: gap) := Clear.gap (fun e none => by cases none) blank
    apply separated d
    rwa [List.getLast?_append_of_ne_nil _ nonempty] at member

end Places

/-- Reasons to stop: those that become errors, and a call on the entity itself if there is one in
the whole text. -/
inductive Excused (name : String) (whole : List Char) : Halt → Prop where
  | recoverable : Excused name whole .recoverable
  | final : Excused name whole .final
  | bareCall : CallsEntity name whole → Excused name whole .bareCall

section Stopping

variable {α : Type} {name : String} {whole : List Char}

theorem padded_stops {inner : Reader α} {text : List Char}
    (stops : (inner (skip text)).Stops (Excused name whole)) :
    (padded inner text).Stops (Excused name whole) :=
  stops.andThen fun value rest _ => .done value (skip rest)

theorem orElse_stops {first second : Reader α} {text : List Char}
    (firstStops : (first text).Stops (Excused name whole))
    (secondStops : (second text).Stops (Excused name whole)) :
    (orElse first second text).Stops (Excused name whole) := by
  rw [orElse_eq]
  exact firstStops.recover secondStops fun value rest _ => .done value rest

/-- A separator and an item that are read in turns. The separator takes something off and leaves a
text with which an item can start, and the item leaves a text with which the next separator can. -/
structure Rounds (name : String) (whole : List Char) (within start : List Char → Prop)
    (separator : Reader Unit) (item : Reader α) : Prop where
  between : ∀ text, (separator text).Stops (Excused name whole)
  opens : ∀ {text next}, within text → separator text = .done () next →
    start next ∧ next.length < text.length
  each : ∀ {text}, start text → (item text).Stops (Excused name whole)
  leaves : ∀ {text value rest}, start text → item text = .done value rest →
    within rest ∧ rest.length ≤ text.length

namespace Rounds

variable {within start : List Char → Prop} {separator : Reader Unit} {item : Reader α}
  (rounds : Rounds name whole within start separator item)
include rounds

end Rounds

structure Leads (name : String) (whole : List Char) (reader : Reader α) : Prop where
  stops : ∀ text, (reader text).Stops (Excused name whole)
  fresh : ∀ {text value rest}, text <:+ whole → reader text = .done value rest →
    Fresh whole rest ∧ rest.length < text.length

theorem Leads.padded {reader : Reader α} (leads : Leads name whole reader) :
    Leads name whole (padded reader) where
  stops text := padded_stops (leads.stops _)
  fresh := by
    intro text value rest ends read
    obtain ⟨found, place, inner, same⟩ := andThen_eq_done read
    cases same
    obtain ⟨fresh, shorter⟩ := leads.fresh ((skip_suffix text).trans ends) inner
    have before := length_skip_le text
    have behind := length_skip_le place
    exact ⟨fresh.skip, by omega⟩

theorem Leads.orElse {first second : Reader α} (firstLeads : Leads name whole first)
    (secondLeads : Leads name whole second) : Leads name whole (orElse first second) where
  stops text := orElse_stops (firstLeads.stops text) (secondLeads.stops text)
  fresh := by
    intro text value rest ends read
    rcases orElse_eq_done read with read | read
    · exact firstLeads.fresh ends read
    · exact secondLeads.fresh ends read

theorem Leads.rounds {sign : Reader Unit} (leads : Leads name whole sign) {item : Reader α} {limit : Nat}
    (each : ∀ {text}, Fresh whole text → text.length < limit → (item text).Stops (Excused name whole))
    (shortens : ∀ {text found rest}, item text = .done found rest → rest <:+ text) :
    Rounds name whole (fun text => text <:+ whole ∧ text.length < limit)
      (fun text => Fresh whole text ∧ text.length < limit) sign item where
  between := leads.stops
  opens := by
    rintro text next ⟨ends, within⟩ separated
    obtain ⟨fresh, shorter⟩ := leads.fresh ends separated
    exact ⟨⟨fresh, by omega⟩, shorter⟩
  each := fun starts => each starts.1 starts.2
  leaves := by
    rintro text value rest ⟨fresh, within⟩ read
    have ends := shortens read
    exact ⟨⟨ends.trans fresh.suffix, Nat.lt_of_le_of_lt ends.length_le within⟩, ends.length_le⟩

section Connectives

variable {limit : Nat} (each : ∀ {text}, Fresh whole text → text.length < limit →
  (unary name limit text).Stops (Excused name whole))
include each

end Connectives

end Stopping

/-! Headers. -/

def Headed (text : List Char) (name : String) (body : List Char) : Prop :=
  ∃ opening before, Gap opening ∧ Gap before ∧ isIdentifier name = true ∧
    text = opening ++ name.toList ++ before ++ "=>".toList ++ body

/-- The name of the entity and the text that is read with it, which is all of the text if it has no
header. -/
def Introduces (text : List Char) (name : String) (body : List Char) : Prop :=
  Headed text name body ∨
    (∀ other behind, ¬ Headed text other behind) ∧ name = defaultParameter ∧ body = text

theorem header_eq_done {text body : List Char} {name : String} :
    header text = .done name body ↔ Headed text name body := by
  constructor
  · intro read
    obtain ⟨found, rest, named, read⟩ := andThen_eq_done read
    obtain ⟨_, arrow, rfl⟩ := map_eq_done read
    obtain ⟨opening, openingBlank, text_eq⟩ := exists_gap text
    obtain ⟨before, beforeBlank, rest_eq⟩ := exists_gap rest
    refine ⟨opening, before, openingBlank, beforeBlank, identifier_proper named, ?_⟩
    rw [identifier_eq_done named] at text_eq
    rw [tag_eq_done arrow] at rest_eq
    rw [text_eq, rest_eq]
    simp
  · rintro ⟨opening, before, openingBlank, beforeBlank, named, rfl⟩
    have arrow : skip (before ++ ("=>".toList ++ body)) = "=>".toList ++ body := by
      rw [beforeBlank.skip]
      exact Solid.skip (by rintro c ⟨⟩; rfl)
    have breaks : Breaks ("=>".toList ++ body) := .cons (by decide) _
    have ends := (beforeBlank.breaks breaks).ends
    simp only [List.append_assoc]
    rw [header_gap openingBlank, header_eq named ends, arrow, tag_append, map_done]

end Reader

/-! From the stop to the error. -/

section Lowering

variable {α β : Type} {scope : Variables} {total : Nat}

inductive Reports : Except Error α → Prop where
  | ok (value : α) : Reports (.ok value)
  | parse (position : Nat) (issue : ReadIssue) : Reports (.error (.parse position issue))
  | unsupported (cause : Unsupported) : Reports (.error (.unsupported cause))

theorem Reports.bind {outcome : Except Error α} {next : α → Except Error β} (reports : Reports outcome)
    (nextReports : ∀ value, Reports (next value)) : Reports (outcome >>= next) := by
  cases reports with
  | ok value => exact nextReports value
  | parse position issue => exact .parse position issue
  | unsupported cause => exact .unsupported cause

end Lowering

open Reader

theorem Reader.Introduces.length_le {text body : List Char} {name : String}
    (introduces : Introduces text name body) : body.length ≤ text.length := by
  rcases introduces with ⟨opening, before, -, -, -, rfl⟩ | ⟨-, -, rfl⟩
  · simp only [List.length_append]
    omega
  · exact Nat.le_refl _

theorem readPredicate_of_introduces {text name : String} {body : List Char}
    (introduces : Introduces text.toList name body) (scope : Variables) :
    readPredicate text scope =
      match expression name (text.toList.length + 1) body with
      | .halt reason rest => .error (.ofHalt (byteLength text.toList) reason rest)
      | .done found rest =>
        if (skip rest).isEmpty then found.predicate scope (byteLength text.toList)
        else .error (.parse (byteLength text.toList - byteLength (skip rest))
          (.trailing (String.ofList (skip rest)))) := by
  delta readPredicate
  dsimp only
  rcases introduces with headed | ⟨headless, rfl, rfl⟩
  · have read := header_eq_done.mpr headed
    generalize header text.toList = found at read ⊢
    subst read
    rfl
  · cases read : header text.toList with
    | done other behind => exact absurd (header_eq_done.mp read) (headless other behind)
    | halt reason place => rfl

end WhereClause
