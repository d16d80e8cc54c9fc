import WhereClause.Proofs.Evaluation

/-! Texts cut at their quoted names.

The cut knows nothing but the quotes of a dialect. Of a spelled condition it leaves the phrases
and the placeholders outside of the names, with no quote in them and with each placeholder
ended by what is written behind it.
-/

set_option autoImplicit false

namespace WhereClause

open Sql

/-- A text cut at its quoted names: the text in front of the first, and each name with the text
behind it. -/
structure Division where
  front : List Char
  named : List (String × List Char)

namespace Division

def names (division : Division) : List String := division.named.map (·.1)

def outside (division : Division) : List (List Char) :=
  division.front :: division.named.map (·.2)

def after (text : List Char) (division : Division) : Division :=
  { division with front := text ++ division.front }

def behind (name : String) (division : Division) : Division where
  front := []
  named := (name, division.front) :: division.named

theorem outside_after {first second : Division} (same : first.outside = second.outside)
    (text : List Char) : (first.after text).outside = (second.after text).outside := by
  obtain ⟨fronts, parts⟩ := List.cons.inj same
  simp only [outside, after, fronts, parts]

/-- Whatever the name is, the same text is outside of it. -/
theorem outside_behind {first second : Division} (same : first.outside = second.outside)
    (name other : String) : (first.behind name).outside = (second.behind other).outside :=
  congrArg ([] :: ·) same

end Division

/-- Cut a text of at most `limit` characters at its quoted names. An opening quote starts a
name, and a closing quote that is not doubled ends it. -/
def divideWithin (dialect : Dialect) : (limit : Nat) → List Char → Option Division
  | _, [] => some { front := [], named := [] }
  | 0, _ => none
  | limit + 1, c :: rest =>
    if c = dialect.openQuote then do
      let (name, after) ← scanName dialect.closeQuote rest
      return (← divideWithin dialect limit after).behind (String.ofList name)
    else do
      return (← divideWithin dialect limit rest).after [c]

def divide (dialect : Dialect) (text : String) : Option Division :=
  divideWithin dialect text.length text.toList

def placeholdersIn (marker : Marker) : List Char → List String
  | [] => []
  | c :: rest =>
    match scanMarker marker (c :: rest) with
    | some (_, after) =>
      String.ofList ((c :: rest).take (rest.length + 1 - after.length)) ::
        placeholdersIn marker rest
    | none => placeholdersIn marker rest

def quotes : List Char := ['[', ']', '`', '"']

def Plain (text : List Char) : Prop := ∀ c ∈ text, c ∉ quotes ∧ c ∉ signs

instance (text : List Char) : Decidable (Plain text) :=
  decidable_of_iff (text.all fun c => decide (c ∉ quotes ∧ c ∉ signs)) (by
    simp only [List.all_eq_true, decide_eq_true_eq]
    rfl)

theorem Phrase.plain (phrase : Phrase) : Plain phrase.text.toList := by
  cases phrase with
  | connective word => cases word <;> decide
  | comparison op => cases op <;> decide
  | nullTest present => cases present <;> decide
  | _ => decide

def Divides (dialect : Dialect) (text : List Char) (division : Division) : Prop :=
  ∀ limit, text.length ≤ limit → divideWithin dialect limit text = some division

namespace Divides

variable {dialect : Dialect} {rest : List Char} {division : Division}

theorem nil : Divides dialect [] { front := [], named := [] } := by
  intro limit _
  cases limit <;> rfl

theorem after {text : List Char} (divides : Divides dialect rest division)
    (unopened : ∀ c ∈ text, c ≠ dialect.openQuote) :
    Divides dialect (text ++ rest) (division.after text) := by
  induction text with
  | nil => exact divides
  | cons c text ih =>
    have behind := ih fun d member => unopened d (List.mem_cons_of_mem c member)
    intro limit enough
    cases limit with
    | zero => simp at enough
    | succ limit =>
      have divided := behind limit (by simpa using enough)
      simp [divideWithin, unopened c (by simp), divided, Division.after]

theorem behind (name : String) (divides : Divides dialect rest division)
    (ends : ∀ c ∈ rest.head?, c ≠ dialect.closeQuote) :
    Divides dialect ((dialect.style.quote name).toList ++ rest) (division.behind name) := by
  have quoted : (dialect.style.quote name).toList ++ rest = dialect.openQuote ::
      (escapeClosing dialect.closeQuote name.toList ++ dialect.closeQuote :: rest) := by
    simp [Dialect.style, quoteWith]
  intro limit enough
  rw [quoted] at enough ⊢
  cases limit with
  | zero => simp at enough
  | succ limit =>
    have divided := divides limit (by simp at enough; omega)
    simp [divideWithin, scanName_escapeClosing ends, divided]

end Divides

namespace Mark

def divisionFrom (placeholder : Nat → String) : (next : Nat) → List Mark → Division
  | _, [] => { front := [], named := [] }
  | next, .fixed phrase :: rest => (divisionFrom placeholder next rest).after phrase.text.toList
  | next, .name column :: rest => (divisionFrom placeholder next rest).behind column
  | next, .bound _ :: rest =>
    (divisionFrom placeholder (next + 1) rest).after (placeholder next).toList

end Mark

theorem Sql.Marker.Writes.unquoted {marker : Marker} {placeholder : Nat → String}
    {token : Nat → Token} (writes : marker.Writes placeholder token) (index : Nat) :
    ∀ c ∈ (placeholder index).toList, c ∉ quotes := by
  obtain ⟨sign, listed, text, spelled, rest⟩ := writes.spelled index
  intro c member quote
  rw [spelled] at member
  have other : c ∈ signs ∨ c = 'p' ∨ c.isDigit = true := by
    rcases List.mem_cons.mp member with rfl | member
    · exact .inl listed
    · exact .inr (rest c member)
  simp only [quotes, List.mem_cons, List.not_mem_nil, or_false] at quote
  rcases quote with rfl | rfl | rfl | rfl <;> simp [signs] at other

theorem Dialect.quotes_listed (dialect : Dialect) :
    dialect.openQuote ∈ quotes ∧ dialect.closeQuote ∈ quotes := by
  cases dialect <;> decide

namespace Mark

theorem Orderly.divides {marker : Marker} {placeholder : Nat → String} {token : Nat → Token}
    (writes : marker.Writes placeholder token) (dialect : Dialect)
    {marks : List Mark} (orderly : Orderly marks) (next : Nat) :
    Divides dialect (textFrom dialect.style.quote placeholder next marks)
      (divisionFrom placeholder next marks) := by
  have unopened : ∀ text : List Char, (∀ c ∈ text, c ∉ quotes) →
      ∀ c ∈ text, c ≠ dialect.openQuote := by
    rintro text plain c member rfl
    exact plain _ member dialect.quotes_listed.1
  induction marks generalizing next with
  | nil => exact .nil
  | cons mark marks ih =>
    cases mark with
    | fixed phrase =>
      exact (ih orderly.tail next).after (unopened _ fun c member => (phrase.plain c member).1)
    | name column =>
      have stop := orderly.break_behind rfl dialect.style.quote placeholder next
      refine (ih orderly.tail next).behind column fun c member same => ?_
      exact dialect.closeQuote_apart (same ▸ by simpa using stop c member)
    | bound value => exact (ih orderly.tail (next + 1)).after (unopened _ (writes.unquoted next))

end Mark

namespace Division

def Unquoted (division : Division) : Prop := ∀ part ∈ division.outside, ∀ c ∈ part, c ∉ quotes

theorem Unquoted.after {division : Division} (unquoted : division.Unquoted) {text : List Char}
    (plain : ∀ c ∈ text, c ∉ quotes) : (division.after text).Unquoted := by
  intro part member c found
  rcases List.mem_cons.mp member with rfl | member
  · rcases List.mem_append.mp found with found | found
    · exact plain c found
    · exact unquoted division.front (by simp [outside]) c found
  · exact unquoted part (List.mem_cons_of_mem _ member) c found

theorem Unquoted.behind {division : Division} (unquoted : division.Unquoted) (name : String) :
    (division.behind name).Unquoted := by
  intro part member c found
  rcases List.mem_cons.mp member with rfl | member
  · cases found
  · exact unquoted part member c found

def placeholders (marker : Marker) (division : Division) : List String :=
  division.outside.flatMap (placeholdersIn marker)

end Division

section

variable {lexicon : Lexicon} {placeholder : Nat → String} {token : Nat → Token}

theorem placeholdersIn_append (apart : lexicon.Apart) {text : List Char}
    (unsigned : ∀ c ∈ text, c ∉ signs) (rest : List Char) :
    placeholdersIn lexicon.marker (text ++ rest) = placeholdersIn lexicon.marker rest := by
  induction text with
  | nil => rfl
  | cons c text ih =>
    have unmarked := apart.unmarked c (unsigned c (by simp)) (text ++ rest)
    simp only [List.cons_append, placeholdersIn, unmarked]
    exact ih fun d member => unsigned d (List.mem_cons_of_mem c member)

theorem placeholdersIn_marker (apart : lexicon.Apart)
    (writes : lexicon.marker.Writes placeholder token) (index : Nat) {rest : List Char}
    (stop : Mark.Break rest) :
    placeholdersIn lexicon.marker ((placeholder index).toList ++ rest) =
      placeholder index :: placeholdersIn lexicon.marker rest := by
  have read := writes.read index rest stop
  obtain ⟨sign, listed, text, spelled, inside⟩ := writes.spelled index
  -- the search goes on inside the placeholder, where no other one starts
  have unsigned : ∀ c ∈ text, c ∉ signs := by
    intro c member sign
    have kind := inside c member
    simp only [signs, List.mem_cons, List.not_mem_nil, or_false] at sign
    rcases sign with rfl | rfl | rfl | rfl <;> simp at kind
  have written : String.ofList (sign :: text) = placeholder index := by
    rw [← spelled, String.ofList_toList]
  rw [spelled, List.cons_append] at read ⊢
  have consumed : (text ++ rest).length + 1 - rest.length = text.length + 1 := by simp; omega
  simp only [placeholdersIn, read, consumed, placeholdersIn_append apart unsigned rest,
    List.take_succ_cons, List.take_left, written]

namespace Division

theorem placeholders_after (apart : lexicon.Apart) {text : List Char}
    (unsigned : ∀ c ∈ text, c ∉ signs) (division : Division) :
    (division.after text).placeholders lexicon.marker = division.placeholders lexicon.marker := by
  simp [placeholders, outside, after, placeholdersIn_append apart unsigned]

theorem placeholders_behind (marker : Marker) (name : String) (division : Division) :
    (division.behind name).placeholders marker = division.placeholders marker := by
  simp [placeholders, outside, behind, placeholdersIn]

theorem placeholders_marker (apart : lexicon.Apart)
    (writes : lexicon.marker.Writes placeholder token) (index : Nat) {division : Division}
    (stop : Mark.Break division.front) :
    (division.after (placeholder index).toList).placeholders lexicon.marker =
      placeholder index :: division.placeholders lexicon.marker := by
  simp [placeholders, outside, after, placeholdersIn_marker apart writes index stop]

end Division

namespace Mark

theorem unquoted_divisionFrom (writes : lexicon.marker.Writes placeholder token)
    (marks : List Mark) (next : Nat) : (divisionFrom placeholder next marks).Unquoted := by
  induction marks generalizing next with
  | nil =>
    intro part member c found
    cases List.mem_singleton.mp member
    cases found
  | cons mark marks ih =>
    cases mark with
    | fixed phrase => exact (ih next).after fun c member => (phrase.plain c member).1
    | name column => exact (ih next).behind column
    | bound value => exact (ih (next + 1)).after (writes.unquoted next)

/-- The text behind a loose mark, up to the next name, is a break. -/
theorem Orderly.break_front {mark : Mark} {marks : List Mark} (orderly : Orderly (mark :: marks))
    (loose : mark.loose = true) (placeholder : Nat → String) (next : Nat) :
    Break (divisionFrom placeholder next marks).front := by
  cases marks with
  | nil => intro c member; cases member
  | cons follower marks =>
    have breaks := orderly.head loose follower rfl
    cases follower with
    | fixed phrase => exact breaks_phrase breaks _
    | name column => cases breaks
    | bound value => cases breaks

theorem Orderly.placeholders (apart : lexicon.Apart)
    (writes : lexicon.marker.Writes placeholder token) {marks : List Mark}
    (orderly : Orderly marks) (next : Nat) :
    (divisionFrom placeholder next marks).placeholders lexicon.marker =
      (List.range' next (values marks).length).map placeholder := by
  induction marks generalizing next with
  | nil => rfl
  | cons mark marks ih =>
    cases mark with
    | fixed phrase =>
      have unsigned : ∀ c ∈ phrase.text.toList, c ∉ signs :=
        fun c member => (phrase.plain c member).2
      exact (Division.placeholders_after apart unsigned _).trans (ih orderly.tail next)
    | name column =>
      exact (Division.placeholders_behind lexicon.marker column _).trans (ih orderly.tail next)
    | bound value =>
      have stop := orderly.break_front rfl placeholder (next + 1)
      rw [divisionFrom, Division.placeholders_marker apart writes next stop,
        ih orderly.tail (next + 1), values, List.length_cons, List.range'_succ, List.map_cons]

end Mark

end

end WhereClause
