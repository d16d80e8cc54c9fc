import WhereClause.Proofs.Division

/-! Parentheses and connectives of a text.

A text is read from left to right with nothing known but the quotes of some dialects. What is
inside of quoted names is passed over; outside of them the parentheses and the words that join
conditions are collected. A mark of a spelling can be read on its own, since what is written
behind it starts with a character that ends it.
-/

set_option autoImplicit false

namespace WhereClause

open Sql

inductive Joint where
  | opening
  | closing
  | connective (word : Word)
  deriving DecidableEq, Repr

namespace Joint

def ofWord (letters : List Char) : List Joint :=
  if letters = ['A', 'N', 'D'] then [.connective .and]
  else if letters = ['O', 'R'] then [.connective .or]
  else []

@[simp] theorem ofWord_nil : ofWord [] = [] := rfl

def ofChar (c : Char) : List Joint :=
  if c = '(' then [.opening] else if c = ')' then [.closing] else []

end Joint

def closing? (dialects : List Dialect) (c : Char) : Option Char :=
  (dialects.find? fun dialect => dialect.openQuote = c).map Dialect.closeQuote

inductive Place where
  /-- Outside of names, behind the letters and digits of a word. -/
  | outside (letters : List Char)
  /-- In a name that a quote will close. -/
  | inside (close : Char)
  /-- Behind a quote that closes a name, unless the same quote follows. -/
  | behind (close : Char)
  deriving DecidableEq, Repr

namespace Place

def start : Place := .outside []

def stepOutside (dialects : List Dialect) (letters : List Char) (c : Char) : Place × List Joint :=
  match closing? dialects c with
  | some close => (.inside close, Joint.ofWord letters)
  | none =>
    if c.isAlphanum then (.outside (letters ++ [c]), [])
    else (.outside [], Joint.ofWord letters ++ Joint.ofChar c)

/-- Read a character: the place behind it, and the joints that end there. -/
def step (dialects : List Dialect) : Place → Char → Place × List Joint
  | .outside letters, c => stepOutside dialects letters c
  | .inside close, c => (if c = close then .behind close else .inside close, [])
  | .behind close, c => if c = close then (.inside close, []) else stepOutside dialects [] c

def run (dialects : List Dialect) : Place → List Char → Place × List Joint
  | place, [] => (place, [])
  | place, c :: rest =>
    let (next, found) := step dialects place c
    let (last, others) := run dialects next rest
    (last, found ++ others)

end Place

/-- The parentheses and connectives outside of quoted names, unless a name is left open. -/
def joints? (dialects : List Dialect) (text : String) : Option (List Joint) :=
  match Place.start.run dialects text.toList with
  | (.outside letters, found) => some (found ++ Joint.ofWord letters)
  | (.behind _, found) => some found
  | (.inside _, _) => none

namespace Place

variable {dialects : List Dialect}

theorem run_append (place : Place) (first rest : List Char) :
    place.run dialects (first ++ rest) =
      (((place.run dialects first).1.run dialects rest).1,
        (place.run dialects first).2 ++ ((place.run dialects first).1.run dialects rest).2) := by
  induction first generalizing place with
  | nil => simp [run]
  | cons c first ih => simp [run, ih]

theorem closing?_plain {c : Char} (plain : c ∉ quotes) : closing? dialects c = none := by
  simp only [closing?, Option.map_eq_none_iff, List.find?_eq_none, decide_eq_true_eq]
  intro dialect _ opened
  exact plain (opened ▸ dialect.quotes_listed.1)

theorem closing?_openQuote {dialect : Dialect} (known : dialect ∈ dialects) :
    closing? dialects dialect.openQuote = some dialect.closeQuote := by
  have found : (dialects.find? fun other => other.openQuote = dialect.openQuote).isSome := by
    rw [List.find?_isSome]
    exact ⟨dialect, known, by simp⟩
  obtain ⟨other, first⟩ := Option.isSome_iff_exists.mp found
  have opens : other.openQuote = dialect.openQuote := by simpa using List.find?_some first
  have closes : other.closeQuote = dialect.closeQuote := by
    revert opens
    cases other <;> cases dialect <;> decide
  simp [closing?, first, closes]

/-- Text without quotes is read in the same way whatever the dialects are. -/
theorem run_plain {text : List Char} (plain : ∀ c ∈ text, c ∉ quotes) (letters : List Char) :
    run dialects (.outside letters) text = run [] (.outside letters) text := by
  induction text generalizing letters with
  | nil => rfl
  | cons c text ih =>
    have unquoted := plain c List.mem_cons_self
    have rest := ih fun d member => plain d (List.mem_cons_of_mem c member)
    simp only [run, step, stepOutside, closing?_plain unquoted]
    split <;> simp [rest]

/-- Places where nothing is pending that a break would not end. -/
inductive Rests : Place → Prop where
  | outside {letters : List Char} : Joint.ofWord letters = [] → Rests (.outside letters)
  | behind {close : Char} : close ∈ quotes → Rests (.behind close)

theorem Rests.start : Rests start := .outside (by decide)

/-- A break is read at rest as it is read at the start of a text. -/
theorem Rests.run_break {place : Place} (rests : place.Rests) {c : Char} {rest : List Char}
    (stop : Mark.Break (c :: rest)) :
    place.run dialects (c :: rest) = Place.start.run dialects (c :: rest) := by
  have ends : c ∉ quotes ∧ c.isAlphanum = false := by
    rcases stop c rfl with rfl | rfl | rfl <;> decide
  obtain ⟨unquoted, separates⟩ := ends
  have same : place.step dialects c = Place.start.step dialects c := by
    cases rests with
    | outside noWord =>
      simp [step, Place.start, stepOutside, closing?_plain unquoted, separates, noWord]
    | behind quote =>
      have other : c ≠ _ := fun same => unquoted (same ▸ quote)
      simp [step, Place.start, other]
  simp only [run, same]

end Place

def Passes (dialects : List Dialect) (text : List Char) (joints : List Joint) : Prop :=
  ∃ last : Place, last.Rests ∧ Place.start.run dialects text = (last, joints)

namespace Passes

variable {dialects : List Dialect} {first rest : List Char} {joints others : List Joint}

theorem nil : Passes dialects [] [] := ⟨_, .start, rfl⟩

theorem after (leads : Place.start.run dialects first = (.start, joints))
    (passes : Passes dialects rest others) :
    Passes dialects (first ++ rest) (joints ++ others) := by
  obtain ⟨last, rests, read⟩ := passes
  exact ⟨last, rests, by simp only [Place.run_append, leads, read]⟩

theorem append (passes : Passes dialects first joints) (stop : Mark.Break rest)
    (passesRest : Passes dialects rest others) :
    Passes dialects (first ++ rest) (joints ++ others) := by
  obtain ⟨middle, rests, read⟩ := passes
  obtain ⟨last, restsLast, readRest⟩ := passesRest
  cases rest with
  | nil =>
    obtain ⟨rfl, rfl⟩ := Prod.mk.inj readRest
    exact ⟨middle, rests, by simpa using read⟩
  | cons c rest =>
    refine ⟨last, restsLast, ?_⟩
    simp only [Place.run_append, read, rests.run_break stop, readRest]

theorem joints?_eq {text : String} (passes : Passes dialects text.toList joints) :
    joints? dialects text = some joints := by
  obtain ⟨last, rests, read⟩ := passes
  cases rests with
  | outside noWord => simp [joints?, read, noWord]
  | behind _ => simp [joints?, read]

end Passes

def Phrase.joints : Phrase → List Joint
  | .openParen => [.opening]
  | .closeParen => [.closing]
  | .notOpen => [.opening]
  | .connective word => [.connective word]
  | .amongOpen => [.opening]
  | .arrayOpen => [.opening]
  | .tableOpen => [.opening]
  | _ => []

/-- A phrase leads back to the start, or to a word that is no connective if it is loose. -/
theorem Phrase.run_text (dialects : List Dialect) (phrase : Phrase) :
    ∃ letters, Joint.ofWord letters = [] ∧
      ((Mark.fixed phrase).loose = false → letters = []) ∧
      Place.start.run dialects phrase.text.toList = (.outside letters, phrase.joints) := by
  have unquoted : ∀ c ∈ phrase.text.toList, c ∉ quotes := fun c member => (phrase.plain c member).1
  simp only [Place.start, Place.run_plain unquoted]
  cases phrase with
  | connective word => cases word <;> exact ⟨[], by decide, fun _ => rfl, by decide⟩
  | comparison op => cases op <;> exact ⟨[], by decide, fun _ => rfl, by decide⟩
  | nullTest present =>
    cases present <;> exact ⟨['N', 'U', 'L', 'L'], by decide, by simp [Mark.loose], by decide⟩
  | never => exact ⟨['0'], by decide, by simp [Mark.loose], by decide⟩
  | _ => exact ⟨[], by decide, fun _ => rfl, by decide⟩

/-- Reading stays in a name up to its closing quote. -/
theorem Place.run_escapeClosing (dialects : List Dialect) (close : Char) (name : List Char) :
    Place.run dialects (.inside close) (escapeClosing close name ++ [close]) =
      (.behind close, []) := by
  induction name with
  | nil => simp [escapeClosing, run, step]
  | cons c name ih =>
    simp only [escapeClosing] at ih
    by_cases doubled : c = close
    · simp [escapeClosing, doubled, run, step, ih]
    · simp [escapeClosing, doubled, run, step, ih]

theorem Passes.name {dialects : List Dialect} {dialect : Dialect} (known : dialect ∈ dialects)
    (column : String) : Passes dialects (dialect.style.quote column).toList [] := by
  refine ⟨.behind dialect.closeQuote, .behind dialect.quotes_listed.2, ?_⟩
  simp [Dialect.style, quoteWith, Place.run, Place.step, Place.start, Place.stepOutside,
    Place.closing?_openQuote known, Place.run_escapeClosing]

def Jointless (dialects : List Dialect) (placeholder : Nat → String) : Prop :=
  ∀ index, Passes dialects (placeholder index).toList []

theorem Place.run_word {text : List Char} (word : ∀ c ∈ text, c = 'p' ∨ c.isDigit = true)
    (letters : List Char) : run [] (.outside letters) text = (.outside (letters ++ text), []) := by
  induction text generalizing letters with
  | nil => simp [run]
  | cons c text ih =>
    have alphanumeric : c.isAlphanum = true := by
      rcases word c List.mem_cons_self with rfl | digit
      · decide
      · simp [Char.isAlphanum, digit]
    have rest := ih (fun d member => word d (List.mem_cons_of_mem c member)) (letters ++ [c])
    simp [run, step, stepOutside, closing?, alphanumeric, rest]

theorem Joint.ofWord_eq_nil {text : List Char} (word : ∀ c ∈ text, c = 'p' ∨ c.isDigit = true) :
    ofWord text = [] := by
  unfold ofWord
  rw [if_neg, if_neg]
  · rintro rfl
    exact absurd (word 'O' (by simp)) (by decide)
  · rintro rfl
    exact absurd (word 'A' (by simp)) (by decide)

theorem Sql.Marker.Writes.jointless {marker : Marker} {placeholder : Nat → String}
    {token : Nat → Token} (writes : marker.Writes placeholder token) (dialects : List Dialect) :
    Jointless dialects placeholder := by
  intro index
  obtain ⟨sign, listed, text, spelled, word⟩ := writes.spelled index
  have first : sign.isAlphanum = false ∧ Joint.ofChar sign = [] := by
    simp only [signs, List.mem_cons, List.not_mem_nil, or_false] at listed
    rcases listed with rfl | rfl | rfl | rfl <;> decide
  obtain ⟨separates, noJoint⟩ := first
  refine ⟨.outside text, .outside (Joint.ofWord_eq_nil word), ?_⟩
  rw [Place.start, Place.run_plain (writes.unquoted index), spelled]
  simp [Place.run, Place.step, Place.stepOutside, closing?, separates, noJoint,
    Place.run_word word]

def Mark.joints : Mark → List Joint
  | .fixed phrase => phrase.joints
  | _ => []

@[simp] theorem Mark.joints_fixed (phrase : Phrase) : (fixed phrase).joints = phrase.joints := rfl

@[simp] theorem Mark.joints_bound (value : Value) : (bound value).joints = [] := rfl

/-- The joints of a spelling are those of its phrases, whatever its names are. -/
theorem Mark.Orderly.passes {dialects : List Dialect} {dialect : Dialect}
    (known : dialect ∈ dialects) {placeholder : Nat → String}
    (jointless : Jointless dialects placeholder) {marks : List Mark} (orderly : Orderly marks)
    (next : Nat) :
    Passes dialects (textFrom dialect.style.quote placeholder next marks)
      (marks.flatMap Mark.joints) := by
  induction marks generalizing next with
  | nil => exact .nil
  | cons mark marks ih =>
    have rest := ih orderly.tail
    have stop (loose : mark.loose = true) :=
      orderly.break_behind loose dialect.style.quote placeholder
    cases mark with
    | fixed phrase =>
      obtain ⟨letters, noWord, back, read⟩ := phrase.run_text dialects
      cases loose : (Mark.fixed phrase).loose with
      | false =>
        obtain rfl := back loose
        exact .after read (rest next)
      | true => exact .append ⟨_, .outside noWord, read⟩ (stop loose next) (rest next)
    | name column => exact (Passes.name known column).append (stop rfl next) (rest next)
    | bound value => exact (jointless next).append (stop rfl (next + 1)) (rest (next + 1))

end WhereClause
