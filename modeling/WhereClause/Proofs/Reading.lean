import Mathlib.Data.List.TakeWhile
import Mathlib.Tactic.IntervalCases
import WhereClause.Reader.Token

/-! Reading from the front of a text.

What the small readers make of a text that starts with what they look for, whatever stands
behind it, and which texts they leave to the next reader. A run of letters, numerals and
underscores is read as a whole, so words and names must be kept apart.
-/

set_option autoImplicit false

namespace WhereClause

/-- A run of characters of one kind ends where the text behind it is of another kind. -/
theorem span_run {kind : Char → Bool} {run rest : List Char} (inside : ∀ c ∈ run, kind c = true)
    (ends : ∀ c ∈ rest.head?, kind c = false) :
    (run ++ rest).takeWhile kind = run ∧ (run ++ rest).dropWhile kind = rest := by
  rw [List.takeWhile_append_of_pos inside, List.dropWhile_append_of_pos inside]
  cases rest with
  | nil => simp
  | cons c rest => simp [ends c rfl]

namespace Reader

/-! Quantifiers over the characters of a text are decided along the text, and not over all
characters there are. -/

namespace Bounded

variable (kind : Char → Prop) [DecidablePred kind]

scoped instance (priority := 1100) forallText (text : List Char) : Decidable (∀ c ∈ text, kind c) :=
  List.decidableBAll kind text

scoped instance (priority := 1100) forallFirst (first : Option Char) : Decidable (∀ c ∈ first, kind c) :=
  Option.decidableForallMem first

scoped instance (priority := 1100) existsFirst (first : Option Char) : Decidable (∃ c ∈ first, kind c) :=
  Option.decidableExistsMem first

end Bounded

open Bounded

def Gap (text : List Char) : Prop := ∀ c ∈ text, Text.isSeparator c = true

instance (text : List Char) : Decidable (Gap text) :=
  inferInstanceAs (Decidable (∀ c ∈ text, Text.isSeparator c = true))

def Solid (text : List Char) : Prop := ∀ c ∈ text.head?, Text.isSeparator c = false

theorem Gap.nil : Gap [] := by decide

theorem Gap.blank : Gap [' '] := by decide

theorem Gap.append {first rest : List Char} (firstBlank : Gap first) (restBlank : Gap rest) :
    Gap (first ++ rest) := by
  intro c member
  rcases List.mem_append.mp member with inFirst | inRest
  · exact firstBlank c inFirst
  · exact restBlank c inRest

theorem Solid.skip {text : List Char} (solid : Solid text) : skip text = text := by
  cases text with
  | nil => rfl
  | cons c rest => simp [Reader.skip, solid c rfl]

theorem Gap.skip {gap : List Char} (blank : Gap gap) (text : List Char) :
    skip (gap ++ text) = skip text :=
  List.dropWhile_append_of_pos blank

theorem solid_skip (text : List Char) : Solid (skip text) := by
  have first := List.head?_dropWhile_not Text.isSeparator text
  intro c member
  rw [skip] at member
  rwa [show (text.dropWhile Text.isSeparator).head? = some c from member] at first

theorem exists_gap (text : List Char) : ∃ gap, Gap gap ∧ text = gap ++ skip text :=
  ⟨text.takeWhile Text.isSeparator, fun _ member => List.mem_takeWhile_imp member,
    List.takeWhile_append_dropWhile.symm⟩

theorem length_skip_le (text : List Char) : (skip text).length ≤ text.length :=
  (List.dropWhile_suffix _).length_le

/-- A text that starts with something other than white space and the excluded characters. -/
def Opens (excluded : List Char) (text : List Char) : Prop :=
  ∃ c ∈ text.head?, Text.isSeparator c = false ∧ c ∉ excluded

namespace Opens

variable {excluded text : List Char}

theorem ne_nil (opens : Opens excluded text) : text ≠ [] := by
  rintro rfl
  obtain ⟨c, first, -⟩ := opens
  cases first

theorem solid (opens : Opens excluded text) (rest : List Char) : Solid (text ++ rest) := by
  obtain ⟨c, first, separate, -⟩ := opens
  obtain ⟨more, rfl⟩ := List.head?_eq_some_iff.mp first
  rintro d ⟨⟩
  exact separate

theorem head_ne (opens : Opens excluded text) {c : Char} (known : c ∈ excluded) (rest : List Char) :
    (text ++ rest).head? ≠ some c := by
  obtain ⟨d, first, -, other⟩ := opens
  obtain ⟨more, rfl⟩ := List.head?_eq_some_iff.mp first
  rintro ⟨⟩
  exact other known

theorem append (opens : Opens excluded text) (rest : List Char) : Opens excluded (text ++ rest) := by
  obtain ⟨c, first, starts⟩ := opens
  obtain ⟨more, rfl⟩ := List.head?_eq_some_iff.mp first
  exact ⟨c, rfl, starts⟩

theorem mono (opens : Opens excluded text) {fewer : List Char} (subset : fewer ⊆ excluded) :
    Opens fewer text := by
  obtain ⟨c, first, separate, other⟩ := opens
  exact ⟨c, first, separate, fun known => other (subset known)⟩

end Opens

/-! Names and words. -/

/-- A text before which a name ends: it starts with no name character and no point. -/
def Breaks (text : List Char) : Prop := ∀ c ∈ text.head?, isNameChar c = false ∧ c ≠ '.'

/-- No name at the end of the first text runs on into the second. -/
def Apart (before after : List Char) : Prop :=
  (∃ c ∈ before.getLast?, isNameChar c = true) → Breaks after

instance (text : List Char) : Decidable (Breaks text) :=
  inferInstanceAs (Decidable (∀ c ∈ text.head?, isNameChar c = false ∧ c ≠ '.'))

instance (before after : List Char) : Decidable (Apart before after) :=
  inferInstanceAs (Decidable ((∃ c ∈ before.getLast?, isNameChar c = true) → Breaks after))

def isIdentifier (name : String) : Bool :=
  match name.toList with
  | [] => false
  | c :: rest => isNameStart c && rest.all isNameChar

theorem isNameChar_of_start {c : Char} (start : isNameStart c = true) : isNameChar c = true := by
  unfold isNameStart at start
  unfold isNameChar
  rcases Bool.or_eq_true_iff.mp start with letter | underscore
  · simp [letter]
  · simp [underscore]

theorem isNameChar_separator {c : Char} (blank : Text.isSeparator c = true) :
    isNameChar c = false := by
  simp only [Text.isSeparator, Bool.or_eq_true, beq_iff_eq] at blank
  rcases blank with ((rfl | rfl) | rfl) | rfl <;> rfl

theorem isSeparator_of_start {c : Char} (start : isNameStart c = true) :
    Text.isSeparator c = false := by
  by_contra blank
  have unnamed := isNameChar_separator (Bool.not_eq_false _ ▸ blank)
  rw [isNameChar_of_start start] at unnamed
  cases unnamed

theorem mem_digits {c : Char} (digit : c.isDigit = true) : c ∈ "0123456789".toList := by
  simp only [Char.isDigit, Bool.and_eq_true, decide_eq_true_eq] at digit
  have lower : 48 ≤ c.toNat := UInt32.le_iff_toNat_le.mp digit.1
  have upper : c.toNat ≤ 57 := UInt32.le_iff_toNat_le.mp digit.2
  rw [← Char.ofNat_toNat c]
  interval_cases c.toNat <;> decide

theorem isNameChar_digit {c : Char} (digit : c.isDigit = true) : isNameChar c = true := by
  have all : ∀ c ∈ "0123456789".toList, isNameChar c = true := by decide
  exact all c (mem_digits digit)

theorem ends_named (front : List Char) {run : List Char} (nonempty : run ≠ [])
    (inside : ∀ c ∈ run, isNameChar c = true) :
    ∃ c ∈ (front ++ run).getLast?, isNameChar c = true :=
  ⟨run.getLast nonempty, by simp [List.getLast?_append, List.getLast?_eq_some_getLast nonempty],
    inside _ (List.getLast_mem nonempty)⟩

theorem Breaks.nil : Breaks [] := by decide

theorem Breaks.cons {c : Char} (other : isNameChar c = false ∧ c ≠ '.') (rest : List Char) :
    Breaks (c :: rest) := by
  intro d member
  cases member
  exact other

theorem Gap.breaks {gap rest : List Char} (blank : Gap gap) (breaks : Breaks rest) :
    Breaks (gap ++ rest) := by
  cases gap with
  | nil => exact breaks
  | cons c gap =>
    have separator := blank c List.mem_cons_self
    refine .cons ⟨isNameChar_separator separator, ?_⟩ _
    rintro rfl
    cases separator

theorem Breaks.append {text : List Char} (breaks : Breaks text) (nonempty : text ≠ [])
    (more : List Char) : Breaks (text ++ more) := by
  obtain ⟨c, text, rfl⟩ := List.exists_cons_of_ne_nil nonempty
  exact .cons (breaks c rfl) _

theorem Apart.blank (before after : List Char) : Apart (before ++ [' ']) after := by
  rintro ⟨c, last, named⟩
  cases List.getLast?_concat.symm.trans last
  cases named

theorem Apart.append {before after : List Char} (apart : Apart before after) (nonempty : after ≠ [])
    (more : List Char) : Apart before (after ++ more) :=
  fun named => (apart named).append nonempty more

/-- Only the end of a text touches what stands behind it. -/
theorem Apart.of_append {front before after : List Char} (apart : Apart (front ++ before) after) :
    Apart before after := by
  rintro ⟨c, last, named⟩
  exact apart ⟨c, by simp [List.getLast?_append, Option.mem_def.mp last], named⟩

theorem Apart.gap {before gap after : List Char} (apart : Apart (before ++ gap) after)
    (blank : Gap gap) : Apart before (gap ++ after) := by
  cases gap with
  | nil => simpa using apart
  | cons c gap =>
    have separator := blank c List.mem_cons_self
    refine fun _ => .cons ⟨isNameChar_separator separator, ?_⟩ _
    rintro rfl
    cases separator

theorem Breaks.ends {rest : List Char} (breaks : Breaks rest) :
    ∀ c ∈ rest.head?, isNameChar c = false :=
  fun c member => (breaks c member).1

theorem Breaks.ends_digits {rest : List Char} (breaks : Breaks rest) :
    ∀ c ∈ rest.head?, c.isDigit = false := by
  intro c member
  by_contra digit
  have named := isNameChar_digit (Bool.not_eq_false _ ▸ digit)
  rw [breaks.ends c member] at named
  cases named

/-! Outcomes. -/

variable {α β : Type}

/-- The reader leaves the text to another one. -/
def Refuses (reader : Reader α) (text : List Char) : Prop :=
  ∃ place, reader text = .halt .recoverable place

theorem orElse_of_done {first : Reader α} {text rest : List Char} {value : α}
    (read : first text = .done value rest) (second : Reader α) :
    orElse first second text = .done value rest := by
  simp [orElse, read]

theorem Refuses.orElse {first : Reader α} {text : List Char} (refuses : Refuses first text)
    (second : Reader α) : orElse first second text = second text := by
  obtain ⟨place, halts⟩ := refuses
  simp [Reader.orElse, halts]

theorem Refuses.both {first second : Reader α} {text : List Char} (refuses : Refuses first text)
    (other : Refuses second text) : Refuses (Reader.orElse first second) text := by
  rw [Refuses, refuses.orElse]
  exact other

theorem Refuses.andThen {reader : Reader α} {text : List Char} (refuses : Refuses reader text)
    (next : α → Reader β) : Refuses (fun text => (reader text).andThen next) text := by
  obtain ⟨place, halts⟩ := refuses
  exact ⟨place, by simp [halts, Outcome.andThen]⟩

theorem Refuses.map {reader : Reader α} {text : List Char} (refuses : Refuses reader text)
    (transform : α → β) : Refuses (fun text => (reader text).map transform) text :=
  refuses.andThen _

theorem orElse_eq_done {first second : Reader α} {text rest : List Char} {value : α}
    (read : orElse first second text = .done value rest) :
    first text = .done value rest ∨ second text = .done value rest := by
  unfold orElse at read
  split at read
  · exact .inr read
  · exact .inl read

theorem andThen_eq_done {outcome : Outcome α} {next : α → Reader β} {value : β}
    {rest : List Char} (read : outcome.andThen next = .done value rest) :
    ∃ first place, outcome = .done first place ∧ next first place = .done value rest := by
  cases outcome with
  | done first place => exact ⟨first, place, rfl, read⟩
  | halt reason place => cases read

theorem map_eq_done {outcome : Outcome α} {transform : α → β} {value : β} {rest : List Char}
    (read : outcome.map transform = .done value rest) :
    ∃ first, outcome = .done first rest ∧ transform first = value := by
  obtain ⟨first, place, rfl, same⟩ := andThen_eq_done read
  cases same
  exact ⟨first, rfl, rfl⟩

theorem commit_eq_done {outcome : Outcome α} {value : α} {rest : List Char}
    (read : outcome.commit = .done value rest) : outcome = .done value rest := by
  unfold Outcome.commit at read
  split at read
  · cases read
  · exact read

@[simp] theorem commit_done (value : α) (rest : List Char) :
    (Outcome.done value rest).commit = .done value rest := rfl

@[simp] theorem andThen_done (value : α) (rest : List Char) (next : α → Reader β) :
    (Outcome.done value rest).andThen next = next value rest := rfl

@[simp] theorem map_done (transform : α → β) (value : α) (rest : List Char) :
    (Outcome.done value rest).map transform = .done (transform value) rest := rfl

theorem padded_of_done {inner : Reader α} {text rest : List Char} {value : α}
    (read : inner (skip text) = .done value rest) :
    padded inner text = .done value (skip rest) := by
  simp [padded, read]

theorem Refuses.padded {inner : Reader α} {text : List Char} (refuses : Refuses inner (skip text)) :
    Refuses (padded inner) text := by
  obtain ⟨place, halts⟩ := refuses
  exact ⟨place, by simp [Reader.padded, halts, Outcome.andThen]⟩

/-! Fixed words, keywords and names. -/

theorem tag_append (word rest : List Char) : tag word (word ++ rest) = .done () rest := by
  simp [tag]

theorem tag_refuses {c : Char} {text : List Char} (other : text.head? ≠ some c)
    (word : List Char) : Refuses (tag (c :: word)) text := by
  refine ⟨text, if_neg ?_⟩
  cases text with
  | nil => simp
  | cons d text =>
    have ne : c ≠ d := by
      rintro rfl
      exact other rfl
    simp [ne]

@[simp] theorem char_cons (c : Char) (rest : List Char) : char c (c :: rest) = .done () rest :=
  tag_append [c] rest

theorem char_refuses {c : Char} {text : List Char} (other : text.head? ≠ some c) :
    Refuses (char c) text :=
  tag_refuses other []

theorem tag_eq_done {word text rest : List Char} {value : Unit}
    (read : tag word text = .done value rest) : text = word ++ rest := by
  unfold tag at read
  split at read
  · next starts =>
    obtain ⟨rest, rfl⟩ := List.isPrefixOf_iff_prefix.mp starts
    cases read
    simp
  · cases read

theorem padded_tag {word gap : List Char} (blank : Gap gap) {rest : List Char}
    (solid : Solid (word ++ rest)) :
    padded (tag word) (gap ++ (word ++ rest)) = .done () (skip rest) := by
  apply padded_of_done
  rw [blank.skip, solid.skip, tag_append]

theorem padded_char {gap : List Char} (blank : Gap gap) {c : Char}
    (other : Text.isSeparator c = false) (rest : List Char) :
    padded (char c) (gap ++ c :: rest) = .done () (skip rest) := by
  apply padded_tag blank
  rintro d ⟨⟩
  exact other

theorem keyword_append (word : List Char) {rest : List Char}
    (ends : ∀ c ∈ rest.head?, isNameChar c = false) :
    keyword word (word ++ rest) = .done () rest := by
  unfold keyword
  rw [tag_append, andThen_done]
  cases rest with
  | nil => rfl
  | cons c rest => simp [ends c rfl]

theorem keyword_refuses_head {c : Char} {text : List Char} (other : text.head? ≠ some c)
    (word : List Char) : Refuses (keyword (c :: word)) text :=
  (tag_refuses other word).andThen _

theorem keyword_eq_done {word text rest : List Char} {value : Unit}
    (read : keyword word text = .done value rest) : text = word ++ rest := by
  obtain ⟨_, place, tagged, read⟩ := andThen_eq_done read
  rw [tag_eq_done tagged]
  split at read
  · split at read
    · cases read
    · cases read
      rfl
  · cases read
    rfl

theorem keyword_refuses {word run rest : List Char} (named : ∀ c ∈ word, isNameChar c = true)
    (inside : ∀ c ∈ run, isNameChar c = true) (ends : ∀ c ∈ rest.head?, isNameChar c = false)
    (other : run ≠ word) : Refuses (keyword word) (run ++ rest) := by
  by_cases starts : word <+: run ++ rest
  · obtain ⟨after, same⟩ := starts
    rcases List.append_eq_append_iff.mp same with ⟨more, rfl, rfl⟩ | ⟨more, rfl, rfl⟩
    · -- the name goes on behind the word
      obtain ⟨c, more, rfl⟩ := List.exists_cons_of_ne_nil (l := more) (by
        rintro rfl
        exact other (List.append_nil word))
      have goesOn := inside c (by simp)
      exact ⟨c :: (more ++ rest), by simp [keyword, tag, goesOn]⟩
    · -- the word goes on where the name has ended
      obtain ⟨c, more, rfl⟩ := List.exists_cons_of_ne_nil (l := more) (by
        rintro rfl
        exact other (List.append_nil run).symm)
      have goesOn := named c (by simp)
      rw [ends c rfl] at goesOn
      cases goesOn
  · exact ⟨run ++ rest, by simp [keyword, tag, starts, Outcome.andThen]⟩

theorem identifier_append {name : String} (proper : isIdentifier name = true) {rest : List Char}
    (ends : ∀ c ∈ rest.head?, isNameChar c = false) :
    identifier (name.toList ++ rest) = .done name rest := by
  unfold isIdentifier at proper
  split at proper
  · cases proper
  · next c run spelled =>
    rw [Bool.and_eq_true, List.all_eq_true] at proper
    obtain ⟨taken, dropped⟩ := span_run proper.2 ends
    have whole : String.ofList (c :: run) = name := by rw [← spelled, String.ofList_toList]
    simp [identifier, spelled, proper.1, taken, dropped, whole]

theorem identifier_refuses {text : List Char} (other : ∀ c ∈ text.head?, isNameStart c = false) :
    Refuses identifier text := by
  cases text with
  | nil => exact ⟨[], rfl⟩
  | cons c rest => exact ⟨c :: rest, by simp [identifier, other c rfl]⟩

theorem identifier_chars {name : String} (proper : isIdentifier name = true) :
    ∃ c rest, name.toList = c :: rest ∧ isNameStart c = true ∧
      ∀ d ∈ name.toList, isNameChar d = true := by
  unfold isIdentifier at proper
  split at proper
  · cases proper
  · next c rest spelled =>
    rw [Bool.and_eq_true, List.all_eq_true] at proper
    refine ⟨c, rest, spelled, proper.1, ?_⟩
    rw [spelled]
    rintro d (_ | ⟨_, member⟩)
    · exact isNameChar_of_start proper.1
    · exact proper.2 d member

end Reader

end WhereClause
