import WhereClause.Proofs.Numerals

/-! Texts of literals.

A literal is a constant word, a number, a quoted string or a list of literals with white space
around its items. The reader finds exactly these texts: it reads each one whatever stands behind
it, as long as no name runs on, and the text that it takes off is always one of them.
-/

set_option autoImplicit false

namespace WhereClause.Reader

open Bounded

def literalStarts : List Char := ['t', 'f', 'n', '"', '[', '-'] ++ "0123456789".toList

def literalEnds : List Char := ['e', 'l', '"', ']', 'L', 'm', 'M'] ++ "0123456789".toList

def numberStarts : List Char := '-' :: "0123456789".toList

theorem mem_numberStarts {c : Char} (numeric : c = '-' ∨ c.isDigit = true) : c ∈ numberStarts := by
  rcases numeric with rfl | digit
  · exact List.mem_cons_self
  · exact List.mem_cons_of_mem _ (mem_digits digit)

theorem NumberText.ends {text : List Char} {value : Value} (written : NumberText text value) :
    (∃ c ∈ text.head?, c = '-' ∨ c.isDigit = true) ∧
      ∃ c ∈ text.getLast?, c ∈ literalEnds ∧ isNameChar c = true := by
  have marked {mark : Char} (known : mark ∈ literalEnds ∧ isNameChar mark = true) {written : Numeral}
      (proper : written.Proper) :
      (∃ c ∈ (written.chars ++ [mark]).head?, c = '-' ∨ c.isDigit = true) ∧
        ∃ c ∈ (written.chars ++ [mark]).getLast?, c ∈ literalEnds ∧ isNameChar c = true := by
    obtain ⟨c, first, starts⟩ := proper.starts
    refine ⟨⟨c, ?_, starts⟩, mark, by simp, known⟩
    simp [List.head?_append, Option.mem_def.mp first]
  cases written with
  | plain proper _ =>
    obtain ⟨c, last, digit⟩ := proper.ends
    exact ⟨proper.starts, c, last, List.mem_append_right _ (mem_digits digit), isNameChar_digit digit⟩
  | bigInt proper _ => exact marked (by decide) proper
  | decimal mark proper _ =>
    rcases mark with rfl | rfl
    · exact marked (by decide) proper
    · exact marked (by decide) proper

theorem stringBody_plain {c : Char} (quote : c ≠ '"') (escape : c ≠ '\\') (rest : List Char) :
    stringBody (c :: rest) = (stringBody rest).map (c :: ·) := by
  rw [stringBody] <;> simp_all

theorem stringBody_eq_done {text rest chars : List Char}
    (read : stringBody text = .done chars rest) :
    ∃ body, text = body ++ rest ∧ body.getLast? = some '"' ∧
      ∀ more, stringBody (body ++ more) = .done chars more := by
  fun_induction stringBody text generalizing chars with
  | case1 => cases read
  | case2 =>
    cases read
    exact ⟨['"'], rfl, rfl, fun more => rfl⟩
  | case3 _ ih | case4 _ ih | case5 _ ih | case6 _ ih =>
    obtain ⟨inner, innerRead, rfl⟩ := map_eq_done read
    obtain ⟨body, rfl, quoted, reads⟩ := ih innerRead
    exact ⟨_ :: _ :: body, rfl, by simp [List.getLast?_cons, quoted],
      fun more => by simp [stringBody, reads]⟩
  | case7 => cases read
  | case8 c _ quote _ _ _ _ escape ih =>
    obtain ⟨inner, innerRead, rfl⟩ := map_eq_done read
    obtain ⟨body, rfl, quoted, reads⟩ := ih innerRead
    refine ⟨c :: body, rfl, by simp [List.getLast?_cons, quoted], fun more => ?_⟩
    rw [List.cons_append, stringBody_plain quote escape, reads, map_done]

def constantWords : List (String × Value) :=
  [("true", .bool true), ("false", .bool false), ("null", .null .string)]

/-- An item of a list with the comma in front of it and the white space around the comma. -/
structure Item where
  before : List Char
  after : List Char
  text : List Char
  value : Value

def Item.chars (item : Item) : List Char := item.before ++ ',' :: item.after ++ item.text

inductive LiteralText : List Char → Value → Prop where
  | word {word : String} {value : Value} : (word, value) ∈ constantWords →
      LiteralText word.toList value
  | number {text : List Char} {value : Value} : NumberText text value → LiteralText text value
  | string {body chars : List Char} : stringBody body = .done chars [] →
      LiteralText ('"' :: body) (.string (String.ofList chars))
  | empty {gap : List Char} : Gap gap → LiteralText ('[' :: gap ++ [']']) (.ofItems [])
  | list {opening first closing : List Char} {value : Value} {items : List Item} :
      Gap opening → LiteralText first value →
      (∀ item ∈ items, Gap item.before ∧ Gap item.after) →
      (∀ item ∈ items, LiteralText item.text item.value) → Gap closing →
      LiteralText ('[' :: opening ++ first ++ items.flatMap Item.chars ++ closing ++ [']'])
        (.ofItems (value :: items.map Item.value))

theorem constantWord_refuses (c : Char) {word : String} {more text : List Char} (value : Value)
    (spelled : word.toList = c :: more) (other : text.head? ≠ some c) :
    Refuses (constantWord word value) text := by
  unfold constantWord
  rw [spelled]
  exact (keyword_refuses_head other more).map _

theorem literal_nameless {text : List Char} (nameless : ∀ c ∈ text.head?, isNameStart c = false)
    (limit : Nat) :
    literal (limit + 1) text =
      orElse stringLiteral (orElse number (listOf (literal limit) limit)) text := by
  have other (c : Char) (start : isNameStart c = true) : text.head? ≠ some c := by
    intro same
    rw [nameless c same] at start
    cases start
  rw [literal, (constantWord_refuses 't' _ rfl (other 't' rfl)).orElse,
    (constantWord_refuses 'f' _ rfl (other 'f' rfl)).orElse,
    (constantWord_refuses 'n' _ rfl (other 'n' rfl)).orElse]

theorem constantWord_read {word : String} {value : Value} (known : (word, value) ∈ constantWords)
    {rest : List Char} (breaks : Breaks rest) (limit : Nat) :
    literal (limit + 1) (word.toList ++ rest) = .done value rest := by
  have read := keyword_append word.toList breaks.ends
  simp only [constantWords, List.mem_cons, Prod.mk.injEq, List.not_mem_nil, or_false] at known
  rcases known with ⟨rfl, rfl⟩ | ⟨rfl, rfl⟩ | ⟨rfl, rfl⟩
  · exact orElse_of_done (by rw [constantWord, read, map_done]) _
  · rw [literal, (constantWord_refuses 't' _ rfl (by simp)).orElse]
    exact orElse_of_done (by rw [constantWord, read, map_done]) _
  · rw [literal, (constantWord_refuses 't' _ rfl (by simp)).orElse,
      (constantWord_refuses 'f' _ rfl (by simp)).orElse]
    exact orElse_of_done (by rw [constantWord, read, map_done]) _

namespace LiteralText

variable {text : List Char} {value : Value}

theorem starts (written : LiteralText text value) : ∃ c ∈ text.head?, c ∈ literalStarts := by
  cases written with
  | word known =>
    have all : ∀ known ∈ constantWords, ∃ c ∈ known.1.toList.head?, c ∈ literalStarts := by decide
    exact all _ known
  | number written =>
    obtain ⟨⟨c, first, numeric⟩, -⟩ := written.ends
    have all : ∀ c ∈ numberStarts, c ∈ literalStarts := by decide
    exact ⟨c, first, all c (mem_numberStarts numeric)⟩
  | string _ => exact ⟨'"', rfl, by decide⟩
  | empty _ => exact ⟨'[', rfl, by decide⟩
  | list _ _ _ _ _ => exact ⟨'[', rfl, by decide⟩

theorem ends (written : LiteralText text value) : ∃ c ∈ text.getLast?, c ∈ literalEnds := by
  cases written with
  | word known =>
    have all : ∀ known ∈ constantWords, ∃ c ∈ known.1.toList.getLast?, c ∈ literalEnds := by decide
    exact all _ known
  | number written =>
    obtain ⟨-, c, last, known, -⟩ := written.ends
    exact ⟨c, last, known⟩
  | string read =>
    obtain ⟨body, same, quoted, -⟩ := stringBody_eq_done read
    rw [List.append_nil] at same
    exact ⟨'"', by simp [same, List.getLast?_cons, quoted], by decide⟩
  | empty _ => exact ⟨']', List.getLast?_concat, by decide⟩
  | list _ _ _ _ _ => exact ⟨']', List.getLast?_concat, by decide⟩

theorem solid (written : LiteralText text value) (rest : List Char) : Solid (text ++ rest) := by
  obtain ⟨c, first, known⟩ := written.starts
  have all : ∀ c ∈ literalStarts, Text.isSeparator c = false := by decide
  intro d member
  rw [List.head?_append, Option.mem_def.mp first] at member
  cases member
  exact all c known

end LiteralText

theorem breaks_items {items : List Item} (spaced : ∀ item ∈ items, Gap item.before)
    {rest : List Char} (breaks : Breaks rest) : Breaks (items.flatMap Item.chars ++ rest) := by
  cases items with
  | nil => exact breaks
  | cons item items =>
    have gap := spaced item List.mem_cons_self
    simpa [Item.chars] using gap.breaks (.cons (by decide) _)

/-- Items are read one by one up to a text that starts with no comma. -/
theorem separatedTail_read {reader : Reader Value} {items : List Item}
    (spaced : ∀ item ∈ items, Gap item.before ∧ Gap item.after)
    (solid : ∀ item ∈ items, ∀ rest, Solid (item.text ++ rest))
    (reads : ∀ item ∈ items, ∀ rest, Breaks rest → reader (item.text ++ rest) = .done item.value rest)
    {rest : List Char} (breaks : Breaks rest) (stops : (skip rest).head? ≠ some ',') {limit : Nat}
    (covers : items.length < limit) :
    separatedTail (padded (char ',')) reader limit (items.flatMap Item.chars ++ rest) =
      .done (items.map Item.value) rest := by
  induction items generalizing limit with
  | nil =>
    obtain ⟨limit, rfl⟩ := Nat.exists_eq_add_one.mpr covers
    obtain ⟨place, halts⟩ := (char_refuses stops).padded
    simp [separatedTail, halts]
  | cons item items ih =>
    obtain ⟨limit, rfl⟩ := Nat.exists_eq_add_one.mpr (Nat.zero_lt_of_lt covers)
    have tail := ih (fun i member => spaced i (List.mem_cons_of_mem _ member))
      (fun i member => solid i (List.mem_cons_of_mem _ member))
      (fun i member => reads i (List.mem_cons_of_mem _ member)) (Nat.lt_of_succ_lt_succ covers)
    have behind := breaks_items (fun i member => (spaced i (List.mem_cons_of_mem _ member)).1) breaks
    have comma := padded_char (spaced item List.mem_cons_self).1 (c := ',') rfl
      (item.after ++ (item.text ++ (items.flatMap Item.chars ++ rest)))
    rw [(spaced item List.mem_cons_self).2.skip, (solid item List.mem_cons_self _).skip] at comma
    simp [separatedTail, Item.chars, comma, reads item List.mem_cons_self _ behind, tail]

theorem length_flatMap_chars (items : List Item) :
    items.length ≤ (items.flatMap Item.chars).length := by
  induction items with
  | nil => simp
  | cons item items ih =>
    simp only [List.flatMap_cons, List.length_cons, List.length_append, Item.chars]
    omega

theorem stringLiteral_refuses {text : List Char} (other : text.head? ≠ some '"') :
    Refuses stringLiteral text :=
  (char_refuses other).andThen _

theorem listOf_refuses {text : List Char} (other : text.head? ≠ some '[') (item : Reader Value)
    (limit : Nat) : Refuses (listOf item limit) text :=
  (char_refuses other).andThen _

theorem literal_refuses {text : List Char} (nameless : ∀ c ∈ text.head?, isNameStart c = false)
    (other : ∀ c ∈ text.head?, c ∉ literalStarts) (limit : Nat) :
    Refuses (literal (limit + 1)) text := by
  have start {c : Char} (known : c ∈ literalStarts) : text.head? ≠ some c :=
    fun same => other c same known
  rw [Refuses, literal_nameless nameless]
  refine (stringLiteral_refuses (start (by decide))).both
    ((number_refuses (start (by decide)) fun c member => ?_).both
      (listOf_refuses (start (by decide)) _ _))
  by_contra digit
  exact other c member (List.mem_append_right _ (mem_digits (Bool.not_eq_false _ ▸ digit)))

/-- Words and strings are tried before numbers, but start with neither a sign nor a digit. -/
theorem literal_numeric {text : List Char} (starts : ∃ c ∈ text.head?, c = '-' ∨ c.isDigit = true)
    (limit : Nat) :
    literal (limit + 1) text = orElse number (listOf (literal limit) limit) text := by
  obtain ⟨c, first, starts⟩ := starts
  have all : ∀ c ∈ numberStarts, isNameStart c = false ∧ c ≠ '"' := by decide
  obtain ⟨nameless, other⟩ := all c (mem_numberStarts starts)
  have head : text.head? = some c := first
  rw [literal_nameless (by rw [head]; rintro d ⟨⟩; exact nameless),
    (stringLiteral_refuses (by simpa [head] using other)).orElse]

theorem literal_bracket (inner : List Char) (limit : Nat) :
    literal (limit + 1) ('[' :: inner) = listOf (literal limit) limit ('[' :: inner) := by
  rw [literal_nameless (by rintro c ⟨⟩; rfl), (stringLiteral_refuses (by simp)).orElse,
    (number_refuses (by simp) (by rintro c ⟨⟩; rfl)).orElse]

theorem listOf_of_separated {item : Reader Value} {limit : Nat} {inner closing rest : List Char}
    {items : List Value} (blank : Gap closing)
    (read : separated (padded (char ',')) item limit (skip inner) =
      .done items (closing ++ ']' :: rest)) :
    listOf item limit ('[' :: inner) = .done (.ofItems items) rest := by
  have solid : Solid (']' :: rest) := by
    rintro c ⟨⟩
    rfl
  simp [listOf, read, blank.skip, solid.skip]

theorem length_text_le {item : Item} {items : List Item} (member : item ∈ items) :
    item.text.length ≤ (items.flatMap Item.chars).length := by
  obtain ⟨front, behind, rfl⟩ := List.append_of_mem member
  simp only [List.flatMap_append, List.flatMap_cons, List.length_append, Item.chars, List.length_cons]
  omega

/-- A literal is read as its value, whatever stands behind it that no name runs on into. -/
theorem LiteralText.read {text : List Char} {value : Value} (written : LiteralText text value)
    {rest : List Char} (apart : Apart text rest) {limit : Nat} (covers : text.length < limit) :
    literal limit (text ++ rest) = .done value rest := by
  induction written generalizing rest limit with
    obtain ⟨limit, rfl⟩ := Nat.exists_eq_add_one.mpr (Nat.zero_lt_of_lt covers)
  | word known =>
    have all : ∀ known ∈ constantWords, ∃ c ∈ known.1.toList.getLast?, isNameChar c = true := by decide
    exact constantWord_read known (apart (all _ known)) limit
  | @number text _ written =>
    obtain ⟨⟨c, first, starts⟩, d, last, -, named⟩ := written.ends
    have head : (text ++ rest).head? = some c := by
      rw [List.head?_append, Option.mem_def.mp first, Option.some_or]
    rw [literal_numeric ⟨c, head, starts⟩]
    exact orElse_of_done (written.read (apart ⟨d, last, named⟩)) _
  | @string body _ read =>
    obtain ⟨same, whole, -, reads⟩ := stringBody_eq_done read
    rw [List.append_nil] at whole
    subst whole
    rw [literal_nameless (by rintro c ⟨⟩; rfl)]
    refine orElse_of_done ?_ _
    simp [stringLiteral, reads]
  | @empty gap blank =>
    obtain ⟨limit, rfl⟩ := Nat.exists_eq_add_one.mpr (show 0 < limit by simp at covers; omega)
    have solid : Solid (']' :: rest) := by
      rintro c ⟨⟩
      rfl
    have refuses : Refuses (literal (limit + 1)) (']' :: rest) :=
      literal_refuses (by rintro c ⟨⟩; rfl) (by rintro c ⟨⟩; decide) limit
    obtain ⟨place, halts⟩ := refuses
    simp only [List.cons_append, List.append_assoc, List.nil_append, literal_bracket]
    refine listOf_of_separated .nil ?_
    simp [separated, blank.skip, solid.skip, halts]
  | @list opening first closing value items openingBlank firstWritten spaced itemsWritten closingBlank
      firstIh itemsIh =>
    have closes : Breaks (closing ++ ']' :: rest) := closingBlank.breaks (.cons (by decide) _)
    have stops : (skip (closing ++ ']' :: rest)).head? ≠ some ',' := by
      rw [closingBlank.skip, Solid.skip (by rintro c ⟨⟩; rfl)]
      simp
    have behind := breaks_items (fun item member => (spaced item member).1) closes
    simp only [List.cons_append, List.length_cons, List.length_append, List.append_assoc,
      List.nil_append, literal_bracket] at covers ⊢
    -- the bracket is read with one less to spend, which still covers every item
    have count := length_flatMap_chars items
    have firstRead := firstIh (fun _ => behind) (show first.length < limit by omega)
    have itemsRead (item : Item) (member : item ∈ items) (rest : List Char) (breaks : Breaks rest) :
        literal limit (item.text ++ rest) = .done item.value rest := by
      apply itemsIh item member fun _ => breaks
      have within := length_text_le member
      omega
    have tailRead := separatedTail_read spaced (fun item member => (itemsWritten item member).solid)
      itemsRead closes stops (show items.length < limit by omega)
    refine listOf_of_separated closingBlank ?_
    rw [openingBlank.skip, (firstWritten.solid _).skip]
    simp [separated, firstRead, tailRead]

theorem padded_char_eq_done {c : Char} {text rest : List Char} {value : Unit}
    (read : padded (char c) text = .done value rest) :
    ∃ before after, Gap before ∧ Gap after ∧ text = before ++ c :: after ++ rest := by
  obtain ⟨_, place, found, same⟩ := andThen_eq_done read
  obtain ⟨before, beforeBlank, text_eq⟩ := exists_gap text
  obtain ⟨after, afterBlank, place_eq⟩ := exists_gap place
  cases same
  refine ⟨before, after, beforeBlank, afterBlank, ?_⟩
  rw [tag_eq_done found] at text_eq
  rw [text_eq, List.append_assoc]
  exact congrArg (before ++ c :: ·) place_eq

theorem separatedTail_eq_done {reader : Reader Value}
    (sound : ∀ {text value rest}, reader text = .done value rest →
      ∃ written, LiteralText written value ∧ text = written ++ rest)
    {limit : Nat} {text rest : List Char} {values : List Value}
    (read : separatedTail (padded (char ',')) reader limit text = .done values rest) :
    ∃ items : List Item, (∀ item ∈ items, Gap item.before ∧ Gap item.after) ∧
      (∀ item ∈ items, LiteralText item.text item.value) ∧ values = items.map Item.value ∧
      text = items.flatMap Item.chars ++ rest := by
  induction limit generalizing text values with
  | zero => cases read
  | succ limit ih =>
    have finished : Outcome.done [] text = .done values rest → ∃ items : List Item,
        (∀ item ∈ items, Gap item.before ∧ Gap item.after) ∧
        (∀ item ∈ items, LiteralText item.text item.value) ∧ values = items.map Item.value ∧
        text = items.flatMap Item.chars ++ rest := by
      rintro ⟨⟩
      exact ⟨[], by simp⟩
    rw [separatedTail] at read
    split at read
    · exact finished read
    · cases read
    · next comma =>
      obtain ⟨before, after, beforeBlank, afterBlank, rfl⟩ := padded_char_eq_done comma
      split at read
      · exact finished read
      · cases read
      · next value place itemRead =>
        obtain ⟨values, tailRead, rfl⟩ := map_eq_done read
        obtain ⟨text, written, rfl⟩ := sound itemRead
        obtain ⟨items, spaced, itemsWritten, rfl, rfl⟩ := ih tailRead
        refine ⟨{ before, after, text, value } :: items, ?_, ?_, rfl, by simp [Item.chars]⟩
        · simpa using ⟨⟨beforeBlank, afterBlank⟩, spaced⟩
        · simpa using ⟨written, itemsWritten⟩

theorem listOf_eq_done {reader : Reader Value}
    (sound : ∀ {text value rest}, reader text = .done value rest →
      ∃ written, LiteralText written value ∧ text = written ++ rest)
    {limit : Nat} {text rest : List Char} {value : Value}
    (read : listOf reader limit text = .done value rest) :
    ∃ written, LiteralText written value ∧ text = written ++ rest := by
  obtain ⟨_, inner, opened, read⟩ := andThen_eq_done read
  obtain ⟨values, behind, itemsRead, read⟩ := andThen_eq_done read
  obtain ⟨_, closed, rfl⟩ := map_eq_done read
  obtain ⟨opening, openingBlank, inner_eq⟩ := exists_gap inner
  obtain ⟨closing, closingBlank, behind_eq⟩ := exists_gap behind
  rw [tag_eq_done (commit_eq_done closed)] at behind_eq
  have text_eq := tag_eq_done opened
  unfold separated at itemsRead
  split at itemsRead
  · cases itemsRead
    refine ⟨_, .empty (openingBlank.append closingBlank), ?_⟩
    rw [text_eq, inner_eq, behind_eq]
    simp
  · cases itemsRead
  · next value place firstRead =>
    obtain ⟨values, tailRead, rfl⟩ := map_eq_done itemsRead
    obtain ⟨first, written, first_eq⟩ := sound firstRead
    obtain ⟨items, spaced, itemsWritten, rfl, place_eq⟩ := separatedTail_eq_done sound tailRead
    refine ⟨_, .list openingBlank written spaced itemsWritten closingBlank, ?_⟩
    rw [text_eq, inner_eq, first_eq, place_eq, behind_eq]
    simp

theorem literal_eq_done {limit : Nat} {text rest : List Char} {value : Value}
    (read : literal limit text = .done value rest) :
    ∃ written, LiteralText written value ∧ text = written ++ rest := by
  induction limit generalizing text value rest with
  | zero => cases read
  | succ limit ih =>
    have word {word : String} {held : Value} (known : (word, held) ∈ constantWords)
        (read : constantWord word held text = .done value rest) :
        ∃ written, LiteralText written value ∧ text = written ++ rest := by
      obtain ⟨_, found, rfl⟩ := map_eq_done read
      exact ⟨_, .word known, keyword_eq_done found⟩
    rw [literal] at read
    rcases orElse_eq_done read with read | read
    · exact word (by simp [constantWords]) read
    rcases orElse_eq_done read with read | read
    · exact word (by simp [constantWords]) read
    rcases orElse_eq_done read with read | read
    · exact word (by simp [constantWords]) read
    rcases orElse_eq_done read with read | read
    · obtain ⟨_, inner, opened, read⟩ := andThen_eq_done read
      obtain ⟨chars, bodyRead, rfl⟩ := map_eq_done read
      obtain ⟨body, rfl, -, reads⟩ := stringBody_eq_done bodyRead
      exact ⟨_, .string (by simpa using reads []), by rw [tag_eq_done opened]; rfl⟩
    rcases orElse_eq_done read with read | read
    · obtain ⟨written, number, rfl⟩ := number_eq_done read
      exact ⟨written, .number number, rfl⟩
    · exact listOf_eq_done ih read

def Trimmed (text : List Char) : Prop :=
  (∀ c ∈ text.head?, Text.isBlank c = false) ∧ ∀ c ∈ text.getLast?, Text.isBlank c = false

instance (text : List Char) : Decidable (Trimmed text) :=
  inferInstanceAs (Decidable ((∀ c ∈ text.head?, Text.isBlank c = false) ∧
    ∀ c ∈ text.getLast?, Text.isBlank c = false))

theorem LiteralText.trimmed {text : List Char} {value : Value} (written : LiteralText text value) :
    Trimmed text := by
  obtain ⟨c, first, starts⟩ := written.starts
  obtain ⟨d, last, ends⟩ := written.ends
  have allStarts : ∀ c ∈ literalStarts, Text.isBlank c = false := by decide
  have allEnds : ∀ c ∈ literalEnds, Text.isBlank c = false := by decide
  constructor
  · intro e member
    cases Option.mem_unique first member
    exact allStarts c starts
  · intro e member
    cases Option.mem_unique last member
    exact allEnds d ends

theorem trimStart_visible {text : List Char} (visible : ∀ c ∈ text.head?, Text.isBlank c = false) :
    Text.trimStart text = text := by
  cases text with
  | nil => rfl
  | cons c rest => simp [Text.trimStart, visible c rfl]

theorem breaks_blank {text : List Char} (blank : ∀ c ∈ text, Text.isBlank c = true) :
    Breaks text := by
  -- along the table of white space, and not over all characters there are
  have table : ∀ range ∈ Text.blankRanges, ∀ offset < range.2 + 1 - range.1,
      isNameChar (Char.ofNat (range.1 + offset)) = false ∧ Char.ofNat (range.1 + offset) ≠ '.' := by
    decide +kernel
  intro c member
  have blank := blank c (List.mem_of_mem_head? member)
  simp only [Text.isBlank, Text.Ranges.holds, List.any_eq_true, Bool.and_eq_true,
    decide_eq_true_eq] at blank
  obtain ⟨range, listed, lower, upper⟩ := blank
  have unnamed := table range listed (c.toNat - range.1) (by omega)
  rwa [Nat.add_sub_cancel' lower, Char.ofNat_toNat] at unnamed

/-- A literal is read with any white space around it. -/
theorem LiteralText.spaced {text : List Char} {value : Value} (written : LiteralText text value)
    {before after : List Char} (beforeBlank : ∀ c ∈ before, Text.isBlank c = true)
    (afterBlank : ∀ c ∈ after, Text.isBlank c = true) :
    readLiteral (String.ofList (before ++ (text ++ after))) = .ok value := by
  have visible : ∀ c ∈ (text ++ after).head?, Text.isBlank c = false := by
    obtain ⟨c, first, -⟩ := written.starts
    rw [List.head?_append, Option.mem_def.mp first, Option.some_or]
    rintro d ⟨⟩
    exact written.trimmed.1 c first
  have start : Text.trimStart (before ++ (text ++ after)) = text ++ after :=
    (span_run beforeBlank visible).2
  have apart : Apart text after := fun _ => breaks_blank afterBlank
  have covers : text.length < (before ++ (text ++ after)).length + 1 := by
    simp only [List.length_append]
    omega
  have blank : Text.allBlank after = true := List.all_eq_true.mpr afterBlank
  unfold readLiteral
  simp only [String.toList_ofList, start, written.read apart covers, blank, if_true]

/-- Among the texts without white space around them, exactly those of literals are read. -/
theorem readLiteral_eq_ok {text : List Char} (trimmed : Trimmed text) {value : Value} :
    readLiteral (String.ofList text) = .ok value ↔ LiteralText text value := by
  constructor
  · intro read
    unfold readLiteral at read
    simp only [String.toList_ofList, trimStart_visible trimmed.1] at read
    split at read
    · next found rest literalRead =>
      split at read
      · next blank =>
        cases read
        obtain ⟨written, literal, rfl⟩ := literal_eq_done literalRead
        -- white space behind the literal would be at the end of the text
        have none : rest = [] := by
          by_contra some
          have last := trimmed.2 (rest.getLast some) (by
            simp [List.getLast?_append, List.getLast?_eq_some_getLast some])
          rw [List.all_eq_true.mp blank _ (List.getLast_mem some)] at last
          cases last
        rwa [none, List.append_nil]
      · cases read
    · cases read
  · intro written
    have none : ∀ c ∈ ([] : List Char), Text.isBlank c = true := by simp
    simpa using written.spaced none none

end WhereClause.Reader
