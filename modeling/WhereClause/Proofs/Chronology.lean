import WhereClause.Proofs.Meaning
import WhereClause.Proofs.ScalarText

/-! Times as text.

Fields of a fixed width stand in the order of their weight, and a fraction is cut only at zeros. So
texts of clock times, whatever their lengths, are ordered by what they show: the minute, and the
nanoseconds since it began. This is the order of timestamps, and a column that holds their texts is
compared by time. It is not the order of all clock times, since a leap second within a minute shows
the second behind it.
-/

set_option autoImplicit false

namespace WhereClause

namespace ClockTime

/-- Nanoseconds since the minute began. -/
def elapsed (time : ClockTime) : Nat := time.second * 1000000000 + time.fraction

/-- What the text of a clock time shows. -/
def shown (time : ClockTime) : List Int :=
  [time.year, time.month, time.day, time.hour, time.minute, time.elapsed]

theorem before_iff {left right : ClockTime} : left.before right = true ↔
    left.year < right.year ∨ left.year = right.year ∧
      (left.month < right.month ∨ left.month = right.month ∧
        (left.day < right.day ∨ left.day = right.day ∧
          (left.hour < right.hour ∨ left.hour = right.hour ∧
            (left.minute < right.minute ∨ left.minute = right.minute ∧
              (left.second < right.second ∨ left.second = right.second ∧
                left.fraction < right.fraction))))) := by
  simp [before, List.cons_lt_cons_iff]

theorem shown_lt_iff {left right : ClockTime} : left.shown < right.shown ↔
    left.year < right.year ∨ left.year = right.year ∧
      (left.month < right.month ∨ left.month = right.month ∧
        (left.day < right.day ∨ left.day = right.day ∧
          (left.hour < right.hour ∨ left.hour = right.hour ∧
            (left.minute < right.minute ∨ left.minute = right.minute ∧
              left.elapsed < right.elapsed)))) := by
  simp [shown, List.cons_lt_cons_iff]

theorem shown_eq_iff {left right : ClockTime} : left.shown = right.shown ↔
    left.year = right.year ∧ left.month = right.month ∧ left.day = right.day ∧
      left.hour = right.hour ∧ left.minute = right.minute ∧ left.elapsed = right.elapsed := by
  simp [shown]

theorem shown_trichotomy (left right : ClockTime) :
    left.shown < right.shown ∨ left.shown = right.shown ∨ right.shown < left.shown := by
  rw [shown_lt_iff, shown_eq_iff, shown_lt_iff]
  omega

theorem shownSecond_eq (time : ClockTime) : time.shownSecond = time.elapsed / 1000000000 := by
  unfold shownSecond elapsed
  omega

theorem nanosecond_eq (time : ClockTime) : time.nanosecond = time.elapsed % 1000000000 := by
  unfold nanosecond elapsed
  omega

theorem chars_of_shown (separator : Char) {left right : ClockTime} (same : left.shown = right.shown) :
    left.chars separator = right.chars separator := by
  obtain ⟨year, month, day, hour, minute, elapsed⟩ := shown_eq_iff.mp same
  simp only [chars, shownSecond_eq, nanosecond_eq, year, month, day, hour, minute, elapsed]

/-- A fraction is a point and the nine digits, without some zeros at their end. -/
theorem fractionChars_cut {nanosecond : Nat} (positive : 0 < nanosecond) :
    ∃ digits count, fractionChars nanosecond = '.' :: digits ∧
      padded 9 nanosecond = digits ++ List.replicate count '0' := by
  have cut {width count quotient : Nat} (whole : nanosecond = quotient * 10 ^ count)
      (nine : width + count = 9) :
      padded 9 nanosecond = padded width quotient ++ List.replicate count '0' := by
    have some : 0 < quotient := by
      rcases Nat.eq_zero_or_pos quotient with rfl | some
      · omega
      · exact some
    rw [whole, ← nine, padded_mul_pow width some]
  unfold fractionChars
  split
  · omega
  · split
    · exact ⟨_, 6, rfl, cut (by omega) rfl⟩
    · split
      · exact ⟨_, 3, rfl, cut (by omega) rfl⟩
      · exact ⟨_, 0, rfl, by simp⟩

theorem fractionChars_lt {left right : Nat} (less : left < right) (fits : right < 10 ^ 9) :
    fractionChars left < fractionChars right := by
  obtain ⟨digits, more, rightChars, rightCut⟩ := fractionChars_cut (Nat.zero_lt_of_lt less)
  rcases Nat.eq_zero_or_pos left with rfl | positive
  · rw [rightChars]
    exact List.nil_lt_cons _ _
  · obtain ⟨others, count, leftChars, leftCut⟩ := fractionChars_cut positive
    have leftFits : left < 10 ^ 9 := Nat.lt_trans less fits
    have ordered : padded 9 left ++ [] < padded 9 right ++ [] :=
      padded_append_lt (by decide) leftFits fits (.inl less)
    have same : (padded 9 left).length = (padded 9 right).length := by
      rw [length_padded (by decide) leftFits, length_padded (by decide) fits]
    have written := padded_digits 9 left
    rw [leftCut] at written
    rw [List.append_nil, List.append_nil, leftCut, rightCut] at ordered
    rw [leftCut, rightCut, List.length_append, List.length_append, List.length_replicate,
      List.length_replicate] at same
    rw [leftChars, rightChars, List.cons_lt_cons_iff]
    refine .inr ⟨rfl, lt_of_zeros_lt ?_ same ordered⟩
    exact fun c member => written c (List.mem_append_left _ member)

theorem field_lt {mark : Char} {left right : Nat} {behind after : List Char} (leftFits : left < 10 ^ 2)
    (rightFits : right < 10 ^ 2) (less : left < right ∨ left = right ∧ behind < after) :
    mark :: (padded 2 left ++ behind) < mark :: (padded 2 right ++ after) :=
  List.cons_lt_cons_iff.mpr (.inr ⟨rfl, padded_append_lt (by decide) leftFits rightFits less⟩)

theorem chars_lt (separator : Char) {left right : ClockTime} (leftPlain : left.PlainYear)
    (rightPlain : right.PlainYear) (less : left.shown < right.shown) :
    left.chars separator < right.chars separator := by
  have years : left.year < right.year ↔ left.year.natAbs < right.year.natAbs := by
    have leftPositive := leftPlain.1
    have rightPositive := rightPlain.1
    omega
  have sameYear : left.year = right.year → left.year.natAbs = right.year.natAbs := congrArg Int.natAbs
  -- the nanoseconds of the minute are written as two fields
  have seconds : left.elapsed < right.elapsed → left.shownSecond < right.shownSecond ∨
      left.shownSecond = right.shownSecond ∧ left.nanosecond < right.nanosecond := by
    rw [shownSecond_eq, shownSecond_eq, nanosecond_eq, nanosecond_eq]
    omega
  simp only [chars, leftPlain.yearChars, rightPlain.yearChars, List.append_assoc, List.cons_append]
  -- field by field: the first one that differs decides
  refine padded_append_lt (by decide) leftPlain.natAbs_lt rightPlain.natAbs_lt
    ((shown_lt_iff.mp less).imp years.mp (And.imp sameYear fun months => ?_))
  refine field_lt left.month_lt right.month_lt (months.imp_right (And.imp_right fun days => ?_))
  refine field_lt left.day_lt right.day_lt (days.imp_right (And.imp_right fun hours => ?_))
  refine field_lt left.hour_lt_hundred right.hour_lt_hundred
    (hours.imp_right (And.imp_right fun minutes => ?_))
  refine field_lt left.minute_lt_hundred right.minute_lt_hundred
    (minutes.imp_right (And.imp_right fun elapsed => ?_))
  refine field_lt left.shownSecond_lt right.shownSecond_lt
    ((seconds elapsed).imp_right (And.imp_right fun nanoseconds => ?_))
  exact fractionChars_lt nanoseconds right.nanosecond_lt

theorem spaced_lt {left right : ClockTime} (leftPlain : left.PlainYear) (rightPlain : right.PlainYear)
    (less : left.shown < right.shown) : left.spaced < right.spaced := by
  rw [String.lt_iff, spaced, spaced, String.toList_ofList, String.toList_ofList]
  exact chars_lt ' ' leftPlain rightPlain less

theorem spaced_lt_iff {left right : ClockTime} (leftPlain : left.PlainYear)
    (rightPlain : right.PlainYear) : left.spaced < right.spaced ↔ left.shown < right.shown := by
  refine ⟨fun less => ?_, spaced_lt leftPlain rightPlain⟩
  rcases shown_trichotomy left right with earlier | same | later
  · exact earlier
  · rw [spaced, spaced, chars_of_shown ' ' same] at less
    exact absurd less (String.lt_irrefl _)
  · exact absurd less (String.lt_asymm (spaced_lt rightPlain leftPlain later))

theorem spaced_eq_iff {left right : ClockTime} (leftPlain : left.PlainYear)
    (rightPlain : right.PlainYear) : left.spaced = right.spaced ↔ left.shown = right.shown := by
  refine ⟨fun same => ?_, fun same => congrArg String.ofList (chars_of_shown ' ' same)⟩
  rcases shown_trichotomy left right with earlier | equal | later
  · exact absurd (same ▸ spaced_lt leftPlain rightPlain earlier) (String.lt_irrefl _)
  · exact equal
  · exact absurd (same ▸ spaced_lt rightPlain leftPlain later) (String.lt_irrefl _)

/-- A leap second within a minute is written as the second behind it, though it comes before it; and
its end is even written as a later time than the beginning of that second. -/
theorem spaced_ambiguous :
    let clock (second fraction : Nat) (secondFits : second < 60) (fits : fraction < 2000000000) :
        ClockTime :=
      { year := 2015, month := 9, day := 8, hour := 20, minute := 19, second, fraction
        year_bounds := by decide, month_bounds := by decide, day_bounds := by decide
        hour_lt := by decide, minute_lt := by decide
        second_lt := secondFits, fraction_lt := fits }
    let leap := clock 23 1000000000 (by decide) (by decide)
    let behind := clock 24 0 (by decide) (by decide)
    let leapEnd := clock 23 1500000000 (by decide) (by decide)
    let later := clock 24 200000000 (by decide) (by decide)
    leap.PlainYear ∧ leap ≠ behind ∧ leap.before behind = true ∧
      leap.spaced = "2015-09-08 20:19:24" ∧ behind.spaced = "2015-09-08 20:19:24" ∧
      leapEnd.before later = true ∧
      leapEnd.spaced = "2015-09-08 20:19:24.500" ∧ later.spaced = "2015-09-08 20:19:24.200" ∧
      later.spaced < leapEnd.spaced := by
  intro clock leap behind leapEnd later
  exact ⟨⟨by decide, by decide⟩, by decide, by decide, by decide +kernel, by decide +kernel,
    by decide, by decide +kernel, by decide +kernel, by decide +kernel⟩

theorem fractionChars_mem {nanosecond : Nat} {c : Char} (member : c ∈ fractionChars nanosecond) :
    c = '.' ∨ c.isDigit = true := by
  have behind {width value : Nat} (member : c ∈ '.' :: padded width value) :
      c = '.' ∨ c.isDigit = true :=
    (List.mem_cons.mp member).imp_right (padded_digits width value c)
  unfold fractionChars at member
  split at member
  · cases member
  · split at member
    · exact behind member
    · split at member
      · exact behind member
      · exact behind member

theorem visible_digit {c : Char} (digit : c.isDigit = true) : Sql.Numeral.isBlank c = false := by
  have range := digit_range digit
  have other : c ≠ ' ' := by
    rintro rfl
    cases digit
  simp only [Sql.Numeral.isBlank, beq_false_of_ne other, Bool.false_or, Bool.and_eq_false_iff,
    decide_eq_false_iff_not]
  omega

theorem getLast_chars (separator : Char) (time : ClockTime) :
    ∀ c ∈ (time.chars separator).getLast?, Sql.Numeral.isBlank c = false := by
  intro c last
  have some : padded 2 time.shownSecond ++ fractionChars time.nanosecond ≠ [] :=
    List.append_ne_nil_of_left_ne_nil (padded_ne_nil _ _) _
  -- The fraction may be missing, so the seconds are looked at together with it.
  have ends : ∃ front, time.chars separator =
      front ++ (padded 2 time.shownSecond ++ fractionChars time.nanosecond) :=
    ⟨yearChars time.year ++ '-' :: padded 2 time.month ++ '-' :: padded 2 time.day
      ++ separator :: padded 2 time.hour ++ ':' :: padded 2 time.minute ++ [':'], by simp [chars]⟩
  obtain ⟨front, chars_eq⟩ := ends
  rw [chars_eq, List.getLast?_append_of_ne_nil _ some] at last
  rcases List.mem_append.mp (List.mem_of_mem_getLast? last) with digit | fraction
  · exact visible_digit (padded_digits _ _ c digit)
  · rcases fractionChars_mem fraction with rfl | digit
    · rfl
    · exact visible_digit digit

end ClockTime

namespace Timestamp

def order (left right : Timestamp) : Ordering :=
  if left.before right.toClockTime then .lt else if left = right then .eq else .gt

/-- The nanoseconds of a minute are in the order of its seconds, since only its end has more than a
whole second behind a second. -/
theorem elapsed_lt_iff (left right : Timestamp) : left.elapsed < right.elapsed ↔
    left.second < right.second ∨ left.second = right.second ∧ left.fraction < right.fraction := by
  have leftLast := left.leap_last
  have rightLast := right.leap_last
  have leftBound := left.second_lt
  have rightBound := right.second_lt
  unfold ClockTime.LeapLast at leftLast rightLast
  unfold ClockTime.elapsed
  omega

theorem shown_lt_iff_before (left right : Timestamp) :
    left.shown < right.shown ↔ left.before right.toClockTime = true := by
  rw [ClockTime.shown_lt_iff, ClockTime.before_iff, elapsed_lt_iff]

theorem shown_inj {left right : Timestamp} : left.shown = right.shown ↔ left = right := by
  refine ⟨fun same => ?_, fun same => by rw [same]⟩
  obtain ⟨year, month, day, hour, minute, elapsed⟩ := ClockTime.shown_eq_iff.mp same
  have seconds : left.second = right.second ∧ left.fraction = right.fraction := by
    have notLess := elapsed_lt_iff left right
    have notGreater := elapsed_lt_iff right left
    omega
  obtain ⟨⟨_⟩, _⟩ := left
  obtain ⟨⟨_⟩, _⟩ := right
  simp_all

theorem spaced_before_iff {left right : Timestamp} (leftPlain : left.PlainYear)
    (rightPlain : right.PlainYear) :
    left.spaced < right.spaced ↔ left.before right.toClockTime = true :=
  (ClockTime.spaced_lt_iff leftPlain rightPlain).trans (shown_lt_iff_before left right)

theorem spaced_inj {left right : Timestamp} (leftPlain : left.PlainYear)
    (rightPlain : right.PlainYear) : left.spaced = right.spaced ↔ left = right :=
  (ClockTime.spaced_eq_iff leftPlain rightPlain).trans shown_inj

theorem compare_spaced {left right : Timestamp} (leftPlain : left.PlainYear)
    (rightPlain : right.PlainYear) : compare left.spaced right.spaced = left.order right := by
  have compared (first second : String) : compare first second = compareOfLessAndEq first second := rfl
  rw [compared, compareOfLessAndEq, order]
  simp only [spaced_before_iff leftPlain rightPlain, spaced_inj leftPlain rightPlain]

end Timestamp

namespace Sql

namespace Numeral

theorem trim_eq {text : List Char} (first : ∀ c ∈ text.head?, isBlank c = false)
    (last : ∀ c ∈ text.getLast?, isBlank c = false) : trim text = text := by
  have kept {text : List Char} (first : ∀ c ∈ text.head?, isBlank c = false) :
      text.dropWhile isBlank = text := by
    cases text with
    | nil => rfl
    | cons c text => simp [first c rfl]
  rw [trim, kept first, kept (by simpa using last), List.reverse_reverse]

/-- A text with a minus behind its first digits spells no number. -/
theorem read?_minus {digits rest : List Char} (some : digits ≠ [])
    (all : ∀ c ∈ digits, c.isDigit = true)
    (last : ∀ c ∈ (digits ++ '-' :: rest).getLast?, isBlank c = false) :
    read? (digits ++ '-' :: rest) = none := by
  have first : ∀ c ∈ (digits ++ '-' :: rest).head?, c.isDigit = true := by
    intro c found
    rw [List.head?_append_of_ne_nil _ some] at found
    exact all c (List.mem_of_mem_head? found)
  have unsigned : signed (digits ++ '-' :: rest) = (false, digits ++ '-' :: rest) := by
    unfold signed
    split
    · next same => cases first '-' (by rw [same]; rfl)
    · next same => cases first '+' (by rw [same]; rfl)
    · rfl
  have taken : (digits ++ '-' :: rest).takeWhile Char.isDigit = digits := by
    rw [List.takeWhile_append_of_pos all]
    simp
  have left : (digits ++ '-' :: rest).dropWhile Char.isDigit = '-' :: rest := by
    rw [List.dropWhile_append_of_pos all]
    simp
  have fraction : fractionOf ('-' :: rest) = (none, '-' :: rest) := rfl
  have exponent : exponentOf ('-' :: rest) = (none, '-' :: rest) := rfl
  rw [read?, trim_eq (fun c found => ClockTime.visible_digit (first c found)) last]
  simp only [unsigned, taken, left, fraction, exponent, List.isEmpty_cons, Bool.and_false,
    Bool.false_eq_true, if_false]

end Numeral

/-- The text of a timestamp spells no number, so no column takes it for one. -/
theorem Cell.number?_spaced {time : ClockTime} (plain : time.PlainYear) :
    number? time.spaced = none := by
  obtain ⟨rest, chars_eq⟩ : ∃ rest, time.chars ' ' =
      ClockTime.padded 4 time.year.natAbs ++ '-' :: rest := by
    simp only [ClockTime.chars, plain.yearChars, List.append_assoc, List.cons_append]
    exact ⟨_, rfl⟩
  have last := time.getLast_chars ' '
  rw [chars_eq] at last
  rw [number?, ClockTime.spaced, String.toList_ofList, chars_eq,
    Numeral.read?_minus (ClockTime.padded_ne_nil _ _) (ClockTime.padded_digits _ _) last]
  rfl

/-- A text that spells no number is compared as it is, beside a column of any type. -/
theorem Datum.beside_text {text : String} (wordy : Cell.number? text = none)
    (type other : Option ColumnType) : (⟨.text text, type⟩ : Datum).beside other = .text text := by
  have kept : (Cell.text text).asNumber = .text text := by
    rw [Cell.asNumber, wordy]
    rfl
  unfold Datum.beside
  split
  · rfl
  · exact kept
  · exact kept
  · exact kept
  · rfl

theorem Engine.compare_spaced {left right : Timestamp} (leftPlain : left.PlainYear)
    (rightPlain : right.PlainYear) (type other : Option ColumnType) (op : Comparison) :
    memory.compare op ⟨.text left.spaced, type⟩ ⟨.text right.spaced, other⟩ =
      .ofBool (holds op (left.order right)) := by
  have leftWordy := Cell.number?_spaced leftPlain
  have rightWordy := Cell.number?_spaced rightPlain
  have compared : Datum.compare? ⟨.text left.spaced, type⟩ ⟨.text right.spaced, other⟩ =
      some (left.order right) := by
    rw [Datum.compare?, Datum.beside_text leftWordy, Datum.beside_text rightWordy, Cell.compare?,
      Timestamp.compare_spaced leftPlain rightPlain]
  simp only [Engine.compare, memory, compared, Option.map_some, Truth.ofOption]

end Sql

/-- A member whose times are stored as texts in a column. -/
structure Mapping.StoresTimes (mapping : Mapping) (entity member column : String) : Prop where
  resolve : mapping.resolve entity member = .ok column
  converter : ∃ lookup, mapping.converters = some lookup ∧
    lookup entity member = some Converter.timestampAsString

namespace Mapping

variable {mapping : Mapping} {entity member column : String}
open Sql

theorem StoresTimes.convert (stores : mapping.StoresTimes entity member column) (time : Timestamp) :
    mapping.convert entity (some [member]) (.timestamp time) = .ok (.string time.spaced) := by
  obtain ⟨lookup, used, found⟩ := stores.converter
  simp [Mapping.convert, peerConverter, used, MemberPath.single?, found, Converter.timestampAsString]

theorem StoresTimes.fills (stores : mapping.StoresTimes entity member column) {time : Timestamp}
    {sent : Operand} (bound : sent.boundValue? = some (.timestamp time)) :
    mapping.Fills entity (some [member]) sent (.bound (.string time.spaced)) := by
  cases sent with
  | field path => cases bound
  | constant value type =>
    cases bound
    exact .constant (stores.convert time)
  | captured path value =>
    cases bound
    exact .captured (stores.convert time)

theorem bound_apart {sent : Operand} {time : Timestamp}
    (bound : sent.boundValue? = some (.timestamp time)) :
    sent.isNullLiteral = false ∧ sent.entityPath? = none := by
  cases sent with
  | field path => cases bound
  | constant value type =>
    cases bound
    exact ⟨rfl, rfl⟩
  | captured path value => exact ⟨rfl, rfl⟩

/-- A member beside a value that is sent becomes a condition on the column and a text. -/
theorem StoresTimes.condition (stores : mapping.StoresTimes entity member column) {time : Timestamp}
    {sent : Operand} (bound : sent.boundValue? = some (.timestamp time)) (op : Comparison) :
    mapping.condition entity (.compare op (.field [member]) sent) = .ok
        { chunks := [.text (mapping.style.quote column), .text (" " ++ op.sql ++ " "), .param 0]
          params := [.string time.spaced]
          shape := .atom } ∧
      mapping.condition entity (.compare op sent (.field [member])) = .ok
        { chunks := [.param 0, .text (" " ++ op.sql ++ " "), .text (mapping.style.quote column)]
          params := [.string time.spaced]
          shape := .atom } := by
  obtain ⟨notNull, peerless⟩ := bound_apart bound
  have sentPiece : mapping.operand entity (some [member]) sent = .ok (.bound (.string time.spaced)) := by
    have converted := stores.convert time
    cases sent with
    | field path => cases bound
    | constant value type =>
      cases bound
      simp [operand, converted]
    | captured path value =>
      cases bound
      simp [operand, converted]
  have columnPiece : mapping.operand entity none (.field [member]) =
      .ok (.text (mapping.style.quote column)) := by
    simp [operand, Mapping.column, MemberPath.single?, stores.resolve]
  have memberPath : (Operand.field [member]).entityPath? = some [member] := rfl
  have memberPresent : (Operand.field [member]).isNullLiteral = false := rfl
  constructor
  · simp only [condition_eq, clause, Mapping.compare, notNull, memberPresent, memberPath, peerless,
      sentPiece, columnPiece]
    rfl
  · simp only [condition_eq, clause, Mapping.compare, notNull, memberPresent, memberPath, peerless,
      sentPiece, columnPiece]
    rfl

theorem StoresTimes.meaning (stores : mapping.StoresTimes entity member column)
    {left right : Timestamp} (leftPlain : left.PlainYear) (rightPlain : right.PlainYear)
    {sent : Operand} (bound : sent.boundValue? = some (.timestamp right)) (op : Comparison)
    {row : String → Datum} {type : Option ColumnType}
    (held : row column = ⟨.text left.spaced, type⟩) :
    (Predicate.compare op (.field [member]) sent).meaning mapping entity Engine.memory row =
        some (.ofBool (holds op (left.order right))) ∧
      (Predicate.compare op sent (.field [member])).meaning mapping entity Engine.memory row =
        some (.ofBool (holds op (right.order left))) := by
  obtain ⟨notNull, peerless⟩ := bound_apart bound
  have sentValue : sent.value? mapping entity Engine.memory row (some [member]) =
      some ⟨.text right.spaced, none⟩ := (stores.fills bound).value?
  have columnFills : mapping.Fills entity none (.field [member]) (.column column) := .field stores.resolve
  have columnValue : (Operand.field [member]).value? mapping entity Engine.memory row none =
      some (row column) := columnFills.value?
  rw [held] at columnValue
  have memberPath : (Operand.field [member]).entityPath? = some [member] := rfl
  have memberPresent : (Operand.field [member]).isNullLiteral = false := rfl
  constructor
  · simp [Predicate.meaning, Operand.besideNull?, notNull, memberPresent, memberPath, peerless, sentValue,
      columnValue, Engine.compare_spaced leftPlain rightPlain]
  · simp [Predicate.meaning, Operand.besideNull?, notNull, memberPresent, memberPath, peerless, sentValue,
      columnValue, Engine.compare_spaced rightPlain leftPlain]

end Mapping

open Sql

/-- Texts of timestamps, as they are stored and as they are sent, are ordered as the times are. So a
comparison of a time with a column that holds such texts, on either side, is one of times, whatever
the type of the column. -/
theorem Timestamp.spaced_ordered {left right : Timestamp} (leftPlain : left.PlainYear)
    (rightPlain : right.PlainYear) :
    Converter.timestampAsString.convert (.timestamp left) = .ok (.string left.spaced) ∧
      Cell.ofValue (.timestamp left) = .ok (.text left.spaced) ∧
      (left.spaced < right.spaced ↔ left.before right.toClockTime = true) ∧
      (left.spaced = right.spaced ↔ left = right) ∧
      ∀ (mapping : Mapping) (entity member column : String) (sent : Operand) (op : Comparison)
        (row : String → Datum) (type : Option ColumnType),
        mapping.StoresTimes entity member column → sent.boundValue? = some (.timestamp right) →
        row column = ⟨.text left.spaced, type⟩ →
        let forward : Predicate := .compare op (.field [member]) sent
        let backward : Predicate := .compare op sent (.field [member])
        (∃ condition, mapping.condition entity forward = .ok condition ∧
          condition.params = [.string right.spaced]) ∧
        (∃ condition, mapping.condition entity backward = .ok condition ∧
          condition.params = [.string right.spaced]) ∧
        forward.meaning mapping entity Engine.memory row =
          some (.ofBool (holds op (left.order right))) ∧
        backward.meaning mapping entity Engine.memory row =
          some (.ofBool (holds op (right.order left))) := by
  refine ⟨rfl, rfl, spaced_before_iff leftPlain rightPlain, spaced_inj leftPlain rightPlain, ?_⟩
  intro mapping entity member column sent op row type stores bound held
  obtain ⟨forward, backward⟩ := stores.condition bound op
  exact ⟨⟨_, forward, rfl⟩, ⟨_, backward, rfl⟩, stores.meaning leftPlain rightPlain bound op held⟩

/-- A millisecond into a leap second, and a microsecond later. -/
theorem Timestamp.spaced_ordered_leap :
    let leap (fraction : Nat) (fits : fraction < 2000000000) : Timestamp :=
      { year := 2016, month := 12, day := 31, hour := 23, minute := 59, second := 59, fraction
        year_bounds := by decide, month_bounds := by decide, day_bounds := by decide
        hour_lt := by decide, minute_lt := by decide, second_lt := by decide
        fraction_lt := fits, leap_last := fun _ => rfl }
    let earlier := leap 1001000000 (by decide)
    let later := leap 1001001000 (by decide)
    let mapping : Mapping :=
      { Mapping.identity Dialect.sqlite.style with
        converters := some fun _ _ => some Converter.timestampAsString }
    earlier.spaced = "2016-12-31 23:59:60.001" ∧ later.spaced = "2016-12-31 23:59:60.001001" ∧
      earlier.spaced < later.spaced ∧
      (Predicate.compare .lt (.field ["at"]) (.captured ["until"] (.timestamp later))).meaning mapping
        "Event" Engine.memory (fun _ => ⟨.text earlier.spaced, some .text⟩) = some .yes := by
  intro leap earlier later mapping
  have plain (fraction : Nat) (fits : fraction < 2000000000) : (leap fraction fits).PlainYear :=
    ⟨(by decide : (0 : Int) ≤ 2016), (by decide : (2016 : Int) ≤ 9999)⟩
  have before : earlier.before later.toClockTime = true := by
    simp [ClockTime.before_iff, earlier, later, leap]
  have order : earlier.order later = .lt := if_pos before
  obtain ⟨-, -, ordered, -, selected⟩ :=
    Timestamp.spaced_ordered (plain 1001000000 (by decide)) (plain 1001001000 (by decide))
  have stores : mapping.StoresTimes "Event" "at" "at" := ⟨rfl, _, rfl, rfl⟩
  refine ⟨by decide +kernel, by decide +kernel, ordered.mpr before, ?_⟩
  obtain ⟨-, -, forward, -⟩ := selected mapping "Event" "at" "at"
    (.captured ["until"] (.timestamp later)) .lt (fun _ => ⟨.text earlier.spaced, some .text⟩)
    (some .text) stores rfl rfl
  refine forward.trans ?_
  rw [order]
  rfl

end WhereClause
