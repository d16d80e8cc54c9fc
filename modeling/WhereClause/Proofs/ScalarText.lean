import Mathlib.Data.List.TakeWhile
import WhereClause.Proofs.Digits
import WhereClause.Time.Reader
import WhereClause.Uuid

/-! Texts of timestamps and of identifiers are read back. -/

set_option autoImplicit false

namespace WhereClause

namespace ClockTime

/-- A year that is written with four digits and no sign. -/
def PlainYear (time : ClockTime) : Prop := 0 ≤ time.year ∧ time.year ≤ 9999

theorem PlainYear.natAbs_lt {time : ClockTime} (plain : time.PlainYear) : time.year.natAbs < 10 ^ 4 := by
  have bounds := plain
  unfold PlainYear at bounds
  omega

theorem PlainYear.yearChars {time : ClockTime} (plain : time.PlainYear) :
    yearChars time.year = padded 4 time.year.natAbs := by
  have bounds : (decide (0 ≤ time.year) && decide (time.year ≤ 9999)) = true := by
    simp [plain.1, plain.2]
  rw [ClockTime.yearChars, if_pos bounds]

theorem day_lt (time : ClockTime) : time.day < 10 ^ 2 := by
  have days : Calendar.daysInMonth time.year time.month ≤ 31 := by
    unfold Calendar.daysInMonth
    repeat' split
    all_goals decide
  have bounds := time.day_bounds
  omega

theorem month_lt (time : ClockTime) : time.month < 10 ^ 2 := by
  have bounds := time.month_bounds
  omega

theorem hour_lt_hundred (time : ClockTime) : time.hour < 10 ^ 2 :=
  Nat.lt_trans time.hour_lt (by decide)

theorem minute_lt_hundred (time : ClockTime) : time.minute < 10 ^ 2 :=
  Nat.lt_trans time.minute_lt (by decide)

theorem shownSecond_lt (time : ClockTime) : time.shownSecond < 10 ^ 2 := by
  have second := time.second_lt
  have fraction := time.fraction_lt
  unfold shownSecond
  omega

theorem nanosecond_lt (time : ClockTime) : time.nanosecond < 10 ^ 9 :=
  Nat.mod_lt _ (by decide)

end ClockTime

namespace Timestamp

open ClockTime

theorem trimStart_digit {c : Char} (digit : c.isDigit = true) (rest : List Char) :
    Text.trimStart (c :: rest) = c :: rest := by
  have range := digit_range digit
  have visible : Text.isBlank c = false := by
    simp [Text.isBlank, Text.Ranges.holds, Text.blankRanges]
    omega
  simp [Text.trimStart, visible]

theorem trimStart_padded (width number : Nat) (rest : List Char) :
    Text.trimStart (padded width number ++ rest) = padded width number ++ rest := by
  obtain ⟨c, digits, spelled⟩ := List.exists_cons_of_ne_nil (padded_ne_nil width number)
  have digit : c.isDigit = true := padded_digits width number c (spelled ▸ List.mem_cons_self)
  rw [spelled]
  exact trimStart_digit digit _

theorem takeWhile_padded (width number : Nat) :
    (padded width number).takeWhile Char.isDigit = padded width number :=
  List.takeWhile_eq_self_iff.mpr (padded_digits width number)

theorem value_padded (width number : Nat) : value (padded width number) = number := by
  have read := padded_value width number
  rwa [Nat.ofDigitChars_eq_foldl] at read

theorem number?_padded {width number : Nat} (positive : 0 < width) (fits : number < 10 ^ width)
    (rest : List Char) : number? width (padded width number ++ rest) = some (number, rest) := by
  have taken : (padded width number ++ rest).take width = padded width number :=
    List.take_left' (length_padded positive fits)
  rw [number?]
  simp only [taken, takeWhile_padded, value_padded, List.isEmpty_iff, padded_ne_nil, if_false,
    List.drop_left]

theorem field?_padded {number : Nat} (fits : number < 10 ^ 2) (rest : List Char) :
    field? (padded 2 number ++ rest) = some (number, rest) := by
  rw [field?, trimStart_padded, number?_padded (by decide) fits]

theorem year?_padded {number : Nat} (fits : number < 10 ^ 4) (rest : List Char) :
    year? (padded 4 number ++ rest) = some ((number : Int), rest) := by
  obtain ⟨c, digits, spelled⟩ := List.exists_cons_of_ne_nil (padded_ne_nil 4 number)
  have digit : c.isDigit = true := padded_digits 4 number c (spelled ▸ List.mem_cons_self)
  have read := number?_padded (by decide) fits rest
  rw [year?, trimStart_padded]
  rw [spelled, List.cons_append] at read ⊢
  split
  · next same =>
    cases (List.cons.inj same).1
    cases digit
  · next same =>
    cases (List.cons.inj same).1
    cases digit
  · rw [read]
    rfl

theorem mark?_trimStart {mark : Char} (visible : Text.isBlank mark = false) (rest : List Char) :
    mark? mark (Text.trimStart (mark :: rest)) = some rest := by
  simp [Text.trimStart, visible, mark?]

theorem fraction?_padded {width quotient : Nat} (positive : 0 < width) (most : width ≤ 9)
    (fits : quotient < 10 ^ width) :
    fraction? ('.' :: padded width quotient) = some (quotient * 10 ^ (9 - width), []) := by
  have length := length_padded positive fits
  have kept : (padded width quotient).take 9 = padded width quotient :=
    List.take_of_length_le (by omega)
  have left : (padded width quotient).drop width = [] := List.drop_eq_nil_of_le (by omega)
  rw [fraction?]
  simp only [takeWhile_padded, kept, value_padded, List.isEmpty_iff, padded_ne_nil, if_false, length,
    left]
  rfl

theorem fraction?_fractionChars {nanosecond : Nat} (fits : nanosecond < 10 ^ 9) :
    fraction? (fractionChars nanosecond) = some (nanosecond, []) := by
  have read {width quotient : Nat} (positive : 0 < width) (most : width ≤ 9)
      (whole : nanosecond = quotient * 10 ^ (9 - width)) (small : quotient < 10 ^ width) :
      fraction? ('.' :: padded width quotient) = some (nanosecond, []) := by
    rw [fraction?_padded positive most small, ← whole]
  -- Three digits, six or nine: what is left out are zeros, which the reader puts back.
  unfold fractionChars
  split
  · next zero =>
    rw [zero]
    rfl
  · split
    · exact read (by decide) (by decide) (by omega) (by omega)
    · split
      · exact read (by decide) (by decide) (by omega) (by omega)
      · exact read (by decide) (by decide) (by omega) fits

theorem ofFields?_self (time : Timestamp) :
    ofFields? time.year time.month time.day time.hour time.minute time.shownSecond time.nanosecond =
      some time := by
  have bound := time.second_lt
  have leap := time.leap_last
  have fractionBound := time.fraction_lt
  -- a fraction of a second and more is split between both fields, and only second 59 has one
  have shown : time.shownSecond ≤ 60 ∧ min time.shownSecond 59 = time.second ∧
      (time.shownSecond - 59) * 1000000000 + time.nanosecond = time.fraction := by
    unfold ClockTime.LeapLast at leap
    unfold shownSecond nanosecond
    omega
  have nanosecondBound : time.nanosecond < 1000000000 := time.nanosecond_lt
  simp only [ofFields?, time.year_bounds, time.month_bounds, time.day_bounds, time.hour_lt,
    time.minute_lt, shown, nanosecondBound, and_self, dite_true]

/-- A timestamp is read back field by field. -/
theorem read?_chars {time : Timestamp} (plain : time.PlainYear) :
    read? (time.chars 'T') = some time := by
  have dash : Text.isBlank '-' = false := rfl
  have middle : Text.isBlank 'T' = false := rfl
  have colon : Text.isBlank ':' = false := rfl
  have year : (time.year.natAbs : Int) = time.year := by
    have positive := plain.1
    omega
  simp only [chars, plain.yearChars, List.append_assoc, List.cons_append, read?,
    year?_padded plain.natAbs_lt, mark?_trimStart dash, mark?_trimStart middle, mark?_trimStart colon,
    field?_padded time.month_lt, field?_padded time.day_lt, field?_padded time.hour_lt_hundred,
    field?_padded time.minute_lt_hundred, field?_padded time.shownSecond_lt,
    fraction?_fractionChars time.nanosecond_lt, year, Option.bind_eq_bind, Option.bind_some,
    ofFields?_self]
  rfl

end Timestamp

namespace Uuid

def spelled? (start : Nat) (digits : List Char) : Option Nat :=
  digits.foldlM (fun total c => (Text.hexDigit? c).map (16 * total + ·)) start

theorem spelled?_toDigits (number : Nat) : spelled? 0 (Nat.toDigits 16 number) = some number := by
  have digit : ∀ value < 16, Text.hexDigit? (Nat.digitChar value) = some value := by decide
  induction number using Nat.strongRecOn with
  | ind number ih =>
    rw [Nat.toDigits_eq_if (by decide)]
    split
    · next small => simp [spelled?, digit number small]
    · next large =>
      have front := ih (number / 16) (by omega)
      have last := digit (number % 16) (Nat.mod_lt number (by decide))
      unfold spelled? at front ⊢
      rw [List.foldlM_append, front]
      simp only [Option.bind_eq_bind, Option.bind_some, List.foldlM_cons, List.foldlM_nil, last,
        Option.map_some, Option.pure_def, Option.some.injEq]
      omega

theorem spelled?_digits (id : Uuid) : spelled? 0 id.digits = some id.bits.toNat := by
  have zeros (count : Nat) : spelled? 0 (List.replicate count '0') = some 0 := by
    induction count with
    | zero => rfl
    | succ count ih => exact ih
  have number := spelled?_toDigits id.bits.toNat
  have front := zeros (32 - (Nat.toDigits 16 id.bits.toNat).length)
  unfold spelled? at number front ⊢
  rw [digits, List.foldlM_append, front]
  exact number

theorem length_digits (id : Uuid) : id.digits.length = 32 := by
  have short := (Nat.length_toDigits_le_iff (b := 16) (k := 32) (by decide) (by decide)).mpr
    id.bits.isLt
  simp only [digits, List.length_append, List.length_replicate]
  omega

theorem digits_apart (id : Uuid) : ∀ c ∈ id.digits, c ≠ '-' := by
  have digit : ∀ value < 16, Nat.digitChar value ≠ '-' := by decide
  have number (value : Nat) : ∀ c ∈ Nat.toDigits 16 value, c ≠ '-' := by
    induction value using Nat.strongRecOn with
    | ind value ih =>
      rw [Nat.toDigits_eq_if (by decide)]
      split
      · next small => simp [digit value small]
      · next large =>
        intro c member
        rcases List.mem_append.mp member with front | last
        · exact ih (value / 16) (by omega) c front
        · rw [List.mem_singleton.mp last]
          exact digit (value % 16) (Nat.mod_lt value (by decide))
  intro c member
  rcases List.mem_append.mp member with zero | found
  · rw [List.eq_of_mem_replicate zero]
    decide
  · exact number _ c found

theorem ofDigits?_digits (id : Uuid) : ofDigits? id.digits = some id := by
  have number := id.spelled?_digits
  unfold spelled? at number
  rw [ofDigits?, if_pos id.length_digits, number]
  simp

theorem filter_chars (id : Uuid) : id.chars.filter (· != '-') = id.digits := by
  have group {part : List Char} (inside : ∀ c ∈ part, c ∈ id.digits) :
      part.filter (· != '-') = part :=
    List.filter_eq_self.mpr fun c member => bne_iff_ne.mpr (id.digits_apart c (inside c member))
  have taken (start count : Nat) (c : Char) (member : c ∈ (id.digits.drop start).take count) :
      c ∈ id.digits := List.mem_of_mem_drop (List.mem_of_mem_take member)
  have next (start count : Nat) :
      (id.digits.drop start).take count ++ id.digits.drop (start + count) = id.digits.drop start := by
    rw [← List.drop_drop, List.take_append_drop]
  have mark : ('-' != '-') = false := rfl
  simp only [chars, List.filter_append, List.filter_cons, mark, Bool.false_eq_true, if_false,
    group (fun c => List.mem_of_mem_take), group (taken 8 4), group (taken 12 4), group (taken 16 4),
    group (fun c => List.mem_of_mem_drop), List.append_assoc]
  rw [next 16 4, next 12 4, next 8 4, List.take_append_drop]

theorem length_chars (id : Uuid) : id.chars.length = 36 := by
  simp [chars, length_digits]

theorem read?_render (id : Uuid) : read? id.render = some id := by
  have marks : [8, 13, 18, 23].all (fun index => id.chars[index]? == some '-') = true := by
    simp [chars, List.getElem?_append, length_digits]
  rw [read?, render, String.toList_ofList]
  simp only [length_chars]
  rw [ofHyphenated?]
  simp only [length_chars, marks, filter_chars, ofDigits?_digits, decide_true, Bool.and_self, if_true]

end Uuid

end WhereClause
