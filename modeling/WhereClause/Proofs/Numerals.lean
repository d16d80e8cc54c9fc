import WhereClause.Proofs.Digits
import WhereClause.Proofs.Reading
import WhereClause.Reader.Literal

/-! Texts of numbers.

A number is read as far as its digits and its suffix go, and what is read is always such a text.
Integers and decimals that are written out are read back: integers of either width over their
whole range, and decimals with the places that they have.
-/

set_option autoImplicit false

namespace WhereClause

open Reader.Bounded

namespace Reader

/-- Digits on both sides of the point, if there is one. -/
structure Numeral.Proper (numeral : Numeral) : Prop where
  whole_ne : numeral.whole ≠ []
  whole : ∀ c ∈ numeral.whole, c.isDigit = true
  fraction_ne : ∀ digits ∈ numeral.fraction, digits ≠ []
  fraction : ∀ digits ∈ numeral.fraction, ∀ c ∈ digits, c.isDigit = true

def unsigned (negative : Bool) (body : List Char) : Outcome Numeral :=
  let whole := body.takeWhile Char.isDigit
  if whole.isEmpty then .halt .recoverable body
  else
    match body.dropWhile Char.isDigit with
    | '.' :: rest =>
      let digits := rest.takeWhile Char.isDigit
      if digits.isEmpty then .done { negative, whole, fraction := none } ('.' :: rest)
      else .done { negative, whole, fraction := some digits } (rest.dropWhile Char.isDigit)
    | rest => .done { negative, whole, fraction := none } rest

theorem numeral_signed (body : List Char) : numeral ('-' :: body) = unsigned true body := rfl

theorem numeral_unsigned {text : List Char} (positive : text.head? ≠ some '-') :
    numeral text = unsigned false text := by
  unfold numeral
  split
  · next same =>
    split at same
    · exact absurd rfl positive
    · cases same
      rfl

theorem unsigned_of_digits (negative : Bool) {whole rest : List Char} (some : whole ≠ [])
    (digits : ∀ c ∈ whole, c.isDigit = true) (ends : ∀ c ∈ rest.head?, c.isDigit = false ∧ c ≠ '.') :
    unsigned negative (whole ++ rest) = .done { negative, whole, fraction := none } rest := by
  obtain ⟨taken, dropped⟩ := span_run digits fun c member => (ends c member).1
  simp only [unsigned, taken, dropped, List.isEmpty_iff, some, if_false]
  split
  · exact absurd rfl (ends '.' rfl).2
  · rfl

theorem unsigned_of_fraction (negative : Bool) {whole fraction rest : List Char} (some : whole ≠ [])
    (digits : ∀ c ∈ whole, c.isDigit = true) (fractionSome : fraction ≠ [])
    (fractionDigits : ∀ c ∈ fraction, c.isDigit = true)
    (ends : ∀ c ∈ rest.head?, c.isDigit = false ∧ c ≠ '.') :
    unsigned negative (whole ++ '.' :: fraction ++ rest) =
      .done { negative, whole, fraction := Option.some fraction } rest := by
  have point : ∀ c ∈ ('.' :: fraction ++ rest).head?, c.isDigit = false := by
    rintro c ⟨⟩
    rfl
  obtain ⟨taken, dropped⟩ := span_run digits point
  obtain ⟨fractionTaken, fractionDropped⟩ := span_run fractionDigits fun c member => (ends c member).1
  simp only [unsigned, List.append_assoc, List.cons_append] at taken dropped ⊢
  simp [taken, dropped, some, fractionTaken, fractionDropped, fractionSome]

theorem numeral_chars {written : Numeral} (proper : written.Proper) (rest : List Char)
    (ends : ∀ c ∈ rest.head?, c.isDigit = false ∧ c ≠ '.') :
    numeral (written.chars ++ rest) = .done written rest := by
  obtain ⟨negative, whole, fraction⟩ := written
  obtain ⟨some, digits, fractionSome, fractionDigits⟩ := proper
  have positive (more : List Char) : (whole ++ more).head? ≠ Option.some '-' := by
    obtain ⟨c, whole, rfl⟩ := List.exists_cons_of_ne_nil some
    rintro ⟨⟩
    exact absurd (digits '-' List.mem_cons_self) (by decide)
  cases fraction with
  | none =>
    cases negative with
    | true => exact (numeral_signed _).trans (unsigned_of_digits _ some digits ends)
    | false => exact (numeral_unsigned (positive _)).trans (unsigned_of_digits _ some digits ends)
  | some fraction =>
    have read (negative : Bool) :=
      unsigned_of_fraction negative some digits (fractionSome _ rfl) (fractionDigits _ rfl) ends
    cases negative with
    | true => exact (numeral_signed _).trans (read _)
    | false =>
      refine (numeral_unsigned ?_).trans (read _)
      change ((whole ++ '.' :: fraction) ++ rest).head? ≠ _
      rw [List.append_assoc]
      exact positive _

theorem unsigned_eq_done {negative : Bool} {body rest : List Char} {found : Numeral}
    (read : unsigned negative body = .done found rest) :
    found.Proper ∧ found.negative = negative ∧
      body = (found.fraction.elim found.whole fun digits => found.whole ++ '.' :: digits) ++ rest := by
  have digits (text : List Char) : ∀ c ∈ text.takeWhile Char.isDigit, c.isDigit = true :=
    fun c member => List.mem_takeWhile_imp member
  simp only [unsigned, List.isEmpty_iff] at read
  by_cases some : body.takeWhile Char.isDigit = []
  · rw [if_pos some] at read
    cases read
  rw [if_neg some] at read
  split at read
  · next rest behind =>
    by_cases fractionSome : rest.takeWhile Char.isDigit = []
    · rw [if_pos fractionSome] at read
      cases read
      refine ⟨⟨some, digits body, ?_, ?_⟩, rfl, ?_⟩ <;> simp [← behind]
    · rw [if_neg fractionSome] at read
      cases read
      refine ⟨⟨some, digits body, ?_, ?_⟩, rfl, ?_⟩
      · rintro _ ⟨⟩
        exact fractionSome
      · rintro _ ⟨⟩
        exact digits rest
      · simp [← behind]
  · cases read
    refine ⟨⟨some, digits body, ?_, ?_⟩, rfl, ?_⟩ <;> simp

theorem numeral_eq_done {text rest : List Char} {found : Numeral}
    (read : numeral text = .done found rest) : found.Proper ∧ text = found.chars ++ rest := by
  by_cases signed : text.head? = some '-'
  · obtain ⟨body, rfl⟩ : ∃ body, text = '-' :: body := by
      cases text with
      | nil => cases signed
      | cons c body =>
        cases signed
        exact ⟨body, rfl⟩
    obtain ⟨proper, negative, rfl⟩ := unsigned_eq_done (numeral_signed body ▸ read)
    refine ⟨proper, ?_⟩
    cases fraction : found.fraction <;> simp [Numeral.chars, negative, fraction]
  · obtain ⟨proper, negative, rfl⟩ := unsigned_eq_done (numeral_unsigned signed ▸ read)
    refine ⟨proper, ?_⟩
    cases fraction : found.fraction <;> simp [Numeral.chars, negative, fraction]

inductive NumberText : List Char → Value → Prop where
  | plain {written : Numeral} {value : Value} : written.Proper → written.plain? = some value →
      NumberText written.chars value
  | bigInt {written : Numeral} {value : Value} : written.Proper → written.bigInt? = some value →
      NumberText (written.chars ++ ['L']) value
  | decimal {written : Numeral} {value : Value} {mark : Char} : mark = 'm' ∨ mark = 'M' →
      written.Proper → written.decimal? = some value → NumberText (written.chars ++ [mark]) value

/-- A number without a suffix is what it holds, or a final stop at its start. -/
theorem number_plain {written : Numeral} (proper : written.Proper) {rest : List Char}
    (breaks : Breaks rest) :
    number (written.chars ++ rest) =
      written.plain?.elim (.halt .final (written.chars ++ rest)) (.done · rest) := by
  have found := numeral_chars proper rest fun c member =>
    ⟨breaks.ends_digits c member, (breaks c member).2⟩
  unfold number
  rw [found, andThen_done]
  split
  next shown same =>
    split at same
    · exact absurd (breaks.ends 'L' rfl) (by decide)
    · exact absurd (breaks.ends 'm' rfl) (by decide)
    · exact absurd (breaks.ends 'M' rfl) (by decide)
    · cases same
      cases written.plain? <;> rfl

theorem number_bigInt {written : Numeral} (proper : written.Proper) (rest : List Char) :
    number (written.chars ++ 'L' :: rest) =
      written.bigInt?.elim (.halt .final (written.chars ++ 'L' :: rest)) (.done · rest) := by
  have found := numeral_chars proper ('L' :: rest) (by rintro c ⟨⟩; decide)
  unfold number
  rw [found, andThen_done]
  cases written.bigInt? <;> rfl

theorem NumberText.read {text : List Char} {value : Value} (written : NumberText text value)
    {rest : List Char} (breaks : Breaks rest) : number (text ++ rest) = .done value rest := by
  cases written with
  | plain proper held =>
    rw [number_plain proper breaks, held, Option.elim_some]
  | bigInt proper held =>
    rw [List.append_assoc, List.singleton_append, number_bigInt proper, held, Option.elim_some]
  | decimal marked proper held =>
    rcases marked with rfl | rfl
    · have found := numeral_chars proper ('m' :: rest) (by rintro c ⟨⟩; decide)
      simp [number, found, held]
    · have found := numeral_chars proper ('M' :: rest) (by rintro c ⟨⟩; decide)
      simp [number, found, held]

theorem number_eq_done {text rest : List Char} {value : Value}
    (read : number text = .done value rest) :
    ∃ written, NumberText written value ∧ text = written ++ rest := by
  obtain ⟨found, behind, numbered, read⟩ := andThen_eq_done read
  obtain ⟨proper, rfl⟩ := numeral_eq_done numbered
  split at read
  next shown same =>
    split at read
    · next held =>
      cases read
      split at same
      all_goals obtain ⟨held, rfl⟩ := Prod.mk.inj same
      · exact ⟨_, .bigInt proper held, by simp⟩
      · exact ⟨_, .decimal (.inl rfl) proper held, by simp⟩
      · exact ⟨_, .decimal (.inr rfl) proper held, by simp⟩
      · exact ⟨_, .plain proper held, rfl⟩
    · cases read

theorem Numeral.Proper.starts {written : Numeral} (proper : written.Proper) :
    ∃ c ∈ written.chars.head?, c = '-' ∨ c.isDigit = true := by
  obtain ⟨negative, whole, fraction⟩ := written
  obtain ⟨c, whole, rfl⟩ := List.exists_cons_of_ne_nil proper.whole_ne
  have digit := proper.whole c List.mem_cons_self
  cases negative <;> cases fraction <;> simp [Numeral.chars, digit]

theorem Numeral.Proper.ends {written : Numeral} (proper : written.Proper) :
    ∃ c ∈ written.chars.getLast?, c.isDigit = true := by
  have last {digits : List Char} (some : digits ≠ []) (all : ∀ c ∈ digits, c.isDigit = true)
      (front : List Char) : ∃ c ∈ (front ++ digits).getLast?, c.isDigit = true :=
    ⟨digits.getLast some, by simp [List.getLast?_append, List.getLast?_eq_some_getLast some],
      all _ (List.getLast_mem some)⟩
  obtain ⟨negative, whole, fraction⟩ := written
  cases fraction with
  | none =>
    have ends := last proper.whole_ne proper.whole
    cases negative with
    | true => exact ends ['-']
    | false => exact ends []
  | some digits =>
    have ends := last (proper.fraction_ne _ rfl) (proper.fraction _ rfl)
    cases negative with
    | true => simpa [Numeral.chars] using ends ('-' :: whole ++ ['.'])
    | false => simpa [Numeral.chars] using ends (whole ++ ['.'])

theorem number_refuses {text : List Char} (unsigned : text.head? ≠ some '-')
    (digitless : ∀ c ∈ text.head?, c.isDigit = false) : Refuses number text := by
  have empty : text.takeWhile Char.isDigit = [] := by
    cases text with
    | nil => rfl
    | cons c rest => simp [digitless c rfl]
  refine Refuses.andThen ⟨text, ?_⟩ _
  rw [numeral_unsigned unsigned, Reader.unsigned]
  simp [empty]

/-! Integers and decimals that are written out. -/

theorem digitsValue_toDigits (value : Nat) : digitsValue (Nat.toDigits 10 value) = value := by
  have read := Nat.ofDigitChars_ten_toDigits (n := value)
  rwa [Nat.ofDigitChars_eq_foldl] at read

def wholeNumeral (value : Int) : Numeral where
  negative := decide (value < 0)
  whole := Nat.toDigits 10 value.natAbs
  fraction := none

theorem wholeNumeral_proper (value : Int) : (wholeNumeral value).Proper where
  whole_ne := Nat.toDigits_ne_nil
  whole := fun _ member => Nat.isDigit_of_mem_toDigits (by decide) (by decide) member
  fraction_ne := by
    rintro digits ⟨⟩
  fraction := by
    rintro digits ⟨⟩

theorem wholeNumeral_chars (value : Int) : (wholeNumeral value).chars = Value.intChars value := by
  simp [wholeNumeral, Numeral.chars, Value.intChars]

theorem wholeNumeral_integer (value : Int) : (wholeNumeral value).integer = value := by
  simp only [Numeral.integer, wholeNumeral, digitsValue_toDigits, signed, decide_eq_true_eq]
  split <;> omega

theorem numberText_int (value : Int32) : NumberText (Value.intChars value.toInt) (.int value) := by
  rw [← wholeNumeral_chars]
  refine .plain (wholeNumeral_proper _) ?_
  have range : -Int.pow 2 31 ≤ value.toInt ∧ value.toInt < Int.pow 2 31 :=
    ⟨value.le_toInt, value.toInt_lt⟩
  change (int32? (wholeNumeral value.toInt).integer).orElse _ = _
  rw [wholeNumeral_integer, int32?, if_pos range, Int32.ofInt_toInt]
  rfl

theorem numberText_bigInt (value : Int64) :
    NumberText (Value.intChars value.toInt ++ ['L']) (.bigInt value) := by
  rw [← wholeNumeral_chars]
  refine .bigInt (wholeNumeral_proper _) ?_
  have range : -Int.pow 2 63 ≤ value.toInt ∧ value.toInt < Int.pow 2 63 :=
    ⟨value.le_toInt, value.toInt_lt⟩
  change int64? (wholeNumeral value.toInt).integer = _
  rw [wholeNumeral_integer, int64?, if_pos range, Int64.ofInt_toInt]

end Reader

namespace Decimal

theorem ofDigitChars_cons (c : Char) (digits : List Char) (start : Nat) :
    Nat.ofDigitChars 10 (c :: digits) start = Nat.ofDigitChars 10 digits (10 * start + digitValue c) :=
  Nat.ofDigitChars_cons

theorem le_ofDigitChars (digits : List Char) (start : Nat) :
    start ≤ Nat.ofDigitChars 10 digits start := by
  induction digits generalizing start with
  | nil => exact Nat.le_refl start
  | cons c digits ih =>
    rw [ofDigitChars_cons]
    have next := ih (10 * start + digitValue c)
    omega

/-- Digits of the whole part are taken one by one as long as the number fits. -/
theorem readDigits_whole {negative seen : Bool} {digits : List Char}
    (all : ∀ c ∈ digits, c.isDigit = true) {mantissa : Nat} {rest : List Char}
    (fits : Nat.ofDigitChars 10 digits mantissa < Nat.pow 2 96) :
    readDigits? negative mantissa 0 false seen (digits ++ rest) =
      readDigits? negative (Nat.ofDigitChars 10 digits mantissa) 0 false (seen || !digits.isEmpty)
        rest := by
  induction digits generalizing mantissa seen with
  | nil => simp
  | cons c digits ih =>
    rw [ofDigitChars_cons] at fits
    -- further digits only add to the mantissa, so it has not overflowed yet
    have next : 10 * mantissa + digitValue c < Nat.pow 2 96 :=
      Nat.lt_of_le_of_lt (le_ofDigitChars digits _) fits
    rw [List.cons_append, readDigits?, ofDigitChars_cons]
    simp only [Bool.false_and, Bool.false_eq_true, if_false, all c List.mem_cons_self, if_true, next]
    rw [ih (fun d member => all d (List.mem_cons_of_mem _ member)) fits]
    simp

theorem readDigits_fraction {negative : Bool} {digits : List Char}
    (all : ∀ c ∈ digits, c.isDigit = true) {mantissa scale : Nat}
    (fits : Nat.ofDigitChars 10 digits mantissa < Nat.pow 2 96) (places : scale + digits.length ≤ 28) :
    readDigits? negative mantissa scale true true digits =
      ofDigits? negative (Nat.ofDigitChars 10 digits mantissa) (scale + digits.length) := by
  induction digits generalizing mantissa scale with
  | nil => simp [readDigits?]
  | cons c digits ih =>
    rw [ofDigitChars_cons] at fits
    have next : 10 * mantissa + digitValue c < Nat.pow 2 96 :=
      Nat.lt_of_le_of_lt (le_ofDigitChars digits _) fits
    rw [List.length_cons] at places
    have room : ¬ 28 ≤ scale := by omega
    rw [readDigits?, ofDigitChars_cons]
    simp only [Bool.true_and, decide_eq_true_eq, room, if_false, all c List.mem_cons_self, if_true,
      next]
    rw [ih (fun d member => all d (List.mem_cons_of_mem _ member)) fits (by omega), List.length_cons]
    congr 1
    omega

/-- The digits of the mantissa, with zeros in front so that one stands before the point. -/
def padded (number : Decimal) : List Char :=
  List.replicate (number.scale + 1 - (Nat.toDigits 10 number.mantissa).length) '0' ++
    Nat.toDigits 10 number.mantissa

theorem padded_digits (number : Decimal) : ∀ c ∈ number.padded, c.isDigit = true :=
  ClockTime.padded_digits (number.scale + 1) number.mantissa

theorem scale_lt_padded (number : Decimal) : number.scale < number.padded.length := by
  have some : 0 < (Nat.toDigits 10 number.mantissa).length :=
    List.length_pos_iff.mpr Nat.toDigits_ne_nil
  simp only [padded, List.length_append, List.length_replicate]
  omega

theorem padded_value (number : Decimal) : Nat.ofDigitChars 10 number.padded 0 = number.mantissa :=
  ClockTime.padded_value (number.scale + 1) number.mantissa

def wholeDigits (number : Decimal) : List Char :=
  number.padded.take (number.padded.length - number.scale)

def fractionDigits (number : Decimal) : List Char :=
  number.padded.drop (number.padded.length - number.scale)

theorem wholeDigits_ne_nil (number : Decimal) : number.wholeDigits ≠ [] := by
  have long := number.scale_lt_padded
  apply List.length_pos_iff.mp
  rw [wholeDigits, List.length_take]
  omega

theorem length_fractionDigits (number : Decimal) : number.fractionDigits.length = number.scale := by
  have long := number.scale_lt_padded
  rw [fractionDigits, List.length_drop]
  omega

theorem wholeDigits_isDigit (number : Decimal) : ∀ c ∈ number.wholeDigits, c.isDigit = true :=
  fun c member => number.padded_digits c (List.mem_of_mem_take member)

theorem fractionDigits_isDigit (number : Decimal) : ∀ c ∈ number.fractionDigits, c.isDigit = true :=
  fun c member => number.padded_digits c (List.mem_of_mem_drop member)

/-- Read one behind the other, the two parts are the mantissa. -/
theorem parts_value (number : Decimal) :
    Nat.ofDigitChars 10 number.fractionDigits (Nat.ofDigitChars 10 number.wholeDigits 0) =
      number.mantissa := by
  rw [← Nat.ofDigitChars_append, wholeDigits, fractionDigits, List.take_append_drop, padded_value]

def unsignedChars (number : Decimal) : List Char :=
  if number.scale = 0 then number.wholeDigits else number.wholeDigits ++ '.' :: number.fractionDigits

theorem chars_eq (number : Decimal) :
    number.chars = if number.negative then '-' :: number.unsignedChars else number.unsignedChars := by
  by_cases whole : number.scale = 0
  · have all : number.wholeDigits = number.padded := by
      rw [wholeDigits, whole, Nat.sub_zero, List.take_length]
    simp only [unsignedChars, whole, if_true, all]
    simp only [chars, whole, if_true, padded]
  · simp only [unsignedChars, chars, whole, if_false]
    rfl

def numeral (number : Decimal) : Reader.Numeral where
  negative := number.negative
  whole := number.wholeDigits
  fraction := if number.scale = 0 then none else some number.fractionDigits

theorem numeral_chars (number : Decimal) : number.numeral.chars = number.chars := by
  rw [chars_eq]
  by_cases whole : number.scale = 0
  · simp [numeral, Reader.Numeral.chars, unsignedChars, whole]
  · simp [numeral, Reader.Numeral.chars, unsignedChars, whole]

theorem numeral_fraction {number : Decimal} {digits : List Char}
    (present : number.numeral.fraction = some digits) :
    number.scale ≠ 0 ∧ digits = number.fractionDigits := by
  by_cases whole : number.scale = 0
  · simp [numeral, whole] at present
  · exact ⟨whole, by simpa [numeral, whole] using present.symm⟩

theorem numeral_proper (number : Decimal) : number.numeral.Proper where
  whole_ne := number.wholeDigits_ne_nil
  whole := number.wholeDigits_isDigit
  fraction_ne := by
    intro digits present
    obtain ⟨places, rfl⟩ := numeral_fraction present
    apply List.length_pos_iff.mp
    rw [length_fractionDigits]
    omega
  fraction := by
    intro digits present
    obtain ⟨-, rfl⟩ := numeral_fraction present
    exact number.fractionDigits_isDigit

/-- The same number, without a sign if it is zero. -/
def settled (number : Decimal) : Decimal :=
  { number with negative := number.negative && number.mantissa != 0 }

theorem settled_eq {number : Decimal} (unsigned : number.mantissa = 0 → number.negative = false) :
    number.settled = number := by
  have sign : (number.negative && number.mantissa != 0) = number.negative := by
    by_cases zero : number.mantissa = 0
    · rw [unsigned zero, Bool.false_and]
    · simp [zero]
  rw [settled, sign]

theorem ofDigits_self (number : Decimal) :
    ofDigits? number.negative number.mantissa number.scale = some number.settled := by
  have bounds : number.mantissa < Nat.pow 2 96 ∧ number.scale ≤ 28 := ⟨number.fits, number.scale_le⟩
  rw [ofDigits?, ofParts?, dif_pos bounds]
  rfl

theorem readDigits_point (negative : Bool) (mantissa : Nat) (digits : List Char) :
    readDigits? negative mantissa 0 false true ('.' :: digits) =
      readDigits? negative mantissa 0 true true digits := by
  rw [readDigits?]
  rfl

theorem readDigits_unsignedChars (number : Decimal) :
    readDigits? number.negative 0 0 false false number.unsignedChars = some number.settled := by
  have value := number.parts_value
  have count := number.length_fractionDigits
  have fits : Nat.ofDigitChars 10 number.wholeDigits 0 < Nat.pow 2 96 := by
    refine Nat.lt_of_le_of_lt (le_ofDigitChars number.fractionDigits _) ?_
    rw [value]
    exact number.fits
  have whole (rest : List Char) :
      readDigits? number.negative 0 0 false false (number.wholeDigits ++ rest) =
        readDigits? number.negative (Nat.ofDigitChars 10 number.wholeDigits 0) 0 false true rest := by
    rw [readDigits_whole number.wholeDigits_isDigit fits,
      List.isEmpty_eq_false_iff.mpr number.wholeDigits_ne_nil]
    rfl
  rw [unsignedChars]
  by_cases places : number.scale = 0
  · -- without places the whole part is all there is
    rw [places, List.length_eq_zero_iff] at count
    rw [count, Nat.ofDigitChars_nil] at value
    have read := whole []
    rw [List.append_nil, value] at read
    rw [if_pos places, read, readDigits?, if_pos rfl]
    simpa [places] using number.ofDigits_self
  · rw [if_neg places, whole, readDigits_point, readDigits_fraction number.fractionDigits_isDigit,
      value, count, Nat.zero_add, ofDigits_self]
    · rw [value]
      exact number.fits
    · rw [count, Nat.zero_add]
      exact number.scale_le

theorem read_unsigned {text : List Char} (minus : text.head? ≠ some '-') (plus : text.head? ≠ some '+')
    (nonempty : text ≠ []) : read? text = readDigits? false 0 0 false false text := by
  unfold read?
  split
  · exact absurd rfl nonempty
  · exact absurd rfl minus
  · exact absurd rfl plus
  · rfl

/-- A decimal is read back from its text, with its places; only the sign of a zero is lost. -/
theorem read_settled (number : Decimal) : read? number.chars = some number.settled := by
  have read := number.readDigits_unsignedChars
  rw [chars_eq]
  cases sign : number.negative with
  | true =>
    rw [sign] at read
    exact read
  | false =>
    rw [sign] at read
    obtain ⟨c, digits, spelled⟩ := List.exists_cons_of_ne_nil number.wholeDigits_ne_nil
    have digit : c.isDigit = true := number.wholeDigits_isDigit c (by simp [spelled])
    have first : number.unsignedChars.head? = some c := by
      rw [unsignedChars, spelled]
      split <;> rfl
    have all : ∀ c ∈ "0123456789".toList, c ≠ '-' ∧ c ≠ '+' := by decide
    obtain ⟨minus, plus⟩ := all c (Reader.mem_digits digit)
    rw [if_neg Bool.false_ne_true, read_unsigned, read]
    · simpa [first] using minus
    · simpa [first] using plus
    · intro empty
      simp [empty] at first

theorem read_chars (number : Decimal) (unsigned : number.mantissa = 0 → number.negative = false) :
    read? number.chars = some number := by
  rw [read_settled, settled_eq unsigned]

end Decimal

namespace Reader

theorem numberText_decimal (number : Decimal)
    (unsigned : number.mantissa = 0 → number.negative = false) :
    NumberText (number.chars ++ ['m']) (.decimal number) := by
  rw [← number.numeral_chars]
  refine .decimal (.inl rfl) number.numeral_proper ?_
  rw [Numeral.decimal?, number.numeral_chars, number.read_chars unsigned]
  rfl

end Reader

end WhereClause
