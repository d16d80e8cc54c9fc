import Mathlib.Algebra.Group.Int.Defs
import Mathlib.Data.Nat.Digits.Defs
import WhereClause.Proofs.RoundTrip

/-! Literals that stand alone.

Values are read back from their own texts with any white space around them, decimals with their
places. An integer is read as the narrowest value that holds it, or as a wide one where the suffix
asks for that. It is never read as another integer: one that is too large for either ends the
reading where it starts.
-/

set_option autoImplicit false

namespace WhereClause

open Reader.Bounded

namespace Value

/-- A value is read back from its own text, whatever white space stands around it. -/
theorem readLiteral_render {value : Value} (writable : value.Writable) {before after : String}
    (beforeBlank : ∀ c ∈ before.toList, Text.isBlank c = true)
    (afterBlank : ∀ c ∈ after.toList, Text.isBlank c = true) :
    readLiteral (before ++ value.render ++ after) = .ok value := by
  have spelled : before ++ value.render ++ after =
      String.ofList (before.toList ++ (value.render.toList ++ after.toList)) := by
    simp [String.append_assoc]
  rw [spelled]
  exact writable.written.spaced beforeBlank afterBlank

/-- The least of all decimals with all its places, lists inside a list, an empty list, quotes behind
a backslash, and blanks of several scripts around. -/
theorem readLiteral_render_nested :
    let least : Value := .decimal
      { negative := true, mantissa := 79228162514264337593543950335, scale := 28,
        fits := by decide, scale_le := by decide }
    let zero : Value := .decimal
      { negative := false, mantissa := 0, scale := 3, fits := by decide, scale_le := by decide }
    let words : Value := .ofItems [.string "\\\"n\n\t\\", .bool false, .ofItems []]
    let value : Value := .ofItems [least, words, zero, .int (-2147483648), .bigInt 7]
    let before := "\u3000\n"
    let after := "\u0085\u2028"
    value.Writable ∧
      value.render = "[-7.9228162514264337593543950335m, " ++
        "[\"\\\\\\\"n\n\t\\\\\", false, []], 0.000m, -2147483648, 7L]" ∧
      readLiteral (before ++ value.render ++ after) = .ok value := by
  intro least zero words value before after
  have wordsWritable : words.Writable := .list _ (by
    simpa using And.intro (Writable.string _) (And.intro (Writable.bool _)
      (Writable.list [] (by simp))))
  have writable : value.Writable := .list _ (by
    simpa using And.intro (Writable.decimal _ (by decide)) (And.intro wordsWritable
      (And.intro (Writable.decimal _ (by decide)) (And.intro (Writable.int _) (Writable.bigInt _)))))
  exact ⟨writable, by rfl, readLiteral_render writable (by decide) (by decide)⟩

end Value

namespace Reader

/-! Integers. -/

/-- What digits denote: the last of them counts ones, and each other ten times as much as the
one behind it. -/
def placeValue (digits : List Char) : Nat :=
  Nat.ofDigits 10 (digits.reverse.map Decimal.digitValue)

/-- A text of an optional sign and digits, zeros in front included, and the integer it denotes. -/
inductive IntegerText : List Char → Int → Prop where
  | unsigned {digits : List Char} : digits ≠ [] → (∀ c ∈ digits, c.isDigit = true) →
      IntegerText digits (placeValue digits)
  | negative {digits : List Char} : digits ≠ [] → (∀ c ∈ digits, c.isDigit = true) →
      IntegerText ('-' :: digits) (-placeValue digits)

/-- Reading from the front gives each digit the worth of its place. -/
theorem digitsValue_eq (digits : List Char) : digitsValue digits = placeValue digits := by
  rw [placeValue, Nat.ofDigits_eq_foldr, List.map_reverse, List.foldr_reverse, List.foldl_map,
    digitsValue]
  congr 1
  funext total c
  exact Nat.add_comm _ _

theorem IntegerText.numeral {text : List Char} {value : Int} (written : IntegerText text value) :
    ∃ numeral : Numeral, numeral.Proper ∧ numeral.chars = text ∧ numeral.fraction = none ∧
      numeral.integer = value := by
  have proper (negative : Bool) {digits : List Char} (some : digits ≠ [])
      (all : ∀ c ∈ digits, c.isDigit = true) :
      Numeral.Proper { negative, whole := digits, fraction := none } :=
    ⟨some, all, by rintro _ ⟨⟩, by rintro _ ⟨⟩⟩
  cases written with
  | unsigned some all =>
    exact ⟨_, proper false some all, rfl, rfl, by rw [Numeral.integer, digitsValue_eq]; rfl⟩
  | negative some all =>
    exact ⟨_, proper true some all, rfl, rfl, by rw [Numeral.integer, digitsValue_eq]; rfl⟩

def refusedAtStart (text : List Char) : Error := .parse 0 (.near (String.ofList (text.take 16)))

/-- A number is taken for no other literal: what it holds decides, and if it holds nothing, the
error is where it starts. -/
theorem readLiteral_number {text : List Char} {held? : Option Value}
    (starts : ∃ c ∈ text.head?, c = '-' ∨ c.isDigit = true)
    (read : number text = held?.elim (.halt .final text) (.done · [])) :
    readLiteral (String.ofList text) = held?.elim (.error (refusedAtStart text)) .ok := by
  have literalRead : literal (text.length + 1) text =
      held?.elim (.halt .final text) (.done · []) := by
    -- a final stop is passed on, so the reader of lists behind it is not tried
    rw [literal_numeric starts, orElse, read]
    cases held? <;> rfl
  have visible : ∀ c ∈ text.head?, Text.isBlank c = false := by
    obtain ⟨c, first, numeric⟩ := starts
    have all : ∀ c ∈ numberStarts, Text.isBlank c = false := by decide
    intro d member
    cases Option.mem_unique first member
    exact all c (mem_numberStarts numeric)
  have some : text.isEmpty = false := by
    obtain ⟨c, first, -⟩ := starts
    obtain ⟨rest, rfl⟩ := List.head?_eq_some_iff.mp first
    rfl
  unfold readLiteral
  simp only [String.toList_ofList, trimStart_visible visible, literalRead]
  cases held? with
  | none =>
    simp only [Option.elim_none, Error.ofHalt, Nat.sub_self, some, Bool.false_eq_true, if_false,
      refusedAtStart]
  | some held => rfl

namespace IntegerText

variable {text : String} {value : Int}

/-- Without a suffix, the narrow width is tried before the wide one. -/
theorem readLiteral_plain (written : IntegerText text.toList value) :
    readLiteral text = ((int32? value).orElse fun _ => int64? value).elim
      (.error (refusedAtStart text.toList)) .ok := by
  obtain ⟨numeral, proper, chars, fraction, integer⟩ := written.numeral
  have held : numeral.plain? = (int32? value).orElse fun _ => int64? value := by
    simp only [Numeral.plain?, fraction, integer]
  have found : number numeral.chars =
      numeral.plain?.elim (.halt .final numeral.chars) (.done · []) := by
    simpa using number_plain proper .nil
  have read := readLiteral_number proper.starts found
  rwa [held, chars, String.ofList_toList] at read

theorem readLiteral_wide (written : IntegerText text.toList value) :
    readLiteral (text ++ "L") =
      (int64? value).elim (.error (refusedAtStart (text ++ "L").toList)) .ok := by
  obtain ⟨numeral, proper, chars, fraction, integer⟩ := written.numeral
  have held : numeral.bigInt? = int64? value := by
    simp only [Numeral.bigInt?, fraction, integer]
  have spelled : (text ++ "L").toList = numeral.chars ++ ['L'] := by
    rw [String.toList_append, chars]
    rfl
  have starts : ∃ c ∈ (numeral.chars ++ ['L']).head?, c = '-' ∨ c.isDigit = true := by
    obtain ⟨c, first, starts⟩ := proper.starts
    exact ⟨c, by rw [List.head?_append, Option.mem_def.mp first]; rfl, starts⟩
  have read := readLiteral_number starts (number_bigInt proper [])
  rwa [held, ← spelled, String.ofList_toList] at read

end IntegerText

theorem int32?_held {value : Int} (range : -2 ^ 31 ≤ value ∧ value < 2 ^ 31) :
    ∃ held : Int32, held.toInt = value ∧ int32? value = some (.int held) :=
  ⟨Int32.ofInt value, Int32.toInt_ofInt_of_le range.1 range.2, if_pos range⟩

theorem int64?_held {value : Int} (range : -2 ^ 63 ≤ value ∧ value < 2 ^ 63) :
    ∃ held : Int64, held.toInt = value ∧ int64? value = some (.bigInt held) :=
  ⟨Int64.ofInt value, Int64.toInt_ofInt_of_le range.1 range.2, if_pos range⟩

theorem int32?_beyond {value : Int} (beyond : ¬ (-2 ^ 31 ≤ value ∧ value < 2 ^ 31)) :
    int32? value = none :=
  if_neg beyond

theorem int64?_beyond {value : Int} (beyond : ¬ (-2 ^ 63 ≤ value ∧ value < 2 ^ 63)) :
    int64? value = none :=
  if_neg beyond

/-- An integer is read with the value that it denotes, or refused where it starts. -/
theorem readLiteral_integer {text : String} {value : Int}
    (written : IntegerText text.toList value) :
    (-2 ^ 31 ≤ value ∧ value < 2 ^ 31 →
      ∃ held : Int32, held.toInt = value ∧ readLiteral text = .ok (.int held)) ∧
    (¬ (-2 ^ 31 ≤ value ∧ value < 2 ^ 31) → -2 ^ 63 ≤ value ∧ value < 2 ^ 63 →
      ∃ held : Int64, held.toInt = value ∧ readLiteral text = .ok (.bigInt held)) ∧
    (¬ (-2 ^ 63 ≤ value ∧ value < 2 ^ 63) →
      readLiteral text = .error (.parse 0 (.near (String.ofList (text.toList.take 16))))) ∧
    (-2 ^ 63 ≤ value ∧ value < 2 ^ 63 →
      ∃ held : Int64, held.toInt = value ∧ readLiteral (text ++ "L") = .ok (.bigInt held)) ∧
    (¬ (-2 ^ 63 ≤ value ∧ value < 2 ^ 63) →
      readLiteral (text ++ "L") =
        .error (.parse 0 (.near (String.ofList ((text ++ "L").toList.take 16))))) := by
  have plain := written.readLiteral_plain
  have wide := written.readLiteral_wide
  refine ⟨fun range => ?_, fun beyond range => ?_, fun beyond => ?_, fun range => ?_,
    fun beyond => ?_⟩
  · obtain ⟨held, same, fits⟩ := int32?_held range
    rw [fits] at plain
    exact ⟨held, same, plain⟩
  · obtain ⟨held, same, fits⟩ := int64?_held range
    rw [int32?_beyond beyond, fits] at plain
    exact ⟨held, same, plain⟩
  · -- what is too large for the wide range is too large for the narrow one
    have beyondNarrow : ¬ (-2 ^ 31 ≤ value ∧ value < 2 ^ 31) := by omega
    rw [int32?_beyond beyondNarrow, int64?_beyond beyond] at plain
    exact plain
  · obtain ⟨held, same, fits⟩ := int64?_held range
    rw [fits] at wide
    exact ⟨held, same, wide⟩
  · rw [int64?_beyond beyond] at wide
    exact wide

/-- The least narrow integer, with zeros in front and with the suffix, the first one above that has to
be wide, and the first one below that is refused. -/
theorem readLiteral_integer_limits :
    (IntegerText "-0002147483648".toList (-2147483648) ∧
      readLiteral "-0002147483648" = .ok (.int (-2147483648)) ∧
      readLiteral "-0002147483648L" = .ok (.bigInt (-2147483648))) ∧
    (IntegerText "2147483648".toList 2147483648 ∧
      readLiteral "2147483648" = .ok (.bigInt 2147483648)) ∧
    (IntegerText "-9223372036854775809".toList (-9223372036854775809) ∧
      readLiteral "-9223372036854775809" = .error (.parse 0 (.near "-922337203685477")) ∧
      readLiteral "-9223372036854775809L" = .error (.parse 0 (.near "-922337203685477"))) := by
  have least : IntegerText "-0002147483648".toList (-2147483648) :=
    .negative (by decide) (by decide)
  have wide : IntegerText "2147483648".toList 2147483648 := .unsigned (by decide) (by decide)
  have beyond : IntegerText "-9223372036854775809".toList (-9223372036854775809) :=
    .negative (by decide) (by decide)
  obtain ⟨narrowHeld, -, -, suffixHeld, -⟩ := readLiteral_integer least
  obtain ⟨-, wideHeld, -⟩ := readLiteral_integer wide
  obtain ⟨-, -, refused, -, suffixRefused⟩ := readLiteral_integer beyond
  refine ⟨⟨least, ?_, ?_⟩, ⟨wide, ?_⟩, beyond, refused (by decide), suffixRefused (by decide)⟩
  · obtain ⟨held, same, read⟩ := narrowHeld (by decide)
    rwa [Int32.toInt_inj.mp (same.trans (by decide : _ = (-2147483648 : Int32).toInt))] at read
  · obtain ⟨held, same, read⟩ := suffixHeld (by decide)
    rwa [Int64.toInt_inj.mp (same.trans (by decide : _ = (-2147483648 : Int64).toInt))] at read
  · obtain ⟨held, same, read⟩ := wideHeld (by decide) (by decide)
    rwa [Int64.toInt_inj.mp (same.trans (by decide : _ = (2147483648 : Int64).toInt))] at read

end Reader

end WhereClause
