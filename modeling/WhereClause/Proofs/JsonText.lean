import Mathlib.Tactic.SplitIfs
import WhereClause.Json.Reader
import WhereClause.Proofs.Numerals

/-! JSON texts are read back.

Numbers, strings, arrays and objects are read in front of any rest that does not go on with a
number. Trees that can be written are those whose numbers are integers of 64 bits and whose strings
have no half of a surrogate pair; the reader takes each of them from its compact text.
-/

set_option autoImplicit false

namespace WhereClause

open Reader.Bounded

namespace Json

end Json

/-! Integers. -/

namespace JsonNumber

open Json

end JsonNumber

/-! Strings. -/

namespace Json

section Strings

variable (rest : List Char)

theorem stringBody_escaped {c plain : Char} (known : plainEscape? c = some plain) :
    stringBody ('\\' :: c :: rest) =
      (stringBody rest).map fun (chars, rest) => (plain :: chars, rest) := by
  have other : c ≠ 'u' := by
    rintro rfl
    cases known
  rw [stringBody.eq_def]
  split
  · next same => cases same
  · next same => simp at same
  · next same =>
    simp only [List.cons.injEq, true_and] at same
    exact absurd same.1 other
  · next same =>
    simp only [List.cons.injEq, true_and] at same
    exact absurd same.1 other
  · next same =>
    simp only [List.cons.injEq, true_and] at same
    obtain ⟨rfl, rfl⟩ := same
    simp [known]
  · next escapeless same =>
    simp only [List.cons.injEq] at same
    exact (escapeless c rest same.1.symm same.2.symm).elim

theorem stringBody_plain {c : Char} (quote : c ≠ '"') (slash : c ≠ '\\') (visible : ¬ c.toNat < 0x20) :
    stringBody (c :: rest) = (stringBody rest).map fun (chars, rest) => (c :: chars, rest) := by
  rw [stringBody.eq_def]
  split
  · next same => cases same
  · next same => exact absurd (List.cons.inj same).1 quote
  · next same => exact absurd (List.cons.inj same).1 slash
  · next same => exact absurd (List.cons.inj same).1 slash
  · next same => exact absurd (List.cons.inj same).1 slash
  · next same =>
    obtain ⟨rfl, rfl⟩ := List.cons.inj same
    simp [slash, visible]

end Strings

/-! Lists with commas. -/

def joined {α : Type} (write : α → List Char → List Char) : List α → (after : List Char) → List Char
  | [], after => after
  | [item], after => write item after
  | item :: next :: rest, after => write item (',' :: joined write (next :: rest) after)

def listed {α : Type} (close : Char) (item : List Char → Option (α × List Char)) :
    (limit : Nat) → List Char → Option (List α × List Char)
  | 0, _ => none
  | limit + 1, text =>
    match item text with
    | none => none
    | some (value, rest) =>
      match skip rest with
      | [] => none
      | c :: next =>
        if c = ',' then (listed close item limit next).map fun (values, rest) => (value :: values, rest)
        else if c = close then some ([value], next)
        else none

theorem items_eq (item : List Char → Option (Json × List Char)) (limit : Nat) (text : List Char) :
    items item limit text = listed ']' item limit text := by
  induction limit generalizing text with
  | zero => rfl
  | succ limit ih =>
    rw [items, listed]
    cases item text with
    | none => rfl
    | some found =>
      obtain ⟨value, rest⟩ := found
      dsimp only
      split
      · next shape => simp [shape, ih]
      · next shape => simp [shape]
      · next comma close =>
        cases shape : skip rest with
        | nil => rfl
        | cons c next =>
          have notComma : c ≠ ',' := fun same => comma next (same ▸ shape)
          have notClose : c ≠ ']' := fun same => close next (same ▸ shape)
          simp [notComma, notClose]

section Lists

variable {α β : Type} {write : α → List Char → List Char} {list : List α}

end Lists

/-- Trees that are read back from their text: their numbers are integers of 64 bits, and all of
their strings have a value. -/
inductive Plain : Json → Prop where
  | null : Plain .null
  | bool (value : Bool) : Plain (.bool value)
  | integer {value : Int} : -Int.pow 2 63 ≤ value → value < Int.pow 2 64 → Plain (.ofInt value)
  | string (value : String) : Plain (.string value)
  | array {items : List Json} : (∀ item ∈ items, Plain item) → Plain (.array items)
  | object {fields : List (String × Json)} : (∀ field ∈ fields, Plain field.2) →
      Plain (.object fields)

def numeralStarts : List Char := "-0123456789".toList

theorem intChars_starts (value : Int) :
    ∃ c rest, intChars value = c :: rest ∧ c ∈ numeralStarts := by
  unfold intChars
  split
  · exact ⟨_, _, rfl, by decide⟩
  · cases spelled : Nat.toDigits 10 value.natAbs with
    | nil => exact absurd spelled Nat.toDigits_ne_nil
    | cons c digits =>
      have digit : c.isDigit = true :=
        Nat.isDigit_of_mem_toDigits (by decide) (by decide) (spelled ▸ List.mem_cons_self)
      exact ⟨c, digits, rfl, List.mem_cons_of_mem _ (Reader.mem_digits digit)⟩

namespace Plain

variable {json : Json}

theorem starts (plain : json.Plain) (after : List Char) :
    ∃ c rest, json.compactOnto after = c :: rest ∧ isBlank c = false ∧ c ≠ ']' := by
  cases plain with
  | null => exact ⟨_, _, rfl, rfl, by decide⟩
  | bool value => cases value <;> exact ⟨_, _, rfl, rfl, by decide⟩
  | @integer value least most =>
    obtain ⟨c, rest, written, numeral⟩ := intChars_starts value
    have all : ∀ c ∈ numeralStarts, isBlank c = false ∧ c ≠ ']' := by decide
    refine ⟨c, rest ++ after, ?_, all c numeral⟩
    rw [ofInt, compactOnto, scalarOnto, numberChars, written, List.cons_append]
    all_goals simp
  | string value => exact ⟨_, _, rfl, rfl, by decide⟩
  | array => exact ⟨_, _, rfl, rfl, by decide⟩
  | object => exact ⟨_, _, rfl, rfl, by decide⟩

section Nested

variable {inner : Nat} (after : List Char)

end Nested

end Plain

end Json

end WhereClause
