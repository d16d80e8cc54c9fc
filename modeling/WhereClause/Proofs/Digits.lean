import Mathlib.Algebra.Group.Nat.Defs
import WhereClause.Time.Timestamp

/-! Digits of a fixed width.

Numbers that are written with zeros in front, up to the same width, are ordered as their texts are.
-/

set_option autoImplicit false

namespace WhereClause.ClockTime

theorem padded_digits (width value : Nat) : ∀ c ∈ padded width value, c.isDigit = true := by
  intro c member
  rcases List.mem_append.mp member with zero | digit
  · rw [List.eq_of_mem_replicate zero]
    rfl
  · exact Nat.isDigit_of_mem_toDigits (by decide) (by decide) digit

theorem padded_ne_nil (width value : Nat) : padded width value ≠ [] := by
  intro none
  exact Nat.toDigits_ne_nil (List.append_eq_nil_iff.mp none).2

theorem length_padded {width value : Nat} (positive : 0 < width) (fits : value < 10 ^ width) :
    (padded width value).length = width := by
  have short := (Nat.length_toDigits_le_iff (by decide) positive).mpr fits
  simp only [padded, List.length_append, List.length_replicate]
  omega

theorem padded_value (width value : Nat) : Nat.ofDigitChars 10 (padded width value) 0 = value := by
  have zeros (count : Nat) : Nat.ofDigitChars 10 (List.replicate count '0') 0 = 0 := by
    induction count with
    | zero => rfl
    | succ count ih => exact ih
  rw [padded, Nat.ofDigitChars_append, zeros, Nat.ofDigitChars_ten_toDigits]

/-- Zeros behind a number are zeros behind its digits. -/
theorem padded_mul_pow (width : Nat) {value : Nat} (positive : 0 < value) (count : Nat) :
    padded (width + count) (value * 10 ^ count) = padded width value ++ List.replicate count '0' := by
  have digits : Nat.toDigits 10 (value * 10 ^ count) =
      Nat.toDigits 10 value ++ List.replicate count '0' := by
    induction count with
    | zero => simp
    | succ count ih =>
      have more : 0 < value * 10 ^ count := Nat.mul_pos positive (Nat.pow_pos (by decide))
      have append := Nat.toDigits_append_toDigits (b := 10) (d := 0) (by decide) more (by decide)
      rw [Nat.pow_succ, ← Nat.mul_assoc, Nat.mul_comm _ 10, List.replicate_succ', ← List.append_assoc,
        ← ih]
      exact append.symm
  simp only [padded, digits, List.length_append, List.length_replicate, Nat.add_sub_add_right,
    List.append_assoc]

theorem digit_range {c : Char} (digit : c.isDigit = true) : 48 ≤ c.toNat ∧ c.toNat ≤ 57 :=
  Char.isDigit_iff_toNat.mp digit

theorem char_lt_iff {c d : Char} : c < d ↔ c.toNat < d.toNat :=
  Char.lt_def.trans UInt32.lt_iff_toNat_lt

theorem lt_of_value_lt {left right : List Char} {start first : Nat}
    (same : left.length = right.length) (leftDigits : ∀ c ∈ left, c.isDigit = true)
    (rightDigits : ∀ c ∈ right, c.isDigit = true)
    (less : Nat.ofDigitChars 10 left start < Nat.ofDigitChars 10 right first) :
    start < first ∨ start = first ∧ left < right := by
  -- on the digits: what is spelled so far decides, and digits behind it cannot catch up
  induction left generalizing right start first with
  | nil =>
    cases List.length_eq_zero_iff.mp same.symm
    exact .inl less
  | cons c left ih =>
    cases right with
    | nil => cases same
    | cons d right =>
      rw [Nat.ofDigitChars_cons, Nat.ofDigitChars_cons] at less
      obtain ⟨digit, leftDigits⟩ := List.forall_mem_cons.mp leftDigits
      obtain ⟨other, rightDigits⟩ := List.forall_mem_cons.mp rightDigits
      have zero : '0'.toNat = 48 := rfl
      have cRange := digit_range digit
      have dRange := digit_range other
      rw [List.cons_lt_cons_iff, char_lt_iff, ← Char.toNat_inj]
      rcases ih (Nat.succ.inj same) leftDigits rightDigits less with smaller | ⟨equal, behind⟩
      · omega
      · exact .inr ⟨by omega, .inr ⟨by omega, behind⟩⟩

theorem append_lt_append {left right : List Char} (same : left.length = right.length)
    (less : left < right) (behind after : List Char) : left ++ behind < right ++ after := by
  induction left generalizing right with
  | nil =>
    cases List.length_eq_zero_iff.mp same.symm
    exact absurd less (List.lt_irrefl [])
  | cons c left ih =>
    cases right with
    | nil => cases same
    | cons d right =>
      rw [List.cons_append, List.cons_append, List.cons_lt_cons_iff]
      rcases List.cons_lt_cons_iff.mp less with smaller | ⟨equal, less⟩
      · exact .inl smaller
      · exact .inr ⟨equal, ih (Nat.succ.inj same) less⟩

/-- A field of a fixed width decides the order of two texts, or leaves it to what stands behind. -/
theorem padded_append_lt {width left right : Nat} {behind after : List Char} (positive : 0 < width)
    (leftFits : left < 10 ^ width) (rightFits : right < 10 ^ width)
    (less : left < right ∨ left = right ∧ behind < after) :
    padded width left ++ behind < padded width right ++ after := by
  rcases less with smaller | ⟨rfl, less⟩
  · have same : (padded width left).length = (padded width right).length := by
      rw [length_padded positive leftFits, length_padded positive rightFits]
    have values : Nat.ofDigitChars 10 (padded width left) 0 <
        Nat.ofDigitChars 10 (padded width right) 0 := by
      rwa [padded_value, padded_value]
    have ordered := lt_of_value_lt same (padded_digits _ _) (padded_digits _ _) values
    have ordered := (ordered.resolve_left (Nat.lt_irrefl 0)).2
    exact append_lt_append same ordered behind after
  · exact List.append_left_lt less

/-- Zeros at the end of two texts of digits of one length do not matter for their order. -/
theorem lt_of_zeros_lt {left right : List Char} {count more : Nat}
    (leftDigits : ∀ c ∈ left, c.isDigit = true)
    (same : left.length + count = right.length + more)
    (less : left ++ List.replicate count '0' < right ++ List.replicate more '0') : left < right := by
  induction left generalizing right more with
  | nil =>
    cases right with
    | nil =>
      cases (by simpa using same : count = more)
      exact absurd less (List.lt_irrefl _)
    | cons d right => exact List.nil_lt_cons d right
  | cons c left ih =>
    obtain ⟨digit, leftDigits⟩ := List.forall_mem_cons.mp leftDigits
    cases right with
    | nil =>
      -- a digit is not below a zero
      cases more with
      | zero => cases less
      | succ more =>
        have range := digit_range digit
        rw [List.nil_append, List.replicate_succ, List.cons_append, List.cons_lt_cons_iff] at less
        rcases less with smaller | ⟨-, less⟩
        · rw [char_lt_iff] at smaller
          exact absurd smaller (Nat.not_lt.mpr range.1)
        · have same : left.length + count = ([] : List Char).length + more := by
            simp only [List.length_cons, List.length_nil] at same ⊢
            omega
          exact absurd (ih leftDigits same less) (List.not_lt_nil left)
    | cons d right =>
      rw [List.cons_append, List.cons_append, List.cons_lt_cons_iff] at less
      rw [List.cons_lt_cons_iff]
      rcases less with smaller | ⟨equal, less⟩
      · exact .inl smaller
      · refine .inr ⟨equal, ih leftDigits ?_ less⟩
        simp only [List.length_cons] at same
        omega

end WhereClause.ClockTime
