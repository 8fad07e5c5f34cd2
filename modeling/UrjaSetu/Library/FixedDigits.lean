import UrjaSetu.Library.Calendar

/-!
Decimal fields of a fixed width, as dates and clocks are written, and the reader
that takes such a field off a text.

Owns: that a field is read back, that a wide field is narrower ones side by
side, and which numerals and padded numerals are fields.
-/

namespace UrjaSetu.Library.FixedDigits

open Calendar Numerals

/-- The last `width` decimal digits of `number`. -/
def fixedDigits : ℕ → ℕ → List Char
  | 0, _ => []
  | width + 1, number => fixedDigits width (number / 10) ++ [Nat.digitChar (number % 10)]

/-- The number that `count` digits at the head of the text make, and what
follows them. -/
def takeDigits (count : ℕ) (text : List Char) : Option (ℕ × List Char) :=
  if (text.take count).length = count ∧ (text.take count).all Char.isDigit then
    some (Nat.ofDigitChars 10 (text.take count) 0, text.drop count)
  else none

@[simp] theorem fixedDigits_length (width number : ℕ) :
    (fixedDigits width number).length = width := by
  induction width generalizing number with
  | zero => rfl
  | succ width inductionHypothesis => simp [fixedDigits, inductionHypothesis]

theorem digitChar_isDigit (digit : ℕ) (small : digit < 10) : (Nat.digitChar digit).isDigit = true := by
  have every : ∀ digit < 10, (Nat.digitChar digit).isDigit = true := by decide
  exact every digit small

theorem fixedDigits_isDigit (width number : ℕ) :
    ∀ char ∈ fixedDigits width number, char.isDigit = true := by
  induction width generalizing number with
  | zero =>
      intro char member
      cases member
  | succ width inductionHypothesis =>
      intro char member
      rcases List.mem_append.mp member with early | last
      · exact inductionHypothesis _ char early
      · rw [List.mem_singleton.mp last]
        exact digitChar_isDigit _ (Nat.mod_lt _ (by norm_num))

theorem ofDigitChars_fixedDigits (width number : ℕ) :
    Nat.ofDigitChars 10 (fixedDigits width number) 0 = number % 10 ^ width := by
  induction width generalizing number with
  | zero => simp [fixedDigits, Nat.mod_one]
  | succ width inductionHypothesis =>
      rw [fixedDigits, Nat.ofDigitChars_append, inductionHypothesis,
        Nat.ofDigitChars_cons_digitChar_of_lt_ten (Nat.mod_lt _ (by norm_num)),
        Nat.ofDigitChars_nil, pow_succ, mul_comm (10 ^ width) 10, Nat.mod_mul]
      ring

/-- A field is read back, whatever follows it. -/
theorem takeDigits_fixedDigits (width number : ℕ) (rest : List Char) :
    takeDigits width (fixedDigits width number ++ rest) = some (number % 10 ^ width, rest) := by
  have field : (fixedDigits width number ++ rest).take width = fixedDigits width number :=
    List.take_left' (fixedDigits_length width number)
  have after : (fixedDigits width number ++ rest).drop width = rest :=
    List.drop_left' (fixedDigits_length width number)
  rw [takeDigits, field, after, if_pos ⟨fixedDigits_length width number,
    List.all_eq_true.mpr (fixedDigits_isDigit width number)⟩, ofDigitChars_fixedDigits]

theorem takeDigits_fixedDigits_end (width number : ℕ) :
    takeDigits width (fixedDigits width number) = some (number % 10 ^ width, []) := by
  have read := takeDigits_fixedDigits width number []
  rwa [List.append_nil] at read

/-- A text that is too short has no field. -/
theorem takeDigits_short {count : ℕ} {text : List Char} (short : text.length < count) :
    takeDigits count text = none := by
  rw [takeDigits, if_neg]
  rintro ⟨length, -⟩
  rw [List.length_take] at length
  omega

/-- A field of two widths is the two fields side by side. -/
theorem fixedDigits_add (left right number : ℕ) :
    fixedDigits (left + right) number =
      fixedDigits left (number / 10 ^ right) ++ fixedDigits right number := by
  induction right generalizing number with
  | zero => simp [fixedDigits]
  | succ right inductionHypothesis =>
      rw [← Nat.add_assoc, fixedDigits, inductionHypothesis, fixedDigits, List.append_assoc,
        Nat.div_div_eq_div_mul, pow_succ, mul_comm 10]

theorem fixedDigits_zero (width : ℕ) : fixedDigits width 0 = List.replicate width '0' := by
  induction width with
  | zero => rfl
  | succ width inductionHypothesis =>
      rw [fixedDigits, Nat.zero_div, inductionHypothesis, List.replicate_succ']
      rfl

/-! ## Numerals that are fields -/

theorem toDigits_eq_fixedDigits {width number : ℕ} (leading : 10 ^ width ≤ number)
    (within : number < 10 ^ (width + 1)) :
    Nat.toDigits 10 number = fixedDigits (width + 1) number := by
  induction width generalizing number with
  | zero =>
      rw [Nat.toDigits_of_lt_base (by omega), fixedDigits, fixedDigits, List.nil_append,
        Nat.mod_eq_of_lt (by omega)]
  | succ width inductionHypothesis =>
      have two : 10 ≤ number := by
        have tens : 10 ^ 1 ≤ 10 ^ (width + 1) := Nat.pow_le_pow_right (by norm_num) (by omega)
        omega
      have quotientLeading : 10 ^ width ≤ number / 10 := by
        rw [Nat.le_div_iff_mul_le (by norm_num), ← pow_succ]
        exact leading
      have quotientWithin : number / 10 < 10 ^ (width + 1) := by
        rw [Nat.div_lt_iff_lt_mul (by norm_num), ← pow_succ]
        exact within
      rw [Nat.toDigits_of_base_le (by norm_num) two,
        inductionHypothesis quotientLeading quotientWithin]
      rfl

/-- A numeral that fits a field, padded to it, is the field. -/
theorem paddedDigits_eq_fixedDigits {width number : ℕ} (positive : 0 < width)
    (within : number < 10 ^ width) : paddedDigits width number = fixedDigits width number := by
  have length : (Nat.toDigits 10 number).length ≤ width :=
    (Nat.length_toDigits_le_iff (by norm_num) positive).mpr within
  have digits : Nat.toDigits 10 number = fixedDigits (Nat.toDigits 10 number).length number := by
    rcases Nat.eq_zero_or_pos number with rfl | nonzero
    · rfl
    · obtain ⟨leading, below⟩ : 10 ^ Nat.log 10 number ≤ number ∧
          number < 10 ^ (Nat.log 10 number + 1) :=
        ⟨Nat.pow_log_le_self 10 nonzero.ne', Nat.lt_pow_succ_log_self (by norm_num) number⟩
      have numeral := toDigits_eq_fixedDigits leading below
      rw [numeral, fixedDigits_length]
  have small : number / 10 ^ (Nat.toDigits 10 number).length = 0 := by
    rw [Nat.div_eq_zero_iff]
    right
    exact (Nat.length_toDigits_le_iff (by norm_num) Nat.length_toDigits_pos).mp le_rfl
  conv_rhs => rw [show width = (width - (Nat.toDigits 10 number).length) +
    (Nat.toDigits 10 number).length by omega, fixedDigits_add, small, fixedDigits_zero]
  rw [← digits]
  rfl

/-- The same for the texts of dates and times. -/
theorem padded_eq_fixedDigits {width : ℕ} {number : ℤ} (positive : 0 < width)
    (nonneg : 0 ≤ number) (within : number < 10 ^ width) :
    padded width number = fixedDigits width number.toNat := by
  have magnitude : number.natAbs = number.toNat := by omega
  rw [padded, if_neg (not_lt.mpr nonneg), magnitude]
  exact paddedDigits_eq_fixedDigits positive (by zify; rw [Int.toNat_of_nonneg nonneg]; exact within)

end UrjaSetu.Library.FixedDigits
