import Mathlib

/-!
Digit texts that can be read back: decimal numerals of integers, which end at
the first character that is no digit, and hexadecimal numerals of a fixed
width.
-/

namespace UrjaSetu.Library.Numerals

/-! ## Decimal numerals in a text -/

/-- `rest` cannot continue a numeral. -/
def EndsNumeral (rest : List Char) : Prop := ∀ char ∈ rest.head?, char.isDigit = false

theorem EndsNumeral.nil : EndsNumeral [] := by
  intro char member
  cases member

theorem EndsNumeral.cons {char : Char} (noDigit : char.isDigit = false) (rest : List Char) :
    EndsNumeral (char :: rest) := by
  intro head member
  cases member
  exact noDigit

/-- Two runs of digits that are followed by something else agree when the texts
agree. -/
theorem digits_append_inj {left right leftRest rightRest : List Char}
    (leftDigits : ∀ char ∈ left, char.isDigit = true)
    (rightDigits : ∀ char ∈ right, char.isDigit = true)
    (leftEnds : EndsNumeral leftRest) (rightEnds : EndsNumeral rightRest)
    (same : left ++ leftRest = right ++ rightRest) : left = right ∧ leftRest = rightRest := by
  induction left generalizing right with
  | nil =>
      cases right with
      | nil => exact ⟨rfl, same⟩
      | cons head tail =>
          have digit := rightDigits head (by simp)
          have noDigit := leftEnds head (by rw [List.nil_append] at same; rw [same]; rfl)
          rw [noDigit] at digit
          cases digit
  | cons head tail inductionHypothesis =>
      cases right with
      | nil =>
          have digit := leftDigits head (by simp)
          have noDigit := rightEnds head (by rw [List.nil_append] at same; rw [← same]; rfl)
          rw [noDigit] at digit
          cases digit
      | cons other rest =>
          rw [List.cons_append, List.cons_append, List.cons.injEq] at same
          have tails := inductionHypothesis (fun char member => leftDigits char (by simp [member]))
            (fun char member => rightDigits char (by simp [member])) same.2
          exact ⟨by rw [same.1, tails.1], tails.2⟩

theorem toDigits_isDigit (number : ℕ) : ∀ char ∈ Nat.toDigits 10 number, char.isDigit = true :=
  fun _ member => Nat.isDigit_of_mem_toDigits (by norm_num) (by norm_num) member

theorem toDigits_injective : Function.Injective (Nat.toDigits 10) := by
  intro left right same
  have values := congrArg (fun digits => Nat.ofDigitChars 10 digits 0) same
  simpa only [Nat.ofDigitChars_ten_toDigits] using values

/-- The decimal numeral of an integer. -/
def intChars (number : ℤ) : List Char :=
  if number < 0 then '-' :: Nat.toDigits 10 number.natAbs else Nat.toDigits 10 number.natAbs

theorem intChars_head (number : ℤ) :
    ∃ head tail, intChars number = head :: tail ∧ (head = '-' ∨ head.isDigit = true) := by
  unfold intChars
  split
  · exact ⟨'-', _, rfl, Or.inl rfl⟩
  · cases digits : Nat.toDigits 10 number.natAbs with
    | nil => exact absurd digits Nat.toDigits_ne_nil
    | cons head tail =>
        refine ⟨head, tail, rfl, Or.inr ?_⟩
        exact toDigits_isDigit number.natAbs head (by simp [digits])

theorem intChars_append_inj {left right : ℤ} {leftRest rightRest : List Char}
    (leftEnds : EndsNumeral leftRest) (rightEnds : EndsNumeral rightRest)
    (same : intChars left ++ leftRest = intChars right ++ rightRest) :
    left = right ∧ leftRest = rightRest := by
  have minus : ∀ number : ℕ, ∀ rest other, Nat.toDigits 10 number ++ rest ≠ '-' :: other := by
    intro number rest other equal
    cases digits : Nat.toDigits 10 number with
    | nil => exact absurd digits Nat.toDigits_ne_nil
    | cons head tail =>
        have digit := toDigits_isDigit number head (by simp [digits])
        rw [digits, List.cons_append, List.cons.injEq] at equal
        rw [equal.1] at digit
        exact absurd digit (by decide)
  have magnitudes : ∀ {first second : ℕ}, Nat.toDigits 10 first ++ leftRest =
      Nat.toDigits 10 second ++ rightRest → first = second ∧ leftRest = rightRest := by
    intro first second equal
    have parts := digits_append_inj (toDigits_isDigit first) (toDigits_isDigit second) leftEnds
      rightEnds equal
    exact ⟨toDigits_injective parts.1, parts.2⟩
  unfold intChars at same
  split at same <;> split at same
  · rw [List.cons_append, List.cons_append, List.cons.injEq] at same
    have parts := magnitudes same.2
    exact ⟨by omega, parts.2⟩
  · exact absurd same.symm (minus _ _ _)
  · exact absurd same (minus _ _ _)
  · have parts := magnitudes same
    exact ⟨by omega, parts.2⟩

/-! ## Hexadecimal numerals of a fixed width -/

/-- The last `width` hexadecimal digits of `number`, lower case. -/
def hexChars : ℕ → ℕ → List Char
  | 0, _ => []
  | width + 1, number => hexChars width (number / 16) ++ [Nat.digitChar (number % 16)]

theorem hexChars_length (width number : ℕ) : (hexChars width number).length = width := by
  induction width generalizing number with
  | zero => rfl
  | succ width inductionHypothesis => simp [hexChars, inductionHypothesis]

theorem digitChar_injOn {left right : ℕ} (leftSmall : left < 16) (rightSmall : right < 16)
    (same : Nat.digitChar left = Nat.digitChar right) : left = right := by
  have all : ∀ left < 16, ∀ right < 16, Nat.digitChar left = Nat.digitChar right → left = right := by
    decide
  exact all left leftSmall right rightSmall same

theorem hexChars_inj {width left right : ℕ} (leftSmall : left < 16 ^ width)
    (rightSmall : right < 16 ^ width) (same : hexChars width left = hexChars width right) :
    left = right := by
  induction width generalizing left right with
  | zero =>
      rw [pow_zero] at leftSmall rightSmall
      omega
  | succ width inductionHypothesis =>
      rw [pow_succ] at leftSmall rightSmall
      obtain ⟨quotients, digits⟩ := List.append_inj' same rfl
      have quotient : left / 16 = right / 16 :=
        inductionHypothesis (by omega) (by omega) quotients
      have digit : left % 16 = right % 16 := by
        apply digitChar_injOn (Nat.mod_lt _ (by norm_num)) (Nat.mod_lt _ (by norm_num))
        exact List.head_eq_of_cons_eq digits
      omega

theorem hexChars_isHex (width number : ℕ) :
    ∀ char ∈ hexChars width number, ∃ digit < 16, char = Nat.digitChar digit := by
  induction width generalizing number with
  | zero =>
      intro char member
      cases member
  | succ width inductionHypothesis =>
      intro char member
      rcases List.mem_append.mp member with early | last
      · exact inductionHypothesis _ char early
      · exact ⟨number % 16, Nat.mod_lt _ (by norm_num), List.mem_singleton.mp last⟩

end UrjaSetu.Library.Numerals
