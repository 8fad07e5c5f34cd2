import UrjaSetu.Library.Json

/-!
The compact text of a JSON value in ASCII: `ensure_ascii` on.

What is not printable ASCII is written as its UTF-16 code units. It stands only
inside strings, so escaping the text is escaping the strings.

Owns: that the ASCII text determines the value.
-/

namespace UrjaSetu.Library.Json

open Numerals

/-! ## Escaping a text -/

def codeUnits (char : Char) : List ℕ :=
  if char.toNat < 0x10000 then [char.toNat]
  else [0xd800 + (char.toNat - 0x10000) / 0x400, 0xdc00 + (char.toNat - 0x10000) % 0x400]

/-- A backslash, `u`, and four digits. -/
def unitChars (unit : ℕ) : List Char := '\\' :: 'u' :: hexChars 4 unit

def asciiChars (char : Char) : List Char :=
  if char.toNat ≤ 126 then [char] else (codeUnits char).flatMap unitChars

/-- `json.dumps(value, separators=(",", ":"))`. -/
def dumpsAscii (value : Json) : String := String.ofList (value.chars.flatMap asciiChars)

example : (str "é 😀").dumpsAscii = "\"\\u00e9 \\ud83d\\ude00\"" := by decide +kernel

/-! ## Reading it back -/

def hexValue (digits : List Char) : ℕ :=
  digits.foldl (fun value char => value * 16 +
    if char ≤ '9' then char.toNat - '0'.toNat else char.toNat - 'a'.toNat + 10) 0

theorem hexValue_hexChars (width number : ℕ) :
    hexValue (hexChars width number) = number % 16 ^ width := by
  have digitValue : ∀ digit < 16, (if Nat.digitChar digit ≤ '9'
      then (Nat.digitChar digit).toNat - '0'.toNat
      else (Nat.digitChar digit).toNat - 'a'.toNat + 10) = digit := by decide
  induction width generalizing number with
  | zero => simp [hexValue, hexChars, Nat.mod_one]
  | succ width inductionHypothesis =>
      have front : hexValue (hexChars width (number / 16)) = number / 16 % 16 ^ width :=
        inductionHypothesis _
      unfold hexValue at front ⊢
      rw [hexChars, List.foldl_append, front, List.foldl_cons, List.foldl_nil,
        digitValue _ (Nat.mod_lt _ (by norm_num)), pow_succ', Nat.mod_mul]
      omega

/-- What a code unit stands for, after the high surrogate that is pending. -/
def decodedUnit : Option ℕ → ℕ → List Char
  | none, unit => if unit ≤ 126 then unitChars unit else [Char.ofNat unit]
  | some high, unit => [Char.ofNat (0x10000 + (high - 0xd800) * 0x400 + (unit - 0xdc00))]

/-- Undo the escaping of what is not printable ASCII, and of nothing else. -/
def decodeAscii : Option ℕ → List Char → List Char
  | pending, '\\' :: 'u' :: a :: b :: c :: d :: rest =>
      let unit := hexValue [a, b, c, d]
      if pending = none ∧ 0xd800 ≤ unit ∧ unit ≤ 0xdbff then decodeAscii (some unit) rest
      else decodedUnit pending unit ++ decodeAscii none rest
  | _, '\\' :: char :: rest => '\\' :: char :: decodeAscii none rest
  | _, char :: rest => char :: decodeAscii none rest
  | _, [] => []

/-- Texts in which every backslash begins an escape. -/
inductive WellEscaped : List Char → Prop where
  | nil : WellEscaped []
  | plain {char : Char} {rest : List Char} (notBackslash : char ≠ '\\')
      (later : WellEscaped rest) : WellEscaped (char :: rest)
  | short {char : Char} {rest : List Char} (notUnit : char ≠ 'u') (ascii : char.toNat ≤ 126)
      (later : WellEscaped rest) : WellEscaped ('\\' :: char :: rest)
  | control {code : ℕ} {rest : List Char} (control : code < 32)
      (later : WellEscaped rest) : WellEscaped (unitChars code ++ rest)

theorem hexChars_four (number : ℕ) : ∃ a b c d, hexChars 4 number = [a, b, c, d] :=
  ⟨_, _, _, _, rfl⟩

theorem decode_unit (pending : Option ℕ) {unit : ℕ} (isUnit : unit < 0x10000) (rest : List Char) :
    decodeAscii pending (unitChars unit ++ rest) =
      if pending = none ∧ 0xd800 ≤ unit ∧ unit ≤ 0xdbff then decodeAscii (some unit) rest
      else decodedUnit pending unit ++ decodeAscii none rest := by
  have value := hexValue_hexChars 4 unit
  rw [Nat.mod_eq_of_lt (by omega)] at value
  obtain ⟨a, b, c, d, digits⟩ := hexChars_four unit
  unfold unitChars
  rw [digits] at value ⊢
  rw [List.cons_append, List.cons_append, List.cons_append, List.cons_append, List.cons_append,
    List.cons_append, List.nil_append, decodeAscii]
  simp only [value]

/-- What is escaped is read back. -/
theorem decode_asciiChars (char : Char) (notAscii : ¬ char.toNat ≤ 126) (rest : List Char) :
    decodeAscii none (asciiChars char ++ rest) = char :: decodeAscii none rest := by
  have range : char.toNat < 0xd800 ∨ 0xdfff < char.toNat ∧ char.toNat < 0x110000 := char.valid
  unfold asciiChars codeUnits
  rw [if_neg notAscii]
  by_cases basic : char.toNat < 0x10000
  · rw [if_pos basic, List.flatMap_cons, List.flatMap_nil, List.append_nil, decode_unit none basic,
      if_neg (by omega), decodedUnit, if_neg notAscii, Char.ofNat_toNat]
    rfl
  · rw [if_neg basic, List.flatMap_cons, List.flatMap_cons, List.flatMap_nil, List.append_nil,
      List.append_assoc, decode_unit none (by omega), if_pos ⟨rfl, by omega, by omega⟩,
      decode_unit (some _) (by omega), if_neg (by simp), decodedUnit]
    have whole : 0x10000 + (0xd800 + (char.toNat - 0x10000) / 0x400 - 0xd800) * 0x400 +
        (0xdc00 + (char.toNat - 0x10000) % 0x400 - 0xdc00) = char.toNat := by omega
    rw [whole, Char.ofNat_toNat]
    rfl

theorem flatMap_asciiChars_of_ascii {text : List Char} (ascii : ∀ char ∈ text, char.toNat ≤ 126) :
    text.flatMap asciiChars = text := by
  induction text with
  | nil => rfl
  | cons char rest inductionHypothesis =>
      rw [List.flatMap_cons, inductionHypothesis fun other later => ascii other (by simp [later]),
        asciiChars, if_pos (ascii char (by simp))]
      rfl

theorem unitChars_ascii (unit : ℕ) : ∀ char ∈ unitChars unit, char.toNat ≤ 126 := by
  have digitAscii : ∀ digit < 16, (Nat.digitChar digit).toNat ≤ 126 := by decide
  intro char member
  rcases List.mem_cons.mp member with rfl | later
  · decide
  rcases List.mem_cons.mp later with rfl | digit
  · decide
  · obtain ⟨value, small, rfl⟩ := hexChars_isHex 4 unit char digit
    exact digitAscii value small

/-- Escaping is undone on every text in which backslashes begin escapes. -/
theorem WellEscaped.decode {text : List Char} (escaped : WellEscaped text) :
    decodeAscii none (text.flatMap asciiChars) = text := by
  induction escaped with
  | nil => rfl
  | @plain char rest notBackslash _ inductionHypothesis =>
      rw [List.flatMap_cons]
      by_cases ascii : char.toNat ≤ 126
      · rw [asciiChars, if_pos ascii, List.singleton_append, decodeAscii, inductionHypothesis]
        · intro a b c d _ same
          exact absurd same notBackslash
        · intro other _ same
          exact absurd same notBackslash
      · rw [decode_asciiChars char ascii, inductionHypothesis]
  | @short char rest notUnit ascii _ inductionHypothesis =>
      rw [List.flatMap_cons, List.flatMap_cons, asciiChars, if_pos (by decide), asciiChars,
        if_pos ascii, List.singleton_append, List.singleton_append, decodeAscii,
        inductionHypothesis]
      intro a b c d _ same
      exact absurd same notUnit
  | @control code rest control _ inductionHypothesis =>
      rw [List.flatMap_append, flatMap_asciiChars_of_ascii (unitChars_ascii code),
        decode_unit none (by omega), if_neg (by omega), inductionHypothesis,
        decodedUnit, if_pos (by omega)]

/-! ## Texts of values -/

theorem WellEscaped.append {front back : List Char} (frontEscaped : WellEscaped front)
    (backEscaped : WellEscaped back) : WellEscaped (front ++ back) := by
  induction frontEscaped with
  | nil => exact backEscaped
  | plain notBackslash _ inductionHypothesis => exact .plain notBackslash inductionHypothesis
  | short notUnit ascii _ inductionHypothesis => exact .short notUnit ascii inductionHypothesis
  | control control _ inductionHypothesis =>
      rw [List.append_assoc]
      exact .control control inductionHypothesis

theorem wellEscaped_of_plain {text : List Char} (plain : ∀ char ∈ text, char ≠ '\\') :
    WellEscaped text := by
  induction text with
  | nil => exact .nil
  | cons char rest inductionHypothesis =>
      exact .plain (plain char (by simp))
        (inductionHypothesis fun other later => plain other (by simp [later]))

theorem wellEscaped_escape (char : Char) : WellEscaped (escape char) := by
  unfold escape
  split_ifs with quote backslash newline return_ tab backspace formFeed control
  · exact .short (by decide) (by decide) .nil
  · exact .short (by decide) (by decide) .nil
  · exact .short (by decide) (by decide) .nil
  · exact .short (by decide) (by decide) .nil
  · exact .short (by decide) (by decide) .nil
  · exact .short (by decide) (by decide) .nil
  · exact .short (by decide) (by decide) .nil
  · have escaped := WellEscaped.control control .nil
    rw [List.append_nil] at escaped
    exact escaped
  · exact .plain backslash .nil

theorem wellEscaped_quoted (text : String) : WellEscaped (quoted text) := by
  have inside : ∀ chars : List Char, WellEscaped (chars.flatMap escape) := by
    intro chars
    induction chars with
    | nil => exact .nil
    | cons char rest inductionHypothesis =>
        rw [List.flatMap_cons]
        exact (wellEscaped_escape char).append inductionHypothesis
  exact .plain (by decide) ((inside text.toList).append (.plain (by decide) .nil))

theorem wellEscaped_intChars (number : ℤ) : WellEscaped (intChars number) := by
  have digits : ∀ char ∈ Nat.toDigits 10 number.natAbs, char ≠ '\\' := by
    intro char member same
    have digit := toDigits_isDigit number.natAbs char member
    rw [same] at digit
    cases digit
  unfold intChars
  split
  · exact .plain (by decide) (wellEscaped_of_plain digits)
  · exact wellEscaped_of_plain digits

mutual

theorem wellEscaped_chars : ∀ value : Json, WellEscaped value.chars
  | .null => by
      rw [chars]
      exact wellEscaped_of_plain (by simp)
  | .bool true => by
      rw [chars]
      exact wellEscaped_of_plain (by simp)
  | .bool false => by
      rw [chars]
      exact wellEscaped_of_plain (by simp)
  | .int value => wellEscaped_intChars value
  | .str value => wellEscaped_quoted value
  | .arr [] => by
      rw [chars]
      exact wellEscaped_of_plain (by simp)
  | .arr (item :: items) =>
      .plain (by decide) ((wellEscaped_chars item).append (wellEscaped_laterItems items))
  | .obj [] => by
      rw [chars]
      exact wellEscaped_of_plain (by simp)
  | .obj ((key, value) :: members) =>
      .plain (by decide) ((wellEscaped_quoted key).append (.plain (by decide)
        ((wellEscaped_chars value).append (wellEscaped_laterMembers members))))

theorem wellEscaped_laterItems : ∀ items : List Json, WellEscaped (laterItems items)
  | [] => by
      rw [laterItems]
      exact wellEscaped_of_plain (by simp)
  | item :: items =>
      .plain (by decide) ((wellEscaped_chars item).append (wellEscaped_laterItems items))

theorem wellEscaped_laterMembers : ∀ members : List (String × Json),
    WellEscaped (laterMembers members)
  | [] => by
      rw [laterMembers]
      exact wellEscaped_of_plain (by simp)
  | (key, value) :: members =>
      .plain (by decide) ((wellEscaped_quoted key).append (.plain (by decide)
        ((wellEscaped_chars value).append (wellEscaped_laterMembers members))))

end

/-- Two values with the same ASCII text are the same value. -/
theorem dumpsAscii_injective : Function.Injective dumpsAscii := by
  intro left right same
  have texts := congrArg (decodeAscii none) (String.ofList_injective same)
  rw [(wellEscaped_chars left).decode, (wellEscaped_chars right).decode] at texts
  exact dumps_injective (congrArg String.ofList texts)

end UrjaSetu.Library.Json
