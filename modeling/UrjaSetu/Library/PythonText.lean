import UrjaSetu.Library.Binary64
import UrjaSetu.Library.Decimal

/-!
Python's text operations over Unicode: white space, the decimal digits of every
script, the numeric literals `float`, `Decimal` and `int` read, and `repr`.

`none` is a text that is no number, or no finite one.

Owns: the operations, and what they do to a text of plain characters.
-/

namespace UrjaSetu.Library.PythonText

open Binary64

/-! ## Characters -/

/-- `char.isspace()`. -/
def isSpace (char : Char) : Bool :=
  let code := char.toNat
  (9 ≤ code && code ≤ 13) || (28 ≤ code && code ≤ 32) || code = 0x85 || code = 0xa0 ||
    code = 0x1680 || (0x2000 ≤ code && code ≤ 0x200a) || code = 0x2028 || code = 0x2029 ||
    code = 0x202f || code = 0x205f || code = 0x3000

/-- The zeros of the Unicode decimal digits, each followed by its nine others. -/
def digitZeros : List ℕ :=
  [0x30, 0x660, 0x6f0, 0x7c0, 0x966, 0x9e6, 0xa66, 0xae6, 0xb66, 0xbe6, 0xc66, 0xce6, 0xd66, 0xde6,
    0xe50, 0xed0, 0xf20, 0x1040, 0x1090, 0x17e0, 0x1810, 0x1946, 0x19d0, 0x1a80, 0x1a90, 0x1b50,
    0x1bb0, 0x1c40, 0x1c50, 0xa620, 0xa8d0, 0xa900, 0xa9d0, 0xa9f0, 0xaa50, 0xabf0, 0xff10, 0x104a0,
    0x10d30, 0x11066, 0x110f0, 0x11136, 0x111d0, 0x112f0, 0x11450, 0x114d0, 0x11650, 0x116c0,
    0x11730, 0x118e0, 0x11950, 0x11c50, 0x11d50, 0x11da0, 0x11f50, 0x16a60, 0x16ac0, 0x16b50,
    0x1d7ce, 0x1d7d8, 0x1d7e2, 0x1d7ec, 0x1d7f6, 0x1e140, 0x1e2f0, 0x1e4d0, 0x1e950, 0x1fbf0]

/-- `unicodedata.decimal(char, None)`. -/
def decimalDigit (char : Char) : Option ℕ :=
  (digitZeros.find? fun first => first ≤ char.toNat && char.toNat < first + 10).map (char.toNat - ·)

/-- A decimal digit of any script as the ASCII one. -/
def toAsciiDigit (char : Char) : Char :=
  match decimalDigit char with
  | some digit => Nat.digitChar digit
  | none => char

/-- The lower case of the letters that have an ASCII one: the capitals and the
Kelvin sign. -/
def lowerChar (char : Char) : Char := if char.toNat = 0x212a then 'k' else char.toLower

/-! ## Texts -/

/-- Take the characters off both ends for which `drop` holds. -/
def stripBy (drop : Char → Bool) (text : List Char) : List Char :=
  ((text.dropWhile drop).reverse.dropWhile drop).reverse

/-- `text.strip()`. -/
def strip (text : List Char) : List Char := stripBy isSpace text

/-- `text.replace(old, new)` of a single character. -/
def replaceChar (old : Char) (new : List Char) (text : List Char) : List Char :=
  text.flatMap fun char => if char = old then new else [char]

/-! ## Numeric literals -/

/-- Whether a minus sign leads, and what follows the sign. -/
def readSign (text : List Char) : Bool × List Char :=
  if text.head? = some '-' then (true, text.tail)
  else if text.head? = some '+' then (false, text.tail)
  else (false, text)

/-- An exponent, or nothing. -/
def readExponent (text : List Char) : Option ℤ :=
  if text = [] then some 0
  else if text.head? = some 'e' ∨ text.head? = some 'E' then
    let (negative, digits) := readSign text.tail
    if digits ≠ [] ∧ digits.all Char.isDigit then
      some ((if negative then -1 else 1) * Nat.ofDigitChars 10 digits 0)
    else none
  else none

/-- `digits[.[digits]][exponent]` or `.digits[exponent]`, with its sign. -/
def readNumeral (text : List Char) : Option Decimal :=
  let (negative, magnitude) := readSign text
  let whole := magnitude.takeWhile Char.isDigit
  let afterWhole := magnitude.dropWhile Char.isDigit
  let hasPoint := afterWhole.head? = some '.'
  let fraction := if hasPoint then afterWhole.tail.takeWhile Char.isDigit else []
  let afterFraction := if hasPoint then afterWhole.tail.dropWhile Char.isDigit else afterWhole
  if whole ++ fraction = [] then none
  else (readExponent afterFraction).map fun exponent =>
    ⟨negative, Nat.ofDigitChars 10 (whole ++ fraction) 0, exponent - fraction.length⟩

/-- Every underscore stands between two digits. -/
def groupsDigits (previous : Char) : List Char → Bool
  | [] => previous ≠ '_'
  | char :: rest =>
      (if char = '_' then previous.isDigit else previous ≠ '_' || char.isDigit) &&
        groupsDigits char rest

/-- `float(text)`. A magnitude too large for a double is not told from the
largest ones here. -/
def readFloat (text : List Char) : Option ℚ :=
  let plain := (strip text).map toAsciiDigit
  if groupsDigits ' ' plain then
    (readNumeral (plain.filter (· ≠ '_'))).map fun numeral => double numeral.toRat
  else none

def MAX_EMAX : ℤ := 999999999999999999

def MIN_ETINY : ℤ := -1999999999999999997

/-- The numeral is one that a `Decimal` can hold exactly. -/
def FitsDecimal (numeral : Decimal) : Prop :=
  MIN_ETINY ≤ numeral.exponent ∧
    numeral.exponent + (Nat.toDigits 10 numeral.coefficient).length - 1 ≤ MAX_EMAX

instance (numeral : Decimal) : Decidable (FitsDecimal numeral) := by
  unfold FitsDecimal
  infer_instance

/-- `Decimal(text)`. -/
def readDecimal (text : List Char) : Option Decimal :=
  (readNumeral (((strip text).filter (· ≠ '_')).map toAsciiDigit)).filter fun numeral =>
    FitsDecimal numeral

def hexDigit (char : Char) : Option ℕ :=
  if char.isDigit then some (char.toNat - 48)
  else if 'a' ≤ char.toLower ∧ char.toLower ≤ 'f' then some (char.toLower.toNat - 87)
  else none

/-- Hexadecimal digits with single underscores between them. -/
def readHexDigits (accumulated : ℕ) (afterDigit : Bool) : List Char → Option ℕ
  | [] => if afterDigit then some accumulated else none
  | char :: rest =>
      if char = '_' then if afterDigit then readHexDigits accumulated false rest else none
      else (hexDigit char).bind fun digit => readHexDigits (16 * accumulated + digit) true rest

/-- `int(text, 16)`. -/
def readHexInt (text : List Char) : Option ℤ :=
  let (negative, magnitude) := readSign ((strip text).map toAsciiDigit)
  let prefixed := magnitude.take 2 = ['0', 'x'] ∨ magnitude.take 2 = ['0', 'X']
  let digits := if prefixed then magnitude.drop 2 else magnitude
  (readHexDigits 0 prefixed digits).map fun number => if negative then -number else number

example : readNumeral "+1000.5e-1".toList = some ⟨false, 10005, -2⟩ := by decide +kernel
example : readDecimal "\x5f12__.50e1".toList = some ⟨false, 1250, -1⟩ := by decide +kernel
example : readHexInt "-0x_fF".toList = some (-255) := by decide +kernel

/-- A character of a string literal that `quote` encloses. -/
def reprChar (quote char : Char) : List Char :=
  if char = quote ∨ char = '\\' then ['\\', char]
  else if char = '\n' then ['\\', 'n']
  else if char = '\r' then ['\\', 'r']
  else if char = '\t' then ['\\', 't']
  else if char.toNat < 32 ∨ char.toNat = 127 then '\\' :: 'x' :: Numerals.hexChars 2 char.toNat
  else [char]

/-- `repr(text)`. -/
def reprText (text : String) : String :=
  let chars := text.toList
  let quote := if chars.contains '\'' && !chars.contains '"' then '"' else '\''
  String.ofList (quote :: (chars.flatMap (reprChar quote) ++ [quote]))

/-! ## Plain texts -/

theorem stripBy_of_forall {drop : Char → Bool} {text : List Char}
    (keeps : ∀ char ∈ text, drop char = false) : stripBy drop text = text := by
  have untouched : ∀ part : List Char, (∀ char ∈ part, drop char = false) →
      part.dropWhile drop = part := by
    intro part kept
    cases part with
    | nil => rfl
    | cons head tail =>
        rw [List.dropWhile_cons_of_neg]
        rw [kept head (by simp)]
        decide
  unfold stripBy
  rw [untouched text keeps, untouched _ fun char member => keeps char (List.mem_reverse.mp member),
    List.reverse_reverse]

theorem replaceChar_of_forall {old : Char} {new text : List Char}
    (absent : ∀ char ∈ text, char ≠ old) : replaceChar old new text = text := by
  unfold replaceChar
  induction text with
  | nil => rfl
  | cons head tail inductionHypothesis =>
      rw [List.flatMap_cons, if_neg (absent head (by simp)),
        inductionHypothesis fun char member => absent char (by simp [member])]
      rfl

/-- What the ASCII digits are to these operations. -/
theorem digit_laws {char : Char} (isDigit : char.isDigit = true) :
    isSpace char = false ∧ toAsciiDigit char = char ∧ char ≠ '_' ∧ char ≠ 'Z' := by
  have bounds : 48 ≤ char.toNat ∧ char.toNat ≤ 57 := by
    rw [Char.isDigit, Bool.and_eq_true, decide_eq_true_eq, decide_eq_true_eq] at isDigit
    exact ⟨UInt32.le_iff_toNat_le.mp isDigit.1, UInt32.le_iff_toNat_le.mp isDigit.2⟩
  have every : ∀ code : ℕ, 48 ≤ code → code ≤ 57 → isSpace (Char.ofNat code) = false ∧
      toAsciiDigit (Char.ofNat code) = Char.ofNat code ∧ Char.ofNat code ≠ '_' ∧
        Char.ofNat code ≠ 'Z' := by
    intro code low high
    interval_cases code <;> decide +kernel
  have law := every char.toNat bounds.1 bounds.2
  rwa [Char.ofNat_toNat] at law

theorem groupsDigits_of_digits {text : List Char} (digits : ∀ char ∈ text, char.isDigit = true)
    {previous : Char} (noUnderscore : previous ≠ '_') : groupsDigits previous text = true := by
  induction text generalizing previous with
  | nil =>
      rw [groupsDigits]
      exact decide_eq_true noUnderscore
  | cons head tail inductionHypothesis =>
      have headDigit := digits head (by simp)
      obtain ⟨-, -, headPlain, -⟩ := digit_laws headDigit
      rw [groupsDigits, if_neg headPlain, headDigit, Bool.or_true, Bool.true_and]
      exact inductionHypothesis (fun char member => digits char (by simp [member])) headPlain

/-- A text of digits is the whole number they make. -/
theorem readNumeral_of_digits {text : List Char} (digits : ∀ char ∈ text, char.isDigit = true)
    (nonempty : text ≠ []) :
    readNumeral text = some ⟨false, Nat.ofDigitChars 10 text 0, 0⟩ := by
  have noSign : ∀ sign : Char, sign.isDigit = false → text.head? ≠ some sign := by
    intro sign notDigit head
    have member := List.mem_of_head? head
    rw [digits sign member] at notDigit
    cases notDigit
  have whole : text.takeWhile Char.isDigit = text := List.takeWhile_eq_self_iff.mpr digits
  have after : text.dropWhile Char.isDigit = [] := List.dropWhile_eq_nil_iff.mpr digits
  have sign : readSign text = (false, text) := by
    rw [readSign, if_neg (noSign '-' (by decide)), if_neg (noSign '+' (by decide))]
  unfold readNumeral
  rw [sign]
  dsimp only
  have noPoint : ¬ (none : Option Char) = some '.' := by simp
  rw [whole, after, List.head?_nil]
  simp only [noPoint, if_false, List.append_nil, nonempty]
  rfl

theorem readFloat_of_digits {text : List Char} (digits : ∀ char ∈ text, char.isDigit = true)
    (nonempty : text ≠ []) : readFloat text = some (double (Nat.ofDigitChars 10 text 0 : ℕ)) := by
  have stripped : strip text = text :=
    stripBy_of_forall fun char member => (digit_laws (digits char member)).1
  have ascii : text.map toAsciiDigit = text := by
    rw [List.map_congr_left fun char member => (digit_laws (digits char member)).2.1, List.map_id']
  have plain : text.filter (· ≠ '_') = text := by
    rw [List.filter_eq_self]
    intro char member
    exact decide_eq_true (digit_laws (digits char member)).2.2.1
  unfold readFloat
  dsimp only
  rw [stripped, ascii, groupsDigits_of_digits digits (by decide), if_pos rfl, plain,
    readNumeral_of_digits digits nonempty, Option.map_some]
  congr 2
  simp [Decimal.toRat]

end UrjaSetu.Library.PythonText
