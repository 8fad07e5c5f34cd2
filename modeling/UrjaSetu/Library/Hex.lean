import UrjaSetu.Library.PythonText

/-!
Bytes as hexadecimal text: `bytes.hex` and `bytes.fromhex`.

Owns: the two, and that the text of some bytes is read back as them.
-/

namespace UrjaSetu.Library.Hex

open PythonText

def ofByte (byte : UInt8) : List Char :=
  [Nat.digitChar (byte.toNat / 16), Nat.digitChar (byte.toNat % 16)]

/-- `data.hex()`. -/
def ofBytes (data : List UInt8) : List Char := data.flatMap ofByte

/-- The white space that `fromhex` skips. -/
def isAsciiSpace (char : Char) : Bool := char = ' ' || (9 ≤ char.toNat && char.toNat ≤ 13)

/-- `bytes.fromhex(text)`, which may raise. -/
def readBytes : List Char → Option (List UInt8)
  | [] => some []
  | [char] => if isAsciiSpace char then some [] else none
  | char :: next :: rest =>
      if isAsciiSpace char then readBytes (next :: rest)
      else do
        let high ← hexDigit char
        let low ← hexDigit next
        let data ← readBytes rest
        some (UInt8.ofNat (16 * high + low) :: data)

theorem digitChar_laws : ∀ digit : Fin 16, hexDigit (Nat.digitChar digit) = some digit.val ∧
    isAsciiSpace (Nat.digitChar digit) = false ∧ Nat.digitChar digit ≠ '$' := by
  decide

theorem readBytes_ofByte (byte : UInt8) (rest : List Char) :
    readBytes (ofByte byte ++ rest) = (readBytes rest).map (byte :: ·) := by
  have below : byte.toNat < 256 := UInt8.toNat_lt byte
  have high := digitChar_laws ⟨byte.toNat / 16, by omega⟩
  have low := digitChar_laws ⟨byte.toNat % 16, by omega⟩
  have whole : UInt8.ofNat (16 * (byte.toNat / 16) + byte.toNat % 16) = byte := by
    rw [Nat.div_add_mod, UInt8.ofNat_toNat]
  simp only at high low
  simp only [ofByte, List.cons_append, List.nil_append, readBytes, high, low, Bool.false_eq_true,
    if_false, Option.bind_eq_bind, Option.bind_some, whole]
  cases readBytes rest with
  | none => rfl
  | some data => rfl

theorem readBytes_ofBytes (data : List UInt8) : readBytes (ofBytes data) = some data := by
  induction data with
  | nil => rfl
  | cons byte rest inductionHypothesis =>
      rw [ofBytes, List.flatMap_cons, readBytes_ofByte]
      show (readBytes (ofBytes rest)).map _ = _
      rw [inductionHypothesis]
      rfl

theorem ofBytes_injective : Function.Injective ofBytes := by
  intro left right same
  have read := congrArg readBytes same
  simpa [readBytes_ofBytes] using read

theorem dollar_notMem_ofBytes (data : List UInt8) : '$' ∉ ofBytes data := by
  simp only [ofBytes, List.mem_flatMap, not_exists, not_and]
  intro byte _
  have below : byte.toNat < 256 := UInt8.toNat_lt byte
  have high := (digitChar_laws ⟨byte.toNat / 16, by omega⟩).2.2
  have low := (digitChar_laws ⟨byte.toNat % 16, by omega⟩).2.2
  simp [ofByte, high.symm, low.symm]

end UrjaSetu.Library.Hex
