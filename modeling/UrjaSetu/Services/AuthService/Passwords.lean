import UrjaSetu.Services.AuthService

/-!
The text of a stored password, read back.

Owns: that a password opens what was stored of another exactly where both have the
same key under the stored salt.
-/

namespace UrjaSetu.Services.AuthService

open UrjaSetu.Library

/-- Three fields without a dollar sign are read back. -/
theorem splitOn_fields {first second third : List Char} (inFirst : '$' ∉ first)
    (inSecond : '$' ∉ second) (inThird : '$' ∉ third) :
    (['$'].intercalate [first, second, third]).splitOn '$' = [first, second, third] := by
  apply List.splitOn_intercalate
  · simp [inFirst, inSecond, inThird]
  · simp

theorem hashPassword_eq (texts : Texts) (password : String) (salt : List UInt8) :
    hashPassword texts password salt = some (String.ofList (['$'].intercalate
      ["scrypt".toList, Hex.ofBytes salt, Hex.ofBytes (texts.scrypt password salt)])) := by
  simp only [hashPassword, Hex.readBytes_ofBytes]
  rfl

theorem checkPassword_iff {texts : Texts} {stored encoded : String} {salt : List UInt8}
    (hashed : hashPassword texts stored salt = some encoded) (password : String) :
    checkPassword texts password encoded = true ↔
      texts.scrypt password salt = texts.scrypt stored salt := by
  rw [hashPassword_eq] at hashed
  have fields : encoded.toList.splitOn '$' =
      ["scrypt".toList, Hex.ofBytes salt, Hex.ofBytes (texts.scrypt stored salt)] := by
    rw [← Option.some.inj hashed, String.toList_ofList]
    exact splitOn_fields (by decide) (Hex.dollar_notMem_ofBytes _) (Hex.dollar_notMem_ofBytes _)
  simp only [checkPassword, fields, Hex.readBytes_ofBytes, decide_eq_true_eq]
  exact Hex.ofBytes_injective.eq_iff

end UrjaSetu.Services.AuthService
