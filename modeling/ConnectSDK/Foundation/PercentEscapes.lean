import Mathlib.Data.List.Basic

/-! # Percent escapes

Bytes are written as characters of their own or as `%` with two hexadecimal digits, and a
text is read back as the UTF-8 bytes it stands for.
-/

namespace ConnectSDK

/-! ## UTF-8 -/

def utf8Bytes (text : String) : List UInt8 :=
  text.toUTF8.data.toList

/-- The text that the bytes encode, if they encode one. -/
def utf8Text? (bytes : List UInt8) : Option String :=
  String.fromUTF8? ⟨bytes.toArray⟩

theorem utf8Bytes_injective {left right : String} (same : utf8Bytes left = utf8Bytes right) :
    left = right := by
  rw [← String.toByteArray_inj]
  exact ByteArray.ext (Array.toList_inj.mp same)

theorem utf8Text?_utf8Bytes (text : String) : utf8Text? (utf8Bytes text) = some text := by
  have valid : (⟨(utf8Bytes text).toArray⟩ : ByteArray) = text.toByteArray := rfl
  rw [utf8Text?, valid, String.fromUTF8?, dif_pos text.isValidUTF8]
  rfl

theorem utf8Text?_eq_some_iff {bytes : List UInt8} {text : String} :
    utf8Text? bytes = some text ↔ bytes = utf8Bytes text := by
  constructor
  · intro read
    rw [utf8Text?, String.fromUTF8?] at read
    split_ifs at read with valid
    cases read
    rfl
  · rintro rfl
    exact utf8Text?_utf8Bytes text

theorem utf8Bytes_eq_flatMap (text : String) :
    utf8Bytes text = text.toList.flatMap String.utf8EncodeChar := by
  have encoded : text.toByteArray = text.toList.utf8Encode := by
    rw [← String.toByteArray_ofList, String.ofList_toList]
  rw [utf8Bytes, String.toUTF8_eq_toByteArray, encoded, List.utf8Encode,
    List.data_toByteArray]

theorem zero_ne_ofNat {number : Nat} (positive : 0 < number) (small : number < 256) :
    (0 : UInt8) ≠ UInt8.ofNat number := by
  intro same
  have numbers := congrArg UInt8.toNat same
  rw [UInt8.toNat_ofNat_of_lt' small] at numbers
  exact absurd numbers.symm (Nat.ne_of_gt positive)

/-- Only the character U+0000 is written with a byte that is zero. -/
theorem zero_mem_utf8EncodeChar {character : Char}
    (zero : 0 ∈ String.utf8EncodeChar character) : character = Char.ofNat 0 := by
  unfold String.utf8EncodeChar at zero
  dsimp only at zero
  split_ifs at zero
  · by_cases code : character.val.toNat = 0
    · exact Char.ext (UInt32.toNat_inj.mp code)
    · exact absurd (List.mem_singleton.mp zero) (zero_ne_ofNat (by omega) (by omega))
  all_goals
    refine absurd zero ?_
    simp only [List.mem_cons, List.not_mem_nil, or_false, not_or]
  · exact ⟨zero_ne_ofNat (by omega) (by omega), zero_ne_ofNat (by omega) (by omega)⟩
  · exact ⟨zero_ne_ofNat (by omega) (by omega), zero_ne_ofNat (by omega) (by omega),
      zero_ne_ofNat (by omega) (by omega)⟩
  · exact ⟨zero_ne_ofNat (by omega) (by omega), zero_ne_ofNat (by omega) (by omega),
      zero_ne_ofNat (by omega) (by omega), zero_ne_ofNat (by omega) (by omega)⟩

theorem zero_mem_utf8Bytes_iff (text : String) :
    0 ∈ utf8Bytes text ↔ Char.ofNat 0 ∈ text.toList := by
  rw [utf8Bytes_eq_flatMap, List.mem_flatMap]
  constructor
  · rintro ⟨character, member, zero⟩
    rw [← zero_mem_utf8EncodeChar zero]
    exact member
  · intro member
    exact ⟨_, member, by decide⟩

/-! ## Digits -/

def hexDigit (digit : Nat) : Char :=
  (Nat.digitChar digit).toUpper

def hexValue? (character : Char) : Option Nat :=
  if character.isDigit then some (character.toNat - '0'.toNat)
  else if 'A' ≤ character ∧ character ≤ 'F' then some (character.toNat - 'A'.toNat + 10)
  else if 'a' ≤ character ∧ character ≤ 'f' then some (character.toNat - 'a'.toNat + 10)
  else none

theorem hexValue?_hexDigit : ∀ digit < 16, hexValue? (hexDigit digit) = some digit := by
  decide

def percentEscape (byte : UInt8) : List Char :=
  ['%', hexDigit (byte.toNat / 16), hexDigit (byte.toNat % 16)]

/-! ## Reading -/

/-- The bytes of a text with percent escapes. A `%` without two digits is none. -/
def percentBytes : List Char → Option (List UInt8)
  | [] => some []
  | '%' :: high :: low :: rest => do
      let high ← hexValue? high
      let low ← hexValue? low
      let bytes ← percentBytes rest
      some (UInt8.ofNat (16 * high + low) :: bytes)
  | '%' :: _ => none
  | character :: rest =>
      (percentBytes rest).map fun bytes => String.utf8EncodeChar character ++ bytes

/-- `stringByReplacingPercentEscapesUsingEncoding:` for UTF-8. -/
def replacingPercentEscapes (text : List Char) : Option String :=
  (percentBytes text).bind utf8Text?

theorem percentBytes_percentEscape (byte : UInt8) (rest : List Char) :
    percentBytes (percentEscape byte ++ rest) = (percentBytes rest).map (byte :: ·) := by
  have small : byte.toNat < 256 := byte.toNat_lt
  have value : UInt8.ofNat (16 * (byte.toNat / 16) + byte.toNat % 16) = byte := by
    rw [Nat.div_add_mod, UInt8.ofNat_toNat]
  rw [percentEscape, List.cons_append, List.cons_append, List.cons_append, List.nil_append,
    percentBytes, hexValue?_hexDigit _ (by omega), hexValue?_hexDigit _ (by omega)]
  cases percentBytes rest with
  | none => rfl
  | some bytes => exact congrArg (fun first => some (first :: bytes)) value

theorem percentBytes_of_ne {character : Char} (different : character ≠ '%')
    (rest : List Char) :
    percentBytes (character :: rest) =
      (percentBytes rest).map fun bytes => String.utf8EncodeChar character ++ bytes := by
  rw [percentBytes]
  all_goals
    intros
    simp_all

end ConnectSDK
