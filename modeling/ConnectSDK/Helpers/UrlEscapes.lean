import Mathlib.Data.List.TakeWhile
import Mathlib.Data.Set.Function
import ConnectSDK.Helpers.ConnectUtil

/-! # Round trips of URL escapes

What `urlEncode` writes, and when `urlDecode` reads it back.
-/

namespace ConnectSDK

namespace ConnectUtil

/-- A letter or digit, or an escape. -/
def IsEscape (block : List Char) : Prop :=
  (∃ character, block = [character] ∧ character.isAlphanum = true) ∨
    ∃ high low, block = ['%', high, low] ∧ (hexValue? high).isSome = true ∧
      (hexValue? low).isSome = true

def OnlyEscapes (text : List Char) : Prop :=
  ∃ blocks : List (List Char), text = blocks.flatten ∧ ∀ block ∈ blocks, IsEscape block

/-- No C string ends in the text, and an `int` holds its length. -/
def Encodable (text : String) : Prop :=
  Char.ofNat 0 ∉ text.toList ∧ (utf8Bytes text).length < 2147483648

/-! ## Bytes -/

theorem urlEncodeByte_ofNat : ∀ code < 256,
    urlEncodeByte (UInt8.ofNat code) =
      if (Char.ofNat code).isAlphanum then [Char.ofNat code]
      else percentEscape (UInt8.ofNat code) := by
  decide +kernel

theorem isAscii_of_isAlphanum {character : Char} (letter : character.isAlphanum = true) :
    character.val.toNat ≤ 0x7f := by
  have upTo (last : Char) (below : character.val ≤ last.val)
      (ascii : last.val.toNat ≤ 0x7f) : character.val.toNat ≤ 0x7f :=
    Nat.le_trans (UInt32.le_iff_toNat_le.mp below) ascii
  rcases Bool.or_eq_true_iff.mp letter with alpha | digit
  · rcases Bool.or_eq_true_iff.mp alpha with upper | lower
    · have between : character.val ≥ 'A'.val ∧ character.val ≤ 'Z'.val :=
        of_decide_eq_true upper
      exact upTo 'Z' between.2 (by decide)
    · exact upTo 'z' (of_decide_eq_true (Bool.and_eq_true_iff.mp lower).2) (by decide)
  · exact upTo '9' (of_decide_eq_true (Bool.and_eq_true_iff.mp digit).2) (by decide)

theorem utf8EncodeChar_alphanum : ∀ code < 256, (Char.ofNat code).isAlphanum = true →
    String.utf8EncodeChar (Char.ofNat code) = [UInt8.ofNat code] := by
  intro code small letter
  have value : (Char.ofNat code).val.toNat = code := by
    rw [Char.ofNat, dif_pos (Or.inl (by omega))]
    rfl
  rw [String.utf8EncodeChar, if_pos (isAscii_of_isAlphanum letter), value]

/-- The table writes the same escapes as the format string. -/
theorem urlEncodeByte_eq (byte : UInt8) :
    urlEncodeByte byte =
      if (Char.ofNat byte.toNat).isAlphanum then [Char.ofNat byte.toNat]
      else percentEscape byte := by
  have same := urlEncodeByte_ofNat byte.toNat byte.toNat_lt
  rw [UInt8.ofNat_toNat] at same
  exact same

theorem isEscape_urlEncodeByte (byte : UInt8) : IsEscape (urlEncodeByte byte) := by
  have small : byte.toNat < 256 := byte.toNat_lt
  rw [urlEncodeByte_eq]
  split_ifs with kept
  · exact Or.inl ⟨_, rfl, kept⟩
  · refine Or.inr ⟨_, _, rfl, ?_, ?_⟩
    · rw [hexValue?_hexDigit _ (by omega)]
      rfl
    · rw [hexValue?_hexDigit _ (by omega)]
      rfl

theorem onlyEscapes_urlEncode (text : String) : OnlyEscapes (urlEncode text).toList := by
  rw [urlEncode, String.toList_ofList]
  refine ⟨_, List.flatMap_def, ?_⟩
  intro block member
  rcases List.mem_map.mp member with ⟨byte, _, rfl⟩
  exact isEscape_urlEncodeByte byte

/-- Neither an escape nor a character that is kept is taken for a separator. -/
theorem IsEscape.not_mem {block : List Char} (escape : IsEscape block) {separator : Char}
    (digit : hexValue? separator = none) (other : separator.isAlphanum = false)
    (percent : separator ≠ '%') : separator ∉ block := by
  intro member
  rcases escape with ⟨character, rfl, kept⟩ | ⟨high, low, rfl, isHigh, isLow⟩
  · rw [← List.mem_singleton.mp member, other] at kept
    cases kept
  · simp only [List.mem_cons, List.not_mem_nil, or_false] at member
    rcases member with same | same | same
    · exact percent same
    · rw [← same, digit] at isHigh
      cases isHigh
    · rw [← same, digit] at isLow
      cases isLow

theorem OnlyEscapes.not_mem {text : List Char} (escaped : OnlyEscapes text)
    {separator : Char} (digit : hexValue? separator = none)
    (other : separator.isAlphanum = false) (percent : separator ≠ '%') :
    separator ∉ text := by
  rcases escaped with ⟨blocks, rfl, escapes⟩
  rw [List.mem_flatten]
  rintro ⟨block, member, inside⟩
  exact (escapes block member).not_mem digit other percent inside

/-! ## Reading back -/

theorem percentBytes_urlEncodeByte (byte : UInt8) (rest : List Char) :
    percentBytes (urlEncodeByte byte ++ rest) = (percentBytes rest).map (byte :: ·) := by
  rw [urlEncodeByte_eq]
  split_ifs with kept
  · have plain : Char.ofNat byte.toNat ≠ '%' := by
      intro same
      rw [same] at kept
      cases kept
    have encoded := utf8EncodeChar_alphanum byte.toNat byte.toNat_lt kept
    rw [UInt8.ofNat_toNat] at encoded
    rw [List.singleton_append, percentBytes_of_ne plain, encoded]
    rfl
  · exact percentBytes_percentEscape byte rest

theorem percentBytes_flatMap (bytes : List UInt8) :
    percentBytes (bytes.flatMap urlEncodeByte) = some bytes := by
  induction bytes with
  | nil => rfl
  | cons byte rest induction =>
      rw [List.flatMap_cons, percentBytes_urlEncodeByte, induction]
      rfl

/-- The bytes that were written come back, as far as they are a text. -/
theorem urlDecode_urlEncode (text : String) :
    urlDecode (urlEncode text) =
      utf8Text? ((cString text).take (intOfSize (cString text).length).toNat) := by
  have unchanged : replacingOccurrences ['+'] [' '] (urlEncode text).toList =
      (urlEncode text).toList := by
    apply replacingOccurrences_of_not_infix (List.cons_ne_nil '+' [])
    intro present
    exact (onlyEscapes_urlEncode text).not_mem (by decide) (by decide) (by decide)
      (present.subset (List.mem_singleton.mpr rfl))
  rw [urlDecode, unchanged, replacingPercentEscapes, urlEncode, String.toList_ofList,
    percentBytes_flatMap, Option.bind_some]

theorem cString_eq_iff (text : String) :
    cString text = utf8Bytes text ↔ Char.ofNat 0 ∉ text.toList := by
  rw [cString, List.takeWhile_eq_self_iff, ← zero_mem_utf8Bytes_iff]
  constructor
  · intro nonzero zero
    exact absurd (nonzero 0 zero) (by decide)
  · intro absent byte member
    exact decide_eq_true fun same => absent (same ▸ member)

theorem urlDecode_urlEncode_iff (text : String) :
    urlDecode (urlEncode text) = some text ↔ Encodable text := by
  have prefixed : cString text <+: utf8Bytes text := List.takeWhile_prefix _
  rw [urlDecode_urlEncode, utf8Text?_eq_some_iff, Encodable, ← cString_eq_iff]
  constructor
  · intro whole
    have all : cString text = utf8Bytes text := by
      apply prefixed.eq_of_length_le
      rw [← whole, List.length_take]
      exact Nat.min_le_right _ _
    have length := congrArg List.length whole
    rw [List.length_take, all] at length
    exact ⟨all, (le_intOfSize_iff _).mp (by omega)⟩
  · rintro ⟨all, small⟩
    rw [all]
    exact List.take_of_length_le ((le_intOfSize_iff _).mpr small)

/-- Where another text is read, part of the text was lost. -/
theorem utf8Bytes_length_lt {text read : String}
    (decoded : urlDecode (urlEncode text) = some read) (different : read ≠ text) :
    (utf8Bytes read).length < (utf8Bytes text).length := by
  rw [urlDecode_urlEncode, utf8Text?_eq_some_iff] at decoded
  have begins : utf8Bytes read <+: utf8Bytes text := by
    rw [← decoded]
    exact (List.take_prefix _ _).trans (List.takeWhile_prefix _)
  refine lt_of_le_of_ne begins.length_le fun length => ?_
  exact different (utf8Bytes_injective (begins.eq_of_length length))

theorem urlEncode_injOn : Set.InjOn urlEncode {text | Encodable text} := by
  intro left encodable right other same
  have read := (urlDecode_urlEncode_iff left).mpr encodable
  rw [same, (urlDecode_urlEncode_iff right).mpr other] at read
  exact (Option.some.inj read).symm

/-- `urlEncode` writes letters, digits and escapes, and is undone by `urlDecode`, exactly
for texts that are C strings whose length an `int` holds. No two of these are written
alike. -/
theorem url_round_trip_iff (text : String) :
    (OnlyEscapes (urlEncode text).toList ∧ urlDecode (urlEncode text) = some text ↔
      Encodable text) ∧
    Set.InjOn urlEncode {text | Encodable text} := by
  refine ⟨?_, urlEncode_injOn⟩
  rw [urlDecode_urlEncode_iff]
  exact and_iff_right (onlyEscapes_urlEncode text)

theorem length_utf8Bytes_replicate (count : Nat) :
    (utf8Bytes (String.ofList (List.replicate count 'a'))).length = count := by
  rw [utf8Bytes_eq_flatMap, String.toList_ofList]
  induction count with
  | zero => rfl
  | succ count induction =>
      rw [List.replicate_succ, List.flatMap_cons, List.length_append, induction]
      exact Nat.add_comm 1 count

theorem zero_not_mem_replicate (count : Nat) :
    Char.ofNat 0 ∉ (String.ofList (List.replicate count 'a')).toList := by
  rw [String.toList_ofList]
  intro member
  exact absurd (List.eq_of_mem_replicate member) (by decide)

theorem not_encodable_replicate {count : Nat} (long : 2147483648 ≤ count) :
    ¬ Encodable (String.ofList (List.replicate count 'a')) := by
  rw [Encodable, length_utf8Bytes_replicate]
  exact fun encodable => Nat.not_lt_of_le long encodable.2

/-- The length of a text of 2 GiB is negative as an `int`. -/
theorem long_text_not_read :
    Char.ofNat 0 ∉ (String.ofList (List.replicate 2147483648 'a')).toList ∧
      urlDecode (urlEncode (String.ofList (List.replicate 2147483648 'a'))) ≠
        some (String.ofList (List.replicate 2147483648 'a')) := by
  refine ⟨zero_not_mem_replicate 2147483648, ?_⟩
  rw [ne_eq, urlDecode_urlEncode_iff]
  exact not_encodable_replicate (Nat.le_refl _)

end ConnectUtil

end ConnectSDK
