import Mathlib.Data.List.TakeWhile
import Mathlib.Data.Nat.Digits.Defs

/-! # Numbers in hexadecimal

What `strtol` reads to base 16, and what `%lx` prints.
-/

namespace ConnectSDK

namespace HexNumbers

def hexValue? (byte : UInt8) : Option Nat :=
  if 0x30 ≤ byte && byte ≤ 0x39 then some (byte.toNat - 0x30)
  else if 0x41 ≤ byte && byte ≤ 0x46 then some (byte.toNat - 0x41 + 10)
  else if 0x61 ≤ byte && byte ≤ 0x66 then some (byte.toNat - 0x61 + 10)
  else none

def isHexByte (byte : UInt8) : Bool :=
  (hexValue? byte).isSome

/-- The number that digits stand for, the first of which counts most. -/
def hexNumber (digits : List UInt8) : Nat :=
  digits.foldl (fun number digit => 16 * number + (hexValue? digit).getD 0) 0

def isSpaceByte (byte : UInt8) : Bool :=
  byte == 0x20 || (0x09 ≤ byte && byte ≤ 0x0D)

def signOf : List UInt8 → Bool × List UInt8
  | 0x2D :: rest => (true, rest)
  | 0x2B :: rest => (false, rest)
  | text => (false, text)

def withoutHexMark : List UInt8 → List UInt8
  | 0x30 :: mark :: digit :: rest =>
      if (mark == 0x78 || mark == 0x58) && isHexByte digit then digit :: rest
      else 0x30 :: mark :: digit :: rest
  | text => text

/-- `strtol(text, &end, 16)`: the number, and the text from `end` on. -/
def strtol16 (text : List UInt8) : Int × List UInt8 :=
  let (negative, unsigned) := signOf (text.dropWhile isSpaceByte)
  let body := withoutHexMark unsigned
  let digits := body.takeWhile isHexByte
  if digits.isEmpty then (0, text)
  else
    let number : Int := hexNumber digits
    (if negative then max (-2 ^ 63) (-number) else min (2 ^ 63 - 1) number,
      body.dropWhile isHexByte)

def hexByte (digit : Nat) : UInt8 :=
  if digit < 10 then UInt8.ofNat (0x30 + digit) else UInt8.ofNat (0x61 + (digit - 10))

/-- What `%lx` prints. -/
def hexDigits (number : Nat) : List UInt8 :=
  if number = 0 then [0x30] else (Nat.digits 16 number).reverse.map hexByte

/-! ## Bytes -/

/-- A fact of every byte, checked one by one. -/
theorem of_every_byte {property : UInt8 → Bool}
    (all : ((List.range 256).all fun n => property (UInt8.ofNat n)) = true) (byte : UInt8) :
    property byte = true := by
  have known := List.all_eq_true.mp all byte.toNat (List.mem_range.mpr byte.toNat_lt)
  rwa [UInt8.ofNat_toNat] at known

/-- A digit is no space, no sign, no mark and not the end of a string. -/
theorem hexByte_facts (byte : UInt8) :
    (!isHexByte byte || (!isSpaceByte byte && byte != 0x2D && byte != 0x2B && byte != 0x78 &&
      byte != 0x58 && byte != 0 && byte != 0x0D && byte != 0x3B)) = true :=
  @of_every_byte (fun byte => !isHexByte byte || (!isSpaceByte byte && byte != 0x2D &&
    byte != 0x2B && byte != 0x78 && byte != 0x58 && byte != 0 && byte != 0x0D &&
    byte != 0x3B)) (by decide +kernel) byte

/-! ## Digits -/

theorem hexValue?_hexByte : ∀ {digit : Nat}, digit < 16 → hexValue? (hexByte digit) = some digit := by
  decide

theorem isHexByte_hexDigits (number : Nat) : ∀ byte ∈ hexDigits number, isHexByte byte = true := by
  intro byte member
  unfold hexDigits at member
  split at member
  · rw [List.mem_singleton.mp member]
    rfl
  · rcases List.mem_map.mp member with ⟨digit, digitMember, rfl⟩
    have small : digit < 16 := Nat.digits_lt_base (by decide) (List.mem_reverse.mp digitMember)
    rw [isHexByte, hexValue?_hexByte small]
    rfl

theorem hexDigits_ne_nil (number : Nat) : hexDigits number ≠ [] := by
  unfold hexDigits
  split
  · exact List.cons_ne_nil _ _
  · rename_i positive
    simp [Nat.digits_ne_nil_iff_ne_zero.mpr positive]

theorem hexNumber_append (digits : List UInt8) (digit : UInt8) :
    hexNumber (digits ++ [digit]) = 16 * hexNumber digits + (hexValue? digit).getD 0 := by
  simp [hexNumber]

theorem hexNumber_map : ∀ {digits : List Nat}, (∀ digit ∈ digits, digit < 16) →
    hexNumber (digits.reverse.map hexByte) = Nat.ofDigits 16 digits
  | [], _ => rfl
  | digit :: digits, small => by
      have rest := hexNumber_map fun other member => small other (List.mem_cons_of_mem _ member)
      rw [List.reverse_cons, List.map_append, List.map_singleton, hexNumber_append, rest,
        hexValue?_hexByte (small digit List.mem_cons_self), Nat.ofDigits_cons]
      simp
      omega

theorem hexNumber_hexDigits (number : Nat) : hexNumber (hexDigits number) = number := by
  unfold hexDigits
  split
  · rename_i zero
    rw [zero]
    rfl
  · rw [hexNumber_map fun digit member => Nat.digits_lt_base (by decide) member,
      Nat.ofDigits_digits]

theorem signOf_digits {digits : List UInt8} (all : ∀ digit ∈ digits, isHexByte digit = true) :
    signOf digits = (false, digits) := by
  unfold signOf
  split
  · exact absurd (all 0x2D List.mem_cons_self) (by decide)
  · exact absurd (all 0x2B List.mem_cons_self) (by decide)
  · rfl

theorem withoutHexMark_digits {digits : List UInt8}
    (all : ∀ digit ∈ digits, isHexByte digit = true) : withoutHexMark digits = digits := by
  unfold withoutHexMark
  split
  · rename_i mark digit rest
    have facts := hexByte_facts mark
    rw [all mark (List.mem_cons_of_mem _ List.mem_cons_self)] at facts
    simp at facts
    simp [facts]
  · rfl

/-- Digits are read as their number, unless it is too large for a `long`. -/
theorem strtol16_digits {digits : List UInt8} (nonempty : digits ≠ [])
    (all : ∀ digit ∈ digits, isHexByte digit = true) :
    strtol16 digits = (min (2 ^ 63 - 1) (hexNumber digits : Int), []) := by
  have noSpace : digits.dropWhile isSpaceByte = digits := by
    cases digits with
    | nil => rfl
    | cons digit rest =>
        have facts := hexByte_facts digit
        rw [all digit List.mem_cons_self] at facts
        simp at facts
        simp [facts]
  have taken : digits.takeWhile isHexByte = digits := List.takeWhile_eq_self_iff.mpr all
  have dropped : digits.dropWhile isHexByte = [] := List.dropWhile_eq_nil_iff.mpr all
  rw [strtol16, noSpace, signOf_digits all]
  simp only [withoutHexMark_digits all, taken, dropped]
  simp [nonempty]

end HexNumbers

end ConnectSDK
