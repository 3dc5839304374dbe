import Mathlib.Algebra.Group.Nat.Defs

/-! # Strings of UTF-16 units

An `NSString` as its units, and ranges of unsigned 64-bit numbers, which wrap around.
-/

namespace ConnectSDK

/-- The macro `MIN`. -/
def minimum (first second : UInt64) : UInt64 :=
  if first < second then first else second

theorem minimum_toNat (first second : UInt64) :
    (minimum first second).toNat = min first.toNat second.toNat := by
  unfold minimum
  split
  · rename_i less
    rw [UInt64.lt_iff_toNat_lt] at less
    omega
  · rename_i notLess
    rw [UInt64.lt_iff_toNat_lt] at notLess
    omega

/-- A string is never longer than `NSIntegerMax`. -/
structure NSString where
  units : List UInt16
  length_lt : units.length < 2 ^ 63
deriving DecidableEq

structure NSRange where
  location : UInt64
  length : UInt64
deriving DecidableEq

namespace NSString

theorem units_injective {one other : NSString} (same : one.units = other.units) :
    one = other := by
  cases one
  cases other
  cases same
  rfl

def length (text : NSString) : UInt64 :=
  UInt64.ofNat text.units.length

theorem toNat_ofNat_of_le (text : NSString) {number : Nat}
    (inside : number ≤ text.units.length) : (UInt64.ofNat number).toNat = number :=
  UInt64.toNat_ofNat_of_lt' (Nat.lt_of_le_of_lt inside (Nat.lt_trans text.length_lt (by decide)))

theorem length_toNat (text : NSString) : text.length.toNat = text.units.length :=
  toNat_ofNat_of_le text (Nat.le_refl _)

/-- `substringWithRange:` raises an exception for a range that leaves the string. -/
def substringWithRange (text : NSString) (range : NSRange) : Option NSString :=
  if range.location ≤ text.length ∧ range.length ≤ text.length - range.location then
    some
      { units := (text.units.drop range.location.toNat).take range.length.toNat
        length_lt := by
          have short := text.length_lt
          rw [List.length_take, List.length_drop]
          omega }
  else none

end NSString

/-- The range lies in a string. -/
def NSRange.InBounds (range : NSRange) (text : NSString) : Prop :=
  range.location.toNat + range.length.toNat ≤ text.units.length

namespace NSString

theorem inBounds_iff (text : NSString) (range : NSRange) :
    range.InBounds text ↔
      range.location ≤ text.length ∧ range.length ≤ text.length - range.location := by
  have short := text.length_lt
  have length := text.length_toNat
  rw [NSRange.InBounds, UInt64.le_iff_toNat_le, UInt64.le_iff_toNat_le]
  constructor
  · intro fits
    have inside : range.location ≤ text.length := by
      rw [UInt64.le_iff_toNat_le]
      omega
    rw [UInt64.toNat_sub_of_le _ _ inside]
    omega
  · rintro ⟨inside, rest⟩
    rw [UInt64.toNat_sub_of_le _ _ (UInt64.le_iff_toNat_le.mpr inside)] at rest
    omega

theorem substringWithRange_eq {text : NSString} {range : NSRange} (fits : range.InBounds text) :
    (text.substringWithRange range).map units =
      some ((text.units.drop range.location.toNat).take range.length.toNat) := by
  rw [substringWithRange, if_pos ((text.inBounds_iff range).mp fits)]
  rfl

end NSString

end ConnectSDK
