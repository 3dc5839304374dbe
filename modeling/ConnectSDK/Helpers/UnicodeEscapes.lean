import ConnectSDK.Foundation.EscapedText
import ConnectSDK.Foundation.NSString

/-! # Unicode escapes

`escapedUnicodeForString:` leaves the units from `0` to `~` as they are, the backslash among
them.
-/

namespace ConnectSDK

def lowerHexDigit (digit : Nat) : UInt16 :=
  UInt16.ofNat (if digit < 10 then 0x30 + digit else 0x61 + (digit - 10))

/-- The format `%04x` of a unit. -/
def fourHexDigits (unit : UInt16) : List UInt16 :=
  [lowerHexDigit (unit.toNat / 4096), lowerHexDigit (unit.toNat / 256 % 16),
    lowerHexDigit (unit.toNat / 16 % 16), lowerHexDigit (unit.toNat % 16)]

namespace ConnectUtil

/-- What a round of the loop appends to `uniString`. -/
def appendedUnits (unit : UInt16) : List UInt16 :=
  if unit < 0x30 ∨ unit > 0x7e then 0x5c :: 0x75 :: fourHexDigits unit else [unit]

/-- The rounds from `i` on, with the units of `uniBuffer` that they have before them. The
counter is an `int`, which wraps around, and is compared as an unsigned number. -/
def uniString (length : UInt64) (i : Int32) : List UInt16 → List UInt16
  | [] => []
  | unit :: uniBuffer =>
      if i.toInt64.toUInt64 < length then
        appendedUnits unit ++ uniString length (i + 1) uniBuffer
      else []

end ConnectUtil

/-! ## The escapes as such -/

def unicodeEscaping : Escaping UInt16 where
  mark := 0x5c
  escapes unit := unit < 0x30 ∨ unit > 0x7e
  body unit := 0x75 :: fourHexDigits unit
  escapes_mark := by decide

theorem escapedSymbol_unicodeEscaping (unit : UInt16) :
    unicodeEscaping.escapedSymbol unit = ConnectUtil.appendedUnits unit := by
  unfold Escaping.escapedSymbol ConnectUtil.appendedUnits unicodeEscaping
  simp only [decide_eq_true_eq]

namespace ConnectUtil

theorem toNat_counter {index : Nat} (inside : index < 2 ^ 31) :
    (Int32.ofNat index).toInt64.toUInt64.toNat = index := by
  rw [Int32.toInt64_ofNat' (by rw [Int32.toInt_maxValue]; omega)]
  exact UInt64.toNat_ofNat_of_lt' (Nat.lt_trans inside (by decide))

/-- The counter is negative after 2³¹ rounds, and as an unsigned number beyond every length. -/
theorem counter_lt_length_iff {text : NSString} {index : Nat} (reachable : index ≤ 2 ^ 31)
    (inside : index < text.units.length) :
    (Int32.ofNat index).toInt64.toUInt64 < text.length ↔ index < 2 ^ 31 := by
  have short := text.length_lt
  rw [UInt64.lt_iff_toNat_lt, text.length_toNat]
  rcases Nat.lt_or_eq_of_le reachable with counts | last
  · rw [toNat_counter counts]
    exact iff_of_true inside counts
  · have wrapped : (Int32.ofNat (2 ^ 31)).toInt64.toUInt64.toNat = 2 ^ 64 - 2 ^ 31 := by
      decide
    rw [last, wrapped]
    omega

theorem uniString_eq (text : NSString) (units : List UInt16) (index : Nat)
    (reachable : index ≤ 2 ^ 31) (left : index + units.length = text.units.length) :
    uniString text.length (Int32.ofNat index) units =
      unicodeEscaping.escaped (units.take (2 ^ 31 - index)) := by
  induction units generalizing index with
  | nil => rw [List.take_nil]; rfl
  | cons unit units induction =>
      rw [List.length_cons] at left
      have before : index < text.units.length := by omega
      have goes := counter_lt_length_iff reachable before
      rw [uniString]
      by_cases inside : index < 2 ^ 31
      · have next := induction (index + 1) inside (by omega)
        have more : 2 ^ 31 - index = 2 ^ 31 - (index + 1) + 1 := by omega
        rw [Int32.ofNat_add] at next
        rw [if_pos (goes.mpr inside), more, List.take_succ_cons, Escaping.escaped,
          List.flatMap_cons, escapedSymbol_unicodeEscaping]
        exact congrArg _ next
      · have last : 2 ^ 31 - index = 0 := by omega
        rw [if_neg (mt goes.mp inside), last, List.take_zero]
        rfl

theorem length_escaped_le (units : List UInt16) :
    (unicodeEscaping.escaped units).length ≤ 6 * units.length := by
  induction units with
  | nil => exact Nat.le_refl 0
  | cons unit units induction =>
      have one : (unicodeEscaping.escapedSymbol unit).length ≤ 6 := by
        rw [escapedSymbol_unicodeEscaping, appendedUnits]
        split <;> simp [fourHexDigits]
      rw [Escaping.escaped, List.flatMap_cons, List.length_append, List.length_cons]
      change _ + (unicodeEscaping.escaped units).length ≤ _
      omega

/-- The units that the loop reaches. -/
def reachedUnits (input : NSString) : List UInt16 :=
  input.units.take (2 ^ 31)

theorem uniString_zero (input : NSString) :
    uniString input.length 0 input.units = unicodeEscaping.escaped (reachedUnits input) :=
  uniString_eq input input.units 0 (Nat.zero_le _) (Nat.zero_add _)

def escapedUnicodeForString (input : NSString) : NSString where
  units := uniString input.length 0 input.units
  length_lt := by
    have bound := length_escaped_le (reachedUnits input)
    have reached : (reachedUnits input).length ≤ 2 ^ 31 := List.length_take_le ..
    rw [uniString_zero]
    omega

theorem units_escapedUnicodeForString (input : NSString) :
    (escapedUnicodeForString input).units = unicodeEscaping.escaped (reachedUnits input) :=
  uniString_zero input

end ConnectUtil

/-! ## Reading escapes -/

/-- A hexadecimal digit of either case. -/
def hexDigitValue? (unit : UInt16) : Option Nat :=
  if 0x30 ≤ unit.toNat ∧ unit.toNat ≤ 0x39 then some (unit.toNat - 0x30)
  else if 0x61 ≤ unit.toNat ∧ unit.toNat ≤ 0x66 then some (unit.toNat - 0x61 + 10)
  else if 0x41 ≤ unit.toNat ∧ unit.toNat ≤ 0x46 then some (unit.toNat - 0x41 + 10)
  else none

/-- The letter `u` and four digits. -/
def readUnicodeEscape? : List UInt16 → Option (UInt16 × List UInt16)
  | letter :: first :: second :: third :: fourth :: rest =>
      if letter = 0x75 then do
        let first ← hexDigitValue? first
        let second ← hexDigitValue? second
        let third ← hexDigitValue? third
        let fourth ← hexDigitValue? fourth
        some (UInt16.ofNat (first * 4096 + second * 256 + third * 16 + fourth), rest)
      else none
  | _ => none

theorem hexDigitValue?_lowerHexDigit :
    ∀ digit < 16, hexDigitValue? (lowerHexDigit digit) = some digit := by
  decide

theorem readUnicodeEscape?_body (unit : UInt16) (rest : List UInt16) :
    readUnicodeEscape? (unicodeEscaping.body unit ++ rest) = some (unit, rest) := by
  have bounded := unit.toNat_lt
  have sum : unit.toNat / 4096 * 4096 + unit.toNat / 256 % 16 * 256 +
      unit.toNat / 16 % 16 * 16 + unit.toNat % 16 = unit.toNat := by omega
  simp only [unicodeEscaping, fourHexDigits, List.cons_append, List.nil_append,
    readUnicodeEscape?, if_pos, hexDigitValue?_lowerHexDigit (unit.toNat / 4096) (by omega),
    hexDigitValue?_lowerHexDigit _ (Nat.mod_lt _ (by decide)), Option.bind_eq_bind,
    Option.bind_some, sum, UInt16.ofNat_toNat]

theorem plain_of_hexDigitValue? {unit : UInt16} {value : Nat}
    (read : hexDigitValue? unit = some value) : unicodeEscaping.Plain unit := by
  have range : 0x30 ≤ unit.toNat ∧ unit.toNat ≤ 0x7e ∧ unit.toNat ≠ 0x5c := by
    unfold hexDigitValue? at read
    split_ifs at read <;> omega
  constructor
  · refine decide_eq_false ?_
    rw [UInt16.lt_iff_toNat_lt, GT.gt, UInt16.lt_iff_toNat_lt]
    exact not_or.mpr ⟨Nat.not_lt.mpr range.1, Nat.not_lt.mpr range.2.1⟩
  · intro mark
    exact range.2.2 (congrArg UInt16.toNat mark)

theorem plain_letter : unicodeEscaping.Plain 0x75 := by
  constructor <;> decide

/-- Reads every sequence of a backslash, the letter `u` and four hexadecimal digits. -/
def unicodeReader : EscapeReader unicodeEscaping where
  read? := readUnicodeEscape?
  read_body symbol rest _ := readUnicodeEscape?_body symbol rest
  read_sequence text symbol rest found := by
    unfold readUnicodeEscape? at found
    split at found
    · rename_i letter first second third fourth rest
      split_ifs at found with isLetter
      simp only [Option.bind_eq_bind, Option.bind_eq_some_iff] at found
      rcases found with ⟨a, readFirst, b, readSecond, c, readThird, d, readFourth, value⟩
      cases value
      refine ⟨[letter, first, second, third, fourth], List.cons_ne_nil _ _, rfl, ?_, ?_⟩
      · subst isLetter
        simp only [List.forall_mem_cons]
        exact ⟨plain_letter, plain_of_hexDigitValue? readFirst,
          plain_of_hexDigitValue? readSecond, plain_of_hexDigitValue? readThird,
          plain_of_hexDigitValue? readFourth, List.forall_mem_nil _⟩
      · intro other
        simp only [List.cons_append, List.nil_append, readUnicodeEscape?, if_pos isLetter,
          readFirst, readSecond, readThird, readFourth, Option.bind_eq_bind, Option.bind_some]
    · cases found

/-! ## Which texts come back -/

def unescapedUnicode (text : NSString) : NSString where
  units := unicodeReader.unescaped text.units
  length_lt := Nat.lt_of_le_of_lt (unicodeReader.length_unescaped_le text.units) text.length_lt

theorem units_unescapedUnicode (text : NSString) :
    (unescapedUnicode text).units = unicodeReader.unescaped text.units := rfl

/-- No backslash, `u` and four digits follow each other in the text, and an `int` counts it. -/
def EscapeFree (text : NSString) : Prop :=
  ¬ unicodeReader.HasSequence text.units ∧ text.units.length ≤ 2 ^ 31

instance : DecidablePred EscapeFree :=
  fun _ => inferInstanceAs (Decidable (_ ∧ _))

namespace ConnectUtil

theorem escapedUnicodeForString_eq_iff (one other : NSString) :
    escapedUnicodeForString one = escapedUnicodeForString other ↔
      unicodeEscaping.escaped (reachedUnits one) =
        unicodeEscaping.escaped (reachedUnits other) := by
  rw [← units_escapedUnicodeForString, ← units_escapedUnicodeForString]
  exact ⟨congrArg NSString.units, NSString.units_injective⟩

theorem unescapedUnicode_escapedUnicodeForString_iff (text : NSString) :
    unescapedUnicode (escapedUnicodeForString text) = text ↔ EscapeFree text := by
  have units : (unescapedUnicode (escapedUnicodeForString text)).units =
      unicodeReader.unescaped (reachedUnits text) := by
    rw [units_unescapedUnicode, units_escapedUnicodeForString, EscapeReader.unescaped_escaped]
  constructor
  · intro back
    rw [back] at units
    have shorter := unicodeReader.length_unescaped_le (reachedUnits text)
    rw [← units, reachedUnits, List.length_take] at shorter
    have counted : text.units.length ≤ 2 ^ 31 := by omega
    rw [reachedUnits, List.take_of_length_le counted] at units
    exact ⟨(unicodeReader.unescaped_eq_self_iff text.units).mp units.symm, counted⟩
  · rintro ⟨free, counted⟩
    apply NSString.units_injective
    rw [units, reachedUnits, List.take_of_length_le counted]
    exact (unicodeReader.unescaped_eq_self_iff text.units).mpr free

/-- Escape-free texts are told apart and come back, and others do not. Whether two texts are
told apart is a matter of the sequences in them that could have been written. -/
theorem escaped_unicode_recovered_iff (one other : NSString) :
    (((one ≠ other → escapedUnicodeForString one ≠ escapedUnicodeForString other) ∧
        unescapedUnicode (escapedUnicodeForString one) = one ∧
        unescapedUnicode (escapedUnicodeForString other) = other) ↔
      EscapeFree one ∧ EscapeFree other) ∧
    (escapedUnicodeForString one = escapedUnicodeForString other ↔
      unicodeReader.restricted.unescaped (reachedUnits one) =
        unicodeReader.restricted.unescaped (reachedUnits other)) := by
  constructor
  · rw [unescapedUnicode_escapedUnicodeForString_iff,
      unescapedUnicode_escapedUnicodeForString_iff]
    refine and_iff_right_of_imp ?_
    rintro ⟨free, otherFree⟩ different same
    apply different
    rw [← (unescapedUnicode_escapedUnicodeForString_iff one).mpr free, same]
    exact (unescapedUnicode_escapedUnicodeForString_iff other).mpr otherFree
  · rw [escapedUnicodeForString_eq_iff]
    exact unicodeReader.exact_restricted.escaped_eq_iff _ _

/-- A backslash by itself does no harm. -/
example : EscapeFree ⟨[0x5c, 0x75, 0x20], by decide⟩ := by decide

/-- A space, and the sequence that it is written as. -/
theorem space_collides :
    (⟨[0x20], by decide⟩ : NSString) ≠ ⟨[0x5c, 0x75, 0x30, 0x30, 0x32, 0x30], by decide⟩ ∧
      escapedUnicodeForString ⟨[0x20], by decide⟩ =
        escapedUnicodeForString ⟨[0x5c, 0x75, 0x30, 0x30, 0x32, 0x30], by decide⟩ := by
  decide

end ConnectUtil

end ConnectSDK
