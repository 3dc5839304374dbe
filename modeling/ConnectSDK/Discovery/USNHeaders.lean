import ConnectSDK.Foundation.GreedyMatch
import ConnectSDK.Foundation.NSString
import ConnectSDK.Discovery.SSDPDiscoveryProvider

/-! # UUIDs of USN headers

How `socket:didReceiveData:fromAddress:` cuts the UUID out of a USN, in the units and the
unsigned arithmetic of the code. A range that leaves the string raises an exception: it
happens for the USNs of less than five units and for no other.
-/

namespace ConnectSDK

namespace USNHeader

/-- The unit of a character below `U+10000`. -/
def unit (character : Char) : UInt16 :=
  UInt16.ofNat character.toNat

def unitsOf (text : String) : List UInt16 :=
  text.toList.map unit

/-- The units that `.` does not match. -/
def endsLine (unit : UInt16) : Bool :=
  (0x0A ≤ unit && unit ≤ 0x0D) || unit == 0x85 || unit == 0x2028 || unit == 0x2029

/-- `rangeAtIndex:` of the first match of `(?:uuid:).*(?:::)`. Without a match it is sent to
`nil`, which returns zeros. -/
def rangeOfMatch (theUSSNKey : NSString) : NSRange :=
  match GreedyMatch.firstMatch endsLine (unitsOf "uuid:") (unitsOf "::") theUSSNKey.units with
  | none => { location := 0, length := 0 }
  | some (location, length) =>
      { location := UInt64.ofNat location, length := UInt64.ofNat length }

def range (theUSSNKey : NSString) : NSRange :=
  let found := rangeOfMatch theUSSNKey
  let location := found.location + 5
  { location
    length := minimum (found.length - 7) (theUSSNKey.length - location) }

def theUUID (theUSSNKey : NSString) : Option NSString :=
  theUSSNKey.substringWithRange (range theUSSNKey)

/-- The substring lies in the USN, and it is what follows `uuid:` up to the last `::`. -/
structure ExtractsUUID (theUSSNKey : NSString) : Prop where
  inBounds : (range theUSSNKey).InBounds theUSSNKey
  delimited : ∀ uuid type,
    theUSSNKey.units = unitsOf "uuid:" ++ (uuid ++ (unitsOf "::" ++ type)) →
    (∀ unit ∈ uuid, endsLine unit = false) → ¬unitsOf "::" <:+: type →
    type.head? ≠ some (unit ':') →
      (theUUID theUSSNKey).map NSString.units = some uuid
  undelimited : ∀ uuid, theUSSNKey.units = unitsOf "uuid:" ++ uuid →
    ¬unitsOf "::" <:+: uuid →
      (theUUID theUSSNKey).map NSString.units = some uuid

/-! ## Ranges -/

theorem range_of_match {theUSSNKey : NSString} {location length : Nat}
    (found : GreedyMatch.firstMatch endsLine (unitsOf "uuid:") (unitsOf "::")
      theUSSNKey.units = some (location, length)) :
    (range theUSSNKey).location.toNat = location + 5 ∧
      (range theUSSNKey).length.toNat = length - 7 ∧
      7 ≤ length ∧ location + length ≤ theUSSNKey.units.length := by
  have bounds := GreedyMatch.firstMatch_bounds found
  have long : 7 ≤ length := bounds.1
  have short := theUSSNKey.length_lt
  have matched : rangeOfMatch theUSSNKey =
      { location := UInt64.ofNat location, length := UInt64.ofNat length } := by
    rw [rangeOfMatch, found]
  have locationNat : (UInt64.ofNat location + 5).toNat = location + 5 := by
    rw [UInt64.toNat_add, NSString.toNat_ofNat_of_le theUSSNKey (by omega)]
    exact Nat.mod_eq_of_lt (by change location + 5 < 2 ^ 64; omega)
  have given : (UInt64.ofNat length).toNat = length :=
    NSString.toNat_ofNat_of_le theUSSNKey (by omega)
  have lengthNat : (UInt64.ofNat length - 7).toNat = length - 7 := by
    rw [UInt64.toNat_sub_of_le _ _ (by rw [UInt64.le_iff_toNat_le, given]; exact long), given]
    rfl
  have room : (theUSSNKey.length - (UInt64.ofNat location + 5)).toNat =
      theUSSNKey.units.length - (location + 5) := by
    rw [UInt64.toNat_sub_of_le, locationNat, theUSSNKey.length_toNat]
    rw [UInt64.le_iff_toNat_le, locationNat, theUSSNKey.length_toNat]
    omega
  unfold range
  rw [matched]
  refine ⟨locationNat, ?_, long, bounds.2⟩
  rw [minimum_toNat, lengthNat, room]
  omega

/-- Without a match the length of the range wraps around. -/
theorem range_of_no_match {theUSSNKey : NSString}
    (found : GreedyMatch.firstMatch endsLine (unitsOf "uuid:") (unitsOf "::")
      theUSSNKey.units = none) :
    (range theUSSNKey).location.toNat = 5 ∧
      (range theUSSNKey).length.toNat =
        min (2 ^ 64 - 7) ((2 ^ 64 - 5 + theUSSNKey.units.length) % 2 ^ 64) := by
  have matched : rangeOfMatch theUSSNKey = { location := 0, length := 0 } := by
    rw [rangeOfMatch, found]
  have room : (theUSSNKey.length - (0 + 5)).toNat =
      (2 ^ 64 - 5 + theUSSNKey.units.length) % 2 ^ 64 := by
    rw [UInt64.toNat_sub, theUSSNKey.length_toNat]
    rfl
  unfold range
  rw [matched]
  refine ⟨rfl, ?_⟩
  rw [minimum_toNat, room]
  rfl

/-- Only a USN of less than five units has its range leave it. -/
theorem range_inBounds_iff (theUSSNKey : NSString) :
    (range theUSSNKey).InBounds theUSSNKey ↔ 5 ≤ theUSSNKey.units.length := by
  have short := theUSSNKey.length_lt
  unfold NSRange.InBounds
  cases found : GreedyMatch.firstMatch endsLine (unitsOf "uuid:") (unitsOf "::")
      theUSSNKey.units with
  | none =>
      rcases range_of_no_match found with ⟨location, length⟩
      rw [location, length]
      omega
  | some matched =>
      rcases range_of_match found with ⟨location, length, long, inside⟩
      rw [location, length]
      omega

/-! ## What is extracted -/

theorem theUUID_delimited {theUSSNKey : NSString} {uuid type : List UInt16}
    (units : theUSSNKey.units = unitsOf "uuid:" ++ (uuid ++ (unitsOf "::" ++ type)))
    (sameLine : ∀ unit ∈ uuid, endsLine unit = false) (absent : ¬unitsOf "::" <:+: type)
    (first : type.head? ≠ some (unit ':')) :
    (theUUID theUSSNKey).map NSString.units = some uuid := by
  have last : ¬unitsOf "::" <:+: (unitsOf "::" ++ type).tail := by
    intro inside
    rcases List.infix_cons_iff.mp inside with ⟨rest, parts⟩ | later
    · have starts : type = unit ':' :: rest := (List.cons.inj parts).2.symm
      rw [starts] at first
      exact first rfl
    · exact absent later
  have found := GreedyMatch.firstMatch_append (unitsOf "uuid:") (by decide)
    (GreedyMatch.lengthToLast_append (unitsOf "::") (by decide) sameLine last)
  rw [← units] at found
  rcases range_of_match found with ⟨location, length, long, inside⟩
  have fits : (range theUSSNKey).InBounds theUSSNKey :=
    (range_inBounds_iff theUSSNKey).mpr (by omega)
  have short : (unitsOf "uuid:").length + (uuid.length + (unitsOf "::").length) - 7 =
      uuid.length := by
    change 5 + (uuid.length + 2) - 7 = uuid.length
    omega
  have start : (unitsOf "uuid:").length = 0 + 5 := rfl
  rw [theUUID, NSString.substringWithRange_eq fits, location, length, units, short,
    List.drop_left' start, List.take_left' rfl]

theorem theUUID_of_no_match {theUSSNKey : NSString}
    (found : GreedyMatch.firstMatch endsLine (unitsOf "uuid:") (unitsOf "::")
      theUSSNKey.units = none) :
    (theUUID theUSSNKey).map NSString.units =
      if 5 ≤ theUSSNKey.units.length then some (theUSSNKey.units.drop 5) else none := by
  have short := theUSSNKey.length_lt
  rcases range_of_no_match found with ⟨location, length⟩
  by_cases long : 5 ≤ theUSSNKey.units.length
  · have rest : (range theUSSNKey).length.toNat = (theUSSNKey.units.drop 5).length := by
      rw [length, List.length_drop]
      omega
    rw [theUUID, NSString.substringWithRange_eq ((range_inBounds_iff theUSSNKey).mpr long),
      location, rest, List.take_length, if_pos long]
  · rw [theUUID, NSString.substringWithRange, if_neg, if_neg long]
    · rfl
    · rw [← NSString.inBounds_iff, range_inBounds_iff]
      exact long

theorem theUUID_undelimited {theUSSNKey : NSString} {uuid : List UInt16}
    (units : theUSSNKey.units = unitsOf "uuid:" ++ uuid) (absent : ¬unitsOf "::" <:+: uuid) :
    (theUUID theUSSNKey).map NSString.units = some uuid := by
  have rest : theUSSNKey.units.drop 5 = uuid := by
    rw [units]
    exact List.drop_left' rfl
  have found : GreedyMatch.firstMatch endsLine (unitsOf "uuid:") (unitsOf "::")
      theUSSNKey.units = none := by
    refine GreedyMatch.firstMatch_eq_none ?_
    change ¬unitsOf "::" <:+: theUSSNKey.units.drop 5
    rw [rest]
    exact absent
  have long : 5 ≤ theUSSNKey.units.length := by
    rw [units, List.length_append]
    exact Nat.le_add_right 5 _
  rw [theUUID_of_no_match found, if_pos long, rest]

/-- The substring lies in the USN, and is what it is meant to be, exactly if the USN has at
least as many units as `uuid:`. -/
theorem extractsUUID_iff (theUSSNKey : NSString) :
    ExtractsUUID theUSSNKey ↔ 5 ≤ theUSSNKey.units.length := by
  constructor
  · intro extracts
    exact (range_inBounds_iff theUSSNKey).mp extracts.inBounds
  · intro long
    refine ⟨(range_inBounds_iff theUSSNKey).mpr long, ?_, ?_⟩
    · intro uuid type units sameLine absent first
      exact theUUID_delimited units sameLine absent first
    · intro uuid units absent
      exact theUUID_undelimited units absent

/-- The range of a USN of three units begins behind its end. -/
theorem short_usn_leaves_string :
    ∃ theUSSNKey : NSString, theUSSNKey.units = unitsOf "abc" ∧
      theUUID theUSSNKey = none ∧ ¬ExtractsUUID theUSSNKey := by
  refine ⟨{ units := unitsOf "abc", length_lt := by decide }, rfl, ?_, ?_⟩
  · rw [theUUID, NSString.substringWithRange, if_neg]
    rw [← NSString.inBounds_iff, range_inBounds_iff]
    decide
  · intro extracts
    exact absurd ((range_inBounds_iff _).mp extracts.inBounds) (by decide)

/-! ## Strings of the provider

The provider reads a USN as a string of characters.
-/

theorem unit_injective {one other : Char} (oneShort : one.toNat < 2 ^ 16)
    (otherShort : other.toNat < 2 ^ 16) (same : unit one = unit other) : one = other := by
  have numbers := congrArg UInt16.toNat same
  rw [unit, unit, UInt16.toNat_ofNat_of_lt' oneShort,
    UInt16.toNat_ofNat_of_lt' otherShort] at numbers
  exact Char.toNat_inj.mp numbers

/-- The characters have one unit each and end no line. -/
def IsPlain (text : List Char) : Prop :=
  ∀ character ∈ text, character.toNat < 2 ^ 16 ∧ endsLine (unit character) = false

theorem IsPlain.tail {character : Char} {rest : List Char}
    (plain : IsPlain (character :: rest)) : IsPlain rest :=
  fun other member => plain other (List.mem_cons_of_mem character member)

theorem IsPlain.isPrefixOf {text : List Char} (plain : IsPlain text) (searched : List Char)
    (short : (searched.all fun character => decide (character.toNat < 2 ^ 16)) = true) :
    (searched.map unit).isPrefixOf (text.map unit) = searched.isPrefixOf text :=
  GreedyMatch.isPrefixOf_map searched text fun wanted wantedIn found foundIn =>
    unit_injective (of_decide_eq_true (List.all_eq_true.mp short wanted wantedIn))
      (plain found foundIn).1

theorem IsPlain.lengthToLast : ∀ {text : List Char}, IsPlain text →
    GreedyMatch.lengthToLast endsLine (unitsOf "::") (text.map unit) =
      (lastRangeOfString "::".toList text).map fun location => location + 2
  | [], _ => rfl
  | character :: rest, plain => by
      have goesOn := (plain character List.mem_cons_self).2
      have begins := plain.isPrefixOf "::".toList (by decide)
      have later := plain.tail.lengthToLast
      rw [List.map_cons] at begins ⊢
      rw [GreedyMatch.lengthToLast, goesOn, lastRangeOfString]
      simp only [Bool.false_eq_true, if_false, later]
      cases lastRangeOfString "::".toList rest with
      | some location => rfl
      | none =>
          change (if List.isPrefixOf ("::".toList.map unit) _ then _ else _) = _
          rw [begins]
          cases "::".toList.isPrefixOf (character :: rest) <;> rfl

theorem IsPlain.firstMatch : ∀ {text : List Char}, IsPlain text →
    GreedyMatch.firstMatch endsLine (unitsOf "uuid:") (unitsOf "::") (text.map unit) =
      (rangeOfString "uuid:".toList text).bind fun location =>
        (lastRangeOfString "::".toList (text.drop (location + 5))).map fun last =>
          (location, 5 + (last + 2))
  | [], _ => rfl
  | character :: rest, plain => by
      have begins : (unitsOf "uuid:").isPrefixOf (unit character :: rest.map unit) =
          "uuid:".toList.isPrefixOf (character :: rest) :=
        plain.isPrefixOf "uuid:".toList (by decide)
      have afterStart : IsPlain ((character :: rest).drop 5) :=
        fun other member => plain other (List.mem_of_mem_drop member)
      have here : GreedyMatch.lengthToLast endsLine (unitsOf "::")
          ((unit character :: rest.map unit).drop (unitsOf "uuid:").length) =
            (lastRangeOfString "::".toList ((character :: rest).drop 5)).map (· + 2) := by
        rw [← afterStart.lengthToLast, List.map_drop]
        rfl
      rw [List.map_cons, GreedyMatch.firstMatch, begins, rangeOfString]
      cases "uuid:".toList.isPrefixOf (character :: rest) with
      | false =>
          simp only [Bool.false_eq_true, if_false, plain.tail.firstMatch]
          cases rangeOfString "uuid:".toList rest with
          | none => rfl
          | some location =>
              have shifted : (character :: rest).drop (location + 1 + 5) =
                  rest.drop (location + 5) := by
                rw [Nat.add_right_comm, List.drop_succ_cons]
              simp only [Option.bind_some, Option.map_some, shifted, Option.map_map]
              rfl
      | true =>
          rw [if_pos rfl, if_pos rfl, here]
          let whole (last : Nat) := (0, 5 + (last + 2))
          cases found : lastRangeOfString "::".toList ((character :: rest).drop 5) with
          | some last => exact (congrArg (Option.map whole) found).symm
          | none =>
              -- What follows a later start ends at the same units, and so does not match either.
              have absent : ¬unitsOf "::" <:+: ((character :: rest).drop 5).map unit := by
                refine GreedyMatch.not_isInfix_of_lengthToLast endsLine (by decide) ?_ ?_
                · intro code member
                  rcases List.mem_map.mp member with ⟨other, held, equal⟩
                  rw [← equal]
                  exact (afterStart other held).2
                · rw [afterStart.lengthToLast, found]
                  rfl
              have later : GreedyMatch.firstMatch endsLine (unitsOf "uuid:") (unitsOf "::")
                  (rest.map unit) = none := by
                refine GreedyMatch.firstMatch_eq_none fun inside => absent (inside.trans ?_)
                rw [List.map_drop]
                exact (List.drop_suffix_drop_left ((character :: rest).map unit)
                  (by decide : 5 ≤ 6)).isInfix
              simp only [Option.map_none, later]
              exact (congrArg (Option.map whole) found).symm

/-- For strings of one unit a character and of one line the provider reads the same UUID. -/
theorem theUUID_eq {theUSSNKey : NSString} {usn : String}
    (units : theUSSNKey.units = unitsOf usn) (plain : IsPlain usn.toList) :
    (theUUID theUSSNKey).map NSString.units = (SSDPMessage.theUUID usn).map unitsOf := by
  have firstMatch := plain.firstMatch
  rw [← unitsOf, ← units] at firstMatch
  have printed : ∀ text : List Char, unitsOf (String.ofList text) = text.map unit :=
    fun text => by rw [unitsOf, String.toList_ofList]
  have unmatched : (if 5 ≤ theUSSNKey.units.length then some (theUSSNKey.units.drop 5)
      else none) = (if 5 ≤ usn.toList.length then
        some (String.ofList (usn.toList.drop 5)) else none).map unitsOf := by
    rw [units, unitsOf, List.length_map, ← List.map_drop]
    split
    · rw [Option.map_some, printed]
    · rfl
  unfold SSDPMessage.theUUID
  cases starts : rangeOfString "uuid:".toList usn.toList with
  | none =>
      rw [starts] at firstMatch
      rw [theUUID_of_no_match firstMatch, unmatched]
      rfl
  | some location =>
      rw [starts, Option.bind_some] at firstMatch
      rw [Option.bind_some]
      dsimp only
      cases ends : lastRangeOfString "::".toList (usn.toList.drop (location + 5)) with
      | none =>
          rw [ends] at firstMatch
          rw [theUUID_of_no_match firstMatch, unmatched]
          rfl
      | some last =>
          rw [ends] at firstMatch
          rcases range_of_match firstMatch with ⟨rangeLocation, rangeLength, long, inside⟩
          have fits : (range theUSSNKey).InBounds theUSSNKey :=
            (range_inBounds_iff theUSSNKey).mpr (by omega)
          have cut : 5 + (last + 2) - 7 = last := by omega
          rw [theUUID, NSString.substringWithRange_eq fits, rangeLocation, rangeLength, cut,
            units]
          change some _ = some _
          rw [printed, unitsOf, List.map_take, List.map_drop]

end USNHeader

end ConnectSDK
