import Mathlib.Data.List.Infix
import ConnectSDK.Discovery.USNHeaders
import ConnectSDK.Discovery.ZeroConfDiscoveryProvider

/-! # UUIDs of TXT records

How `netServiceDidResolveAddress:` cuts the UUID out of a TXT record, in the units of the
code. It takes fourteen units after `deviceid=`, whether or not the record has as many; a
MAC address has seventeen.
-/

namespace ConnectSDK

namespace TXTRecord

open USNHeader

/-- `NSIntegerMax`, where `rangeOfString:` finds nothing. -/
def NSNotFound : UInt64 := 9223372036854775807

def firstLocation (searched text : List UInt16) : Option Nat :=
  if searched.isEmpty then none else text.tails.findIdx? searched.isPrefixOf

def rangeOfString (text searched : NSString) : NSRange :=
  match firstLocation searched.units text.units with
  | none => { location := NSNotFound, length := 0 }
  | some location => { location := UInt64.ofNat location, length := searched.length }

def uuidIdentifier : NSString where
  units := unitsOf "deviceid="
  length_lt := by decide

/-- The UUID of the service with this name and record. -/
def resolvedUUID (name record : NSString) : Option NSString :=
  let uuidRange := rangeOfString record uuidIdentifier
  if uuidRange.location = NSNotFound then some name
  else
    let uuidStartLocation := uuidRange.location + uuidIdentifier.length
    let macAddressLength := 14
    record.substringWithRange { location := uuidStartLocation, length := macAddressLength }

/-- What follows the first `deviceid=`. -/
def afterIdentifier (record : NSString) : Option (List UInt16) :=
  (firstLocation uuidIdentifier.units record.units).map fun location =>
    record.units.drop (location + 9)

/-- The seventeen units of a MAC address. -/
def macAddress (record : NSString) : Option (List UInt16) :=
  (afterIdentifier record).bind fun rest => if 17 ≤ rest.length then some (rest.take 17) else none

/-- The record goes on for fourteen units after the first `deviceid=`. -/
def RoomForUUID (record : NSString) : Prop :=
  ∀ rest, afterIdentifier record = some rest → 14 ≤ rest.length

/-! ## Locations -/

theorem firstLocation_fits {searched text : List UInt16} {location : Nat}
    (found : firstLocation searched text = some location) :
    location + searched.length ≤ text.length := by
  unfold firstLocation at found
  split at found
  · cases found
  · rcases List.findIdx?_eq_some_iff_getElem.mp found with ⟨inside, begins, _⟩
    have fits := (List.isPrefixOf_iff_prefix.mp begins).length_le
    rw [List.length_tails] at inside
    rw [List.getElem_tails, List.length_drop] at fits
    omega

theorem rangeOfString_of_found {text searched : NSString} {location : Nat}
    (found : firstLocation searched.units text.units = some location) :
    rangeOfString text searched =
      { location := UInt64.ofNat location, length := searched.length } := by
  rw [rangeOfString, found]

theorem rangeOfString_of_absent {text searched : NSString}
    (absent : firstLocation searched.units text.units = none) :
    (rangeOfString text searched).location = NSNotFound := by
  rw [rangeOfString, absent]

theorem resolvedUUID_of_absent {name record : NSString}
    (absent : afterIdentifier record = none) : resolvedUUID name record = some name := by
  rw [afterIdentifier, Option.map_eq_none_iff] at absent
  rw [resolvedUUID, if_pos (rangeOfString_of_absent absent)]

/-- The substring lies in the record if fourteen units are left. -/
theorem resolvedUUID_of_found {name record : NSString} {rest : List UInt16}
    (found : afterIdentifier record = some rest) :
    (resolvedUUID name record).map NSString.units =
      if 14 ≤ rest.length then some (rest.take 14) else none := by
  rcases Option.map_eq_some_iff.mp found with ⟨location, located, rfl⟩
  have fits : location + 9 ≤ record.units.length := firstLocation_fits located
  have short := record.length_lt
  have start : (UInt64.ofNat location).toNat = location :=
    NSString.toNat_ofNat_of_le record (by omega)
  have present : (rangeOfString record uuidIdentifier).location ≠ NSNotFound := by
    rw [rangeOfString_of_found located]
    intro same
    have numbers := congrArg UInt64.toNat same
    rw [start] at numbers
    change location = 9223372036854775807 at numbers
    omega
  let range : NSRange :=
    { location := UInt64.ofNat location + uuidIdentifier.length, length := 14 }
  have startLocation : range.location.toNat = location + 9 := by
    change (UInt64.ofNat location + 9).toNat = location + 9
    rw [UInt64.toNat_add, start]
    exact Nat.mod_eq_of_lt (by change location + 9 < 2 ^ 64; omega)
  have length : range.length.toNat = 14 := rfl
  have taken : resolvedUUID name record = record.substringWithRange range := by
    rw [resolvedUUID, if_neg present, rangeOfString_of_found located]
  rw [taken, List.length_drop]
  split_ifs with long
  · have inside : range.InBounds record := by
      rw [NSRange.InBounds, startLocation, length]
      omega
    rw [NSString.substringWithRange_eq inside, startLocation, length]
  · have outside : ¬ range.InBounds record := by
      rw [NSRange.InBounds, startLocation, length]
      omega
    rw [NSString.inBounds_iff] at outside
    rw [NSString.substringWithRange, if_neg outside]
    rfl

/-! ## What is derived -/

theorem isSome_resolvedUUID_iff (name record : NSString) :
    (resolvedUUID name record).isSome = true ↔ RoomForUUID record := by
  cases found : afterIdentifier record with
  | none =>
      rw [resolvedUUID_of_absent found]
      exact iff_of_true rfl fun rest same => absurd (found.symm.trans same) nofun
  | some rest =>
      have derived := @resolvedUUID_of_found name _ _ found
      rw [← Option.isSome_map, derived]
      constructor
      · intro some other same
        cases found.symm.trans same
        by_contra short
        rw [if_neg short] at some
        cases some
      · intro room
        rw [if_pos (room rest found)]
        rfl

/-- Of a MAC address five of the six bytes are kept. -/
theorem resolvedUUID_of_macAddress {name record : NSString} {address : List UInt16}
    (found : macAddress record = some address) :
    (resolvedUUID name record).map NSString.units = some (address.take 14) := by
  rcases Option.bind_eq_some_iff.mp found with ⟨rest, after, taken⟩
  split_ifs at taken with long
  cases taken
  rw [resolvedUUID_of_found after, if_pos (by omega), List.take_take]
  rfl

theorem resolvedUUID_ne_iff {name record otherName other : NSString}
    {address otherAddress : List UInt16} (found : macAddress record = some address)
    (otherFound : macAddress other = some otherAddress) :
    resolvedUUID name record ≠ resolvedUUID otherName other ↔
      address.take 14 ≠ otherAddress.take 14 := by
  have injective : Function.Injective (Option.map NSString.units) :=
    Option.map_injective fun one other => NSString.units_injective
  rw [ne_eq, ← injective.eq_iff, resolvedUUID_of_macAddress found,
    resolvedUUID_of_macAddress otherFound, Option.some_inj]

/-- The substring lies in the record exactly if fourteen units follow the first
`deviceid=`, and two MAC addresses are told apart exactly if these are. -/
theorem uuid_derived_iff (name record otherName other : NSString) :
    ((resolvedUUID name record).isSome = true ↔ RoomForUUID record) ∧
    ∀ address otherAddress,
      macAddress record = some address → macAddress other = some otherAddress →
        (resolvedUUID name record ≠ resolvedUUID otherName other ↔
          address.take 14 ≠ otherAddress.take 14) :=
  ⟨isSome_resolvedUUID_iff name record, fun _ _ found otherFound =>
    resolvedUUID_ne_iff found otherFound⟩

def appleTV : NSString where
  units := unitsOf "deviceid=58:55:CA:1A:E2:88"
  length_lt := by decide

def otherTV : NSString where
  units := unitsOf "deviceid=58:55:CA:1A:E2:99"
  length_lt := by decide

def shortRecord : NSString where
  units := unitsOf "deviceid=58:55"
  length_lt := by decide

theorem macAddress_appleTV : macAddress appleTV = some (unitsOf "58:55:CA:1A:E2:88") := by
  decide

theorem macAddress_otherTV : macAddress otherTV = some (unitsOf "58:55:CA:1A:E2:99") := by
  decide

theorem uuid_derived_apart :
    (resolvedUUID appleTV appleTV).isSome = true ∧
      ¬ resolvedUUID appleTV appleTV ≠ resolvedUUID otherTV otherTV := by
  have derived := uuid_derived_iff appleTV appleTV otherTV otherTV
  refine ⟨derived.1.mpr ?_, ?_⟩
  · intro rest found
    cases found
    decide
  · rw [derived.2 _ _ macAddress_appleTV macAddress_otherTV]
    decide

/-- A short record raises, and the last byte of an address makes no difference. -/
theorem truncated_records :
    resolvedUUID shortRecord shortRecord = none ∧
      macAddress appleTV ≠ macAddress otherTV ∧
      resolvedUUID appleTV appleTV = resolvedUUID otherTV otherTV := by
  decide

/-! ## Strings of the provider

The provider reads a record as a string of characters.
-/

theorem firstLocation_map {searched : List Char} (nonempty : searched ≠ [])
    (short : (searched.all fun character => decide (character.toNat < 2 ^ 16)) = true) :
    ∀ {text : List Char}, (∀ character ∈ text, character.toNat < 2 ^ 16) →
      firstLocation (searched.map unit) (text.map unit) = ConnectSDK.rangeOfString searched text
  | [], _ => by
      cases searched with
      | nil => exact absurd rfl nonempty
      | cons wanted searched => rfl
  | character :: rest, plain => by
      have later := firstLocation_map nonempty short fun other member =>
        plain other (List.mem_cons_of_mem character member)
      have begins : (searched.map unit).isPrefixOf ((character :: rest).map unit) =
          searched.isPrefixOf (character :: rest) :=
        GreedyMatch.isPrefixOf_map searched (character :: rest)
          fun wanted wantedIn found foundIn => unit_injective
            (of_decide_eq_true (List.all_eq_true.mp short wanted wantedIn))
            (plain found foundIn)
      have some : ¬ searched.isEmpty = true := by simpa using nonempty
      rw [firstLocation, List.isEmpty_map, if_neg some] at later ⊢
      rw [ConnectSDK.rangeOfString, ← begins, ← later, if_neg some, List.map_cons,
        List.tails_cons, List.findIdx?_cons]

/-- For strings of one unit a character the provider reads the same UUID. -/
theorem resolvedUUID_eq {name record : NSString} {serviceName txtRecord : String}
    (nameUnits : name.units = unitsOf serviceName)
    (recordUnits : record.units = unitsOf txtRecord)
    (plain : ∀ character ∈ txtRecord.toList, character.toNat < 2 ^ 16) :
    (resolvedUUID name record).map (some ∘ NSString.units) =
      (ZeroConfDiscoveryProvider.resolvedUUID serviceName (some txtRecord)).map
        (Option.map unitsOf) := by
  have located : firstLocation uuidIdentifier.units record.units =
      ConnectSDK.rangeOfString "deviceid=".toList txtRecord.toList := by
    rw [recordUnits]
    exact firstLocation_map (by decide) (by decide) plain
  rw [← Option.map_map, ZeroConfDiscoveryProvider.resolvedUUID]
  cases found : ConnectSDK.rangeOfString "deviceid=".toList txtRecord.toList with
  | none =>
      have absent : afterIdentifier record = none := by
        rw [afterIdentifier, located, found, Option.map_none]
      rw [resolvedUUID_of_absent absent]
      simp [nameUnits]
  | some location =>
      have after : afterIdentifier record =
          some ((txtRecord.toList.drop (location + 9)).map unit) := by
        rw [afterIdentifier, located, found, Option.map_some, recordUnits, unitsOf,
          List.map_drop]
      rw [resolvedUUID_of_found after, List.length_map]
      dsimp only
      split_ifs
      · simp [unitsOf]
      · rfl

end TXTRecord

end ConnectSDK
