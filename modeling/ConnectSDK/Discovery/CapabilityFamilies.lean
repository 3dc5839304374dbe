import ConnectSDK.Services.CapabilityLists
import ConnectSDK.Discovery.DiscoveryManager

/-! # Families of capabilities

A term that ends in `.Any` is documented to match the capabilities that agree with it up to
the wildcard. `hasCapability:` looks for that text anywhere in a capability.
-/

namespace ConnectSDK

namespace DeviceService

/-- The term for a family. -/
def anyTerm (family : String) : String :=
  family ++ ".Any"

/-- A capability is the one that a family is named after, or one of its members. -/
def BelongsTo (capability family : String) : Prop :=
  capability = family ∨ (family ++ ".").toList <+: capability.toList

def Offers (capabilities : List String) (family : String) : Prop :=
  ∃ capability ∈ capabilities, BelongsTo capability family

/-- The text that `hasCapability:` looks for: the term up to its first `.Any`. -/
def matchedCapability (family : String) : List Char :=
  (anyTerm family).toList.take
    ((rangeOfString ".Any".toList (anyTerm family).toList).getD 0)

/-- The search for a family finds a capability of that family or none. -/
structure FindsFamily (capabilities : List String) (family : String) : Prop where
  /-- Nothing contains the empty text, not even a capability of the family. -/
  empty : matchedCapability family = [] →
    ∀ capability ∈ capabilities, ¬BelongsTo capability family
  /-- A stray capability that contains the text is not the only one. -/
  strays : ∀ stray ∈ capabilities, matchedCapability family ≠ [] →
    matchedCapability family <:+: stray.toList → ¬BelongsTo stray family →
      ∃ capability ∈ capabilities, BelongsTo capability family

/-! ## Searches -/

theorem rangeOfString_isSome_iff (searched : List Char) : ∀ text : List Char,
    (rangeOfString searched text).isSome = true ↔ searched ≠ [] ∧ searched <:+: text
  | [] => by
      rw [rangeOfString]
      constructor
      · intro impossible
        cases impossible
      · rintro ⟨nonempty, inside⟩
        exact absurd (List.eq_nil_of_infix_nil inside) nonempty
  | character :: rest => by
      rw [rangeOfString, List.infix_cons_iff, ← List.isPrefixOf_iff_prefix]
      cases begins : searched.isPrefixOf (character :: rest) with
      | true =>
          cases searched with
          | nil => simp
          | cons first others => simp
      | false =>
          have later := rangeOfString_isSome_iff searched rest
          simpa using later

/-- A search finds the text no later than where it is known to stand. -/
theorem rangeOfString_append (searched : List Char) (nonempty : searched ≠ []) :
    ∀ before after : List Char, ∃ location,
      rangeOfString searched (before ++ (searched ++ after)) = some location ∧
        location ≤ before.length
  | [], after => by
      refine ⟨0, ?_, Nat.le_refl 0⟩
      exact rangeOfString_of_begins nonempty
        (List.isPrefixOf_iff_prefix.mpr (List.prefix_append _ _))
  | character :: before, after => by
      rcases rangeOfString_append searched nonempty before after with ⟨location, found, bound⟩
      rw [List.cons_append, rangeOfString]
      split
      · exact ⟨0, if_neg (by simpa using nonempty), Nat.zero_le _⟩
      · rw [found]
        exact ⟨location + 1, rfl, Nat.succ_le_succ bound⟩

theorem anyTerm_toList (family : String) :
    (anyTerm family).toList = family.toList ++ (".Any".toList ++ []) := by
  rw [anyTerm, String.toList_append, List.append_nil]

theorem matchedCapability_begins (family : String) :
    matchedCapability family <+: family.toList := by
  rcases rangeOfString_append ".Any".toList (by decide) family.toList [] with
    ⟨location, found, bound⟩
  rw [matchedCapability, anyTerm_toList, found, Option.getD_some,
    List.take_append_of_le_length bound]
  exact List.take_prefix _ _

/-- What `hasCapability:` answers about a family. -/
theorem hasCapability_anyTerm_iff (capabilities : List String) (family : String) :
    hasCapability capabilities (anyTerm family) = true ↔
      matchedCapability family ≠ [] ∧
        ∃ capability ∈ capabilities, matchedCapability family <:+: capability.toList := by
  rcases rangeOfString_append ".Any".toList (by decide) family.toList [] with
    ⟨location, found, _⟩
  rw [← anyTerm_toList] at found
  have matched : matchedCapability family = (anyTerm family).toList.take location := by
    rw [matchedCapability, found, Option.getD_some]
  rw [hasCapability, found]
  simp only [List.any_eq_true, rangeOfString_isSome_iff, ← matched]
  constructor
  · rintro ⟨capability, member, nonempty, inside⟩
    exact ⟨nonempty, capability, member, inside⟩
  · rintro ⟨nonempty, capability, member, inside⟩
    exact ⟨capability, member, nonempty, inside⟩

theorem BelongsTo.contains {capability family : String} (belongs : BelongsTo capability family) :
    matchedCapability family <:+: capability.toList := by
  rcases belongs with same | begins
  · rw [same]
    exact (matchedCapability_begins family).isInfix
  · rw [String.toList_append] at begins
    exact (((matchedCapability_begins family).trans (List.prefix_append _ _)).trans
      begins).isInfix

/-- The code answers with what the list offers exactly if the search finds the family. -/
theorem hasCapability_iff_offers_iff (capabilities : List String) (family : String) :
    (hasCapability capabilities (anyTerm family) = true ↔ Offers capabilities family) ↔
      FindsFamily capabilities family := by
  rw [hasCapability_anyTerm_iff]
  constructor
  · intro agrees
    refine ⟨?_, ?_⟩
    · intro empty capability member belongs
      exact (agrees.mpr ⟨capability, member, belongs⟩).1 empty
    · intro stray member nonempty inside _
      exact agrees.mp ⟨nonempty, stray, member, inside⟩
  · intro finds
    constructor
    · rintro ⟨nonempty, capability, member, inside⟩
      by_cases belongs : BelongsTo capability family
      · exact ⟨capability, member, belongs⟩
      · exact finds.strays capability member nonempty inside belongs
    · rintro ⟨capability, member, belongs⟩
      exact ⟨fun empty => finds.empty empty capability member belongs,
        capability, member, belongs.contains⟩

end DeviceService

/-! ## Devices and filters -/

/-- Some service of the device offers the family. -/
def Memory.Offers (memory : Memory) (device : Ref ConnectableDevice) (family : String) : Prop :=
  ∃ service ∈ memory.services device, DeviceService.Offers service.capabilities family

namespace DiscoveryManager

/-- A wildcard stands for its family: for every service of the device, for the device, and
for the filters that all ask for the family. -/
structure MatchesFamily (manager : DiscoveryManager) (device : Ref ConnectableDevice)
    (family : String) : Prop where
  services : ∀ service ∈ manager.memory.services device,
    DeviceService.hasCapability service.capabilities (DeviceService.anyTerm family) = true ↔
      DeviceService.Offers service.capabilities family
  hasCapability :
    manager.memory.hasCapability device (DeviceService.anyTerm family) = true →
      manager.memory.Offers device family
  compatible : ∀ capabilityFilters : List (List String), capabilityFilters ≠ [] →
    (∀ filter ∈ capabilityFilters, DeviceService.anyTerm family ∈ filter) →
    { manager with capabilityFilters }.deviceIsCompatible device = true →
      manager.memory.Offers device family

/-- A wildcard stands for its family exactly if the search finds the family in the list of
each service. -/
theorem matchesFamily_iff (manager : DiscoveryManager) (device : Ref ConnectableDevice)
    (family : String) :
    manager.MatchesFamily device family ↔
      ∀ service ∈ manager.memory.services device,
        DeviceService.FindsFamily service.capabilities family := by
  constructor
  · intro holds service member
    exact (DeviceService.hasCapability_iff_offers_iff _ _).mp (holds.services service member)
  · intro finds
    have services : ∀ service ∈ manager.memory.services device,
        DeviceService.hasCapability service.capabilities (DeviceService.anyTerm family) = true ↔
          DeviceService.Offers service.capabilities family :=
      fun service member =>
        (DeviceService.hasCapability_iff_offers_iff _ _).mpr (finds service member)
    have hasCapability :
        manager.memory.hasCapability device (DeviceService.anyTerm family) = true →
          manager.memory.Offers device family := by
      intro has
      rcases List.any_eq_true.mp has with ⟨service, member, found⟩
      exact ⟨service, member, (services service member).mp found⟩
    refine ⟨services, hasCapability, ?_⟩
    intro capabilityFilters nonempty asks compatible
    rw [deviceIsCompatible] at compatible
    have noFilters : capabilityFilters.isEmpty = false := by simpa using nonempty
    rw [noFilters, Bool.false_or] at compatible
    rcases List.any_eq_true.mp compatible with ⟨filter, member, passed⟩
    exact hasCapability (List.all_eq_true.mp passed _ (asks filter member))

/-- A device that only launches web apps passes a filter for the launchers. -/
theorem web_app_launcher_passes :
    ∃ manager : DiscoveryManager,
      manager.capabilityFilters = [[DeviceService.anyTerm "Launcher"]] ∧
      (manager.memory.services ⟨0⟩).map DeviceService.capabilities =
        [["WebAppLauncher.Launch"]] ∧
      manager.deviceIsCompatible ⟨0⟩ = true ∧
      ¬manager.memory.Offers ⟨0⟩ "Launcher" := by
  let service : DeviceService :=
    { serviceClass := .dialService
      serviceDescription := ⟨0⟩
      capabilities := ["WebAppLauncher.Launch"] }
  let device : ConnectableDevice :=
    { id := "tv"
      serviceDescription := ⟨0⟩
      services := (∅ : Dictionary String DeviceService).insert "DIAL" service }
  refine ⟨{
    memory := { descriptions := .empty {}, devices := .empty device }
    capabilityFilters := [[DeviceService.anyTerm "Launcher"]] }, rfl, rfl, by decide, ?_⟩
  rintro ⟨listed, member, capability, offered, belongs⟩
  cases List.mem_singleton.mp member
  cases List.mem_singleton.mp offered
  revert belongs
  unfold DeviceService.BelongsTo
  decide

end DiscoveryManager

end ConnectSDK
