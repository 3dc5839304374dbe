import ConnectSDK.Discovery.Soundness

/-! # The list of compatible devices

`compatibleDevices` is documented as `allDevices`, limited to the devices that
match a capability filter. The two dictionaries are written one after the other
and under different keys: `allDevices` under the address of the description,
`compatibleDevices` under the address of the device.
-/

namespace ConnectSDK

namespace DiscoveryManager

/-- `compatibleDevices` is the restriction of `allDevices` to the devices that
pass the filters. -/
def ListsCompatible (manager : DiscoveryManager) : Prop :=
  ∀ key device, manager.compatibleDevices.lookup key = some device ↔
    manager.allDevices.lookup key = some device ∧
      manager.deviceIsCompatible device = true

end DiscoveryManager

namespace Reporting

def compatible (reporting : Reporting) : Bool :=
  reporting.manager.deviceIsCompatible reporting.device

/-- Where a report reaches the entries of its device. A compatible device is
filed under its address, so it must be listed there, and its other entries must
be in place; an incompatible one is removed there, so it must have been filed
there, alone and only. -/
def Fits (reporting : Reporting) : Prop :=
  match reporting.report with
  | .add address =>
      if reporting.compatible then
        reporting.manager.memory.address reporting.device = some address ∧
          ∀ other, reporting.manager.allDevices.lookup other =
              some reporting.device → other = address ∨
            reporting.manager.compatibleDevices.lookup other =
              some reporting.device
      else
        ∀ key, reporting.manager.compatibleDevices.lookup key ≠
          some reporting.device
  | .update _ => ∀ key,
      reporting.manager.memory.address reporting.device = some key →
        if reporting.compatible then
          (∀ other, reporting.manager.allDevices.lookup other =
              some reporting.device → other = key ∨
            reporting.manager.compatibleDevices.lookup other =
              some reporting.device) ∧
          (reporting.manager.compatibleDevices.lookup key = none →
            reporting.manager.allDevices.lookup key = some reporting.device)
        else
          (∀ other, reporting.manager.compatibleDevices.lookup other =
            some reporting.device → other = key) ∧
          ∀ listed, reporting.manager.compatibleDevices.lookup key =
            some listed → listed = reporting.device
  | .withdraw address =>
      reporting.manager.compatibleDevices.lookup address = none
  | .lose address => ∀ other, other ≠ address →
      reporting.manager.allDevices.lookup other = some reporting.device →
        (reporting.manager.compatibleDevices.lookup other =
          some reporting.device ↔ reporting.compatible = true)

/-- The dictionaries of a manager that is about to report a device agree but
for that device. -/
structure AlmostMatches (reporting : Reporting) : Prop where
  others : ∀ key device, device ≠ reporting.device →
    (reporting.manager.compatibleDevices.lookup key = some device ↔
      reporting.manager.allDevices.lookup key = some device ∧
        reporting.manager.deviceIsCompatible device = true)
  own : ∀ key,
    reporting.manager.compatibleDevices.lookup key = some reporting.device →
      reporting.manager.allDevices.lookup key = some reporting.device
  added : ∀ address, reporting.report = .add address →
    reporting.manager.allDevices.lookup address = some reporting.device
  withdrawn : ∀ address, reporting.report = .withdraw address →
    ∀ key, key ≠ address →
      (reporting.manager.compatibleDevices.lookup key = some reporting.device ↔
        reporting.manager.allDevices.lookup key = some reporting.device ∧
          reporting.compatible = true)

end Reporting

namespace DiscoveryManager

/-- Which entries a match needs in the state after an effect. -/
theorem listsCompatible_of_effect {before after : DiscoveryManager}
    {allDevices compatibleDevices : Dictionary String (Ref ConnectableDevice)}
    {sent : List DeviceNotification}
    (effect : Effect before after allDevices compatibleDevices sent)
    (lists : ∀ key device, compatibleDevices.lookup key = some device ↔
      allDevices.lookup key = some device ∧
        before.deviceIsCompatible device = true) : after.ListsCompatible := by
  intro key device
  rw [effect.compatibleDevices, effect.allDevices, effect.deviceIsCompatible]
  exact lists key device

theorem matches_found {reporting : Reporting}
    (almost : reporting.AlmostMatches) {key : String}
    (listed : reporting.manager.allDevices.lookup key = some reporting.device)
    (compatible : reporting.manager.deviceIsCompatible reporting.device = true)
    (others : ∀ other, reporting.manager.allDevices.lookup other =
      some reporting.device → other = key ∨
        reporting.manager.compatibleDevices.lookup other = some reporting.device)
    (address : String) (device : Ref ConnectableDevice) :
    (reporting.manager.compatibleDevices.insert key
        reporting.device).lookup address = some device ↔
      reporting.manager.allDevices.lookup address = some device ∧
        reporting.manager.deviceIsCompatible device = true := by
  rw [Dictionary.lookup_insert_eq]
  by_cases here : address = key
  · rw [if_pos here, here, listed]
    constructor
    · intro same
      cases same
      exact ⟨rfl, compatible⟩
    · exact fun held => held.1
  · rw [if_neg here]
    by_cases own : device = reporting.device
    · rw [own]
      constructor
      · exact fun held => ⟨almost.own address held, compatible⟩
      · exact fun held => (others address held.1).resolve_left here
    · exact almost.others address device own

theorem matches_updated {reporting : Reporting}
    (almost : reporting.AlmostMatches) {key : String} {listed : Ref ConnectableDevice}
    (held : reporting.manager.compatibleDevices.lookup key = some listed)
    (compatible : reporting.manager.deviceIsCompatible reporting.device = true)
    (others : ∀ other, reporting.manager.allDevices.lookup other =
      some reporting.device → other = key ∨
        reporting.manager.compatibleDevices.lookup other = some reporting.device)
    (address : String) (device : Ref ConnectableDevice) :
    reporting.manager.compatibleDevices.lookup address = some device ↔
      reporting.manager.allDevices.lookup address = some device ∧
        reporting.manager.deviceIsCompatible device = true := by
  by_cases own : device = reporting.device
  · rw [own]
    constructor
    · exact fun filed => ⟨almost.own address filed, compatible⟩
    · rintro ⟨present, _⟩
      rcases others address present with rfl | filed
      · by_cases same : listed = reporting.device
        · rw [held, same]
        · have other := ((almost.others address listed same).mp held).1
          cases other.symm.trans present
          exact absurd rfl same
      · exact filed
  · exact almost.others address device own

theorem matches_dropped {reporting : Reporting}
    (almost : reporting.AlmostMatches) {key : String}
    (incompatible :
      reporting.manager.deviceIsCompatible reporting.device = false)
    (only : ∀ other, reporting.manager.compatibleDevices.lookup other =
      some reporting.device → other = key)
    (alone : ∀ listed, reporting.manager.compatibleDevices.lookup key =
      some listed → listed = reporting.device)
    (address : String) (device : Ref ConnectableDevice) :
    (reporting.manager.compatibleDevices.erase key).lookup address =
        some device ↔
      reporting.manager.allDevices.lookup address = some device ∧
        reporting.manager.deviceIsCompatible device = true := by
  rw [Dictionary.lookup_erase_eq]
  by_cases own : device = reporting.device
  · rw [own, incompatible]
    by_cases here : address = key
    · simp [here]
    · rw [if_neg here]
      constructor
      · exact fun filed => absurd (only address filed) here
      · exact fun impossible => by cases impossible.2
  · rw [← almost.others address device own]
    by_cases here : address = key
    · rw [if_pos here, here]
      constructor
      · exact fun impossible => by cases impossible
      · exact fun filed => absurd (alone device filed) own
    · rw [if_neg here]

/-- Where a report fits, its outcome is a match. -/
theorem outcome_matches {reporting : Reporting}
    (almost : reporting.AlmostMatches) (fits : reporting.Fits)
    {allDevices compatibleDevices : Dictionary String (Ref ConnectableDevice)}
    {sent : List DeviceNotification}
    (outcome : Outcome reporting allDevices compatibleDevices sent)
    (key : String) (device : Ref ConnectableDevice) :
    compatibleDevices.lookup key = some device ↔
      allDevices.lookup key = some device ∧
        reporting.manager.deviceIsCompatible device = true := by
  cases outcome with
  | ignored report incompatible =>
      simp only [Reporting.Fits, report, Reporting.compatible, incompatible,
        Bool.false_eq_true, if_false] at fits
      by_cases own : device = reporting.device
      · rw [own, incompatible]
        simp [fits key]
      · exact almost.others key device own
  | found report compatible located =>
      simp only [Reporting.Fits, report, Reporting.compatible, compatible,
        if_true] at fits
      cases located.symm.trans fits.1
      exact matches_found almost (almost.added _ report) compatible fits.2 key
        device
  | updated report compatible located held =>
      simp only [Reporting.Fits, report, Reporting.compatible, compatible,
        if_true] at fits
      exact matches_updated almost held compatible (fits _ located).1 key device
  | admitted report compatible located absent =>
      simp only [Reporting.Fits, report, Reporting.compatible, compatible,
        if_true] at fits
      have place := fits _ located
      exact matches_found almost (place.2 absent) compatible place.1 key device
  | dropped report incompatible located =>
      simp only [Reporting.Fits, report, Reporting.compatible, incompatible,
        Bool.false_eq_true, if_false] at fits
      have place := fits _ located
      exact matches_dropped almost incompatible place.1 place.2 key device
  | @withdrawn address report =>
      simp only [Reporting.Fits, report] at fits
      rw [Dictionary.lookup_erase_eq]
      by_cases here : key = address
      · rw [if_pos here, here, fits]
        simp
      · rw [if_neg here]
        by_cases own : device = reporting.device
        · rw [own]
          exact almost.withdrawn address report key here
        · exact almost.others key device own
  | @lost address report =>
      simp only [Reporting.Fits, report] at fits
      rw [Dictionary.lookup_erase_eq, Dictionary.lookup_erase_eq]
      by_cases here : key = address
      · simp [here]
      · rw [if_neg here, if_neg here]
        by_cases own : device = reporting.device
        · rw [own]
          constructor
          · intro filed
            have listed := almost.own key filed
            exact ⟨listed, (fits key here listed).mp filed⟩
          · exact fun present => (fits key here present.1).mpr present.2
        · exact almost.others key device own

/-! ## Until the device is reported -/

theorem deviceIsCompatible_congr {first second : DiscoveryManager}
    (filters : first.capabilityFilters = second.capabilityFilters)
    {device : Ref ConnectableDevice}
    (services : first.memory.services device = second.memory.services device) :
    first.deviceIsCompatible device = second.deviceIsCompatible device := by
  have capability : first.memory.hasCapability device =
      second.memory.hasCapability device := by
    funext capability
    rw [Memory.hasCapability, Memory.hasCapability, services]
  have capabilities : first.memory.hasCapabilities device =
      second.memory.hasCapabilities device := by
    funext capabilities
    rw [Memory.hasCapabilities, Memory.hasCapabilities, capability]
  rw [deviceIsCompatible, deviceIsCompatible, filters, capabilities]

/-- Another device passes the filters as it did. -/
theorem Changed.deviceIsCompatible_other {device : Ref ConnectableDevice}
    {before after : DiscoveryManager} (changed : Changed device before after)
    {other : Ref ConnectableDevice}
    (allocated : before.memory.devices.Allocated other)
    (different : other ≠ device) :
    after.deviceIsCompatible other = before.deviceIsCompatible other := by
  apply deviceIsCompatible_congr changed.capabilityFilters
  rw [Memory.services, Memory.services,
    changed.touches.read_other other allocated different]

/-- The entries of the other devices go on matching. -/
theorem Changed.lists_other {device : Ref ConnectableDevice}
    {before after : DiscoveryManager} (changed : Changed device before after)
    (sound : before.Sound) (lists : before.ListsCompatible) (key : String)
    {other : Ref ConnectableDevice} (different : other ≠ device) :
    after.compatibleDevices.lookup key = some other ↔
      before.allDevices.lookup key = some other ∧
        after.deviceIsCompatible other = true := by
  rw [changed.compatibleDevices]
  constructor
  · intro filed
    rw [changed.deviceIsCompatible_other (sound.compatible key other filed)
      different]
    exact (lists key other).mp filed
  · rintro ⟨present, compatible⟩
    rw [changed.deviceIsCompatible_other (sound.listed key other present)
      different] at compatible
    exact (lists key other).mpr ⟨present, compatible⟩

/-- Agreement up to the report, for a device that no key was given to. -/
theorem almostMatches_of_listed {manager : DiscoveryManager}
    (sound : manager.Sound) (lists : manager.ListsCompatible)
    {reporting : Reporting}
    (changed : Changed reporting.device manager reporting.manager)
    (same : reporting.manager.allDevices = manager.allDevices)
    (notAdded : ∀ address, reporting.report ≠ .add address)
    (withdrawn : ∀ address, reporting.report = .withdraw address →
      reporting.compatible = manager.deviceIsCompatible reporting.device) :
    reporting.AlmostMatches where
  others := by
    intro key device different
    rw [same]
    exact changed.lists_other sound lists key different
  own := by
    intro key filed
    rw [changed.compatibleDevices] at filed
    rw [same]
    exact ((lists key reporting.device).mp filed).1
  added := fun address report => absurd report (notAdded address)
  withdrawn := by
    intro address report key _
    rw [withdrawn address report, same, changed.compatibleDevices]
    exact lists key reporting.device

/-- Agreement up to the report, for a device that was given a key. -/
theorem almostMatches_of_inserted {manager : DiscoveryManager}
    (sound : manager.Sound) (lists : manager.ListsCompatible)
    {reporting : Reporting} {address : String}
    (changed : Changed reporting.device manager reporting.manager)
    (absent : manager.allDevices.lookup address = none)
    (inserted : reporting.manager.allDevices =
      manager.allDevices.insert address reporting.device)
    (place : ∀ other, reporting.report = .add other ∨
      reporting.report = .withdraw other → other = address)
    (withdrawn : ∀ other, reporting.report = .withdraw other →
      manager.memory.devices.Allocated reporting.device →
        reporting.compatible = manager.deviceIsCompatible reporting.device) :
    reporting.AlmostMatches where
  others := by
    intro key device different
    have before := changed.lists_other sound lists key different
    rw [inserted, Dictionary.lookup_insert_eq]
    by_cases here : key = address
    · rw [here, absent] at before
      rw [if_pos here, here, before]
      constructor
      · exact fun impossible => by cases impossible.1
      · exact fun same => absurd (Option.some.inj same.1).symm different
    · rw [if_neg here]
      exact before
  own := by
    intro key filed
    rw [changed.compatibleDevices] at filed
    rw [inserted, Dictionary.lookup_insert_eq]
    by_cases here : key = address
    · rw [if_pos here]
    · rw [if_neg here]
      exact ((lists key reporting.device).mp filed).1
  added := by
    intro other report
    rw [place other (.inl report), inserted, Dictionary.lookup_insert_eq,
      if_pos rfl]
  withdrawn := by
    intro other report key different
    rw [place other (.inr report)] at different
    rw [inserted, Dictionary.lookup_insert_eq, if_neg different,
      changed.compatibleDevices]
    by_cases allocated : manager.memory.devices.Allocated reporting.device
    · rw [withdrawn other report allocated]
      exact lists key reporting.device
    · constructor
      · exact fun filed => absurd (sound.compatible _ _ filed) allocated
      · exact fun present => absurd (sound.listed _ _ present.1) allocated

theorem Registers.almostMatches {manager : DiscoveryManager}
    (sound : manager.Sound) (lists : manager.ListsCompatible) {address : String}
    {description : ServiceDescription} {found : FoundDevice}
    (registers : Registers manager address description found)
    (now : TimeInterval) :
    Reporting.AlmostMatches
      { manager := found.manager
        device := found.device
        report :=
          if found.manager.memory.hasServices found.device then
            if found.deviceIsNew then .add address else .update now
          else .withdraw address } := by
  have changed := registers.changed
  have unserved : found.manager.memory.hasServices found.device = false →
      manager.memory.devices.Allocated found.device →
        found.manager.deviceIsCompatible found.device =
          manager.deviceIsCompatible found.device := by
    intro unserved allocated
    apply deviceIsCompatible_congr changed.capabilityFilters
    cases accepted : manager.acceptsDescription description with
    | true => cases (registers.accepted accepted).2.symm.trans unserved
    | false => exact ((registers.rejected accepted).1 allocated).1
  rcases registers.listed with ⟨held, old, same⟩ | ⟨absent, new, inserted, _⟩
  · have allocated := sound.listed address found.device held
    cases served : found.manager.memory.hasServices found.device with
    | true =>
        refine almostMatches_of_listed sound lists changed same ?_ ?_
        · simp [old]
        · simp [old]
    | false =>
        refine almostMatches_of_listed sound lists changed same ?_ ?_
        · simp
        · exact fun _ _ => unserved served allocated
  · cases served : found.manager.memory.hasServices found.device with
    | true =>
        refine almostMatches_of_inserted sound lists changed absent inserted ?_ ?_
        · simp [new, eq_comm]
        · simp [new]
    | false =>
        refine almostMatches_of_inserted sound lists changed absent inserted ?_ ?_
        · simp [eq_comm]
        · exact fun _ _ => unserved served

theorem Sound.almostMatches {manager : DiscoveryManager} (sound : manager.Sound)
    (lists : manager.ListsCompatible) {event : DiscoveryEvent}
    (legal : manager.Legal event) {reporting : Reporting}
    (reports : manager.reporting event = some reporting) :
    reporting.AlmostMatches := by
  have changed := sound.changed legal reports
  cases event with
  | didFindService description capabilities now guid =>
      rcases Option.bind_eq_some_iff.mp reports with ⟨address, located, registered⟩
      rcases Option.map_eq_some_iff.mp registered with ⟨found, same, rfl⟩
      exact (sound.registers located same).almostMatches sound lists now
  | didLoseService description now =>
      rcases Option.bind_eq_some_iff.mp reports with ⟨address, located, listed⟩
      rcases Option.map_eq_some_iff.mp listed with ⟨device, held, rfl⟩
      refine almostMatches_of_listed sound lists changed
        (removeService_allDevices ..) ?_ ?_ <;>
        cases (manager.removeService device
          description.serviceId).memory.hasServices device <;> simp
  | capabilitiesChanged device serviceName added removed now =>
      cases reports
      exact almostMatches_of_listed sound lists changed
        (changeCapabilities_allDevices ..) (by simp) (by simp)
  | setCapabilityFilters _ => cases reports
  | detectSSIDChange _ => cases reports
  | devicePicker => cases reports
  | setDeviceStore _ => cases reports

/-- The reports of an event reach the entries of their device, and new filters
find every device that passes under its own address. -/
structure KeepsCompatible (manager : DiscoveryManager) (event : DiscoveryEvent) :
    Prop where
  legal : manager.Legal event
  fits : ∀ reporting, manager.reporting event = some reporting → reporting.Fits
  filtered : ∀ capabilityFilters,
    event = .setCapabilityFilters capabilityFilters → ∀ key device,
      manager.allDevices.lookup key = some device →
      { manager with capabilityFilters }.deviceIsCompatible device = true →
        manager.memory.address device = some key

/-- The dictionary that new filters fill anew. -/
theorem lookup_filtered {manager : DiscoveryManager}
    (placed : ∀ key device, manager.allDevices.lookup key = some device →
      manager.deviceIsCompatible device = true →
        manager.memory.address device = some key)
    {entries : List (String × Ref ConnectableDevice)}
    (filtered : entries.map Prod.snd =
      manager.allDevices.values.filter manager.deviceIsCompatible)
    (located : ∀ entry ∈ entries, manager.memory.address entry.2 = some entry.1)
    (key : String) (device : Ref ConnectableDevice) :
    (Dictionary.insertAll entries ∅).lookup key = some device ↔
      manager.allDevices.lookup key = some device ∧
        manager.deviceIsCompatible device = true := by
  have listed : ∀ key device, (key, device) ∈ entries →
      manager.allDevices.lookup key = some device ∧
        manager.deviceIsCompatible device = true := by
    intro key device member
    have mapped := List.mem_map_of_mem (f := Prod.snd) member
    rw [filtered] at mapped
    rcases List.mem_filter.mp mapped with ⟨value, compatible⟩
    rcases Dictionary.mem_values_iff.mp value with ⟨address, held⟩
    have same := (placed address device held compatible).symm.trans
      (located _ member)
    cases same
    exact ⟨held, compatible⟩
  constructor
  · intro filed
    rcases Dictionary.lookup_insertAll filed with member | impossible
    · exact listed key device member
    · simp at impossible
  · rintro ⟨held, compatible⟩
    have value := List.mem_filter.mpr
      ⟨Dictionary.mem_values_iff.mpr ⟨key, held⟩, compatible⟩
    rw [← filtered] at value
    rcases List.mem_map.mp value with ⟨⟨address, _⟩, member, rfl⟩
    have same : key = address := Option.some.inj
      ((placed key _ held compatible).symm.trans (located _ member))
    subst same
    apply Dictionary.lookup_insertAll_of_mem member
    intro other otherMember
    exact Option.some.inj
      ((listed key other otherMember).1.symm.trans held)

/-- One event keeps the lists matching. -/
theorem ListsCompatible.step {manager next : DiscoveryManager}
    {event : DiscoveryEvent} (lists : manager.ListsCompatible)
    (sound : manager.Sound) (permitted : manager.KeepsCompatible event)
    (stepped : manager.step event = some next) : next.ListsCompatible := by
  cases step_reaction stepped with
  | @reported _ reporting reports performed =>
      have almost := sound.almostMatches lists permitted.legal reports
      rcases reporting.perform_outcome performed with
        ⟨_, allDevices, compatibleDevices, sent, outcome, effect⟩
      exact listsCompatible_of_effect effect
        (outcome_matches almost (permitted.fits reporting reports) outcome)
  | @filtered capabilityFilters set =>
      rcases setCapabilityFilters_cases set with
        ⟨_, entries, filtered, located, effect⟩
      exact listsCompatible_of_effect effect
        (lookup_filtered (permitted.filtered capabilityFilters rfl) filtered
          located)
  | purged effect _ =>
      apply listsCompatible_of_effect effect
      intro key device
      simp
  | quiet effect _ => exact listsCompatible_of_effect effect lists

theorem run_listsCompatible {manager final : DiscoveryManager}
    {events : List DiscoveryEvent} (initial : manager.Initial)
    (permitted : EveryStep DiscoveryManager.step KeepsCompatible manager events)
    (reached : runFrom DiscoveryManager.step manager events = some final) :
    final.ListsCompatible := by
  have initially : manager.Sound ∧ manager.ListsCompatible := by
    refine ⟨initial.sound, fun key device => ?_⟩
    rw [initial.compatibleDevices, initial.allDevices]
    simp
  have preserved : ∀ before event after,
      Sound before ∧ ListsCompatible before → KeepsCompatible before event →
        before.step event = some after → after.Sound ∧ after.ListsCompatible := by
    intro before event after invariant permitted stepped
    exact ⟨invariant.1.step permitted.legal stepped,
      invariant.2.step invariant.1 permitted stepped⟩
  exact (runFrom_invariant preserved initially permitted reached).2

/-- A device that is found and passes the filters that are set then. -/
theorem launcher_listed :
    ∃ final, runFrom DiscoveryManager.step (start rokuClasses .missing 1)
        [.didFindService (rokuAt "10.0.0.1") rokuCapabilities 1 "guid",
          .setCapabilityFilters [["Launcher.App"]]] = some final ∧
      final.ListsCompatible := by
  refine ⟨_, rfl, @run_listsCompatible (start rokuClasses .missing 1) _
    [.didFindService (rokuAt "10.0.0.1") rokuCapabilities 1 "guid",
      .setCapabilityFilters [["Launcher.App"]]]
    (start_initial rokuClasses .missing 1) ⟨⟨trivial, ?_, ?_⟩, ⟨trivial, ?_, ?_⟩,
      trivial⟩ rfl⟩
  · intro reporting reports
    have same := Option.some.inj reports
    subst same
    refine ⟨rfl, fun other held => .inl ?_⟩
    have member := Dictionary.lookup_eq_some_iff.mp held
    cases List.mem_singleton.mp member
    rfl
  · intro capabilityFilters impossible
    cases impossible
  · intro reporting impossible
    cases impossible
  · intro capabilityFilters same key device held _
    cases same
    have member := Dictionary.lookup_eq_some_iff.mp held
    cases List.mem_singleton.mp member
    rfl

/-- A callback of a device that was lost puts it back on the compatible list
only. -/
theorem lost_device_readded :
    ∃ final, runFrom DiscoveryManager.step (start rokuClasses .missing 1)
        [.didFindService (rokuAt "10.0.0.1") rokuCapabilities 1 "guid",
          .didLoseService (rokuAt "10.0.0.1") 2,
          .capabilitiesChanged ⟨0⟩ "Roku"
            ["Launcher.Netflix", "Launcher.Netflix.Params"] [] 3] =
        some final ∧
      EveryStep DiscoveryManager.step Legal (start rokuClasses .missing 1)
        [.didFindService (rokuAt "10.0.0.1") rokuCapabilities 1 "guid",
          .didLoseService (rokuAt "10.0.0.1") 2,
          .capabilitiesChanged ⟨0⟩ "Roku"
            ["Launcher.Netflix", "Launcher.Netflix.Params"] [] 3] ∧
      ¬ final.ListsCompatible := by
  refine ⟨_, rfl, ⟨trivial, trivial, Nat.zero_lt_one, trivial⟩, fun lists => ?_⟩
  have listed := ((lists "10.0.0.1" ⟨0⟩).mp rfl).1
  cases listed

end DiscoveryManager

end ConnectSDK
