import ConnectSDK.Discovery.Soundness

/-! # Keys of the device dictionaries

Both dictionaries are documented to be keyed by the current IP address of each
device. A device object that the store hands out may be listed already, under
the address it had before.
-/

namespace ConnectSDK

namespace DiscoveryManager

/-- Every device object stands under one key only, its current address. -/
structure KeyedByAddress (memory : Memory)
    (dictionary : Dictionary String (Ref ConnectableDevice)) : Prop where
  address : ∀ key device, dictionary.lookup key = some device →
    memory.address device = some key
  unique : ∀ key other device, dictionary.lookup key = some device →
    dictionary.lookup other = some device → other = key

theorem keyedByAddress_of_address {memory : Memory}
    {dictionary : Dictionary String (Ref ConnectableDevice)}
    (address : ∀ key device, dictionary.lookup key = some device →
      memory.address device = some key) : KeyedByAddress memory dictionary where
  address := address
  unique := fun key other device held again =>
    Option.some.inj ((address other device again).symm.trans
      (address key device held))

/-- A device object in use that is handed out for a new address either takes
the address and was listed nowhere else, or it stays without services or was at
this address before. -/
def KeepsKeys (manager : DiscoveryManager) : DiscoveryEvent → Prop
  | .didFindService description _ _ _ => ∀ address device,
      description.address = some address →
      manager.allDevices.lookup address = none →
      manager.knownDevice description.uuid = some device →
        if manager.acceptsDescription description then
          (∀ key, manager.allDevices.lookup key ≠ some device) ∧
            ∀ key, manager.compatibleDevices.lookup key = some device →
              key = address
        else
          manager.memory.hasServices device = true →
            manager.memory.address device = some address
  | event => manager.Legal event

structure Keyed (manager : DiscoveryManager) : Prop where
  sound : manager.Sound
  listed : ∀ key device, manager.allDevices.lookup key = some device →
    manager.memory.address device = some key
  compatible : ∀ key device, manager.compatibleDevices.lookup key = some device →
    manager.memory.address device = some key

/-- The dictionaries of a manager that is about to report a device. Only a
device that will be withdrawn may stand under a key that is not its address. -/
structure KeyedReporting (reporting : Reporting) : Prop where
  listed : ∀ key device,
    reporting.manager.allDevices.lookup key = some device →
    reporting.report ≠ .withdraw key →
      reporting.manager.memory.address device = some key
  compatible : ∀ key device,
    reporting.manager.compatibleDevices.lookup key = some device →
      reporting.manager.memory.address device = some key

/-- Nothing about addresses changes when the reported device keeps its own. -/
theorem Keyed.reporting_of_unmoved {manager : DiscoveryManager}
    (keyed : manager.Keyed) {reporting : Reporting}
    (changed : Changed reporting.device manager reporting.manager)
    (listed : reporting.manager.allDevices = manager.allDevices)
    (unmoved : reporting.manager.memory.address reporting.device =
      manager.memory.address reporting.device) : KeyedReporting reporting := by
  have address : ∀ device, manager.memory.devices.Allocated device →
      reporting.manager.memory.address device = manager.memory.address device := by
    intro device allocated
    by_cases own : device = reporting.device
    · rw [own, unmoved]
    · exact changed.touches.address_other device allocated own
  constructor
  · intro key device held _
    rw [listed] at held
    rw [address device (keyed.sound.listed key device held)]
    exact keyed.listed key device held
  · intro key device held
    rw [changed.compatibleDevices] at held
    rw [address device (keyed.sound.compatible key device held)]
    exact keyed.compatible key device held

/-- A device that is filed under a new address stands under that address only,
as far as it is there. -/
theorem Keyed.reporting_of_moved {manager : DiscoveryManager}
    (keyed : manager.Keyed) {reporting : Reporting} {address : String}
    (changed : Changed reporting.device manager reporting.manager)
    (inserted : reporting.manager.allDevices =
      manager.allDevices.insert address reporting.device)
    (located : reporting.report = .withdraw address ∨
      reporting.manager.memory.address reporting.device = some address)
    (listed : ∀ key, manager.allDevices.lookup key = some reporting.device →
      reporting.manager.memory.address reporting.device = some key)
    (compatible : ∀ key,
      manager.compatibleDevices.lookup key = some reporting.device →
        reporting.manager.memory.address reporting.device = some key) :
    KeyedReporting reporting := by
  constructor
  · intro key device held kept
    rw [inserted, Dictionary.lookup_insert_eq] at held
    by_cases here : key = address
    · rw [if_pos here, Option.some.injEq] at held
      rw [← held, here]
      exact located.resolve_left fun withdrawn => kept (here ▸ withdrawn)
    · rw [if_neg here] at held
      by_cases own : device = reporting.device
      · rw [own]
        exact listed key (own ▸ held)
      · rw [changed.touches.address_other device
          (keyed.sound.listed key device held) own]
        exact keyed.listed key device held
  · intro key device held
    rw [changed.compatibleDevices] at held
    by_cases own : device = reporting.device
    · rw [own]
      exact compatible key (own ▸ held)
    · rw [changed.touches.address_other device
        (keyed.sound.compatible key device held) own]
      exact keyed.compatible key device held

theorem Keyed.registered {manager : DiscoveryManager} (keyed : manager.Keyed)
    {address : String} {description : ServiceDescription} {found : FoundDevice}
    (registers : Registers manager address description found)
    (permitted : ∀ device, manager.allDevices.lookup address = none →
      manager.knownDevice description.uuid = some device →
        if manager.acceptsDescription description then
          (∀ key, manager.allDevices.lookup key ≠ some device) ∧
            ∀ key, manager.compatibleDevices.lookup key = some device →
              key = address
        else
          manager.memory.hasServices device = true →
            manager.memory.address device = some address)
    (now : TimeInterval) :
    KeyedReporting
      { manager := found.manager
        device := found.device
        report :=
          if found.manager.memory.hasServices found.device then
            if found.deviceIsNew then .add address else .update now
          else .withdraw address } := by
  have changed := registers.changed
  rcases registers.listed with
    ⟨held, old, same⟩ | ⟨absent, new, inserted, known⟩
  · have allocated := keyed.sound.listed address found.device held
    apply keyed.reporting_of_unmoved changed same
    cases accepted : manager.acceptsDescription description with
    | true =>
        exact (registers.accepted accepted).1.trans
          (keyed.listed address found.device held).symm
    | false => exact ((registers.rejected accepted).1 allocated).2
  · by_cases allocated : manager.memory.devices.Allocated found.device
    · have condition := permitted found.device absent (known allocated)
      cases accepted : manager.acceptsDescription description with
      | true =>
          have address := (registers.accepted accepted).1
          simp only [accepted, if_true] at condition
          refine keyed.reporting_of_moved changed inserted (.inr address) ?_ ?_
          · intro key held
            exact absurd held (condition.1 key)
          · intro key held
            rw [condition.2 key held]
            exact address
      | false =>
          rcases (registers.rejected accepted).1 allocated with ⟨services, unmoved⟩
          simp only [accepted, Bool.false_eq_true, if_false] at condition
          refine keyed.reporting_of_moved changed inserted ?_ ?_ ?_
          · have same : found.manager.memory.hasServices found.device =
                manager.memory.hasServices found.device := by
              rw [Memory.hasServices, Memory.hasServices, services]
            cases serviced : manager.memory.hasServices found.device with
            | true => exact .inr (unmoved.trans (condition serviced))
            | false =>
                left
                simp only [same, serviced, Bool.false_eq_true, if_false]
          · intro key held
            exact unmoved.trans (keyed.listed key found.device held)
          · intro key held
            exact unmoved.trans (keyed.compatible key found.device held)
    · refine keyed.reporting_of_moved changed inserted ?_ ?_ ?_
      · cases accepted : manager.acceptsDescription description with
        | true => exact .inr (registers.accepted accepted).1
        | false =>
            left
            simp [Memory.hasServices, (registers.rejected accepted).2 allocated]
      · intro key held
        exact absurd (keyed.sound.listed key found.device held) allocated
      · intro key held
        exact absurd (keyed.sound.compatible key found.device held) allocated

/-- Whatever an event reports, the dictionaries are keyed up to that point. -/
theorem Keyed.reporting {manager : DiscoveryManager} (keyed : manager.Keyed)
    {event : DiscoveryEvent} (permitted : manager.KeepsKeys event)
    (legal : manager.Legal event) {reporting : Reporting}
    (reports : manager.reporting event = some reporting) :
    KeyedReporting reporting := by
  have changed := keyed.sound.changed legal reports
  cases event with
  | didFindService description capabilities now guid =>
      rcases Option.bind_eq_some_iff.mp reports with ⟨address, located, registered⟩
      rcases Option.map_eq_some_iff.mp registered with ⟨found, same, rfl⟩
      exact keyed.registered (keyed.sound.registers located same)
        (fun device => permitted address device located) now
  | didLoseService description now =>
      rcases Option.bind_eq_some_iff.mp reports with ⟨address, located, listed⟩
      rcases Option.map_eq_some_iff.mp listed with ⟨device, held, rfl⟩
      exact keyed.reporting_of_unmoved changed
        (removeService_allDevices ..) (removeService_address ..)
  | capabilitiesChanged device serviceName added removed now =>
      cases reports
      exact keyed.reporting_of_unmoved changed
        (changeCapabilities_allDevices ..) (changeCapabilities_address ..)
  | setCapabilityFilters _ => cases reports
  | detectSSIDChange _ => cases reports
  | devicePicker => cases reports
  | setDeviceStore _ => cases reports

theorem KeepsKeys.legal {manager : DiscoveryManager} {event : DiscoveryEvent}
    (permitted : manager.KeepsKeys event) : manager.Legal event := by
  cases event with
  | didFindService _ _ _ _ => trivial
  | _ => exact permitted

/-- One event keeps the dictionaries keyed by address. -/
theorem Keyed.step {manager next : DiscoveryManager} {event : DiscoveryEvent}
    (keyed : manager.Keyed) (permitted : manager.KeepsKeys event)
    (stepped : manager.step event = some next) : next.Keyed := by
  have sound := keyed.sound.step permitted.legal stepped
  cases step_reaction stepped with
  | @reported _ reporting reports performed =>
      have before := keyed.reporting permitted permitted.legal reports
      rcases reporting.perform_outcome performed with
        ⟨_, allDevices, compatibleDevices, sent, outcome, effect⟩
      refine ⟨sound, ?_, ?_⟩
      · intro key device held
        rw [effect.allDevices] at held
        rw [effect.memory]
        rcases outcome_listed outcome held with ⟨listed, kept⟩
        exact before.listed key device listed kept
      · intro key device held
        rw [effect.compatibleDevices] at held
        rw [effect.memory]
        rcases outcome_compatible outcome held with kept | ⟨rfl, located⟩
        · exact before.compatible key device kept
        · exact located
  | filtered set =>
      rcases setCapabilityFilters_cases set with ⟨_, entries, _, located, effect⟩
      refine ⟨sound, ?_, ?_⟩
      · intro key device held
        rw [effect.allDevices] at held
        rw [effect.memory]
        exact keyed.listed key device held
      · intro key device held
        rw [effect.compatibleDevices] at held
        rw [effect.memory]
        rcases Dictionary.lookup_insertAll held with member | impossible
        · exact located _ member
        · simp at impossible
  | purged effect _ =>
      refine ⟨sound, ?_, ?_⟩
      · intro key device held
        rw [effect.allDevices] at held
        simp at held
      · intro key device held
        rw [effect.compatibleDevices] at held
        simp at held
  | quiet effect _ =>
      refine ⟨sound, ?_, ?_⟩
      · intro key device held
        rw [effect.allDevices] at held
        rw [effect.memory]
        exact keyed.listed key device held
      · intro key device held
        rw [effect.compatibleDevices] at held
        rw [effect.memory]
        exact keyed.compatible key device held

theorem Initial.keyed {manager : DiscoveryManager} (initial : manager.Initial) :
    manager.Keyed where
  sound := initial.sound
  listed := fun key device held => by
    rw [initial.allDevices] at held
    simp at held
  compatible := fun key device held => by
    rw [initial.compatibleDevices] at held
    simp at held

/-- While no listed device is handed out for another address, both dictionaries
are keyed by the current addresses. -/
theorem run_keyedByAddress {manager final : DiscoveryManager}
    {events : List DiscoveryEvent} (initial : manager.Initial)
    (permitted : EveryStep DiscoveryManager.step KeepsKeys manager events)
    (reached : runFrom DiscoveryManager.step manager events = some final) :
    KeyedByAddress final.memory final.allDevices ∧
      KeyedByAddress final.memory final.compatibleDevices := by
  have keyed : final.Keyed :=
    runFrom_invariant (fun _ _ _ keyed => keyed.step) initial.keyed permitted reached
  exact ⟨keyedByAddress_of_address keyed.listed,
    keyedByAddress_of_address keyed.compatible⟩

/-- A store file that has a record of the Roku. -/
def rokuRecord : DeviceStoreFile :=
  .contents (.object [("devices", .object [("roku", .object [
    ("id", .string "roku"), ("lastConnected", .number 1)])])])

/-- A device that is lost before it is found elsewhere moves. -/
theorem lost_device_moves :
    ∃ final, runFrom DiscoveryManager.step (start rokuClasses rokuRecord 1)
        [.didFindService (rokuAt "10.0.0.1") rokuCapabilities 1 "guid",
          .didLoseService (rokuAt "10.0.0.1") 2,
          .didFindService (rokuAt "10.0.0.2") rokuCapabilities 3 "guid"] = some final ∧
      KeyedByAddress final.memory final.allDevices ∧
      KeyedByAddress final.memory final.compatibleDevices := by
  refine ⟨_, rfl, @run_keyedByAddress (start rokuClasses rokuRecord 1) _
    [.didFindService (rokuAt "10.0.0.1") rokuCapabilities 1 "guid",
      .didLoseService (rokuAt "10.0.0.1") 2,
      .didFindService (rokuAt "10.0.0.2") rokuCapabilities 3 "guid"]
    (start_initial rokuClasses rokuRecord 1) ⟨?_, trivial, ?_, trivial⟩ rfl⟩
  · intro address device located absent known
    cases known
  · intro address device located absent known
    constructor
    · intro key held
      have member := Dictionary.lookup_eq_some_iff.mp held
      cases member
    · intro key held
      have member := Dictionary.lookup_eq_some_iff.mp held
      cases member

def reportsService : DiscoveryEvent → Bool
  | .didFindService .. | .didLoseService .. => true
  | _ => false

/-- A device that the store knows, found at a second address, stands under
both. -/
theorem moved_device_listed_twice :
    ¬ ∀ (events : List DiscoveryEvent) (final : DiscoveryManager),
      (∀ event ∈ events, reportsService event = true) →
      runFrom DiscoveryManager.step (start rokuClasses rokuRecord 1) events =
          some final →
        KeyedByAddress final.memory final.allDevices ∧
          KeyedByAddress final.memory final.compatibleDevices := by
  intro keyed
  have found := keyed
    [.didFindService (rokuAt "10.0.0.1") rokuCapabilities 1 "guid",
      .didFindService (rokuAt "10.0.0.2") rokuCapabilities 2 "guid"] _
    (by simp [reportsService]) rfl
  have same := found.1.unique "10.0.0.1" "10.0.0.2" ⟨0⟩ rfl rfl
  exact absurd same (by decide)

end DiscoveryManager

end ConnectSDK
