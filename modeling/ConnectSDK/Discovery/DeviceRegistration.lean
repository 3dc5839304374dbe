import ConnectSDK.Devices.ObjectGraph
import ConnectSDK.Discovery.DiscoveryManager

/-! # Registering a service that was found

`didFindService:` takes the device from the manager's list or from the store, or
makes a new one, and registers the service with it. It touches no other device,
and the device ends up at the address of the description.
-/

namespace ConnectSDK

namespace DiscoveryManager

/-- The store has the device in use. -/
def Active (manager : DiscoveryManager) (device : Ref ConnectableDevice) : Prop :=
  ∃ deviceStore id, manager.deviceStore = some deviceStore ∧
    deviceStore.activeDevices.lookup id = some device

/-- Every device that the manager can reach exists. -/
structure Sound (manager : DiscoveryManager) : Prop where
  wellFormed : manager.memory.WellFormed
  listed : ∀ address device, manager.allDevices.lookup address = some device →
    manager.memory.devices.Allocated device
  compatible : ∀ address device,
    manager.compatibleDevices.lookup address = some device →
      manager.memory.devices.Allocated device
  active : ∀ device, manager.Active device →
    manager.memory.devices.Allocated device

/-- The device object that the store hands out for a UUID, if it has one in
use. -/
def knownDevice (manager : DiscoveryManager) (uuid : Option String) :
    Option (Ref ConnectableDevice) :=
  match manager.useDeviceStore, manager.deviceStore, uuid with
  | true, some deviceStore, some uuid =>
      if uuid.isEmpty then none
      else deviceStore.activeDeviceForUUID manager.memory uuid
  | _, _, _ => none

/-! ## Finding the device -/

/-- The store is not used, or answers. -/
theorem storedDevice_cases (manager : DiscoveryManager) (uuid : Option String)
    (guid : String) :
    manager.storedDevice uuid guid = (none, manager) ∨
      ∃ deviceStore, manager.useDeviceStore = true ∧
        manager.deviceStore = some deviceStore ∧
        manager.storedDevice uuid guid =
          ((deviceStore.deviceForId manager.memory uuid guid).1,
            { manager with
              memory := (deviceStore.deviceForId manager.memory uuid guid).2.1
              deviceStore :=
                some (deviceStore.deviceForId manager.memory uuid guid).2.2 }) := by
  cases use : manager.useDeviceStore with
  | false =>
      left
      simp only [storedDevice, use]
  | true =>
      cases used : manager.deviceStore with
      | none =>
          left
          simp only [storedDevice, use, used]
      | some deviceStore =>
          right
          refine ⟨deviceStore, rfl, rfl, ?_⟩
          simp only [storedDevice, use, used]

/-- Finding a device touches neither the compatible list nor what was sent. -/
theorem findDevice_rest (manager : DiscoveryManager) (address : String)
    (description : Ref ServiceDescription) (uuid : Option String)
    (guid : String) :
    (manager.findDevice address description uuid guid).manager =
      { manager with
        memory := (manager.findDevice address description uuid guid).manager.memory
        deviceStore :=
          (manager.findDevice address description uuid guid).manager.deviceStore
        allDevices :=
          (manager.findDevice address description uuid
            guid).manager.allDevices } := by
  cases held : manager.allDevices.lookup address with
  | some device => simp only [findDevice, held]
  | none =>
      rcases manager.storedDevice_cases uuid guid with
        nothing | ⟨deviceStore, _, _, answered⟩
      · simp only [findDevice, held, nothing]
      · cases answer : (deviceStore.deviceForId manager.memory uuid guid).1 <;>
          simp only [findDevice, held, answered, answer]

/-- The description of an event is still there, and at most the found device's. -/
structure Described (manager : DiscoveryManager)
    (description : ServiceDescription) (found : FoundDevice) : Prop where
  allocated : found.manager.memory.descriptions.Allocated
    manager.memory.descriptions.fresh
  reads : found.manager.memory.descriptions.read
    manager.memory.descriptions.fresh = description
  owned : found.manager.memory.OwnedBy manager.memory.descriptions.fresh
    found.device

/-- What `findDevice` leaves: no device object has changed, and one may have
been made. -/
structure Finds (manager : DiscoveryManager) (address : String)
    (description : ServiceDescription) (found : FoundDevice) : Prop where
  described : Described manager description found
  touches : Memory.Touches found.device manager.memory found.manager.memory
  allocated : found.manager.memory.devices.Allocated found.device
  unchanged : manager.memory.devices.Allocated found.device →
    found.manager.memory.devices.read found.device =
        manager.memory.devices.read found.device ∧
      found.manager.memory.address found.device =
        manager.memory.address found.device
  bare : ¬ manager.memory.devices.Allocated found.device →
    found.manager.memory.services found.device = []
  active : ∀ other, found.manager.Active other →
    manager.Active other ∨ other = found.device
  rest : found.manager =
    { manager with
      memory := found.manager.memory
      deviceStore := found.manager.deviceStore
      allDevices := found.manager.allDevices }
  listed : manager.allDevices.lookup address = some found.device ∧
        found.deviceIsNew = false ∧ found.manager.allDevices = manager.allDevices ∨
    manager.allDevices.lookup address = none ∧ found.deviceIsNew = true ∧
      found.manager.allDevices = manager.allDevices.insert address found.device ∧
      (manager.memory.devices.Allocated found.device →
        manager.knownDevice description.uuid = some found.device)

theorem Sound.activeDeviceForUUID_allocateDescription
    {manager : DiscoveryManager} (sound : manager.Sound)
    {deviceStore : DefaultConnectableDeviceStore}
    (used : manager.deviceStore = some deviceStore)
    (description : ServiceDescription) (uuid : String) :
    deviceStore.activeDeviceForUUID
        (manager.memory.allocateDescription description) uuid =
      deviceStore.activeDeviceForUUID manager.memory uuid := by
  rw [DefaultConnectableDeviceStore.activeDeviceForUUID,
    DefaultConnectableDeviceStore.activeDeviceForUUID]
  congr 2
  apply Dictionary.firstWhere_congr
  intro id device held
  have allocated := sound.active device ⟨deviceStore, id, used, held⟩
  have same : ∀ service ∈ manager.memory.services device,
      (manager.memory.allocateDescription description).serviceUUID service =
        manager.memory.serviceUUID service := by
    intro service member
    rw [Memory.serviceUUID, Memory.allocateDescription,
      (sound.wellFormed.described_service allocated member).read_allocate]
    rfl
  rw [Bool.eq_iff_iff, List.any_eq_true, List.any_eq_true]
  apply exists_congr
  intro service
  apply and_congr_right
  intro member
  rw [same service member]

/-- A description that was just handed over. -/
theorem Sound.described {manager : DiscoveryManager} (sound : manager.Sound)
    {description : ServiceDescription} {found : FoundDevice}
    (handed : found.manager.memory =
      manager.memory.allocateDescription description) :
    Described manager description found where
  allocated := by
    rw [handed]
    exact Heap.allocated_fresh manager.memory.descriptions description
  reads := by rw [handed, Memory.allocateDescription, Heap.read_allocate_fresh]
  owned := by
    rw [handed]
    exact sound.wellFormed.ownedBy_fresh description found.device

/-- The device an address was found for before. -/
theorem Sound.finds_listed {manager : DiscoveryManager} (sound : manager.Sound)
    {address : String} {device : Ref ConnectableDevice}
    (held : manager.allDevices.lookup address = some device)
    (description : ServiceDescription) :
    Finds manager address description
      { device
        deviceIsNew := false
        manager := { manager with
          memory := manager.memory.allocateDescription description } } where
  described := sound.described rfl
  touches := sound.wellFormed.touches_allocateDescription description device
  allocated := sound.listed address device held
  unchanged := fun allocated =>
    ⟨rfl, sound.wellFormed.address_allocateDescription description allocated⟩
  bare := fun unallocated => absurd (sound.listed address device held) unallocated
  active := fun _ active => .inl active
  rest := rfl
  listed := .inl ⟨held, rfl, rfl⟩

/-- A device object that the store has in use. -/
theorem Sound.finds_inUse {manager : DiscoveryManager} (sound : manager.Sound)
    {address : String} (absent : manager.allDevices.lookup address = none)
    (use : manager.useDeviceStore = true)
    {deviceStore : DefaultConnectableDeviceStore}
    (used : manager.deviceStore = some deviceStore)
    {description : ServiceDescription} {uuid : String}
    (identified : description.uuid = some uuid) (filled : uuid.isEmpty = false)
    {device : Ref ConnectableDevice}
    (active : deviceStore.activeDeviceForUUID
      (manager.memory.allocateDescription description) uuid = some device) :
    Finds manager address description
      { device
        deviceIsNew := true
        manager := { manager with
          memory := manager.memory.allocateDescription description
          deviceStore := some (deviceStore.activate
            (manager.memory.allocateDescription description) device)
          allDevices := manager.allDevices.insert address device } } := by
  rw [sound.activeDeviceForUUID_allocateDescription used] at active
  rcases DefaultConnectableDeviceStore.activeDeviceForUUID_active active with
    ⟨id, held⟩
  have allocated := sound.active device ⟨deviceStore, id, used, held⟩
  refine
    { described := sound.described rfl
      touches := sound.wellFormed.touches_allocateDescription description device
      allocated := allocated
      unchanged := fun _ => ⟨rfl,
        sound.wellFormed.address_allocateDescription description allocated⟩
      bare := fun unallocated => absurd allocated unallocated
      active := ?_
      rest := rfl
      listed := .inr ⟨absent, rfl, rfl, fun _ => ?_⟩ }
  · rintro other ⟨_, key, same, kept⟩
    cases same
    rcases DefaultConnectableDeviceStore.activate_active kept with before | own
    · exact .inl ⟨deviceStore, key, used, before⟩
    · exact .inr own.2
  · simp only [knownDevice, use, used, identified, filled, active,
      Bool.false_eq_true, if_false]

/-- A device made from a record of the store. -/
theorem Sound.finds_restored {manager : DiscoveryManager} (sound : manager.Sound)
    {address : String} (absent : manager.allDevices.lookup address = none)
    {deviceStore : DefaultConnectableDeviceStore}
    (used : manager.deviceStore = some deviceStore)
    (description : ServiceDescription) (record : JSON) (guid : String) :
    Finds manager address description
      { device := manager.memory.devices.fresh
        deviceIsNew := true
        manager := { manager with
          memory := (manager.memory.allocateDescription
            description).initWithJSONObject record guid
          deviceStore := some (deviceStore.activate
            ((manager.memory.allocateDescription
              description).initWithJSONObject record guid)
            manager.memory.devices.fresh)
          allDevices := manager.allDevices.insert address
            manager.memory.devices.fresh } } where
  described :=
    { allocated :=
        (Heap.allocated_fresh manager.memory.descriptions description).allocate _
      reads := ((Heap.allocated_fresh manager.memory.descriptions
        description).read_allocate _).trans (Heap.read_allocate_fresh ..)
      owned := ((sound.wellFormed.allocateDescription
        description).touches_initWithJSONObject record guid).ownedBy
          (sound.wellFormed.ownedBy_fresh description _) }
  touches := (sound.wellFormed.touches_allocateDescription description _).trans
    ((sound.wellFormed.allocateDescription
      description).touches_initWithJSONObject record guid)
  allocated := Heap.allocated_fresh manager.memory.devices _
  unchanged := fun allocated => absurd rfl allocated.ne_fresh
  bare := fun _ => Memory.services_initWithJSONObject_fresh
    (manager.memory.allocateDescription description) record guid
  active := by
    rintro other ⟨_, key, same, kept⟩
    cases same
    rcases DefaultConnectableDeviceStore.activate_active kept with before | own
    · exact .inl ⟨deviceStore, key, used, before⟩
    · exact .inr own.2
  rest := rfl
  listed := .inr ⟨absent, rfl, rfl, fun allocated =>
    absurd rfl allocated.ne_fresh⟩

/-- A device made for the description itself. -/
theorem Sound.finds_new {manager : DiscoveryManager} (sound : manager.Sound)
    {address : String} (absent : manager.allDevices.lookup address = none)
    (description : ServiceDescription) (guid : String) :
    Finds manager address description
      { device := manager.memory.devices.fresh
        deviceIsNew := true
        manager := { manager with
          memory := (manager.memory.allocateDescription
            description).initWithDescription manager.memory.descriptions.fresh
              guid
          allDevices := manager.allDevices.insert address
            manager.memory.devices.fresh } } where
  described :=
    { allocated := Heap.allocated_fresh manager.memory.descriptions description
      reads := Heap.read_allocate_fresh ..
      owned := ((sound.wellFormed.allocateDescription
        description).touches_initWithDescription
          (Heap.allocated_fresh manager.memory.descriptions _)
          (sound.wellFormed.ownedBy_fresh description _) guid).ownedBy
            (sound.wellFormed.ownedBy_fresh description _) }
  touches := (sound.wellFormed.touches_allocateDescription description _).trans
    ((sound.wellFormed.allocateDescription
      description).touches_initWithDescription
        (Heap.allocated_fresh manager.memory.descriptions _)
        (sound.wellFormed.ownedBy_fresh description _) guid)
  allocated := Heap.allocated_fresh manager.memory.devices _
  unchanged := fun allocated => absurd rfl allocated.ne_fresh
  bare := fun _ => Memory.services_initWithDescription_fresh
    (manager.memory.allocateDescription description) _ guid
  active := fun _ active => .inl active
  rest := rfl
  listed := .inr ⟨absent, rfl, rfl, fun allocated =>
    absurd rfl allocated.ne_fresh⟩

theorem Sound.finds {manager : DiscoveryManager} (sound : manager.Sound)
    (address : String) (description : ServiceDescription) (guid : String) :
    Finds manager address description
      (findDevice
        { manager with memory := manager.memory.allocateDescription description }
        address manager.memory.descriptions.fresh description.uuid guid) := by
  cases held : manager.allDevices.lookup address with
  | some device =>
      simp only [findDevice, held]
      exact sound.finds_listed held description
  | none =>
      simp only [findDevice, held]
      rcases storedDevice_cases
          { manager with memory := manager.memory.allocateDescription description }
          description.uuid guid with nothing | ⟨deviceStore, use, used, answered⟩
      · rw [nothing]
        exact sound.finds_new held description guid
      · rw [answered]
        have answer := deviceStore.deviceForId_forId
          (manager.memory.allocateDescription description) description.uuid guid
        generalize same : deviceStore.deviceForId
          (manager.memory.allocateDescription description) description.uuid guid =
            result at answer
        generalize identified : description.uuid = uuid at answer
        cases answer with
        | nothing =>
            have unchanged : some deviceStore = manager.deviceStore := used.symm
            simp only [unchanged]
            exact sound.finds_new held description guid
        | inUse filled active =>
            exact sound.finds_inUse held use used identified filled active
        | @restored uuid record filled unused stored =>
            exact sound.finds_restored held used description record guid

/-! ## Registering the service -/

/-- `after` differs from `before` in one device, in where devices are listed and
in what the store has in use. -/
structure Changed (device : Ref ConnectableDevice)
    (before after : DiscoveryManager) : Prop where
  touches : Memory.Touches device before.memory after.memory
  allocated : after.memory.devices.Allocated device
  active : ∀ other, after.Active other → before.Active other ∨ other = device
  listed : ∀ address other, after.allDevices.lookup address = some other →
    before.allDevices.lookup address = some other ∨ other = device
  rest : after =
    { before with
      memory := after.memory
      deviceStore := after.deviceStore
      allDevices := after.allDevices }

theorem Changed.compatibleDevices {device : Ref ConnectableDevice}
    {before after : DiscoveryManager} (changed : Changed device before after) :
    after.compatibleDevices = before.compatibleDevices := by
  rw [changed.rest]

theorem Changed.capabilityFilters {device : Ref ConnectableDevice}
    {before after : DiscoveryManager} (changed : Changed device before after) :
    after.capabilityFilters = before.capabilityFilters := by
  rw [changed.rest]

/-- What `registerFound` leaves. -/
structure Registers (manager : DiscoveryManager) (address : String)
    (description : ServiceDescription) (found : FoundDevice) : Prop where
  changed : Changed found.device manager found.manager
  listed : manager.allDevices.lookup address = some found.device ∧
        found.deviceIsNew = false ∧ found.manager.allDevices = manager.allDevices ∨
    manager.allDevices.lookup address = none ∧ found.deviceIsNew = true ∧
      found.manager.allDevices = manager.allDevices.insert address found.device ∧
      (manager.memory.devices.Allocated found.device →
        manager.knownDevice description.uuid = some found.device)
  accepted : manager.acceptsDescription description = true →
    found.manager.memory.address found.device = some address ∧
      found.manager.memory.hasServices found.device = true
  rejected : manager.acceptsDescription description = false →
    (manager.memory.devices.Allocated found.device →
      found.manager.memory.services found.device =
          manager.memory.services found.device ∧
        found.manager.memory.address found.device =
          manager.memory.address found.device) ∧
    (¬ manager.memory.devices.Allocated found.device →
      found.manager.memory.services found.device = [])

/-- Finding a device lists no other. -/
theorem Finds.lists {manager : DiscoveryManager} {address : String}
    {description : ServiceDescription} {found : FoundDevice}
    (finds : Finds manager address description found) (key : String)
    (other : Ref ConnectableDevice)
    (held : found.manager.allDevices.lookup key = some other) :
    manager.allDevices.lookup key = some other ∨ other = found.device := by
  rcases finds.listed with ⟨_, _, same⟩ | ⟨_, _, inserted, _⟩
  · rw [same] at held
    exact .inl held
  · rw [inserted, Dictionary.lookup_insert_eq] at held
    by_cases here : key = address
    · rw [if_pos here, Option.some.injEq] at held
      exact .inr held.symm
    · rw [if_neg here] at held
      exact .inl held

theorem Finds.accepts {manager : DiscoveryManager} {address : String}
    {description : ServiceDescription} {found : FoundDevice}
    (finds : Finds manager address description found) (memory : Memory)
    (other : ServiceDescription) :
    acceptsDescription { found.manager with memory } other =
      manager.acceptsDescription other := by
  rw [finds.rest]
  rfl

/-- A description that is accepted is registered, with the configuration the
store has for it or a new one. -/
theorem addServiceDescription_cases {manager : DiscoveryManager}
    {reference : Ref ServiceDescription} {device : Ref ConnectableDevice}
    {capabilities : List String} {now : TimeInterval} {after : Memory}
    (added : manager.addServiceDescription reference device capabilities now =
      some after) :
    manager.acceptsDescription (manager.memory.descriptions.read reference) =
        false ∧ after = manager.memory ∨
      manager.acceptsDescription (manager.memory.descriptions.read reference) =
        true ∧
      ∃ serviceClass config, manager.memory.registerService device serviceClass
        config reference capabilities = some after := by
  rw [addServiceDescription] at added
  cases accepted : manager.acceptsDescription
      (manager.memory.descriptions.read reference) with
  | false =>
      simp only [accepted, Bool.false_eq_true, if_false, Option.some.injEq]
        at added
      exact .inl ⟨rfl, added.symm⟩
  | true =>
      simp only [accepted, if_true] at added
      exact .inr ⟨rfl, _, _, added⟩

/-- What a registration notes on the device it has found. -/
def detect (manager : DiscoveryManager) (address : String) (now : TimeInterval)
    (object : ConnectableDevice) : ConnectableDevice :=
  { object with
    lastDetection := now
    lastKnownIPAddress := some address
    lastSeenOnWifi := manager.currentSSID }

/-- The description is added to the device found, once its detection is noted. -/
theorem registerFound_added {manager : DiscoveryManager} {address : String}
    {description : ServiceDescription} {capabilities : List String}
    {now : TimeInterval} {guid : String} {found : FoundDevice}
    (registered : manager.registerFound address description capabilities now guid =
      some found) :
    ∃ before memory,
      findDevice
          { manager with memory := manager.memory.allocateDescription description }
          address manager.memory.descriptions.fresh description.uuid guid = before ∧
        addServiceDescription
          { before.manager with
            memory := before.manager.memory.modifyDevice before.device
              (manager.detect address now) }
          manager.memory.descriptions.fresh before.device capabilities now =
            some memory ∧
        found = { before with manager := { before.manager with memory } } := by
  rcases Option.map_eq_some_iff.mp registered with ⟨memory, added, equal⟩
  exact ⟨_, memory, rfl, added, equal.symm⟩

theorem Finds.detected {manager : DiscoveryManager} {address : String}
    {description : ServiceDescription} {found : FoundDevice}
    (finds : Finds manager address description found) (now : TimeInterval) :
    Memory.OnlyChanges found.device found.manager.memory
      (found.manager.memory.modifyDevice found.device (manager.detect address now)) :=
  finds.touches.wellFormed.modifyProperties finds.allocated fun _ => ⟨rfl, rfl⟩

theorem Finds.reads_detected {manager : DiscoveryManager} {address : String}
    {description : ServiceDescription} {found : FoundDevice}
    (finds : Finds manager address description found) (now : TimeInterval) :
    (found.manager.memory.modifyDevice found.device
        (manager.detect address now)).descriptions.read
      manager.memory.descriptions.fresh = description :=
  finds.described.reads

/-- Once the detection is noted, the description is refused or registered as a service. -/
theorem Finds.added {manager : DiscoveryManager} {address : String}
    {description : ServiceDescription} {found : FoundDevice}
    (finds : Finds manager address description found)
    (located : description.address = some address) {capabilities : List String}
    {now : TimeInterval} {memory : Memory}
    (added : addServiceDescription
      { found.manager with
        memory := found.manager.memory.modifyDevice found.device
          (manager.detect address now) }
      manager.memory.descriptions.fresh found.device capabilities now = some memory) :
    manager.acceptsDescription description = false ∧
        memory = found.manager.memory.modifyDevice found.device
          (manager.detect address now) ∨
      manager.acceptsDescription description = true ∧
        ∃ serviceClass config serviceId,
          description.serviceId = some serviceId ∧
          (found.manager.memory.modifyDevice found.device
              (manager.detect address now)).registerService found.device serviceClass config
            manager.memory.descriptions.fresh capabilities = some memory ∧
          Memory.Registered found.device address serviceId capabilities
            (found.manager.memory.modifyDevice found.device (manager.detect address now))
            memory := by
  have detected := finds.detected now
  have reads := finds.reads_detected now
  rcases addServiceDescription_cases added with
    ⟨rejected, same⟩ | ⟨accepted, serviceClass, config, result⟩
  · rw [finds.accepts, reads] at rejected
    exact Or.inl ⟨rejected, same⟩
  · rw [finds.accepts, reads] at accepted
    rcases detected.wellFormed.registerService
        (detected.allocated_iff.mpr finds.allocated) finds.described.allocated
        (detected.ownedBy finds.described.owned) (by rw [reads, located]) result
      with ⟨serviceId, identified, service⟩
    rw [reads] at identified
    exact Or.inr ⟨accepted, serviceClass, config, serviceId, identified, result, service⟩

theorem Sound.registers {manager : DiscoveryManager} (sound : manager.Sound)
    {address : String} {description : ServiceDescription}
    (located : description.address = some address) {capabilities : List String}
    {now : TimeInterval} {guid : String} {found : FoundDevice}
    (registered : manager.registerFound address description capabilities now guid =
      some found) : Registers manager address description found := by
  have finds := sound.finds address description guid
  rcases registerFound_added registered with ⟨before, memory, finding, added, rfl⟩
  rw [finding] at finds
  have touches := finds.touches.trans (finds.detected now).touches
  rcases finds.added located added with
    ⟨rejected, rfl⟩ | ⟨accepted, serviceClass, config, serviceId, _, _, service⟩
  · refine
      { changed := ⟨touches, finds.allocated, finds.active, finds.lists, ?_⟩
        listed := finds.listed
        accepted := fun impossible => by cases impossible.symm.trans rejected
        rejected := fun _ => ⟨fun old => ?_, fun new => ?_⟩ }
    · conv_lhs => rw [finds.rest]
    · have unchanged := finds.unchanged old
      constructor
      · simp only [Memory.services, Memory.modifyDevice, Heap.read_modify_self,
          detect, unchanged.1]
      · rw [← unchanged.2]
        exact Memory.modifyDevice_address fun _ => rfl
    · rw [← finds.bare new]
      simp only [Memory.services, Memory.modifyDevice, Heap.read_modify_self,
        detect]
  · refine
      { changed :=
          ⟨touches.trans service.changes.touches,
            service.changes.allocated_iff.mpr finds.allocated, finds.active,
            finds.lists, ?_⟩
        listed := finds.listed
        accepted := fun _ => ⟨service.address, service.hasServices⟩
        rejected := fun impossible => by cases impossible.symm.trans accepted }
    conv_lhs => rw [finds.rest]

end DiscoveryManager

end ConnectSDK
