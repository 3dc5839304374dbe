import ConnectSDK.Discovery.ReplacedServices

/-! # Descriptions that a device and a service share

A device is created with the description of its first service as its consolidated one, and
a refreshed service shares its description with the device, too. What another service then
adds to the consolidated description, it writes into that of the service.
-/

namespace ConnectSDK

/-- What a device shows of a description. -/
structure ShownFields where
  friendlyName : Option String
  modelName : Option String
  modelNumber : Option String
  address : Option String
deriving DecidableEq

namespace ServiceDescription

def shownFields (description : ServiceDescription) : ShownFields where
  friendlyName := description.friendlyName
  modelName := description.modelName
  modelNumber := description.modelNumber
  address := description.address

/-- A consolidated description after `updateConsolidatedServiceDescription:`. -/
def consolidate (target source : ServiceDescription) : ServiceDescription :=
  { target with
    address := source.address.or target.address
    friendlyName := source.friendlyName.or target.friendlyName
    modelName := source.modelName.or target.modelName
    modelNumber := source.modelNumber.or target.modelNumber }

/-- Each field that the device shows is missing or the same as in the other description. -/
structure AddsNothing (source target : ServiceDescription) : Prop where
  friendlyName : source.friendlyName = none ∨ source.friendlyName = target.friendlyName
  modelName : source.modelName = none ∨ source.modelName = target.modelName
  modelNumber : source.modelNumber = none ∨ source.modelNumber = target.modelNumber
  address : source.address = none ∨ source.address = target.address

theorem or_eq_right_iff {text other : Option String} :
    text.or other = other ↔ text = none ∨ text = other := by
  cases text <;> simp

theorem shownFields_consolidate_iff (target source : ServiceDescription) :
    (target.consolidate source).shownFields = target.shownFields ↔
      source.AddsNothing target := by
  simp only [shownFields, consolidate, ShownFields.mk.injEq, or_eq_right_iff]
  constructor
  · intro same
    rcases same with ⟨friendlyName, modelName, modelNumber, address⟩
    exact ⟨friendlyName, modelName, modelNumber, address⟩
  · intro adds
    exact ⟨adds.friendlyName, adds.modelName, adds.modelNumber, adds.address⟩

theorem consolidate_congr (target : ServiceDescription) {source other : ServiceDescription}
    (same : source.shownFields = other.shownFields) :
    target.consolidate source = target.consolidate other := by
  injection same with friendlyName modelName modelNumber address
  rw [consolidate, consolidate, friendlyName, modelName, modelNumber, address]

end ServiceDescription

namespace DeviceServiceClass

@[simp] theorem completeDescription_shownFields (serviceClass : DeviceServiceClass)
    (description : ServiceDescription) :
    (serviceClass.completeDescription description).shownFields = description.shownFields := by
  rcases description with ⟨_, _, _, _, _, _, _, _, _, _, _, _, _, _, _ | headers, _, _⟩ <;>
    cases serviceClass <;> rfl

end DeviceServiceClass

namespace Memory

/-! ## Registering a service -/

/-- The description is one of a service that the device has already. -/
def Refreshes (memory : Memory) (device : Ref ConnectableDevice)
    (description : ServiceDescription) : Prop :=
  ∃ serviceId uuid, description.serviceId = some serviceId ∧
    description.uuid = some uuid ∧
    memory.attachedUUID device serviceId = some (some uuid)

/-- A new service writes into the consolidated description of its device. -/
theorem descriptions_createService {memory after : Memory}
    {device : Ref ConnectableDevice} {serviceClass : Option DeviceServiceClass}
    {config : ServiceConfig} {description : Ref ServiceDescription}
    {capabilities : List String}
    (absent : ∀ serviceId,
      (memory.descriptions.read description).serviceId = some serviceId →
        (memory.devices.read device).services.lookup serviceId = none)
    (created : memory.createService device serviceClass config description
      capabilities = some after)
    {target : Ref ServiceDescription} (other : target ≠ description) :
    after.descriptions.read target =
      if target = (memory.devices.read device).serviceDescription then
        (memory.descriptions.read target).consolidate (memory.descriptions.read description)
      else memory.descriptions.read target := by
  cases serviceClass with
  | none => cases created
  | some serviceClass =>
      cases identified : (memory.descriptions.read description).serviceId with
      | none => simp [createService, addService, serviceName, identified] at created
      | some serviceId =>
          have missing := absent serviceId identified
          simp only [createService, addService, serviceName, Heap.read_modify_self,
            identified, missing, DeviceServiceClass.completeDescription_serviceId,
            Option.some.injEq] at created
          subst created
          simp only [attachService, updateConsolidatedServiceDescription, modifyDevice,
            Heap.read_modify_self]
          split
          · rename_i consolidated
            subst consolidated
            rw [Heap.read_modify_self, Heap.read_modify_of_ne other]
            exact ServiceDescription.consolidate_congr _
              (serviceClass.completeDescription_shownFields _)
          · rename_i apart
            rw [Heap.read_modify_of_ne apart, Heap.read_modify_of_ne other]

/-- A service that is described anew writes into its new description only. -/
theorem descriptions_describeService (memory : Memory) (device : Ref ConnectableDevice)
    (serviceName : String) (capabilities : List String)
    {description target : Ref ServiceDescription} (other : target ≠ description) :
    (memory.describeService device serviceName description
        capabilities).descriptions.read target = memory.descriptions.read target := by
  rw [describeService]
  cases (memory.devices.read device).services.lookup serviceName with
  | none => rfl
  | some service => exact Heap.read_modify_of_ne other _

theorem refreshes_iff {memory : Memory} {device : Ref ConnectableDevice}
    {description : ServiceDescription} {serviceId : String}
    (identified : description.serviceId = some serviceId) {existing : DeviceService}
    (held : (memory.devices.read device).services.lookup serviceId = some existing) :
    memory.Refreshes device description ↔
      ((memory.serviceUUID existing).isSome &&
        memory.serviceUUID existing == description.uuid) = true := by
  have attached : memory.attachedUUID device serviceId =
      some (memory.serviceUUID existing) := by
    rw [attachedUUID, held, Option.map_some]
  simp only [Bool.and_eq_true, beq_iff_eq]
  constructor
  · intro refreshes
    rcases refreshes with ⟨other, uuid, same, given, stands⟩
    cases identified.symm.trans same
    have own := Option.some.inj (attached.symm.trans stands)
    exact ⟨by rw [own]; rfl, own.trans given.symm⟩
  · intro both
    rcases both with ⟨known, same⟩
    rcases Option.isSome_iff_exists.mp known with ⟨uuid, own⟩
    exact ⟨serviceId, uuid, identified, same.symm.trans own, by rw [attached, own]⟩

theorem refreshes_congr {memory other : Memory} {device : Ref ConnectableDevice}
    (same : ∀ serviceId,
      memory.attachedUUID device serviceId = other.attachedUUID device serviceId)
    (description : ServiceDescription) :
    memory.Refreshes device description ↔ other.Refreshes device description := by
  simp only [Refreshes, same]

/-- Unless it refreshes a service, a registration writes into the consolidated description,
and into no other one that was there. -/
theorem WellFormed.descriptions_registerService {memory after : Memory}
    (wellFormed : memory.WellFormed) {device : Ref ConnectableDevice}
    (allocated : memory.devices.Allocated device)
    {serviceClass : Option DeviceServiceClass} {config : ServiceConfig}
    {description : Ref ServiceDescription} {capabilities : List String}
    {serviceId : String}
    (identified : (memory.descriptions.read description).serviceId = some serviceId)
    (registered : memory.registerService device serviceClass config description
      capabilities = some after)
    {target : Ref ServiceDescription} (other : target ≠ description) :
    (memory.Refreshes device (memory.descriptions.read description) ∧
        after.descriptions.read target = memory.descriptions.read target) ∨
      (¬ memory.Refreshes device (memory.descriptions.read description) ∧
        after.descriptions.read target =
          if target = (memory.devices.read device).serviceDescription then
            (memory.descriptions.read target).consolidate
              (memory.descriptions.read description)
          else memory.descriptions.read target) := by
  rw [Memory.registerService, identified] at registered
  cases found : memory.serviceOfType device (some serviceId) with
  | none =>
      simp only [found] at registered
      have missing := wellFormed.serviceOfType_none allocated found
      refine Or.inr ⟨?_, descriptions_createService ?_ registered other⟩
      · intro refreshes
        rcases refreshes with ⟨_, _, same, _, stands⟩
        cases identified.symm.trans same
        rw [attachedUUID, missing] at stands
        cases stands
      · intro name same
        cases identified.symm.trans same
        exact missing
  | some existing =>
      have held := wellFormed.serviceOfType_some allocated found
      simp only [found] at registered
      split_ifs at registered with known
      · refine Or.inl ⟨(refreshes_iff identified held).mpr known, ?_⟩
        cases registered
        exact descriptions_describeService _ device serviceId capabilities other
      · refine Or.inr ⟨fun refreshes => known ((refreshes_iff identified held).mp refreshes),
          ?_⟩
        have written := descriptions_createService (fun name same => by
          cases identified.symm.trans same
          exact memory.removeServiceWithId_lookup device serviceId) registered other
        have kept : ((memory.removeServiceWithId device serviceId).devices.read
            device).serviceDescription = (memory.devices.read device).serviceDescription := by
          rw [Memory.removeServiceWithId, Memory.modifyDevice, Heap.read_modify_self]
        rw [kept] at written
        exact written

end Memory

namespace DiscoveryManager

/-! ## The device that is found -/

/-- The device that a description belongs to, if it exists: the one listed at the address,
or the one that the store has in use. -/
def existingDevice (manager : DiscoveryManager) (description : ServiceDescription) :
    Option (Ref ConnectableDevice) :=
  (description.address.bind manager.allDevices.lookup).or
    (manager.knownDevice description.uuid)

theorem Sound.existingDevice_allocated {manager : DiscoveryManager} (sound : manager.Sound)
    {description : ServiceDescription} {device : Ref ConnectableDevice}
    (existing : manager.existingDevice description = some device) :
    manager.memory.devices.Allocated device := by
  rcases Option.or_eq_some_iff.mp existing with listed | ⟨_, known⟩
  · rcases Option.bind_eq_some_iff.mp listed with ⟨address, _, held⟩
    exact sound.listed address device held
  · exact sound.active device (knownDevice_active known)

/-- A device that exists is found exactly when it is the one of the description. -/
theorem Sound.findDevice_existing_iff {manager : DiscoveryManager} (sound : manager.Sound)
    {address : String} {description : ServiceDescription}
    (located : description.address = some address) (guid : String)
    {found : FoundDevice} (finding : findDevice
      { manager with memory := manager.memory.allocateDescription description }
      address manager.memory.descriptions.fresh description.uuid guid = found)
    {device : Ref ConnectableDevice}
    (allocated : manager.memory.devices.Allocated device) :
    found.device = device ↔ manager.existingDevice description = some device := by
  have finds := sound.finds address description guid
  rw [finding] at finds
  rw [existingDevice, located, Option.bind_some]
  rcases finds.listed with ⟨listed, _⟩ | ⟨unlisted, _, _, known⟩
  · rw [listed, Option.some_or, Option.some.injEq]
  · rw [unlisted, Option.none_or]
    constructor
    · intro same
      rw [← same] at allocated ⊢
      exact known allocated
    · intro stored
      rw [← finding]
      exact sound.findDevice_known unlisted stored guid

/-- The consolidated description of a new device is new, too. -/
theorem Sound.findDevice_consolidated {manager : DiscoveryManager} (sound : manager.Sound)
    (address : String) (description : ServiceDescription) (guid : String)
    {found : FoundDevice} (finding : findDevice
      { manager with memory := manager.memory.allocateDescription description }
      address manager.memory.descriptions.fresh description.uuid guid = found)
    (new : ¬ manager.memory.devices.Allocated found.device) :
    ¬ manager.memory.descriptions.Allocated
      (found.manager.memory.devices.read found.device).serviceDescription := by
  subst finding
  revert new
  cases held : manager.allDevices.lookup address with
  | some device =>
      simp only [findDevice, held]
      exact fun new => absurd (sound.listed address device held) new
  | none =>
      have own : ¬ manager.memory.descriptions.Allocated
          ((manager.memory.allocateDescription description).initWithDescription
            manager.memory.descriptions.fresh guid |>.devices.read
              manager.memory.devices.fresh).serviceDescription := by
        rw [Memory.initWithDescription]
        simp only [Memory.allocateDescription, Heap.read_allocate_fresh]
        exact fun allocated => allocated.ne_fresh rfl
      simp only [findDevice, held]
      rcases storedDevice_cases
          { manager with memory := manager.memory.allocateDescription description }
          description.uuid guid with nothing | ⟨deviceStore, _, used, answered⟩
      · rw [nothing]
        exact fun _ => own
      · rw [answered]
        have answer := deviceStore.deviceForId_forId
          (manager.memory.allocateDescription description) description.uuid guid
        generalize deviceStore.deviceForId
          (manager.memory.allocateDescription description) description.uuid guid =
            result at answer
        generalize description.uuid = uuid at answer
        cases answer with
        | nothing => exact fun _ => own
        | @inUse uuid device _ active =>
            intro new
            rw [sound.activeDeviceForUUID_allocateDescription used] at active
            rcases DefaultConnectableDeviceStore.activeDeviceForUUID_active active with
              ⟨id, kept⟩
            exact absurd (sound.active device ⟨deviceStore, id, used, kept⟩) new
        | restored _ _ _ =>
            intro _ allocated
            simp only [Memory.initWithJSONObject, Memory.allocateDescription,
              Heap.read_allocate_fresh] at allocated
            exact (allocated.allocate description).ne_fresh rfl

/-! ## What a description is written into -/

/-- The description is registered as a new service of a device whose consolidated
description is the target. -/
def WritesInto (manager : DiscoveryManager) (description : ServiceDescription)
    (target : Ref ServiceDescription) : Prop :=
  manager.acceptsDescription description = true ∧
    ∃ device, manager.existingDevice description = some device ∧
      (manager.memory.devices.read device).serviceDescription = target ∧
      ¬ manager.memory.Refreshes device description

theorem writesInto_existing_iff {manager : DiscoveryManager}
    {description : ServiceDescription}
    (accepted : manager.acceptsDescription description = true)
    {device : Ref ConnectableDevice}
    (existing : manager.existingDevice description = some device)
    (target : Ref ServiceDescription) :
    manager.WritesInto description target ↔
      ¬ manager.memory.Refreshes device description ∧
        target = (manager.memory.devices.read device).serviceDescription := by
  constructor
  · intro writes
    rcases writes with ⟨_, other, same, consolidated, fresh⟩
    cases existing.symm.trans same
    exact ⟨fresh, consolidated.symm⟩
  · intro writes
    rcases writes with ⟨fresh, consolidated⟩
    exact ⟨accepted, device, existing, consolidated.symm, fresh⟩

/-- The device that is found is the one it was, with the time of its detection. -/
theorem Sound.detected_existing {manager : DiscoveryManager} (sound : manager.Sound)
    (address : String) (description : ServiceDescription) (guid : String)
    {found : FoundDevice} (finding : findDevice
      { manager with memory := manager.memory.allocateDescription description }
      address manager.memory.descriptions.fresh description.uuid guid = found)
    (known : manager.memory.devices.Allocated found.device) (now : TimeInterval) :
    let detected := found.manager.memory.modifyDevice found.device (manager.detect address now)
    (detected.devices.read found.device).serviceDescription =
        (manager.memory.devices.read found.device).serviceDescription ∧
      (detected.Refreshes found.device description ↔
        manager.memory.Refreshes found.device description) := by
  have finds := sound.finds address description guid
  have attached := sound.attachedUUID_findDevice address description guid finding
  rw [finding] at finds
  constructor
  · rw [Memory.modifyDevice, Heap.read_modify_self, (finds.unchanged known).1]
    rfl
  · refine Memory.refreshes_congr (fun serviceId => ?_) description
    have unmoved : (found.manager.memory.modifyDevice found.device
        (manager.detect address now)).attachedUUID found.device serviceId =
          found.manager.memory.attachedUUID found.device serviceId := by
      apply Memory.attachedUUID_modifyDevice
      intro object
      rfl
    rw [unmoved, attached, if_pos known]

theorem Sound.descriptions_registerFound {manager : DiscoveryManager}
    (sound : manager.Sound) {address : String} {description : ServiceDescription}
    (located : description.address = some address) {capabilities : List String}
    {now : TimeInterval} {guid : String} {found : FoundDevice}
    (registered : manager.registerFound address description capabilities now guid =
      some found) {target : Ref ServiceDescription}
    (allocated : manager.memory.descriptions.Allocated target) :
    manager.WritesInto description target ∧
        found.manager.memory.descriptions.read target =
          (manager.memory.descriptions.read target).consolidate description ∨
      ¬ manager.WritesInto description target ∧
        found.manager.memory.descriptions.read target =
          manager.memory.descriptions.read target := by
  have finds := sound.finds address description guid
  rcases registerFound_added registered with ⟨before, memory, finding, added, rfl⟩
  have kept := findDevice_reads
    { manager with memory := manager.memory.allocateDescription description }
    address manager.memory.descriptions.fresh description.uuid guid
    (allocated.allocate description)
  rw [finding] at finds kept
  have unchanged : before.manager.memory.descriptions.read target =
      manager.memory.descriptions.read target :=
    kept.trans (allocated.read_allocate description)
  rcases finds.added located added with
    ⟨rejected, rfl⟩ | ⟨accepted, serviceClass, config, serviceId, identified, result, _⟩
  · refine Or.inr ⟨fun writes => ?_, unchanged⟩
    cases rejected.symm.trans writes.1
  · have detected := finds.detected now
    have reads := finds.reads_detected now
    have written := detected.wellFormed.descriptions_registerService
      (detected.allocated_iff.mpr finds.allocated) (by rw [reads, identified]) result
      allocated.ne_fresh
    rw [reads] at written
    by_cases known : manager.memory.devices.Allocated before.device
    · have existing :=
        (sound.findDevice_existing_iff located guid finding known).mp rfl
      have seen := sound.detected_existing address description guid finding known now
      rw [writesInto_existing_iff accepted existing]
      rw [seen.1, seen.2, Memory.modifyDevice, unchanged] at written
      rcases written with ⟨refreshing, result⟩ | ⟨fresh, result⟩
      · exact Or.inr ⟨fun writes => writes.1 refreshing, result⟩
      · by_cases shared :
            target = (manager.memory.devices.read before.device).serviceDescription
        · rw [if_pos shared] at result
          exact Or.inl ⟨⟨fresh, shared⟩, result⟩
        · rw [if_neg shared] at result
          exact Or.inr ⟨fun writes => shared writes.2, result⟩
    · have apart : ¬ target = ((before.manager.memory.modifyDevice before.device
          (manager.detect address now)).devices.read before.device).serviceDescription := by
        rw [Memory.modifyDevice, Heap.read_modify_self]
        intro shared
        refine sound.findDevice_consolidated address description guid finding known ?_
        rw [shared] at allocated
        exact allocated
      refine Or.inr ⟨?_, ?_⟩
      · intro writes
        rcases writes with ⟨_, device, existing, _, _⟩
        have old := sound.existingDevice_allocated existing
        rw [(sound.findDevice_existing_iff located guid finding old).mpr existing] at known
        exact known old
      · rw [if_neg apart, Memory.modifyDevice, unchanged] at written
        rcases written with ⟨_, result⟩ | ⟨_, result⟩
        · exact result
        · exact result

/-- Registering a description replaces no service of another id. -/
theorem Sound.services_registerFound {manager : DiscoveryManager}
    (sound : manager.Sound) {address : String} {description : ServiceDescription}
    (located : description.address = some address) {capabilities : List String}
    {now : TimeInterval} {guid : String} {found : FoundDevice}
    (registered : manager.registerFound address description capabilities now guid =
      some found) {device : Ref ConnectableDevice}
    (allocated : manager.memory.devices.Allocated device) {name : String}
    (other : description.serviceId ≠ some name) :
    (found.manager.memory.devices.read device).services.lookup name =
      (manager.memory.devices.read device).services.lookup name := by
  have touches := (sound.registers located registered).changed.touches
  by_cases own : device = found.device
  · have finds := sound.finds address description guid
    rcases registerFound_added registered with ⟨before, memory, finding, added, rfl⟩
    rw [finding] at finds
    subst own
    have unmoved : ((before.manager.memory.modifyDevice before.device
        (manager.detect address now)).devices.read before.device).services =
          (manager.memory.devices.read before.device).services := by
      rw [Memory.modifyDevice, Heap.read_modify_self, (finds.unchanged allocated).1]
      rfl
    rcases finds.added located added with
      ⟨_, rfl⟩ | ⟨_, serviceClass, config, serviceId, identified, _, service⟩
    · exact congrArg (AList.lookup name) unmoved
    · rcases service.service with ⟨_, _, lookup⟩
      have apart : name ≠ serviceId := by
        intro same
        rw [same] at other
        exact other identified
      exact (lookup name).trans ((if_neg apart).trans
        (congrArg (AList.lookup name) unmoved))
  · rw [touches.read_other device allocated own]

/-- Reporting a device writes no memory. -/
theorem didFindService_registered {manager next : DiscoveryManager}
    {description : ServiceDescription} {capabilities : List String} {now : TimeInterval}
    {guid : String}
    (found : manager.didFindService description capabilities now guid = some next) :
    ∃ address foundDevice, description.address = some address ∧
      manager.registerFound address description capabilities now guid =
        some foundDevice ∧
      next.memory = foundDevice.manager.memory := by
  cases located : description.address with
  | none =>
      rw [didFindService, located] at found
      cases found
  | some address =>
      rw [didFindService, located] at found
      rcases Option.bind_eq_some_iff.mp found with ⟨foundDevice, registered, reported⟩
      refine ⟨address, foundDevice, rfl, registered, ?_⟩
      let reporting : Reporting :=
        { manager := foundDevice.manager
          device := foundDevice.device
          report :=
            if foundDevice.manager.memory.hasServices foundDevice.device then
              if foundDevice.deviceIsNew then .add address else .update now
            else .withdraw address }
      have reports : manager.reporting (.didFindService description capabilities now guid) =
          some reporting := by
        rw [DiscoveryManager.reporting, located, Option.bind_some, registered,
          Option.map_some]
      have performed : reporting.perform = some next := by
        rw [← step_eq_perform reports, step, didFindService, located]
        exact found
      rcases Reporting.perform_outcome performed with ⟨_, _, _, _, _, effect⟩
      exact effect.memory

/-! ## Services of another id -/

/-- The description changes what is shown of the target. -/
def WritesThrough (manager : DiscoveryManager) (description : ServiceDescription)
    (target : Ref ServiceDescription) : Prop :=
  manager.WritesInto description target ∧
    ¬ description.AddsNothing (manager.memory.descriptions.read target)

/-- A service of a device stays, and its description shows what it did. -/
def KeepsService (manager next : DiscoveryManager) (device : Ref ConnectableDevice)
    (name : String) (service : DeviceService) : Prop :=
  (next.memory.devices.read device).services.lookup name = some service ∧
    (next.memory.descriptions.read service.serviceDescription).shownFields =
      (manager.memory.descriptions.read service.serviceDescription).shownFields

theorem Sound.didFindService_keeps_iff {manager next : DiscoveryManager}
    (sound : manager.Sound) {description : ServiceDescription} {capabilities : List String}
    {now : TimeInterval} {guid : String}
    (found : manager.didFindService description capabilities now guid = some next)
    {device : Ref ConnectableDevice} (allocated : manager.memory.devices.Allocated device)
    {name : String} {service : DeviceService}
    (held : (manager.memory.devices.read device).services.lookup name = some service)
    (other : description.serviceId ≠ some name) :
    manager.KeepsService next device name service ↔
      ¬ manager.WritesThrough description service.serviceDescription := by
  rcases didFindService_registered found with ⟨address, foundDevice, located, registered, same⟩
  have described := (sound.wellFormed.keyed device allocated name service held).1
  have stays := (sound.services_registerFound located registered allocated other).trans held
  rw [KeepsService, same, WritesThrough]
  rcases sound.descriptions_registerFound located registered described with
    ⟨writes, result⟩ | ⟨apart, result⟩
  · rw [result, ServiceDescription.shownFields_consolidate_iff]
    constructor
    · intro keeps through
      rcases keeps with ⟨_, adds⟩
      exact through.2 adds
    · intro through
      exact ⟨stays, not_not.mp fun changes => through ⟨writes, changes⟩⟩
  · rw [result]
    exact iff_of_true ⟨stays, rfl⟩ fun through => apart through.1

/-- Of the descriptions that were there, only the consolidated one of the found device is
ever rewritten. -/
theorem Sound.didFindService_rewrites {manager next : DiscoveryManager}
    (sound : manager.Sound) {description : ServiceDescription} {capabilities : List String}
    {now : TimeInterval} {guid : String}
    (found : manager.didFindService description capabilities now guid = some next)
    {target : Ref ServiceDescription}
    (allocated : manager.memory.descriptions.Allocated target)
    (rewritten : next.memory.descriptions.read target ≠
      manager.memory.descriptions.read target) :
    ∃ device, manager.existingDevice description = some device ∧
      (manager.memory.devices.read device).serviceDescription = target := by
  rcases didFindService_registered found with ⟨address, foundDevice, located, registered, same⟩
  rw [same] at rewritten
  rcases sound.descriptions_registerFound located registered allocated with
    ⟨⟨_, device, existing, consolidated, _⟩, _⟩ | ⟨_, result⟩
  · exact ⟨device, existing, consolidated⟩
  · exact absurd result rewritten

/-- In every state that a run reaches, finding a service leaves those of other ids as they
were unless it writes through the consolidated description, and rewrites no other
description. -/
theorem run_keepsService_iff {initial manager next : DiscoveryManager}
    {events : List DiscoveryEvent} (starts : initial.Initial)
    (legal : EveryStep DiscoveryManager.step Legal initial events)
    (reached : runFrom DiscoveryManager.step initial events = some manager)
    {description : ServiceDescription} {capabilities : List String} {now : TimeInterval}
    {guid : String}
    (found : manager.didFindService description capabilities now guid = some next) :
    (∀ device, manager.memory.devices.Allocated device → ∀ name service,
      (manager.memory.devices.read device).services.lookup name = some service →
      description.serviceId ≠ some name →
      (manager.KeepsService next device name service ↔
        ¬ manager.WritesThrough description service.serviceDescription)) ∧
    ∀ target, manager.memory.descriptions.Allocated target →
      next.memory.descriptions.read target ≠ manager.memory.descriptions.read target →
      ∃ device, manager.existingDevice description = some device ∧
        (manager.memory.devices.read device).serviceDescription = target := by
  have sound : manager.Sound :=
    runFrom_invariant (fun _ _ _ sound legal stepped => sound.step legal stepped)
      starts.sound legal reached
  constructor
  · intro device allocated name service held other
    exact sound.didFindService_keeps_iff found allocated held other
  · intro target allocated rewritten
    exact sound.didFindService_rewrites found allocated rewritten

def dialAndRokuClasses : Dictionary String DeviceServiceClass :=
  AList.insert "DIAL" .dialService rokuClasses

/-- What `updateCapabilities` of a `DIALService` sets. -/
def dialCapabilities : List String :=
  ["Launcher.App", "Launcher.App.Params", "Launcher.App.Close", "Launcher.AppState"]

/-- A manager that has found a DIAL service with a friendly name. -/
def dialFound : List DiscoveryEvent :=
  [.didFindService
    { address := some "10.0.0.7", serviceId := some "DIAL", uuid := some "dial"
      friendlyName := some "Living room" } dialCapabilities 1 "tv"]

theorem dialFound_legal :
    EveryStep DiscoveryManager.step Legal (start dialAndRokuClasses .missing 0)
      dialFound := by
  refine ⟨trivial, ?_⟩
  split <;> trivial

/-- A Roku that tells no name leaves the DIAL service its own. -/
theorem run_keepsService_dial : ∃ manager next service,
    runFrom DiscoveryManager.step (start dialAndRokuClasses .missing 0) dialFound =
        some manager ∧
      manager.didFindService (rokuAt "10.0.0.7") rokuCapabilities 2 "roku" = some next ∧
      manager.KeepsService next ⟨0⟩ "DIAL" service := by
  refine ⟨_, _, _, rfl, rfl,
    ((@run_keepsService_iff (start dialAndRokuClasses .missing 0) _ _ dialFound
      (start_initial dialAndRokuClasses .missing 0) dialFound_legal rfl
      (rokuAt "10.0.0.7") rokuCapabilities 2 "roku" rfl).1 ⟨0⟩ (by decide) "DIAL" _ rfl
        (by decide)).mpr ?_⟩
  intro through
  rcases through with ⟨_, changes⟩
  exact changes ⟨Or.inl rfl, Or.inl rfl, Or.inl rfl, Or.inr rfl⟩

/-- The name of a Roku becomes the name in the description of the DIAL service. -/
theorem found_service_renames_other :
    ¬ ∀ (initial manager next : DiscoveryManager) (events : List DiscoveryEvent)
      (description : ServiceDescription) (capabilities : List String) (now : TimeInterval)
      (guid : String), initial.Initial →
      EveryStep DiscoveryManager.step Legal initial events →
      runFrom DiscoveryManager.step initial events = some manager →
      manager.didFindService description capabilities now guid = some next →
      ∀ device, manager.memory.devices.Allocated device → ∀ name service,
        (manager.memory.devices.read device).services.lookup name = some service →
        description.serviceId ≠ some name →
        manager.KeepsService next device name service := by
  intro always
  have keeps := always (start dialAndRokuClasses .missing 0) _ _ dialFound
    { rokuAt "10.0.0.7" with friendlyName := some "Roku 3" } rokuCapabilities 2 "roku"
    (start_initial dialAndRokuClasses .missing 0) dialFound_legal rfl rfl ⟨0⟩ (by decide)
    "DIAL" _ rfl (by decide)
  have renamed := congrArg ShownFields.friendlyName keeps.2
  exact absurd renamed (by decide)

end DiscoveryManager

end ConnectSDK
