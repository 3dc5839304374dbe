import ConnectSDK.Devices.ObjectGraph

/-! # The services of a device by id

Which UUID stands under a service id, and what registering and removing a service change
about it. No operation rewrites the UUID of a description.
-/

namespace ConnectSDK

namespace DeviceServiceClass

@[simp] theorem completeDescription_uuid (serviceClass : DeviceServiceClass)
    (description : ServiceDescription) :
    (serviceClass.completeDescription description).uuid = description.uuid := by
  rcases description with ⟨_, _, _, _, _, _, _, _, _, _, _, _, _, _, _ | headers, _, _⟩ <;>
    cases serviceClass <;> rfl

end DeviceServiceClass

namespace Memory

/-- The UUID of the service that a device has under an id. -/
def attachedUUID (memory : Memory) (device : Ref ConnectableDevice) (serviceId : String) :
    Option (Option String) :=
  ((memory.devices.read device).services.lookup serviceId).map memory.serviceUUID

theorem hasServices_iff (memory : Memory) (device : Ref ConnectableDevice) :
    memory.hasServices device = true ↔
      ∃ serviceId, memory.attachedUUID device serviceId ≠ none := by
  constructor
  · intro has
    cases listed : memory.services device with
    | nil =>
        rw [hasServices, listed] at has
        cases has
    | cons service rest =>
        have member : service ∈ memory.services device := by
          rw [listed]
          exact List.mem_cons_self
        rcases Dictionary.mem_values_iff.mp member with ⟨serviceId, held⟩
        refine ⟨serviceId, fun absent => ?_⟩
        rw [attachedUUID, held] at absent
        cases absent
  · intro attached
    rcases attached with ⟨serviceId, present⟩
    cases held : (memory.devices.read device).services.lookup serviceId with
    | none =>
        rw [attachedUUID, held] at present
        exact absurd rfl present
    | some service =>
        exact hasServices_of_mem (Dictionary.mem_values_iff.mpr ⟨serviceId, held⟩)

theorem hasServices_eq_false_iff (memory : Memory) (device : Ref ConnectableDevice) :
    memory.hasServices device = false ↔
      ∀ serviceId, memory.attachedUUID device serviceId = none := by
  rw [← Bool.not_eq_true, hasServices_iff, not_exists]
  exact forall_congr' fun serviceId => not_not

/-! ## Single operations -/

theorem serviceUUID_modify (memory : Memory) (reference : Ref ServiceDescription)
    {change : ServiceDescription → ServiceDescription}
    (kept : ∀ description, (change description).uuid = description.uuid)
    (service : DeviceService) :
    serviceUUID { memory with descriptions := memory.descriptions.modify reference change }
        service = memory.serviceUUID service := by
  rw [serviceUUID, serviceUUID]
  by_cases own : service.serviceDescription = reference
  · rw [own, Heap.read_modify_self, kept]
  · rw [Heap.read_modify_of_ne own]

theorem attachedUUID_modify (memory : Memory) (reference : Ref ServiceDescription)
    {change : ServiceDescription → ServiceDescription}
    (kept : ∀ description, (change description).uuid = description.uuid)
    (device : Ref ConnectableDevice) (serviceId : String) :
    attachedUUID { memory with descriptions := memory.descriptions.modify reference change }
        device serviceId = memory.attachedUUID device serviceId := by
  rw [attachedUUID, attachedUUID]
  exact congrArg (Option.map · _) (funext (memory.serviceUUID_modify reference kept))

theorem attachedUUID_modifyDevice (memory : Memory) {device : Ref ConnectableDevice}
    {change : ConnectableDevice → ConnectableDevice}
    (kept : ∀ object, (change object).services = object.services) (serviceId : String) :
    (memory.modifyDevice device change).attachedUUID device serviceId =
      memory.attachedUUID device serviceId := by
  rw [attachedUUID, attachedUUID, modifyDevice, Heap.read_modify_self, kept]
  rfl

theorem attachedUUID_removeServiceWithId (memory : Memory)
    (device : Ref ConnectableDevice) (removed serviceId : String) :
    (memory.removeServiceWithId device removed).attachedUUID device serviceId =
      if serviceId = removed then none else memory.attachedUUID device serviceId := by
  rw [attachedUUID, removeServiceWithId_services, Dictionary.lookup_erase_eq]
  by_cases own : serviceId = removed
  · rw [if_pos own, if_pos own]
    rfl
  · rw [if_neg own, if_neg own]
    rfl

/-- Putting a service under an id. -/
theorem attachedUUID_insert (memory : Memory) (device : Ref ConnectableDevice)
    (name : String) (service : DeviceService) (serviceId : String) :
    (memory.modifyDevice device fun object =>
        { object with services := object.services.insert name service }).attachedUUID device
      serviceId =
      if serviceId = name then some (memory.serviceUUID service)
      else memory.attachedUUID device serviceId := by
  rw [attachedUUID, modifyDevice, Heap.read_modify_self, Dictionary.lookup_insert_eq]
  by_cases own : serviceId = name
  · rw [if_pos own, if_pos own]
    rfl
  · rw [if_neg own, if_neg own]
    rfl

theorem attachedUUID_attachService (memory : Memory) (device : Ref ConnectableDevice)
    (name : String) (service : DeviceService) (serviceId : String) :
    (memory.attachService device name service).attachedUUID device serviceId =
      if serviceId = name then some (memory.serviceUUID service)
      else memory.attachedUUID device serviceId := by
  rw [attachService, updateConsolidatedServiceDescription, attachedUUID_modify]
  · exact memory.attachedUUID_insert device name service serviceId
  · intro description
    rfl

/-! ## Registering a service -/

/-- A service that is created under a free id stands there with the UUID it was found
with. -/
theorem attachedUUID_createService {memory after : Memory}
    {device : Ref ConnectableDevice} {serviceClass : Option DeviceServiceClass}
    {config : ServiceConfig} {description : Ref ServiceDescription}
    {capabilities : List String} {name : String}
    (identified : (memory.descriptions.read description).serviceId = some name)
    (absent : (memory.devices.read device).services.lookup name = none)
    (created : memory.createService device serviceClass config description
      capabilities = some after) (serviceId : String) :
    after.attachedUUID device serviceId =
      if serviceId = name then some (memory.descriptions.read description).uuid
      else memory.attachedUUID device serviceId := by
  cases serviceClass with
  | none => cases created
  | some serviceClass =>
      simp only [createService, addService, serviceName, Heap.read_modify_self,
        DeviceServiceClass.completeDescription_serviceId, identified, absent,
        Option.some.injEq] at created
      rw [← created, attachedUUID_attachService,
        attachedUUID_modify memory description serviceClass.completeDescription_uuid,
        memory.serviceUUID_modify description serviceClass.completeDescription_uuid]
      rfl

/-- A service that is described anew has the UUID of its new description. -/
theorem attachedUUID_describeService {memory : Memory} {device : Ref ConnectableDevice}
    {name : String} {existing : DeviceService}
    (held : (memory.devices.read device).services.lookup name = some existing)
    (description : Ref ServiceDescription) (capabilities : List String)
    (serviceId : String) :
    (memory.describeService device name description capabilities).attachedUUID device
        serviceId =
      if serviceId = name then some (memory.descriptions.read description).uuid
      else memory.attachedUUID device serviceId := by
  have kept := existing.serviceClass.completeDescription_uuid
  simp only [describeService, held]
  rw [attachedUUID_insert, attachedUUID_modify memory description kept,
    memory.serviceUUID_modify description kept]
  rfl

/-- Whichever way a description is registered, its UUID then stands under its id, and
nothing changes under the other ids. -/
theorem WellFormed.attachedUUID_registerService {memory after : Memory}
    (wellFormed : memory.WellFormed) {device : Ref ConnectableDevice}
    (allocated : memory.devices.Allocated device)
    {serviceClass : Option DeviceServiceClass} {config : ServiceConfig}
    {description : Ref ServiceDescription} {capabilities : List String} {name : String}
    (identified : (memory.descriptions.read description).serviceId = some name)
    (registered : memory.registerService device serviceClass config description
      capabilities = some after) (serviceId : String) :
    after.attachedUUID device serviceId =
      if serviceId = name then some (memory.descriptions.read description).uuid
      else memory.attachedUUID device serviceId := by
  rcases wellFormed.registerService_cases allocated identified registered with
    ⟨absent, created⟩ | ⟨existing, held, result⟩ | created
  · exact attachedUUID_createService identified absent created serviceId
  · have same : ((memory.modifyDevice device fun object =>
        { object with serviceDescription := description }).devices.read
          device).services.lookup name = some existing := by
      rw [Memory.modifyDevice, Heap.read_modify_self, held]
    have kept : (memory.modifyDevice device fun object =>
        { object with serviceDescription := description }).attachedUUID device
          serviceId = memory.attachedUUID device serviceId := by
      apply attachedUUID_modifyDevice
      intro object
      rfl
    rw [result, attachedUUID_describeService same, kept]
    rfl
  · have still : ((memory.removeServiceWithId device name).descriptions.read
        description).serviceId = some name := identified
    rw [attachedUUID_createService still (memory.removeServiceWithId_lookup device name)
      created, attachedUUID_removeServiceWithId]
    by_cases own : serviceId = name
    · rw [if_pos own, if_pos own]
      rfl
    · rw [if_neg own, if_neg own, if_neg own]

end Memory

end ConnectSDK
