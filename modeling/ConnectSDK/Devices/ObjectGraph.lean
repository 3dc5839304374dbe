import ConnectSDK.Devices.ConnectableDevice

/-! # The graph of devices and descriptions

No two devices share a consolidated description, and `_services` is keyed by
the id in each service's description. Every operation on devices keeps both,
and touches nothing of another device.
-/

namespace ConnectSDK

namespace DeviceServiceClass

@[simp] theorem completeDescription_serviceId (serviceClass : DeviceServiceClass)
    (description : ServiceDescription) :
    (serviceClass.completeDescription description).serviceId =
      description.serviceId := by
  rcases description with ⟨_, _, _, _, _, _, _, _, _, _, _, _, _, _, _ | headers, _, _⟩ <;>
    cases serviceClass <;> rfl

end DeviceServiceClass

namespace Memory

structure WellFormed (memory : Memory) : Prop where
  described : ∀ device, memory.devices.Allocated device →
    memory.descriptions.Allocated (memory.devices.read device).serviceDescription
  separate : ∀ device other, memory.devices.Allocated device →
    memory.devices.Allocated other →
    (memory.devices.read device).serviceDescription =
      (memory.devices.read other).serviceDescription → device = other
  keyed : ∀ device, memory.devices.Allocated device → ∀ name service,
    (memory.devices.read device).services.lookup name = some service →
    memory.descriptions.Allocated service.serviceDescription ∧
      memory.serviceName service = some name

/-- No device but `device` has the description as its consolidated one. -/
def OwnedBy (memory : Memory) (description : Ref ServiceDescription)
    (device : Ref ConnectableDevice) : Prop :=
  ∀ other, memory.devices.Allocated other → other ≠ device →
    (memory.devices.read other).serviceDescription ≠ description

/-- `after` differs from `before` only in what belongs to `device`. -/
structure OnlyChanges (device : Ref ConnectableDevice)
    (before after : Memory) : Prop where
  wellFormed : after.WellFormed
  devices_size : after.devices.size = before.devices.size
  read_other : ∀ other, other ≠ device →
    after.devices.read other = before.devices.read other
  address_other : ∀ other, before.devices.Allocated other → other ≠ device →
    after.address other = before.address other

theorem OnlyChanges.refl {memory : Memory} (wellFormed : memory.WellFormed)
    (device : Ref ConnectableDevice) : OnlyChanges device memory memory :=
  ⟨wellFormed, rfl, fun _ _ => rfl, fun _ _ _ => rfl⟩

theorem OnlyChanges.trans {device : Ref ConnectableDevice}
    {before middle after : Memory} (first : OnlyChanges device before middle)
    (second : OnlyChanges device middle after) :
    OnlyChanges device before after where
  wellFormed := second.wellFormed
  devices_size := second.devices_size.trans first.devices_size
  read_other := fun other different =>
    (second.read_other other different).trans (first.read_other other different)
  address_other := fun other allocated different =>
    (second.address_other other
      (by rw [Heap.Allocated, first.devices_size]; exact allocated)
      different).trans (first.address_other other allocated different)

theorem OnlyChanges.allocated_iff {device other : Ref ConnectableDevice}
    {before after : Memory} (changes : OnlyChanges device before after) :
    after.devices.Allocated other ↔ before.devices.Allocated other := by
  simp only [Heap.Allocated, changes.devices_size]

theorem OnlyChanges.ownedBy {device : Ref ConnectableDevice}
    {before after : Memory} (changes : OnlyChanges device before after)
    {description : Ref ServiceDescription}
    (owned : before.OwnedBy description device) :
    after.OwnedBy description device := by
  intro other allocated different
  rw [changes.read_other other different]
  exact owned other (changes.allocated_iff.mp allocated) different

/-- A later memory: objects may have changed, none has gone. -/
structure Extends (before after : Memory) : Prop where
  wellFormed : after.WellFormed
  allocated : ∀ device, before.devices.Allocated device →
    after.devices.Allocated device

/-! ## Allocation -/

theorem wellFormed_empty : Memory.empty.WellFormed where
  described := fun _ allocated => absurd allocated (Nat.not_lt_zero _)
  separate := fun _ _ allocated => absurd allocated (Nat.not_lt_zero _)
  keyed := fun _ allocated => absurd allocated (Nat.not_lt_zero _)

theorem WellFormed.allocateDescription {memory : Memory}
    (wellFormed : memory.WellFormed) (description : ServiceDescription) :
    (memory.allocateDescription description).WellFormed where
  described := fun device allocated =>
    (wellFormed.described device allocated).allocate description
  separate := wellFormed.separate
  keyed := by
    intro device allocated name service held
    have kept := wellFormed.keyed device allocated name service held
    refine ⟨kept.1.allocate description, ?_⟩
    rw [serviceName, Memory.allocateDescription, kept.1.read_allocate]
    exact kept.2

/-- The description a provider hands over belongs to nobody yet. -/
theorem WellFormed.ownedBy_fresh {memory : Memory}
    (wellFormed : memory.WellFormed) (description : ServiceDescription)
    (device : Ref ConnectableDevice) :
    (memory.allocateDescription description).OwnedBy
      memory.descriptions.fresh device := fun other allocated _ =>
  (wellFormed.described other allocated).ne_fresh

theorem WellFormed.address_allocateDescription {memory : Memory}
    (wellFormed : memory.WellFormed) (description : ServiceDescription)
    {device : Ref ConnectableDevice} (allocated : memory.devices.Allocated device) :
    (memory.allocateDescription description).address device =
      memory.address device := by
  rw [address, consolidated, Memory.allocateDescription,
    (wellFormed.described device allocated).read_allocate]
  rfl

theorem WellFormed.initWithDescription {memory : Memory}
    (wellFormed : memory.WellFormed) {description : Ref ServiceDescription}
    (allocated : memory.descriptions.Allocated description)
    (owned : memory.OwnedBy description memory.devices.fresh) (guid : String) :
    (memory.initWithDescription description guid).WellFormed where
  described := by
    intro device known
    rcases (Heap.allocated_allocate_iff ..).mp known with old | rfl
    · rw [Memory.initWithDescription, old.read_allocate]
      exact wellFormed.described device old
    · rw [Memory.initWithDescription, Heap.read_allocate_fresh]
      exact allocated
  separate := by
    intro device other deviceKnown otherKnown same
    rcases (Heap.allocated_allocate_iff ..).mp deviceKnown with old | rfl <;>
      rcases (Heap.allocated_allocate_iff ..).mp otherKnown with otherOld | rfl
    · rw [Memory.initWithDescription, old.read_allocate,
        otherOld.read_allocate] at same
      exact wellFormed.separate device other old otherOld same
    · rw [Memory.initWithDescription, old.read_allocate,
        Heap.read_allocate_fresh] at same
      exact absurd same (owned device old old.ne_fresh)
    · rw [Memory.initWithDescription, otherOld.read_allocate,
        Heap.read_allocate_fresh] at same
      exact absurd same.symm (owned other otherOld otherOld.ne_fresh)
    · rfl
  keyed := by
    intro device known name service held
    rcases (Heap.allocated_allocate_iff ..).mp known with old | rfl
    · rw [Memory.initWithDescription, old.read_allocate] at held
      exact wellFormed.keyed device old name service held
    · rw [Memory.initWithDescription, Heap.read_allocate_fresh] at held
      simp at held

theorem initWithDescription_address_other {memory : Memory}
    (description : Ref ServiceDescription) (guid : String)
    {other : Ref ConnectableDevice} (allocated : memory.devices.Allocated other) :
    (memory.initWithDescription description guid).address other =
      memory.address other := by
  simp only [address, consolidated, Memory.initWithDescription,
    allocated.read_allocate]

/-- A device restored from a record is one made for a new description that
holds the last known address. -/
theorem initWithJSONObject_eq (memory : Memory) (record : JSON) (guid : String) :
    ∃ change : ConnectableDevice → ConnectableDevice,
      (∀ object, (change object).serviceDescription = object.serviceDescription ∧
        (change object).services = object.services) ∧
      memory.initWithJSONObject record guid =
        ((memory.allocateDescription
          { address := (record.value? "lastKnownIPAddress").bind
              JSON.string? }).initWithDescription
          memory.descriptions.fresh guid).modifyDevice memory.devices.fresh
          change := by
  refine ⟨fun object =>
    { object with
      id := ((record.value? "id").bind JSON.string?).getD guid
      lastKnownIPAddress := (record.value? "lastKnownIPAddress").bind JSON.string?
      lastSeenOnWifi := (record.value? "lastSeenOnWifi").bind JSON.string?
      lastConnected :=
        ((record.value? "lastConnected").map JSON.doubleValue).getD 0
      lastDetection :=
        ((record.value? "lastDetection").map JSON.doubleValue).getD 0 },
    fun _ => ⟨rfl, rfl⟩, ?_⟩
  simp only [Memory.initWithJSONObject, Memory.modifyDevice,
    Memory.initWithDescription, Memory.allocateDescription, Heap.modify,
    Heap.allocate, Heap.fresh, Function.update_self, Function.update_idem]

/-! ## Changes to one device -/

/-- Rewriting a device that keeps its consolidated description, or takes one
nobody else has, and keeps `_services` keyed. -/
theorem WellFormed.modifyDevice {memory : Memory} (wellFormed : memory.WellFormed)
    {device : Ref ConnectableDevice}
    {change : ConnectableDevice → ConnectableDevice}
    (described : memory.descriptions.Allocated
      (change (memory.devices.read device)).serviceDescription)
    (owned : memory.OwnedBy
      (change (memory.devices.read device)).serviceDescription device)
    (keyed : ∀ name service,
      (change (memory.devices.read device)).services.lookup name = some service →
      memory.descriptions.Allocated service.serviceDescription ∧
        memory.serviceName service = some name) :
    OnlyChanges device memory (memory.modifyDevice device change) where
  wellFormed :=
    { described := by
        intro other allocated
        by_cases same : other = device
        · subst same
          rw [Memory.modifyDevice, Heap.read_modify_self]
          exact described
        · rw [Memory.modifyDevice, Heap.read_modify_of_ne same]
          exact wellFormed.described other allocated
      separate := by
        intro first second firstKnown secondKnown same
        by_cases firstIs : first = device <;> by_cases secondIs : second = device
        · rw [firstIs, secondIs]
        · rw [firstIs, Memory.modifyDevice, Heap.read_modify_self,
            Heap.read_modify_of_ne secondIs] at same
          exact absurd same.symm (owned second secondKnown secondIs)
        · rw [secondIs, Memory.modifyDevice, Heap.read_modify_self,
            Heap.read_modify_of_ne firstIs] at same
          exact absurd same (owned first firstKnown firstIs)
        · rw [Memory.modifyDevice, Heap.read_modify_of_ne firstIs,
            Heap.read_modify_of_ne secondIs] at same
          exact wellFormed.separate first second firstKnown secondKnown same
      keyed := by
        intro other allocated name service held
        by_cases same : other = device
        · subst same
          rw [Memory.modifyDevice, Heap.read_modify_self] at held
          exact keyed name service held
        · rw [Memory.modifyDevice, Heap.read_modify_of_ne same] at held
          exact wellFormed.keyed other allocated name service held }
  devices_size := rfl
  read_other := fun _ different => Heap.read_modify_of_ne different change
  address_other := fun other _ different => by
    simp only [address, consolidated, Memory.modifyDevice,
      Heap.read_modify_of_ne different]

/-- Nobody else has a device's own consolidated description. -/
theorem WellFormed.ownedBy_self {memory : Memory} (wellFormed : memory.WellFormed)
    {device : Ref ConnectableDevice} (allocated : memory.devices.Allocated device) :
    memory.OwnedBy (memory.devices.read device).serviceDescription device :=
  fun other otherKnown different same =>
    different (wellFormed.separate other device otherKnown allocated same)

/-- A change to a device's services alone. -/
theorem WellFormed.modifyServices {memory : Memory}
    (wellFormed : memory.WellFormed) {device : Ref ConnectableDevice}
    (allocated : memory.devices.Allocated device)
    {change : ConnectableDevice → ConnectableDevice}
    (same : ∀ object,
      (change object).serviceDescription = object.serviceDescription)
    (keyed : ∀ name service,
      (change (memory.devices.read device)).services.lookup name = some service →
      memory.descriptions.Allocated service.serviceDescription ∧
        memory.serviceName service = some name) :
    OnlyChanges device memory (memory.modifyDevice device change) :=
  wellFormed.modifyDevice
    (by rw [same]; exact wellFormed.described device allocated)
    (by rw [same]; exact wellFormed.ownedBy_self allocated) keyed

/-- Assigning plain properties of a device. -/
theorem WellFormed.modifyProperties {memory : Memory}
    (wellFormed : memory.WellFormed) {device : Ref ConnectableDevice}
    (allocated : memory.devices.Allocated device)
    {change : ConnectableDevice → ConnectableDevice}
    (same : ∀ object, (change object).serviceDescription =
      object.serviceDescription ∧ (change object).services = object.services) :
    OnlyChanges device memory (memory.modifyDevice device change) :=
  wellFormed.modifyServices allocated (fun object => (same object).1)
    fun name service held => wellFormed.keyed device allocated name service
      (by rw [← (same _).2]; exact held)

theorem modifyDevice_address {memory : Memory} {device : Ref ConnectableDevice}
    {change : ConnectableDevice → ConnectableDevice}
    (same : ∀ object,
      (change object).serviceDescription = object.serviceDescription) :
    (memory.modifyDevice device change).address device = memory.address device := by
  simp only [address, consolidated, modifyDevice, Heap.read_modify_self, same]

theorem WellFormed.removeServiceWithId {memory : Memory}
    (wellFormed : memory.WellFormed) {device : Ref ConnectableDevice}
    (allocated : memory.devices.Allocated device) (serviceId : String) :
    OnlyChanges device memory (memory.removeServiceWithId device serviceId) := by
  refine wellFormed.modifyServices allocated (fun _ => rfl) ?_
  intro name service held
  rw [Dictionary.lookup_erase_eq] at held
  by_cases removed : name = serviceId
  · simp [removed] at held
  · rw [if_neg removed] at held
    exact wellFormed.keyed device allocated name service held

/-- Rewriting a description that keeps its service id and either keeps its
address or is nobody else's. -/
theorem WellFormed.modifyDescription {memory : Memory}
    (wellFormed : memory.WellFormed) (device : Ref ConnectableDevice)
    {description : Ref ServiceDescription}
    {change : ServiceDescription → ServiceDescription}
    (serviceId : ∀ object, (change object).serviceId = object.serviceId)
    (address : memory.OwnedBy description device ∨
      ∀ object, (change object).address = object.address) :
    OnlyChanges device memory
      { memory with
        descriptions := memory.descriptions.modify description change } where
  wellFormed :=
    { described := wellFormed.described
      separate := wellFormed.separate
      keyed := by
        intro other allocated name service held
        have kept := wellFormed.keyed other allocated name service held
        refine ⟨kept.1, ?_⟩
        rw [← kept.2, serviceName, serviceName]
        by_cases same : service.serviceDescription = description
        · rw [same, Heap.read_modify_self, serviceId]
        · rw [Heap.read_modify_of_ne same] }
  devices_size := rfl
  read_other := fun _ _ => rfl
  address_other := by
    intro other allocated different
    simp only [Memory.address, consolidated]
    by_cases same : (memory.devices.read other).serviceDescription = description
    · rw [same, Heap.read_modify_self]
      rcases address with owned | kept
      · exact absurd same (owned other allocated different)
      · exact kept _
    · rw [Heap.read_modify_of_ne same]

theorem WellFormed.updateConsolidatedServiceDescription {memory : Memory}
    (wellFormed : memory.WellFormed) {device : Ref ConnectableDevice}
    (allocated : memory.devices.Allocated device)
    (description : Ref ServiceDescription) :
    OnlyChanges device memory
      (memory.updateConsolidatedServiceDescription device description) :=
  wellFormed.modifyDescription device (fun _ => rfl)
    (.inl (wellFormed.ownedBy_self allocated))

theorem updateConsolidatedServiceDescription_address (memory : Memory)
    (device : Ref ConnectableDevice) (description : Ref ServiceDescription) :
    (memory.updateConsolidatedServiceDescription device description).address
        device =
      (memory.descriptions.read description).address.or
        (memory.address device) := by
  simp only [address, consolidated,
    Memory.updateConsolidatedServiceDescription, Heap.read_modify_self]

/-! ## Restored devices -/

theorem WellFormed.initWithJSONObject {memory : Memory}
    (wellFormed : memory.WellFormed) (record : JSON) (guid : String) :
    (memory.initWithJSONObject record guid).WellFormed := by
  rcases initWithJSONObject_eq memory record guid with ⟨change, same, equal⟩
  rw [equal]
  have described := wellFormed.allocateDescription
    { address := (record.value? "lastKnownIPAddress").bind JSON.string? }
  have created := described.initWithDescription
    (Heap.allocated_fresh memory.descriptions _)
    (wellFormed.ownedBy_fresh _ memory.devices.fresh) guid
  exact (created.modifyProperties (Heap.allocated_fresh memory.devices _)
    same).wellFormed

theorem services_initWithDescription_fresh (memory : Memory)
    (description : Ref ServiceDescription) (guid : String) :
    (memory.initWithDescription description guid).services memory.devices.fresh =
      [] := by
  rw [services, Memory.initWithDescription, Heap.read_allocate_fresh]
  rfl

theorem services_initWithJSONObject_fresh (memory : Memory) (record : JSON)
    (guid : String) :
    (memory.initWithJSONObject record guid).services memory.devices.fresh = [] := by
  rw [services, Memory.initWithJSONObject, Heap.read_allocate_fresh]
  rfl

theorem services_initWithJSONObject_other {memory : Memory} (record : JSON)
    (guid : String) {device : Ref ConnectableDevice}
    (allocated : memory.devices.Allocated device) :
    (memory.initWithJSONObject record guid).services device =
      memory.services device := by
  rw [services, Memory.initWithJSONObject, allocated.read_allocate]
  rfl

/-- What a service of a known device points to has been allocated. -/
theorem WellFormed.described_service {memory : Memory}
    (wellFormed : memory.WellFormed) {device : Ref ConnectableDevice}
    (allocated : memory.devices.Allocated device) {service : DeviceService}
    (member : service ∈ memory.services device) :
    memory.descriptions.Allocated service.serviceDescription := by
  rcases Dictionary.mem_values_iff.mp member with ⟨name, held⟩
  exact (wellFormed.keyed device allocated name service held).1

theorem WellFormed.serviceUUID_initWithJSONObject {memory : Memory}
    (wellFormed : memory.WellFormed) (record : JSON) (guid : String)
    {device : Ref ConnectableDevice} (allocated : memory.devices.Allocated device)
    {service : DeviceService} (member : service ∈ memory.services device) :
    (memory.initWithJSONObject record guid).serviceUUID service =
      memory.serviceUUID service := by
  rw [serviceUUID, serviceUUID, Memory.initWithJSONObject,
    (wellFormed.described_service allocated member).read_allocate]

/-! ## Registering a service -/

theorem removeServiceWithId_services (memory : Memory)
    (device : Ref ConnectableDevice) (serviceId : String) :
    ((memory.removeServiceWithId device serviceId).devices.read device).services =
      (memory.devices.read device).services.erase serviceId := by
  rw [removeServiceWithId, modifyDevice, Heap.read_modify_self]

theorem removeServiceWithId_lookup (memory : Memory)
    (device : Ref ConnectableDevice) (serviceId : String) :
    ((memory.removeServiceWithId device serviceId).devices.read device).services.lookup
      serviceId = none := by
  rw [removeServiceWithId_services, Dictionary.lookup_erase_eq, if_pos rfl]

/-- What registering a description does to a device: the address is the
description's, and one service stands under its id. -/
structure Registered (device : Ref ConnectableDevice) (address serviceId : String)
    (capabilities : List String) (before after : Memory) : Prop where
  changes : OnlyChanges device before after
  address : after.address device = some address
  service : ∃ service : DeviceService, service.capabilities = capabilities ∧
    ∀ key, (after.devices.read device).services.lookup key =
      if key = serviceId then some service
      else (before.devices.read device).services.lookup key

theorem Registered.hasServices {device : Ref ConnectableDevice}
    {address serviceId : String} {capabilities : List String}
    {before after : Memory}
    (registered : Registered device address serviceId capabilities before after) :
    after.hasServices device = true := by
  rcases registered.service with ⟨service, _, lookup⟩
  have held := lookup serviceId
  rw [if_pos rfl] at held
  exact hasServices_of_mem (Dictionary.mem_values_iff.mpr ⟨serviceId, held⟩)

/-- Registering under an id after removing what stood there. -/
theorem Registered.of_removed {device : Ref ConnectableDevice}
    {address serviceId : String} {capabilities : List String}
    {before after : Memory}
    (registered : Registered device address serviceId capabilities
      (before.removeServiceWithId device serviceId) after)
    (removed : OnlyChanges device before
      (before.removeServiceWithId device serviceId)) :
    Registered device address serviceId capabilities before after where
  changes := removed.trans registered.changes
  address := registered.address
  service := by
    rcases registered.service with ⟨service, same, lookup⟩
    refine ⟨service, same, fun key => ?_⟩
    rw [lookup key, removeServiceWithId_services, Dictionary.lookup_erase_eq]
    by_cases replaced : key = serviceId
    · rw [if_pos replaced, if_pos replaced]
    · rw [if_neg replaced, if_neg replaced, if_neg replaced]

theorem WellFormed.attachService {memory : Memory} (wellFormed : memory.WellFormed)
    {device : Ref ConnectableDevice} (allocated : memory.devices.Allocated device)
    {serviceName : String} {service : DeviceService}
    (described : memory.descriptions.Allocated service.serviceDescription)
    (named : memory.serviceName service = some serviceName) :
    OnlyChanges device memory (memory.attachService device serviceName service) := by
  have attached : OnlyChanges device memory
      (memory.modifyDevice device fun object =>
        { object with services := object.services.insert serviceName service }) := by
    refine wellFormed.modifyServices allocated (fun _ => rfl) ?_
    intro name other held
    rw [Dictionary.lookup_insert_eq] at held
    by_cases same : name = serviceName
    · rw [if_pos same, Option.some.injEq] at held
      subst held
      exact ⟨described, same ▸ named⟩
    · rw [if_neg same] at held
      exact wellFormed.keyed device allocated name other held
  exact attached.trans
    (attached.wellFormed.updateConsolidatedServiceDescription allocated _)

theorem attachService_address (memory : Memory) (device : Ref ConnectableDevice)
    (serviceName : String) (service : DeviceService) :
    (memory.attachService device serviceName service).address device =
      (memory.descriptions.read service.serviceDescription).address.or
        (memory.address device) := by
  rw [attachService, updateConsolidatedServiceDescription_address]
  simp only [Memory.address, consolidated, modifyDevice, Heap.read_modify_self]

theorem attachService_services (memory : Memory) (device : Ref ConnectableDevice)
    (serviceName : String) (service : DeviceService) :
    ((memory.attachService device serviceName service).devices.read
        device).services =
      (memory.devices.read device).services.insert serviceName service := by
  simp only [attachService, Memory.updateConsolidatedServiceDescription,
    modifyDevice, Heap.read_modify_self]

/-- A service is created where its device has none of that id yet. -/
theorem WellFormed.createService {memory after : Memory}
    (wellFormed : memory.WellFormed) {device : Ref ConnectableDevice}
    (allocated : memory.devices.Allocated device)
    {description : Ref ServiceDescription}
    (described : memory.descriptions.Allocated description) {address : String}
    (located : (memory.descriptions.read description).address = some address)
    (absent : ∀ serviceId,
      (memory.descriptions.read description).serviceId = some serviceId →
        (memory.devices.read device).services.lookup serviceId = none)
    {serviceClass : Option DeviceServiceClass} {config : ServiceConfig}
    {capabilities : List String}
    (created : memory.createService device serviceClass config description
      capabilities = some after) :
    ∃ serviceId,
      (memory.descriptions.read description).serviceId = some serviceId ∧
        Registered device address serviceId capabilities memory after := by
  cases serviceClass with
  | none => cases created
  | some serviceClass =>
      have completed : OnlyChanges device memory
          { memory with
            descriptions := memory.descriptions.modify description
              serviceClass.completeDescription } :=
        wellFormed.modifyDescription device
          serviceClass.completeDescription_serviceId
          (.inr serviceClass.completeDescription_address)
      cases identified : (memory.descriptions.read description).serviceId with
      | none =>
          simp [Memory.createService, addService, serviceName, identified]
            at created
      | some serviceId =>
          have missing := absent serviceId identified
          simp only [Memory.createService, addService, serviceName,
            Heap.read_modify_self, identified, missing,
            DeviceServiceClass.completeDescription_serviceId,
            Option.some.injEq] at created
          subst created
          refine ⟨serviceId, rfl, completed.trans
            (completed.wellFormed.attachService allocated described ?_), ?_, ?_⟩
          · simp only [serviceName, Heap.read_modify_self,
              DeviceServiceClass.completeDescription_serviceId, identified]
          · simp only [attachService_address, Heap.read_modify_self,
              DeviceServiceClass.completeDescription_address, located,
              Option.some_or]
          · let created : DeviceService :=
              { serviceClass
                serviceDescription := description
                serviceConfig := some (serviceClass.completeConfig
                  (serviceClass.completeDescription
                    (memory.descriptions.read description))
                  (serviceClass.adoptConfig config))
                capabilities }
            refine ⟨created, rfl, fun key => ?_⟩
            rw [attachService_services, Dictionary.lookup_insert_eq]

/-- The service found under the id of a description is keyed by it. -/
theorem WellFormed.serviceOfType_some {memory : Memory}
    (wellFormed : memory.WellFormed) {device : Ref ConnectableDevice}
    (allocated : memory.devices.Allocated device) {serviceId : String}
    {existing : DeviceService}
    (found : memory.serviceOfType device (some serviceId) = some existing) :
    (memory.devices.read device).services.lookup serviceId = some existing := by
  have member := List.mem_of_find?_eq_some found
  have named : memory.serviceName existing = some serviceId := by
    have accepted := List.find?_some found
    simp only [Bool.and_eq_true, beq_iff_eq] at accepted
    exact accepted.2
  rcases Dictionary.mem_values_iff.mp member with ⟨name, held⟩
  have keyed := (wellFormed.keyed device allocated name existing held).2
  cases keyed.symm.trans named
  exact held

theorem WellFormed.serviceOfType_none {memory : Memory}
    (wellFormed : memory.WellFormed) {device : Ref ConnectableDevice}
    (allocated : memory.devices.Allocated device) {serviceId : String}
    (missing : memory.serviceOfType device (some serviceId) = none) :
    (memory.devices.read device).services.lookup serviceId = none := by
  cases held : (memory.devices.read device).services.lookup serviceId with
  | none => rfl
  | some service =>
      have named := (wellFormed.keyed device allocated serviceId service held).2
      have member : service ∈ memory.services device :=
        Dictionary.mem_values_iff.mpr ⟨serviceId, held⟩
      have refused := List.find?_eq_none.mp missing service member
      simp [named] at refused

/-- The service of a description that is known already is described anew. -/
theorem WellFormed.describeService {memory : Memory}
    (wellFormed : memory.WellFormed) {device : Ref ConnectableDevice}
    (allocated : memory.devices.Allocated device)
    {description : Ref ServiceDescription}
    (described : memory.descriptions.Allocated description)
    (owned : memory.OwnedBy description device) {address serviceId : String}
    (located : (memory.descriptions.read description).address = some address)
    (identified :
      (memory.descriptions.read description).serviceId = some serviceId)
    {existing : DeviceService}
    (held : (memory.devices.read device).services.lookup serviceId = some existing)
    (capabilities : List String) :
    Registered device address serviceId capabilities memory
      ((memory.modifyDevice device fun object =>
        { object with serviceDescription := description }).describeService device
          serviceId description capabilities) := by
  have consolidated : OnlyChanges device memory
      (memory.modifyDevice device fun object =>
        { object with serviceDescription := description }) :=
    wellFormed.modifyDevice described owned
      fun name service kept => wellFormed.keyed device allocated name service kept
  have completed : OnlyChanges device _
      { (memory.modifyDevice device fun object =>
          { object with serviceDescription := description }) with
        descriptions := memory.descriptions.modify description
          existing.serviceClass.completeDescription } :=
    consolidated.wellFormed.modifyDescription device
      existing.serviceClass.completeDescription_serviceId
      (.inr existing.serviceClass.completeDescription_address)
  let updated : DeviceService :=
    { existing with
      serviceDescription := description
      serviceConfig := existing.serviceConfig.map
        (existing.serviceClass.completeConfig
          (existing.serviceClass.completeDescription
            (memory.descriptions.read description)))
      capabilities }
  have replaced : (memory.modifyDevice device fun object =>
      { object with serviceDescription := description }).describeService device
        serviceId description capabilities =
      Memory.modifyDevice
        { (memory.modifyDevice device fun object =>
            { object with serviceDescription := description }) with
          descriptions := memory.descriptions.modify description
            existing.serviceClass.completeDescription } device fun object =>
        { object with services := object.services.insert serviceId updated } := by
    simp only [Memory.describeService, Memory.modifyDevice, Heap.read_modify_self,
      held, updated]
  rw [replaced]
  refine ⟨consolidated.trans (completed.trans ?_), ?_, updated, rfl, ?_⟩
  · refine completed.wellFormed.modifyServices allocated (fun _ => rfl) ?_
    intro name service kept
    rw [Dictionary.lookup_insert_eq] at kept
    by_cases same : name = serviceId
    · rw [if_pos same, Option.some.injEq] at kept
      subst kept
      refine ⟨described, ?_⟩
      simp only [serviceName, updated, Heap.read_modify_self,
        DeviceServiceClass.completeDescription_serviceId, same, identified]
    · rw [if_neg same] at kept
      exact completed.wellFormed.keyed device allocated name service kept
  · simp only [Memory.address, Memory.consolidated, Memory.modifyDevice,
      Heap.read_modify_self, DeviceServiceClass.completeDescription_address,
      located]
  · intro key
    simp only [Memory.modifyDevice, Heap.read_modify_self, Dictionary.lookup_insert_eq]

/-- A service that is there is described anew, or removed for another one of its id. -/
theorem WellFormed.registerService_cases {memory after : Memory}
    (wellFormed : memory.WellFormed) {device : Ref ConnectableDevice}
    (allocated : memory.devices.Allocated device)
    {serviceClass : Option DeviceServiceClass} {config : ServiceConfig}
    {description : Ref ServiceDescription} {capabilities : List String}
    {serviceId : String}
    (identified : (memory.descriptions.read description).serviceId = some serviceId)
    (registered : memory.registerService device serviceClass config description
      capabilities = some after) :
    ((memory.devices.read device).services.lookup serviceId = none ∧
        memory.createService device serviceClass config description capabilities =
          some after) ∨
      (∃ existing,
        (memory.devices.read device).services.lookup serviceId = some existing ∧
          after = (memory.modifyDevice device fun object =>
            { object with serviceDescription := description }).describeService device
              serviceId description capabilities) ∨
      (memory.removeServiceWithId device serviceId).createService device serviceClass
        config description capabilities = some after := by
  rw [Memory.registerService, identified] at registered
  cases found : memory.serviceOfType device (some serviceId) with
  | none =>
      simp only [found] at registered
      exact .inl ⟨wellFormed.serviceOfType_none allocated found, registered⟩
  | some existing =>
      simp only [found] at registered
      split_ifs at registered with known
      · exact .inr (.inl ⟨existing, wellFormed.serviceOfType_some allocated found,
          (Option.some.inj registered).symm⟩)
      · exact .inr (.inr registered)

/-- Whichever way a description is registered, the device takes its address. -/
theorem WellFormed.registerService {memory after : Memory}
    (wellFormed : memory.WellFormed) {device : Ref ConnectableDevice}
    (allocated : memory.devices.Allocated device)
    {description : Ref ServiceDescription}
    (described : memory.descriptions.Allocated description)
    (owned : memory.OwnedBy description device) {address : String}
    (located : (memory.descriptions.read description).address = some address)
    {serviceClass : Option DeviceServiceClass} {config : ServiceConfig}
    {capabilities : List String}
    (registered : memory.registerService device serviceClass config description
      capabilities = some after) :
    ∃ serviceId,
      (memory.descriptions.read description).serviceId = some serviceId ∧
        Registered device address serviceId capabilities memory after := by
  cases identified : (memory.descriptions.read description).serviceId with
  | none =>
      have absent : ∀ serviceId,
          (memory.descriptions.read description).serviceId = some serviceId →
            (memory.devices.read device).services.lookup serviceId = none := by
        intro serviceId impossible
        cases identified.symm.trans impossible
      rw [Memory.registerService, identified] at registered
      have created : memory.createService device serviceClass config description
          capabilities = some after := by
        cases found : memory.serviceOfType device none <;>
          simpa [found] using registered
      rcases wellFormed.createService allocated described located absent created
        with ⟨serviceId, impossible, _⟩
      cases identified.symm.trans impossible
  | some serviceId =>
      refine ⟨serviceId, rfl, ?_⟩
      rcases wellFormed.registerService_cases allocated identified registered with
        ⟨missing, created⟩ | ⟨existing, held, result⟩ | created
      · have absent : ∀ other,
            (memory.descriptions.read description).serviceId = some other →
              (memory.devices.read device).services.lookup other = none := by
          intro other same
          cases identified.symm.trans same
          exact missing
        rcases wellFormed.createService allocated described located absent created with
          ⟨other, same, result⟩
        cases identified.symm.trans same
        exact result
      · rw [result]
        exact wellFormed.describeService allocated described owned located identified
          held capabilities
      · have removed := wellFormed.removeServiceWithId allocated serviceId
        have absent : ∀ other,
            (memory.descriptions.read description).serviceId = some other →
              ((memory.removeServiceWithId device serviceId).devices.read
                device).services.lookup other = none := by
          intro other same
          cases identified.symm.trans same
          exact memory.removeServiceWithId_lookup device serviceId
        rcases removed.wellFormed.createService allocated described located absent
          created with ⟨other, same, result⟩
        cases identified.symm.trans same
        exact result.of_removed removed

/-! ## Devices that come into being -/

/-- `after` has the devices of `before`, perhaps with `device` as a new one, and
differs from it in no other. -/
structure Touches (device : Ref ConnectableDevice) (before after : Memory) :
    Prop where
  wellFormed : after.WellFormed
  kept : ∀ other, before.devices.Allocated other →
    after.devices.Allocated other
  known : ∀ other, after.devices.Allocated other → other ≠ device →
    before.devices.Allocated other
  read_other : ∀ other, before.devices.Allocated other → other ≠ device →
    after.devices.read other = before.devices.read other
  address_other : ∀ other, before.devices.Allocated other → other ≠ device →
    after.address other = before.address other

theorem OnlyChanges.touches {device : Ref ConnectableDevice}
    {before after : Memory} (changes : OnlyChanges device before after) :
    Touches device before after where
  wellFormed := changes.wellFormed
  kept := fun _ => changes.allocated_iff.mpr
  known := fun _ allocated _ => changes.allocated_iff.mp allocated
  read_other := fun other _ different => changes.read_other other different
  address_other := changes.address_other

theorem Touches.trans {device : Ref ConnectableDevice}
    {before middle after : Memory} (first : Touches device before middle)
    (second : Touches device middle after) : Touches device before after where
  wellFormed := second.wellFormed
  kept := fun other allocated => second.kept other (first.kept other allocated)
  known := fun other allocated different =>
    first.known other (second.known other allocated different) different
  read_other := fun other allocated different =>
    (second.read_other other (first.kept other allocated) different).trans
      (first.read_other other allocated different)
  address_other := fun other allocated different =>
    (second.address_other other (first.kept other allocated) different).trans
      (first.address_other other allocated different)

/-- A description that nobody else had is not taken over. -/
theorem Touches.ownedBy {device : Ref ConnectableDevice} {before after : Memory}
    (touches : Touches device before after) {description : Ref ServiceDescription}
    (owned : before.OwnedBy description device) :
    after.OwnedBy description device := by
  intro other allocated different
  have known := touches.known other allocated different
  rw [touches.read_other other known different]
  exact owned other known different

theorem WellFormed.touches_allocateDescription {memory : Memory}
    (wellFormed : memory.WellFormed) (description : ServiceDescription)
    (device : Ref ConnectableDevice) :
    Touches device memory (memory.allocateDescription description) where
  wellFormed := wellFormed.allocateDescription description
  kept := fun _ allocated => allocated
  known := fun _ allocated _ => allocated
  read_other := fun _ _ _ => rfl
  address_other := fun _ allocated _ =>
    wellFormed.address_allocateDescription description allocated

theorem WellFormed.touches_initWithDescription {memory : Memory}
    (wellFormed : memory.WellFormed) {description : Ref ServiceDescription}
    (allocated : memory.descriptions.Allocated description)
    (owned : memory.OwnedBy description memory.devices.fresh) (guid : String) :
    Touches memory.devices.fresh memory
      (memory.initWithDescription description guid) where
  wellFormed := wellFormed.initWithDescription allocated owned guid
  kept := fun _ old => old.allocate _
  known := fun _ known different =>
    ((Heap.allocated_allocate_iff ..).mp known).resolve_right different
  read_other := fun _ old _ => old.read_allocate _
  address_other := fun _ old _ =>
    initWithDescription_address_other description guid old

theorem WellFormed.touches_initWithJSONObject {memory : Memory}
    (wellFormed : memory.WellFormed) (record : JSON) (guid : String) :
    Touches memory.devices.fresh memory
      (memory.initWithJSONObject record guid) where
  wellFormed := wellFormed.initWithJSONObject record guid
  kept := fun _ old => old.allocate _
  known := fun _ known different =>
    ((Heap.allocated_allocate_iff ..).mp known).resolve_right different
  read_other := fun _ old _ => old.read_allocate _
  address_other := by
    intro other old _
    simp only [address, consolidated, Memory.initWithJSONObject,
      old.read_allocate, (wellFormed.described other old).read_allocate]

end Memory

end ConnectSDK
