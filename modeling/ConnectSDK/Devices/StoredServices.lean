import ConnectSDK.Devices.DefaultConnectableDeviceStore

/-! # The services in a stored record

A record keeps the services of its device under their UUIDs alone, and a
configuration is looked up by UUID in every record. Whether each service gets
its own configuration back therefore depends on who else has its UUID.
-/

namespace ConnectSDK

/-- The two calls that write the record of a device. -/
inductive StoreWrite where
  | addDevice
  | updateDevice
deriving DecidableEq

/-- The configuration a service should get back: its own, decoded. -/
def DeviceService.ownConfig (service : DeviceService) : Option ServiceConfig :=
  service.serviceConfig.bind fun config =>
    ServiceConfig.serviceConfigWithJSONObject config.toJSONObject

namespace DefaultConnectableDeviceStore

def perform (self : DefaultConnectableDeviceStore) (write : StoreWrite)
    (memory : Memory) (device : Ref ConnectableDevice) (now : TimeInterval) :
    Option DefaultConnectableDeviceStore :=
  match write with
  | .addDevice => self.addDevice memory device now
  | .updateDevice => self.updateDevice memory device now

/-- The configuration a record holds for a UUID. -/
def configAt (uuid : String) (record : JSON) : Option ServiceConfig :=
  (((record.value? "services").bind (JSON.value? uuid)).bind
    (JSON.value? "config")).bind ServiceConfig.serviceConfigWithJSONObject

/-- The record of the device holds the service itself, and in whatever order
the records are enumerated its configuration is the one returned. -/
def KeepsService (store : DefaultConnectableDeviceStore) (memory : Memory)
    (device : Ref ConnectableDevice) (service : DeviceService) : Prop :=
  ∃ uuid record, memory.serviceUUID service = some uuid ∧
    store.storedDevices.lookup (memory.devices.read device).id = some record ∧
    (record.value? "services").bind (JSON.value? uuid) =
      some (memory.serviceJSON service) ∧
    ∀ order : Dictionary String JSON, order.SameEntries store.storedDevices →
      serviceConfigForUUID { store with storedDevices := order } (some uuid) =
        service.ownConfig

def KeepsServices (store : DefaultConnectableDeviceStore) (memory : Memory)
    (device : Ref ConnectableDevice) : Prop :=
  ∀ service ∈ memory.services device, store.KeepsService memory device service

/-- The service can be written under its UUID and found again: the record does
not expire at once, no service of the device with the same UUID is written
differently, and no record of another device that is looked at for the UUID
holds another configuration. -/
structure Distinguished (store : DefaultConnectableDeviceStore) (memory : Memory)
    (device : Ref ConnectableDevice) (now : TimeInterval)
    (service : DeviceService) (uuid : String) : Prop where
  identified : memory.serviceUUID service = some uuid
  kept : 0 < (memory.devices.read device).lastConnected ∨
    now - (memory.devices.read device).lastDetection ≤ store.maxStoreDuration
  unshared : ∀ other ∈ memory.services device,
    memory.serviceUUID other = some uuid →
      memory.serviceJSON other = memory.serviceJSON service
  named : uuid = "" → service.ownConfig = none
  elsewhere : uuid ≠ "" → ∀ key record,
    key ≠ (memory.devices.read device).id →
      store.surviving now key = some record →
        (key = uuid ∨ uuid ≠ (memory.devices.read device).id ∧
          store.surviving now uuid = none ∧ recordHasService uuid record) →
            configAt uuid record = service.ownConfig

/-! ## Which record answers for a UUID -/

theorem storedDeviceForUUID_isSome {store : DefaultConnectableDeviceStore}
    {uuid : String} {record : JSON} (answers : store.Answers uuid record) :
    ∃ found, store.storedDeviceForUUID uuid = some found := by
  rw [storedDeviceForUUID]
  rcases answers with ⟨key, held, rfl | ⟨unkeyed, contains⟩⟩
  · exact ⟨record, by simp [held]⟩
  · rw [unkeyed, Option.none_or]
    cases first : store.storedDevices.firstWhere fun _ record =>
        recordHasService uuid record with
    | none =>
        have refused := Dictionary.firstWhere_eq_none_iff.mp first key record held
        simp [refused] at contains
    | some entry => exact ⟨entry.2, rfl⟩

theorem Answers.reorder {store : DefaultConnectableDeviceStore}
    {order : Dictionary String JSON} (same : order.SameEntries store.storedDevices)
    {uuid : String} {record : JSON} :
    Answers { store with storedDevices := order } uuid record ↔
      store.Answers uuid record := by
  simp only [Answers, same _]

/-- Every record that answers is the first one in some order. -/
theorem Answers.exists_order {store : DefaultConnectableDeviceStore}
    {uuid : String} {record : JSON} (answers : store.Answers uuid record) :
    ∃ order : Dictionary String JSON, order.SameEntries store.storedDevices ∧
      storedDeviceForUUID { store with storedDevices := order } uuid =
        some record := by
  rcases answers with ⟨key, held, rfl | ⟨unkeyed, contains⟩⟩
  · exact ⟨store.storedDevices, fun _ => rfl, by
      simp [storedDeviceForUUID, held]⟩
  · have same : Dictionary.SameEntries (store.storedDevices.insert key record)
        store.storedDevices := by
      intro other
      rw [Dictionary.lookup_insert_eq]
      by_cases equal : other = key
      · rw [if_pos equal, equal, held]
      · rw [if_neg equal]
    refine ⟨store.storedDevices.insert key record, same, ?_⟩
    rw [storedDeviceForUUID, same uuid, unkeyed, Option.none_or]
    simp [Dictionary.firstWhere, AList.insert, List.kinsert, contains]

theorem serviceConfigForUUID_eq (store : DefaultConnectableDeviceStore)
    {uuid : String} (nonempty : uuid ≠ "") :
    store.serviceConfigForUUID (some uuid) =
      (store.storedDeviceForUUID uuid).bind (configAt uuid) := by
  have filled : uuid.isEmpty = false := by
    simpa using nonempty
  simp only [serviceConfigForUUID, filled]
  cases store.storedDeviceForUUID uuid <;> rfl

/-- A configuration is returned in every order when every record that answers
holds it, and only then. -/
theorem serviceConfigForUUID_everyOrder_iff
    {store : DefaultConnectableDeviceStore} {uuid : String} (nonempty : uuid ≠ "")
    {config : Option ServiceConfig}
    (answered : ∃ record, store.Answers uuid record) :
    (∀ order : Dictionary String JSON, order.SameEntries store.storedDevices →
      serviceConfigForUUID { store with storedDevices := order } (some uuid) =
        config) ↔
      ∀ record, store.Answers uuid record → configAt uuid record = config := by
  constructor
  · intro returned record answers
    rcases answers.exists_order with ⟨order, same, found⟩
    have equal := returned order same
    rw [serviceConfigForUUID_eq _ nonempty, found] at equal
    exact equal
  · intro holds order same
    rcases answered with ⟨record, answers⟩
    rcases storedDeviceForUUID_isSome ((Answers.reorder same).mpr answers) with
      ⟨found, first⟩
    rw [serviceConfigForUUID_eq _ nonempty, first]
    exact holds found
      ((Answers.reorder same).mp (storedDeviceForUUID_answers first))

/-! ## Writing a device -/

theorem isNull_eq_true_iff {json : JSON} : json.isNull = true ↔ json = .null := by
  cases json <;> simp [JSON.isNull]

/-- A write that has a record to write, or none yet to replace, writes it unless
a service of the device has no UUID. -/
theorem perform_wrote {self after : DefaultConnectableDeviceStore}
    {write : StoreWrite} {memory : Memory} {device : Ref ConnectableDevice}
    {now : TimeInterval} (hasServices : memory.hasServices device = true)
    (stored : write = .updateDevice →
      self.storedDevices.lookup (memory.devices.read device).id ≠ none)
    (written : self.storedDevices.lookup (memory.devices.read device).id ≠
      some .null)
    (performed : self.perform write memory device now = some after) :
    Wrote memory device now self after := by
  cases lookup : self.storedDevices.lookup (memory.devices.read device).id with
  | none =>
      cases write with
      | addDevice => exact addDevice_wrote hasServices lookup performed
      | updateDevice => exact absurd lookup (stored rfl)
  | some record =>
      have notNull : record.isNull = false := by
        rw [Bool.eq_false_iff]
        exact fun null => written (by rw [lookup, isNull_eq_true_iff.mp null])
      cases write with
      | addDevice =>
          rw [perform, addDevice_of_stored hasServices lookup] at performed
          refine (updateDevice_wrote hasServices ?_ notNull performed).of_activate
          rw [storedDeviceForUUID_activate, storedDeviceForUUID, lookup,
            Option.some_or]
      | updateDevice =>
          refine updateDevice_wrote hasServices ?_ notNull performed
          rw [storedDeviceForUUID, lookup, Option.some_or]

theorem updateDevice_isSome {self : DefaultConnectableDeviceStore}
    {memory : Memory} (device : Ref ConnectableDevice) (now : TimeInterval)
    (identified : ∀ service ∈ memory.services device,
      (memory.serviceUUID service).isSome = true) :
    (self.updateDevice memory device now).isSome = true := by
  have made : ∀ storedDeviceInfo,
      (updatedRecord memory device storedDeviceInfo).isSome = true :=
    fun storedDeviceInfo => by
      rw [updatedRecord, Option.isSome_map]
      exact setServices_isSome_iff.mpr identified
  rw [updateDevice]
  cases memory.hasServices device with
  | false => rfl
  | true =>
      rw [if_pos rfl]
      cases self.storedDeviceForUUID (memory.devices.read device).id with
      | none => rfl
      | some storedDeviceInfo =>
          cases null : storedDeviceInfo.isNull <;> simp [null, made]

theorem perform_isSome (self : DefaultConnectableDeviceStore)
    (write : StoreWrite) {memory : Memory} (device : Ref ConnectableDevice)
    (now : TimeInterval)
    (identified : ∀ service ∈ memory.services device,
      (memory.serviceUUID service).isSome = true) :
    ∃ after, self.perform write memory device now = some after := by
  rw [← Option.isSome_iff_exists]
  cases write with
  | updateDevice => exact updateDevice_isSome device now identified
  | addDevice =>
      rw [perform, addDevice]
      cases memory.hasServices device with
      | false => rfl
      | true =>
          rw [if_pos rfl]
          cases self.storedDevices.lookup (memory.devices.read device).id with
          | some storedDevice => exact updateDevice_isSome device now identified
          | none =>
              simp only [Option.isSome_map, jsonRepresentationForDevice]
              exact setServices_isSome_iff.mpr identified

/-! ## What is kept -/

theorem configAt_of_stored {memory : Memory} {service : DeviceService}
    {uuid : String} {record : JSON}
    (stored : (record.value? "services").bind (JSON.value? uuid) =
      some (memory.serviceJSON service)) :
    configAt uuid record = service.ownConfig := by
  rw [configAt, stored, DeviceService.ownConfig]
  cases config : service.serviceConfig <;>
    simp [Memory.serviceJSON, DeviceService.toJSONObject, config]

/-- Services of one UUID are kept only if they are written alike. -/
theorem KeepsServices.unshared {store : DefaultConnectableDeviceStore}
    {memory : Memory} {device : Ref ConnectableDevice}
    (keeps : store.KeepsServices memory device) {service other : DeviceService}
    (member : service ∈ memory.services device)
    (otherMember : other ∈ memory.services device) {uuid : String}
    (identified : memory.serviceUUID service = some uuid)
    (shared : memory.serviceUUID other = some uuid) :
    memory.serviceJSON other = memory.serviceJSON service := by
  rcases keeps service member with
    ⟨serviceUUID, record, named, lookup, stored, _⟩
  rcases keeps other otherMember with
    ⟨otherUUID, otherRecord, otherNamed, otherLookup, otherStored, _⟩
  cases named.symm.trans identified
  cases otherNamed.symm.trans shared
  cases lookup.symm.trans otherLookup
  exact Option.some.inj (otherStored.symm.trans stored)

theorem Wrote.distinguished {memory : Memory} {device : Ref ConnectableDevice}
    {now : TimeInterval} {before after : DefaultConnectableDeviceStore}
    (wrote : Wrote memory device now before after)
    (keeps : after.KeepsServices memory device) {service : DeviceService}
    (member : service ∈ memory.services device) :
    ∃ uuid, before.Distinguished memory device now service uuid := by
  rcases keeps service member with
    ⟨uuid, record, identified, lookup, stored, config⟩
  rcases wrote.record with ⟨new, recordOf, after_lookup⟩
  refine ⟨uuid, identified, ?_, ?_, ?_, ?_⟩
  · rw [after_lookup, if_pos rfl, Option.filter_eq_some_iff] at lookup
    cases lookup.1
    rw [← recordOf.overdue_eq_false_iff]
    simpa using lookup.2
  · intro other otherMember shared
    exact keeps.unshared member otherMember identified shared
  · intro empty
    subst empty
    exact (config after.storedDevices fun _ => rfl).symm
  · intro nonempty key other different survives reason
    have answers : after.Answers uuid other := by
      refine ⟨key, by rw [after_lookup, if_neg different, survives], ?_⟩
      rcases reason with keyed | ⟨foreign, unkeyed, contains⟩
      · exact .inl keyed
      · exact .inr ⟨by rw [after_lookup, if_neg foreign, unkeyed], contains⟩
    exact (serviceConfigForUUID_everyOrder_iff nonempty ⟨other, answers⟩).mp
      config other answers

theorem Wrote.keepsService {memory : Memory} {device : Ref ConnectableDevice}
    {now : TimeInterval} {before after : DefaultConnectableDeviceStore}
    (wrote : Wrote memory device now before after) {service : DeviceService}
    (member : service ∈ memory.services device) {uuid : String}
    (distinguished : before.Distinguished memory device now service uuid) :
    after.KeepsService memory device service := by
  rcases wrote.record with ⟨record, recordOf, after_lookup⟩
  rcases recordOf.services with ⟨info, stored, set, under, _⟩
  have lookup : after.storedDevices.lookup (memory.devices.read device).id =
      some record := by
    rw [after_lookup, if_pos rfl, Option.filter_eq_some_iff,
      recordOf.overdue_eq_false_iff.mpr distinguished.kept]
    exact ⟨rfl, rfl⟩
  have own : (record.value? "services").bind (JSON.value? uuid) =
      some (memory.serviceJSON service) := by
    rcases setServices_value set member distinguished.identified with
      ⟨last, lastMember, shared, value⟩
    rw [under, ← distinguished.unshared last lastMember shared]
    exact value
  refine ⟨uuid, record, distinguished.identified, lookup, own, ?_⟩
  by_cases empty : uuid = ""
  · intro order _
    rw [distinguished.named empty, empty]
    rfl
  · have answered : ∃ answering, after.Answers uuid answering := by
      cases keyed : after.storedDevices.lookup uuid with
      | some other => exact ⟨other, uuid, keyed, .inl rfl⟩
      | none =>
          refine ⟨record, _, lookup, .inr ⟨keyed, ?_⟩⟩
          rw [recordHasService, own]
          rfl
    refine (serviceConfigForUUID_everyOrder_iff empty answered).mpr ?_
    rintro other ⟨key, held, reason⟩
    by_cases same : key = (memory.devices.read device).id
    · rw [same, lookup, Option.some.injEq] at held
      rw [← held]
      exact configAt_of_stored own
    · rw [after_lookup, if_neg same] at held
      refine distinguished.elsewhere empty key other same held ?_
      rcases reason with keyed | ⟨unkeyed, contains⟩
      · exact .inl keyed
      · have foreign : uuid ≠ (memory.devices.read device).id := by
          rintro rfl
          rw [lookup] at unkeyed
          cases unkeyed
        rw [after_lookup, if_neg foreign] at unkeyed
        exact .inr ⟨foreign, unkeyed, contains⟩

/-- After a write every service is kept exactly when each can be told apart
from everything else that has its UUID. -/
theorem perform_keepsServices_iff {self : DefaultConnectableDeviceStore}
    (records : self.HoldsRecords) (write : StoreWrite) (memory : Memory)
    (device : Ref ConnectableDevice) (now : TimeInterval)
    (stored : write = .updateDevice →
      self.storedDevices.lookup (memory.devices.read device).id ≠ none) :
    (∃ after, self.perform write memory device now = some after ∧
      after.KeepsServices memory device) ↔
      ∀ service ∈ memory.services device,
        ∃ uuid, self.Distinguished memory device now service uuid := by
  have written : self.storedDevices.lookup (memory.devices.read device).id ≠
      some .null := by
    intro null
    cases records.isNull_eq_false null
  constructor
  · rintro ⟨after, performed, keeps⟩ service member
    have hasServices := Memory.hasServices_of_mem member
    exact (perform_wrote hasServices stored written performed).distinguished
      keeps member
  · intro distinguished
    rcases self.perform_isSome write device now
      (fun service member => by
        rcases distinguished service member with ⟨uuid, each⟩
        simp [each.identified]) with ⟨after, performed⟩
    refine ⟨after, performed, fun service member => ?_⟩
    rcases distinguished service member with ⟨uuid, each⟩
    have hasServices := Memory.hasServices_of_mem member
    exact (perform_wrote hasServices stored written performed).keepsService
      member each

/-- A device with one service, and a record of it that has none yet. -/
def netcastOnly : Memory :=
  let netcast : DeviceService :=
    { serviceClass := .netcastTVService
      serviceDescription := ⟨0⟩
      serviceConfig := some
        { subclass := .netcastTVServiceConfig (some "837261") } }
  let memory := Memory.empty.allocateDescription
    { serviceId := some "Netcast TV", uuid := some "ssdp" }
  { memory with
    devices := memory.devices.allocate
      { id := "device"
        serviceDescription := ⟨0⟩
        lastConnected := 1
        services := AList.insert "Netcast TV" netcast ∅ } }

theorem netcastOnly_keepsServices :
    ∃ after, perform { load .missing 0 with
        storedDevices := AList.insert "device" (.object []) ∅ }
        .updateDevice netcastOnly ⟨0⟩ 1 = some after ∧
      after.KeepsServices netcastOnly ⟨0⟩ := by
  have records : HoldsRecords { load .missing 0 with
      storedDevices := AList.insert "device" (.object []) ∅ } :=
    Dictionary.AllValues.insert (Dictionary.allValues_empty _)
      JSON.isRecord_object_nil
  refine (perform_keepsServices_iff records .updateDevice netcastOnly ⟨0⟩ 1
    (fun _ missing => (by cases missing))).mpr ?_
  intro service member
  rcases List.mem_singleton.mp member with rfl
  refine ⟨"ssdp", rfl, .inl (by decide), ?_,
    fun empty => absurd empty (by decide), ?_⟩
  · intro other otherMember _
    rcases List.mem_singleton.mp otherMember with rfl
    rfl
  · intro _ key record different survives _
    have missing : AList.lookup key (AList.insert "device" (JSON.object [])
        (∅ : Dictionary String JSON)) = none := AList.lookup_insert_ne different
    cases missing.symm.trans (surviving_eq_some_iff.mp survives).1

/-- Two services found by one SSDP response, which gives both its UUID. -/
def dlnaAndNetcast : Memory :=
  let dlna : DeviceService :=
    { serviceClass := .dlnaService, serviceDescription := ⟨0⟩ }
  let netcast : DeviceService :=
    { serviceClass := .netcastTVService
      serviceDescription := ⟨1⟩
      serviceConfig := some
        { uuid := some "ssdp"
          subclass := .netcastTVServiceConfig (some "837261") } }
  let memory := Memory.empty.allocateDescription
    { address := some "10.0.0.2", serviceId := some "DLNA", uuid := some "ssdp" }
  let memory := memory.allocateDescription
    { address := some "10.0.0.2"
      serviceId := some "Netcast TV"
      uuid := some "ssdp" }
  { memory with
    devices := memory.devices.allocate
      { id := "device"
        serviceDescription := ⟨0⟩
        lastConnected := 1
        services :=
          (AList.insert "DLNA" dlna ∅).insert "Netcast TV" netcast } }

/-- One of two services that share a UUID is not kept. -/
theorem shared_uuid_loses_service :
    ¬ ∀ (self : DefaultConnectableDeviceStore) (write : StoreWrite)
        (memory : Memory) (device : Ref ConnectableDevice) (now : TimeInterval),
      self.HoldsRecords →
      (write = .updateDevice →
        self.storedDevices.lookup (memory.devices.read device).id ≠ none) →
      ∃ after, self.perform write memory device now = some after ∧
        after.KeepsServices memory device := by
  intro kept
  rcases kept (load .missing 0) .addDevice dlnaAndNetcast ⟨0⟩ 1
    (Dictionary.allValues_empty _) (fun impossible => (by cases impossible)) with ⟨after, _, keeps⟩
  have equal := keeps.unshared (List.mem_cons_self ..)
    (List.mem_cons_of_mem _ (List.mem_cons_self ..)) rfl rfl
  have names := congrArg (fun json => (json.value? "class").bind JSON.string?) equal
  exact absurd names (by decide)

end DefaultConnectableDeviceStore

end ConnectSDK
