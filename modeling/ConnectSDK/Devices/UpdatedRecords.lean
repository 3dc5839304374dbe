import ConnectSDK.Devices.DefaultConnectableDeviceStore

/-! # What `updateDevice:` changes

The record of the device takes over the services that the device has and keeps the others.
The sweep that comes with every write removes what is overdue, the new record included.
-/

namespace ConnectSDK

namespace DefaultConnectableDeviceStore

/-- The entry of a service in a record. -/
def serviceEntry (record : JSON) (uuid : String) : Option JSON :=
  (record.value? "services").bind (JSON.value? uuid)

/-- No record has a service with this UUID. -/
def NotStoredService (store : DefaultConnectableDeviceStore) (uuid : String) : Prop :=
  ∀ key record, store.storedDevices.lookup key = some record →
    recordHasService uuid record = false

/-- The device's new record, beside the one it had. -/
structure Merges (memory : Memory) (device : Ref ConnectableDevice)
    (stored record : JSON) : Prop where
  kept : ∀ uuid, (∀ service ∈ memory.services device,
      memory.serviceUUID service ≠ some uuid) →
    serviceEntry record uuid = serviceEntry stored uuid
  replaced : ∀ service ∈ memory.services device, ∀ uuid,
    memory.serviceUUID service = some uuid →
    ∃ last ∈ memory.services device, memory.serviceUUID last = some uuid ∧
      serviceEntry record uuid = some (memory.serviceJSON last)

theorem storedDeviceForUUID_of_notStoredService {store : DefaultConnectableDeviceStore}
    {uuid : String} (unstored : store.NotStoredService uuid) :
    store.storedDeviceForUUID uuid = store.storedDevices.lookup uuid := by
  have none : store.storedDevices.firstWhere
      (fun _ record => recordHasService uuid record) = none :=
    Dictionary.firstWhere_eq_none_iff.mpr unstored
  rw [storedDeviceForUUID, none, Option.map_none, Option.or_none]

theorem merges_updatedRecord {memory : Memory} {device : Ref ConnectableDevice}
    {stored record : JSON} (updated : updatedRecord memory device stored = some record) :
    Merges memory device stored record := by
  rcases Option.map_eq_some_iff.mp updated with ⟨services, set, rfl⟩
  constructor
  · intro uuid unused
    have kept := setServices_other set unused
    simp only [serviceEntry, JSON.value?_object, JSON.Fields.value?_set, if_pos,
      Option.bind_some]
    rw [kept]
    cases held : stored.value? "services" with
    | none => simp [held]
    | some info => simp [held]
  · intro service member uuid identified
    rcases setServices_value set member identified with ⟨last, inside, same, value⟩
    refine ⟨last, inside, same, ?_⟩
    simp only [serviceEntry, JSON.value?_object, JSON.Fields.value?_set, if_pos,
      Option.bind_some]
    exact value

/-- A device that was never connected and not detected for too long. -/
def Expired (memory : Memory) (device : Ref ConnectableDevice)
    (maxStoreDuration now : TimeInterval) : Prop :=
  (memory.devices.read device).lastConnected ≤ 0 ∧
    maxStoreDuration < now - (memory.devices.read device).lastDetection

instance (memory : Memory) (device : Ref ConnectableDevice)
    (maxStoreDuration now : TimeInterval) :
    Decidable (Expired memory device maxStoreDuration now) :=
  inferInstanceAs (Decidable (_ ∧ _))

theorem RecordOf.overdue_iff_expired {memory : Memory} {device : Ref ConnectableDevice}
    {before : Option JSON} {record : JSON} (recordOf : RecordOf memory device before record)
    (maxStoreDuration now : TimeInterval) :
    overdue maxStoreDuration now record = true ↔
      Expired memory device maxStoreDuration now := by
  rw [← not_iff_not, Bool.not_eq_true, recordOf.overdue_eq_false_iff, Expired,
    not_and_or, Int.not_le, Int.not_lt]

/-- The table after a write: the sweep may take the new record, too. -/
theorem lookup_updated {self : DefaultConnectableDeviceStore} {memory : Memory}
    {device : Ref ConnectableDevice} {stored record : JSON} {now : TimeInterval}
    (hasServices : memory.hasServices device = true)
    (found : self.storedDeviceForUUID (memory.devices.read device).id = some stored)
    (notNull : stored.isNull = false)
    (made : updatedRecord memory device stored = some record) :
    ∃ after, self.updateDevice memory device now = some after ∧
      ∀ key, after.storedDevices.lookup key =
        if key = (memory.devices.read device).id then
          if Expired memory device self.maxStoreDuration now then none else some record
        else self.surviving now key := by
  have updated : self.updateDevice memory device now =
      some (store { self with
        storedDevices := self.storedDevices.insert (memory.devices.read device).id record
        activeDevices := self.activeDevices.insert (memory.devices.read device).id
          device } now) := by
    simp only [updateDevice, hasServices, if_true, found, notNull, Bool.false_eq_true,
      if_false, made, Option.map_some]
  refine ⟨_, updated, fun key => ?_⟩
  rw [lookup_store, surviving, Dictionary.lookup_insert_eq]
  by_cases own : key = (memory.devices.read device).id
  · have swept := (updatedRecord_recordOf made).overdue_iff_expired self.maxStoreDuration now
    rw [if_pos own, if_pos own]
    by_cases expired : Expired memory device self.maxStoreDuration now
    · rw [if_pos expired, Option.filter_some, swept.mpr expired]
      rfl
    · rw [if_neg expired, Option.filter_some,
        Bool.eq_false_iff.mpr fun late => expired (swept.mp late)]
      rfl
  · rw [if_neg own, if_neg own]
    rfl

/-- Updating a device merges its services into its record, and leaves the others to the
sweep, to which the new record is subject as well. -/
theorem updateDevice_merges {self : DefaultConnectableDeviceStore}
    (records : self.HoldsRecords) {memory : Memory} {device : Ref ConnectableDevice}
    (unstored : self.NotStoredService (memory.devices.read device).id)
    (now : TimeInterval) :
    (memory.hasServices device = false ∨
        self.storedDevices.lookup (memory.devices.read device).id = none →
      self.updateDevice memory device now = some self) ∧
    ∀ stored, memory.hasServices device = true →
      self.storedDevices.lookup (memory.devices.read device).id = some stored →
      (∀ service ∈ memory.services device, (memory.serviceUUID service).isSome = true) →
      ∃ after record, self.updateDevice memory device now = some after ∧
        Merges memory device stored record ∧
        ∀ key, after.storedDevices.lookup key =
          if key = (memory.devices.read device).id then
            if Expired memory device self.maxStoreDuration now then none else some record
          else self.surviving now key := by
  have found := storedDeviceForUUID_of_notStoredService unstored
  constructor
  · intro unchanged
    rcases unchanged with without | absent
    · rw [updateDevice, without]
      rfl
    · simp only [updateDevice, found, absent, ite_self]
  · intro stored hasServices held identified
    have writes : (updatedRecord memory device stored).isSome = true := by
      rw [updatedRecord, Option.isSome_map]
      exact setServices_isSome_iff.mpr identified
    rcases Option.isSome_iff_exists.mp writes with ⟨record, made⟩
    rcases lookup_updated hasServices (found.trans held)
        (records.isNull_eq_false held) made with
      ⟨after, updated, lookup⟩
    exact ⟨after, record, updated, merges_updatedRecord made, lookup⟩

/-- A television with a DLNA service, detected at the time zero. -/
def detectedTelevision (lastConnected : TimeInterval) : Memory where
  descriptions := (Heap.empty {}).allocate { serviceId := some "DLNA", uuid := some "ssdp" }
  devices := (Heap.empty { id := "", serviceDescription := ⟨0⟩ }).allocate
    { id := "tv", serviceDescription := ⟨0⟩
      services := AList.insert "DLNA"
        { serviceClass := .dlnaService, serviceDescription := ⟨0⟩ } ∅
      lastConnected }

/-- A store with a record of the television that has no services yet. -/
def televisionStore : DefaultConnectableDeviceStore where
  storedDevices := AList.insert "tv" (.object []) ∅
  writer := .loaded 0 none

theorem televisionStore_holdsRecords : televisionStore.HoldsRecords :=
  Dictionary.AllValues.insert (Dictionary.allValues_empty _) JSON.isRecord_object_nil

theorem televisionStore_notStoredService (uuid : String) :
    televisionStore.NotStoredService uuid := by
  intro key record held
  rw [televisionStore, Dictionary.lookup_insert_eq] at held
  split at held
  · cases held
    rfl
  · cases held

theorem services_detectedTelevision (lastConnected : TimeInterval) :
    ∀ service ∈ (detectedTelevision lastConnected).services ⟨0⟩,
      ((detectedTelevision lastConnected).serviceUUID service).isSome = true := by
  intro service member
  rw [List.mem_singleton.mp member]
  rfl

theorem updateDevice_merges_television : ∃ after record,
    televisionStore.updateDevice (detectedTelevision 5) ⟨0⟩ 300000 = some after ∧
      Merges (detectedTelevision 5) ⟨0⟩ (.object []) record ∧
      after.storedDevices.lookup "tv" = some record := by
  rcases (updateDevice_merges televisionStore_holdsRecords
      (televisionStore_notStoredService _) 300000).2 (.object [])
      rfl rfl (services_detectedTelevision 5) with
    ⟨after, record, updated, merges, lookup⟩
  exact ⟨after, record, updated, merges, lookup "tv"⟩

/-- The update of a television that was never connected and long not detected removes its
record. -/
theorem updateDevice_removes_own_record :
    ¬ ∀ (self : DefaultConnectableDeviceStore) (memory : Memory)
      (device : Ref ConnectableDevice) (now : TimeInterval),
      self.HoldsRecords → self.NotStoredService (memory.devices.read device).id →
      ∀ stored, memory.hasServices device = true →
        self.storedDevices.lookup (memory.devices.read device).id = some stored →
        ∃ after record, self.updateDevice memory device now = some after ∧
          after.storedDevices.lookup (memory.devices.read device).id = some record ∧
          Merges memory device stored record := by
  intro always
  rcases always televisionStore (detectedTelevision 0) ⟨0⟩ 300000
      televisionStore_holdsRecords (televisionStore_notStoredService _) (.object [])
      rfl rfl with
    ⟨after, record, updated, held, _⟩
  have removed : ((televisionStore.updateDevice (detectedTelevision 0) ⟨0⟩ 300000).all
      fun after => (after.storedDevices.lookup "tv").isNone) = true := by
    decide +kernel
  rw [updated, Option.all_some, Option.isNone_iff_eq_none] at removed
  cases removed.symm.trans held

end DefaultConnectableDeviceStore

end ConnectSDK
