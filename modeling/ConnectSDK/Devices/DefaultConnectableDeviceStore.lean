import ConnectSDK.Devices.ConnectableDevice
import ConnectSDK.Devices.StoreWriter

/-! # The default device store

Two tables, both keyed by device id: the device objects that are in use and the
JSON records that are kept on disk. Lookups by UUID consult the keys first and
then the services. An operation that raises returns `none`.
-/

namespace ConnectSDK

/-- What is at the path of the store file when the store is created. A file that
is read holds a dictionary, with a dictionary of records under `devices`. -/
inductive DeviceStoreFile where
  | missing
  | unreadable
  | contents (deviceStore : JSON)

structure DefaultConnectableDeviceStore where
  activeDevices : Dictionary String (Ref ConnectableDevice) := ∅
  storedDevices : Dictionary String JSON := ∅
  maxStoreDuration : TimeInterval := 3 * 24 * 60 * 60
  version : Int := 0
  created : TimeInterval := 0
  writer : StoreWriter (Option JSON)

/-- `if (dictionary[key] && !null) value = [dictionary[key] doubleValue]`, from
a value that starts as zero. -/
def JSON.numberAt (key : String) (dictionary : JSON) : Int :=
  ((dictionary.value? key).map JSON.doubleValue).getD 0

/-- `dictionaryWithDictionary:`. -/
def JSON.toDictionary (json : JSON) : Dictionary String JSON :=
  (json.fields.map fun entry => ⟨entry.1, entry.2⟩).toAList

def JSON.ofDictionary (dictionary : Dictionary String JSON) : JSON :=
  .object (dictionary.entries.map fun entry => (entry.1, entry.2))

/-- A record that every method can read: a dictionary whose times are numbers
and whose services, if it has any, are a dictionary of dictionaries with a
dictionary for a configuration. The sweep and the search by service send
`objectForKey:` to whatever is there, and `NSNull` does not understand it. -/
structure JSON.IsRecord (record : JSON) : Prop where
  dictionary : record.isObject = true
  times : ∀ key ∈ ["lastConnected", "lastDetection"], ∀ time,
    record.value? key = some time → time.isNumber || time.isNull
  services : ∀ services, record.value? "services" = some services →
    services.isObject = true
  service : ∀ uuid service,
    (record.value? "services").bind (JSON.value? uuid) = some service →
      service.isObject || service.isNull
  config : ∀ uuid config,
    ((record.value? "services").bind (JSON.value? uuid)).bind
        (JSON.value? "config") = some config →
      config.isObject || config.isNull

theorem JSON.isRecord_object_nil : (JSON.object []).IsRecord := by
  constructor
  · rfl
  · intro key _ time impossible
    cases impossible
  · intro services impossible
    cases impossible
  · intro uuid service impossible
    cases impossible
  · intro uuid config impossible
    cases impossible

namespace DefaultConnectableDeviceStore

def load (file : DeviceStoreFile) (now : TimeInterval) :
    DefaultConnectableDeviceStore :=
  match file with
  | .missing => { version := 1, created := now, writer := .loaded now none }
  | .unreadable => { writer := .loaded 0 none }
  | .contents deviceStore =>
      { storedDevices :=
          ((deviceStore.value? "devices").map JSON.toDictionary).getD ∅
        version := deviceStore.numberAt "version"
        created := deviceStore.numberAt "created"
        writer := .loaded (deviceStore.numberAt "updated") (some deviceStore) }

/-! ## Expiry and writing -/

/-- A record that was never connected and not detected for too long. The code
raises on anything that is no dictionary (`HoldsRecords`). -/
def overdue (maxStoreDuration now : TimeInterval) (record : JSON) : Bool :=
  decide (record.numberAt "lastConnected" ≤ 0) &&
    decide (now - record.numberAt "lastDetection" > maxStoreDuration)

def deleteOldUnusedDevices (store : DefaultConnectableDeviceStore)
    (now : TimeInterval) : DefaultConnectableDeviceStore :=
  let devicesToRemove := store.storedDevices.keysWhere fun _ record =>
    overdue store.maxStoreDuration now record
  { store with
    storedDevices := Dictionary.eraseAll devicesToRemove store.storedDevices }

def setMaxStoreDuration (store : DefaultConnectableDeviceStore)
    (maxStoreDuration now : TimeInterval) : DefaultConnectableDeviceStore :=
  deleteOldUnusedDevices { store with maxStoreDuration } now

/-- `newDeviceStore`. -/
def contents (store : DefaultConnectableDeviceStore) (updated : TimeInterval) :
    JSON :=
  .object [
    ("version", .number store.version),
    ("created", .number store.created),
    ("updated", .number updated),
    ("devices", .ofDictionary store.storedDevices)]

/-- `store`, its clock read once. -/
def store (self : DefaultConnectableDeviceStore) (now : TimeInterval) :
    DefaultConnectableDeviceStore :=
  let self := self.setMaxStoreDuration self.maxStoreDuration now
  { self with writer := self.writer.store now (some (self.contents now)) }

/-! ## Lookups -/

/-- `services && [services objectForKey:UUID]`, for a record and services that
are dictionaries; on others the code raises (`HoldsRecords`). -/
def recordHasService (uuid : String) (record : JSON) : Bool :=
  ((record.value? "services").bind (JSON.value? uuid)).isSome

def storedDeviceForUUID (store : DefaultConnectableDeviceStore) (uuid : String) :
    Option JSON :=
  (store.storedDevices.lookup uuid).or
    ((store.storedDevices.firstWhere fun _ record =>
      recordHasService uuid record).map Prod.snd)

def activeDeviceForUUID (store : DefaultConnectableDeviceStore) (memory : Memory)
    (uuid : String) : Option (Ref ConnectableDevice) :=
  (store.activeDevices.lookup uuid).or
    ((store.activeDevices.firstWhere fun _ device =>
      (memory.services device).any fun service =>
        memory.serviceUUID service == some uuid).map Prod.snd)

/-- `if (![_activeDevices objectForKey:device.id]) _activeDevices[device.id] =
device`. -/
def activate (store : DefaultConnectableDeviceStore) (memory : Memory)
    (device : Ref ConnectableDevice) : DefaultConnectableDeviceStore :=
  let id := (memory.devices.read device).id
  match store.activeDevices.lookup id with
  | some _ => store
  | none =>
      { store with activeDevices := store.activeDevices.insert id device }

/-- The device found, with the memory and the store after the call. A device
restored from a record is a new object; `guid` is its id if the record has
none. -/
def deviceForId (store : DefaultConnectableDeviceStore) (memory : Memory)
    (id : Option String) (guid : String) :
    Option (Ref ConnectableDevice) × Memory × DefaultConnectableDeviceStore :=
  match id with
  | none => (none, memory, store)
  | some id =>
      if id.isEmpty then (none, memory, store)
      else
        match store.activeDeviceForUUID memory id with
        | some device => (some device, memory, store.activate memory device)
        | none =>
            match store.storedDeviceForUUID id with
            | none => (none, memory, store)
            | some record =>
                let restored := memory.initWithJSONObject record guid
                let device := memory.devices.fresh
                (some device, restored, store.activate restored device)

def serviceConfigForUUID (store : DefaultConnectableDeviceStore)
    (uuid : Option String) : Option ServiceConfig :=
  match uuid with
  | none => none
  | some uuid =>
      if uuid.isEmpty then none
      else
        (((store.storedDeviceForUUID uuid).bind (JSON.value? "services")).bind
          (JSON.value? uuid)).bind (JSON.value? "config") |>.bind
            ServiceConfig.serviceConfigWithJSONObject

/-! ## Changes -/

/-- `[services setObject:serviceInfo forKey:service.serviceDescription.UUID]`
for one service after the other. A service without a UUID raises. -/
def setServices (memory : Memory) (services : List DeviceService)
    (servicesInfo : JSON.Fields) : Option JSON.Fields :=
  services.foldlM (fun info service =>
    (memory.serviceUUID service).map fun uuid =>
      info.set uuid (memory.serviceJSON service)) servicesInfo

/-- The record of a device that has services. -/
def jsonRepresentationForDevice (memory : Memory)
    (device : Ref ConnectableDevice) : Option JSON :=
  let object := memory.devices.read device
  let dictionary := JSON.Fields.set [] "id" (.string object.id)
  let dictionary := dictionary.assign "friendlyName"
    ((memory.consolidated device).friendlyName.map .string)
  let dictionary := dictionary.assign "lastKnownIPAddress"
    (object.lastKnownIPAddress.map .string)
  let dictionary := dictionary.assign "lastSeenOnWifi"
    (object.lastSeenOnWifi.map .string)
  let dictionary := dictionary.set "lastConnected" (.number object.lastConnected)
  let dictionary := dictionary.set "lastDetection" (.number object.lastDetection)
  (setServices memory (memory.services device) []).map fun services =>
    .object (dictionary.set "services" (.object services))

/-- The record `updateDevice:` makes of an existing one. Services the device
does not have at the moment stay in it. -/
def updatedRecord (memory : Memory) (device : Ref ConnectableDevice)
    (storedDeviceInfo : JSON) : Option JSON :=
  let object := memory.devices.read device
  let dictionary := storedDeviceInfo.fields.assign "lastKnownIPAddress"
    (object.lastKnownIPAddress.map .string)
  let dictionary := dictionary.assign "lastSeenOnWifi"
    (object.lastSeenOnWifi.map .string)
  let dictionary := dictionary.set "lastConnected" (.number object.lastConnected)
  let dictionary := dictionary.set "lastDetection" (.number object.lastDetection)
  let servicesInfo := ((dictionary.value? "services").map JSON.fields).getD []
  (setServices memory (memory.services device) servicesInfo).map fun services =>
    .object (dictionary.set "services" (.object services))

def updateDevice (self : DefaultConnectableDeviceStore) (memory : Memory)
    (device : Ref ConnectableDevice) (now : TimeInterval) :
    Option DefaultConnectableDeviceStore :=
  let id := (memory.devices.read device).id
  if memory.hasServices device then
    match self.storedDeviceForUUID id with
    | none => some self
    | some storedDeviceInfo =>
        if storedDeviceInfo.isNull then some self
        else
          (updatedRecord memory device storedDeviceInfo).map fun deviceToStore =>
            let updated : DefaultConnectableDeviceStore :=
              { self with
                storedDevices := self.storedDevices.insert id deviceToStore
                activeDevices := self.activeDevices.insert id device }
            updated.store now
  else some self

def addDevice (self : DefaultConnectableDeviceStore) (memory : Memory)
    (device : Ref ConnectableDevice) (now : TimeInterval) :
    Option DefaultConnectableDeviceStore :=
  let id := (memory.devices.read device).id
  if memory.hasServices device then
    let activated := self.activate memory device
    match self.storedDevices.lookup id with
    | some _ => activated.updateDevice memory device now
    | none =>
        (jsonRepresentationForDevice memory device).map fun storedDevice =>
          let added : DefaultConnectableDeviceStore :=
            { activated with
              storedDevices := self.storedDevices.insert id storedDevice }
          added.store now
  else some self

/-- A device without services is not looked at, and `_activeDevices` keeps the
object. -/
def removeDevice (self : DefaultConnectableDeviceStore) (memory : Memory)
    (device : Ref ConnectableDevice) (now : TimeInterval) :
    DefaultConnectableDeviceStore :=
  if memory.hasServices device then
    let removed : DefaultConnectableDeviceStore :=
      { self with
        storedDevices :=
          self.storedDevices.erase (memory.devices.read device).id }
    removed.store now
  else self

/-- `removeAll` empties the table of records only. -/
def removeAll (self : DefaultConnectableDeviceStore) (now : TimeInterval) :
    DefaultConnectableDeviceStore :=
  let removed : DefaultConnectableDeviceStore := { self with storedDevices := ∅ }
  removed.store now

/-! ## What a lookup finds -/

/-- A record that `storedDeviceForUUID:` returns in some order. -/
def Answers (store : DefaultConnectableDeviceStore) (uuid : String)
    (record : JSON) : Prop :=
  ∃ key, store.storedDevices.lookup key = some record ∧
    (key = uuid ∨ store.storedDevices.lookup uuid = none ∧
      recordHasService uuid record = true)

theorem storedDeviceForUUID_answers {store : DefaultConnectableDeviceStore}
    {uuid : String} {record : JSON}
    (found : store.storedDeviceForUUID uuid = some record) :
    store.Answers uuid record := by
  rw [storedDeviceForUUID] at found
  cases keyed : store.storedDevices.lookup uuid with
  | some own =>
      rw [keyed, Option.some_or, Option.some.injEq] at found
      exact ⟨uuid, found ▸ keyed, .inl rfl⟩
  | none =>
      rw [keyed, Option.none_or] at found
      rcases Option.map_eq_some_iff.mp found with ⟨⟨key, _⟩, first, rfl⟩
      have held := Dictionary.firstWhere_some first
      exact ⟨key, held.1, .inr ⟨keyed, held.2⟩⟩

theorem activeDeviceForUUID_active {store : DefaultConnectableDeviceStore}
    {memory : Memory} {uuid : String} {device : Ref ConnectableDevice}
    (found : store.activeDeviceForUUID memory uuid = some device) :
    ∃ key, store.activeDevices.lookup key = some device := by
  rw [activeDeviceForUUID] at found
  cases keyed : store.activeDevices.lookup uuid with
  | some own =>
      rw [keyed, Option.some_or] at found
      exact ⟨uuid, found ▸ keyed⟩
  | none =>
      rw [keyed, Option.none_or] at found
      rcases Option.map_eq_some_iff.mp found with ⟨⟨key, _⟩, first, rfl⟩
      exact ⟨key, (Dictionary.firstWhere_some first).1⟩

/-! ## Records that can be read -/

/-- Every stored record can be read, so that neither the sweep nor a lookup
raises. -/
def HoldsRecords (store : DefaultConnectableDeviceStore) : Prop :=
  Dictionary.AllValues JSON.IsRecord store.storedDevices

theorem HoldsRecords.isNull_eq_false {store : DefaultConnectableDeviceStore}
    (records : store.HoldsRecords) {key : String} {record : JSON}
    (held : store.storedDevices.lookup key = some record) :
    record.isNull = false := by
  cases record with
  | null => cases (records key .null held).dictionary
  | _ => rfl

/-! ## What the operations leave in the tables -/

theorem load_activeDevices (file : DeviceStoreFile) (now : TimeInterval)
    (key : String) : (load file now).activeDevices.lookup key = none := by
  cases file <;> rfl

/-- The record of a key that an expiry scan leaves. -/
def surviving (store : DefaultConnectableDeviceStore) (now : TimeInterval)
    (key : String) : Option JSON :=
  (store.storedDevices.lookup key).filter fun record =>
    !overdue store.maxStoreDuration now record

theorem surviving_eq_some_iff {store : DefaultConnectableDeviceStore}
    {now : TimeInterval} {key : String} {record : JSON} :
    store.surviving now key = some record ↔
      store.storedDevices.lookup key = some record ∧
        overdue store.maxStoreDuration now record = false := by
  simp [surviving, Option.filter_eq_some_iff]

theorem overdue_eq_false_iff {maxStoreDuration now : TimeInterval} {record : JSON} :
    overdue maxStoreDuration now record = false ↔
      0 < record.numberAt "lastConnected" ∨
        now - record.numberAt "lastDetection" ≤ maxStoreDuration := by
  rw [overdue]
  simp only [Bool.and_eq_false_iff, decide_eq_false_iff_not, gt_iff_lt,
    Int.not_le, Int.not_lt]

theorem lookup_deleteOldUnusedDevices (store : DefaultConnectableDeviceStore)
    (now : TimeInterval) (key : String) :
    (store.deleteOldUnusedDevices now).storedDevices.lookup key =
      store.surviving now key := by
  rw [deleteOldUnusedDevices, Dictionary.lookup_eraseAll, surviving]
  cases held : store.storedDevices.lookup key with
  | none => simp
  | some record =>
      cases old : overdue store.maxStoreDuration now record <;>
        simp [Dictionary.mem_keysWhere_iff, Option.filter, held, old]

@[simp] theorem lookup_store (self : DefaultConnectableDeviceStore)
    (now : TimeInterval) (key : String) :
    (self.store now).storedDevices.lookup key = self.surviving now key :=
  lookup_deleteOldUnusedDevices self now key

@[simp] theorem store_activeDevices (self : DefaultConnectableDeviceStore)
    (now : TimeInterval) : (self.store now).activeDevices = self.activeDevices :=
  rfl

@[simp] theorem store_maxStoreDuration (self : DefaultConnectableDeviceStore)
    (now : TimeInterval) :
    (self.store now).maxStoreDuration = self.maxStoreDuration := rfl

theorem HoldsRecords.of_lookup {before after : DefaultConnectableDeviceStore}
    (records : before.HoldsRecords)
    (kept : ∀ key record, after.storedDevices.lookup key = some record →
      before.storedDevices.lookup key = some record) : after.HoldsRecords :=
  fun key record held => records key record (kept key record held)

theorem HoldsRecords.store {self : DefaultConnectableDeviceStore}
    (records : self.HoldsRecords) (now : TimeInterval) :
    (self.store now).HoldsRecords :=
  records.of_lookup fun key _ held =>
    (surviving_eq_some_iff.mp ((lookup_store self now key).symm.trans held)).1

theorem HoldsRecords.setMaxStoreDuration {self : DefaultConnectableDeviceStore}
    (records : self.HoldsRecords) (maxStoreDuration now : TimeInterval) :
    (self.setMaxStoreDuration maxStoreDuration now).HoldsRecords :=
  records.of_lookup fun key _ held =>
    (surviving_eq_some_iff.mp
      ((lookup_deleteOldUnusedDevices _ now key).symm.trans held)).1

theorem HoldsRecords.removeDevice {self : DefaultConnectableDeviceStore}
    (records : self.HoldsRecords) (memory : Memory)
    (device : Ref ConnectableDevice) (now : TimeInterval) :
    (self.removeDevice memory device now).HoldsRecords := by
  rw [DefaultConnectableDeviceStore.removeDevice]
  cases memory.hasServices device with
  | false => exact records
  | true =>
      have erased : HoldsRecords { self with
          storedDevices := self.storedDevices.erase (memory.devices.read device).id } :=
        Dictionary.AllValues.erase records _
      exact erased.store now

theorem holdsRecords_removeAll (self : DefaultConnectableDeviceStore)
    (now : TimeInterval) : (self.removeAll now).HoldsRecords := by
  have emptied : HoldsRecords { self with storedDevices := ∅ } :=
    Dictionary.allValues_empty _
  exact emptied.store now

theorem activate_storedDevices (store : DefaultConnectableDeviceStore)
    (memory : Memory) (device : Ref ConnectableDevice) :
    (store.activate memory device).storedDevices = store.storedDevices := by
  rw [activate]
  cases store.activeDevices.lookup (memory.devices.read device).id <;> rfl

theorem activate_maxStoreDuration (store : DefaultConnectableDeviceStore)
    (memory : Memory) (device : Ref ConnectableDevice) :
    (store.activate memory device).maxStoreDuration = store.maxStoreDuration := by
  rw [activate]
  cases store.activeDevices.lookup (memory.devices.read device).id <;> rfl

theorem storedDeviceForUUID_activate (store : DefaultConnectableDeviceStore)
    (memory : Memory) (device : Ref ConnectableDevice) (uuid : String) :
    (store.activate memory device).storedDeviceForUUID uuid =
      store.storedDeviceForUUID uuid := by
  rw [storedDeviceForUUID, storedDeviceForUUID, activate_storedDevices]

theorem surviving_activate (store : DefaultConnectableDeviceStore)
    (memory : Memory) (device : Ref ConnectableDevice) (now : TimeInterval)
    (key : String) :
    (store.activate memory device).surviving now key = store.surviving now key := by
  rw [surviving, surviving, activate_storedDevices, activate_maxStoreDuration]

theorem lookup_activate (store : DefaultConnectableDeviceStore)
    (memory : Memory) (device : Ref ConnectableDevice) (key : String) :
    (store.activate memory device).activeDevices.lookup key =
      if key = (memory.devices.read device).id then
        (store.activeDevices.lookup key).or (some device)
      else store.activeDevices.lookup key := by
  rw [activate]
  by_cases same : key = (memory.devices.read device).id
  · rw [← same, if_pos rfl]
    cases held : store.activeDevices.lookup key with
    | none => simp
    | some other => simpa using held
  · rw [if_neg same]
    cases store.activeDevices.lookup (memory.devices.read device).id with
    | none => rw [Dictionary.lookup_insert_eq, if_neg same]
    | some other => rfl

/-- The answers `deviceForId:` has: nothing, an object in use, or an object
restored from a record. -/
inductive ForId (store : DefaultConnectableDeviceStore) (memory : Memory)
    (guid : String) : Option String →
    Option (Ref ConnectableDevice) × Memory × DefaultConnectableDeviceStore →
      Prop
  | nothing {id : Option String} : ForId store memory guid id (none, memory, store)
  | inUse {uuid : String} {device : Ref ConnectableDevice}
      (filled : uuid.isEmpty = false)
      (active : store.activeDeviceForUUID memory uuid = some device) :
      ForId store memory guid (some uuid)
        (some device, memory, store.activate memory device)
  | restored {uuid : String} {record : JSON} (filled : uuid.isEmpty = false)
      (unused : store.activeDeviceForUUID memory uuid = none)
      (stored : store.storedDeviceForUUID uuid = some record) :
      ForId store memory guid (some uuid)
        (some memory.devices.fresh, memory.initWithJSONObject record guid,
          store.activate (memory.initWithJSONObject record guid)
            memory.devices.fresh)

theorem deviceForId_forId (store : DefaultConnectableDeviceStore)
    (memory : Memory) (id : Option String) (guid : String) :
    ForId store memory guid id (store.deviceForId memory id guid) := by
  cases id with
  | none => exact .nothing
  | some uuid =>
      cases filled : uuid.isEmpty with
      | true =>
          simp only [deviceForId, filled, if_true]
          exact .nothing
      | false =>
          cases active : store.activeDeviceForUUID memory uuid with
          | some device =>
              simp only [deviceForId, filled, active, Bool.false_eq_true, if_false]
              exact .inUse filled active
          | none =>
              cases stored : store.storedDeviceForUUID uuid with
              | none =>
                  simp only [deviceForId, filled, active, stored,
                    Bool.false_eq_true, if_false]
                  exact .nothing
              | some record =>
                  simp only [deviceForId, filled, active, stored,
                    Bool.false_eq_true, if_false]
                  exact .restored filled active stored

theorem deviceForId_storedDevices (store : DefaultConnectableDeviceStore)
    (memory : Memory) (id : Option String) (guid : String) :
    (store.deviceForId memory id guid).2.2.storedDevices = store.storedDevices := by
  have answer := store.deviceForId_forId memory id guid
  generalize store.deviceForId memory id guid = result at answer
  cases answer with
  | nothing => rfl
  | inUse _ _ => exact activate_storedDevices ..
  | restored _ _ _ => exact activate_storedDevices ..

/-! ## Records -/

theorem setServices_cons (memory : Memory) (service : DeviceService)
    (services : List DeviceService) (info : JSON.Fields) :
    setServices memory (service :: services) info =
      match memory.serviceUUID service with
      | none => none
      | some uuid =>
          setServices memory services (info.set uuid (memory.serviceJSON service)) := by
  rw [setServices, List.foldlM_cons]
  cases memory.serviceUUID service <;> rfl

theorem setServices_isSome_iff {memory : Memory} {services : List DeviceService}
    {info : JSON.Fields} :
    (setServices memory services info).isSome = true ↔
      ∀ service ∈ services, (memory.serviceUUID service).isSome = true := by
  induction services generalizing info with
  | nil => simp [setServices]
  | cons head tail induction =>
      rw [setServices_cons]
      cases identified : memory.serviceUUID head with
      | none => simp [identified]
      | some uuid => simp [identified, induction]

theorem setServices_other {memory : Memory} {services : List DeviceService}
    {info stored : JSON.Fields}
    (set : setServices memory services info = some stored) {uuid : String}
    (unused : ∀ service ∈ services, memory.serviceUUID service ≠ some uuid) :
    stored.value? uuid = info.value? uuid := by
  induction services generalizing info with
  | nil =>
      cases set
      rfl
  | cons head tail induction =>
      rw [setServices_cons] at set
      cases identified : memory.serviceUUID head with
      | none => simp [identified] at set
      | some used =>
          simp only [identified] at set
          have different : uuid ≠ used := fun same =>
            unused head (by simp) (by rw [identified, same])
          rw [induction set fun service member =>
            unused service (List.mem_cons_of_mem head member)]
          simp [different]

/-- Under the UUID of a service stands some service with that UUID: the last
one enumerated. -/
theorem setServices_value {memory : Memory} {services : List DeviceService}
    {info stored : JSON.Fields}
    (set : setServices memory services info = some stored)
    {service : DeviceService} (member : service ∈ services) {uuid : String}
    (identified : memory.serviceUUID service = some uuid) :
    ∃ last ∈ services, memory.serviceUUID last = some uuid ∧
      stored.value? uuid = some (memory.serviceJSON last) := by
  induction services generalizing info service with
  | nil => simp at member
  | cons head tail induction =>
      rw [setServices_cons] at set
      cases headIdentified : memory.serviceUUID head with
      | none => simp [headIdentified] at set
      | some used =>
          simp only [headIdentified] at set
          by_cases later : ∃ other ∈ tail, memory.serviceUUID other = some uuid
          · rcases later with ⟨other, otherMember, otherIdentified⟩
            rcases induction set otherMember otherIdentified with
              ⟨last, lastMember, found⟩
            exact ⟨last, List.mem_cons_of_mem head lastMember, found⟩
          · have unused : ∀ other ∈ tail, memory.serviceUUID other ≠ some uuid :=
              fun other otherMember same => later ⟨other, otherMember, same⟩
            rcases List.mem_cons.mp member with rfl | inTail
            · have same : used = uuid := by
                simpa [headIdentified] using identified
              subst same
              refine ⟨service, by simp, identified, ?_⟩
              rw [setServices_other set unused]
              simp
            · exact absurd identified (unused service inTail)

/-- What both serializers write of a device, on top of the services that were
there before. -/
structure RecordOf (memory : Memory) (device : Ref ConnectableDevice)
    (before : Option JSON) (record : JSON) : Prop where
  lastConnected : record.numberAt "lastConnected" =
    (memory.devices.read device).lastConnected
  lastDetection : record.numberAt "lastDetection" =
    (memory.devices.read device).lastDetection
  services : ∃ info stored,
    setServices memory (memory.services device) info = some stored ∧
      record.value? "services" = some (.object stored) ∧
      ∀ uuid value, info.value? uuid = some value →
        ∃ present, before = some present ∧ recordHasService uuid present = true
  isRecord : (∀ present, before = some present → present.IsRecord) →
    record.IsRecord

/-- What `toJSONObject` makes of a service is a dictionary, with a dictionary
for its configuration. -/
theorem value?_config_serviceJSON {memory : Memory} {service : DeviceService}
    {config : JSON}
    (under : (memory.serviceJSON service).value? "config" = some config) :
    config.isObject = true := by
  rw [Memory.serviceJSON, DeviceService.toJSONObject] at under
  cases written : service.serviceConfig with
  | none => simp [written] at under
  | some own =>
      simp only [written, Option.map_some, JSON.value?_object,
        JSON.Fields.value?_set, JSON.Fields.value?_setIfSome, String.reduceEq,
        if_false, if_true, Option.some_or, Option.some.injEq] at under
      rw [← under]
      exact own.isObject_toJSONObject

/-- Entries of services are written by `toJSONObject` or were there before. -/
theorem setServices_entry {memory : Memory} {services : List DeviceService}
    {info stored : JSON.Fields}
    (set : setServices memory services info = some stored) {uuid : String}
    {entry : JSON} (under : stored.value? uuid = some entry) :
    (∃ service ∈ services, entry = memory.serviceJSON service) ∨
      info.value? uuid = some entry := by
  by_cases own : ∃ service ∈ services, memory.serviceUUID service = some uuid
  · rcases own with ⟨service, member, identified⟩
    rcases setServices_value set member identified with ⟨last, inside, _, value⟩
    exact .inl ⟨last, inside, Option.some.inj (under.symm.trans value)⟩
  · have kept := setServices_other set fun service member identified =>
      own ⟨service, member, identified⟩
    exact .inr (kept.symm.trans under)

/-- What is written beside services that can be read can be read. -/
theorem isRecord_of_setServices {memory : Memory}
    {services : List DeviceService} {info stored : JSON.Fields}
    (set : setServices memory services info = some stored)
    (service : ∀ uuid entry, info.value? uuid = some entry →
      entry.isObject || entry.isNull)
    (config : ∀ uuid config,
      (info.value? uuid).bind (JSON.value? "config") = some config →
        config.isObject || config.isNull)
    {dictionary : JSON.Fields}
    (times : ∀ key ∈ ["lastConnected", "lastDetection"], ∀ time,
      dictionary.value? key = some time → time.isNumber || time.isNull) :
    (JSON.object (dictionary.set "services" (.object stored))).IsRecord := by
  constructor
  · rfl
  · intro key listed time under
    refine times key listed time ?_
    have apart : key ≠ "services" := by
      rintro rfl
      simp at listed
    rwa [JSON.value?_object, JSON.Fields.value?_set, if_neg apart] at under
  · intro services under
    rw [JSON.value?_object, JSON.Fields.value?_set, if_pos rfl,
      Option.some.injEq] at under
    rw [← under]
    rfl
  · intro uuid entry under
    rw [JSON.value?_object, JSON.Fields.value?_set, if_pos rfl] at under
    rcases setServices_entry set under with ⟨own, _, rfl⟩ | before
    · rfl
    · exact service uuid entry before
  · intro uuid written under
    rw [JSON.value?_object, JSON.Fields.value?_set, if_pos rfl,
      Option.bind_some] at under
    rcases Option.bind_eq_some_iff.mp under with ⟨entry, held, inside⟩
    rcases setServices_entry set held with ⟨own, _, rfl⟩ | before
    · rw [value?_config_serviceJSON inside]
      rfl
    · exact config uuid written (by rw [before]; exact inside)

theorem jsonRepresentationForDevice_recordOf {memory : Memory}
    {device : Ref ConnectableDevice} {record : JSON}
    (represented : jsonRepresentationForDevice memory device = some record)
    (before : Option JSON) : RecordOf memory device before record := by
  rcases Option.map_eq_some_iff.mp represented with ⟨stored, set, rfl⟩
  refine ⟨by simp [JSON.numberAt, JSON.doubleValue],
    by simp [JSON.numberAt, JSON.doubleValue], ⟨[], stored, set, by simp,
    fun uuid value impossible => by simp at impossible⟩, fun _ => ?_⟩
  refine isRecord_of_setServices set (fun _ _ impossible => by simp at impossible)
    (fun _ _ impossible => by simp at impossible) ?_
  intro key listed time under
  rcases List.mem_pair.mp listed with rfl | rfl
  · simp at under
    rw [← under]
    rfl
  · simp at under
    rw [← under]
    rfl

theorem updatedRecord_recordOf {memory : Memory} {device : Ref ConnectableDevice}
    {storedDeviceInfo record : JSON}
    (updated : updatedRecord memory device storedDeviceInfo = some record) :
    RecordOf memory device (some storedDeviceInfo) record := by
  rcases Option.map_eq_some_iff.mp updated with ⟨stored, set, rfl⟩
  have before : ∀ uuid, JSON.Fields.value?
      (((((((storedDeviceInfo.fields.assign "lastKnownIPAddress"
        ((memory.devices.read device).lastKnownIPAddress.map .string)).assign
          "lastSeenOnWifi"
            ((memory.devices.read device).lastSeenOnWifi.map .string)).set
          "lastConnected"
            (.number (memory.devices.read device).lastConnected)).set
          "lastDetection"
            (.number (memory.devices.read device).lastDetection)).value?
          "services").map JSON.fields).getD []) uuid =
      (storedDeviceInfo.value? "services").bind (JSON.value? uuid) := by
    intro uuid
    cases services : storedDeviceInfo.value? "services" with
    | none => simp [services]
    | some servicesInfo => simp [services]
  refine ⟨by simp [JSON.numberAt, JSON.doubleValue],
    by simp [JSON.numberAt, JSON.doubleValue], ⟨_, stored, set, by simp, ?_⟩, ?_⟩
  · intro uuid value present
    rw [before uuid] at present
    exact ⟨storedDeviceInfo, rfl, by rw [recordHasService, present]; rfl⟩
  · intro readable
    have earlier := readable storedDeviceInfo rfl
    refine isRecord_of_setServices set ?_ ?_ ?_
    · intro uuid entry under
      exact earlier.service uuid entry ((before uuid).symm.trans under)
    · intro uuid config under
      rw [before uuid] at under
      exact earlier.config uuid config under
    · intro key listed time under
      rcases List.mem_pair.mp listed with rfl | rfl
      · simp at under
        rw [← under]
        rfl
      · simp at under
        rw [← under]
        rfl

/-- A service in a record is the device's or was there before. -/
theorem RecordOf.hasService {memory : Memory} {device : Ref ConnectableDevice}
    {before : Option JSON} {record : JSON}
    (recordOf : RecordOf memory device before record) {uuid : String}
    (contains : recordHasService uuid record = true) :
    (∃ service ∈ memory.services device,
      memory.serviceUUID service = some uuid) ∨
      ∃ present, before = some present ∧ recordHasService uuid present = true := by
  rcases recordOf.services with ⟨info, stored, set, under, inherited⟩
  by_cases own : ∃ service ∈ memory.services device,
      memory.serviceUUID service = some uuid
  · exact .inl own
  · have kept := setServices_other set fun service member identified =>
      own ⟨service, member, identified⟩
    rw [recordHasService, under] at contains
    rcases Option.isSome_iff_exists.mp contains with ⟨value, held⟩
    exact .inr (inherited uuid value (kept.symm.trans held))

theorem RecordOf.overdue_eq_false_iff {memory : Memory}
    {device : Ref ConnectableDevice} {before : Option JSON} {record : JSON}
    (recordOf : RecordOf memory device before record)
    {maxStoreDuration now : TimeInterval} :
    overdue maxStoreDuration now record = false ↔
      0 < (memory.devices.read device).lastConnected ∨
        now - (memory.devices.read device).lastDetection ≤ maxStoreDuration := by
  rw [DefaultConnectableDeviceStore.overdue_eq_false_iff, recordOf.lastConnected,
    recordOf.lastDetection]

theorem RecordOf.ne_null {memory : Memory} {device : Ref ConnectableDevice}
    {before : Option JSON} {record : JSON}
    (recordOf : RecordOf memory device before record) : record ≠ .null := by
  rintro rfl
  rcases recordOf.services with ⟨_, _, _, impossible, _⟩
  cases impossible

/-- `after` has written the record of a device and expired the others. -/
structure Wrote (memory : Memory) (device : Ref ConnectableDevice)
    (now : TimeInterval) (before after : DefaultConnectableDeviceStore) :
    Prop where
  hasServices : memory.hasServices device = true
  maxStoreDuration : after.maxStoreDuration = before.maxStoreDuration
  active : ∀ key other, after.activeDevices.lookup key = some other →
    before.activeDevices.lookup key = some other ∨
      key = (memory.devices.read device).id ∧ other = device
  record : ∃ record, RecordOf memory device
      (before.storedDeviceForUUID (memory.devices.read device).id) record ∧
    ∀ key, after.storedDevices.lookup key =
      if key = (memory.devices.read device).id then
        (some record).filter fun record =>
          !overdue before.maxStoreDuration now record
      else before.surviving now key

/-- What is written is a record, and what survives was one. -/
theorem Wrote.holdsRecords {memory : Memory} {device : Ref ConnectableDevice}
    {now : TimeInterval} {before after : DefaultConnectableDeviceStore}
    (wrote : Wrote memory device now before after)
    (records : before.HoldsRecords) : after.HoldsRecords := by
  intro key record held
  rcases wrote.record with ⟨new, recordOf, lookup⟩
  rw [lookup] at held
  by_cases own : key = (memory.devices.read device).id
  · rw [if_pos own, Option.filter_eq_some_iff] at held
    cases held.1
    refine recordOf.isRecord fun present found => ?_
    rcases storedDeviceForUUID_answers found with ⟨place, stored, _⟩
    exact records place present stored
  · rw [if_neg own] at held
    exact records key record (surviving_eq_some_iff.mp held).1

theorem Wrote.of_insert {memory : Memory} {device : Ref ConnectableDevice}
    {now : TimeInterval} {before written : DefaultConnectableDeviceStore}
    (hasServices : memory.hasServices device = true) {record : JSON}
    (recordOf : RecordOf memory device
      (before.storedDeviceForUUID (memory.devices.read device).id) record)
    (maxStoreDuration : written.maxStoreDuration = before.maxStoreDuration)
    (active : ∀ key other, written.activeDevices.lookup key = some other →
      before.activeDevices.lookup key = some other ∨
        key = (memory.devices.read device).id ∧ other = device)
    (inserted : written.storedDevices =
      before.storedDevices.insert (memory.devices.read device).id record) :
    Wrote memory device now before (written.store now) where
  hasServices := hasServices
  maxStoreDuration := maxStoreDuration
  active := active
  record := by
    refine ⟨record, recordOf, fun key => ?_⟩
    rw [lookup_store, surviving, inserted, Dictionary.lookup_insert_eq,
      maxStoreDuration]
    by_cases same : key = (memory.devices.read device).id <;>
      simp [same, surviving]

/-- With a record to update, `updateDevice:` writes or raises. -/
theorem updateDevice_wrote {self after : DefaultConnectableDeviceStore}
    {memory : Memory} {device : Ref ConnectableDevice} {now : TimeInterval}
    (hasServices : memory.hasServices device = true) {storedDeviceInfo : JSON}
    (found : self.storedDeviceForUUID (memory.devices.read device).id =
      some storedDeviceInfo)
    (notNull : storedDeviceInfo.isNull = false)
    (updated : self.updateDevice memory device now = some after) :
    Wrote memory device now self after := by
  simp only [updateDevice, hasServices, if_true, found, notNull,
    Bool.false_eq_true, if_false] at updated
  rcases Option.map_eq_some_iff.mp updated with ⟨record, made, rfl⟩
  refine .of_insert hasServices (found ▸ updatedRecord_recordOf made) rfl ?_ rfl
  intro key other held
  rw [Dictionary.lookup_insert_eq] at held
  by_cases same : key = (memory.devices.read device).id
  · rw [if_pos same, Option.some.injEq] at held
    exact .inr ⟨same, held.symm⟩
  · rw [if_neg same] at held
    exact .inl held

theorem updateDevice_cases {self after : DefaultConnectableDeviceStore}
    {memory : Memory} {device : Ref ConnectableDevice} {now : TimeInterval}
    (updated : self.updateDevice memory device now = some after) :
    after = self ∨ Wrote memory device now self after ∧
      ∃ info, self.storedDeviceForUUID (memory.devices.read device).id = some info ∧
        info.isNull = false := by
  cases hasServices : memory.hasServices device with
  | false =>
      rw [updateDevice, hasServices, if_neg (by simp), Option.some.injEq] at updated
      exact .inl updated.symm
  | true =>
      cases found : self.storedDeviceForUUID (memory.devices.read device).id with
      | none =>
          rw [updateDevice, hasServices, if_pos rfl, found] at updated
          exact .inl (Option.some.inj updated).symm
      | some storedDeviceInfo =>
          cases null : storedDeviceInfo.isNull with
          | true =>
              simp only [updateDevice, hasServices, if_true, found, null,
                Option.some.injEq] at updated
              exact .inl updated.symm
          | false =>
              exact .inr ⟨updateDevice_wrote hasServices found null updated,
                storedDeviceInfo, rfl, null⟩

/-- An object that `activate` put there is the device itself. -/
theorem activate_active {store : DefaultConnectableDeviceStore} {memory : Memory}
    {device : Ref ConnectableDevice} {key : String}
    {other : Ref ConnectableDevice}
    (held : (store.activate memory device).activeDevices.lookup key = some other) :
    store.activeDevices.lookup key = some other ∨
      key = (memory.devices.read device).id ∧ other = device := by
  rw [lookup_activate] at held
  by_cases same : key = (memory.devices.read device).id
  · rw [if_pos same] at held
    cases before : store.activeDevices.lookup key with
    | none =>
        rw [before] at held
        exact .inr ⟨same, (Option.some.inj held).symm⟩
    | some present =>
        rw [before] at held
        exact .inl held
  · rw [if_neg same] at held
    exact .inl held

/-- What `updateDevice:` writes after `addDevice:` made the device active. -/
theorem Wrote.of_activate {memory : Memory} {device : Ref ConnectableDevice}
    {now : TimeInterval} {before after : DefaultConnectableDeviceStore}
    (wrote : Wrote memory device now (before.activate memory device) after) :
    Wrote memory device now before after where
  hasServices := wrote.hasServices
  maxStoreDuration := by
    rw [wrote.maxStoreDuration, activate_maxStoreDuration]
  active := fun key other held => by
    rcases wrote.active key other held with activated | own
    · exact activate_active activated
    · exact .inr own
  record := by
    rcases wrote.record with ⟨record, recordOf, lookup⟩
    rw [storedDeviceForUUID_activate] at recordOf
    refine ⟨record, recordOf, fun key => ?_⟩
    rw [lookup, activate_maxStoreDuration, surviving_activate]

theorem HoldsRecords.updateDevice {self after : DefaultConnectableDeviceStore}
    (records : self.HoldsRecords) {memory : Memory}
    {device : Ref ConnectableDevice} {now : TimeInterval}
    (updated : self.updateDevice memory device now = some after) :
    after.HoldsRecords := by
  rcases updateDevice_cases updated with rfl | ⟨wrote, _⟩
  · exact records
  · exact wrote.holdsRecords records

/-- Without a record, `addDevice:` writes a new one or raises. -/
theorem addDevice_wrote {self after : DefaultConnectableDeviceStore}
    {memory : Memory} {device : Ref ConnectableDevice} {now : TimeInterval}
    (hasServices : memory.hasServices device = true)
    (unstored : self.storedDevices.lookup (memory.devices.read device).id = none)
    (added : self.addDevice memory device now = some after) :
    Wrote memory device now self after := by
  simp only [addDevice, hasServices, if_true, unstored] at added
  rcases Option.map_eq_some_iff.mp added with ⟨record, made, rfl⟩
  exact .of_insert hasServices (jsonRepresentationForDevice_recordOf made _)
    (activate_maxStoreDuration self memory device)
    (fun _ _ => activate_active) rfl

theorem addDevice_of_stored {self : DefaultConnectableDeviceStore}
    {memory : Memory} {device : Ref ConnectableDevice} {now : TimeInterval}
    (hasServices : memory.hasServices device = true) {storedDevice : JSON}
    (stored : self.storedDevices.lookup (memory.devices.read device).id =
      some storedDevice) :
    self.addDevice memory device now =
      (self.activate memory device).updateDevice memory device now := by
  simp only [addDevice, hasServices, if_true, stored]

theorem addDevice_cases {self after : DefaultConnectableDeviceStore}
    {memory : Memory} {device : Ref ConnectableDevice} {now : TimeInterval}
    (added : self.addDevice memory device now = some after) :
    after = self ∨ after = self.activate memory device ∨
      Wrote memory device now self after := by
  cases hasServices : memory.hasServices device with
  | false =>
      rw [addDevice, hasServices, if_neg (by simp), Option.some.injEq] at added
      exact .inl added.symm
  | true =>
      cases stored : self.storedDevices.lookup (memory.devices.read device).id with
      | none => exact .inr (.inr (addDevice_wrote hasServices stored added))
      | some storedDevice =>
          rw [addDevice_of_stored hasServices stored] at added
          rcases updateDevice_cases added with unchanged | ⟨wrote, _⟩
          · exact .inr (.inl unchanged)
          · exact .inr (.inr wrote.of_activate)

theorem HoldsRecords.addDevice {self after : DefaultConnectableDeviceStore}
    (records : self.HoldsRecords) {memory : Memory}
    {device : Ref ConnectableDevice} {now : TimeInterval}
    (added : self.addDevice memory device now = some after) :
    after.HoldsRecords := by
  rcases addDevice_cases added with rfl | rfl | wrote
  · exact records
  · rw [HoldsRecords, activate_storedDevices]
    exact records
  · exact wrote.holdsRecords records

end DefaultConnectableDeviceStore

end ConnectSDK
