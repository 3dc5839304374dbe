import ConnectSDK.Devices.DefaultConnectableDeviceStore

/-! # Records of devices

A device and the store each write a record of it, and one decoder reads both. The record
has the friendly name, which the decoder does not read.
-/

namespace ConnectSDK

namespace Memory

/-- `-[ConnectableDevice toJSONObject]`. A service without a UUID raises. -/
def toJSONObject (memory : Memory) (device : Ref ConnectableDevice) : Option JSON :=
  let object := memory.devices.read device
  let jsonObject := JSON.Fields.set [] "id" (.string object.id)
  let jsonObject := jsonObject.setIfSome "friendlyName"
    ((memory.consolidated device).friendlyName.map .string)
  let jsonObject := jsonObject.setIfSome "lastKnownIPAddress"
    (object.lastKnownIPAddress.map .string)
  let jsonObject := jsonObject.setIfSome "lastSeenOnWifi"
    (object.lastSeenOnWifi.map .string)
  let jsonObject :=
    jsonObject.setIfSome "lastConnected" (JSON.ofNonzero object.lastConnected)
  let jsonObject :=
    jsonObject.setIfSome "lastDetection" (JSON.ofNonzero object.lastDetection)
  (DefaultConnectableDeviceStore.setServices memory (memory.services device) []).map
    fun services =>
      .object (if services.isEmpty then jsonObject
        else jsonObject.set "services" (.object services))

/-- What the decoder looks for in a record, as the device has it. -/
structure RecordHolds (object : ConnectableDevice) (record : JSON) : Prop where
  id : (record.value? "id").bind JSON.string? = some object.id
  lastKnownIPAddress :
    (record.value? "lastKnownIPAddress").bind JSON.string? = object.lastKnownIPAddress
  lastSeenOnWifi :
    (record.value? "lastSeenOnWifi").bind JSON.string? = object.lastSeenOnWifi
  lastConnected : record.numberAt "lastConnected" = object.lastConnected
  lastDetection : record.numberAt "lastDetection" = object.lastDetection

/-- A device in another state of the memory is the device again, at its last address. -/
structure SameDevice (memory : Memory) (device : Ref ConnectableDevice) (later : Memory)
    (restored : Ref ConnectableDevice) : Prop where
  id : (later.devices.read restored).id = (memory.devices.read device).id
  friendlyName :
    (later.consolidated restored).friendlyName = (memory.consolidated device).friendlyName
  lastKnownIPAddress : (later.devices.read restored).lastKnownIPAddress =
    (memory.devices.read device).lastKnownIPAddress
  lastSeenOnWifi : (later.devices.read restored).lastSeenOnWifi =
    (memory.devices.read device).lastSeenOnWifi
  lastConnected : (later.devices.read restored).lastConnected =
    (memory.devices.read device).lastConnected
  lastDetection : (later.devices.read restored).lastDetection =
    (memory.devices.read device).lastDetection
  address : later.address restored = (memory.devices.read device).lastKnownIPAddress

/-- The record could be written, and the device decoded from it is the same. -/
def Restores (memory : Memory) (device : Ref ConnectableDevice) (guid : String)
    (record : Option JSON) : Prop :=
  ∃ json, record = some json ∧
    SameDevice memory device (memory.initWithJSONObject json guid) memory.devices.fresh

/-- Every service of the device can be a key of a record. -/
def ServicesIdentified (memory : Memory) (device : Ref ConnectableDevice) : Prop :=
  ∀ service ∈ memory.services device, (memory.serviceUUID service).isSome = true

theorem numberAt_ofNonzero (value : Int) :
    ((JSON.ofNonzero value).map JSON.doubleValue).getD 0 = value := by
  rw [JSON.ofNonzero]
  split
  · rename_i zero
    exact zero.symm
  · rfl

theorem toJSONObject_holds {memory : Memory} {device : Ref ConnectableDevice}
    {record : JSON} (written : memory.toJSONObject device = some record) :
    RecordHolds (memory.devices.read device) record := by
  rcases Option.map_eq_some_iff.mp written with ⟨services, _, rfl⟩
  constructor <;> split <;>
    simp [JSON.numberAt, numberAt_ofNonzero]

theorem jsonRepresentationForDevice_holds {memory : Memory}
    {device : Ref ConnectableDevice} {record : JSON}
    (written : DefaultConnectableDeviceStore.jsonRepresentationForDevice memory device =
      some record) : RecordHolds (memory.devices.read device) record := by
  rcases Option.map_eq_some_iff.mp written with ⟨services, _, rfl⟩
  constructor <;> simp [JSON.numberAt, JSON.doubleValue]

/-- The decoded device has everything but a friendly name. -/
theorem sameDevice_iff {memory : Memory} {device : Ref ConnectableDevice} {record : JSON}
    (holds : RecordHolds (memory.devices.read device) record) (guid : String) :
    SameDevice memory device (memory.initWithJSONObject record guid) memory.devices.fresh ↔
      (memory.consolidated device).friendlyName = none := by
  have object : (memory.initWithJSONObject record guid).devices.read memory.devices.fresh =
      { id := (memory.devices.read device).id
        serviceDescription := memory.descriptions.fresh
        lastKnownIPAddress := (memory.devices.read device).lastKnownIPAddress
        lastSeenOnWifi := (memory.devices.read device).lastSeenOnWifi
        lastConnected := (memory.devices.read device).lastConnected
        lastDetection := (memory.devices.read device).lastDetection } := by
    have lastConnected := holds.lastConnected
    have lastDetection := holds.lastDetection
    rw [JSON.numberAt] at lastConnected lastDetection
    simp only [initWithJSONObject, Heap.read_allocate_fresh, holds.id,
      holds.lastKnownIPAddress, holds.lastSeenOnWifi, lastConnected, lastDetection,
      Option.getD_some]
  have consolidated : (memory.initWithJSONObject record guid).consolidated
        memory.devices.fresh =
      { address := (memory.devices.read device).lastKnownIPAddress } := by
    rw [Memory.consolidated, object]
    simp only [initWithJSONObject, Heap.read_allocate_fresh, holds.lastKnownIPAddress]
  constructor
  · intro same
    rw [← same.friendlyName, consolidated]
  · intro unnamed
    constructor
    case friendlyName => rw [consolidated, unnamed]
    case address => rw [Memory.address, consolidated]
    all_goals rw [object]

/-- A record restores the device if it could be written and there is no name to lose. -/
theorem restores_iff {memory : Memory} {device : Ref ConnectableDevice} {guid : String}
    {record : Option JSON}
    (written : record.isSome = true ↔ memory.ServicesIdentified device)
    (holds : ∀ json, record = some json →
      RecordHolds (memory.devices.read device) json) :
    memory.Restores device guid record ↔
      (memory.consolidated device).friendlyName = none ∧
        memory.ServicesIdentified device := by
  constructor
  · intro restores
    rcases restores with ⟨json, rfl, same⟩
    exact ⟨(sameDevice_iff (holds json rfl) guid).mp same, written.mp rfl⟩
  · intro condition
    rcases condition with ⟨unnamed, identified⟩
    rcases Option.isSome_iff_exists.mp (written.mpr identified) with ⟨json, rfl⟩
    exact ⟨json, rfl, (sameDevice_iff (holds json rfl) guid).mpr unnamed⟩

/-- Either record gives the device back exactly when it has no friendly name and the UUIDs
that its services are recorded by. -/
theorem records_restore_iff (memory : Memory) (device : Ref ConnectableDevice)
    (guid : String) :
    (memory.Restores device guid (memory.toJSONObject device) ↔
      (memory.consolidated device).friendlyName = none ∧
        memory.ServicesIdentified device) ∧
    (memory.hasServices device = true →
      (memory.Restores device guid
          (DefaultConnectableDeviceStore.jsonRepresentationForDevice memory device) ↔
        (memory.consolidated device).friendlyName = none ∧
          memory.ServicesIdentified device)) := by
  constructor
  · refine restores_iff ?_ fun json => toJSONObject_holds
    rw [toJSONObject, Option.isSome_map]
    exact DefaultConnectableDeviceStore.setServices_isSome_iff
  · intro _
    refine restores_iff ?_ fun json => jsonRepresentationForDevice_holds
    rw [DefaultConnectableDeviceStore.jsonRepresentationForDevice, Option.isSome_map]
    exact DefaultConnectableDeviceStore.setServices_isSome_iff

/-- A television with one service. -/
def televisionMemory (friendlyName : Option String) : Memory where
  descriptions := (Heap.empty {}).allocate
    { address := some "10.0.0.7", serviceId := some "DLNA", uuid := some "ssdp"
      friendlyName }
  devices := (Heap.empty { id := "", serviceDescription := ⟨0⟩ }).allocate
    { id := "tv", serviceDescription := ⟨0⟩
      services := AList.insert "DLNA"
        { serviceClass := .dlnaService, serviceDescription := ⟨0⟩ } ∅
      lastKnownIPAddress := some "10.0.0.7", lastConnected := 5, lastDetection := 7 }

theorem records_restore_television :
    (televisionMemory none).Restores ⟨0⟩ "guid"
        ((televisionMemory none).toJSONObject ⟨0⟩) ∧
      (televisionMemory none).Restores ⟨0⟩ "guid"
        (DefaultConnectableDeviceStore.jsonRepresentationForDevice (televisionMemory none)
          ⟨0⟩) := by
  have unnamed : ((televisionMemory none).consolidated ⟨0⟩).friendlyName = none := rfl
  have identified : (televisionMemory none).ServicesIdentified ⟨0⟩ := by
    intro service member
    have only := List.mem_singleton.mp member
    rw [only]
    rfl
  have restore := records_restore_iff (televisionMemory none) ⟨0⟩ "guid"
  exact ⟨restore.1.mpr ⟨unnamed, identified⟩,
    (restore.2 (by decide)).mpr ⟨unnamed, identified⟩⟩

/-- A television that told its name is restored without it. -/
theorem friendlyName_lost :
    ¬ ∀ (memory : Memory) (device : Ref ConnectableDevice) (guid : String),
      memory.ServicesIdentified device →
      memory.Restores device guid (memory.toJSONObject device) := by
  intro always
  have identified : (televisionMemory (some "Living room")).ServicesIdentified ⟨0⟩ := by
    intro service member
    have only := List.mem_singleton.mp member
    rw [only]
    rfl
  rcases always (televisionMemory (some "Living room")) ⟨0⟩ "guid" identified with
    ⟨json, written, same⟩
  have unnamed := (sameDevice_iff (toJSONObject_holds written) "guid").mp same
  exact absurd unnamed (by decide)

end Memory

end ConnectSDK
