import ConnectSDK.Foundation.Run
import ConnectSDK.Devices.DefaultConnectableDeviceStore

/-! # The discovery manager

`DiscoveryManager` keeps every device it found, and of these the ones that pass
the capability filters, in two dictionaries keyed by IP address. Discovery
providers and device services report to it; it reports to its delegate and to
the device picker. An event that raises an exception returns `none`.
-/

namespace ConnectSDK

/-- A message to the delegate or to the picker. -/
inductive DeviceNotification where
  | didFindDevice (device : Ref ConnectableDevice)
  | didUpdateDevice (device : Ref ConnectableDevice)
  | didLoseDevice (device : Ref ConnectableDevice)
deriving DecidableEq

/-- The manager, with what its delegate and its picker have been sent. A
capability filter is its list of capabilities. -/
structure DiscoveryManager where
  memory : Memory
  allDevices : Dictionary String (Ref ConnectableDevice) := ∅
  compatibleDevices : Dictionary String (Ref ConnectableDevice) := ∅
  capabilityFilters : List (List String) := []
  deviceClasses : Dictionary String DeviceServiceClass := ∅
  useDeviceStore : Bool := true
  deviceStore : Option DefaultConnectableDeviceStore := none
  currentSSID : Option String := none
  delegate : Bool := true
  currentPicker : Bool := false
  delegateReceived : List DeviceNotification := []
  pickerReceived : List DeviceNotification := []

inductive DiscoveryEvent where
  | didFindService (description : ServiceDescription)
      (capabilities : List String) (now : TimeInterval) (guid : String)
  | didLoseService (description : ServiceDescription) (now : TimeInterval)
  | setCapabilityFilters (capabilityFilters : List (List String))
  | detectSSIDChange (ssidName : String)
  | capabilitiesChanged (device : Ref ConnectableDevice) (serviceName : String)
      (added removed : List String) (now : TimeInterval)
  | devicePicker
  | setDeviceStore (deviceStore : Option DefaultConnectableDeviceStore)

namespace DiscoveryManager

/-! ## Notifications -/

def notifyDelegate (manager : DiscoveryManager)
    (notification : DeviceNotification) : DiscoveryManager :=
  if manager.delegate then
    { manager with
      delegateReceived := manager.delegateReceived ++ [notification] }
  else manager

def notifyPicker (manager : DiscoveryManager) (notification : DeviceNotification) :
    DiscoveryManager :=
  if manager.currentPicker then
    { manager with pickerReceived := manager.pickerReceived ++ [notification] }
  else manager

def notify (manager : DiscoveryManager) (notification : DeviceNotification) :
    DiscoveryManager :=
  (manager.notifyDelegate notification).notifyPicker notification

/-- The `devicePicker` accessor, which creates the picker. -/
def devicePicker (manager : DiscoveryManager) : DiscoveryManager :=
  if manager.currentPicker then manager
  else
    { manager with
      currentPicker := true
      pickerReceived :=
        manager.compatibleDevices.values.map DeviceNotification.didFindDevice }

/-! ## Device lists -/

def deviceIsCompatible (manager : DiscoveryManager)
    (device : Ref ConnectableDevice) : Bool :=
  manager.capabilityFilters.isEmpty ||
    manager.capabilityFilters.any (manager.memory.hasCapabilities device)

/-- `descriptionIsNetcastTV:`. A nil `modelDescription` has the empty range at
location 0, not `NSNotFound`. -/
def descriptionIsNetcastTV (description : ServiceDescription) : Bool :=
  description.modelName.any (fun name => name.toUpper == "LG TV") &&
    description.modelDescription.any (fun text =>
      (rangeOfString "WEBOS".toList text.toUpper.toList).isNone) &&
    description.serviceId == some "Netcast TV"

/-- A device without an address cannot be a key: the call raises. -/
def handleDeviceAdd (manager : DiscoveryManager) (device : Ref ConnectableDevice) :
    Option DiscoveryManager :=
  if manager.deviceIsCompatible device then
    match manager.memory.address device with
    | none => none
    | some address =>
        some (notify
          { manager with
            compatibleDevices := manager.compatibleDevices.insert address device }
          (.didFindDevice device))
  else some manager

def handleDeviceLoss (manager : DiscoveryManager)
    (device : Ref ConnectableDevice) : DiscoveryManager :=
  manager.notify (.didLoseDevice device)

/-- `[self.deviceStore updateDevice:device]`. -/
def updateDeviceStore (manager : DiscoveryManager)
    (device : Ref ConnectableDevice) (now : TimeInterval) :
    Option DiscoveryManager :=
  match manager.deviceStore with
  | none => some manager
  | some deviceStore =>
      (deviceStore.updateDevice manager.memory device now).map fun updated =>
        { manager with deviceStore := some updated }

/-- `handleDeviceUpdate:` after the store was called. -/
def refreshDevice (manager : DiscoveryManager) (device : Ref ConnectableDevice) :
    Option DiscoveryManager :=
  if manager.deviceIsCompatible device then
    match (manager.memory.address device).bind manager.compatibleDevices.lookup with
    | some _ => some (manager.notify (.didUpdateDevice device))
    | none => manager.handleDeviceAdd device
  else
    match manager.memory.address device with
    | none => none
    | some address =>
        some (handleDeviceLoss
          { manager with
            compatibleDevices := manager.compatibleDevices.erase address } device)

def handleDeviceUpdate (manager : DiscoveryManager)
    (device : Ref ConnectableDevice) (now : TimeInterval) :
    Option DiscoveryManager :=
  (manager.updateDeviceStore device now).bind fun updated =>
    updated.refreshDevice device

/-! ## Discovery -/

/-- Whether `addServiceDescription:toDevice:` gets past its first checks. -/
def acceptsDescription (manager : DiscoveryManager)
    (description : ServiceDescription) : Bool :=
  match description.serviceId.bind manager.deviceClasses.lookup with
  | some .dlnaService => description.locationXML.isSome
  | some .netcastTVService => descriptionIsNetcastTV description
  | _ => true

/-- The memory after `addServiceDescription:toDevice:`. `capabilities` are
those the service computes for itself. -/
def addServiceDescription (manager : DiscoveryManager)
    (description : Ref ServiceDescription) (device : Ref ConnectableDevice)
    (capabilities : List String) (now : TimeInterval) : Option Memory :=
  let found := manager.memory.descriptions.read description
  if manager.acceptsDescription found then
    let stored :=
      if manager.useDeviceStore then
        manager.deviceStore.bind fun deviceStore =>
          deviceStore.serviceConfigForUUID found.uuid
      else none
    manager.memory.registerService device
      (found.serviceId.bind manager.deviceClasses.lookup)
      (stored.getD (.initWithServiceDescription found now))
      description capabilities
  else some manager.memory

/-- `[self.deviceStore deviceForId:UUID]` if the store is used. -/
def storedDevice (manager : DiscoveryManager) (uuid : Option String)
    (guid : String) : Option (Ref ConnectableDevice) × DiscoveryManager :=
  match manager.useDeviceStore, manager.deviceStore with
  | true, some deviceStore =>
      let (device, memory, deviceStore) :=
        deviceStore.deviceForId manager.memory uuid guid
      (device, { manager with memory, deviceStore := some deviceStore })
  | _, _ => (none, manager)

/-- A device that was found, and whether it is new at its address. -/
structure FoundDevice where
  device : Ref ConnectableDevice
  deviceIsNew : Bool
  manager : DiscoveryManager

/-- The first part of `didFindService:`: the device at the address, the one the
store knows, or a new one made for the description. -/
def findDevice (manager : DiscoveryManager) (address : String)
    (description : Ref ServiceDescription) (uuid : Option String)
    (guid : String) : FoundDevice :=
  match manager.allDevices.lookup address with
  | some device => { device, deviceIsNew := false, manager }
  | none =>
      match manager.storedDevice uuid guid with
      | (some device, manager) =>
          { device
            deviceIsNew := true
            manager := { manager with
              allDevices := manager.allDevices.insert address device } }
      | (none, manager) =>
          let device := manager.memory.devices.fresh
          { device
            deviceIsNew := true
            manager := { manager with
              memory := manager.memory.initWithDescription description guid
              allDevices := manager.allDevices.insert address device } }

/-- `didFindService:` up to the service's registration. -/
def registerFound (manager : DiscoveryManager) (address : String)
    (description : ServiceDescription) (capabilities : List String)
    (now : TimeInterval) (guid : String) : Option FoundDevice :=
  let reference := manager.memory.descriptions.fresh
  let found := findDevice
    { manager with memory := manager.memory.allocateDescription description }
    address reference description.uuid guid
  let detected := found.manager.memory.modifyDevice found.device fun object =>
    { object with
      lastDetection := now
      lastKnownIPAddress := some address
      lastSeenOnWifi := manager.currentSSID }
  (addServiceDescription { found.manager with memory := detected } reference
    found.device capabilities now).map fun memory =>
      { found with manager := { found.manager with memory } }

/-- The rest of `didFindService:`. A non-LG DLNA TV has got no service. -/
def reportFound (found : FoundDevice) (address : String) (now : TimeInterval) :
    Option DiscoveryManager :=
  if found.manager.memory.hasServices found.device then
    if found.deviceIsNew then found.manager.handleDeviceAdd found.device
    else found.manager.handleDeviceUpdate found.device now
  else
    some { found.manager with
      allDevices := found.manager.allDevices.erase address }

/-- `discoveryProvider:didFindService:`. A description without an address cannot
be filed in `_allDevices`: the call raises. -/
def didFindService (manager : DiscoveryManager) (description : ServiceDescription)
    (capabilities : List String) (now : TimeInterval) (guid : String) :
    Option DiscoveryManager :=
  match description.address with
  | none => none
  | some address =>
      (manager.registerFound address description capabilities now guid).bind
        fun found => reportFound found address now

/-- `[device removeServiceWithId:description.serviceId]`. -/
def removeService (manager : DiscoveryManager) (device : Ref ConnectableDevice)
    (serviceId : Option String) : DiscoveryManager :=
  match serviceId with
  | none => manager
  | some serviceId =>
      { manager with
        memory := manager.memory.removeServiceWithId device serviceId }

/-- What `didLoseService:` does to the device at an address. -/
def loseService (manager : DiscoveryManager) (address : String)
    (device : Ref ConnectableDevice) (serviceId : Option String)
    (now : TimeInterval) : Option DiscoveryManager :=
  let removed := manager.removeService device serviceId
  if removed.memory.hasServices device then removed.handleDeviceUpdate device now
  else
    some (handleDeviceLoss
      { removed with
        allDevices := removed.allDevices.erase address
        compatibleDevices := removed.compatibleDevices.erase address } device)

/-- `discoveryProvider:didLoseService:`. -/
def didLoseService (manager : DiscoveryManager) (description : ServiceDescription)
    (now : TimeInterval) : Option DiscoveryManager :=
  match description.address with
  | none => some manager
  | some address =>
      match manager.allDevices.lookup address with
      | none => some manager
      | some device =>
          manager.loseService address device description.serviceId now

/-! ## Filters, networks and capabilities -/

/-- The second half of `setCapabilityFilters:` for one device. It reports to
the delegate only. -/
def admitDevice (manager : DiscoveryManager) (device : Ref ConnectableDevice) :
    Option DiscoveryManager :=
  if manager.deviceIsCompatible device then
    match manager.memory.address device with
    | none => none
    | some address =>
        some (notifyDelegate
          { manager with
            compatibleDevices := manager.compatibleDevices.insert address device }
          (.didFindDevice device))
  else some manager

/-- `[self.delegate discoveryManager:self didLoseDevice:device]` for each
compatible device. -/
def loseCompatibleDevices (manager : DiscoveryManager) : DiscoveryManager :=
  manager.compatibleDevices.values.foldl
    (fun manager device => manager.notifyDelegate (.didLoseDevice device)) manager

def setCapabilityFilters (manager : DiscoveryManager)
    (capabilityFilters : List (List String)) : Option DiscoveryManager :=
  let lost := loseCompatibleDevices { manager with capabilityFilters }
  lost.allDevices.values.foldlM (fun manager device => manager.admitDevice device)
    { lost with compatibleDevices := ∅ }

/-- `purgeDeviceList`. It asks `devicePicker`, which creates one. -/
def purgeDeviceList (manager : DiscoveryManager) : DiscoveryManager :=
  let purged := manager.compatibleDevices.values.foldl (fun manager device =>
    (manager.notifyDelegate (.didLoseDevice device)).devicePicker.notifyPicker
      (.didLoseDevice device)) manager
  { purged with allDevices := ∅, compatibleDevices := ∅ }

def detectSSIDChange (manager : DiscoveryManager) (ssidName : String) :
    DiscoveryManager :=
  match manager.currentSSID with
  | none => { manager with currentSSID := some ssidName }
  | some currentSSID =>
      if ssidName.toLower = currentSSID.toLower then manager
      else { manager.purgeDeviceList with currentSSID := some ssidName }

/-- A service of a device adds and removes capabilities of its own. A service
that the device does not hold any more changes nothing the device shows. -/
def changeCapabilities (manager : DiscoveryManager)
    (device : Ref ConnectableDevice) (serviceName : String)
    (added removed : List String) : DiscoveryManager :=
  match (manager.memory.devices.read device).services.lookup serviceName with
  | none => manager
  | some service =>
      let changed : DeviceService :=
        { service with
          capabilities := DeviceService.removeCapabilities removed
            (DeviceService.addCapabilities added service.capabilities) }
      { manager with
        memory := manager.memory.modifyDevice device fun object =>
          { object with services := object.services.insert serviceName changed } }

/-- `deviceService:capabilitiesAdded:removed:` of the device reaches
`connectableDevice:capabilitiesAdded:removed:` of the manager, at once or, with
nothing left to add or remove, later. -/
def capabilitiesChanged (manager : DiscoveryManager)
    (device : Ref ConnectableDevice) (serviceName : String)
    (added removed : List String) (now : TimeInterval) :
    Option DiscoveryManager :=
  (manager.changeCapabilities device serviceName added removed).handleDeviceUpdate
    device now

/-! ## Runs -/

def setDeviceStore (manager : DiscoveryManager)
    (deviceStore : Option DefaultConnectableDeviceStore) : DiscoveryManager :=
  { manager with deviceStore, useDeviceStore := deviceStore.isSome }

def step (manager : DiscoveryManager) : DiscoveryEvent → Option DiscoveryManager
  | .didFindService description capabilities now guid =>
      manager.didFindService description capabilities now guid
  | .didLoseService description now => manager.didLoseService description now
  | .setCapabilityFilters capabilityFilters =>
      manager.setCapabilityFilters capabilityFilters
  | .detectSSIDChange ssidName => some (manager.detectSSIDChange ssidName)
  | .capabilitiesChanged device serviceName added removed now =>
      manager.capabilitiesChanged device serviceName added removed now
  | .devicePicker => some manager.devicePicker
  | .setDeviceStore deviceStore => some (manager.setDeviceStore deviceStore)

end DiscoveryManager

end ConnectSDK
