import ConnectSDK.Foundation.Dictionary
import ConnectSDK.Services.DeviceService

/-! # Connectable devices

Devices and service descriptions are mutable objects that several owners point
to: a device starts out with the description object of its first service, and
the dictionaries of `DiscoveryManager` and of the device store share devices.
`Memory` is the heap of both.
-/

namespace ConnectSDK

structure ConnectableDevice where
  id : String
  serviceDescription : Ref ServiceDescription
  services : Dictionary String DeviceService := ∅
  lastKnownIPAddress : Option String := none
  lastSeenOnWifi : Option String := none
  lastConnected : TimeInterval := 0
  lastDetection : TimeInterval := 0

structure Memory where
  descriptions : Heap ServiceDescription
  devices : Heap ConnectableDevice

namespace Memory

def empty : Memory where
  descriptions := .empty {}
  devices := .empty { id := "", serviceDescription := ⟨0⟩ }

/-- The consolidated description of a device. -/
def consolidated (memory : Memory) (device : Ref ConnectableDevice) :
    ServiceDescription :=
  memory.descriptions.read (memory.devices.read device).serviceDescription

def address (memory : Memory) (device : Ref ConnectableDevice) : Option String :=
  (memory.consolidated device).address

def services (memory : Memory) (device : Ref ConnectableDevice) :
    List DeviceService :=
  (memory.devices.read device).services.values

/-- `_services.count > 0`. -/
def hasServices (memory : Memory) (device : Ref ConnectableDevice) : Bool :=
  !(memory.services device).isEmpty

def serviceName (memory : Memory) (service : DeviceService) : Option String :=
  (memory.descriptions.read service.serviceDescription).serviceId

def serviceUUID (memory : Memory) (service : DeviceService) : Option String :=
  (memory.descriptions.read service.serviceDescription).uuid

def serviceJSON (memory : Memory) (service : DeviceService) : JSON :=
  service.toJSONObject (memory.descriptions.read service.serviceDescription)

def hasCapability (memory : Memory) (device : Ref ConnectableDevice)
    (capability : String) : Bool :=
  (memory.services device).any fun service =>
    DeviceService.hasCapability service.capabilities capability

def hasCapabilities (memory : Memory) (device : Ref ConnectableDevice)
    (capabilities : List String) : Bool :=
  capabilities.all (memory.hasCapability device)

/-- `connected`: as many services as there are need no connection or have
one. -/
def connected (memory : Memory) (device : Ref ConnectableDevice) : Bool :=
  let connectedCount := (memory.services device).countP fun service =>
    !service.isConnectable || service.connected
  decide ((memory.services device).length ≤ connectedCount)

/-! ## Creation -/

def allocateDescription (memory : Memory) (description : ServiceDescription) :
    Memory :=
  { memory with descriptions := memory.descriptions.allocate description }

/-- `connectableDeviceWithDescription:`. The new device is
`memory.devices.fresh`; its id is random. -/
def initWithDescription (memory : Memory) (description : Ref ServiceDescription)
    (guid : String) : Memory :=
  { memory with
    devices := memory.devices.allocate
      { id := guid, serviceDescription := description } }

/-- `initWithJSONObject:` on a stored record, which is a dictionary, into a fresh
device with a fresh description. A record without an id gets a random one. -/
def initWithJSONObject (memory : Memory) (record : JSON) (guid : String) :
    Memory :=
  let lastKnownIPAddress :=
    (record.value? "lastKnownIPAddress").bind JSON.string?
  { descriptions :=
      memory.descriptions.allocate { address := lastKnownIPAddress }
    devices := memory.devices.allocate
      { id := ((record.value? "id").bind JSON.string?).getD guid
        serviceDescription := memory.descriptions.fresh
        lastKnownIPAddress
        lastSeenOnWifi := (record.value? "lastSeenOnWifi").bind JSON.string?
        lastConnected :=
          ((record.value? "lastConnected").map JSON.doubleValue).getD 0
        lastDetection :=
          ((record.value? "lastDetection").map JSON.doubleValue).getD 0 } }

/-! ## Service management -/

def modifyDevice (memory : Memory) (device : Ref ConnectableDevice)
    (change : ConnectableDevice → ConnectableDevice) : Memory :=
  { memory with devices := memory.devices.modify device change }

def removeServiceWithId (memory : Memory) (device : Ref ConnectableDevice)
    (serviceId : String) : Memory :=
  memory.modifyDevice device fun object =>
    { object with services := object.services.erase serviceId }

def updateConsolidatedServiceDescription (memory : Memory)
    (device : Ref ConnectableDevice) (description : Ref ServiceDescription) :
    Memory :=
  let source := memory.descriptions.read description
  { memory with
    descriptions := memory.descriptions.modify
      (memory.devices.read device).serviceDescription fun target =>
        { target with
          address := source.address.or target.address
          friendlyName := source.friendlyName.or target.friendlyName
          modelName := source.modelName.or target.modelName
          modelNumber := source.modelNumber.or target.modelNumber } }

/-- The end of `addService:`, once the service is to be kept. -/
def attachService (memory : Memory) (device : Ref ConnectableDevice)
    (serviceName : String) (service : DeviceService) : Memory :=
  let attached := memory.modifyDevice device fun object =>
    { object with services := object.services.insert serviceName service }
  attached.updateConsolidatedServiceDescription device
    service.serviceDescription

/-- `addService:`. A service without a name cannot be a key of `_services`:
the call raises. -/
def addService (memory : Memory) (device : Ref ConnectableDevice)
    (service : DeviceService) : Option Memory :=
  match memory.serviceName service with
  | none => none
  | some serviceName =>
      match (memory.devices.read device).services.lookup serviceName with
      | none => some (memory.attachService device serviceName service)
      | some existing =>
          let lastDetection := fun (service : DeviceService) =>
            (memory.descriptions.read service.serviceDescription).lastDetection
          if lastDetection service > lastDetection existing then
            let removed := match memory.serviceName existing with
              | none => memory
              | some existingName =>
                  memory.removeServiceWithId device existingName
            some (removed.attachService device serviceName service)
          else
            some memory

/-- `service.serviceDescription = description` on the service a device holds
under a name. `capabilities` is what the service computes for itself from the
new description. -/
def describeService (memory : Memory) (device : Ref ConnectableDevice)
    (serviceName : String) (description : Ref ServiceDescription)
    (capabilities : List String) : Memory :=
  match (memory.devices.read device).services.lookup serviceName with
  | none => memory
  | some service =>
      let described := memory.descriptions.modify description
        service.serviceClass.completeDescription
      let updated : DeviceService :=
        { service with
          serviceDescription := description
          serviceConfig := service.serviceConfig.map
            (service.serviceClass.completeConfig (described.read description))
          capabilities }
      Memory.modifyDevice { memory with descriptions := described } device
        fun object =>
          { object with services := object.services.insert serviceName updated }

/-- `deviceServiceWithClass:serviceConfig:` and `setServiceDescription:`, then
`addService:`. Without a class the service is `nil` and adding it raises. -/
def createService (memory : Memory) (device : Ref ConnectableDevice)
    (serviceClass : Option DeviceServiceClass) (config : ServiceConfig)
    (description : Ref ServiceDescription) (capabilities : List String) :
    Option Memory :=
  match serviceClass with
  | none => none
  | some serviceClass =>
      let described := memory.descriptions.modify description
        serviceClass.completeDescription
      Memory.addService { memory with descriptions := described } device
        { serviceClass
          serviceDescription := description
          serviceConfig := some (serviceClass.completeConfig
            (described.read description) (serviceClass.adoptConfig config))
          capabilities }

/-- The first service, in enumeration order, described under a service id. -/
def serviceOfType (memory : Memory) (device : Ref ConnectableDevice)
    (serviceId : Option String) : Option DeviceService :=
  (memory.services device).find? fun service =>
    (memory.serviceName service).isSome &&
      memory.serviceName service == serviceId

/-- What `DiscoveryManager` does with a description whose service class is
known: refresh the service of that id and UUID, replace the service of that id
with another UUID, or add a service. -/
def registerService (memory : Memory) (device : Ref ConnectableDevice)
    (serviceClass : Option DeviceServiceClass) (config : ServiceConfig)
    (description : Ref ServiceDescription) (capabilities : List String) :
    Option Memory :=
  let found := memory.descriptions.read description
  match memory.serviceOfType device found.serviceId, found.serviceId with
  | some existing, some serviceId =>
      if (memory.serviceUUID existing).isSome &&
          memory.serviceUUID existing == found.uuid then
        let consolidated := memory.modifyDevice device fun object =>
          { object with serviceDescription := description }
        some (consolidated.describeService device serviceId description
          capabilities)
      else
        (memory.removeServiceWithId device serviceId).createService device
          serviceClass config description capabilities
  | _, _ =>
      memory.createService device serviceClass config description capabilities

theorem hasServices_of_mem {memory : Memory} {device : Ref ConnectableDevice}
    {service : DeviceService} (member : service ∈ memory.services device) :
    memory.hasServices device = true := by
  rw [hasServices]
  cases services : memory.services device with
  | nil => simp [services] at member
  | cons head tail => rfl

end Memory

end ConnectSDK
