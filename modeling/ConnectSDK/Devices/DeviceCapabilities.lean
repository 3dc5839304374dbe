import Mathlib.Algebra.GroupWithZero.Nat
import ConnectSDK.Foundation.Dictionary
import ConnectSDK.Foundation.Heap
import ConnectSDK.Foundation.Run
import ConnectSDK.Foundation.SetDelta
import ConnectSDK.Services.DeviceService

/-! # Capabilities of a device

A device has the capabilities of its services. It reports changes to its delegate from
blocks of the main queue: those of its list of services and those a service adds or removes
at once, those of a list that a service sets after the service has reached the device from
a block of its own.
-/

namespace ConnectSDK

/-- The weak `delegate` of a service. -/
inductive ServiceOwner where
  | none
  | device
  | other
deriving DecidableEq

/-- A service object, which outlives its place in a device. -/
structure CapableService where
  serviceName : Option String
  lastDetection : TimeInterval
  delegate : ServiceOwner := .none
  capabilities : List String := []

structure CapableDevice where
  objects : Heap CapableService
  services : Dictionary String (Ref CapableService) := ∅

/-- The arguments of `capabilitiesAdded:removed:`. -/
structure CapabilityUpdate where
  added : List String
  removed : List String

/-- A block of the main queue calls the delegate of the device, or the device. -/
inductive CapabilityBlock where
  | connectableDevice (update : CapabilityUpdate)
  | deviceService (update : CapabilityUpdate)

inductive CapabilityEvent where
  | addService (service : Ref CapableService)
  | removeServiceWithId (serviceId : String)
  | setCapabilities (service : Ref CapableService) (newCapabilities : List String)
  | addCapabilities (service : Ref CapableService) (capabilities : List String)
  | removeCapabilities (service : Ref CapableService) (capabilities : List String)
  | mainQueue

namespace CapableDevice

def read (device : CapableDevice) (service : Ref CapableService) : CapableService :=
  device.objects.read service

/-- The capabilities of all services, each of them once. -/
def capabilities (device : CapableDevice) : List String :=
  device.services.values.foldl (fun caps service =>
    (device.read service).capabilities.foldl (fun caps capability =>
      if caps.contains capability then caps else caps ++ [capability]) caps) []

/-- The arguments that tell the one list from the other. -/
def differences (oldCapabilities newCapabilities : List String) : CapabilityUpdate where
  added := newCapabilities.filter fun capability => !oldCapabilities.contains capability
  removed := oldCapabilities.filter fun capability => !newCapabilities.contains capability

def updateCapabilitiesList (device : CapableDevice) (oldCapabilities : List String) :
    List CapabilityBlock :=
  [.connectableDevice (differences oldCapabilities device.capabilities)]

def removeServiceWithId (device : CapableDevice) (serviceId : String) :
    CapableDevice × List CapabilityBlock :=
  match device.services.lookup serviceId with
  | none => (device, [])
  | some _ =>
      let removed := { device with services := device.services.erase serviceId }
      (removed, removed.updateCapabilitiesList device.capabilities)

/-- The end of `addService:`. A service without a delegate gets the device. -/
def attachService (device : CapableDevice) (serviceName : String)
    (service : Ref CapableService) : CapableDevice where
  objects := device.objects.modify service fun object =>
    { object with
      delegate := if object.delegate = .none then .device else object.delegate }
  services := device.services.insert serviceName service

/-- `[self removeServiceWithId:existingService.serviceName]`. -/
def removeExisting (device : CapableDevice) (existing : Ref CapableService) :
    CapableDevice × List CapabilityBlock :=
  match (device.read existing).serviceName with
  | none => (device, [])
  | some existingName => device.removeServiceWithId existingName

/-- `addService:`. A service without a name cannot be a key: the call raises. -/
def addService (device : CapableDevice) (service : Ref CapableService) :
    Option (CapableDevice × List CapabilityBlock) :=
  match (device.read service).serviceName with
  | none => none
  | some serviceName =>
      match device.services.lookup serviceName with
      | none =>
          let attached := device.attachService serviceName service
          some (attached, attached.updateCapabilitiesList device.capabilities)
      | some existing =>
          if (device.read service).lastDetection > (device.read existing).lastDetection then
            let (removed, blocks) := device.removeExisting existing
            let attached := removed.attachService serviceName service
            some (attached, blocks ++ attached.updateCapabilitiesList device.capabilities)
          else
            some (device, [])

/-! ## What services do to their capabilities -/

def setServiceCapabilities (device : CapableDevice) (service : Ref CapableService)
    (capabilities : List String) : CapableDevice :=
  { device with
    objects := device.objects.modify service fun object => { object with capabilities } }

def setCapabilities (device : CapableDevice) (service : Ref CapableService)
    (newCapabilities : List String) : CapableDevice × List CapabilityBlock :=
  (device.setServiceCapabilities service newCapabilities,
    if (device.read service).delegate = .device then
      [.deviceService (differences (device.read service).capabilities newCapabilities)]
    else [])

def addCapabilities (device : CapableDevice) (service : Ref CapableService)
    (capabilities : List String) : CapableDevice × List CapabilityBlock :=
  (device.setServiceCapabilities service
      (DeviceService.addCapabilities capabilities (device.read service).capabilities),
    if (device.read service).delegate = .device then
      [.connectableDevice { added := capabilities, removed := [] }]
    else [])

def removeCapabilities (device : CapableDevice) (service : Ref CapableService)
    (capabilities : List String) : CapableDevice × List CapabilityBlock :=
  (device.setServiceCapabilities service
      (DeviceService.removeCapabilities capabilities (device.read service).capabilities),
    if (device.read service).delegate = .device then
      [.connectableDevice { added := [], removed := capabilities }]
    else [])

end CapableDevice

/-! ## The delegate of the device -/

def CapabilityUpdate.delta (update : CapabilityUpdate) : SetDelta String where
  added := update.added.toFinset
  removed := update.removed.toFinset

/-- A device, the blocks that wait on the main queue, and the capabilities its delegate
knows of. -/
structure CapabilityWatch where
  device : CapableDevice
  queue : List CapabilityBlock := []
  known : Finset String

namespace CapabilityWatch

/-- The first block of the main queue is run. -/
def runBlock (watch : CapabilityWatch) : CapabilityWatch :=
  match watch.queue with
  | [] => watch
  | .connectableDevice update :: queue =>
      { watch with queue, known := update.delta.apply watch.known }
  | .deviceService update :: queue =>
      { watch with queue := queue ++ [.connectableDevice update] }

def enqueue (watch : CapabilityWatch) (changed : CapableDevice × List CapabilityBlock) :
    CapabilityWatch :=
  { watch with device := changed.1, queue := watch.queue ++ changed.2 }

def step (watch : CapabilityWatch) : CapabilityEvent → Option CapabilityWatch
  | .addService service => (watch.device.addService service).map watch.enqueue
  | .removeServiceWithId serviceId =>
      some (watch.enqueue (watch.device.removeServiceWithId serviceId))
  | .setCapabilities service newCapabilities =>
      some (watch.enqueue (watch.device.setCapabilities service newCapabilities))
  | .addCapabilities service capabilities =>
      some (watch.enqueue (watch.device.addCapabilities service capabilities))
  | .removeCapabilities service capabilities =>
      some (watch.enqueue (watch.device.removeCapabilities service capabilities))
  | .mainQueue => some watch.runBlock

/-- The turns the main queue still needs. -/
def turns (watch : CapabilityWatch) : Nat :=
  (watch.queue.map fun
    | .connectableDevice _ => 1
    | .deviceService _ => 2).sum

/-- The main queue runs dry. -/
def runDry (watch : CapabilityWatch) : CapabilityWatch :=
  match _waiting : watch.queue with
  | [] => watch
  | _ :: _ => watch.runBlock.runDry
termination_by watch.turns
decreasing_by
  rename_i block queue
  rw [turns, turns, runBlock, _waiting]
  cases block with
  | connectableDevice update => simp
  | deviceService update =>
      simp
      omega

/-- Once the main queue has run dry, the delegate knows the capabilities of the device. -/
def Settles (watch : CapabilityWatch) : Prop :=
  watch.runDry.known = watch.device.capabilities.toFinset

/-- The delegate starts with the capabilities of the device. -/
def start (device : CapableDevice) : CapabilityWatch where
  device
  known := device.capabilities.toFinset

end CapabilityWatch

end ConnectSDK
