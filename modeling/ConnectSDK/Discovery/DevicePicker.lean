import ConnectSDK.Discovery.DeviceReports

/-! # The device picker

The picker lists devices under the addresses they have when they are found. It knows no
more of the devices than what the manager sends it.
-/

namespace ConnectSDK

namespace DevicePicker

/-- What a message of the manager does to `_devices`. A device without an address raises. -/
def receive (memory : Memory) (devices : Dictionary String (Ref ConnectableDevice)) :
    DeviceNotification → Option (Dictionary String (Ref ConnectableDevice))
  | .didFindDevice device =>
      (memory.address device).map fun address => devices.insert address device
  | .didLoseDevice device =>
      (memory.address device).map fun address => devices.erase address
  | .didUpdateDevice _ => some devices

end DevicePicker

/-- The manager, and the `_devices` of its picker. -/
structure PickerWatch where
  manager : DiscoveryManager
  devices : Dictionary String (Ref ConnectableDevice) := ∅

namespace PickerWatch

/-- The picker hears what an event has the manager send it. No device changes between the
first message and the end of the event. -/
def step (watch : PickerWatch) (event : DiscoveryEvent) : Option PickerWatch :=
  (watch.manager.step event).bind fun manager =>
    ((manager.pickerReceived.drop watch.manager.pickerReceived.length).foldlM
      (DevicePicker.receive manager.memory) watch.devices).map fun devices =>
        { manager, devices }

/-- The picker, if there is one, holds the compatible devices. -/
def HoldsCompatible (watch : PickerWatch) : Prop :=
  watch.manager.currentPicker = true →
    ∀ device, device ∈ watch.devices.values ↔
      device ∈ watch.manager.compatibleDevices.values

end PickerWatch

namespace DiscoveryManager

/-- The last of all devices that passes the filters and has that address. -/
def passingAt (manager : DiscoveryManager) (capabilityFilters : List (List String))
    (address : String) : Option (Ref ConnectableDevice) :=
  (manager.allDevices.values.filter fun device =>
    { manager with capabilityFilters }.deviceIsCompatible device &&
      decide (manager.memory.address device = some address)).getLast?

/-- The network is another one than the one noted before. -/
def changesSSID (manager : DiscoveryManager) (ssidName : String) : Bool :=
  manager.currentSSID.any fun currentSSID =>
    decide (ssidName.toLower ≠ currentSSID.toLower)

end DiscoveryManager

namespace PickerWatch

/-- The events after which the picker still holds the compatible devices: a device is lost
where it is, new filters change nothing while there is a picker, and the addresses at
which devices are listed are the ones they have when a picker is made or all are lost. -/
structure TellsPicker (watch : PickerWatch) (event : DiscoveryEvent) : Prop where
  lost : watch.manager.currentPicker = true → ∀ reporting address key,
    watch.manager.reporting event = some reporting →
    reporting.report = .lose address →
    reporting.manager.memory.address reporting.device = some key →
      key = address ∨ watch.manager.compatibleDevices.lookup key = none ∧
        watch.manager.compatibleDevices.lookup address = none
  filtered : watch.manager.currentPicker = true → ∀ capabilityFilters,
    event = .setCapabilityFilters capabilityFilters →
    ∀ address, watch.manager.compatibleDevices.lookup address =
      watch.manager.passingAt capabilityFilters address
  purged : watch.manager.currentPicker = true → ∀ ssidName,
    event = .detectSSIDChange ssidName → watch.manager.changesSSID ssidName = true →
    ∀ key device, watch.manager.compatibleDevices.lookup key = some device →
      ∃ other ∈ watch.manager.compatibleDevices.values,
        watch.manager.memory.address other = some key
  created : watch.manager.currentPicker = false → event = .devicePicker →
    ∀ key device, watch.manager.compatibleDevices.lookup key = some device →
      watch.manager.memory.address device = some key

end PickerWatch

end ConnectSDK
