import ConnectSDK.Foundation.Run
import ConnectSDK.Devices.DefaultConnectableDeviceStore

/-! # Sessions with the device store

The calls a store receives while an application runs and between two runs of
it. Device and service objects belong to the application: what it does to them
outside the calls is a `change` to any other memory.
-/

namespace ConnectSDK

structure StoreSession where
  store : DefaultConnectableDeviceStore
  memory : Memory

inductive StoreCall where
  | change (memory : Memory)
  | addDevice (device : Ref ConnectableDevice) (now : TimeInterval)
  | updateDevice (device : Ref ConnectableDevice) (now : TimeInterval)
  | deviceForId (id : Option String) (guid : String)
  | removeDevice (device : Ref ConnectableDevice) (now : TimeInterval)
  | removeAll (now : TimeInterval)
  | setMaxStoreDuration (maxStoreDuration now : TimeInterval)
  | connectionSuccess (device : Ref ConnectableDevice)
      (stored connected : TimeInterval)
  | load (file : DeviceStoreFile) (now : TimeInterval)

namespace StoreSession

/-- `-[ConnectableDevice deviceServiceConnectionSuccess:]`. The store is called
before `lastConnected` is set; `stored` and `connected` are the times of the
two. -/
def deviceServiceConnectionSuccess (session : StoreSession)
    (device : Ref ConnectableDevice) (stored connected : TimeInterval) :
    Option StoreSession :=
  if session.memory.connected device then
    (session.store.addDevice session.memory device stored).map fun store =>
      { store
        memory := session.memory.modifyDevice device fun object =>
          { object with lastConnected := connected } }
  else some session

def step (session : StoreSession) : StoreCall → Option StoreSession
  | .change memory => some { session with memory }
  | .addDevice device now =>
      (session.store.addDevice session.memory device now).map fun store =>
        { session with store }
  | .updateDevice device now =>
      (session.store.updateDevice session.memory device now).map fun store =>
        { session with store }
  | .deviceForId id guid =>
      let (_, memory, store) := session.store.deviceForId session.memory id guid
      some { store, memory }
  | .removeDevice device now =>
      some { session with
        store := session.store.removeDevice session.memory device now }
  | .removeAll now => some { session with store := session.store.removeAll now }
  | .setMaxStoreDuration maxStoreDuration now =>
      some { session with
        store := session.store.setMaxStoreDuration maxStoreDuration now }
  | .connectionSuccess device stored connected =>
      session.deviceServiceConnectionSuccess device stored connected
  | .load file now =>
      some { session with store := DefaultConnectableDeviceStore.load file now }

end StoreSession

end ConnectSDK
