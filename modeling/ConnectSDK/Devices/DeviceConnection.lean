import ConnectSDK.Helpers.ConnectError
import ConnectSDK.Services.ReachabilityDelegate

/-! # Disconnecting a device

What `ConnectableDevice` does when it disconnects its services or when one of them loses its
connection. Of what it tells its delegate only `connectableDeviceDisconnected:withError:` is
modelled.
-/

namespace ConnectSDK

/-- `AirPlayService` connects through one of two objects, by its mode. `deviceService` is a
class that has the connection methods of `DeviceService`. -/
inductive ConnectionClass where
  | deviceService
  | reachable (serviceClass : ReachabilityServiceClass)
  | webOSTVService
  | airPlayServiceHTTP
  | airPlayServiceMirrored
deriving DecidableEq

def ConnectionClass.isConnectable : ConnectionClass → Bool
  | .deviceService => false
  | _ => true

/-- A service of the device. `delegate` is whether the device is its delegate. `closing` is a
web socket that was asked to close and has not told that it did, with what asked for it. -/
structure ServiceConnection where
  serviceClass : ConnectionClass
  connected : Bool
  delegate : Bool := true
  closing : Option Bool := none
deriving DecidableEq

def ServiceConnection.isConnectable (service : ServiceConnection) : Bool :=
  service.serviceClass.isConnectable

/-- What a delegate is told. `fromCall` marks the consequences of one call. -/
structure DisconnectMessage where
  error : Option NSError
  fromCall : Bool
deriving DecidableEq

/-- A block on the main queue, by whose delegate it tells. -/
inductive DisconnectBlock where
  | serviceDisconnected (message : DisconnectMessage)
  | deviceDisconnected (message : DisconnectMessage)
deriving DecidableEq

/-- `messages` are those of `connectableDeviceDisconnected:withError:`. -/
structure DeviceConnection where
  services : List ServiceConnection
  mainQueue : List DisconnectBlock := []
  messages : List DisconnectMessage := []
deriving DecidableEq

namespace DeviceConnection

def dispatchOnMain (device : DeviceConnection) (blocks : List DisconnectBlock) :
    DeviceConnection :=
  { device with mainQueue := device.mainQueue ++ blocks }

def setService (device : DeviceConnection) (index : Nat) (service : ServiceConnection) :
    DeviceConnection :=
  { device with services := device.services.set index service }

def connectedServiceCount (device : DeviceConnection) : Nat :=
  device.services.countP fun service =>
    if service.isConnectable then service.connected else true

/-- `deviceService:disconnectedWithError:`. -/
def serviceDisconnected (device : DeviceConnection) (message : DisconnectMessage) :
    DeviceConnection :=
  if device.connectedServiceCount = 0 ∨ device.services.length = 0 then
    device.dispatchOnMain [.deviceDisconnected message]
  else device

/-- A service that has the device as its delegate calls it back from the main queue. -/
def callBack (device : DeviceConnection) (service : ServiceConnection)
    (message : DisconnectMessage) : DeviceConnection :=
  if service.delegate then device.dispatchOnMain [.serviceDisconnected message] else device

/-- `disconnect` of a mirrored AirPlay connection, which calls back at once. -/
def disconnectMirrored (device : DeviceConnection) (index : Nat)
    (service : ServiceConnection) : DeviceConnection :=
  let device := device.setService index { service with connected := false }
  if service.delegate then device.serviceDisconnected ⟨none, true⟩ else device

/-- `disconnect` of a connected service. -/
def disconnectService (device : DeviceConnection) (index : Nat)
    (service : ServiceConnection) : DeviceConnection :=
  match service.serviceClass with
  | .deviceService => device
  | .reachable _ | .airPlayServiceHTTP =>
      (device.setService index { service with connected := false }).callBack service ⟨none, true⟩
  | .webOSTVService =>
      (device.setService index
        { service with connected := false, closing := some true }).callBack service ⟨none, true⟩
  | .airPlayServiceMirrored =>
      (device.disconnectMirrored index service).callBack service ⟨none, true⟩

/-- One service of the enumeration. -/
def disconnectAt (device : DeviceConnection) (index : Nat) : DeviceConnection :=
  match device.services[index]? with
  | none => device
  | some service =>
      if service.connected then device.disconnectService index service else device

def disconnect (device : DeviceConnection) : DeviceConnection :=
  ((List.range device.services.length).foldl disconnectAt device).dispatchOnMain
    [.deviceDisconnected ⟨none, true⟩]

/-- A connected service loses its connection: nobody answers its requests, its web socket
closes or fails, or the screen is gone. A web socket that fails because the certificate has
changed calls nobody back. -/
def lose (device : DeviceConnection) (index : Nat) (error : Option NSError)
    (certificateChanged : Bool) : DeviceConnection :=
  match device.services[index]? with
  | none => device
  | some service =>
      if service.connected then
        match service.serviceClass with
        | .webOSTVService =>
            let device := device.setService index
              { service with connected := false, closing := none }
            if certificateChanged then device else device.callBack service ⟨error, true⟩
        | .airPlayServiceMirrored => device.disconnectMirrored index service
        | _ => device.disconnectService index service
      else device

/-! ## The main queue -/

def runBlock (device : DeviceConnection) : DisconnectBlock → DeviceConnection
  | .serviceDisconnected message => device.serviceDisconnected message
  | .deviceDisconnected message => { device with messages := device.messages ++ [message] }

def runNext (device : DeviceConnection) : DeviceConnection :=
  match device.mainQueue with
  | [] => device
  | block :: rest => runBlock { device with mainQueue := rest } block

/-- The web socket of a service tells that it closed. -/
def webSocketClosed (device : DeviceConnection) (index : Nat) (error : Option NSError) :
    DeviceConnection :=
  match device.services[index]? with
  | none => device
  | some service =>
      match service.closing with
      | none => device
      | some fromCall =>
          (device.setService index { service with closing := none }).callBack service
            ⟨error, fromCall⟩

end DeviceConnection

/-- What can follow a call. -/
inductive DisconnectEvent where
  | runNext
  | webSocketClosed (index : Nat) (error : Option NSError)

namespace DeviceConnection

def step (device : DeviceConnection) : DisconnectEvent → DeviceConnection
  | .runNext => device.runNext
  | .webSocketClosed index error => device.webSocketClosed index error

def run (device : DeviceConnection) (events : List DisconnectEvent) : DeviceConnection :=
  events.foldl step device

end DeviceConnection

end ConnectSDK
