import ConnectSDK.Foundation.Run
import ConnectSDK.Services.Helpers.LGCast.CastingServices

/-! # Runs of the casting services

What users, TVs, devices and the media frameworks can do, in any order. Everything runs
on the main queue, one event after the other, and what users do in a callback comes as
later events.
-/

namespace ConnectSDK

/-- A request and a subscription are named by their number, so that a reply or a message
may come at any time. -/
inductive LGCastEvent where
  | sharedInstance (service : ServiceType)
  | start (service : ServiceType) (device : Option TVDevice)
  | stop (service : ServiceType)
  | setLensFacing (result : Bool)
  | setMicMute (result : Bool)
  | openConnection (type : ServiceType) (device : Option TVDevice)
  | closeConnection
  | targetChanged (service : Nat) (target : CastTarget)
  | succeeded (request : Nat) (response : Option JSON)
  | failed (request : Nat) (error : Option NSError)
  | commandReceived (subscription : Nat) (response : Option JSON)
  | commandFailed (subscription : Nat) (error : Option NSError)
  | powerStateReceived (subscription : Nat) (response : Option JSON)
  | deviceReady (device : Nat)
  | deviceDisconnected (device : Nat)
  | pairingRequired (device : Nat)
  | keepAliveTimerFired
  | cameraDidChange (isRotation : Bool)
  | cameraDidPlay
  | mirroringDidStart (result : Bool)
  | mirroringUpdated (isVideoSize : Bool)
  | mediaErrorDidOccur (service : ServiceType)

namespace LGCast

/-! ## What users call -/

/-- `initPrivate`, once. -/
def sharedInstance (cast : LGCast) (service : ServiceType) : LGCast :=
  if service ∈ cast.created then cast
  else
    { cast with
      manager := { cast.manager with delegate := some service }
      created := cast.created ++ [service] }

def isRunning (cast : LGCast) : ServiceType → Bool
  | .remoteCamera => cast.camera.isRunning
  | .screenMirroring => cast.mirroring.isRunning

/-- Starting the camera service sets `isPlaying` too. -/
def setRunning (cast : LGCast) (isRunning : Bool) : ServiceType → LGCast
  | .remoteCamera => { cast with camera := { isRunning, isPlaying := false } }
  | .screenMirroring => { cast with mirroring := { cast.mirroring with isRunning } }

/-- `startRemoteCamera:settings:` and `startMirroring:settings:`. -/
def start (cast : LGCast) (service : ServiceType) (device : Option TVDevice) : LGCast :=
  if cast.isRunning service then cast.notify (.didStart service false)
  else (cast.setRunning true service).openConnection service device

/-- `stopRemoteCamera` and `stopMirroring`. -/
def stop (cast : LGCast) (service : ServiceType) : LGCast :=
  if cast.isRunning service then
    (cast.setRunning false service).closeConnection.notify (.didStop service true)
  else
    cast.notify (.didStop service false)

/-- `setLensFacing:` and `setMicMute:`, after the media framework's `result`. -/
def setCameraParameter (cast : LGCast) (result : Bool) : LGCast :=
  if cast.camera.isPlaying && result then cast.sendSetParameter false else cast

/-! ## Media frameworks -/

/-- `lgcastCameraDidChangeWithProperty:`. -/
def cameraDidChange (cast : LGCast) (isRotation : Bool) : LGCast :=
  if cast.camera.isPlaying then
    if isRotation then cast.sendSetParameter false else cast.notify .didChange
  else
    cast

/-- `lgcastMirroringUpdateEventWithEvent:info:`. -/
def mirroringUpdated (cast : LGCast) (isVideoSize : Bool) : LGCast :=
  if isVideoSize && cast.mirroring.hasCapabilities then
    ScreenMirroringService.updateCapability cast
  else
    cast

/-- `lgcastCameraErrorDidOccurWithError:` and `lgcastMirroringErrorDidOccurWithError:`,
which the connection is not told of. -/
def mediaErrorDidOccur (cast : LGCast) (service : ServiceType) : LGCast :=
  let cast := match service with
    | .remoteCamera => { cast with camera := { cast.camera with isRunning := false } }
    | .screenMirroring =>
        { cast with mirroring := { cast.mirroring with isRunning := false } }
  cast.notify (.mediaErrorDidOccur service)

/-! ## Events -/

/-- A message to an object that exists. -/
def ifCreated (cast : LGCast) (service : ServiceType) (act : LGCast → LGCast) : LGCast :=
  if service ∈ cast.created then act cast else cast

/-- A message of a device to its delegate. -/
def ifDelegating (cast : LGCast) (device : Nat) (act : LGCast → LGCast) : LGCast :=
  if device ∈ cast.delegating then act cast else cast

def blocksOf (cast : LGCast) (request : Nat) : Option ReplyBlocks :=
  cast.requests[request]?.map LGCastRequest.blocks

def keepAliveTimerFired (cast : LGCast) : LGCast :=
  match cast.manager.keepAliveTimer with
  | some { isValid := true } => cast.sendCommand .keepAlive .ignored
  | _ => cast

def step (platform : LGCastPlatform) (cast : LGCast) : LGCastEvent → Option LGCast
  | .sharedInstance service => some (cast.sharedInstance service)
  | .start service device =>
      some (cast.ifCreated service fun cast => cast.start service device)
  | .stop service => some (cast.ifCreated service fun cast => cast.stop service)
  | .setLensFacing result =>
      some (cast.ifCreated .remoteCamera fun cast => cast.setCameraParameter result)
  | .setMicMute result =>
      some (cast.ifCreated .remoteCamera fun cast => cast.setCameraParameter result)
  | .openConnection type device => some (cast.openConnection type device)
  | .closeConnection => some cast.closeConnection
  | .targetChanged service target =>
      some { cast with targets := Function.update cast.targets service target }
  | .succeeded request response =>
      match cast.blocksOf request with
      | none => some cast
      | some blocks => some (succeed platform cast response blocks)
  | .failed request error =>
      match cast.blocksOf request with
      | none => some cast
      | some blocks => some (cast.fail error blocks)
  | .commandReceived subscription response =>
      if subscription < cast.subscriptions.length then
        LGCast.commandReceived platform cast response
      else
        some cast
  | .commandFailed subscription error =>
      if subscription < cast.subscriptions.length then
        some (LGCast.commandFailed cast error)
      else
        some cast
  | .powerStateReceived subscription response =>
      if subscription < cast.subscriptions.length then
        LGCast.powerStateReceived platform cast response
      else
        some cast
  | .deviceReady device => some (cast.ifDelegating device subscribe)
  | .deviceDisconnected device =>
      some (cast.ifDelegating device connectableDeviceDisconnected)
  | .pairingRequired device => some (cast.ifDelegating device callOnPairingRequested)
  | .keepAliveTimerFired => some cast.keepAliveTimerFired
  | .cameraDidChange isRotation =>
      some (cast.ifCreated .remoteCamera fun cast => cast.cameraDidChange isRotation)
  | .cameraDidPlay => some (cast.ifCreated .remoteCamera fun cast => cast.notify .didPlay)
  | .mirroringDidStart result =>
      some (cast.ifCreated .screenMirroring fun cast =>
        if result then cast.notify (.didStart .screenMirroring true) else cast)
  | .mirroringUpdated isVideoSize =>
      some (cast.ifCreated .screenMirroring fun cast => cast.mirroringUpdated isVideoSize)
  | .mediaErrorDidOccur service =>
      some (cast.ifCreated service fun cast => cast.mediaErrorDidOccur service)

/-- Before any of the shared objects of the services is created. -/
def initially (targets : Nat → CastTarget) : LGCast where
  targets

/-! ## An example -/

def caseSensitive : LGCastPlatform where
  foldCase := id
  nilIsSame := none
  capabilities := fun _ => []
  deviceInfo := []
  distinct := by decide

def pairedTV : TVDevice := { number := 0, webOSTVService := some 0 }

def pairedTarget : CastTarget := { clientKey := some "key", hasSocket := true }

/-- From the start of a service on the TV until its parameters were exchanged. -/
def connectEvents (service : ServiceType) : List LGCastEvent := [
  .sharedInstance service,
  .start service (some pairedTV),
  .deviceReady 0,
  .commandReceived 0 (some (.object [("subscribed", .bool true)])),
  .succeeded 0 none,
  .succeeded 1 (some (.object [])),
  .succeeded 2 none]

end LGCast

end ConnectSDK
