import ConnectSDK.Services.Helpers.WebOSTVServiceSocketClient

/-! # The connection manager of the casting services

One manager is shared by the camera and the mirroring service. The record of all
three objects is the state, since the manager's callbacks run in the service that is
its delegate, and that service calls the manager again. Calls of the media frameworks
are left out.
-/

namespace ConnectSDK

inductive ServiceType where
  | screenMirroring
  | remoteCamera
deriving DecidableEq

def ServiceType.serviceName : ServiceType → String
  | .screenMirroring => "mirroring"
  | .remoteCamera => "camera"

/-- The commands of the TV. -/
def tvCommands : List String :=
  ["PLAY", "TEARDOWN", "STOP", "GET_PARAMETER", "SET_PARAMETER"]

/-- How text is compared without regard to case, where what a comparison with `nil` says
is left open, and what the services tell the TV about themselves and the device. -/
structure LGCastPlatform where
  foldCase : String → String
  nilIsSame : Option Bool
  capabilities : ServiceType → JSON.Fields
  deviceInfo : JSON.Fields
  distinct : (tvCommands.map foldCase).Nodup

/-- `[left caseInsensitiveCompare:right] == NSOrderedSame`. -/
def LGCastPlatform.isSame (platform : LGCastPlatform) (left : String) :
    Option String → Option Bool
  | none => platform.nilIsSame
  | some right => some (platform.foldCase left == platform.foldCase right)

inductive ConnectionState where
  | none
  | connecting
  | connected
  | disconnecting
deriving DecidableEq

inductive ConnectionError where
  | unknown
  | connectionClosed
  | deviceShutdown
  | rendererTerminated
deriving DecidableEq

/-- The commands of `WebOSTVService+LGCast` that this device sends. -/
inductive LGCastCommand where
  | connect
  | getParameter
  | setParameter
  | getParameterResponse
  | setParameterResponse
  | keepAlive
  | teardown
deriving DecidableEq

/-- The success and failure blocks of a command. -/
inductive ReplyBlocks where
  | connect
  | getParameter
  | sourceDeviceInfo
  | setParameter (ignoreResult : Bool)
  | ignored
deriving DecidableEq

/-- What a failure block tells the delegate. -/
def ReplyBlocks.failureMessage : ReplyBlocks → Option String
  | .connect => some "sendConnect failure"
  | .getParameter => some "sendGetParameter failure"
  | .sourceDeviceInfo => some "sendSetParameter failure"
  | .setParameter false => some "sendSetParameter failure"
  | .setParameter true => none
  | .ignored => none

/-- A command that was sent, with the connection that it belongs to and the number of
that connection while its device is held. What it carries as a parameter nothing here
reads. -/
structure LGCastRequest where
  command : LGCastCommand
  blocks : ReplyBlocks
  service : Nat
  serviceName : Option String
  serviceType : ServiceType
  session : Option Nat
deriving DecidableEq

/-- What the manager uses of a webOS TV service. -/
structure CastTarget where
  clientKey : Option String := none
  hasSocket : Bool := false
deriving DecidableEq

/-- A device and its webOS TV service. -/
structure TVDevice where
  number : Nat
  webOSTVService : Option Nat
deriving DecidableEq

structure NSTimer where
  isValid : Bool
deriving DecidableEq

/-- A callback of the manager to its delegate. -/
inductive ManagerCallback where
  | pairingRequested
  | pairingRejected
  | connectionFailed (message : String)
  | connectionCompleted (values : JSON)
  | receivePlayCommand (values : JSON)
  | receiveStopCommand (values : JSON)
  | receiveGetParameter (values : JSON)
  | receiveSetParameter (values : JSON)
  | error (error : ConnectionError) (message : String)

structure ConnectionManager where
  delegate : Option ServiceType := none
  serviceType : ServiceType := .screenMirroring
  serviceName : Option String := none
  currentState : ConnectionState := .none
  tvDevice : Option Nat := none
  service : Option Nat := none
  commandSubscription : Option Nat := none
  powerStateSubscription : Option Nat := none
  keepAliveTimer : Option NSTimer := none
deriving DecidableEq

structure RemoteCameraService where
  isRunning : Bool := false
  isPlaying : Bool := false
deriving DecidableEq

structure ScreenMirroringService where
  isRunning : Bool := false
  hasCapabilities : Bool := false
deriving DecidableEq

/-- A call of `closeConnection` that was carried out: how many connections had been
opened, whether a device was held, and how many messages were sent. -/
structure Closing where
  sessions : Nat
  isOpen : Bool
  messages : Nat
deriving DecidableEq

/-- What a service tells its own delegate. -/
inductive LGCastNotification where
  | didStart (service : ServiceType) (result : Bool)
  | didStop (service : ServiceType) (result : Bool)
  | didPlay
  | didChange
  | errorDidOccur (service : ServiceType) (error : ConnectionError)
  | mediaErrorDidOccur (service : ServiceType)
deriving DecidableEq

/-- The three shared objects, the webOS TV services, and the devices whose delegate the
manager is. The rest logs what was created, opened, closed, sent, subscribed and called
back. -/
structure LGCast where
  manager : ConnectionManager := {}
  camera : RemoteCameraService := {}
  mirroring : ScreenMirroringService := {}
  targets : Nat → CastTarget := fun _ => {}
  delegating : List Nat := []
  created : List ServiceType := []
  opened : List (Nat × ServiceType) := []
  requests : List LGCastRequest := []
  subscriptions : List ServiceType := []
  unsubscribed : List Nat := []
  closings : List Closing := []
  callbacks : List (ManagerCallback × Option ServiceType) := []
  notifications : List LGCastNotification := []

namespace LGCast

def setState (cast : LGCast) (currentState : ConnectionState) : LGCast :=
  { cast with manager := { cast.manager with currentState } }

/-- `[delegate …]` of one of the services to the object that uses it. -/
def notify (cast : LGCast) (notification : LGCastNotification) : LGCast :=
  { cast with notifications := cast.notifications ++ [notification] }

/-- The manager is connecting or connected. -/
def isActive (cast : LGCast) : Bool :=
  cast.manager.currentState = .connected ∨ cast.manager.currentState = .connecting

/-- The number of the connection whose device is held. -/
def session (cast : LGCast) : Option Nat :=
  cast.manager.tvDevice.map fun _ => cast.opened.length

/-- How many messages were sent to TVs, other than to subscribe. -/
def messages (cast : LGCast) : Nat :=
  cast.requests.length + cast.unsubscribed.length

/-! ## Sending -/

/-- `sendCommandWithService:…` of the webOS TV service, which does nothing without a
client key. The socket is the delegate of the command that sends it. -/
def sendCommand (cast : LGCast) (command : LGCastCommand) (blocks : ReplyBlocks) :
    LGCast :=
  match cast.manager.service with
  | none => cast
  | some service =>
      if (cast.targets service).clientKey.isSome && (cast.targets service).hasSocket then
        { cast with
          requests := cast.requests ++ [{
            command
            blocks
            service
            serviceName := cast.manager.serviceName
            serviceType := cast.manager.serviceType
            session := cast.session }] }
      else
        cast

def sendConnect (cast : LGCast) : LGCast :=
  cast.sendCommand .connect .connect

def sendGetParameter (cast : LGCast) : LGCast :=
  cast.sendCommand .getParameter .getParameter

def sendSetParameter (cast : LGCast) (ignoreResult : Bool) : LGCast :=
  cast.sendCommand .setParameter (.setParameter ignoreResult)

def sendGetParameterResponse (cast : LGCast) : LGCast :=
  if cast.manager.currentState = .connected then
    cast.sendCommand .getParameterResponse .ignored
  else
    cast

def sendSetParameterResponse (cast : LGCast) : LGCast :=
  if cast.manager.currentState = .connected then
    cast.sendCommand .setParameterResponse .ignored
  else
    cast

/-- `[_keepAliveTimer invalidate]`. -/
def invalidateTimer (cast : LGCast) : LGCast :=
  { cast with
    manager := { cast.manager with
      keepAliveTimer := cast.manager.keepAliveTimer.map fun _ => { isValid := false } } }

def sendKeepAlive (cast : LGCast) : LGCast :=
  let cast := cast.invalidateTimer
  let cast := cast.sendCommand .keepAlive .ignored
  { cast with
    manager := { cast.manager with keepAliveTimer := some { isValid := true } } }

/-! ## Opening and closing -/

/-- `setDelegate:` and `connect` of the device end `openConnection:device:`. What comes
of the connecting are events of the device. -/
def openConnection (cast : LGCast) (type : ServiceType) (device : Option TVDevice) :
    LGCast :=
  match device with
  | none => cast
  | some device =>
      { cast with
        manager := { cast.manager with
          currentState := .connecting
          serviceType := type
          serviceName := some type.serviceName
          service := device.webOSTVService
          tvDevice := some device.number }
        delegating := device.number :: cast.delegating.erase device.number
        opened := (device.number, type) :: cast.opened }

/-- `[_tvDevice setDelegate:nil]; _tvDevice = nil`. -/
def releaseDevice (cast : LGCast) : LGCast :=
  match cast.manager.tvDevice with
  | none => cast
  | some device =>
      { cast with
        manager := { cast.manager with tvDevice := none }
        delegating := cast.delegating.erase device }

def unsubscribe (cast : LGCast) : Option Nat → LGCast
  | none => cast
  | some subscription =>
      { cast with unsubscribed := cast.unsubscribed ++ [subscription] }

/-- What the disconnecting tells the manager it ignores, or comes when the device has no
delegate any more. -/
def closeConnection (cast : LGCast) : LGCast :=
  if cast.manager.currentState = .disconnecting then cast
  else
    let closed := cast.setState .disconnecting
    let closed := closed.invalidateTimer
    let closed := closed.sendCommand .teardown .ignored
    let closed := closed.unsubscribe closed.manager.powerStateSubscription
    let closed := closed.unsubscribe closed.manager.commandSubscription
    let closed := closed.releaseDevice
    let closed := closed.setState .none
    { closed with
      closings := cast.closings ++ [{
        sessions := cast.opened.length
        isOpen := cast.manager.tvDevice.isSome
        messages := closed.messages - cast.messages }] }

/-- `_commandSubscription` and `_powerStateSubscription`, which one number stands for.
Their blocks belong to the current connection. -/
def subscribe (cast : LGCast) : LGCast :=
  if cast.isActive then
    if cast.manager.service.any fun service => (cast.targets service).hasSocket then
      { cast with
        manager := { cast.manager with
          commandSubscription := some cast.subscriptions.length
          powerStateSubscription := some cast.subscriptions.length }
        subscriptions := cast.subscriptions ++ [cast.manager.serviceType] }
    else
      { cast with
        manager := { cast.manager with
          commandSubscription := none
          powerStateSubscription := none } }
  else
    cast

end LGCast

end ConnectSDK
