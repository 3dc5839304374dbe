import ConnectSDK.Services.Helpers.LGCast.ConnectionManager

/-! # The camera and the mirroring service

Their callbacks as delegates of the connection manager, what the manager does around
them, and the blocks of its commands and subscriptions. What the capabilities of the two
sides hold is left out.
-/

namespace ConnectSDK

open LGCast

/-! ## Callbacks of the camera service -/

namespace RemoteCameraService

def onPairingRejected (cast : LGCast) : LGCast :=
  { cast with camera := { cast.camera with isRunning := false } }.notify
    (.didStart .remoteCamera false)

def onConnectionFailed (cast : LGCast) : LGCast :=
  { cast with camera := { isRunning := false, isPlaying := false } }.notify
    (.didStart .remoteCamera false)

def onReceivePlayCommand (cast : LGCast) (values : JSON) : Option LGCast := do
  match ← objectForKey values "camera" with
  | none => some cast
  | some cameraObj =>
      let _ ← objectForKey cameraObj "videoPort"
      let cast := cast.notify .didPlay
      some { cast with camera := { cast.camera with isPlaying := true } }

def onReceiveStopCommand (cast : LGCast) : LGCast :=
  { cast with camera := { cast.camera with isPlaying := false } }

def onReceiveGetParameter (cast : LGCast) : LGCast :=
  cast.sendGetParameterResponse

/-- Only brightness and white balance are changes that the delegate is told of. -/
def onReceiveSetParameter (cast : LGCast) (values : JSON) : Option LGCast := do
  match ← objectForKey values "camera" with
  | none => some cast
  | some cameraObj =>
      let brightness ← objectForKey cameraObj "brightness"
      let cast := if brightness.isSome then cast.notify .didChange else cast
      let whiteBalance ← objectForKey cameraObj "whiteBalance"
      let cast := if whiteBalance.isSome then cast.notify .didChange else cast
      let autoWhiteBalance ← objectForKey cameraObj "autoWhiteBalance"
      let facing ← objectForKey values "facing"
      let audio ← objectForKey cameraObj "audio"
      if [brightness, whiteBalance, autoWhiteBalance, facing, audio].any Option.isSome then
        some cast.sendSetParameterResponse
      else
        some cast

def onError (cast : LGCast) (error : ConnectionError) : LGCast :=
  { cast with camera := { isRunning := false, isPlaying := false } }.closeConnection.notify
    (.errorDidOccur .remoteCamera error)

end RemoteCameraService

/-! ## Callbacks of the mirroring service -/

namespace ScreenMirroringService

def onPairingRejected (cast : LGCast) : LGCast :=
  { cast with mirroring := { cast.mirroring with isRunning := false } }.notify
    (.didStart .screenMirroring false)

def onConnectionFailed (cast : LGCast) : LGCast :=
  { cast with mirroring := { cast.mirroring with isRunning := false } }.notify
    (.didStart .screenMirroring false)

def updateCapability (cast : LGCast) : LGCast :=
  if cast.mirroring.isRunning then cast.sendSetParameter true else cast

def onReceiveSetParameter (cast : LGCast) (values : JSON) : Option LGCast := do
  match ← objectForKey values "mirroring" with
  | none => some cast
  | some mirroringValues =>
      if cast.mirroring.hasCapabilities then
        let _ ← stringOrNil (← objectForKey mirroringValues "displayOrientation")
        some (updateCapability cast)
      else
        some cast

def onError (cast : LGCast) (error : ConnectionError) : LGCast :=
  { cast with mirroring := { cast.mirroring with isRunning := false } }.notify
    (.errorDidOccur .screenMirroring error)

end ScreenMirroringService

namespace LGCast

/-! ## The manager's calls of its delegate -/

/-- Logs a callback to the delegate. -/
def callDelegate (cast : LGCast) (callback : ManagerCallback) : LGCast :=
  { cast with callbacks := cast.callbacks ++ [(callback, cast.manager.delegate)] }

/-- The method is empty: nobody is called. -/
def callOnPairingRequested (cast : LGCast) : LGCast :=
  { cast with callbacks := cast.callbacks ++ [(.pairingRequested, none)] }

def callOnPairingRejected (cast : LGCast) : LGCast :=
  let cast := cast.setState .none
  let cast := cast.callDelegate .pairingRejected
  match cast.manager.delegate with
  | none => cast
  | some .remoteCamera => RemoteCameraService.onPairingRejected cast
  | some .screenMirroring => ScreenMirroringService.onPairingRejected cast

def callOnConnectionFailed (cast : LGCast) (message : String) : LGCast :=
  let cast := cast.closeConnection
  let cast := cast.setState .none
  let cast := cast.callDelegate (.connectionFailed message)
  match cast.manager.delegate with
  | none => cast
  | some .remoteCamera => RemoteCameraService.onConnectionFailed cast
  | some .screenMirroring => ScreenMirroringService.onConnectionFailed cast

def setSourceDeviceInfo (cast : LGCast) (sourceInfo deviceInfo : Option JSON.Fields) :
    LGCast :=
  match sourceInfo, deviceInfo with
  | some _, some _ => cast.sendCommand .setParameter .sourceDeviceInfo
  | _, _ => cast.callOnConnectionFailed "setSourceDeviceInfo failure"

end LGCast

def RemoteCameraService.onConnectionCompleted (platform : LGCastPlatform)
    (cast : LGCast) : LGCast :=
  (cast.setSourceDeviceInfo (some (platform.capabilities .remoteCamera))
    (some platform.deviceInfo)).notify (.didStart .remoteCamera true)

def ScreenMirroringService.onConnectionCompleted (platform : LGCastPlatform)
    (cast : LGCast) : LGCast :=
  { cast with
    mirroring := { cast.mirroring with hasCapabilities := true } }.setSourceDeviceInfo
    (some (platform.capabilities .screenMirroring)) (some platform.deviceInfo)

namespace LGCast

def callOnConnectionCompleted (platform : LGCastPlatform) (cast : LGCast)
    (values : JSON) : LGCast :=
  let cast := cast.setState .connected
  let cast := cast.callDelegate (.connectionCompleted values)
  match cast.manager.delegate with
  | none => cast
  | some .remoteCamera => RemoteCameraService.onConnectionCompleted platform cast
  | some .screenMirroring => ScreenMirroringService.onConnectionCompleted platform cast

def callOnReceivePlayCommand (cast : LGCast) (values : JSON) : Option LGCast :=
  let cast := cast.callDelegate (.receivePlayCommand values)
  match cast.manager.delegate with
  | some .remoteCamera => RemoteCameraService.onReceivePlayCommand cast values
  | _ => some cast

def callOnReceiveStopCommand (cast : LGCast) (values : JSON) : LGCast :=
  let cast := cast.callDelegate (.receiveStopCommand values)
  match cast.manager.delegate with
  | some .remoteCamera => RemoteCameraService.onReceiveStopCommand cast
  | _ => cast

def callOnReceiveGetParameter (cast : LGCast) (values : JSON) : LGCast :=
  let cast := cast.callDelegate (.receiveGetParameter values)
  match cast.manager.delegate with
  | some .remoteCamera => RemoteCameraService.onReceiveGetParameter cast
  | _ => cast

def callOnReceiveSetParameter (cast : LGCast) (values : JSON) : Option LGCast :=
  let cast := cast.callDelegate (.receiveSetParameter values)
  match cast.manager.delegate with
  | none => some cast
  | some .remoteCamera => RemoteCameraService.onReceiveSetParameter cast values
  | some .screenMirroring => ScreenMirroringService.onReceiveSetParameter cast values

def callOnError (cast : LGCast) (error : ConnectionError) (message : String) : LGCast :=
  let cast := cast.closeConnection
  let cast := cast.setState .none
  let cast := cast.callDelegate (.error error message)
  match cast.manager.delegate with
  | none => cast
  | some .remoteCamera => RemoteCameraService.onError cast error
  | some .screenMirroring => ScreenMirroringService.onError cast error

/-! ## Blocks of the commands -/

/-- The success block. Without a value only the one of `sendGetParameter` does
nothing. -/
def succeed (platform : LGCastPlatform) (cast : LGCast) (response : Option JSON) :
    ReplyBlocks → LGCast
  | .connect => cast.sendGetParameter
  | .getParameter =>
      match response with
      | none => cast
      | some json => callOnConnectionCompleted platform cast json
  | .sourceDeviceInfo => cast.sendKeepAlive
  | .setParameter _ => cast
  | .ignored => cast

/-- The failure block. -/
def fail (cast : LGCast) (error : Option NSError) (blocks : ReplyBlocks) : LGCast :=
  match error, blocks.failureMessage with
  | some _, some message => cast.callOnConnectionFailed message
  | _, _ => cast

/-! ## Blocks of the subscriptions -/

def handleSubscribed (cast : LGCast) (response : JSON) : Option LGCast := do
  if (← objectForKey response "subscribed").isSome then
    some cast.sendConnect
  else
    some (cast.callOnConnectionFailed "subscribe failure")

/-- `if ([command caseInsensitiveCompare:text] == NSOrderedSame)`. -/
def ifSame (platform : LGCastPlatform) (cast : LGCast) (command text : String)
    (act : LGCast → Option LGCast) : Option LGCast :=
  if platform.isSame command text = some true then act cast else some cast

/-- The comparisons that end `handleCommand:`. -/
def handleText (platform : LGCastPlatform) (cast : LGCast) (response : JSON)
    (command : String) : Option LGCast := do
  let cast ← ifSame platform cast command "PLAY" fun cast =>
    cast.callOnReceivePlayCommand response
  let cast ← ifSame platform cast command "TEARDOWN" fun cast =>
    some (cast.callOnError .rendererTerminated "renderer terminated")
  let cast ← ifSame platform cast command "STOP" fun cast =>
    some (cast.callOnReceiveStopCommand response)
  let cast ← ifSame platform cast command "GET_PARAMETER" fun cast =>
    some (cast.callOnReceiveGetParameter response)
  ifSame platform cast command "SET_PARAMETER" fun cast =>
    cast.callOnReceiveSetParameter response

/-- Whether a command is for this device: its client key is none, or that of the
service. -/
def isCurrentClientKey (platform : LGCastPlatform) (cast : LGCast) :
    Option String → Option Bool
  | none => some true
  | some clientKey =>
      platform.isSame clientKey (cast.manager.service.bind fun service =>
        (cast.targets service).clientKey)

def handleCommand (platform : LGCastPlatform) (cast : LGCast) (response : JSON) :
    Option LGCast := do
  let clientKey ← stringOrNil (← objectForKey response "clientKey")
  let matched ← isCurrentClientKey platform cast clientKey
  if matched then
    match ← stringOrNil (← objectForKey response "cmd") with
    | none => some cast
    | some command => handleText platform cast response command
  else
    some cast

/-- The success block of `commandSubscribe`. -/
def commandReceived (platform : LGCastPlatform) (cast : LGCast) (response : Option JSON) :
    Option LGCast :=
  match response with
  | none => some cast
  | some response =>
      if cast.isActive then do
        if (← objectForKey response "subscribed").isSome then
          cast.handleSubscribed response
        else if (← objectForKey response "cmd").isSome then
          handleCommand platform cast response
        else
          some cast
      else
        some (cast.unsubscribe cast.manager.commandSubscription)

/-- The failure block of `commandSubscribe`. -/
def commandFailed (cast : LGCast) : Option NSError → LGCast
  | none => cast
  | some _ => cast.callOnError .connectionClosed "subscribe error"

/-- The success block of `powerStateSubscribe`. -/
def powerStateReceived (platform : LGCastPlatform) (cast : LGCast)
    (response : Option JSON) : Option LGCast := do
  match ← stringOrNil (← objectForKey response "processing") with
  | none => some cast
  | some processing =>
      if platform.isSame processing "Request Power Off" = some true then
        some (cast.callOnError .deviceShutdown "Device shut down")
      else
        some cast

/-! ## Callbacks of the device -/

def connectableDeviceDisconnected (cast : LGCast) : LGCast :=
  match cast.manager.currentState with
  | .connecting => cast.callOnPairingRejected
  | .connected => cast.callOnError .deviceShutdown "device disconnected"
  | _ => cast

end LGCast

end ConnectSDK
