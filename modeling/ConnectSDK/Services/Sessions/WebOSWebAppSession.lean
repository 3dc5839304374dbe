import ConnectSDK.Foundation.RequestBook
import ConnectSDK.Foundation.Run
import ConnectSDK.Helpers.MediaInfo
import ConnectSDK.Services.DeviceService
import ConnectSDK.Services.Helpers.MessageNumbers

/-! # Media commands of a webOS web app session

A session sends its media commands to the web app through a socket, which it first connects
to the app. The app answers them by their request ids. What the answer tells the blocks of a
command is left out, and so are the events and messages that the app sends on its own.
-/

namespace ConnectSDK

/-! ## Commands -/

inductive MediaCommand where
  | displayImage (mediaInfo : MediaInfo)
  | playMedia (mediaInfo : MediaInfo) (shouldLoop : Bool)
  | seek (position : Int)
  | getPosition
  | getDuration
  | getPlayState
  | playNext
  | playPrevious
  | jumpToTrack (index : Int)

namespace MediaCommand

def subtitleTrackIdentifier : String := "0"

def subtitlesDictionary (subtitleInfo : SubtitleInfo) : JSON :=
  let fields : JSON.Fields :=
    [("id", .string subtitleTrackIdentifier), ("source", .string subtitleInfo.url)]
  let fields := fields.setIfSome "language" (subtitleInfo.language.map .string)
  let fields := fields.setIfSome "label" (subtitleInfo.label.map .string)
  .object [("tracks", .array [.object fields]), ("enabled", .string subtitleTrackIdentifier)]

def mediaFields (type : String) (mediaInfo : MediaInfo) : JSON.Fields :=
  let ensureString := fun (value : Option String) => JSON.string (value.getD "")
  [("type", .string type),
    ("mediaURL", ensureString mediaInfo.url),
    ("iconURL", ensureString mediaInfo.iconURL),
    ("title", ensureString mediaInfo.title),
    ("description", ensureString mediaInfo.description),
    ("mimeType", ensureString mediaInfo.mimeType)]

/-- The fields of a command but for its request id. -/
def fields : MediaCommand → JSON.Fields
  | .displayImage mediaInfo => mediaFields "displayImage" mediaInfo
  | .playMedia mediaInfo shouldLoop =>
      ((mediaFields "playMedia" mediaInfo).set "shouldLoop" (.bool shouldLoop)).setIfSome
        "subtitles" (mediaInfo.subtitleInfo.map subtitlesDictionary)
  | .seek position => [("type", .string "seek"), ("position", .number position)]
  | .getPosition => [("type", .string "getPosition")]
  | .getDuration => [("type", .string "getDuration")]
  | .getPlayState => [("type", .string "getPlayState")]
  | .playNext => [("type", .string "playNext")]
  | .playPrevious => [("type", .string "playPrevious")]
  | .jumpToTrack index => [("type", .string "jumpToTrack"), ("index", .number index)]

def messageForMediaCommand (command : MediaCommand) (requestId : String) : JSON :=
  .object [("contentType", .string "connectsdk.mediaCommand"),
    ("mediaCommand", .object (command.fields.set "requestId" (.string requestId)))]

/-- `intValue`, which strings and numbers understand. The value of a missing field or of
`NSNull` is not asked for. -/
def hasIntValue : Option JSON → Bool
  | some (.array _) | some (.object _) => false
  | _ => true

/-- Whether the `callbackComplete` of a command reads a response without an exception. -/
def understands (command : MediaCommand) (response : JSON) : Bool :=
  match command with
  | .getPosition => hasIntValue (response.value? "position")
  | .getDuration => hasIntValue (response.value? "duration")
  | .getPlayState => (stringOrNil (response.value? "playState")).isSome
  | _ => true

end MediaCommand

/-! ## The session -/

structure ActiveCommand where
  number : Nat
  command : MediaCommand

/-- A socket client of the session: whether its web socket is connecting, or it has none, and
whether it is connected. -/
structure SessionSocket where
  number : Nat
  connecting : Bool := true
  connected : Bool := false

/-- The blocks of one call of `connect:success:failure:`. On success they send the message,
on failure they run the failure block of the command, if the call is for one. -/
structure ConnectBlocks where
  joinOnly : Bool := false
  command : Option Nat := none
  message : Option JSON := none

/-- The blocks of a command. -/
inductive CommandBlock where
  | success
  | failure
deriving DecidableEq

/-- Commands are numbered from one by their request ids. `_connectSuccess` and
`_connectFailure` come and go together, as `connectBlocks`. `subscriptions` are the blocks of
every subscription to the app, which keeps calling them. `delegates` are the sockets that
have the session as their delegate, `answers` the blocks that ran. `closed` counts the
commands made before the session or its socket was last closed. -/
structure WebOSMediaSession where
  appId : String
  isWebApp : Bool := true
  appToAppIdMappings : List (String × String) := []
  fullAppId : Option String := none
  connected : Bool := false
  uid : Nat := 0
  activeCommands : Dictionary String ActiveCommand := ∅
  connectBlocks : Option ConnectBlocks := none
  subscriptions : List ConnectBlocks := []
  socket : Option SessionSocket := none
  socketCount : Nat := 0
  delegates : List Nat := []
  sent : List (Nat × JSON) := []
  answers : List (Answer CommandBlock) := []
  closed : Nat := 0

namespace WebOSMediaSession

open WebOSTVServiceSocketClient

/-- The getter `fullAppId`, and the session with what it found. -/
def getFullAppId (session : WebOSMediaSession) : WebOSMediaSession × String :=
  let found :=
    if session.isWebApp then
      (session.appToAppIdMappings.find? fun mapping => mapping.2 == session.appId).map
        Prod.fst
    else some session.appId
  let fullAppId := session.fullAppId.orElse fun _ => found
  ({ session with fullAppId }, fullAppId.getD session.appId)

/-- One of a command's blocks runs. -/
def answer (session : WebOSMediaSession) (command : Nat) (block : CommandBlock) :
    WebOSMediaSession :=
  { session with answers := session.answers ++ [{ request := command, reply := block }] }

/-- The failure block of a call, which only commands have. -/
def fail (session : WebOSMediaSession) (blocks : ConnectBlocks) : WebOSMediaSession :=
  match blocks.command with
  | some command => session.answer command .failure
  | none => session

def disconnectFromWebApp (session : WebOSMediaSession) : WebOSMediaSession :=
  { session with
    connected := false
    connectBlocks := none
    delegates := session.socket.elim session.delegates fun socket =>
      session.delegates.erase socket.number
    socket := none
    closed := session.uid }

/-- `_connectFailure(error)`. -/
def connectFailure (session : WebOSMediaSession) (blocks : ConnectBlocks) :
    WebOSMediaSession :=
  session.disconnectFromWebApp.fail blocks

/-- `connectToWebApp:` of the service, which subscribes to the app. -/
def connectToWebApp (session : WebOSMediaSession) (blocks : ConnectBlocks) :
    WebOSMediaSession :=
  if session.appId.isEmpty then session.connectFailure blocks
  else { session with subscriptions := session.subscriptions ++ [blocks] }

def sendDictionaryOverSocket (session : WebOSMediaSession) (message : JSON) :
    WebOSMediaSession :=
  { session with
    sent := session.sent ++ session.socket.toList.map fun socket => (socket.number, message) }

/-- The branch of `sendP2PMessage:` for a connected session. -/
def sendConnected (session : WebOSMediaSession) (message : JSON) : WebOSMediaSession :=
  let (session, fullAppId) := session.getFullAppId
  session.sendDictionaryOverSocket (.object [("type", .string "p2p"),
    ("to", .string fullAppId), ("payload", message)])

/-- The success block of a call. -/
def succeed (session : WebOSMediaSession) (blocks : ConnectBlocks) : WebOSMediaSession :=
  match blocks.message with
  | some message => session.sendConnected message
  | none => session

def connect (session : WebOSMediaSession) (blocks : ConnectBlocks) : WebOSMediaSession :=
  if session.socket.any SessionSocket.connecting then session.fail blocks
  else if session.connected then session.succeed blocks
  else
    let session := { session with connectBlocks := some blocks }
    if session.socket.any SessionSocket.connected then session.connectToWebApp blocks
    else
      { session with
        socket := some { number := session.socketCount }
        socketCount := session.socketCount + 1
        delegates := session.delegates ++ [session.socketCount] }

def sendP2PMessage (session : WebOSMediaSession) (message : JSON) (command : Option Nat) :
    WebOSMediaSession :=
  if session.connected then session.sendConnected message
  else session.getFullAppId.1.connect { command, message := some message }

/-- What all media commands do. -/
def sendMediaCommand (session : WebOSMediaSession) (command : MediaCommand) :
    WebOSMediaSession :=
  let requestId := session.uid + 1
  let session := { session with
    uid := requestId
    activeCommands := session.activeCommands.insert (requestKey requestId)
      { number := requestId, command } }
  session.sendP2PMessage (command.messageForMediaCommand (requestKey requestId))
    (some requestId)

/-! ## Messages of the app -/

/-- The UTF-16 units of a text. -/
def units (text : String) : List Nat :=
  text.toList.flatMap fun character =>
    if character.toNat < 0x10000 then [character.toNat]
    else [0xD800 + (character.toNat - 0x10000) / 0x400,
      0xDC00 + (character.toNat - 0x10000) % 0x400]

/-- Whether a content type is that of a response: `connectsdk.` stands somewhere in it, and
what follows as many units from its start is the payload key of responses. -/
def isMediaCommandResponse (contentType : String) : Bool :=
  (rangeOfString "connectsdk.".toList contentType.toList).isSome &&
    decide ((units contentType).drop "connectsdk.".length = units "mediaCommandResponse")

/-- The response in the payload of a message, if there is one. A content type that is not a
string raises an exception. -/
def responseOf (message : JSON) : Option (Option JSON) :=
  match message with
  | .object fields =>
      (stringOrNil (JSON.Fields.value? fields "contentType")).map fun contentType =>
        if contentType.any isMediaCommandResponse then
          JSON.Fields.value? fields "mediaCommandResponse"
        else none
  | _ => some none

/-- The command that a response is for. -/
def activeCommand (session : WebOSMediaSession) (requestId : Option JSON) :
    Option ActiveCommand :=
  (requestId.bind JSON.string?).bind fun requestId => session.activeCommands.lookup requestId

def handleMediaCommandResponse (session : WebOSMediaSession) (payload : JSON) :
    Option WebOSMediaSession := do
  let requestId ← objectForKey (some payload) "requestId"
  match session.activeCommand requestId with
  | none => some session
  | some active =>
      let error ← objectForKey (some payload) "error"
      if error.isSome || active.command.understands payload then
        some { session.answer active.number (if error.isNone then .success else .failure) with
          activeCommands := session.activeCommands.erase
            ((requestId.bind JSON.string?).getD "") }
      else none

/-- `socket:didReceiveMessage:` for a message of type `p2p`. -/
def didReceiveMessage (session : WebOSMediaSession) (fromAppId : Option String)
    (message : JSON) : Option WebOSMediaSession :=
  let (session, fullAppId) := session.getFullAppId
  if fromAppId = some fullAppId then
    (responseOf message).bind fun response =>
      match response with
      | some payload => session.handleMediaCommandResponse payload
      | none => some session
  else some session

/-! ## Outcomes of connecting -/

/-- The success callback of a subscription to the app. -/
def connectReceived (session : WebOSMediaSession) (subscription : Nat)
    (state fullAppId : Option String) : WebOSMediaSession :=
  match session.subscriptions[subscription]? with
  | none => session
  | some blocks =>
      if state = some "CONNECTED" then
        let session :=
          match fullAppId with
          | some fullAppId =>
              { session with
                appToAppIdMappings :=
                  if session.isWebApp then
                    (fullAppId, session.appId) :: session.appToAppIdMappings.filter
                      fun mapping => mapping.1 != fullAppId
                  else session.appToAppIdMappings
                fullAppId := some fullAppId }
          | none => session
        { session with connected := true }.succeed blocks
      else if blocks.joinOnly && decide (state = some "WAITING_FOR_APP") then
        session.disconnectFromWebApp.connectFailure blocks
      else session

/-- The failure callback of a subscription to the app. When the app closed its channel, no
failure block runs. -/
def connectFailed (session : WebOSMediaSession) (subscription : Nat)
    (appChannelDidClose : Bool) : WebOSMediaSession :=
  match session.subscriptions[subscription]? with
  | none => session
  | some blocks =>
      let session := session.disconnectFromWebApp
      if appChannelDidClose then session else session.connectFailure blocks

def socketDidConnect (session : WebOSMediaSession) : WebOSMediaSession :=
  match session.connectBlocks with
  | some blocks => { session.connectToWebApp blocks with connectBlocks := none }
  | none => session

/-- `socket:didFailWithError:`, and `socket:didCloseWithError:` with an error. -/
def socketDidFail (session : WebOSMediaSession) : WebOSMediaSession :=
  let offline := { session with connected := false }
  match session.connectBlocks with
  | some blocks => (offline.connectFailure blocks).disconnectFromWebApp
  | none => offline.disconnectFromWebApp

def socketDidClose (session : WebOSMediaSession) (hasError : Bool) : WebOSMediaSession :=
  if hasError then session.socketDidFail else session.disconnectFromWebApp

/-- The service disconnects a session that is registered under its app's id. -/
def closeWithSuccess (session : WebOSMediaSession) (registered : Bool) : WebOSMediaSession :=
  let session := { session with activeCommands := ∅, closed := session.uid }
  if registered && !session.appId.isEmpty then session.disconnectFromWebApp else session

end WebOSMediaSession

/-- Events that come from a socket or a subscription carry its number. -/
inductive MediaSessionEvent where
  | sendMediaCommand (command : MediaCommand)
  | connect (joinOnly : Bool)
  | appIdMapped (fullAppId appId : String)
  | socketChanged (connecting connected : Bool)
  | socketDidConnect (socket : Nat)
  | socketDidFail (socket : Nat)
  | socketDidClose (socket : Nat) (hasError : Bool)
  | didReceiveMessage (socket : Nat) (fromAppId : Option String) (message : JSON)
  | connectReceived (subscription : Nat) (state fullAppId : Option String)
  | connectFailed (subscription : Nat) (appChannelDidClose : Bool)
  | closeWithSuccess (registered : Bool)
  | disconnectFromWebApp

namespace WebOSMediaSession

/-- A message of a socket, which reaches the session as its delegate. -/
def asDelegate (session : WebOSMediaSession) (socket : Nat)
    (act : WebOSMediaSession → Option WebOSMediaSession) : Option WebOSMediaSession :=
  if socket ∈ session.delegates then act session else some session

def step (session : WebOSMediaSession) : MediaSessionEvent → Option WebOSMediaSession
  | .sendMediaCommand command => some (session.sendMediaCommand command)
  | .connect joinOnly => some (session.connect { joinOnly })
  | .appIdMapped fullAppId appId =>
      some { session with
        appToAppIdMappings := (fullAppId, appId) :: session.appToAppIdMappings.filter
          fun mapping => mapping.1 != fullAppId }
  | .socketChanged connecting connected =>
      some { session with
        socket := session.socket.map fun socket => { socket with connecting, connected } }
  | .socketDidConnect socket =>
      session.asDelegate socket fun session => some session.socketDidConnect
  | .socketDidFail socket =>
      session.asDelegate socket fun session => some session.socketDidFail
  | .socketDidClose socket hasError =>
      session.asDelegate socket fun session => some (session.socketDidClose hasError)
  | .didReceiveMessage socket fromAppId message =>
      session.asDelegate socket fun session => session.didReceiveMessage fromAppId message
  | .connectReceived subscription state fullAppId =>
      some (session.connectReceived subscription state fullAppId)
  | .connectFailed subscription appChannelDidClose =>
      some (session.connectFailed subscription appChannelDidClose)
  | .closeWithSuccess registered => some (session.closeWithSuccess registered)
  | .disconnectFromWebApp => some session.disconnectFromWebApp

end WebOSMediaSession

end ConnectSDK
