import ConnectSDK.Services.Sessions.WebOSWebAppSession

/-! # Messages to a web app

`sendText` and `sendJSON` of a webOS web app session, which first connect a session that is
not connected. What the failure blocks are told is left out, and so are the messages that
come from the app and the media commands.
-/

namespace ConnectSDK

/-- The blocks of one call of `connect:success:failure:`: those of a client of the session,
who is not told here, or those that `sendP2PMessage:` makes for the message of a call. -/
inductive MessageBlocks where
  | client (joinOnly : Bool)
  | sendP2PMessage (call : Nat) (message : JSON)

namespace MessageBlocks

def joinOnly : MessageBlocks → Bool
  | .client joinOnly => joinOnly
  | .sendP2PMessage .. => false

def call : MessageBlocks → Option Nat
  | .client _ => none
  | .sendP2PMessage call _ => some call

/-- What the failure block answers. -/
def failure (blocks : MessageBlocks) : Option (Answer CommandBlock) :=
  blocks.call.map fun call => { request := call, reply := .failure }

end MessageBlocks

/-- A subscription to the app, which the socket client of the session calls. -/
structure AppSubscription where
  socket : Nat
  blocks : MessageBlocks

/-- `fullAppId` is what the getter returns. `connectBlocks` are `_connectSuccess` and
`_connectFailure`. `subscriptions` are those that a socket client may still call,
`delegates` the sockets that have the session as their delegate. `calls` are the calls of
`sendText` and `sendJSON` and the blocks that ran. -/
structure WebOSMessageSession where
  appId : String
  fullAppId : String
  connected : Bool := false
  connectBlocks : Option MessageBlocks := none
  subscriptions : List AppSubscription := []
  socket : Option SessionSocket := none
  socketCount : Nat := 0
  delegates : List Nat := []
  sent : List (Nat × JSON) := []
  calls : RequestBook CommandBlock := {}

namespace WebOSMessageSession

/-- One of the blocks of a call runs. -/
def answer (session : WebOSMessageSession) (call : Nat) (block : CommandBlock) :
    WebOSMessageSession :=
  { session with calls := session.calls.record (some { request := call, reply := block }) }

def fail (session : WebOSMessageSession) (blocks : MessageBlocks) : WebOSMessageSession :=
  { session with calls := session.calls.record blocks.failure }

def disconnectFromWebApp (session : WebOSMessageSession) : WebOSMessageSession :=
  { session with
    connected := false
    connectBlocks := none
    delegates := session.socket.elim session.delegates fun socket =>
      session.delegates.erase socket.number
    socket := none }

/-- `_connectFailure(error)`. -/
def connectFailure (session : WebOSMessageSession) (blocks : MessageBlocks) :
    WebOSMessageSession :=
  session.disconnectFromWebApp.fail blocks

/-- `connectToWebApp:` of the service. Without a socket nobody calls the subscription. -/
def connectToWebApp (session : WebOSMessageSession) (blocks : MessageBlocks) :
    WebOSMessageSession :=
  if session.appId.isEmpty then session.connectFailure blocks
  else
    { session with
      subscriptions := session.subscriptions ++ session.socket.toList.map fun socket =>
        { socket := socket.number, blocks } }

def sendDictionaryOverSocket (session : WebOSMessageSession) (payload : JSON) :
    WebOSMessageSession :=
  { session with
    sent := session.sent ++ session.socket.toList.map fun socket => (socket.number, payload) }

/-- The branch of `sendP2PMessage:` for a connected session. -/
def sendConnected (session : WebOSMessageSession) (call : Nat) (message : JSON) :
    WebOSMessageSession :=
  (session.sendDictionaryOverSocket (.object [("type", .string "p2p"),
    ("to", .string session.fullAppId), ("payload", message)])).answer call .success

/-- The success block of a connect, which runs for a connected session only. That of a
message sends it, which tells the caller, and then tells the caller once more. -/
def succeed (session : WebOSMessageSession) : MessageBlocks → WebOSMessageSession
  | .client _ => session
  | .sendP2PMessage call message => (session.sendConnected call message).answer call .success

/-- `connect:success:failure:` for a session that neither is connected nor has a socket that
is connecting. -/
def connectIdle (session : WebOSMessageSession) (blocks : MessageBlocks) :
    WebOSMessageSession :=
  let session := { session with connectBlocks := some blocks }
  if session.socket.any SessionSocket.connected then session.connectToWebApp blocks
  else
    { session with
      socket := some { number := session.socketCount }
      socketCount := session.socketCount + 1
      delegates := session.delegates ++ [session.socketCount] }

def connect (session : WebOSMessageSession) (blocks : MessageBlocks) : WebOSMessageSession :=
  if session.socket.any SessionSocket.connecting then session.fail blocks
  else if session.connected then session.succeed blocks
  else session.connectIdle blocks

def sendP2PMessage (session : WebOSMessageSession) (call : Nat) (message : JSON) :
    WebOSMessageSession :=
  if session.connected then session.sendConnected call message
  else session.connect (.sendP2PMessage call message)

/-- What both kinds of messages have in common. An empty message is as good as none. -/
def send (session : WebOSMessageSession) (message : Option JSON) : WebOSMessageSession :=
  let session := { session with calls := session.calls.issue }
  match message with
  | none => session.answer session.calls.issued .failure
  | some message => session.sendP2PMessage session.calls.issued message

def sendText (session : WebOSMessageSession) (message : Option String) :
    WebOSMessageSession :=
  session.send ((message.filter fun message => !message.isEmpty).map .string)

def sendJSON (session : WebOSMessageSession) (message : Option JSON.Fields) :
    WebOSMessageSession :=
  session.send ((message.filter fun message => !message.isEmpty).map .object)

/-! ## Outcomes of connecting -/

/-- The success callback of a subscription to the app. -/
def connectReceived (session : WebOSMessageSession) (subscription : Nat)
    (state fullAppId : Option String) : WebOSMessageSession :=
  match session.subscriptions[subscription]? with
  | none => session
  | some held =>
      if state = some "CONNECTED" then
        { session with
          fullAppId := fullAppId.getD session.fullAppId
          connected := true }.succeed held.blocks
      else if held.blocks.joinOnly && decide (state = some "WAITING_FOR_APP") then
        session.disconnectFromWebApp.connectFailure held.blocks
      else session

/-- The failure callback of a subscription to the app. When the app closed its channel, no
failure block runs. -/
def connectFailed (session : WebOSMessageSession) (subscription : Nat)
    (appChannelDidClose : Bool) : WebOSMessageSession :=
  match session.subscriptions[subscription]? with
  | none => session
  | some held =>
      let session := session.disconnectFromWebApp
      if appChannelDidClose then session else session.connectFailure held.blocks

/-- A socket client forgets its subscriptions as its web socket closes, and is gone itself
when nobody has it any longer. -/
def subscriptionsForgotten (session : WebOSMessageSession) (socket : Nat) :
    WebOSMessageSession :=
  { session with
    subscriptions := session.subscriptions.filter fun held => held.socket != socket }

def socketDidConnect (session : WebOSMessageSession) : WebOSMessageSession :=
  match session.connectBlocks with
  | some blocks => { session.connectToWebApp blocks with connectBlocks := none }
  | none => session

/-- `socket:didFailWithError:`, and `socket:didCloseWithError:` with an error. -/
def socketDidFail (session : WebOSMessageSession) : WebOSMessageSession :=
  let offline := { session with connected := false }
  match session.connectBlocks with
  | some blocks => (offline.connectFailure blocks).disconnectFromWebApp
  | none => offline.disconnectFromWebApp

def socketDidClose (session : WebOSMessageSession) (hasError : Bool) : WebOSMessageSession :=
  if hasError then session.socketDidFail else session.disconnectFromWebApp

/-- The service disconnects a session that is registered under its app's id. -/
def closeWithSuccess (session : WebOSMessageSession) (registered : Bool) :
    WebOSMessageSession :=
  if registered && !session.appId.isEmpty then session.disconnectFromWebApp else session

end WebOSMessageSession

/-- Events that come from a socket or a subscription carry its number. -/
inductive MessageSessionEvent where
  | sendText (message : Option String)
  | sendJSON (message : Option JSON.Fields)
  | connect (joinOnly : Bool)
  | fullAppIdFound (fullAppId : String)
  | socketChanged (connecting connected : Bool)
  | socketDidConnect (socket : Nat)
  | socketDidFail (socket : Nat)
  | socketDidClose (socket : Nat) (hasError : Bool)
  | connectReceived (subscription : Nat) (state fullAppId : Option String)
  | connectFailed (subscription : Nat) (appChannelDidClose : Bool)
  | subscriptionsForgotten (socket : Nat)
  | closeWithSuccess (registered : Bool)
  | disconnectFromWebApp

namespace WebOSMessageSession

/-- A message of a socket, which reaches the session as its delegate. -/
def asDelegate (session : WebOSMessageSession) (socket : Nat)
    (act : WebOSMessageSession → WebOSMessageSession) : WebOSMessageSession :=
  if socket ∈ session.delegates then act session else session

def step (session : WebOSMessageSession) : MessageSessionEvent → WebOSMessageSession
  | .sendText message => session.sendText message
  | .sendJSON message => session.sendJSON message
  | .connect joinOnly => session.connect (.client joinOnly)
  | .fullAppIdFound fullAppId => { session with fullAppId }
  | .socketChanged connecting connected =>
      { session with
        socket := session.socket.map fun socket => { socket with connecting, connected } }
  | .socketDidConnect socket => session.asDelegate socket socketDidConnect
  | .socketDidFail socket => session.asDelegate socket socketDidFail
  | .socketDidClose socket hasError =>
      session.asDelegate socket fun session => session.socketDidClose hasError
  | .connectReceived subscription state fullAppId =>
      session.connectReceived subscription state fullAppId
  | .connectFailed subscription appChannelDidClose =>
      session.connectFailed subscription appChannelDidClose
  | .subscriptionsForgotten socket => session.subscriptionsForgotten socket
  | .closeWithSuccess registered => session.closeWithSuccess registered
  | .disconnectFromWebApp => session.disconnectFromWebApp

/-- Nothing raises an exception. -/
def stepped (session : WebOSMessageSession) (event : MessageSessionEvent) :
    Option WebOSMessageSession :=
  some (session.step event)

end WebOSMessageSession

end ConnectSDK
