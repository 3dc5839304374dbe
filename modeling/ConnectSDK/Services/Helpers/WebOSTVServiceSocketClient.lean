import ConnectSDK.Foundation.Dictionary
import ConnectSDK.Helpers.ConnectError
import ConnectSDK.Services.Commands.ServiceCommand
import ConnectSDK.Services.WebOSTVService

/-! # The webOS TV socket client

The client's methods, one event of its surroundings at a time: a call of the
API, a message of its web socket, a change of the app's state, or the next
block of the main queue. A message that the receiver does not understand raises
an exception, and the step has no result.
-/

namespace ConnectSDK

/-- What the client reads of the app and the device it runs on, how JSON is
serialized, and how an array or a dictionary prints. -/
structure Platform where
  writeToJSON : JSON → String
  collectionDescription : JSON → String
  sdkVersion : String := "1.6.0"
  deviceModel : Option String := none
  screenResolution : String := "0x0"
  bundleIdentifier : String := ""
  infoDictionary : String → Option String := fun _ => none

def Platform.description (platform : Platform) : Option JSON → String :=
  JSON.description platform.collectionDescription

inductive ReadyState where
  | connecting
  | open
  | closing
  | closed
deriving DecidableEq

def ReadyState.rawValue : ReadyState → Nat
  | .connecting => 0
  | .open => 1
  | .closing => 2
  | .closed => 3

/-- The web socket in `_socket`. It is the one whose delegate is the client. -/
structure LGSRWebSocket where
  number : Nat
  readyState : ReadyState := .connecting
deriving DecidableEq

/-- The method that hands a string to a web socket. -/
inductive Sender where
  | helloTv
  | registerWithTv
  | sendStringOverSocket
deriving DecidableEq

/-- What the client asks of a web socket. All of it is carried out later, on a
queue of the socket's own. -/
inductive SocketCall where
  | open (url : String) (sslPinnedCertificates : Option (List JSON))
  | send (sender : Sender) (text : String)
  | close (code : Nat) (reason : String)

/-- A block on the main queue. -/
inductive MainBlock where
  | complete (command : Ref ServiceCommand) (response : Option JSON)
  | failed (command : Ref ServiceCommand) (error : NSError)
  | rejected (command : Ref ServiceCommand) (error : NSError)

/-- The command whose callback the block runs. -/
def MainBlock.command : MainBlock → Ref ServiceCommand
  | .complete command _ => command
  | .failed command _ => command
  | .rejected command _ => command

inductive DelegateCall where
  | socketDidConnect
  | didCloseWithError (error : Option NSError)
  | didFailWithError (error : NSError)
  | closeByResponse (error : NSError)
  | socketWillRegister
  | registrationFailed (error : NSError)

/-- Which optional methods the delegate has. -/
structure SocketClientDelegate where
  hasSocketWillRegister : Bool := true
  hasDidReceiveMessage : Bool := false

/-- What a user's blocks are run with. -/
inductive Reply where
  | success (response : Option JSON)
  | failure (error : NSError)

/-- `_UID` is an `int` that nothing ever decreases. The fields from `mainQueue` on
log what the client has done to its surroundings, and the strings it was given to
send. -/
structure WebOSTVServiceSocketClient where
  service : WebOSTVService
  delegate : Option SocketClientDelegate := none
  uid : Nat := 0
  connected : Bool := false
  socket : Option LGSRWebSocket := none
  commandQueue : List String := []
  activeConnections : Dictionary String (Ref ServiceCommand) := ∅
  subscribed : Dictionary String (Ref ServiceCommand) := ∅
  savedSubscriptions : Dictionary String (Ref ServiceCommand) := ∅
  reconnectOnWake : Bool := false
  observesAppState : Bool := false
  shouldDisconnectOnBackground : Bool := true
  commands : Heap ServiceCommand := Heap.empty {}
  mainQueue : List MainBlock := []
  socketCount : Nat := 0
  socketCalls : List (Nat × SocketCall) := []
  submitted : List String := []
  delegateCalls : List DelegateCall := []
  replies : List (List UserBlock × Reply) := []

/-- An object that is sent, or compared by, `isEqualToString:`. -/
def stringOrNil : Option JSON → Option (Option String)
  | none => some none
  | some (.string value) => some (some value)
  | some _ => none

namespace WebOSTVServiceSocketClient

def createCommand (client : WebOSTVServiceSocketClient) (command : ServiceCommand) :
    WebOSTVServiceSocketClient :=
  { client with commands := client.commands.allocate command }

def modifyCommand (client : WebOSTVServiceSocketClient) (command : Ref ServiceCommand)
    (change : ServiceCommand → ServiceCommand) : WebOSTVServiceSocketClient :=
  { client with commands := client.commands.modify command change }

/-- A message to an object. A reference to none stands for `nil`, which does
nothing. -/
def toObject (client : WebOSTVServiceSocketClient) (command : Ref ServiceCommand)
    (act : WebOSTVServiceSocketClient → Option WebOSTVServiceSocketClient) :
    Option WebOSTVServiceSocketClient :=
  if client.commands.Allocated command then act client else some client

/-- The client after `getNextId`, which returns the new `_UID`. -/
def getNextId (client : WebOSTVServiceSocketClient) : WebOSTVServiceSocketClient :=
  { client with uid := client.uid + 1 }

/-- A connection key for a message id that prints as given. -/
def connectionKeyForMessageId (messageId : String) : String :=
  "req" ++ messageId

/-- The connection key of an id that `getNextId` returned. -/
def requestKey (messageId : Nat) : String :=
  connectionKeyForMessageId (toString messageId)

def setActiveConnection (client : WebOSTVServiceSocketClient) (key : String)
    (command : Ref ServiceCommand) : WebOSTVServiceSocketClient :=
  { client with activeConnections := client.activeConnections.insert key command }

/-- A message to `_socket`, lost when that is `nil`. What a connecting socket is sent
is noted, too, although its `send:` raises. -/
def callSocket (client : WebOSTVServiceSocketClient) (call : SocketCall) :
    WebOSTVServiceSocketClient :=
  { client with
    socketCalls := client.socketCalls ++
      client.socket.toList.map fun socket => (socket.number, call) }

/-- `[_socket send:sendString]`, after which the string is taken out of the
command queue. -/
def sendNow (client : WebOSTVServiceSocketClient) (sender : Sender)
    (sendString : String) : WebOSTVServiceSocketClient :=
  let sent := client.callSocket (.send sender sendString)
  { sent with commandQueue := sent.commandQueue.filter fun queued => queued != sendString }

def callDelegate (client : WebOSTVServiceSocketClient) (call : DelegateCall) :
    WebOSTVServiceSocketClient :=
  { client with
    delegateCalls := client.delegateCalls ++ client.delegate.toList.map fun _ => call }

def dispatchOnMain (client : WebOSTVServiceSocketClient) (blocks : List MainBlock) :
    WebOSTVServiceSocketClient :=
  { client with mainQueue := client.mainQueue ++ blocks }

def generateError (platform : Platform) (code : ConnectStatusCode)
    (details : Option JSON) : NSError :=
  ConnectError.generateErrorWithCode platform.collectionDescription code details

/-! ## Hello and registration messages -/

def helloPayload (platform : Platform) : JSON :=
  let ensureString := fun (value : Option String) => JSON.string (value.getD "")
  .object [
    ("sdkVersion", .string platform.sdkVersion),
    ("deviceModel", ensureString platform.deviceModel),
    ("OSVersion", ensureString (platform.infoDictionary "DTPlatformVersion")),
    ("resolution", .string platform.screenResolution),
    ("appId", .string platform.bundleIdentifier),
    ("appName", ensureString (platform.infoDictionary "CFBundleDisplayName")),
    ("appRegion", ensureString (platform.infoDictionary "CFBundleDevelopmentRegion"))]

def helloCommand (platform : Platform) : ServiceCommand where
  payload := some (helloPayload platform).fields
  callbackComplete := some .hello
  callbackError := some .hello

def helloMessage (platform : Platform) (dataId : Nat) : String :=
  platform.writeToJSON (.object [
    ("id", .number dataId),
    ("type", .string "hello"),
    ("payload", helloPayload platform)])

def helloTv (platform : Platform) (client : WebOSTVServiceSocketClient) :
    WebOSTVServiceSocketClient :=
  let hello := client.commands.fresh
  let client := client.createCommand (helloCommand platform)
  let client := client.setActiveConnection "hello" hello
  let client := client.getNextId
  client.sendNow .helloTv (helloMessage platform client.uid)

def manifest (platform : Platform) (service : WebOSTVService) : JSON :=
  let bundleName := ((platform.infoDictionary "CFBundleDisplayName").orElse
    fun _ => platform.infoDictionary "CFBundleName").getD ""
  .object [
    ("manifestVersion", .number 1),
    ("appId", .string platform.bundleIdentifier),
    ("vendorId", .string ""),
    ("localizedAppNames", .object [("", .string bundleName)]),
    ("permissions", .array (service.permissions.map .string))]

def pairingTypeToString : DeviceServicePairingType → String
  | .firstScreen => "PROMPT"
  | .pinCode => "PIN"
  | .mixed => "COMBINED"
  | _ => ""

def pairingStringToType (pairingString : String) : DeviceServicePairingType :=
  if pairingString = "PROMPT" then .firstScreen
  else if pairingString = "PIN" then .pinCode
  else if pairingString = "COMBINED" then .mixed
  else .none

/-- The dictionary that `encodeData:andAddress:withId:` serializes, for an id
that is not negative. Without an address it is a `register` message. -/
def encodedFields (service : WebOSTVService) (data : JSON.Fields)
    (address : Option String) (requestId : Nat) : JSON.Fields :=
  let sendData := JSON.Fields.set [] "id" (.string (toString requestId))
  match address with
  | some uri =>
      let sendData := sendData.set "payload" (.object data)
      let sendData := sendData.set "uri" (.string uri)
      sendData.set "type" (.string "request")
  | none =>
      let clientKey := service.serviceConfig.clientKey.map JSON.string
      let sendData :=
        sendData.set "payload" (.object (data.setIfSome "client-key" clientKey))
      sendData.set "type" (.string "register")

def encodeData (platform : Platform) (service : WebOSTVService) (data : JSON.Fields)
    (address : Option String) (requestId : Nat) : String :=
  platform.writeToJSON (.object (encodedFields service data address requestId))

def registerCommand : ServiceCommand where
  callbackComplete := some .register
  callbackError := some .register

def registerInfo (platform : Platform) (service : WebOSTVService) : JSON.Fields :=
  [("manifest", manifest platform service),
    ("pairingType", .string (pairingTypeToString service.pairingType))]

def registerMessage (platform : Platform) (service : WebOSTVService) (dataId : Nat) :
    String :=
  encodeData platform service (registerInfo platform service) none dataId

def registerWithTv (platform : Platform) (client : WebOSTVServiceSocketClient) :
    WebOSTVServiceSocketClient :=
  let reg := client.commands.fresh
  let client := client.createCommand registerCommand
  let client := client.getNextId
  let client := client.setActiveConnection (requestKey client.uid) reg
  client.sendNow .registerWithTv (registerMessage platform client.service client.uid)

/-! ## Connection and disconnection -/

def webSocketDidOpen (platform : Platform) (client : WebOSTVServiceSocketClient) :
    WebOSTVServiceSocketClient :=
  helloTv platform { client with connected := true }

def createSocket (platform : Platform) (client : WebOSTVServiceSocketClient) :
    WebOSTVServiceSocketClient :=
  let description := client.service.serviceDescription
  let socketPath := "wss://" ++ platform.description (description.address.map .string) ++
    ":" ++ toString description.port
  let client := { client with
    socket := some { number := client.socketCount }
    socketCount := client.socketCount + 1 }
  client.callSocket
    (.open socketPath client.service.serviceConfig.sslCertificates)

def openSocket (platform : Platform) (client : WebOSTVServiceSocketClient) :
    WebOSTVServiceSocketClient :=
  match client.socket.map LGSRWebSocket.readyState with
  | some .open => webSocketDidOpen platform client
  | some .connecting => client
  | some .closed | some .closing => createSocket platform { client with socket := none }
  | none => createSocket platform client

def closeSocket (client : WebOSTVServiceSocketClient) (reason : String) :
    WebOSTVServiceSocketClient :=
  match client.socket.map LGSRWebSocket.readyState with
  | some .open | some .connecting => client.callSocket (.close 1000 reason)
  | _ => client

def disconnectWithError (client : WebOSTVServiceSocketClient)
    (error : Option NSError) : WebOSTVServiceSocketClient :=
  let client := { client with
    observesAppState := client.observesAppState && client.reconnectOnWake
    connected := false }
  let client := client.closeSocket
    ((error.map NSError.localizedDescription).getD "Disconnected by client")
  let client := { client with subscribed := ∅ }
  client.callDelegate (.didCloseWithError error)

def hAppDidEnterBackground (client : WebOSTVServiceSocketClient) :
    WebOSTVServiceSocketClient :=
  if client.connected then
    { client with
      reconnectOnWake := true
      savedSubscriptions := client.subscribed }.disconnectWithError none
  else
    client

def hAppDidBecomeActive (platform : Platform) (client : WebOSTVServiceSocketClient) :
    WebOSTVServiceSocketClient :=
  if client.reconnectOnWake then
    { openSocket platform client with reconnectOnWake := false }
  else
    client

/-! ## Sending -/

def enqueue (client : WebOSTVServiceSocketClient) (payload : String) :
    WebOSTVServiceSocketClient :=
  { client with commandQueue := client.commandQueue ++ [payload] }

/-- Without a socket `openSocket` makes one, so the state of no socket is never
asked for. It would read as `LGSR_CONNECTING`. -/
def sendStringOverSocket (platform : Platform) (client : WebOSTVServiceSocketClient)
    (payload : String) : WebOSTVServiceSocketClient :=
  let client := { client with submitted := client.submitted ++ [payload] }
  let client := if client.socket.isNone then openSocket platform client else client
  match client.socket.map LGSRWebSocket.readyState with
  | some .open => client.sendNow .sendStringOverSocket payload
  | some .closed => openSocket platform (client.enqueue payload)
  | some .connecting | some .closing | none => client.enqueue payload

def sendDictionaryOverSocket (platform : Platform)
    (client : WebOSTVServiceSocketClient) (payload : JSON.Fields) :
    WebOSTVServiceSocketClient :=
  sendStringOverSocket platform client (platform.writeToJSON (.object payload))

/-- `-[ServiceCommand send]`, which has the client send the command. -/
def sendCommand (platform : Platform) (client : WebOSTVServiceSocketClient)
    (command : Ref ServiceCommand) : WebOSTVServiceSocketClient :=
  let sent := client.commands.read command
  let client := client.getNextId
  let client := client.setActiveConnection (requestKey client.uid) command
  sendStringOverSocket platform client
    (encodeData platform client.service (sent.payload.getD []) sent.target client.uid)

/-! ## Subscriptions -/

inductive ServiceSubscriptionType where
  | subscribe
  | unsubscribe
deriving DecidableEq

def subscriptionReferenceForURL (platform : Platform) (url : String)
    (payload : Option JSON.Fields) : String :=
  match payload with
  | none => url
  | some payload =>
      url ++ String.join (payload.map fun entry => platform.description (some entry.2))

/-- The client after `killSubscribe:payload:`. What the call returns nobody
uses. -/
def killSubscribe (platform : Platform) (client : WebOSTVServiceSocketClient)
    (url : String) (payload : Option JSON.Fields) : WebOSTVServiceSocketClient :=
  { client with
    subscribed :=
      client.subscribed.erase (subscriptionReferenceForURL platform url payload) }

def subscriptionFields (type : ServiceSubscriptionType) (callId : Nat) (url : String)
    (payload : Option JSON.Fields) : JSON.Fields :=
  let fields := JSON.Fields.set [] "id" (.number callId)
  let fields := fields.set "uri" (.string url)
  match type with
  | .subscribe =>
      (fields.set "type" (.string "subscribe")).setIfSome "payload"
        (payload.map JSON.object)
  | .unsubscribe => fields.set "type" (.string "unsubscribe")

/-- `if (callId < 0) callId = [self getNextId]`. -/
def issuedCallId (client : WebOSTVServiceSocketClient) (callId : Option Nat) :
    WebOSTVServiceSocketClient × Nat :=
  match callId with
  | some callId => (client, callId)
  | none => (client.getNextId, client.uid + 1)

/-- `sendSubscription:type:payload:toURL:withId:` and the call id it returns.
Storing the string of no URL raises. -/
def sendSubscription (platform : Platform) (client : WebOSTVServiceSocketClient)
    (command : Ref ServiceCommand) (type : ServiceSubscriptionType) :
    Option (WebOSTVServiceSocketClient × Option Nat) :=
  let subscription := client.commands.read command
  let (client, callId) := client.issuedCallId subscription.callId
  let client := client.setActiveConnection (requestKey callId) command
  match subscription.target with
  | none => none
  | some url =>
      let text := platform.writeToJSON
        (.object (subscriptionFields type callId url subscription.payload))
      match type with
      | .subscribe => some (sendStringOverSocket platform client text, some callId)
      | .unsubscribe =>
          if client.connected then
            let client := killSubscribe platform client url subscription.payload
            some (sendStringOverSocket platform client text, some callId)
          else
            some (client, none)

/-- `-[ServiceSubscription subscribe]`. -/
def subscribe (platform : Platform) (client : WebOSTVServiceSocketClient)
    (command : Ref ServiceCommand) : Option WebOSTVServiceSocketClient :=
  client.toObject command fun client =>
    (sendSubscription platform client command .subscribe).map fun (client, callId) =>
      client.modifyCommand command (ServiceCommand.didSubscribe callId)

/-- `-[ServiceSubscription unsubscribe]`. -/
def unsubscribe (platform : Platform) (client : WebOSTVServiceSocketClient)
    (command : Ref ServiceCommand) : Option WebOSTVServiceSocketClient :=
  client.toObject command fun client =>
    (sendSubscription platform client command .unsubscribe).map fun (client, callId) =>
      client.modifyCommand command (ServiceCommand.didUnsubscribe callId)

/-- The subscription under a reference id, which is created if there is none. -/
def subscriptionFor (platform : Platform) (client : WebOSTVServiceSocketClient)
    (url : String) (payload : Option JSON.Fields) :
    WebOSTVServiceSocketClient × Ref ServiceCommand :=
  let reference := subscriptionReferenceForURL platform url payload
  match client.subscribed.lookup reference with
  | some subscription => (client, subscription)
  | none =>
      let client := client.getNextId
      let subscription := client.commands.fresh
      let client := client.createCommand
        (.subscriptionWithDelegate (some url) payload (some client.uid))
      ({ client with subscribed := client.subscribed.insert reference subscription },
        subscription)

def addBlocks (client : WebOSTVServiceSocketClient) (subscription : Ref ServiceCommand)
    (success failure : Option UserBlock) : WebOSTVServiceSocketClient :=
  client.modifyCommand subscription fun command => command.addBlocks success failure

def addSubscribe (platform : Platform) (client : WebOSTVServiceSocketClient)
    (url : String) (payload : Option JSON.Fields)
    (success failure : Option UserBlock) : Option WebOSTVServiceSocketClient :=
  let (client, subscription) := subscriptionFor platform client url payload
  let client := client.addBlocks subscription success failure
  if (client.commands.read subscription).isSubscribed then some client
  else subscribe platform client subscription

def subscribeAll (platform : Platform) :
    WebOSTVServiceSocketClient → List (Ref ServiceCommand) →
      Option WebOSTVServiceSocketClient
  | client, [] => some client
  | client, subscription :: rest =>
      (subscribe platform client subscription).bind fun client =>
        subscribeAll platform client rest

def resubscribeSubscriptions (platform : Platform)
    (client : WebOSTVServiceSocketClient)
    (subscriptions : Dictionary String (Ref ServiceCommand)) :
    Option WebOSTVServiceSocketClient :=
  subscribeAll platform { client with subscribed := subscriptions }
    subscriptions.values

/-! ## Callbacks of the client's own messages -/

/-- The branch of the hello callback for a device that answers with another
UUID than the stored one. -/
def rejectImpostor (platform : Platform) (client : WebOSTVServiceSocketClient) :
    WebOSTVServiceSocketClient :=
  let service := ((client.service.setClientKey none).setSSLCertificates none).setUUID none
  let service := { service with
    serviceDescription := { service.serviceDescription with address := none } }
  { client with service }.disconnectWithError
    (some (generateError platform .certificateError none))

/-- `hello.callbackComplete`. -/
def helloComplete (platform : Platform) (client : WebOSTVServiceSocketClient)
    (response : Option JSON) : Option WebOSTVServiceSocketClient :=
  match client.service.serviceConfig.uuid with
  | some uuid => do
      let deviceUUID ← stringOrNil (← objectForKey response "deviceUUID")
      if deviceUUID = some uuid then
        some (registerWithTv platform client)
      else
        some (registerWithTv platform (client.rejectImpostor platform))
  | none => do
      let deviceUUID ← objectForKey response "deviceUUID"
      some (registerWithTv platform { client with
        service := client.service.setUUID (deviceUUID.bind JSON.string?) })

/-- `hello.callbackError`. -/
def helloFailed (platform : Platform) (client : WebOSTVServiceSocketClient) :
    WebOSTVServiceSocketClient :=
  client.disconnectWithError (some (generateError platform .socketError none))

def pairAs (client : WebOSTVServiceSocketClient) (pairingString : String) :
    WebOSTVServiceSocketClient :=
  let client := { client with
    service := client.service.setPairingType (pairingStringToType pairingString) }
  if client.delegate.any SocketClientDelegate.hasSocketWillRegister &&
      decide (DeviceServicePairingType.firstScreen.rawValue <
        client.service.pairingType.rawValue) then
    client.callDelegate .socketWillRegister
  else
    client

def flushCommandQueue (client : WebOSTVServiceSocketClient) :
    WebOSTVServiceSocketClient :=
  { client.commandQueue.foldl (fun client sendString =>
      client.callSocket (.send .sendStringOverSocket sendString)) client with
    commandQueue := [] }

/-- `reg.callbackComplete`. -/
def registerComplete (platform : Platform) (client : WebOSTVServiceSocketClient)
    (response : Option JSON) : Option WebOSTVServiceSocketClient := do
  let pairingString ← stringOrNil (← objectForKey response "pairingType")
  let client := pairingString.elim client client.pairAs
  let client :=
    if client.shouldDisconnectOnBackground then
      { client with observesAppState := true }
    else
      client
  let client := client.flushCommandQueue
  let client ← resubscribeSaved platform client
  some client
where
  resubscribeSaved (platform : Platform) (client : WebOSTVServiceSocketClient) :
      Option WebOSTVServiceSocketClient :=
    if client.savedSubscriptions.entries.isEmpty then some client
    else
      (resubscribeSubscriptions platform client client.savedSubscriptions).map
        fun client => { client with savedSubscriptions := ∅ }

/-- `reg.callbackError`, which asks for one optional method and calls
another. -/
def registerFailed (client : WebOSTVServiceSocketClient) (error : NSError) :
    WebOSTVServiceSocketClient :=
  if client.delegate.any SocketClientDelegate.hasSocketWillRegister then
    client.callDelegate (.registrationFailed error)
  else
    client

/-! ## The main queue -/

def runUser (client : WebOSTVServiceSocketClient) (blocks : List UserBlock)
    (reply : Reply) : WebOSTVServiceSocketClient :=
  { client with replies := client.replies ++ [(blocks, reply)] }

/-- `command.callbackComplete(response)`. Calling no block crashes. -/
def runComplete (platform : Platform) (client : WebOSTVServiceSocketClient)
    (command : Ref ServiceCommand) (response : Option JSON) :
    Option WebOSTVServiceSocketClient :=
  match (client.commands.read command).callbackComplete with
  | none => none
  | some .hello => helloComplete platform client response
  | some .register => registerComplete platform client response
  | some (.user blocks) => some (client.runUser blocks (.success response))

def runFailed (platform : Platform) (client : WebOSTVServiceSocketClient)
    (command : Ref ServiceCommand) (error : NSError) :
    Option WebOSTVServiceSocketClient :=
  match (client.commands.read command).callbackError with
  | none => none
  | some .hello => some (helloFailed platform client)
  | some .register => some (client.registerFailed error)
  | some (.user blocks) => some (client.runUser blocks (.failure error))

def runBlock (platform : Platform) (client : WebOSTVServiceSocketClient) :
    MainBlock → Option WebOSTVServiceSocketClient
  | .complete command response => runComplete platform client command response
  | .failed command error => runFailed platform client command error
  | .rejected command error =>
      (runFailed platform client command error).map fun client =>
        client.callDelegate (.closeByResponse error)

def runNext (platform : Platform) (client : WebOSTVServiceSocketClient) :
    Option WebOSTVServiceSocketClient :=
  match client.mainQueue with
  | [] => some client
  | block :: rest => runBlock platform { client with mainQueue := rest } block

/-! ## Messages of the web socket -/

def didCloseWithCode (platform : Platform) (client : WebOSTVServiceSocketClient)
    (reason : Option String) (wasClean : Bool) : WebOSTVServiceSocketClient :=
  let client := { client with
    connected := false
    activeConnections := ∅
    socket := none }
  client.callDelegate (.didCloseWithError
    (if wasClean then none
      else some (generateError platform .tvError (reason.map JSON.string))))

/-- The code of the error that a change of the pinned certificates gives. -/
def certificateChanged : Int := 23556

/-- The error blocks of the commands in the table, in the order in which it is
enumerated. -/
def failureBlocks (client : WebOSTVServiceSocketClient) (error : NSError) :
    List MainBlock :=
  (client.activeConnections.values.filter fun command =>
    (client.commands.read command).callbackError.isSome).map
      fun command => .failed command error

def didFailWithError (platform : Platform) (client : WebOSTVServiceSocketClient)
    (error : NSError) : WebOSTVServiceSocketClient :=
  let shouldRetry := error.code = certificateChanged
  let wasConnected := client.connected
  let intError :=
    if shouldRetry then generateError platform .certificateError none
    else generateError platform .socketError (some (.string error.localizedDescription))
  let service :=
    if shouldRetry then (client.service.setSSLCertificates none).setClientKey none
    else client.service
  let client := { client with
    service
    connected := false
    mainQueue := client.mainQueue ++ client.failureBlocks intError
    activeConnections := ∅ }
  if shouldRetry then openSocket platform client
  else if wasConnected then client.callDelegate (.didCloseWithError (some intError))
  else client.callDelegate (.didFailWithError intError)

def didGetCertificates (client : WebOSTVServiceSocketClient)
    (certs : Option (List JSON)) : WebOSTVServiceSocketClient :=
  { client with service := client.service.setSSLCertificates certs }

/-- What `didReceiveMessage:` reads of a message. -/
structure IncomingMessage where
  comId : Option JSON
  type : Option String
  payload : Option JSON

def readMessage (decodeData : Option JSON) : Option IncomingMessage := do
  let comId ← objectForKey decodeData "id"
  let type ← stringOrNil (← objectForKey decodeData "type")
  let payload ← objectForKey decodeData "payload"
  some { comId, type, payload }

def connectionKey (platform : Platform) (message : IncomingMessage) : String :=
  connectionKeyForMessageId (platform.description message.comId)

/-- The block for an `error` message, if the command under its id wants one. -/
def rejection (platform : Platform) (client : WebOSTVServiceSocketClient)
    (decodeData comId : Option JSON) (connectionCommand : Option (Ref ServiceCommand)) :
    List MainBlock :=
  match comId, connectionCommand with
  | some _, some command =>
      if (client.commands.read command).callbackError.isSome then
        [.rejected command (generateError platform .tvError decodeData)]
      else
        []
  | _, _ => []

/-- The block for an answer to a command, if it wants one. -/
def completion (client : WebOSTVServiceSocketClient)
    (command : Option (Ref ServiceCommand)) (response : Option JSON) : List MainBlock :=
  match command with
  | none => []
  | some command =>
      if (client.commands.read command).callbackComplete.isSome then
        [.complete command response]
      else
        []

def receiveRegistered (client : WebOSTVServiceSocketClient)
    (payload : Option JSON) : Option WebOSTVServiceSocketClient :=
  (objectForKey payload "client-key").map fun clientKey =>
    { client with
      service := client.service.setClientKey (clientKey.bind JSON.string?)
      }.callDelegate .socketDidConnect

def receiveHello (client : WebOSTVServiceSocketClient) (payload : Option JSON) :
    WebOSTVServiceSocketClient :=
  let client := client.dispatchOnMain
    (client.completion (client.activeConnections.lookup "hello") payload)
  { client with activeConnections := client.activeConnections.erase "hello" }

/-- A message of any type but `error`. -/
def receiveAnswer (client : WebOSTVServiceSocketClient) (message : IncomingMessage)
    (connectionCommand : Option (Ref ServiceCommand)) :
    Option WebOSTVServiceSocketClient :=
  let received :=
    if message.type = some "registered" then client.receiveRegistered message.payload
    else if message.type = some "hello" then some (client.receiveHello message.payload)
    else some client
  received.map fun client =>
    if message.comId.isSome then
      client.dispatchOnMain (client.completion connectionCommand message.payload)
    else
      client

/-- `payload[@"pairingType"] != nil` on a dictionary. -/
def isRegistrationResponse (payload : Option JSON) : Bool :=
  (payload.bind (JSON.value? "pairingType")).isSome

def leaveConnection (client : WebOSTVServiceSocketClient) (message : IncomingMessage)
    (connectionCommand : Option (Ref ServiceCommand)) : Bool :=
  connectionCommand.any (fun command =>
      (client.commands.read command).isSubscription) ||
    isRegistrationResponse message.payload

/-- Whether the delegate, by what its method returned, keeps the message. -/
def refuses (client : WebOSTVServiceSocketClient) (shouldProcessMessage : Bool) : Bool :=
  client.delegate.any SocketClientDelegate.hasDidReceiveMessage && !shouldProcessMessage

/-- `webSocket:didReceiveMessage:` from the decoded message on, and what the
delegate's method of that name returned. -/
def didReceiveMessage (platform : Platform) (client : WebOSTVServiceSocketClient)
    (decodeData : Option JSON) (shouldProcessMessage : Bool) :
    Option WebOSTVServiceSocketClient :=
  if client.refuses shouldProcessMessage then some client
  else
    (readMessage decodeData).bind fun message =>
      let connectionKey := connectionKey platform message
      let connectionCommand := client.activeConnections.lookup connectionKey
      let received :=
        if message.type = some "error" then
          some (client.dispatchOnMain
            (client.rejection platform decodeData message.comId connectionCommand))
        else
          client.receiveAnswer message connectionCommand
      received.map fun client =>
        if client.leaveConnection message connectionCommand then client
        else
          { client with activeConnections := client.activeConnections.erase connectionKey }

/-! ## What disconnecting leaves alone -/

/-- What the client knows of its messages, and the callbacks it has on the main
queue. -/
structure Ledger where
  uid : Nat
  activeConnections : Dictionary String (Ref ServiceCommand)
  commands : Heap ServiceCommand
  mainQueue : List MainBlock

def ledger (client : WebOSTVServiceSocketClient) : Ledger where
  uid := client.uid
  activeConnections := client.activeConnections
  commands := client.commands
  mainQueue := client.mainQueue

theorem closeSocket_frame (client : WebOSTVServiceSocketClient) (reason : String) :
    ∃ calls, client.closeSocket reason =
      { client with socketCalls := client.socketCalls ++ calls } := by
  unfold closeSocket
  cases client.socket.map LGSRWebSocket.readyState with
  | none => exact ⟨[], by simp⟩
  | some readyState =>
      cases readyState with
      | connecting => exact ⟨_, rfl⟩
      | «open» => exact ⟨_, rfl⟩
      | closing => exact ⟨[], by simp⟩
      | closed => exact ⟨[], by simp⟩

/-- Disconnecting only asks the socket to close. The client keeps it, and the
messages it has sent. -/
theorem disconnectWithError_frame (client : WebOSTVServiceSocketClient)
    (error : Option NSError) :
    (client.disconnectWithError error).ledger = client.ledger ∧
      (client.disconnectWithError error).socket = client.socket ∧
      ∃ calls, (client.disconnectWithError error).socketCalls =
        client.socketCalls ++ calls := by
  rcases closeSocket_frame { client with
    observesAppState := client.observesAppState && client.reconnectOnWake
    connected := false }
    ((error.map NSError.localizedDescription).getD "Disconnected by client") with
    ⟨calls, closed⟩
  refine ⟨?_, ?_, calls, ?_⟩ <;>
    simp only [disconnectWithError, closed, callDelegate, ledger]

theorem issuedCallId_frame (client : WebOSTVServiceSocketClient) (callId : Option Nat) :
    ∃ uid, (client.issuedCallId callId).1 = { client with uid } := by
  cases callId with
  | none => exact ⟨client.uid + 1, rfl⟩
  | some callId => exact ⟨client.uid, rfl⟩

/-- A subscription is numbered and registered before anything is sent for it. -/
theorem sendSubscription_cases {platform : Platform}
    {client after : WebOSTVServiceSocketClient} {command : Ref ServiceCommand}
    {type : ServiceSubscriptionType} {callId : Option Nat}
    (taken : sendSubscription platform client command type = some (after, callId)) :
    ∃ uid key url, (client.commands.read command).target = some url ∧
      ((type = .subscribe ∧ ∃ text, after = sendStringOverSocket platform
          (setActiveConnection { client with uid } key command) text) ∨
        (type = .unsubscribe ∧ client.connected = true ∧ ∃ text,
          after = sendStringOverSocket platform
            (killSubscribe platform
              (setActiveConnection { client with uid } key command) url
              (client.commands.read command).payload) text) ∨
        (type = .unsubscribe ∧ client.connected = false ∧
          after = setActiveConnection { client with uid } key command)) := by
  rcases issuedCallId_frame client (client.commands.read command).callId with
    ⟨uid, issued⟩
  simp only [sendSubscription, issued] at taken
  cases target : (client.commands.read command).target with
  | none =>
      simp only [target] at taken
      cases taken
  | some url =>
      simp only [target] at taken
      cases type with
      | subscribe =>
          cases taken
          exact ⟨uid, _, url, rfl, .inl ⟨rfl, _, rfl⟩⟩
      | unsubscribe =>
          cases online : client.connected with
          | true =>
              simp only [setActiveConnection, online, if_true] at taken
              cases taken
              exact ⟨uid, _, url, rfl, .inr (.inl ⟨rfl, rfl, _, rfl⟩)⟩
          | false =>
              simp only [setActiveConnection, online] at taken
              cases taken
              exact ⟨uid, _, url, rfl, .inr (.inr ⟨rfl, rfl, rfl⟩)⟩

/-! ## What the callbacks of a command run -/

theorem runComplete_cases {platform : Platform}
    {client after : WebOSTVServiceSocketClient} {command : Ref ServiceCommand}
    {response : Option JSON}
    (taken : runComplete platform client command response = some after) :
    (∃ blocks, (client.commands.read command).callbackComplete = some (.user blocks) ∧
        after = client.runUser blocks (.success response)) ∨
      (client.commands.read command).callbackComplete = some .hello ∧
        helloComplete platform client response = some after ∨
      (client.commands.read command).callbackComplete = some .register ∧
        registerComplete platform client response = some after := by
  unfold runComplete at taken
  cases held : (client.commands.read command).callbackComplete with
  | none =>
      simp only [held] at taken
      cases taken
  | some callback =>
      simp only [held] at taken
      cases callback with
      | user blocks =>
          cases taken
          exact .inl ⟨blocks, rfl, rfl⟩
      | hello => exact .inr (.inl ⟨rfl, taken⟩)
      | register => exact .inr (.inr ⟨rfl, taken⟩)

theorem runFailed_cases {platform : Platform}
    {client after : WebOSTVServiceSocketClient} {command : Ref ServiceCommand}
    {error : NSError}
    (taken : runFailed platform client command error = some after) :
    (∃ blocks, (client.commands.read command).callbackError = some (.user blocks) ∧
        after = client.runUser blocks (.failure error)) ∨
      (client.commands.read command).callbackError = some .hello ∧
        after = helloFailed platform client ∨
      (client.commands.read command).callbackError = some .register ∧
        after = client.registerFailed error := by
  unfold runFailed at taken
  cases held : (client.commands.read command).callbackError with
  | none =>
      simp only [held] at taken
      cases taken
  | some callback =>
      simp only [held] at taken
      cases callback with
      | user blocks =>
          cases taken
          exact .inl ⟨blocks, rfl, rfl⟩
      | hello =>
          cases taken
          exact .inr (.inl ⟨rfl, rfl⟩)
      | register =>
          cases taken
          exact .inr (.inr ⟨rfl, rfl⟩)

theorem runBlock_cases {platform : Platform} {client after : WebOSTVServiceSocketClient}
    {block : MainBlock} (taken : runBlock platform client block = some after) :
    (∃ command response, block = .complete command response ∧
        runComplete platform client command response = some after) ∨
      (∃ command error, block = .failed command error ∧
        runFailed platform client command error = some after) ∨
      ∃ command error ran, block = .rejected command error ∧
        runFailed platform client command error = some ran ∧
        after = ran.callDelegate (.closeByResponse error) := by
  cases block with
  | complete command response => exact .inl ⟨command, response, rfl, taken⟩
  | failed command error => exact .inr (.inl ⟨command, error, rfl, taken⟩)
  | rejected command error =>
      rcases Option.map_eq_some_iff.mp taken with ⟨ran, running, equal⟩
      exact .inr (.inr ⟨command, error, ran, rfl, running, equal.symm⟩)

theorem runNext_cases {platform : Platform} {client after : WebOSTVServiceSocketClient}
    (taken : runNext platform client = some after) :
    client.mainQueue = [] ∧ after = client ∨
      ∃ block rest, client.mainQueue = block :: rest ∧
        runBlock platform { client with mainQueue := rest } block = some after := by
  unfold runNext at taken
  cases queued : client.mainQueue with
  | nil =>
      simp only [queued] at taken
      cases taken
      exact .inl ⟨rfl, rfl⟩
  | cons block rest =>
      simp only [queued] at taken
      exact .inr ⟨block, rest, rfl, taken⟩

/-! ## What a completed registration leaves alone -/

theorem pairAs_frame (client : WebOSTVServiceSocketClient) (pairingString : String) :
    ∃ service delegateCalls, client.pairAs pairingString =
      { client with service, delegateCalls } := by
  simp only [pairAs]
  split_ifs
  · exact ⟨_, _, rfl⟩
  · exact ⟨_, client.delegateCalls, rfl⟩

theorem flushCommandQueue_frame (client : WebOSTVServiceSocketClient) :
    ∃ socketCalls, client.flushCommandQueue =
      { client with commandQueue := [], socketCalls } := by
  have sending : ∀ (queued : List String) (client : WebOSTVServiceSocketClient),
      ∃ socketCalls, queued.foldl (fun client sendString =>
        client.callSocket (.send .sendStringOverSocket sendString)) client =
          { client with socketCalls } := by
    intro queued
    induction queued with
    | nil => exact fun client => ⟨client.socketCalls, rfl⟩
    | cons sendString rest induction => exact fun client => induction _
  rcases sending client.commandQueue client with ⟨socketCalls, sent⟩
  exact ⟨socketCalls, by rw [flushCommandQueue, sent]⟩

/-- The registration completes on a client that has noted the pairing type and
observes the app's state. -/
theorem registerComplete_frame {platform : Platform}
    {client after : WebOSTVServiceSocketClient} {response : Option JSON}
    (taken : registerComplete platform client response = some after) :
    ∃ service delegateCalls observesAppState,
      registerComplete.resubscribeSaved platform (flushCommandQueue
        { client with service, delegateCalls, observesAppState }) = some after := by
  simp only [registerComplete, Option.bind_eq_bind, Option.bind_eq_some_iff] at taken
  rcases taken with ⟨_, _, pairingString, _, resubscribed, saved, equal⟩
  cases equal
  have paired : ∃ service delegateCalls, pairingString.elim client client.pairAs =
      { client with service, delegateCalls } := by
    cases pairingString with
    | none => exact ⟨client.service, client.delegateCalls, rfl⟩
    | some pairing => exact pairAs_frame client pairing
  rcases paired with ⟨service, delegateCalls, equal⟩
  rw [equal] at saved
  split_ifs at saved with observes
  · exact ⟨service, delegateCalls, true, saved⟩
  · exact ⟨service, delegateCalls, client.observesAppState, saved⟩

/-! ## What an incoming message leaves alone -/

theorem receiveAnswer_frame {client after : WebOSTVServiceSocketClient}
    {message : IncomingMessage} {command : Option (Ref ServiceCommand)}
    (taken : client.receiveAnswer message command = some after) :
    ∃ service activeConnections mainQueue delegateCalls,
      after = { client with service, activeConnections, mainQueue, delegateCalls } := by
  rcases Option.map_eq_some_iff.mp taken with ⟨received, receiving, equal⟩
  have answered : ∃ service activeConnections mainQueue delegateCalls, received =
      { client with service, activeConnections, mainQueue, delegateCalls } := by
    split_ifs at receiving with registered hello
    · rcases Option.map_eq_some_iff.mp receiving with ⟨clientKey, _, same⟩
      exact ⟨_, client.activeConnections, client.mainQueue, _, same.symm⟩
    · cases receiving
      exact ⟨client.service, _, _, client.delegateCalls, rfl⟩
    · cases receiving
      exact ⟨client.service, client.activeConnections, client.mainQueue,
        client.delegateCalls, rfl⟩
  rcases answered with ⟨service, activeConnections, mainQueue, delegateCalls, same⟩
  subst same
  subst equal
  split_ifs with numbered
  · exact ⟨service, activeConnections, _, delegateCalls, rfl⟩
  · exact ⟨service, activeConnections, mainQueue, delegateCalls, rfl⟩

theorem didReceiveMessage_frame {platform : Platform}
    {client after : WebOSTVServiceSocketClient} {decodeData : Option JSON}
    {shouldProcessMessage : Bool}
    (taken : didReceiveMessage platform client decodeData shouldProcessMessage =
      some after) :
    ∃ service activeConnections mainQueue delegateCalls,
      after = { client with service, activeConnections, mainQueue, delegateCalls } := by
  unfold didReceiveMessage at taken
  split_ifs at taken with refused
  · cases taken
    exact ⟨client.service, client.activeConnections, client.mainQueue,
      client.delegateCalls, rfl⟩
  · rcases Option.bind_eq_some_iff.mp taken with ⟨message, _, receiving⟩
    rcases Option.map_eq_some_iff.mp receiving with ⟨received, receiving, equal⟩
    have answered : ∃ service activeConnections mainQueue delegateCalls, received =
        { client with service, activeConnections, mainQueue, delegateCalls } := by
      split_ifs at receiving with error
      · cases receiving
        exact ⟨client.service, client.activeConnections, _, client.delegateCalls, rfl⟩
      · exact receiveAnswer_frame receiving
    rcases answered with ⟨service, activeConnections, mainQueue, delegateCalls, same⟩
    subst same
    subst equal
    split_ifs with leave
    · exact ⟨service, activeConnections, mainQueue, delegateCalls, rfl⟩
    · exact ⟨service, _, mainQueue, delegateCalls, rfl⟩

end WebOSTVServiceSocketClient

end ConnectSDK
