import ConnectSDK.Foundation.Run
import ConnectSDK.Services.Helpers.WebOSTVServiceSocketClient

/-! # Runs of the socket client

Everything that can happen to the client, in any order. The user's blocks run
as blocks of the main queue; what they call on the client comes as later
events.
-/

namespace ConnectSDK

/-- One event. A created object that no call is made on again does nothing, so
objects are named by reference from then on. -/
inductive SocketClientEvent where
  | createCommand (target : Option String) (payload : Option JSON.Fields)
      (callbackComplete callbackError : Option UserBlock)
  | createSubscription (target : Option String) (payload : Option JSON.Fields)
      (callId : Option Nat)
  | addSuccess (command : Ref ServiceCommand) (success : UserBlock)
  | addFailure (command : Ref ServiceCommand) (failure : UserBlock)
  | send (command : Ref ServiceCommand)
  | subscribe (command : Ref ServiceCommand)
  | unsubscribe (command : Ref ServiceCommand)
  | addSubscribe (url : String) (payload : Option JSON.Fields)
      (success failure : Option UserBlock)
  | killSubscribe (url : String) (payload : Option JSON.Fields)
  | sendString (payload : String)
  | sendDictionary (payload : JSON.Fields)
  | connect
  | disconnect (error : Option NSError)
  | serviceChanged (service : WebOSTVService)
  | setShouldDisconnectOnBackground (value : Bool)
  | appDidEnterBackground
  | appDidBecomeActive
  | readyStateChanged (readyState : ReadyState)
  | didOpen
  | didClose (reason : Option String) (wasClean : Bool)
  | didFail (error : NSError)
  | didGetCertificates (certs : Option (List JSON))
  | didReceiveMessage (decodeData : Option JSON) (shouldProcessMessage : Bool)
  | runNext

namespace WebOSTVServiceSocketClient

/-- A message that only a subscription understands. -/
def toSubscription (client : WebOSTVServiceSocketClient)
    (command : Ref ServiceCommand)
    (act : WebOSTVServiceSocketClient → Option WebOSTVServiceSocketClient) :
    Option WebOSTVServiceSocketClient :=
  client.toObject command fun client =>
    if (client.commands.read command).isSubscription then act client else none

/-- A message of a web socket, which only the one in `_socket` sends. -/
def withSocket (client : WebOSTVServiceSocketClient)
    (act : WebOSTVServiceSocketClient → Option WebOSTVServiceSocketClient) :
    Option WebOSTVServiceSocketClient :=
  if client.socket.isSome then act client else some client

/-- The ready state of a web socket never goes back. -/
def changeReadyState (readyState : ReadyState) (socket : LGSRWebSocket) : LGSRWebSocket :=
  if socket.readyState.rawValue < readyState.rawValue then { socket with readyState }
  else socket

open SocketClientEvent in
def step (platform : Platform) (client : WebOSTVServiceSocketClient) :
    SocketClientEvent → Option WebOSTVServiceSocketClient
  | .createCommand target payload complete error =>
      some (client.createCommand {
        target
        payload
        callbackComplete := complete.map fun block => .user [block]
        callbackError := error.map fun block => .user [block] })
  | .createSubscription target payload callId =>
      some (client.createCommand (.subscriptionWithDelegate target payload callId))
  | .addSuccess command success =>
      client.toSubscription command fun client =>
        some (client.addBlocks command (some success) none)
  | .addFailure command failure =>
      client.toSubscription command fun client =>
        some (client.addBlocks command none (some failure))
  | .send command =>
      client.toObject command fun client => some (sendCommand platform client command)
  | .subscribe command =>
      client.toSubscription command fun client =>
        WebOSTVServiceSocketClient.subscribe platform client command
  | .unsubscribe command =>
      client.toSubscription command fun client =>
        WebOSTVServiceSocketClient.unsubscribe platform client command
  | .addSubscribe url payload success failure =>
      WebOSTVServiceSocketClient.addSubscribe platform client url payload success failure
  | .killSubscribe url payload =>
      some (WebOSTVServiceSocketClient.killSubscribe platform client url payload)
  | .sendString payload => some (sendStringOverSocket platform client payload)
  | .sendDictionary payload => some (sendDictionaryOverSocket platform client payload)
  | .connect => some (openSocket platform client)
  | .disconnect error => some (client.disconnectWithError error)
  | .serviceChanged service => some { client with service }
  | .setShouldDisconnectOnBackground value =>
      some { client with shouldDisconnectOnBackground := value }
  | .appDidEnterBackground =>
      some (if client.observesAppState then client.hAppDidEnterBackground else client)
  | .appDidBecomeActive =>
      some (if client.observesAppState then hAppDidBecomeActive platform client
        else client)
  | .readyStateChanged readyState =>
      some { client with socket := client.socket.map (changeReadyState readyState) }
  | .didOpen => client.withSocket fun client => some (webSocketDidOpen platform client)
  | .didClose reason wasClean =>
      client.withSocket fun client =>
        some (didCloseWithCode platform client reason wasClean)
  | .didFail error =>
      client.withSocket fun client => some (didFailWithError platform client error)
  | .didGetCertificates certs =>
      client.withSocket fun client =>
        some (WebOSTVServiceSocketClient.didGetCertificates client certs)
  | .didReceiveMessage decodeData shouldProcessMessage =>
      client.withSocket fun client =>
        WebOSTVServiceSocketClient.didReceiveMessage platform client decodeData
          shouldProcessMessage
  | .runNext => WebOSTVServiceSocketClient.runNext platform client

/-- `initWithService:`, and the delegate set right after. -/
def initWithService (service : WebOSTVService)
    (delegate : Option SocketClientDelegate) : WebOSTVServiceSocketClient where
  service
  delegate

end WebOSTVServiceSocketClient

end ConnectSDK
