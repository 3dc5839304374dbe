import ConnectSDK.Foundation.Run
import ConnectSDK.Services.Helpers.DLNAHTTPServer

/-! # Subscriptions of the DLNA service

The service is the delegate of its subscriptions. What it asks of the TV on connecting
and disconnecting, and what it tells its own delegate, is left out.
-/

namespace ConnectSDK

/-- A request reached a subscription, whose success blocks are then called. -/
structure EventNotification where
  subscription : Ref ServiceCommand
  successCalls : List UserBlock
  eventInfo : JSON

structure DLNAService where
  httpServer : Option DLNAHTTPServer := none
  connected : Bool := false
  commands : Heap ServiceCommand := Heap.empty {}
  notified : List EventNotification := []

/-- The data of a NOTIFY request. -/
inductive NotifyData where
  | empty
  | withoutEvent
  | event (eventInfo : JSON)

/-- What can happen to a DLNA service. Starting a web server may fail. -/
inductive DLNAEvent where
  | setServiceDescription (hasLocationXML : Bool)
  | createSubscription (target : Option String)
  | clone (subscription : Ref ServiceCommand)
  | addSuccess (subscription : Ref ServiceCommand) (success : UserBlock)
  | addFailure (subscription : Ref ServiceCommand) (failure : UserBlock)
  | subscribe (subscription : Ref ServiceCommand) (starts : Bool)
  | unsubscribe (subscription : Ref ServiceCommand)
  | connect (starts : Bool)
  | disconnect
  | didLoseReachability
  | processRequest (url : String) (data : NotifyData)

namespace DLNAService

def setServiceDescription (service : DLNAService) (hasLocationXML : Bool) : DLNAService :=
  if hasLocationXML && service.httpServer.isNone then
    { service with httpServer := some {} }
  else
    service

def modifyCommand (service : DLNAService) (command : Ref ServiceCommand)
    (change : ServiceCommand → ServiceCommand) : DLNAService :=
  { service with commands := service.commands.modify command change }

def connect (service : DLNAService) (starts : Bool) : DLNAService :=
  { service with
    connected := true
    httpServer := service.httpServer.map fun server => server.start starts }

def disconnect (service : DLNAService) : DLNAService :=
  { service with
    connected := false
    httpServer := service.httpServer.map DLNAHTTPServer.stop }

/-- `sendSubscription:…` of type `ServiceSubscriptionTypeSubscribe`. -/
def sendSubscribe (service : DLNAService) (subscription : Ref ServiceCommand)
    (starts : Bool) : Option DLNAService :=
  match service.httpServer with
  | none => some service
  | some server =>
      (server.addSubscription service.commands subscription).map
        fun (server, commands) =>
          let httpServer := if server.isRunning then server else server.start starts
          { service with httpServer := some httpServer, commands }

/-- `sendSubscription:…` of any other type. -/
def sendUnsubscribe (service : DLNAService) (subscription : Ref ServiceCommand) :
    Option DLNAService :=
  match service.httpServer with
  | none => some service
  | some server =>
      (server.removeSubscription service.commands subscription).map
        fun (server, commands) =>
          let httpServer := if server.hasSubscriptions then server else server.stop
          { service with httpServer := some httpServer, commands }

/-- `-[ServiceSubscription subscribe]`, whose delegate returns `-1`. -/
def subscribe (service : DLNAService) (subscription : Ref ServiceCommand)
    (starts : Bool) : Option DLNAService :=
  (service.sendSubscribe subscription starts).map fun service =>
    service.modifyCommand subscription (ServiceCommand.didSubscribe none)

/-- `-[ServiceSubscription unsubscribe]`. -/
def unsubscribe (service : DLNAService) (subscription : Ref ServiceCommand) :
    Option DLNAService :=
  (service.sendUnsubscribe subscription).map fun service =>
    service.modifyCommand subscription (ServiceCommand.didUnsubscribe none)

def clone (service : DLNAService) (subscription : Ref ServiceCommand) : DLNAService :=
  let command := service.commands.read subscription
  { service with
    commands := service.commands.allocate
      (.subscriptionWithDelegate command.target command.payload command.callId) }

def successCalls (service : DLNAService) (subscription : Ref ServiceCommand) :
    List UserBlock :=
  ((service.commands.read subscription).subscription.map
    ServiceSubscription.successCalls).getD []

def notify (service : DLNAService) (data : NotifyData)
    (subscriptions : List (Ref ServiceCommand)) : List EventNotification :=
  match data with
  | .event eventInfo =>
      subscriptions.map fun subscription =>
        { subscription, successCalls := service.successCalls subscription, eventInfo }
  | _ => []

/-- Only a running web server hands requests over. -/
def processRequest (service : DLNAService) (url : String) (data : NotifyData) :
    Option DLNAService :=
  match service.httpServer, data with
  | none, _ => some service
  | _, .empty => some service
  | some server, data =>
      if server.isRunning then
        (server.subscriptionsFor url).map fun subscriptions =>
          { service with notified := service.notified ++ service.notify data subscriptions }
      else
        some service

/-- A message to a subscription that was created. -/
def toSubscription (service : DLNAService) (subscription : Ref ServiceCommand)
    (act : DLNAService → Option DLNAService) : Option DLNAService :=
  if service.commands.Allocated subscription then act service else some service

def step (service : DLNAService) : DLNAEvent → Option DLNAService
  | .setServiceDescription hasLocationXML =>
      some (service.setServiceDescription hasLocationXML)
  | .createSubscription target =>
      some { service with
        commands := service.commands.allocate (.subscriptionWithDelegate target none none) }
  | .clone subscription =>
      service.toSubscription subscription fun service => some (service.clone subscription)
  | .addSuccess subscription success =>
      service.toSubscription subscription fun service =>
        some (service.modifyCommand subscription fun command => command.addSuccess success)
  | .addFailure subscription failure =>
      service.toSubscription subscription fun service =>
        some (service.modifyCommand subscription fun command => command.addFailure failure)
  | .subscribe subscription starts =>
      service.toSubscription subscription fun service => service.subscribe subscription starts
  | .unsubscribe subscription =>
      service.toSubscription subscription fun service => service.unsubscribe subscription
  | .connect starts => some (service.connect starts)
  | .disconnect => some service.disconnect
  | .didLoseReachability => some (if service.connected then service.disconnect else service)
  | .processRequest url data => service.processRequest url data

end DLNAService

end ConnectSDK
