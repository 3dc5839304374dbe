import ConnectSDK.Foundation.Heap
import ConnectSDK.Foundation.Run

/-! # Services that check reachability

On connecting a service starts a checker, which asks the device again and again whether it
is there. A checker that gets no answer stops and tells the service on the main queue.
The services differ in when they connect: a Netcast TV pairs first. What else they do on
connecting and disconnecting is left out.
-/

namespace ConnectSDK

/-- `_running`, and the requests that have not been answered. -/
structure DeviceServiceReachability where
  running : Bool := false
  requests : Nat := 0

namespace DeviceServiceReachability

def checkReachability (checker : DeviceServiceReachability) : DeviceServiceReachability :=
  if checker.running then { checker with requests := checker.requests + 1 } else checker

/-- The timer fires at once. -/
def start (checker : DeviceServiceReachability) : DeviceServiceReachability :=
  checkReachability { checker with running := true }

def stop (checker : DeviceServiceReachability) : DeviceServiceReachability :=
  { checker with running := false }

end DeviceServiceReachability

inductive ReachabilityServiceClass where
  | dlnaService
  | dialService
  | rokuService
  | netcastTVService
deriving DecidableEq

/-- A service with every checker it has made. `losses` are the checkers whose
`didLoseReachability:` waits on the main queue, `pairings` the codes a Netcast TV has been
sent and not answered. -/
structure ReachabilityDelegate where
  serviceClass : ReachabilityServiceClass
  pairingCode : Option String := none
  pairingLevelOn : Bool := false
  connected : Bool := false
  checkers : Heap DeviceServiceReachability := .empty {}
  serviceReachability : Option (Ref DeviceServiceReachability) := none
  losses : List (Ref DeviceServiceReachability) := []
  pairings : List String := []

inductive ReachabilityEvent where
  | connect
  | disconnect
  | pairWithData (pairingCode : String)
  | pairingAnswered (index : Nat) (succeeds : Bool)
  | checkReachability (checker : Ref DeviceServiceReachability)
  | requestCompleted (checker : Ref DeviceServiceReachability) (noDataIsAvailable : Bool)
  | didLoseReachability (index : Nat)

namespace ReachabilityDelegate

/-- `hConnectSuccess` of the Netcast service, and `connect` of the others. The checker
before it goes on as it is. -/
def hConnectSuccess (service : ReachabilityDelegate) : ReachabilityDelegate :=
  { service with
    checkers := service.checkers.allocate (DeviceServiceReachability.start {})
    serviceReachability := some service.checkers.fresh
    connected := true }

def pairWithData (service : ReachabilityDelegate) (pairingCode : String) :
    ReachabilityDelegate :=
  { service with pairings := service.pairings ++ [pairingCode] }

/-- `connect`. With pairing on and no code yet, the Netcast service asks the TV to show
one and waits for the user. -/
def connect (service : ReachabilityDelegate) : ReachabilityDelegate :=
  match service.serviceClass with
  | .netcastTVService =>
      if service.connected then service
      else
        match service.pairingCode with
        | some pairingCode => service.pairWithData pairingCode
        | none => if service.pairingLevelOn then service else service.hConnectSuccess
  | _ => service.hConnectSuccess

/-- The answer to a pairing code. -/
def pairingAnswered (service : ReachabilityDelegate) (index : Nat) (succeeds : Bool) :
    ReachabilityDelegate :=
  match service.pairings[index]? with
  | none => service
  | some pairingCode =>
      let answered := { service with pairings := service.pairings.eraseIdx index }
      if succeeds then
        hConnectSuccess { answered with pairingCode := some pairingCode }
      else answered

/-- `[_serviceReachability stop]`. -/
def stopReachability (service : ReachabilityDelegate) : ReachabilityDelegate :=
  match service.serviceReachability with
  | none => service
  | some checker =>
      { service with
        checkers := service.checkers.modify checker DeviceServiceReachability.stop }

/-- `disconnect`. Only the Netcast service asks whether it is connected. -/
def disconnect (service : ReachabilityDelegate) : ReachabilityDelegate :=
  if service.serviceClass = .netcastTVService ∧ service.connected = false then service
  else stopReachability { service with connected := false }

/-- `didLoseReachability:`, which does not look at the checker it comes from. -/
def didLoseReachability (service : ReachabilityDelegate) : ReachabilityDelegate :=
  if service.connected then service.disconnect else service.stopReachability

def checkReachability (service : ReachabilityDelegate)
    (checker : Ref DeviceServiceReachability) : ReachabilityDelegate :=
  { service with
    checkers := service.checkers.modify checker
      DeviceServiceReachability.checkReachability }

/-- The completion handler of a request, if the checker has one to be answered. -/
def requestCompleted (service : ReachabilityDelegate)
    (checker : Ref DeviceServiceReachability) (noDataIsAvailable : Bool) :
    ReachabilityDelegate :=
  let object := service.checkers.read checker
  if object.requests = 0 then service
  else
    let answered := { object with requests := object.requests - 1 }
    if object.running && noDataIsAvailable then
      { service with
        checkers := service.checkers.modify checker fun _ => answered.stop
        losses := service.losses ++ [checker] }
    else { service with checkers := service.checkers.modify checker fun _ => answered }

def step (service : ReachabilityDelegate) : ReachabilityEvent → ReachabilityDelegate
  | .connect => service.connect
  | .disconnect => service.disconnect
  | .pairWithData pairingCode =>
      if service.serviceClass = .netcastTVService then service.pairWithData pairingCode
      else service
  | .pairingAnswered index succeeds => service.pairingAnswered index succeeds
  | .checkReachability checker => service.checkReachability checker
  | .requestCompleted checker noDataIsAvailable =>
      service.requestCompleted checker noDataIsAvailable
  | .didLoseReachability index =>
      match service.losses[index]? with
      | none => service
      | some _ =>
          didLoseReachability { service with losses := service.losses.eraseIdx index }

end ReachabilityDelegate

end ConnectSDK
