import ConnectSDK.Foundation.Dictionary
import ConnectSDK.Foundation.Run

/-! # Event sessions of the DLNA service

`subscribeServices`, `resubscribeSubscriptions` and `unsubscribeServices` with the answers to
their requests, which may come in any order. Every service in the list is taken to have an
id and an event path, and nothing but the sessions is modelled.
-/

namespace ConnectSDK

/-- The status code and the `SID` header of a response. -/
structure NSHTTPURLResponse where
  statusCode : Nat := 200
  sid : Option String := none

/-- A request without an answer, with what its completion handler has captured. -/
inductive DLNAEventRequest where
  | subscribe (serviceId : String)
  | resubscribe (serviceId sessionId : String)
  | unsubscribe (serviceId sessionId : String)

/-- `resubscriptions` counts the delayed calls of `resubscribeSubscriptions`. -/
structure DLNAEventSessions where
  serviceList : List String := []
  httpServerSessionIds : Option (Dictionary String String) := none
  requests : List DLNAEventRequest := []
  resubscriptions : Nat := 0

/-- `subscribe` is a subscription that finds the web server stopped, `unsubscribe` one that
leaves it without subscriptions. A connection error has no response. -/
inductive DLNASessionEvent where
  | setServiceList (serviceList : List String)
  | connect
  | disconnect
  | subscribe
  | unsubscribe
  | resubscribe
  | answered (index : Nat) (response : Option NSHTTPURLResponse)

namespace DLNAEventSessions

/-- `_httpServerSessionIds[serviceId]`. -/
def sessionId (sessions : DLNAEventSessions) (serviceId : String) : Option String :=
  sessions.httpServerSessionIds.bind fun sessionIds => sessionIds.lookup serviceId

def subscribeServices (sessions : DLNAEventSessions) : DLNAEventSessions :=
  { sessions with
    httpServerSessionIds := some ∅
    requests := sessions.requests ++ sessions.serviceList.map .subscribe }

/-- A request for every service that has a session id. -/
def requestsOfSessions (sessions : DLNAEventSessions)
    (request : String → String → DLNAEventRequest) : List DLNAEventRequest :=
  sessions.serviceList.filterMap fun serviceId =>
    (sessions.sessionId serviceId).map (request serviceId)

def resubscribeSubscriptions (sessions : DLNAEventSessions) : DLNAEventSessions :=
  { sessions with
    resubscriptions := 0
    requests := sessions.requests ++ sessions.requestsOfSessions .resubscribe }

def unsubscribeServices (sessions : DLNAEventSessions) : DLNAEventSessions :=
  { sessions with
    resubscriptions := 0
    requests := sessions.requests ++ sessions.requestsOfSessions .unsubscribe }

/-- The rest of a completion handler after a response with code 200. -/
def succeed (sessions : DLNAEventSessions) (request : DLNAEventRequest)
    (sid : Option String) : DLNAEventSessions :=
  match request with
  | .subscribe serviceId =>
      let httpServerSessionIds :=
        match sid with
        | none => sessions.httpServerSessionIds
        | some sessionId => sessions.httpServerSessionIds.map fun sessionIds =>
            sessionIds.insert serviceId sessionId
      { sessions with httpServerSessionIds, resubscriptions := sessions.resubscriptions + 1 }
  | .resubscribe _ _ =>
      { sessions with resubscriptions := sessions.resubscriptions + 1 }
  | .unsubscribe serviceId _ =>
      { sessions with
        httpServerSessionIds := sessions.httpServerSessionIds.map fun sessionIds =>
          sessionIds.erase serviceId }

/-- The request at an index, if the response lets its completion handler go on. -/
def succeeded (sessions : DLNAEventSessions) (index : Nat)
    (response : Option NSHTTPURLResponse) : Option (DLNAEventRequest × Option String) :=
  match sessions.requests[index]?, response with
  | some request, some response =>
      if response.statusCode = 200 then some (request, response.sid) else none
  | _, _ => none

def answered (sessions : DLNAEventSessions) (index : Nat)
    (response : Option NSHTTPURLResponse) : DLNAEventSessions :=
  let rest := { sessions with requests := sessions.requests.eraseIdx index }
  match sessions.succeeded index response with
  | none => rest
  | some (request, sid) => rest.succeed request sid

def step (sessions : DLNAEventSessions) : DLNASessionEvent → DLNAEventSessions
  | .setServiceList serviceList => { sessions with serviceList }
  | .connect => sessions.subscribeServices
  | .disconnect => sessions.unsubscribeServices
  | .subscribe => sessions.subscribeServices
  | .unsubscribe => sessions.unsubscribeServices
  | .resubscribe =>
      if sessions.resubscriptions = 0 then sessions else sessions.resubscribeSubscriptions
  | .answered index response => sessions.answered index response

end DLNAEventSessions

end ConnectSDK
