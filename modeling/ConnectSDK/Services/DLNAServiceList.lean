import Mathlib.Data.List.Induction
import ConnectSDK.Foundation.PartialMaps
import ConnectSDK.Services.DLNAEventSessions
import ConnectSDK.Services.DeviceService

/-! # The service list of a DLNA device

What `DLNAService` makes of services whose id or paths are missing. A message to `nil`
returns a range at the location zero, as if what is searched were found there.
-/

namespace ConnectSDK

/-- A service, with the texts of its elements. -/
structure DLNAServiceEntry where
  serviceId : Option String
  controlURL : Option String
  eventSubURL : Option String

/-- The host and the port of the command URL, if there is one. -/
structure DLNAHost where
  host : Option String
  port : Option Nat

structure DLNAControlURLs where
  avTransportControlURL : Option String := none
  avTransportEventURL : Option String := none
  renderingControlControlURL : Option String := none
  renderingControlEventURL : Option String := none

structure DLNASubscribeRequest where
  url : Option String
  httpMethod : String
  headers : List (String × String)
  serviceId : Option String

/-- `hasPrefix:` with a slash. -/
def hasSlash (path : String) : Bool :=
  path.toList.head? == some '/'

/-- `[path substringFromIndex:1]` for a path with a slash. -/
def withoutSlash (path : String) : String :=
  if hasSlash path then String.ofList path.toList.tail else path

namespace DLNAService

/-- The text that `serviceURLForPath:` makes a URL of. -/
def serviceURLText (device : DLNAHost) (path : Option String) : String :=
  let path :=
    match path with
    | none => "/(null)"
    | some path => if hasSlash path then path else "/" ++ path
  "http://" ++ device.host.getD "(null)" ++ ":" ++
    (device.port.map Nat.repr).getD "(null)" ++ path

/-- `[serviceName rangeOfString:searched].location != NSNotFound`. -/
def findsIn (searched : String) (serviceName : Option String) : Bool :=
  match serviceName with
  | none => true
  | some serviceName => (rangeOfString searched.toList serviceName.toList).isSome

/-- `-[DLNAHTTPServer getHostPath]`. -/
def hostPath (ipAddress : String) : String :=
  "http://" ++ ipAddress ++ ":49291/"

section Services

variable (urlWithString : String → Option String) (device : DLNAHost)

def serviceURLForPath (path : Option String) : Option String :=
  urlWithString (serviceURLText device path)

def updateControlURL (urls : DLNAControlURLs) (service : DLNAServiceEntry) :
    DLNAControlURLs :=
  let controlURL := serviceURLForPath urlWithString device service.controlURL
  let eventURL := serviceURLForPath urlWithString device service.eventSubURL
  if findsIn ":AVTransport" service.serviceId then
    { urls with avTransportControlURL := controlURL, avTransportEventURL := eventURL }
  else if findsIn ":RenderingControl" service.serviceId then
    { urls with
      renderingControlControlURL := controlURL
      renderingControlEventURL := eventURL }
  else urls

def updateControlURLs (urls : DLNAControlURLs) (serviceList : List DLNAServiceEntry) :
    DLNAControlURLs :=
  serviceList.foldl (updateControlURL urlWithString device) urls

/-! ## Subscribing -/

/-- The request for one service. Appending `nil` raises, unless it is sent to `nil`. -/
def subscribeRequest (ipAddress : Option String) (service : DLNAServiceEntry) :
    Option DLNASubscribeRequest :=
  let eventSubURL := serviceURLForPath urlWithString device service.eventSubURL
  let eventPath := service.eventSubURL.map withoutSlash
  let serverPath : Option (Option String) :=
    match ipAddress with
    | none => some none
    | some ipAddress => eventPath.map fun eventPath => some (hostPath ipAddress ++ eventPath)
  serverPath.map fun serverPath =>
    { url := eventSubURL
      httpMethod := "SUBSCRIBE"
      headers :=
        [("CALLBACK", "<" ++ serverPath.getD "(null)" ++ ">"),
          ("NT", "upnp:event"),
          ("TIMEOUT", "Second-300"),
          ("Connection", "close"),
          ("Content-Length", "0"),
          ("USER-AGENT", "iOS UPnP/1.1 ConnectSDK")]
      serviceId := service.serviceId }

/-- The requests of `subscribeServices`. There is an address if there is a web server. -/
def subscribeRequests (ipAddress : Option String) (serviceList : List DLNAServiceEntry) :
    Option (List DLNASubscribeRequest) :=
  serviceList.mapM (subscribeRequest urlWithString device ipAddress)

/-- The completion handler of a request. A session id under `nil` raises. -/
def didSubscribe (sessions : DLNAEventSessions) (serviceId : Option String)
    (response : Option NSHTTPURLResponse) : Option DLNAEventSessions :=
  match response with
  | none => some sessions
  | some response =>
      if response.statusCode = 200 then
        match serviceId, response.sid with
        | some serviceId, sid => some (sessions.succeed (.subscribe serviceId) sid)
        | none, none => some { sessions with resubscriptions := sessions.resubscriptions + 1 }
        | none, some _ => none
      else some sessions

/-- A reply to one of the requests. -/
abbrev SubscribeReply := Nat × Option NSHTTPURLResponse

def receiveReply (requests : List DLNASubscribeRequest) (sessions : DLNAEventSessions)
    (reply : SubscribeReply) : Option DLNAEventSessions :=
  match requests[reply.1]? with
  | none => some sessions
  | some request => didSubscribe sessions request.serviceId reply.2

/-- `subscribeServices`, with the replies that arrive. -/
def subscribeServices (sessions : DLNAEventSessions) (ipAddress : Option String)
    (serviceList : List DLNAServiceEntry) (replies : List SubscribeReply) :
    Option DLNAEventSessions :=
  (subscribeRequests urlWithString device ipAddress serviceList).bind fun requests =>
    replies.foldlM (receiveReply requests)
      { sessions with httpServerSessionIds := some ∅ }

end Services

/-! ## Sources of the URLs -/

/-- The id is there, and has a part in it. -/
def Names (searched : String) (service : DLNAServiceEntry) : Prop :=
  ∃ serviceId, service.serviceId = some serviceId ∧
    (rangeOfString searched.toList serviceId.toList).isSome = true

/-- The AVTransport URLs are taken from the service. -/
def isTransport (service : DLNAServiceEntry) : Bool :=
  findsIn ":AVTransport" service.serviceId

def isRendering (service : DLNAServiceEntry) : Bool :=
  !isTransport service && findsIn ":RenderingControl" service.serviceId

/-- The service that the AVTransport URLs are from in the end. -/
def transportSource (serviceList : List DLNAServiceEntry) : Option DLNAServiceEntry :=
  serviceList.reverse.find? isTransport

def renderingSource (serviceList : List DLNAServiceEntry) : Option DLNAServiceEntry :=
  serviceList.reverse.find? isRendering

theorem findsIn_iff_names {searched : String} {service : DLNAServiceEntry}
    (identified : service.serviceId ≠ none) :
    findsIn searched service.serviceId = true ↔ Names searched service := by
  cases serviceId : service.serviceId with
  | none => exact absurd serviceId identified
  | some text =>
      rw [Names, serviceId]
      constructor
      · exact fun found => ⟨text, rfl, found⟩
      · rintro ⟨_, same, found⟩
        cases same
        exact found

theorem transportSource_concat (serviceList : List DLNAServiceEntry)
    (service : DLNAServiceEntry) :
    transportSource (serviceList ++ [service]) =
      if isTransport service then some service else transportSource serviceList := by
  rw [transportSource, List.reverse_append, List.reverse_singleton, List.singleton_append,
    List.find?_cons]
  cases isTransport service <;> rfl

theorem renderingSource_concat (serviceList : List DLNAServiceEntry)
    (service : DLNAServiceEntry) :
    renderingSource (serviceList ++ [service]) =
      if isRendering service then some service else renderingSource serviceList := by
  rw [renderingSource, List.reverse_append, List.reverse_singleton, List.singleton_append,
    List.find?_cons]
  cases isRendering service <;> rfl

/-- Each URL is the one of its source, or the one from before. -/
def urlsFrom (urlWithString : String → Option String) (device : DLNAHost)
    (urls : DLNAControlURLs) (transport rendering : Option DLNAServiceEntry) :
    DLNAControlURLs :=
  let urlOf := serviceURLForPath urlWithString device
  { avTransportControlURL :=
      (transport.map fun source => urlOf source.controlURL).getD urls.avTransportControlURL
    avTransportEventURL :=
      (transport.map fun source => urlOf source.eventSubURL).getD urls.avTransportEventURL
    renderingControlControlURL :=
      (rendering.map fun source => urlOf source.controlURL).getD urls.renderingControlControlURL
    renderingControlEventURL :=
      (rendering.map fun source => urlOf source.eventSubURL).getD urls.renderingControlEventURL }

theorem updateControlURLs_eq (urlWithString : String → Option String) (device : DLNAHost)
    (urls : DLNAControlURLs) (serviceList : List DLNAServiceEntry) :
    updateControlURLs urlWithString device urls serviceList =
      urlsFrom urlWithString device urls (transportSource serviceList)
        (renderingSource serviceList) := by
  induction serviceList using List.reverseRecOn with
  | nil => rfl
  | append_singleton serviceList service induction =>
      rw [updateControlURLs] at induction
      rw [updateControlURLs, List.foldl_append, induction, List.foldl_cons, List.foldl_nil,
        updateControlURL, transportSource_concat, renderingSource_concat, isRendering,
        isTransport]
      cases findsIn ":AVTransport" service.serviceId with
      | true => rfl
      | false =>
          cases findsIn ":RenderingControl" service.serviceId <;> rfl

/-- Each service without an id is followed by one of AVTransport. -/
def NamedLater (serviceList : List DLNAServiceEntry) : Prop :=
  ∀ before service after, serviceList = before ++ service :: after →
    service.serviceId = none → ∃ later ∈ after, Names ":AVTransport" later

theorem transportSource_named_iff (serviceList : List DLNAServiceEntry) :
    (∀ source, transportSource serviceList = some source → Names ":AVTransport" source) ↔
      NamedLater serviceList := by
  constructor
  · intro named before service after split missing
    have taken : isTransport service = true := by
      rw [isTransport, missing]
      rfl
    have found : transportSource serviceList =
        (after.reverse.find? isTransport).or (some service) := by
      rw [transportSource, split, List.reverse_append, List.reverse_cons, List.find?_append,
        List.find?_append, List.find?_singleton, if_pos taken, Option.or_assoc, Option.some_or]
    cases later : after.reverse.find? isTransport with
    | some source =>
        rw [later] at found
        exact ⟨source, List.mem_reverse.mp (List.mem_of_find?_eq_some later),
          named source found⟩
    | none =>
        rw [later] at found
        rcases named service found with ⟨_, present, _⟩
        rw [missing] at present
        cases present
  · intro later source found
    rcases List.find?_eq_some_iff_append.mp found with ⟨taken, after, before, split, skipped⟩
    by_cases missing : source.serviceId = none
    · have order : serviceList = before.reverse ++ source :: after.reverse := by
        rw [← List.reverse_reverse serviceList, split]
        simp
      rcases later _ _ _ order missing with ⟨other, member, serviceId, present, found⟩
      have untaken := skipped other (List.mem_reverse.mp member)
      rw [isTransport, present] at untaken
      rw [findsIn, found] at untaken
      cases untaken
    · exact (findsIn_iff_names missing).mp taken

theorem renderingSource_named {serviceList : List DLNAServiceEntry}
    {source : DLNAServiceEntry} (found : renderingSource serviceList = some source) :
    Names ":RenderingControl" source := by
  have taken := List.find?_some found
  rw [isRendering, isTransport, Bool.and_eq_true] at taken
  by_cases missing : source.serviceId = none
  · rw [missing] at taken
    cases taken.1
  · exact (findsIn_iff_names missing).mp taken.2

/-! ## Exceptions -/

section Services

variable (urlWithString : String → Option String) (device : DLNAHost)

theorem isSome_subscribeRequest_iff (ipAddress : Option String) (service : DLNAServiceEntry) :
    (subscribeRequest urlWithString device ipAddress service).isSome = true ↔
      (ipAddress ≠ none → service.eventSubURL ≠ none) := by
  cases ipAddress with
  | none => exact iff_of_true rfl fun impossible => absurd rfl impossible
  | some address =>
      rw [subscribeRequest, Option.isSome_map, Option.isSome_map, Option.isSome_map,
        Option.isSome_iff_ne_none]
      exact ⟨fun present _ => present, fun present => present (Option.some_ne_none address)⟩

theorem subscribeRequest_serviceId {ipAddress : Option String} {service : DLNAServiceEntry}
    {request : DLNASubscribeRequest}
    (made : subscribeRequest urlWithString device ipAddress service = some request) :
    request.serviceId = service.serviceId := by
  rcases Option.map_eq_some_iff.mp made with ⟨_, _, rfl⟩
  rfl

/-- The reply has a session id for a service. -/
def BringsSession (reply : SubscribeReply) : Prop :=
  ∃ response, reply.2 = some response ∧ response.statusCode = 200 ∧ response.sid ≠ none

theorem isSome_didSubscribe_iff (sessions : DLNAEventSessions) (serviceId : Option String)
    (reply : SubscribeReply) :
    (didSubscribe sessions serviceId reply.2).isSome = true ↔
      (BringsSession reply → serviceId ≠ none) := by
  rcases reply with ⟨index, _ | response⟩
  · simp [didSubscribe, BringsSession]
  · rcases response with ⟨statusCode, sid⟩
    by_cases accepted : statusCode = 200
    · cases serviceId <;> cases sid <;> simp [didSubscribe, BringsSession, accepted]
    · simp [didSubscribe, BringsSession, accepted]

/-- No session id comes for a service without an id. -/
def SessionsNamed (serviceList : List DLNAServiceEntry) (replies : List SubscribeReply) : Prop :=
  ∀ reply ∈ replies, BringsSession reply → ∀ service, serviceList[reply.1]? = some service →
    service.serviceId ≠ none

theorem isSome_subscribeServices_iff (sessions : DLNAEventSessions)
    (ipAddress : Option String) (serviceList : List DLNAServiceEntry)
    (replies : List SubscribeReply) :
    (subscribeServices urlWithString device sessions ipAddress serviceList replies).isSome =
        true ↔
      (ipAddress ≠ none → ∀ service ∈ serviceList, service.eventSubURL ≠ none) ∧
        SessionsNamed serviceList replies := by
  have prepared : (subscribeRequests urlWithString device ipAddress serviceList).isSome =
      true ↔ (ipAddress ≠ none → ∀ service ∈ serviceList, service.eventSubURL ≠ none) := by
    rw [subscribeRequests, isSome_mapM_iff]
    simp only [isSome_subscribeRequest_iff]
    exact ⟨fun each present service member => each service member present,
      fun each service member present => each present service member⟩
  rw [← prepared, subscribeServices]
  cases made : subscribeRequests urlWithString device ipAddress serviceList with
  | none => exact iff_of_false Bool.false_ne_true fun impossible => Bool.false_ne_true impossible.1
  | some requests =>
      have same := forall₂_of_mapM_eq_some made
      rw [Option.bind_some, Option.isSome_some, and_iff_right rfl]
      have received : ∀ (sessions : DLNAEventSessions) (reply : SubscribeReply),
          (receiveReply requests sessions reply).isSome = true ↔
            (BringsSession reply → ∀ service, serviceList[reply.1]? = some service →
              service.serviceId ≠ none) := by
        intro sessions reply
        rw [receiveReply]
        by_cases inside : reply.1 < requests.length
        · have serviceInside : reply.1 < serviceList.length := same.length_eq ▸ inside
          have identified := subscribeRequest_serviceId urlWithString device
            (same.get serviceInside inside)
          rw [List.get_eq_getElem, List.get_eq_getElem] at identified
          rw [List.getElem?_eq_getElem inside, List.getElem?_eq_getElem serviceInside]
          dsimp only
          rw [isSome_didSubscribe_iff, identified]
          refine imp_congr_right fun _ => ⟨?_, fun each => each _ rfl⟩
          rintro present _ same
          cases same
          exact present
        · have absent : serviceList[reply.1]? = none :=
            List.getElem?_eq_none (same.length_eq ▸ Nat.le_of_not_lt inside)
          rw [List.getElem?_eq_none (Nat.le_of_not_lt inside), absent]
          exact iff_of_true rfl fun _ _ impossible => absurd impossible nofun
      exact isSome_foldlM_iff received

end Services

/-- The sources of the URLs have the right ids, and nothing is raised, exactly if each
service without an id is followed by one of AVTransport, each has an event path where
there is a web server, and no session id comes for one without an id. -/
theorem control_urls_and_subscriptions_iff (urlWithString : String → Option String)
    (device : DLNAHost) (urls : DLNAControlURLs) (sessions : DLNAEventSessions)
    (ipAddress : Option String) (serviceList : List DLNAServiceEntry)
    (replies : List SubscribeReply) :
    updateControlURLs urlWithString device urls serviceList =
      urlsFrom urlWithString device urls (transportSource serviceList)
        (renderingSource serviceList) ∧
    (((∀ source, transportSource serviceList = some source → Names ":AVTransport" source) ∧
      (∀ source, renderingSource serviceList = some source →
        Names ":RenderingControl" source) ∧
      (subscribeServices urlWithString device sessions ipAddress serviceList replies).isSome =
        true) ↔
      NamedLater serviceList ∧
        (ipAddress ≠ none → ∀ service ∈ serviceList, service.eventSubURL ≠ none) ∧
        SessionsNamed serviceList replies) := by
  refine ⟨updateControlURLs_eq urlWithString device urls serviceList, ?_⟩
  rw [transportSource_named_iff, isSome_subscribeServices_iff]
  exact and_congr_right fun _ => and_iff_right fun source found => renderingSource_named found

/-- Services as a device may list them: one without events, and one without an id. -/
def withoutEvents : DLNAServiceEntry where
  serviceId := some "urn:upnp-org:serviceId:AVTransport"
  controlURL := some "/control"
  eventSubURL := none

def withoutId : DLNAServiceEntry where
  serviceId := none
  controlURL := some "/other"
  eventSubURL := some "/event"

/-- The URLs are taken from a service without an id, and a service without events
raises. -/
theorem missing_texts_mistaken :
    transportSource [withoutEvents, withoutId] = some withoutId ∧
      ¬ Names ":AVTransport" withoutId ∧
      subscribeServices some { host := some "tv", port := some 80 } {} (some "10.0.0.2")
        [withoutEvents] [] = none := by
  refine ⟨rfl, ?_, rfl⟩
  rintro ⟨_, impossible, _⟩
  cases impossible

end DLNAService

end ConnectSDK
