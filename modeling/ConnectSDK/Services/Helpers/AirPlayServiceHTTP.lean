import Mathlib.Logic.Basic
import ConnectSDK.Foundation.NSString
import ConnectSDK.Services.Commands.CommandCalls

/-! # AirPlay requests

`-[AirPlayServiceHTTP sendCommand:withPayload:toURL:]`, from the payload to the callback
that hears of the answer. Encodings and property lists belong to Foundation.
-/

namespace ConnectSDK

abbrev Data := List UInt8

/-- What Foundation does. A result and an error are reported separately. -/
structure PropertyLists (Plist : Type) where
  dataUsingEncoding : NSString → Option Data
  dataWithPropertyList : Plist → Option Data × Option NSError
  propertyListWithData : Option Data → Option Plist × Option NSError
  /-- How `%@` prints a collection. -/
  description : JSON → String

inductive AirPlayPayload (Plist : Type) where
  | string (text : NSString)
  | dictionary (dictionary : Plist)
  | data (bytes : Data)
  | other

/-- What `callbackComplete` is given. -/
inductive AirPlayResponse (Plist : Type) where
  | data (bytes : Option Data)
  | plist (plist : Plist)

abbrev AirPlayCall (Plist : Type) := CommandCall (AirPlayResponse Plist)

structure AirPlayCommand where
  target : Option String := none
  HTTPMethod : String := "POST"

/-- What a request that finished has received. -/
structure HTTPResponse where
  responseStatusCode : Int
  responseData : Option Data

/-- How a request ends: finished, when the request may be gone before its block runs, or
failed. -/
inductive RequestOutcome where
  | finished (weakRequest : Option HTTPResponse)
  | failed (error : NSError)

structure CTASIHTTPRequest (Plist : Type) where
  url : Option String
  requestMethod : String := "GET"
  requestHeaders : List (String × String) := []
  postBody : Option Data := none
  shouldAttemptPersistentConnection : Bool := true
  shouldContinueWhenAppEntersBackground : Bool := false
  completionBlock : Option (Option HTTPResponse → List (AirPlayCall Plist)) := none
  failedBlock : Option (NSError → List (AirPlayCall Plist)) := none

structure AirPlayServiceHTTP where
  sessionId : Option String := none
  assetId : Option String := none

variable {Plist : Type}

namespace ConnectError

/-- `generateErrorWithCode:andDetails:` on a number that need not be a constant of the
enumeration. -/
def generateErrorWithNumber (collection : JSON → String) (code : Int)
    (details : Option JSON) : NSError :=
  match [.error, .tvError, .certificateError, .socketError, .notSupported, .argumentError,
      .notConnected].find? fun constant => ConnectStatusCode.rawValue constant = code with
  | some constant => generateErrorWithCode collection constant details
  | none =>
      { generateErrorWithCode collection .error details with code }

end ConnectError

namespace CTASIHTTPRequest

def addRequestHeader (request : CTASIHTTPRequest Plist) (header value : String) :
    CTASIHTTPRequest Plist :=
  { request with requestHeaders := request.requestHeaders ++ [(header, value)] }

/-- `if (value) [request addRequestHeader:header value:value]`. -/
def addRequestHeaderIfSome (request : CTASIHTTPRequest Plist) (header : String) :
    Option String → CTASIHTTPRequest Plist
  | none => request
  | some value => request.addRequestHeader header value

@[simp] theorem addRequestHeaderIfSome_failedBlock (request : CTASIHTTPRequest Plist)
    (header : String) (value : Option String) :
    (request.addRequestHeaderIfSome header value).failedBlock = request.failedBlock := by
  cases value <;> rfl

/-- A finished request runs its completion block, a failed one its failed block. -/
def run (request : CTASIHTTPRequest Plist) : RequestOutcome → List (AirPlayCall Plist)
  | .finished weakRequest =>
      (request.completionBlock.map fun block => block weakRequest).getD []
  | .failed error => (request.failedBlock.map fun block => block error).getD []

end CTASIHTTPRequest

namespace AirPlayServiceHTTP

/-- `%i` of an `unsigned int`. -/
def printedLength (data : Data) : String :=
  toString (BitVec.ofNat 32 data.length).toInt

/-- The body of a request and its content type. -/
def payloadData (library : PropertyLists Plist) (payload : AirPlayPayload Plist) :
    Except NSError (Data × String) :=
  let unknown := ConnectError.generateErrorWithCode library.description .error
    (some (.string "Unknown error preparing message to send"))
  match payload with
  | .string text =>
      match library.dataUsingEncoding text with
      | some data => .ok (data, "text/parameters")
      | none => .error unknown
  | .dictionary dictionary =>
      match library.dataWithPropertyList dictionary with
      | (some data, none) => .ok (data, "application/x-apple-binary-plist")
      | (_, some parseError) => .error parseError
      | (none, none) =>
          .error (ConnectError.generateErrorWithCode library.description .error
            (some (.string "Error occurred while parsing property list")))
  | .data bytes => .ok (bytes, "image/jpeg")
  | .other => .error unknown

/-- The completion block of a request. -/
def completionBlock (library : PropertyLists Plist) (callbacks : SetCallbacks)
    (weakRequest : Option HTTPResponse) : List (AirPlayCall Plist) :=
  match weakRequest with
  | none =>
      callbacks.invoke (.callbackError (ConnectError.generateErrorWithCode library.description
        .socketError (some (.string "Could not access request data"))))
  | some strongRequest =>
      if strongRequest.responseStatusCode = 200 then
        match library.propertyListWithData strongRequest.responseData with
        | (_, some _) =>
            callbacks.invoke (.callbackComplete (.data strongRequest.responseData))
        | (some plist, none) => callbacks.invoke (.callbackComplete (.plist plist))
        | (none, none) => []
      else
        callbacks.invoke (.callbackError (ConnectError.generateErrorWithNumber
          library.description strongRequest.responseStatusCode none))

/-- The request with its headers and its body. Without a payload its method makes no
difference. -/
def preparedRequest (library : PropertyLists Plist) (command : AirPlayCommand)
    (payload : Option (AirPlayPayload Plist)) :
    Except NSError (CTASIHTTPRequest Plist) :=
  let request : CTASIHTTPRequest Plist := { url := command.target }
  match payload with
  | none => .ok (request.addRequestHeader "Content-Length" "0")
  | some payload =>
      (payloadData library payload).map fun body =>
        { ((request.addRequestHeader "Content-Length" (printedLength body.1)).addRequestHeader
            "Content-Type" body.2).addRequestHeader "Connection" "Keep-Alive" with
          postBody := some body.1 }

/-- `sendCommand:withPayload:toURL:`, with the callbacks it invokes itself and the request
that it starts. No failed block is set. -/
def sendCommand (library : PropertyLists Plist) (service : AirPlayServiceHTTP)
    (command : AirPlayCommand) (callbacks : SetCallbacks)
    (payload : Option (AirPlayPayload Plist)) :
    List (AirPlayCall Plist) × Option (CTASIHTTPRequest Plist) :=
  match preparedRequest library command payload with
  | .error error => (callbacks.invoke (.callbackError error), none)
  | .ok request =>
      let request := { request with requestMethod := command.HTTPMethod }
      let request := request.addRequestHeaderIfSome "X-Apple-Session-ID" service.sessionId
      let request := request.addRequestHeaderIfSome "X-Apple-AssetKey" service.assetId
      ([], some
        { request with
          shouldAttemptPersistentConnection := true
          shouldContinueWhenAppEntersBackground := true
          completionBlock := some (completionBlock library callbacks) })

/-- The callbacks invoked for a command whose request ends in `outcome`. -/
def calls (library : PropertyLists Plist) (service : AirPlayServiceHTTP)
    (command : AirPlayCommand) (callbacks : SetCallbacks)
    (payload : Option (AirPlayPayload Plist)) (outcome : RequestOutcome) :
    List (AirPlayCall Plist) :=
  let sent := sendCommand library service command callbacks payload
  sent.1 ++ (sent.2.map fun request => request.run outcome).getD []

/-- No body can be made of the payload. -/
def Unsendable (library : PropertyLists Plist) : AirPlayPayload Plist → Prop
  | .string text => library.dataUsingEncoding text = none
  | .dictionary dictionary =>
      (library.dataWithPropertyList dictionary).1 = none ∨
        (library.dataWithPropertyList dictionary).2 ≠ none
  | .data _ => False
  | .other => True

/-- The request finishes; and if it is still there and its status is 200, its data is a
property list or an error is reported. -/
def Hears (library : PropertyLists Plist) : RequestOutcome → Prop
  | .finished weakRequest => ∀ response, weakRequest = some response →
      response.responseStatusCode = 200 →
        library.propertyListWithData response.responseData ≠ (none, none)
  | .failed _ => False

theorem payloadData_error_iff (library : PropertyLists Plist)
    (payload : AirPlayPayload Plist) :
    (∃ error, payloadData library payload = .error error) ↔ Unsendable library payload := by
  cases payload with
  | string text =>
      cases encoded : library.dataUsingEncoding text <;>
        simp [payloadData, Unsendable, encoded]
  | dictionary dictionary =>
      rcases written : library.dataWithPropertyList dictionary with ⟨_ | _, _ | _⟩ <;>
        simp [payloadData, Unsendable, written]
  | data bytes => simp [payloadData, Unsendable]
  | other => simp [payloadData, Unsendable]

theorem preparedRequest_error_iff (library : PropertyLists Plist) (command : AirPlayCommand)
    (payload : Option (AirPlayPayload Plist)) :
    (∃ error, preparedRequest library command payload = .error error) ↔
      ∃ body, payload = some body ∧ Unsendable library body := by
  cases payload with
  | none => simp [preparedRequest]
  | some body =>
      have unsendable := payloadData_error_iff library body
      cases prepared : payloadData library body with
      | error error => simp [preparedRequest, prepared, Except.map, ← unsendable]
      | ok data => simp [preparedRequest, prepared, Except.map, ← unsendable]

theorem preparedRequest_failedBlock {library : PropertyLists Plist}
    {command : AirPlayCommand} {payload : Option (AirPlayPayload Plist)}
    {request : CTASIHTTPRequest Plist}
    (prepared : preparedRequest library command payload = .ok request) :
    request.failedBlock = none := by
  cases payload with
  | none =>
      cases prepared
      rfl
  | some body =>
      cases written : payloadData library body with
      | error error => simp [preparedRequest, written, Except.map] at prepared
      | ok data =>
          simp only [preparedRequest, written, Except.map, Except.ok.injEq] at prepared
          rw [← prepared]
          rfl

theorem calls_of_error {library : PropertyLists Plist} {command : AirPlayCommand}
    {payload : Option (AirPlayPayload Plist)} {error : NSError}
    (prepared : preparedRequest library command payload = .error error)
    (service : AirPlayServiceHTTP) (callbacks : SetCallbacks) (outcome : RequestOutcome) :
    calls library service command callbacks payload outcome =
      callbacks.invoke (.callbackError error) := by
  simp [calls, sendCommand, prepared]

/-- A failed request has nothing to run. -/
theorem calls_of_ok {library : PropertyLists Plist} {command : AirPlayCommand}
    {payload : Option (AirPlayPayload Plist)} {request : CTASIHTTPRequest Plist}
    (prepared : preparedRequest library command payload = .ok request)
    (service : AirPlayServiceHTTP) (callbacks : SetCallbacks) (outcome : RequestOutcome) :
    calls library service command callbacks payload outcome =
      match outcome with
      | .finished weakRequest => completionBlock library callbacks weakRequest
      | .failed _ => [] := by
  have unset := preparedRequest_failedBlock prepared
  cases outcome <;>
    simp [calls, sendCommand, prepared, CTASIHTTPRequest.run, unset]

/-- What is heard of has one callback. -/
theorem completionBlock_of_hears {library : PropertyLists Plist}
    {weakRequest : Option HTTPResponse} (hears : Hears library (.finished weakRequest)) :
    InvokesOne fun callbacks => completionBlock library callbacks weakRequest := by
  cases weakRequest with
  | none => exact ⟨.callbackError _, fun _ => rfl⟩
  | some response =>
      by_cases found : response.responseStatusCode = 200
      · have answered := hears response rfl found
        simp only [completionBlock, found, if_true]
        rcases read : library.propertyListWithData response.responseData with
          ⟨plist, _ | error⟩
        · cases plist with
          | none => exact absurd read answered
          | some plist => exact ⟨.callbackComplete (.plist plist), fun _ => rfl⟩
        · exact ⟨.callbackComplete (.data response.responseData), fun _ => rfl⟩
      · simp only [completionBlock, found, if_false]
        exact ⟨_, fun _ => rfl⟩

theorem completionBlock_of_not_hears {library : PropertyLists Plist}
    {weakRequest : Option HTTPResponse}
    (unheard : ¬ Hears library (.finished weakRequest)) (callbacks : SetCallbacks) :
    completionBlock library callbacks weakRequest = [] := by
  simp only [Hears, not_forall, not_not] at unheard
  rcases unheard with ⟨response, present, found, read⟩
  rw [present]
  simp only [completionBlock, found, if_true, read]

/-- One callback is invoked exactly if no request is sent or its outcome is heard of. -/
theorem sendCommand_invokesOne_iff (library : PropertyLists Plist)
    (service : AirPlayServiceHTTP) (command : AirPlayCommand)
    (payload : Option (AirPlayPayload Plist)) (outcome : RequestOutcome) :
    InvokesOne (fun callbacks => calls library service command callbacks payload outcome) ↔
      (∃ body, payload = some body ∧ Unsendable library body) ∨ Hears library outcome := by
  rw [← preparedRequest_error_iff library command]
  cases prepared : preparedRequest library command payload with
  | error error =>
      simp only [calls_of_error prepared]
      apply iff_of_true
      · exact ⟨.callbackError error, fun _ => rfl⟩
      · exact Or.inl ⟨error, rfl⟩
  | ok request =>
      simp only [calls_of_ok prepared, reduceCtorEq, exists_false, false_or]
      cases outcome with
      | failed error =>
          apply iff_of_false
          · exact not_invokesOne_of_nil rfl
          · exact id
      | finished weakRequest =>
          by_cases hears : Hears library (.finished weakRequest)
          · exact iff_of_true (completionBlock_of_hears hears) hears
          · apply iff_of_false
            · exact not_invokesOne_of_nil (completionBlock_of_not_hears hears {})
            · exact hears

/-- Nobody hears of a connection that fails. -/
theorem sendCommand_connection_failure :
    ¬ InvokesOne fun callbacks => calls
      ({ dataUsingEncoding := fun text => some (text.units.map UInt16.toUInt8)
         dataWithPropertyList := fun _ => (some [], none)
         propertyListWithData := fun _ =>
           (none, some { code := 3840, localizedDescription := "Unexpected character" })
         description := fun _ => "" } : PropertyLists JSON)
      {} { target := some "http://192.168.1.20:7000/stop" } callbacks none
      (.failed { code := 1, localizedDescription := "A connection failure occurred" }) :=
  not_invokesOne_of_nil rfl

end AirPlayServiceHTTP

end ConnectSDK
