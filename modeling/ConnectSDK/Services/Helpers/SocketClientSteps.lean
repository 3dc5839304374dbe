import ConnectSDK.Services.Helpers.MessageNumbers

/-! # Steps of the socket client

What each event does to the messages. All but three of them lose nothing: only a
message, a failure or a close takes commands out of the table.
-/

namespace ConnectSDK

/-- The events that take commands out of the table. -/
def SocketClientEvent.settles : SocketClientEvent → Bool
  | .didClose .. => true
  | .didFail .. => true
  | .didReceiveMessage .. => true
  | _ => false

/-- Subscriptions are created without a call id, as with `kUnsetCallId`. -/
def SocketClientEvent.CreatesUnset : SocketClientEvent → Prop
  | .createSubscription _ _ callId => callId = none
  | _ => True

namespace WebOSTVServiceSocketClient

open Ledger

variable {platform : Platform}

def isOpen (client : WebOSTVServiceSocketClient) : Bool :=
  decide (client.socket.map LGSRWebSocket.readyState = some .open)

/-- Whether an event other than a failure has the client say hello. -/
def saysHello (client : WebOSTVServiceSocketClient) : SocketClientEvent → Bool
  | .didOpen => client.socket.isSome
  | .connect => client.isOpen
  | .appDidBecomeActive =>
      client.observesAppState && client.reconnectOnWake && client.isOpen
  | _ => false

/-- The register command whose callback an event runs with an answer. -/
def completedRegistration (client : WebOSTVServiceSocketClient) :
    SocketClientEvent → Option (Ref ServiceCommand)
  | .runNext =>
      match client.mainQueue with
      | .complete command _ :: _ =>
          if (client.commands.read command).callbackComplete = some .register then
            some command
          else
            none
      | _ => none
  | _ => none

/-- The messages once the block that an event runs, if any, is off the main
queue. -/
def polled (client : WebOSTVServiceSocketClient) : SocketClientEvent → Ledger
  | .runNext => { client.ledger with mainQueue := client.mainQueue.tail }
  | _ => client.ledger

/-- The callbacks that a step put on the main queue. -/
def scheduled (before after : WebOSTVServiceSocketClient) : List MainBlock :=
  after.mainQueue.drop before.mainQueue.length

theorem scheduled_of_append {before after : WebOSTVServiceSocketClient}
    {blocks : List MainBlock} (queue : after.mainQueue = before.mainQueue ++ blocks) :
    scheduled before after = blocks := by
  rw [scheduled, queue, List.drop_left]

theorem openSocket_silent {client : WebOSTVServiceSocketClient}
    (silent : client.isOpen = false) :
    (openSocket platform client).ledger = client.ledger := by
  rw [openSocket_ledger, if_neg (of_decide_eq_false silent)]

theorem openSocket_greets {client : WebOSTVServiceSocketClient}
    (opened : client.isOpen = true) :
    (openSocket platform client).ledger = client.ledger.greet platform := by
  rw [openSocket_ledger, if_pos (of_decide_eq_true opened)]

theorem hAppDidEnterBackground_ledger (client : WebOSTVServiceSocketClient) :
    client.hAppDidEnterBackground.ledger = client.ledger := by
  unfold hAppDidEnterBackground
  split_ifs with online
  · exact (disconnectWithError_frame _ _).1
  · rfl

theorem hAppDidBecomeActive_ledger (client : WebOSTVServiceSocketClient) :
    (hAppDidBecomeActive platform client).ledger =
      if client.reconnectOnWake then (openSocket platform client).ledger
      else client.ledger := by
  unfold hAppDidBecomeActive
  split_ifs <;> rfl

theorem grows_toSubscription {client after : WebOSTVServiceSocketClient}
    {command : Ref ServiceCommand}
    {act : WebOSTVServiceSocketClient → Option WebOSTVServiceSocketClient}
    (taken : client.toSubscription command act = some after)
    (grows : act client = some after → Grows client.ledger after.ledger) :
    Grows client.ledger after.ledger := by
  refine grows_toObject taken fun _ understood => ?_
  split_ifs at understood with subscription
  exact grows understood

/-- A step that settles nothing and says no hello loses nothing. -/
theorem step_grows {client after : WebOSTVServiceSocketClient}
    {event : SocketClientEvent} (unset : event.CreatesUnset)
    (settlesNone : event.settles = false) (silent : client.saysHello event = false)
    (taken : step platform client event = some after) :
    Grows (client.polled event) after.ledger := by
  cases event with
  | createCommand target payload complete error =>
      cases taken
      exact .allocate rfl
  | createSubscription target payload callId =>
      cases taken
      exact .allocate unset
  | addSuccess command success =>
      refine grows_toSubscription taken fun added => ?_
      cases added
      exact grows_addBlocks client command (some success) none
  | addFailure command failure =>
      refine grows_toSubscription taken fun added => ?_
      cases added
      exact grows_addBlocks client command none (some failure)
  | send command =>
      have reached : client.toObject command
          (fun client => some (sendCommand platform client command)) = some after := taken
      refine grows_toObject reached fun allocated sent => ?_
      cases sent
      exact grows_sendCommand allocated
  | subscribe command => exact grows_toSubscription taken grows_subscribe
  | unsubscribe command => exact grows_toSubscription taken grows_unsubscribe
  | addSubscribe url payload success failure => exact grows_addSubscribe taken
  | killSubscribe url payload =>
      cases taken
      exact .refl _
  | sendString payload =>
      cases taken
      exact .of_eq (sendStringOverSocket_ledger _ _)
  | sendDictionary payload =>
      cases taken
      exact .of_eq (sendStringOverSocket_ledger _ _)
  | connect =>
      cases taken
      exact .of_eq (openSocket_silent silent)
  | disconnect error =>
      cases taken
      exact .of_eq (disconnectWithError_frame _ _).1
  | serviceChanged service =>
      cases taken
      exact .refl _
  | setShouldDisconnectOnBackground value =>
      cases taken
      exact .refl _
  | appDidEnterBackground =>
      cases taken
      split_ifs with observes
      · exact .of_eq (hAppDidEnterBackground_ledger client)
      · exact .refl _
  | appDidBecomeActive =>
      cases taken
      split_ifs with observes
      · rw [hAppDidBecomeActive_ledger]
        split_ifs with wakes
        · have closed : client.isOpen = false := by
            simpa [saysHello, observes, wakes] using silent
          exact .of_eq (openSocket_silent closed)
        · exact .refl _
      · exact .refl _
  | readyStateChanged readyState =>
      cases taken
      exact .refl _
  | didOpen =>
      have absent : client.socket.isSome = false := silent
      rw [step, withSocket, absent] at taken
      cases taken
      exact .refl _
  | didClose reason wasClean => cases settlesNone
  | didFail error => cases settlesNone
  | didGetCertificates certs =>
      simp only [step, withSocket] at taken
      split_ifs at taken with connected
      · cases taken
        exact .refl _
      · cases taken
        exact .refl _
  | didReceiveMessage decodeData shouldProcessMessage => cases settlesNone
  | runNext => exact grows_runNext taken

theorem step_greets {client after : WebOSTVServiceSocketClient}
    {event : SocketClientEvent} (greeting : client.saysHello event = true)
    (taken : step platform client event = some after) :
    after.ledger = client.ledger.greet platform := by
  cases event with
  | didOpen =>
      have connected : client.socket.isSome = true := greeting
      rw [step, withSocket, connected] at taken
      cases taken
      rfl
  | connect =>
      cases taken
      exact openSocket_greets greeting
  | appDidBecomeActive =>
      have parts : (client.observesAppState = true ∧ client.reconnectOnWake = true) ∧
          client.isOpen = true := by
        simpa [saysHello] using greeting
      rw [step, if_pos parts.1.1] at taken
      cases taken
      rw [hAppDidBecomeActive_ledger, if_pos parts.1.2]
      exact openSocket_greets parts.2
  | _ => cases greeting

/-! ## Losing the connection -/

/-- The messages of a client whose table was cleared. -/
def cleared (client : WebOSTVServiceSocketClient) (blocks : List MainBlock) : Ledger :=
  { client.ledger with
    activeConnections := ∅
    mainQueue := client.mainQueue ++ blocks }

theorem Ledger.Numbered.cleared {client : WebOSTVServiceSocketClient}
    (numbered : client.ledger.Numbered) (blocks : List MainBlock) :
    Advance client.ledger (client.cleared blocks) := by
  refine numbered.forget (Nat.le_refl _) (fun _ allocated => ⟨allocated, rfl⟩) ?_
    (fun _ _ held => held)
  intro key command held
  cases held

theorem didCloseWithCode_ledger (client : WebOSTVServiceSocketClient)
    (reason : Option String) (wasClean : Bool) :
    (didCloseWithCode platform client reason wasClean).ledger = client.cleared [] := by
  have unscheduled : client.mainQueue ++ [] = client.mainQueue := List.append_nil _
  rw [cleared, unscheduled]
  rfl

/-- A failure schedules the error callback of every command in the table. When
the certificate has changed the client connects again, and may say hello. -/
theorem didFailWithError_ledger (client : WebOSTVServiceSocketClient) (error : NSError) :
    ∃ intError,
      (didFailWithError platform client error).ledger =
          client.cleared (client.failureBlocks intError) ∨
        (didFailWithError platform client error).ledger =
          (client.cleared (client.failureBlocks intError)).greet platform := by
  refine ⟨if error.code = certificateChanged then
      generateError platform .certificateError none
    else generateError platform .socketError
      (some (.string error.localizedDescription)), ?_⟩
  simp only [didFailWithError]
  by_cases retry : error.code = certificateChanged
  · simp only [retry, if_true]
    by_cases opened : client.socket.map LGSRWebSocket.readyState = some .open
    · right
      rw [openSocket_ledger, if_pos opened]
      rfl
    · left
      rw [openSocket_ledger, if_neg opened]
      rfl
  · left
    simp only [retry, if_false]
    split_ifs <;> rfl

/-- The messages after one that the delegate let through. -/
def settled (platform : Platform) (client : WebOSTVServiceSocketClient)
    (decodeData : Option JSON) (message : IncomingMessage) : Ledger :=
  { client.ledger with
    activeConnections := Dictionary.eraseAll (settledKeys platform client message)
      client.activeConnections
    mainQueue := client.mainQueue ++ messageBlocks platform client decodeData message }

theorem Ledger.Numbered.settled {client : WebOSTVServiceSocketClient}
    (numbered : client.ledger.Numbered) (decodeData : Option JSON)
    (message : IncomingMessage) :
    Advance client.ledger (client.settled platform decodeData message) := by
  refine numbered.forget (Nat.le_refl _) (fun _ allocated => ⟨allocated, rfl⟩) ?_
    (fun _ _ held => held)
  intro key command held
  rw [WebOSTVServiceSocketClient.settled, Dictionary.lookup_eraseAll] at held
  by_cases answered : key ∈ settledKeys platform client message
  · rw [if_pos answered] at held
    cases held
  · rw [if_neg answered] at held
    exact held

/-! ## Every step -/

theorem withSocket_cases {client after : WebOSTVServiceSocketClient}
    {act : WebOSTVServiceSocketClient → Option WebOSTVServiceSocketClient}
    (taken : client.withSocket act = some after) :
    after = client ∨ client.socket.isSome = true ∧ act client = some after := by
  unfold withSocket at taken
  split_ifs at taken with connected
  · exact .inr ⟨connected, taken⟩
  · exact .inl (Option.some.inj taken).symm

theorem toObject_cases {client after : WebOSTVServiceSocketClient}
    {command : Ref ServiceCommand}
    {act : WebOSTVServiceSocketClient → Option WebOSTVServiceSocketClient}
    (taken : client.toObject command act = some after) :
    ¬ client.commands.Allocated command ∧ after = client ∨
      client.commands.Allocated command ∧ act client = some after := by
  unfold toObject at taken
  split_ifs at taken with allocated
  · exact .inr ⟨allocated, taken⟩
  · exact .inl ⟨allocated, (Option.some.inj taken).symm⟩

theorem toSubscription_cases {client after : WebOSTVServiceSocketClient}
    {command : Ref ServiceCommand}
    {act : WebOSTVServiceSocketClient → Option WebOSTVServiceSocketClient}
    (taken : client.toSubscription command act = some after) :
    ¬ client.commands.Allocated command ∧ after = client ∨
      client.commands.Allocated command ∧ act client = some after := by
  rcases toObject_cases taken with unchanged | ⟨allocated, understood⟩
  · exact .inl unchanged
  · split_ifs at understood with subscription
    exact .inr ⟨allocated, understood⟩

theorem step_send_cases {client after : WebOSTVServiceSocketClient}
    {command : Ref ServiceCommand}
    (taken : step platform client (.send command) = some after) :
    ¬ client.commands.Allocated command ∧ after = client ∨
      client.commands.Allocated command ∧ after = sendCommand platform client command := by
  have reached : client.toObject command
      (fun client => some (sendCommand platform client command)) = some after := taken
  rcases toObject_cases reached with unchanged | ⟨allocated, sent⟩
  · exact .inl unchanged
  · exact .inr ⟨allocated, (Option.some.inj sent).symm⟩

theorem step_didOpen_cases {client after : WebOSTVServiceSocketClient}
    (taken : step platform client .didOpen = some after) :
    after = client ∨
      client.socket.isSome = true ∧ after = webSocketDidOpen platform client := by
  have reached : client.withSocket (fun client =>
      some (webSocketDidOpen platform client)) = some after := taken
  rcases withSocket_cases reached with same | ⟨connected, opened⟩
  · exact .inl same
  · exact .inr ⟨connected, (Option.some.inj opened).symm⟩

theorem step_didClose_cases {client after : WebOSTVServiceSocketClient}
    {reason : Option String} {wasClean : Bool}
    (taken : step platform client (.didClose reason wasClean) = some after) :
    after = client ∨ client.socket.isSome = true ∧
      after = didCloseWithCode platform client reason wasClean := by
  have reached : client.withSocket (fun client =>
      some (didCloseWithCode platform client reason wasClean)) = some after := taken
  rcases withSocket_cases reached with same | ⟨connected, closed⟩
  · exact .inl same
  · exact .inr ⟨connected, (Option.some.inj closed).symm⟩

theorem step_didFail_cases {client after : WebOSTVServiceSocketClient} {error : NSError}
    (taken : step platform client (.didFail error) = some after) :
    after = client ∨
      client.socket.isSome = true ∧ after = didFailWithError platform client error := by
  have reached : client.withSocket (fun client =>
      some (didFailWithError platform client error)) = some after := taken
  rcases withSocket_cases reached with same | ⟨connected, failed⟩
  · exact .inl same
  · exact .inr ⟨connected, (Option.some.inj failed).symm⟩

theorem step_didGetCertificates_cases {client after : WebOSTVServiceSocketClient}
    {certs : Option (List JSON)}
    (taken : step platform client (.didGetCertificates certs) = some after) :
    after = client ∨
      client.socket.isSome = true ∧ after = client.didGetCertificates certs := by
  have reached : client.withSocket (fun client =>
      some (client.didGetCertificates certs)) = some after := taken
  rcases withSocket_cases reached with same | ⟨connected, noted⟩
  · exact .inl same
  · exact .inr ⟨connected, (Option.some.inj noted).symm⟩

theorem step_didReceiveMessage_cases {client after : WebOSTVServiceSocketClient}
    {decodeData : Option JSON} {shouldProcessMessage : Bool}
    (taken : step platform client (.didReceiveMessage decodeData shouldProcessMessage) =
      some after) :
    after = client ∨ client.socket.isSome = true ∧
      didReceiveMessage platform client decodeData shouldProcessMessage = some after := by
  have reached : client.withSocket (fun client =>
      didReceiveMessage platform client decodeData shouldProcessMessage) = some after :=
    taken
  exact withSocket_cases reached

theorem step_didClose {client after : WebOSTVServiceSocketClient}
    {reason : Option String} {wasClean : Bool}
    (taken : step platform client (.didClose reason wasClean) = some after) :
    after.ledger = client.ledger ∨
      client.socket.isSome = true ∧ after.ledger = client.cleared [] := by
  rcases step_didClose_cases taken with rfl | ⟨connected, rfl⟩
  · exact .inl rfl
  · exact .inr ⟨connected, didCloseWithCode_ledger client reason wasClean⟩

theorem step_didFail {client after : WebOSTVServiceSocketClient} {error : NSError}
    (taken : step platform client (.didFail error) = some after) :
    after.ledger = client.ledger ∨ ∃ intError,
      after.ledger = client.cleared (client.failureBlocks intError) ∨
        after.ledger =
          (client.cleared (client.failureBlocks intError)).greet platform := by
  rcases step_didFail_cases taken with rfl | ⟨_, rfl⟩
  · exact .inl rfl
  · exact .inr (didFailWithError_ledger client error)

theorem step_didReceiveMessage {client after : WebOSTVServiceSocketClient}
    {decodeData : Option JSON} {shouldProcessMessage : Bool}
    (taken : step platform client (.didReceiveMessage decodeData shouldProcessMessage) =
      some after) :
    after.ledger = client.ledger ∨
      ∃ message, readMessage decodeData = some message ∧
        client.socket.isSome = true ∧ client.refuses shouldProcessMessage = false ∧
        after.ledger = client.settled platform decodeData message := by
  rcases step_didReceiveMessage_cases taken with rfl | ⟨connected, received⟩
  · exact .inl rfl
  · cases refused : client.refuses shouldProcessMessage with
    | true =>
        rw [didReceiveMessage, refused] at received
        cases received
        exact .inl rfl
    | false =>
        rcases didReceiveMessage_ledger refused received with ⟨message, read, same⟩
        exact .inr ⟨message, read, connected, rfl, same⟩

theorem Ledger.Numbered.unchanged {before after : Ledger} (numbered : before.Numbered)
    (same : after = before) : Advance before after :=
  (Grows.of_eq same).advance numbered

/-- Whatever happens, keys stay numbers that are issued once. -/
theorem step_advance {client after : WebOSTVServiceSocketClient}
    {event : SocketClientEvent} (numbered : client.ledger.Numbered)
    (unset : event.CreatesUnset) (taken : step platform client event = some after) :
    Advance client.ledger after.ledger := by
  cases settles : event.settles with
  | false =>
      cases greeting : client.saysHello event with
      | true =>
          rw [step_greets greeting taken]
          exact numbered.greet platform
      | false =>
          have grown := step_grows unset settles greeting taken
          cases event with
          | runNext =>
              have popped : Advance client.ledger
                  { client.ledger with mainQueue := client.mainQueue.tail } :=
                numbered.forget (Nat.le_refl _) (fun _ allocated => ⟨allocated, rfl⟩)
                  (fun _ _ held => held) (fun _ _ held => held)
              exact popped.trans (grown.advance popped.numbered)
          | _ => exact grown.advance numbered
  | true =>
      cases event with
      | didClose reason wasClean =>
          rcases step_didClose taken with same | ⟨_, same⟩
          · exact numbered.unchanged same
          · rw [same]
            exact numbered.cleared []
      | didFail error =>
          rcases step_didFail taken with same | ⟨intError, same | same⟩
          · exact numbered.unchanged same
          · rw [same]
            exact numbered.cleared _
          · rw [same]
            have emptied := numbered.cleared (client.failureBlocks intError)
            exact emptied.trans (emptied.numbered.greet platform)
      | didReceiveMessage decodeData shouldProcessMessage =>
          rcases step_didReceiveMessage taken with same | ⟨message, _, _, _, same⟩
          · exact numbered.unchanged same
          · rw [same]
            exact numbered.settled decodeData message
      | _ => cases settles

theorem initWithService_numbered (service : WebOSTVService)
    (delegate : Option SocketClientDelegate) :
    (initWithService service delegate).ledger.Numbered where
  object _ _ held := by cases held
  issuedKey _ _ held := by cases held
  issuedCall _ _ held := by cases held
  ownKey _ _ _ held := by cases held
  ownCall _ _ _ held := by cases held

end WebOSTVServiceSocketClient

end ConnectSDK
