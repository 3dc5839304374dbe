import ConnectSDK.Services.Helpers.ImpostorHello
import ConnectSDK.Services.Helpers.SocketClientSteps

/-! # Strings between their submission and a socket

A submitted string is handed to a socket that is open and waits in the command
queue otherwise. The queue goes to the socket when the registration completes.
-/

namespace ConnectSDK

/-- The submitted string that a call hands over. -/
def SocketCall.submission : SocketCall → Option String
  | .send .sendStringOverSocket text => some text
  | _ => none

namespace WebOSTVServiceSocketClient

variable {platform : Platform}

/-- The submitted strings that sockets were handed. -/
def delivered (client : WebOSTVServiceSocketClient) : List String :=
  client.socketCalls.filterMap fun entry => entry.2.submission

/-- Every submitted string was handed over once or waits, in the order of
submission. -/
def InOrder (client : WebOSTVServiceSocketClient) : Prop :=
  client.delivered ++ client.commandQueue = client.submitted

/-! ## What an event sends -/

/-- Whether an event submits a string. -/
def submits (platform : Platform) (client : WebOSTVServiceSocketClient) :
    SocketClientEvent → Bool
  | .send command => decide (client.commands.Allocated command)
  | .subscribe command => decide (client.commands.Allocated command)
  | .unsubscribe command =>
      decide (client.commands.Allocated command) && client.connected
  | .addSubscribe url payload _ _ =>
      (client.subscribed.lookup (subscriptionReferenceForURL platform url payload)).all
        fun subscription => !(client.commands.read subscription).isSubscribed
  | .sendString _ => true
  | .sendDictionary _ => true
  | _ => false

/-- The service that the registration step after a hello reads. -/
def registeringService (platform : Platform) (client : WebOSTVServiceSocketClient)
    (response : Option JSON) : WebOSTVService :=
  if client.isImpostor response then (client.rejectImpostor platform).service
  else client.service

/-- The registration message that a block of the main queue sends. -/
def registrationText (platform : Platform) (client : WebOSTVServiceSocketClient) :
    MainBlock → Option String
  | .complete command response =>
      if (client.commands.read command).callbackComplete = some .hello then
        some (registerMessage platform (client.registeringService platform response)
          (client.uid + 1))
      else
        none
  | _ => none

/-- The client's own message that an event has it send. -/
def ownMessage (platform : Platform) (client : WebOSTVServiceSocketClient) :
    SocketClientEvent → Option String
  | .didFail error =>
      if error.code = certificateChanged ∧ client.isOpen then
        some (helloMessage platform (client.uid + 1))
      else
        none
  | .runNext => client.mainQueue.head?.bind (client.registrationText platform)
  | event =>
      if client.saysHello event then some (helloMessage platform (client.uid + 1))
      else none

/-- The client hands something to its socket, other than a string that is submitted:
that goes to an open socket only. -/
def handsOver (platform : Platform) (client : WebOSTVServiceSocketClient)
    (event : SocketClientEvent) : Bool :=
  (client.ownMessage platform event).isSome ||
    (client.completedRegistration event).isSome && !client.commandQueue.isEmpty

/-- The conditions under which the strings stay in order. A string that goes to an
open socket finds none waiting, none that waits is one of the client's own
messages, there is a socket to hand the queue to, and what is handed over does
not meet a connecting socket, on which `send:` raises. -/
structure Orderly (platform : Platform) (client : WebOSTVServiceSocketClient)
    (event : SocketClientEvent) : Prop where
  noneWaits : client.isOpen = true → client.submits platform event = true →
    client.commandQueue = []
  ownDistinct : ∀ text ∈ client.ownMessage platform event, text ∉ client.commandQueue
  handedOver : (client.completedRegistration event).isSome = true →
    client.socket.isSome = true ∨ client.commandQueue = []
  accepted : client.handsOver platform event = true →
    client.socket.map LGSRWebSocket.readyState ≠ some .connecting

theorem orderly_iff {client : WebOSTVServiceSocketClient} {event : SocketClientEvent} :
    ((client.isOpen = true → client.submits platform event = true →
          client.commandQueue = []) ∧
        (∀ text ∈ client.ownMessage platform event, text ∉ client.commandQueue) ∧
        ((client.completedRegistration event).isSome = true →
          client.socket.isSome = true ∨ client.commandQueue = []) ∧
        (client.handsOver platform event = true →
          client.socket.map LGSRWebSocket.readyState ≠ some .connecting)) ↔
      client.Orderly platform event :=
  ⟨fun ⟨noneWaits, ownDistinct, handedOver, accepted⟩ =>
      ⟨noneWaits, ownDistinct, handedOver, accepted⟩,
    fun orderly => ⟨orderly.noneWaits, orderly.ownDistinct, orderly.handedOver,
      orderly.accepted⟩⟩

instance (platform : Platform) (client : WebOSTVServiceSocketClient)
    (event : SocketClientEvent) : Decidable (client.Orderly platform event) :=
  decidable_of_iff _ orderly_iff

/-! ## Handing over -/

/-- What a client has of the submitted strings. -/
structure Outbox where
  delivered : List String
  commandQueue : List String
  submitted : List String

def outbox (client : WebOSTVServiceSocketClient) : Outbox where
  delivered := client.delivered
  commandQueue := client.commandQueue
  submitted := client.submitted

theorem InOrder.of_outbox {before after : WebOSTVServiceSocketClient}
    (inOrder : before.InOrder) (same : after.outbox = before.outbox) :
    after.InOrder := by
  have delivered : after.delivered = before.delivered := congrArg Outbox.delivered same
  have queued : after.commandQueue = before.commandQueue :=
    congrArg Outbox.commandQueue same
  have submitted : after.submitted = before.submitted := congrArg Outbox.submitted same
  rw [InOrder, delivered, queued, submitted]
  exact inOrder

theorem delivered_callSocket (client : WebOSTVServiceSocketClient) (call : SocketCall) :
    (client.callSocket call).delivered =
      client.delivered ++ (client.socket.bind fun _ => call.submission).toList := by
  simp only [delivered, callSocket, List.filterMap_append]
  cases client.socket with
  | none => rfl
  | some socket => cases submission : call.submission <;> simp [submission]

theorem outbox_callSocket (client : WebOSTVServiceSocketClient) {call : SocketCall}
    (own : call.submission = none) : (client.callSocket call).outbox = client.outbox := by
  have same : (client.callSocket call).delivered = client.delivered := by
    rw [delivered_callSocket, own]
    cases client.socket <;> exact List.append_nil _
  simp only [outbox, same]
  rfl

/-- Sending a message of its own, the client loses at most a string that is the
same. -/
theorem InOrder.sendNow {client : WebOSTVServiceSocketClient} {sender : Sender}
    {text : String} (inOrder : client.InOrder) (own : sender ≠ .sendStringOverSocket)
    (distinct : text ∉ client.commandQueue) : (client.sendNow sender text).InOrder := by
  have unsubmitted : (SocketCall.send sender text).submission = none := by
    cases sender with
    | helloTv => rfl
    | registerWithTv => rfl
    | sendStringOverSocket => exact absurd rfl own
  have kept : client.commandQueue.filter (fun queued => queued != text) =
      client.commandQueue := by
    apply List.filter_eq_self.mpr
    intro queued member
    exact bne_iff_ne.mpr fun equal => distinct (equal ▸ member)
  have same : (client.sendNow sender text).outbox =
      (client.callSocket (.send sender text)).outbox := by
    have queue : (client.sendNow sender text).commandQueue = client.commandQueue := kept
    simp only [outbox, queue]
    rfl
  exact inOrder.of_outbox (same.trans (outbox_callSocket client unsubmitted))

/-! ## Opening and closing -/

theorem createSocket_outbox (client : WebOSTVServiceSocketClient) :
    (createSocket platform client).outbox = client.outbox :=
  outbox_callSocket _ rfl

theorem openSocket_outbox {client : WebOSTVServiceSocketClient}
    (silent : client.isOpen = false) :
    (openSocket platform client).outbox = client.outbox := by
  have closed := of_decide_eq_false silent
  unfold openSocket
  cases state : client.socket.map LGSRWebSocket.readyState with
  | none => exact createSocket_outbox client
  | some readyState =>
      cases readyState with
      | connecting => rfl
      | «open» => exact absurd state closed
      | closing => exact createSocket_outbox { client with socket := none }
      | closed => exact createSocket_outbox { client with socket := none }

theorem InOrder.helloTv {client : WebOSTVServiceSocketClient} (inOrder : client.InOrder)
    (distinct : helloMessage platform (client.uid + 1) ∉ client.commandQueue) :
    (helloTv platform client).InOrder := by
  have prepared : InOrder (getNextId (setActiveConnection
      (client.createCommand (helloCommand platform)) "hello" client.commands.fresh)) :=
    inOrder
  exact prepared.sendNow (by decide) distinct

theorem InOrder.registerWithTv {client : WebOSTVServiceSocketClient}
    (inOrder : client.InOrder)
    (distinct : registerMessage platform client.service (client.uid + 1) ∉
      client.commandQueue) :
    (registerWithTv platform client).InOrder := by
  have prepared : InOrder (setActiveConnection
      (getNextId (client.createCommand registerCommand))
      (requestKey (client.uid + 1)) client.commands.fresh) :=
    inOrder
  exact prepared.sendNow (by decide) distinct

theorem InOrder.openSocket {client : WebOSTVServiceSocketClient}
    (inOrder : client.InOrder)
    (distinct : client.isOpen = true →
      helloMessage platform (client.uid + 1) ∉ client.commandQueue) :
    (openSocket platform client).InOrder := by
  cases state : client.isOpen with
  | false => exact inOrder.of_outbox (openSocket_outbox state)
  | true =>
      have opened : client.socket.map LGSRWebSocket.readyState = some .open :=
        of_decide_eq_true state
      have greets : WebOSTVServiceSocketClient.openSocket platform client =
          webSocketDidOpen platform client := by
        simp only [WebOSTVServiceSocketClient.openSocket, opened]
      have online : InOrder { client with connected := true } := inOrder
      rw [greets]
      exact online.helloTv (distinct state)

theorem closeSocket_outbox (client : WebOSTVServiceSocketClient) (reason : String) :
    (client.closeSocket reason).outbox = client.outbox := by
  unfold closeSocket
  cases client.socket.map LGSRWebSocket.readyState with
  | none => rfl
  | some readyState =>
      cases readyState with
      | connecting => exact outbox_callSocket client rfl
      | «open» => exact outbox_callSocket client rfl
      | closing => rfl
      | closed => rfl

theorem disconnectWithError_outbox (client : WebOSTVServiceSocketClient)
    (error : Option NSError) : (client.disconnectWithError error).outbox = client.outbox :=
  closeSocket_outbox { client with
    observesAppState := client.observesAppState && client.reconnectOnWake
    connected := false } _

theorem hAppDidEnterBackground_outbox (client : WebOSTVServiceSocketClient) :
    client.hAppDidEnterBackground.outbox = client.outbox := by
  unfold hAppDidEnterBackground
  split_ifs with online
  · exact disconnectWithError_outbox _ none
  · rfl

/-! ## Submitting -/

/-- A client that may be given strings: they are in order, an open socket leaves
none waiting, and `begun` was handed over first. -/
structure Handing (begun : List String) (client : WebOSTVServiceSocketClient) : Prop where
  inOrder : client.InOrder
  noneWaits : client.isOpen = true → client.commandQueue = []
  first : begun <+: client.delivered

variable {begun : List String}

/-- A string that waits for a socket. -/
theorem Handing.enqueue {before after : WebOSTVServiceSocketClient}
    (handing : Handing begun before) (payload : String) (waits : after.isOpen = false)
    (kept : after.delivered = before.delivered)
    (queue : after.commandQueue = before.commandQueue ++ [payload])
    (submitted : after.submitted = before.submitted ++ [payload]) :
    Handing begun after where
  inOrder := by
    have inOrder : before.delivered ++ before.commandQueue = before.submitted :=
      handing.inOrder
    rw [InOrder, kept, queue, submitted, ← inOrder, List.append_assoc]
  noneWaits opened := by cases waits.symm.trans opened
  first := kept ▸ handing.first

/-- A string that an open socket is handed. -/
theorem Handing.sendNow {client : WebOSTVServiceSocketClient}
    (handing : Handing begun client) (opened : client.isOpen = true) (payload : String) :
    Handing begun (sendNow { client with submitted := client.submitted ++ [payload] }
      .sendStringOverSocket payload) := by
  have empty := handing.noneWaits opened
  have inOrder : client.delivered ++ client.commandQueue = client.submitted :=
    handing.inOrder
  let submitting := { client with submitted := client.submitted ++ [payload] }
  have connected : (client.socket.bind fun _ =>
      (SocketCall.send .sendStringOverSocket payload).submission) = some payload := by
    cases socket : client.socket with
    | none => simp [isOpen, socket] at opened
    | some _ => rfl
  have delivered : (submitting.sendNow .sendStringOverSocket payload).delivered =
      client.delivered ++ [payload] := by
    have called := delivered_callSocket submitting (.send .sendStringOverSocket payload)
    have socket : (submitting.socket.bind fun _ =>
        (SocketCall.send .sendStringOverSocket payload).submission) = some payload :=
      connected
    rw [socket] at called
    exact called
  have queue : (submitting.sendNow .sendStringOverSocket payload).commandQueue = [] := by
    have filtered : (submitting.sendNow .sendStringOverSocket payload).commandQueue =
        client.commandQueue.filter fun queued => queued != payload := rfl
    rw [filtered, empty, List.filter_nil]
  refine ⟨?_, fun _ => queue, ?_⟩
  · rw [empty, List.append_nil] at inOrder
    rw [InOrder, delivered, queue, List.append_nil, inOrder]
    rfl
  · rw [delivered]
    exact handing.first.trans (List.prefix_append _ _)

theorem Handing.sendStringOverSocket {client : WebOSTVServiceSocketClient}
    (handing : Handing begun client) (payload : String) :
    Handing begun (sendStringOverSocket platform client payload) := by
  cases connected : client.socket with
  | none =>
      apply handing.enqueue payload <;>
        simp [WebOSTVServiceSocketClient.sendStringOverSocket, openSocket, connected,
          createSocket, WebOSTVServiceSocketClient.enqueue, isOpen, callSocket, delivered,
          SocketCall.submission]
  | some socket =>
      rcases socket with ⟨number, readyState⟩
      cases readyState with
      | «open» =>
          have opened : client.isOpen = true := by simp [isOpen, connected]
          have sent := handing.sendNow opened payload
          simpa [WebOSTVServiceSocketClient.sendStringOverSocket, connected] using sent
      | _ =>
          apply handing.enqueue payload <;>
            simp [WebOSTVServiceSocketClient.sendStringOverSocket, openSocket, connected,
              createSocket, WebOSTVServiceSocketClient.enqueue, isOpen, callSocket,
              delivered, SocketCall.submission]

theorem Handing.sendCommand {client : WebOSTVServiceSocketClient}
    (handing : Handing begun client) (command : Ref ServiceCommand) :
    Handing begun (sendCommand platform client command) := by
  have prepared : Handing begun
      (client.getNextId.setActiveConnection (requestKey (client.uid + 1)) command) :=
    { handing with }
  exact prepared.sendStringOverSocket _

theorem Handing.sendSubscription {client after : WebOSTVServiceSocketClient}
    {command : Ref ServiceCommand} {type : ServiceSubscriptionType}
    {callId : Option Nat} (handing : Handing begun client)
    (taken : sendSubscription platform client command type = some (after, callId)) :
    Handing begun after := by
  rcases sendSubscription_cases taken with ⟨uid, key, url, _, sent⟩
  have registered : Handing begun (setActiveConnection { client with uid } key command) :=
    { handing with }
  rcases sent with ⟨_, text, sent⟩ | ⟨_, _, text, sent⟩ | ⟨_, _, sent⟩
  · rw [sent]
    exact registered.sendStringOverSocket text
  · have killed : Handing begun (killSubscribe platform
        (setActiveConnection { client with uid } key command) url
        (client.commands.read command).payload) :=
      { registered with }
    rw [sent]
    exact killed.sendStringOverSocket text
  · rw [sent]
    exact registered

/-- A client that is not connected only notes that it would have sent the
message. -/
theorem unsubscribe_outbox {client after : WebOSTVServiceSocketClient}
    {command : Ref ServiceCommand} {callId : Option Nat}
    (offline : client.connected = false)
    (taken : sendSubscription platform client command .unsubscribe =
      some (after, callId)) : after.outbox = client.outbox := by
  rcases sendSubscription_cases taken with
    ⟨uid, key, url, _, ⟨impossible, _⟩ | ⟨_, online, _⟩ | ⟨_, _, sent⟩⟩
  · cases impossible
  · rw [offline] at online
    cases online
  · rw [sent]
    rfl

theorem Handing.subscribe {client after : WebOSTVServiceSocketClient}
    {command : Ref ServiceCommand} (handing : Handing begun client)
    (taken : subscribe platform client command = some after) : Handing begun after := by
  rcases toObject_cases taken with ⟨_, same⟩ | ⟨_, subscribed⟩
  · rw [same]
    exact handing
  · rcases Option.map_eq_some_iff.mp subscribed with ⟨⟨sent, callId⟩, sending, equal⟩
    subst equal
    have handed := handing.sendSubscription sending
    exact { handed with }

theorem Handing.subscribeAll {client after : WebOSTVServiceSocketClient}
    {subscriptions : List (Ref ServiceCommand)} (handing : Handing begun client)
    (taken : subscribeAll platform client subscriptions = some after) :
    Handing begun after := by
  induction subscriptions generalizing client with
  | nil =>
      cases taken
      exact handing
  | cons subscription rest induction =>
      rcases Option.bind_eq_some_iff.mp taken with ⟨next, first, later⟩
      exact induction (handing.subscribe first) later

theorem Handing.addSubscribe {client after : WebOSTVServiceSocketClient} {url : String}
    {payload : Option JSON.Fields} {success failure : Option UserBlock}
    (handing : Handing begun client)
    (taken : addSubscribe platform client url payload success failure = some after) :
    Handing begun after := by
  have found : Handing begun (subscriptionFor platform client url payload).1 := by
    simp only [subscriptionFor]
    cases client.subscribed.lookup (subscriptionReferenceForURL platform url payload) with
    | none => exact { handing with }
    | some subscription => exact handing
  have added : Handing begun (addBlocks (subscriptionFor platform client url payload).1
      (subscriptionFor platform client url payload).2 success failure) :=
    { found with }
  simp only [WebOSTVServiceSocketClient.addSubscribe] at taken
  split_ifs at taken with subscribed
  · cases taken
    exact added
  · exact added.subscribe taken

/-- A subscription that is subscribed gets further callbacks and nothing else. -/
theorem addSubscribe_outbox {client after : WebOSTVServiceSocketClient} {url : String}
    {payload : Option JSON.Fields} {success failure : Option UserBlock}
    {subscription : Ref ServiceCommand}
    (found : client.subscribed.lookup (subscriptionReferenceForURL platform url payload) =
      some subscription)
    (subscribed : (client.commands.read subscription).isSubscribed = true)
    (taken : addSubscribe platform client url payload success failure = some after) :
    after.outbox = client.outbox := by
  have same : ((client.addBlocks subscription success failure).commands.read
      subscription).isSubscribed = true := by
    rw [addBlocks, modifyCommand, Heap.read_modify_self,
      ServiceCommand.addBlocks_isSubscribed, subscribed]
  simp only [addSubscribe, subscriptionFor, found, same, if_true] at taken
  cases taken
  rfl

/-! ## Completing the registration -/

theorem flushCommandQueue_delivered (client : WebOSTVServiceSocketClient)
    (connected : client.socket.isSome = true ∨ client.commandQueue = []) :
    client.flushCommandQueue.delivered = client.delivered ++ client.commandQueue := by
  have sending : ∀ (queued : List String) (client : WebOSTVServiceSocketClient),
      client.socket.isSome = true →
      (queued.foldl (fun client sendString =>
        client.callSocket (.send .sendStringOverSocket sendString)) client).delivered =
        client.delivered ++ queued := by
    intro queued
    induction queued with
    | nil =>
        intro client _
        exact (List.append_nil _).symm
    | cons sendString rest induction =>
        intro client connected
        rcases Option.isSome_iff_exists.mp connected with ⟨socket, held⟩
        have called := delivered_callSocket client (.send .sendStringOverSocket sendString)
        rw [held, Option.bind_some] at called
        rw [List.foldl_cons, induction (client.callSocket _) connected, called,
          List.append_assoc]
        rfl
  rcases connected with connected | empty
  · exact sending client.commandQueue client connected
  · have unsent : client.flushCommandQueue.delivered = client.delivered := by
      simp only [flushCommandQueue, empty, List.foldl_nil]
      rfl
    rw [unsent, empty, List.append_nil]

theorem flushCommandQueue_submitted (client : WebOSTVServiceSocketClient) :
    client.flushCommandQueue.submitted = client.submitted := by
  rcases flushCommandQueue_frame client with ⟨socketCalls, flushed⟩
  rw [flushed]

/-- The whole queue is handed over. -/
theorem InOrder.flushCommandQueue {client : WebOSTVServiceSocketClient}
    (inOrder : client.InOrder)
    (connected : client.socket.isSome = true ∨ client.commandQueue = []) :
    Handing client.submitted client.flushCommandQueue := by
  have delivered : client.flushCommandQueue.delivered = client.submitted :=
    (flushCommandQueue_delivered client connected).trans inOrder
  refine ⟨?_, fun _ => rfl, ?_⟩
  · have queue : client.flushCommandQueue.commandQueue = [] := rfl
    rw [InOrder, delivered, queue, List.append_nil, flushCommandQueue_submitted]
  · exact delivered.symm ▸ List.prefix_refl client.submitted

theorem Handing.resubscribeSaved {client after : WebOSTVServiceSocketClient}
    (handing : Handing begun client)
    (taken : registerComplete.resubscribeSaved platform client = some after) :
    Handing begun after := by
  unfold registerComplete.resubscribeSaved at taken
  split_ifs at taken with nothing
  · cases taken
    exact handing
  · rcases Option.map_eq_some_iff.mp taken with ⟨sent, sending, equal⟩
    subst equal
    have restored : Handing begun
        { client with subscribed := client.savedSubscriptions } :=
      { handing with }
    have handed := restored.subscribeAll sending
    exact { handed with }

theorem InOrder.registerComplete {client after : WebOSTVServiceSocketClient}
    {response : Option JSON} (inOrder : client.InOrder)
    (connected : client.socket.isSome = true ∨ client.commandQueue = [])
    (taken : registerComplete platform client response = some after) :
    Handing client.submitted after := by
  rcases registerComplete_frame taken with
    ⟨service, delegateCalls, observesAppState, saved⟩
  have prepared : InOrder { client with service, delegateCalls, observesAppState } :=
    inOrder
  exact (prepared.flushCommandQueue connected).resubscribeSaved saved

/-! ## The main queue -/

theorem setUUID_registerMessage (service : WebOSTVService) (uuid : Option String)
    (dataId : Nat) :
    registerMessage platform (service.setUUID uuid) dataId =
      registerMessage platform service dataId := rfl

theorem InOrder.helloComplete {client after : WebOSTVServiceSocketClient}
    {response : Option JSON} (inOrder : client.InOrder)
    (distinct : registerMessage platform (client.registeringService platform response)
      (client.uid + 1) ∉ client.commandQueue)
    (taken : helloComplete platform client response = some after) : after.InOrder := by
  unfold registeringService at distinct
  rcases helloComplete_cases taken with
    ⟨impostor, equal⟩ | ⟨recognized, equal | ⟨uuid, equal⟩⟩
  · rw [impostor, if_pos rfl] at distinct
    have outbox : (client.rejectImpostor platform).outbox = client.outbox :=
      disconnectWithError_outbox _ _
    have sameQueue : (client.rejectImpostor platform).commandQueue =
        client.commandQueue := congrArg Outbox.commandQueue outbox
    have sameIds : (client.rejectImpostor platform).uid = client.uid :=
      congrArg Ledger.uid (disconnectWithError_frame _ _).1
    rw [equal]
    apply (inOrder.of_outbox outbox).registerWithTv
    rw [sameQueue, sameIds]
    exact distinct
  · rw [recognized] at distinct
    rw [equal]
    exact inOrder.registerWithTv distinct
  · rw [recognized] at distinct
    have named : InOrder { client with service := client.service.setUUID uuid } := inOrder
    rw [equal]
    apply named.registerWithTv
    rw [setUUID_registerMessage]
    exact distinct

theorem disconnectWithError_service (client : WebOSTVServiceSocketClient)
    (error : Option NSError) :
    (client.disconnectWithError error).service = client.service := by
  rcases closeSocket_frame { client with
    observesAppState := client.observesAppState && client.reconnectOnWake
    connected := false }
    ((error.map NSError.localizedDescription).getD "Disconnected by client") with
    ⟨calls, closed⟩
  simp only [disconnectWithError, closed, callDelegate]

theorem registeringService_congr {left right : WebOSTVServiceSocketClient}
    (same : left.service = right.service) (response : Option JSON) :
    left.registeringService platform response =
      right.registeringService platform response := by
  simp only [registeringService, isImpostor, rejectImpostor,
    disconnectWithError_service, same]

theorem runFailed_outbox {client after : WebOSTVServiceSocketClient}
    {command : Ref ServiceCommand} {error : NSError}
    (taken : runFailed platform client command error = some after) :
    after.outbox = client.outbox := by
  rcases runFailed_cases taken with ⟨blocks, _, ran⟩ | ⟨_, ran⟩ | ⟨_, ran⟩
  · rw [ran]
    rfl
  · rw [ran]
    exact disconnectWithError_outbox _ _
  · rw [ran, registerFailed]
    split_ifs <;> rfl

theorem InOrder.runNext {client after : WebOSTVServiceSocketClient}
    (inOrder : client.InOrder) (orderly : client.Orderly platform .runNext)
    (taken : runNext platform client = some after) : after.InOrder := by
  rcases runNext_cases taken with ⟨_, rfl⟩ | ⟨block, rest, queued, run⟩
  · exact inOrder
  · have popped : InOrder { client with mainQueue := rest } := inOrder
    rcases runBlock_cases run with ⟨command, response, rfl, completed⟩ |
      ⟨command, error, rfl, failed⟩ | ⟨command, error, ran, rfl, failed, rfl⟩
    · rcases runComplete_cases completed with
        ⟨blocks, _, ran⟩ | ⟨held, greeted⟩ | ⟨held, registered⟩
      · rw [ran]
        exact inOrder
      · dsimp only at held
        apply popped.helloComplete ?_ greeted
        apply orderly.ownDistinct
        have sameService := @registeringService_congr platform client
          { client with mainQueue := rest } rfl response
        simp [ownMessage, queued, registrationText, held, sameService]
      · dsimp only at held
        refine (popped.registerComplete ?_ registered).inOrder
        apply orderly.handedOver
        simp [completedRegistration, queued, held]
    · exact popped.of_outbox (runFailed_outbox failed)
    · have kept : ran.InOrder := popped.of_outbox (runFailed_outbox failed)
      exact kept

/-! ## Runs -/

/-- A submission finds the client able to take strings. -/
theorem Orderly.handing {client : WebOSTVServiceSocketClient}
    {event : SocketClientEvent} (orderly : client.Orderly platform event)
    (inOrder : client.InOrder) (submits : client.submits platform event = true) :
    Handing [] client where
  inOrder := inOrder
  noneWaits opened := orderly.noneWaits opened submits
  first := List.nil_prefix

theorem InOrder.step {client after : WebOSTVServiceSocketClient}
    {event : SocketClientEvent} (inOrder : client.InOrder)
    (orderly : client.Orderly platform event)
    (taken : step platform client event = some after) : after.InOrder := by
  cases event with
  | createCommand target payload complete error =>
      cases taken
      exact inOrder
  | createSubscription target payload callId =>
      cases taken
      exact inOrder
  | addSuccess command success =>
      rcases toSubscription_cases taken with ⟨_, same⟩ | ⟨_, added⟩
      · exact inOrder.of_outbox (congrArg outbox same)
      · cases added
        exact inOrder
  | addFailure command failure =>
      rcases toSubscription_cases taken with ⟨_, same⟩ | ⟨_, added⟩
      · exact inOrder.of_outbox (congrArg outbox same)
      · cases added
        exact inOrder
  | send command =>
      rcases step_send_cases taken with ⟨_, rfl⟩ | ⟨allocated, rfl⟩
      · exact inOrder
      · have submits : client.submits platform (.send command) = true :=
          decide_eq_true allocated
        exact ((orderly.handing inOrder submits).sendCommand command).inOrder
  | subscribe command =>
      rcases toSubscription_cases taken with ⟨_, same⟩ | ⟨allocated, subscribed⟩
      · exact inOrder.of_outbox (congrArg outbox same)
      · have submits : client.submits platform (.subscribe command) = true :=
          decide_eq_true allocated
        exact ((orderly.handing inOrder submits).subscribe subscribed).inOrder
  | unsubscribe command =>
      rcases toSubscription_cases taken with ⟨_, same⟩ | ⟨allocated, unsubscribed⟩
      · exact inOrder.of_outbox (congrArg outbox same)
      · rcases toObject_cases unsubscribed with ⟨_, same⟩ | ⟨_, noted⟩
        · exact inOrder.of_outbox (congrArg outbox same)
        · rcases Option.map_eq_some_iff.mp noted with ⟨⟨sent, callId⟩, sending, equal⟩
          subst equal
          cases online : client.connected with
          | false =>
              have unsent : sent.InOrder :=
                inOrder.of_outbox (unsubscribe_outbox online sending)
              exact unsent
          | true =>
              have submits : client.submits platform (.unsubscribe command) = true := by
                simp [WebOSTVServiceSocketClient.submits, allocated, online]
              exact ((orderly.handing inOrder submits).sendSubscription sending).inOrder
  | addSubscribe url payload success failure =>
      have reached : addSubscribe platform client url payload success failure =
          some after := taken
      cases submits : client.submits platform
          (.addSubscribe url payload success failure) with
      | true => exact ((orderly.handing inOrder submits).addSubscribe reached).inOrder
      | false =>
          unfold WebOSTVServiceSocketClient.submits at submits
          cases found : client.subscribed.lookup
              (subscriptionReferenceForURL platform url payload) with
          | none => simp [found] at submits
          | some subscription =>
              have subscribed :
                  (client.commands.read subscription).isSubscribed = true := by
                simpa [found] using submits
              exact inOrder.of_outbox (addSubscribe_outbox found subscribed reached)
  | killSubscribe url payload =>
      cases taken
      exact inOrder
  | sendString payload =>
      cases taken
      exact ((orderly.handing inOrder rfl).sendStringOverSocket payload).inOrder
  | sendDictionary payload =>
      cases taken
      exact ((orderly.handing inOrder rfl).sendStringOverSocket _).inOrder
  | connect =>
      cases taken
      apply inOrder.openSocket
      intro opened
      apply orderly.ownDistinct
      simp [ownMessage, saysHello, opened]
  | disconnect error =>
      cases taken
      exact inOrder.of_outbox (disconnectWithError_outbox client error)
  | serviceChanged service =>
      cases taken
      exact inOrder
  | setShouldDisconnectOnBackground value =>
      cases taken
      exact inOrder
  | appDidEnterBackground =>
      cases taken
      split_ifs with observes
      · exact inOrder.of_outbox (hAppDidEnterBackground_outbox client)
      · exact inOrder
  | appDidBecomeActive =>
      cases taken
      split_ifs with observes
      · unfold hAppDidBecomeActive
        split_ifs with wakes
        · have reconnected :
              (WebOSTVServiceSocketClient.openSocket platform client).InOrder := by
            apply inOrder.openSocket
            intro opened
            apply orderly.ownDistinct
            simp [ownMessage, saysHello, observes, wakes, opened]
          exact reconnected
        · exact inOrder
      · exact inOrder
  | readyStateChanged readyState =>
      cases taken
      exact inOrder
  | didOpen =>
      rcases step_didOpen_cases taken with rfl | ⟨connected, rfl⟩
      · exact inOrder
      · have online : InOrder { client with connected := true } := inOrder
        apply online.helloTv
        apply orderly.ownDistinct
        simp [ownMessage, saysHello, connected]
  | didClose reason wasClean =>
      rcases step_didClose_cases taken with rfl | ⟨_, rfl⟩
      · exact inOrder
      · exact inOrder
  | didFail error =>
      rcases step_didFail_cases taken with rfl | ⟨_, rfl⟩
      · exact inOrder
      · by_cases retry : error.code = certificateChanged
        · simp only [didFailWithError, retry, if_true]
          refine InOrder.openSocket ?_ fun opened => ?_
          · exact inOrder
          · apply orderly.ownDistinct
            have sameSocket : client.isOpen = true := opened
            simp [ownMessage, retry, sameSocket]
        · simp only [didFailWithError, retry, if_false]
          split_ifs <;> exact inOrder
  | didGetCertificates certs =>
      rcases step_didGetCertificates_cases taken with rfl | ⟨_, rfl⟩
      · exact inOrder
      · exact inOrder
  | didReceiveMessage decodeData shouldProcessMessage =>
      rcases step_didReceiveMessage_cases taken with rfl | ⟨_, received⟩
      · exact inOrder
      · rcases didReceiveMessage_frame received with ⟨_, _, _, _, equal⟩
        subst equal
        exact inOrder
  | runNext => exact inOrder.runNext orderly taken

/-- The registration completes: the strings that waited are handed over before any
other. -/
theorem InOrder.registration {client after : WebOSTVServiceSocketClient}
    (inOrder : client.InOrder) (orderly : client.Orderly platform .runNext)
    (completes : (client.completedRegistration .runNext).isSome = true)
    (taken : WebOSTVServiceSocketClient.runNext platform client = some after) :
    client.submitted <+: after.delivered := by
  have connected := orderly.handedOver completes
  unfold completedRegistration at completes
  rcases runNext_cases taken with ⟨queued, _⟩ | ⟨block, rest, queued, run⟩
  · simp [queued] at completes
  · simp only [queued] at completes
    cases block with
    | complete command response =>
        have register :
            (client.commands.read command).callbackComplete = some .register := by
          simpa using completes
        simp only [runBlock, runComplete, register] at run
        have popped : InOrder { client with mainQueue := rest } := inOrder
        exact (popped.registerComplete connected run).first
    | failed command error => cases completes
    | rejected command error => cases completes

/-- In every run that keeps to the condition, the strings handed over and then
those that wait are the submitted ones, and the completed registration hands over
those that wait first. -/
theorem run_inOrder (platform : Platform) (service : WebOSTVService)
    (delegate : Option SocketClientDelegate) (events : List SocketClientEvent)
    (final : WebOSTVServiceSocketClient)
    (orderly : EveryStep (step platform) (Orderly platform)
      (initWithService service delegate) events)
    (reached : runFrom (step platform) (initWithService service delegate) events =
      some final) :
    final.delivered ++ final.commandQueue = final.submitted ∧
    ∀ after, final.Orderly platform .runNext →
      (final.completedRegistration .runNext).isSome = true →
      step platform final .runNext = some after →
      final.submitted <+: after.delivered := by
  have initially : (initWithService service delegate).InOrder := rfl
  have inOrder : final.InOrder := runFrom_invariant
    (fun _ _ _ inOrder orderly taken => InOrder.step inOrder orderly taken)
    initially orderly reached
  exact ⟨inOrder, fun after orderly completes taken =>
    inOrder.registration orderly completes taken⟩

/-! ## A registration -/

def answerTo (id type : String) : JSON :=
  .object [("id", .string id), ("type", .string type), ("payload", .object [])]

def unpairedService : WebOSTVService where
  serviceConfig := {}
  serviceDescription := { address := some "10.0.0.7", port := 3001 }

/-- A connection up to the registration's answer, with strings submitted before the
socket opens and after. -/
def registrationWith (before after : List String) : List SocketClientEvent :=
  [.connect] ++ before.map .sendString ++ [.readyStateChanged .open, .didOpen] ++
    after.map .sendString ++
    [.didReceiveMessage (some (answerTo "1" "hello")) true, .runNext,
      .didReceiveMessage (some (answerTo "2" "registered")) true]

theorem run_inOrder_registration :
    ∃ final after, runFrom (step typeOnly) (initWithService unpairedService none)
        (registrationWith ["left", "ping"] []) = some final ∧
      step typeOnly final .runNext = some after ∧
      final.submitted = ["left", "ping"] ∧
      final.delivered ++ final.commandQueue = final.submitted ∧
      final.submitted <+: after.delivered := by
  have keeps := run_inOrder typeOnly unpairedService none
    (registrationWith ["left", "ping"] []) _ (by decide) rfl
  exact ⟨_, _, rfl, rfl, rfl, keeps.1, keeps.2 _ (by decide) (by decide) rfl⟩

/-- A string that is sent while others wait overtakes them, and those that are equal
to it are lost. -/
theorem repeated_string_lost :
    ∃ final, runFrom (step typeOnly) (initWithService unpairedService none)
        (registrationWith ["left", "ping"] ["ping"] ++ [.runNext]) = some final ∧
      final.submitted = ["left", "ping", "ping"] ∧
      final.delivered = ["ping", "left"] ∧ final.commandQueue = [] ∧
      final.delivered ++ final.commandQueue ≠ final.submitted := by
  refine ⟨_, rfl, ?_⟩
  decide

end WebOSTVServiceSocketClient

end ConnectSDK
