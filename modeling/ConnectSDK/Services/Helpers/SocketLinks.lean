import ConnectSDK.Services.Helpers.RestoredSubscriptions

/-! # The connection of the socket client

What the client's methods do to its connection, as a machine of its own: the web socket in
`_socket`, whether the client counts as connected, and how often its delegate was told that
a connection ended.
-/

namespace ConnectSDK

/-- Whether a call tells the delegate that a connection ended. -/
def DelegateCall.reportsEnd : DelegateCall → Bool
  | .didCloseWithError _ => true
  | .didFailWithError _ => true
  | _ => false

structure Link where
  connected : Bool
  socket : Option LGSRWebSocket
  socketCount : Nat
  hasDelegate : Bool
  reports : Nat

inductive LinkEvent where
  | connect
  | send
  | disconnect
  | readyStateChanged (readyState : ReadyState)
  | didOpen
  | didClose
  | didFail (certificateChanged : Bool)
  | other

namespace Link

def readyState (link : Link) : Option ReadyState :=
  link.socket.map LGSRWebSocket.readyState

def report (link : Link) : Link :=
  { link with reports := link.reports + link.hasDelegate.toNat }

def replaceSocket (link : Link) : Link :=
  { link with
    socket := some { number := link.socketCount }
    socketCount := link.socketCount + 1 }

def connect (link : Link) : Link :=
  match link.readyState with
  | some .open => { link with connected := true }
  | some .connecting => link
  | some .closed | some .closing | none => link.replaceSocket

/-- A string that is sent opens a socket if there is none, or one that is closed. -/
def send (link : Link) : Link :=
  match link.readyState with
  | some .closed | none => link.replaceSocket
  | _ => link

def disconnect (link : Link) : Link :=
  { link with connected := false }.report

def didClose (link : Link) : Link :=
  { link with connected := false, socket := none }.report

def didFail (link : Link) (certificateChanged : Bool) : Link :=
  if certificateChanged then { link with connected := false }.connect
  else { link with connected := false }.report

/-- The messages of a web socket come from the one in `_socket`. -/
def step (link : Link) : LinkEvent → Link
  | .connect => link.connect
  | .send => link.send
  | .disconnect => link.disconnect
  | .readyStateChanged readyState =>
      { link with
        socket := link.socket.map (WebOSTVServiceSocketClient.changeReadyState readyState) }
  | .didOpen => if link.socket.isSome then { link with connected := true } else link
  | .didClose => if link.socket.isSome then link.didClose else link
  | .didFail certificateChanged =>
      if link.socket.isSome then link.didFail certificateChanged else link
  | .other => link

@[simp] theorem changeReadyState_number (readyState : ReadyState) (socket : LGSRWebSocket) :
    (WebOSTVServiceSocketClient.changeReadyState readyState socket).number =
      socket.number := by
  unfold WebOSTVServiceSocketClient.changeReadyState
  split_ifs <;> rfl

theorem send_send (link : Link) : link.send.send = link.send := by
  rcases link with ⟨connected, socket, socketCount, hasDelegate, reports⟩
  cases socket with
  | none => rfl
  | some socket =>
      rcases socket with ⟨number, readyState⟩
      cases readyState <;> rfl

end Link

namespace WebOSTVServiceSocketClient

variable {platform : Platform}

def link (client : WebOSTVServiceSocketClient) : Link where
  connected := client.connected
  socket := client.socket
  socketCount := client.socketCount
  hasDelegate := client.delegate.isSome
  reports := client.delegateCalls.countP DelegateCall.reportsEnd

/-- Whether an event sends a string over the socket. -/
def sends (platform : Platform) (client : WebOSTVServiceSocketClient) :
    SocketClientEvent → Bool
  | .send command => decide (client.commands.Allocated command)
  | .subscribe command => decide (client.commands.Allocated command)
  | .unsubscribe command => decide (client.commands.Allocated command) && client.connected
  | .addSubscribe url payload _ _ =>
      match client.subscribed.lookup (subscriptionReferenceForURL platform url payload) with
      | some subscription => decide (client.commands.Allocated subscription) &&
          !(client.commands.read subscription).isSubscribed
      | none => true
  | .sendString _ => true
  | .sendDictionary _ => true
  | .runNext => (client.completedRegistration .runNext).isSome &&
      client.savedSubscriptions.values.any fun subscription =>
        decide (client.commands.Allocated subscription)
  | _ => false

def linkEvent (platform : Platform) (client : WebOSTVServiceSocketClient)
    (event : SocketClientEvent) : LinkEvent :=
  if client.entersBackground event || client.losesConnection event then .disconnect
  else if client.sends platform event then .send
  else
    match event with
    | .connect => .connect
    | .appDidBecomeActive =>
        if client.observesAppState && client.reconnectOnWake then .connect else .other
    | .readyStateChanged readyState => .readyStateChanged readyState
    | .didOpen => .didOpen
    | .didClose _ _ => .didClose
    | .didFail error => .didFail (decide (error.code = certificateChanged))
    | _ => .other

/-! ## What each method does to the connection -/

theorem link_callDelegate (client : WebOSTVServiceSocketClient) (call : DelegateCall) :
    (client.callDelegate call).link =
      if call.reportsEnd then client.link.report else client.link := by
  cases held : client.delegate with
  | none =>
      cases told : call.reportsEnd <;> simp [callDelegate, link, Link.report, held]
  | some delegate =>
      cases told : call.reportsEnd <;> simp [callDelegate, link, Link.report, held, told]

theorem link_openSocket (client : WebOSTVServiceSocketClient) :
    (openSocket platform client).link = client.link.connect := by
  cases held : client.socket with
  | none => simp [openSocket, held, createSocket, callSocket, link, Link.connect,
      Link.readyState, Link.replaceSocket]
  | some socket =>
      rcases socket with ⟨number, readyState⟩
      cases readyState <;>
        simp [openSocket, held, createSocket, callSocket, link, Link.connect,
          Link.readyState, Link.replaceSocket, webSocketDidOpen, helloTv, sendNow,
          createCommand, setActiveConnection, getNextId]

theorem link_disconnectWithError (client : WebOSTVServiceSocketClient)
    (error : Option NSError) :
    (client.disconnectWithError error).link = client.link.disconnect := by
  rcases closeSocket_frame { client with
    observesAppState := client.observesAppState && client.reconnectOnWake
    connected := false }
    ((error.map NSError.localizedDescription).getD "Disconnected by client") with
    ⟨calls, closed⟩
  simp only [disconnectWithError, closed]
  rw [link_callDelegate]
  rfl

theorem link_sendStringOverSocket (client : WebOSTVServiceSocketClient) (payload : String) :
    (sendStringOverSocket platform client payload).link = client.link.send := by
  cases held : client.socket with
  | none =>
      simp [sendStringOverSocket, openSocket, held, createSocket, callSocket, enqueue, link,
        Link.send, Link.readyState, Link.replaceSocket]
  | some socket =>
      rcases socket with ⟨number, readyState⟩
      cases readyState <;>
        simp [sendStringOverSocket, openSocket, held, createSocket, callSocket, enqueue,
          sendNow, link, Link.send, Link.readyState, Link.replaceSocket]

theorem sendStringOverSocket_commands (client : WebOSTVServiceSocketClient)
    (payload : String) :
    (sendStringOverSocket platform client payload).commands = client.commands :=
  congrArg Ledger.commands (sendStringOverSocket_ledger client payload)

/-! ## Subscribing and unsubscribing -/

theorem link_subscribe {client after : WebOSTVServiceSocketClient}
    {command : Ref ServiceCommand}
    (taken : subscribe platform client command = some after) :
    after.link =
        (if client.commands.Allocated command then client.link.send else client.link) ∧
      after.commands.size = client.commands.size := by
  rcases toObject_cases taken with ⟨absent, same⟩ | ⟨allocated, subscribed⟩
  · subst same
    exact ⟨(if_neg absent).symm, rfl⟩
  · rw [if_pos allocated]
    rcases Option.map_eq_some_iff.mp subscribed with ⟨⟨sent, callId⟩, sending, equal⟩
    subst equal
    rcases sendSubscription_cases sending with
      ⟨uid, key, url, _, ⟨_, text, same⟩ | ⟨impossible, _⟩ | ⟨impossible, _⟩⟩
    · subst same
      constructor
      · exact link_sendStringOverSocket _ text
      · dsimp only [modifyCommand, Heap.modify_size]
        rw [sendStringOverSocket_commands]
        rfl
    · cases impossible
    · cases impossible

theorem link_unsubscribe {client after : WebOSTVServiceSocketClient}
    {command : Ref ServiceCommand}
    (taken : unsubscribe platform client command = some after) :
    after.link =
      if client.commands.Allocated command ∧ client.connected = true then client.link.send
      else client.link := by
  rcases toObject_cases taken with ⟨absent, same⟩ | ⟨allocated, unsubscribed⟩
  · rw [same, if_neg fun both => absent both.1]
  · rcases Option.map_eq_some_iff.mp unsubscribed with ⟨⟨sent, callId⟩, sending, equal⟩
    subst equal
    rcases sendSubscription_cases sending with
      ⟨uid, key, url, _, ⟨impossible, _⟩ | ⟨_, online, text, same⟩ | ⟨_, offline, same⟩⟩
    · cases impossible
    · rw [if_pos ⟨allocated, online⟩, same]
      exact link_sendStringOverSocket _ text
    · rw [if_neg (by rw [offline]; exact fun both => Bool.false_ne_true both.2), same]
      rfl

theorem link_subscribeAll {client after : WebOSTVServiceSocketClient}
    {subscriptions : List (Ref ServiceCommand)}
    (taken : subscribeAll platform client subscriptions = some after) :
    after.link =
      if subscriptions.any fun subscription => decide (client.commands.Allocated subscription)
      then client.link.send else client.link := by
  induction subscriptions generalizing client with
  | nil =>
      cases taken
      rfl
  | cons subscription rest induction =>
      rcases Option.bind_eq_some_iff.mp taken with ⟨next, first, later⟩
      rcases link_subscribe first with ⟨sent, sameSize⟩
      have sameAllocated : ∀ other, next.commands.Allocated other ↔
          client.commands.Allocated other := by
        intro other
        unfold Heap.Allocated
        rw [sameSize]
      rw [induction later, sent]
      simp only [sameAllocated, List.any_cons]
      by_cases allocated : client.commands.Allocated subscription
      · simp only [allocated, if_true, Link.send_send, ite_self, decide_true, Bool.true_or]
      · simp only [allocated, if_false, decide_false, Bool.false_or]

/-- A subscription that is looked up or created is subscribed unless it already is. -/
theorem link_addSubscribe {client after : WebOSTVServiceSocketClient} {url : String}
    {payload : Option JSON.Fields} {success failure : Option UserBlock}
    (taken : addSubscribe platform client url payload success failure = some after) :
    after.link =
      if client.sends platform (.addSubscribe url payload success failure) then
        client.link.send
      else client.link := by
  simp only [addSubscribe] at taken
  cases found : client.subscribed.lookup (subscriptionReferenceForURL platform url payload) with
  | some subscription =>
      rw [subscriptionFor_found found] at taken
      simp only [addBlocks, modifyCommand, Heap.read_modify_self,
        ServiceCommand.addBlocks_isSubscribed] at taken
      simp only [sends, found]
      split_ifs at taken with subscribed
      · cases taken
        rw [subscribed, Bool.not_true, Bool.and_false]
        rfl
      · have sent := (link_subscribe taken).1
        have unsubscribed := Bool.eq_false_of_not_eq_true subscribed
        simp only [Heap.allocated_modify_iff] at sent
        rw [sent, unsubscribed]
        simp only [Bool.not_false, Bool.and_true, decide_eq_true_eq]
        rfl
  | none =>
      simp only [subscriptionFor, found, addBlocks, modifyCommand, getNextId, createCommand,
        Heap.read_modify_self, ServiceCommand.addBlocks_isSubscribed,
        Heap.read_allocate_fresh] at taken
      simp only [sends, found, if_true]
      have unsubscribed : (ServiceCommand.subscriptionWithDelegate (some url) payload
          (some (client.uid + 1))).isSubscribed = false := rfl
      rw [unsubscribed, if_neg Bool.false_ne_true] at taken
      rw [(link_subscribe taken).1, if_pos]
      · rfl
      · exact Heap.allocated_fresh client.commands
          (.subscriptionWithDelegate (some url) payload (some (client.uid + 1)))

/-! ## The main queue -/

theorem link_pairAs (client : WebOSTVServiceSocketClient) (pairingString : String) :
    (client.pairAs pairingString).link = client.link := by
  simp only [pairAs]
  split_ifs
  · rw [link_callDelegate]
    rfl
  · rfl

theorem link_resubscribeSaved {client after : WebOSTVServiceSocketClient}
    (taken : registerComplete.resubscribeSaved platform client = some after) :
    after.link =
      if client.savedSubscriptions.values.any fun subscription =>
          decide (client.commands.Allocated subscription)
      then client.link.send else client.link := by
  unfold registerComplete.resubscribeSaved at taken
  split_ifs at taken with nothing
  · cases taken
    have empty : client.savedSubscriptions.values = [] := by
      rw [Dictionary.values, List.isEmpty_iff.mp nothing]
      rfl
    rw [empty]
    rfl
  · rcases Option.map_eq_some_iff.mp taken with ⟨sent, sending, equal⟩
    subst equal
    have subscribed := @link_subscribeAll platform _ _ _ sending
    exact subscribed

theorem link_registerComplete {client after : WebOSTVServiceSocketClient}
    {response : Option JSON}
    (taken : registerComplete platform client response = some after) :
    after.link =
      if client.savedSubscriptions.values.any fun subscription =>
          decide (client.commands.Allocated subscription)
      then client.link.send else client.link := by
  simp only [registerComplete, Option.bind_eq_bind, Option.bind_eq_some_iff] at taken
  rcases taken with ⟨_, _, pairingString, _, resubscribed, saved, equal⟩
  cases equal
  rw [link_resubscribeSaved saved]
  rcases flushCommandQueue_frame
    (if (pairingString.elim client client.pairAs).shouldDisconnectOnBackground then
      { pairingString.elim client client.pairAs with observesAppState := true }
    else pairingString.elim client client.pairAs) with ⟨calls, flushed⟩
  rw [flushed]
  have paired : ∃ service delegateCalls, pairingString.elim client client.pairAs =
      { client with service, delegateCalls } := by
    cases pairingString with
    | none => exact ⟨client.service, client.delegateCalls, rfl⟩
    | some pairing => exact pairAs_frame client pairing
  have pairedLink : (pairingString.elim client client.pairAs).link = client.link := by
    cases pairingString with
    | none => rfl
    | some pairing => exact link_pairAs client pairing
  rcases paired with ⟨service, delegateCalls, equal⟩
  rw [equal] at pairedLink ⊢
  rw [← pairedLink]
  split_ifs <;> rfl

theorem link_runFailed {client after : WebOSTVServiceSocketClient}
    {command : Ref ServiceCommand} {error : NSError}
    (taken : runFailed platform client command error = some after) :
    after.link =
      if (client.commands.read command).callbackError = some .hello then
        client.link.disconnect
      else client.link := by
  rcases runFailed_cases taken with ⟨blocks, held, ran⟩ | ⟨held, ran⟩ | ⟨held, ran⟩
  · rw [ran, held]
    rfl
  · rw [ran, held, if_pos rfl]
    exact link_disconnectWithError _ _
  · rw [ran, held, if_neg (by decide), registerFailed]
    split_ifs
    · rw [link_callDelegate]
      rfl
    · rfl

theorem link_registerWithTv (client : WebOSTVServiceSocketClient) :
    (registerWithTv platform client).link = client.link := rfl

theorem link_helloComplete {client after : WebOSTVServiceSocketClient}
    {response : Option JSON}
    (taken : helloComplete platform client response = some after) :
    after.link =
      if client.isImpostor response then client.link.disconnect else client.link := by
  rcases helloComplete_cases taken with
    ⟨impostor, equal⟩ | ⟨recognized, equal | ⟨uuid, equal⟩⟩
  · rw [impostor, if_pos rfl, equal, link_registerWithTv, rejectImpostor,
      link_disconnectWithError]
    rfl
  · rw [recognized, equal, link_registerWithTv]
    rfl
  · rw [recognized, equal, link_registerWithTv]
    rfl

theorem link_runNext {client after : WebOSTVServiceSocketClient}
    (taken : runNext platform client = some after) :
    after.link = client.link.step (client.linkEvent platform .runNext) := by
  rcases runNext_cases taken with ⟨queued, rfl⟩ | ⟨block, rest, queued, run⟩
  · simp [linkEvent, entersBackground, losesConnection, sends, completedRegistration,
      queued, Link.step]
  · rcases runBlock_cases run with ⟨command, response, rfl, completed⟩ |
      ⟨command, error, rfl, failed⟩ | ⟨command, error, ran, rfl, failed, rfl⟩
    · rcases runComplete_cases completed with
        ⟨blocks, held, ran⟩ | ⟨held, greeted⟩ | ⟨held, registered⟩
      · dsimp only at held
        rw [ran]
        simp [linkEvent, entersBackground, losesConnection, disconnects, sends,
          completedRegistration, queued, held, runUser, link, Link.step]
      · dsimp only at held
        rw [link_helloComplete greeted]
        cases impostor : client.isImpostor response with
        | true =>
            have same : WebOSTVServiceSocketClient.isImpostor
                { client with mainQueue := rest } response = true := impostor
            simp [linkEvent, losesConnection, disconnects, queued, held, impostor, same,
              link, Link.step, Link.disconnect, Link.report]
        | false =>
            have same : WebOSTVServiceSocketClient.isImpostor
                { client with mainQueue := rest } response = false := impostor
            simp [linkEvent, entersBackground, losesConnection, disconnects, sends,
              completedRegistration, queued, held, impostor, same, link, Link.step]
      · dsimp only at held
        rw [link_registerComplete registered]
        cases saved : client.savedSubscriptions.values.any fun subscription =>
            decide (client.commands.Allocated subscription) with
        | true =>
            simp [linkEvent, entersBackground, losesConnection, disconnects, sends,
              completedRegistration, queued, held, saved, link, Link.step]
        | false =>
            simp [linkEvent, entersBackground, losesConnection, disconnects, sends,
              completedRegistration, queued, held, saved, link, Link.step]
    · rw [link_runFailed failed]
      by_cases greeting : (client.commands.read command).callbackError = some .hello
      · simp [linkEvent, losesConnection, disconnects, queued, greeting, link, Link.step,
          Link.disconnect, Link.report]
      · simp [linkEvent, entersBackground, losesConnection, disconnects, sends,
          completedRegistration, queued, greeting, link, Link.step]
    · rw [link_callDelegate, link_runFailed failed]
      by_cases greeting : (client.commands.read command).callbackError = some .hello
      · simp [linkEvent, losesConnection, disconnects, queued, greeting, link, Link.step,
          Link.disconnect, Link.report, DelegateCall.reportsEnd]
      · simp [linkEvent, entersBackground, losesConnection, disconnects, sends,
          completedRegistration, queued, greeting, link, Link.step,
          DelegateCall.reportsEnd]

/-! ## Incoming messages -/

theorem link_receiveAnswer {client after : WebOSTVServiceSocketClient}
    {message : IncomingMessage} {command : Option (Ref ServiceCommand)}
    (taken : client.receiveAnswer message command = some after) :
    after.link = client.link := by
  rcases Option.map_eq_some_iff.mp taken with ⟨received, receiving, equal⟩
  have answered : received.link = client.link := by
    split_ifs at receiving with registered hello
    · rcases Option.map_eq_some_iff.mp receiving with ⟨clientKey, _, same⟩
      rw [← same, link_callDelegate]
      rfl
    · cases receiving
      rfl
    · cases receiving
      rfl
  rw [← answered, ← equal]
  split_ifs <;> rfl

theorem link_didReceiveMessage {client after : WebOSTVServiceSocketClient}
    {decodeData : Option JSON} {shouldProcessMessage : Bool}
    (taken : didReceiveMessage platform client decodeData shouldProcessMessage =
      some after) : after.link = client.link := by
  unfold didReceiveMessage at taken
  split_ifs at taken with refused
  · cases taken
    rfl
  · rcases Option.bind_eq_some_iff.mp taken with ⟨message, _, receiving⟩
    rcases Option.map_eq_some_iff.mp receiving with ⟨received, receiving, equal⟩
    have answered : received.link = client.link := by
      split_ifs at receiving with error
      · cases receiving
        rfl
      · exact link_receiveAnswer receiving
    rw [← answered, ← equal]
    split_ifs <;> rfl

theorem link_didFailWithError (client : WebOSTVServiceSocketClient) (error : NSError) :
    (didFailWithError platform client error).link =
      client.link.didFail (decide (error.code = certificateChanged)) := by
  by_cases retry : error.code = certificateChanged
  · simp only [didFailWithError, retry, if_true, Link.didFail, decide_true]
    rw [link_openSocket]
    rfl
  · simp only [didFailWithError, retry, if_false, Link.didFail, decide_false,
      Bool.false_eq_true]
    split_ifs with connected
    · rw [link_callDelegate]
      rfl
    · rw [link_callDelegate]
      rfl

/-! ## Steps -/

/-- The client hears of its web socket's events while it has one. -/
theorem link_withSocket {client after : WebOSTVServiceSocketClient}
    {act : WebOSTVServiceSocketClient → Option WebOSTVServiceSocketClient} {moved : Link}
    (taken : client.withSocket act = some after)
    (moves : ∀ acted, act client = some acted → acted.link = moved) :
    after.link = if client.link.socket.isSome then moved else client.link := by
  rw [withSocket] at taken
  cases present : client.socket.isSome with
  | true =>
      rw [present] at taken
      exact (moves after taken).trans (if_pos present).symm
  | false =>
      rw [present] at taken
      cases taken
      exact (if_neg (Bool.eq_false_iff.mp present)).symm

/-- The client's connection moves as the machine does. -/
theorem step_link {client after : WebOSTVServiceSocketClient} {event : SocketClientEvent}
    (taken : step platform client event = some after) :
    after.link = client.link.step (client.linkEvent platform event) := by
  cases event with
  | createCommand target payload complete error =>
      cases taken
      rfl
  | createSubscription target payload callId =>
      cases taken
      rfl
  | addSuccess command success =>
      rcases toSubscription_cases taken with ⟨_, same⟩ | ⟨_, added⟩
      · exact congrArg link same
      · cases added
        rfl
  | addFailure command failure =>
      rcases toSubscription_cases taken with ⟨_, same⟩ | ⟨_, added⟩
      · exact congrArg link same
      · cases added
        rfl
  | send command =>
      rcases step_send_cases taken with ⟨absent, rfl⟩ | ⟨allocated, rfl⟩
      · simp [linkEvent, entersBackground, losesConnection, sends, absent, Link.step]
      · simp only [linkEvent, entersBackground, losesConnection, sends, allocated,
          decide_true, Bool.or_self, Bool.false_eq_true, if_false, if_true, Link.step]
        exact link_sendStringOverSocket _ _
  | subscribe command =>
      rcases toSubscription_cases taken with ⟨absent, same⟩ | ⟨allocated, subscribed⟩
      · subst same
        simp [linkEvent, entersBackground, losesConnection, sends, absent, Link.step]
      · rw [(link_subscribe subscribed).1, if_pos allocated]
        simp [linkEvent, entersBackground, losesConnection, sends, allocated, Link.step]
  | unsubscribe command =>
      rcases toSubscription_cases taken with ⟨absent, same⟩ | ⟨allocated, unsubscribed⟩
      · subst same
        simp [linkEvent, entersBackground, losesConnection, sends, absent, Link.step]
      · rw [link_unsubscribe unsubscribed]
        cases online : client.connected with
        | true =>
            simp [linkEvent, entersBackground, losesConnection, sends, allocated, online,
              Link.step]
        | false =>
            simp [linkEvent, entersBackground, losesConnection, sends, online, Link.step]
  | addSubscribe url payload success failure =>
      rw [link_addSubscribe taken]
      cases sending : client.sends platform (.addSubscribe url payload success failure) with
      | true => simp [linkEvent, entersBackground, losesConnection, sending, Link.step]
      | false => simp [linkEvent, entersBackground, losesConnection, sending, Link.step]
  | killSubscribe url payload =>
      cases taken
      rfl
  | sendString payload =>
      cases taken
      rw [link_sendStringOverSocket]
      rfl
  | sendDictionary payload =>
      cases taken
      rw [sendDictionaryOverSocket, link_sendStringOverSocket]
      rfl
  | connect =>
      cases taken
      exact link_openSocket client
  | disconnect error =>
      cases taken
      exact link_disconnectWithError client error
  | serviceChanged service =>
      cases taken
      rfl
  | setShouldDisconnectOnBackground value =>
      cases taken
      rfl
  | appDidEnterBackground =>
      cases taken
      cases observes : client.observesAppState with
      | false => simp [linkEvent, entersBackground, losesConnection, sends, observes,
          Link.step]
      | true =>
          cases online : client.connected with
          | false => simp [linkEvent, entersBackground, losesConnection, sends, online,
              hAppDidEnterBackground, Link.step]
          | true =>
              simp only [linkEvent, entersBackground, observes, online, Bool.and_self,
                Bool.true_or, if_true, hAppDidEnterBackground]
              exact link_disconnectWithError _ _
  | appDidBecomeActive =>
      cases taken
      cases observes : client.observesAppState with
      | false => simp [linkEvent, entersBackground, losesConnection, sends, observes,
          Link.step]
      | true =>
          cases wakes : client.reconnectOnWake with
          | false => simp [linkEvent, entersBackground, losesConnection, sends, wakes,
              hAppDidBecomeActive, Link.step]
          | true =>
              simp only [linkEvent, entersBackground, losesConnection, sends, observes, wakes,
                Bool.and_self, Bool.or_self, Bool.false_eq_true, if_false, if_true,
                hAppDidBecomeActive]
              exact link_openSocket client
  | readyStateChanged readyState =>
      cases taken
      rfl
  | didOpen =>
      rw [step] at taken
      refine link_withSocket taken fun acted done => ?_
      cases done
      rfl
  | didClose reason wasClean =>
      rw [step] at taken
      refine link_withSocket taken fun acted done => ?_
      cases done
      rw [didCloseWithCode, link_callDelegate]
      rfl
  | didFail error =>
      rw [step] at taken
      refine link_withSocket taken fun acted done => ?_
      cases done
      exact link_didFailWithError _ _
  | didGetCertificates certs =>
      rcases step_didGetCertificates_cases taken with rfl | ⟨_, rfl⟩
      · rfl
      · rfl
  | didReceiveMessage decodeData shouldProcessMessage =>
      rcases step_didReceiveMessage_cases taken with rfl | ⟨_, received⟩
      · rfl
      · exact link_didReceiveMessage received
  | runNext => exact link_runNext taken

end WebOSTVServiceSocketClient

end ConnectSDK
