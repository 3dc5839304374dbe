import ConnectSDK.Services.Helpers.ImpostorHello
import ConnectSDK.Services.Helpers.SocketClientSteps

/-! # Subscriptions across a stay in the background

When the app goes to the background the client saves its subscriptions and
disconnects. The registration after the next connection restores them. An
observer keeps the subscriptions that should be active by then.
-/

namespace ConnectSDK

namespace WebOSTVServiceSocketClient

variable {platform : Platform}

/-- Where a client has its subscriptions. -/
structure Subscriptions where
  active : Dictionary String (Ref ServiceCommand)
  saved : Dictionary String (Ref ServiceCommand)

namespace Subscriptions

def savedNone (subscriptions : Subscriptions) : Bool :=
  subscriptions.saved.entries.isEmpty

/-- What the registration makes of them. -/
def restored (subscriptions : Subscriptions) : Dictionary String (Ref ServiceCommand) :=
  if subscriptions.savedNone then subscriptions.active else subscriptions.saved

theorem restored_of_savedNone {subscriptions : Subscriptions}
    (none : subscriptions.savedNone = true) :
    subscriptions.restored = subscriptions.active :=
  if_pos none

theorem restored_of_saved {subscriptions : Subscriptions}
    (saved : subscriptions.savedNone = false) :
    subscriptions.restored = subscriptions.saved := by
  rw [restored, saved]
  rfl

theorem restored_setActive {subscriptions : Subscriptions}
    (none : subscriptions.savedNone = true)
    (active : Dictionary String (Ref ServiceCommand)) :
    restored { subscriptions with active } = active :=
  if_pos none

theorem restored_setActive_of_saved {subscriptions : Subscriptions}
    (saved : subscriptions.savedNone = false)
    (active : Dictionary String (Ref ServiceCommand)) :
    restored { subscriptions with active } = subscriptions.saved :=
  @restored_of_saved { subscriptions with active } saved

/-- What is saved is restored. -/
theorem restored_save (active : Dictionary String (Ref ServiceCommand)) :
    Dictionary.SameEntries (restored { active := ∅, saved := active }) active := by
  intro key
  unfold restored
  split_ifs with none
  · have empty : active = ∅ := AList.ext (List.isEmpty_iff.mp none)
    rw [empty]
  · rfl

/-- Disconnecting forgets the active ones. -/
def dropped (subscriptions : Subscriptions) : Subscriptions where
  active := ∅
  saved := subscriptions.saved

end Subscriptions

def subscriptions (client : WebOSTVServiceSocketClient) : Subscriptions where
  active := client.subscribed
  saved := client.savedSubscriptions

/-- The reference id of a subscription, if it has a URL. -/
def referenceOf (platform : Platform) (client : WebOSTVServiceSocketClient)
    (subscription : Ref ServiceCommand) : Option String :=
  (client.commands.read subscription).target.map fun url =>
    subscriptionReferenceForURL platform url (client.commands.read subscription).payload

/-- Whether an event has the client save its subscriptions. -/
def entersBackground (client : WebOSTVServiceSocketClient) : SocketClientEvent → Bool
  | .appDidEnterBackground => client.observesAppState && client.connected
  | _ => false

/-- Whether a block of the main queue disconnects the client. -/
def disconnects (client : WebOSTVServiceSocketClient) : MainBlock → Bool
  | .complete command response =>
      decide ((client.commands.read command).callbackComplete = some .hello) &&
        client.isImpostor response
  | .failed command _ =>
      decide ((client.commands.read command).callbackError = some .hello)
  | .rejected command _ =>
      decide ((client.commands.read command).callbackError = some .hello)

/-- Whether an event disconnects the client for another reason than the app's going
to the background. -/
def losesConnection (client : WebOSTVServiceSocketClient) : SocketClientEvent → Bool
  | .disconnect _ => true
  | .runNext => client.mainQueue.head?.any client.disconnects
  | _ => false

/-- The subscriptions after an event. -/
def subscriptionsAfter (platform : Platform) (client : WebOSTVServiceSocketClient)
    (event : SocketClientEvent) : Subscriptions :=
  if client.entersBackground event then
    { active := ∅, saved := client.subscribed }
  else if client.losesConnection event then
    client.subscriptions.dropped
  else if (client.completedRegistration event).isSome then
    { active := client.subscriptions.restored, saved := ∅ }
  else
    match event with
    | .addSubscribe url payload _ _ =>
        (subscriptionFor platform client url payload).1.subscriptions
    | .killSubscribe url payload =>
        (killSubscribe platform client url payload).subscriptions
    | .unsubscribe command =>
        if client.commands.Allocated command ∧ client.connected then
          { client.subscriptions with
            active := (referenceOf platform client command).elim client.subscribed
              client.subscribed.erase }
        else
          client.subscriptions
    | _ => client.subscriptions

theorem subscriptionsAfter_registration {client : WebOSTVServiceSocketClient}
    (completes : (client.completedRegistration .runNext).isSome = true) :
    client.subscriptionsAfter platform .runNext =
      { active := client.subscriptions.restored, saved := ∅ } := by
  have stays : client.losesConnection .runNext = false := by
    unfold completedRegistration at completes
    cases queued : client.mainQueue with
    | nil => simp [queued] at completes
    | cons block rest =>
        simp only [queued] at completes
        cases block with
        | complete command response =>
            have register :
                (client.commands.read command).callbackComplete = some .register := by
              simpa using completes
            simp [losesConnection, queued, disconnects, register]
        | failed command error => cases completes
        | rejected command error => cases completes
  simp only [subscriptionsAfter, entersBackground, stays, completes, if_true,
    Bool.false_eq_true, if_false]

/-! ## What leaves the subscriptions alone -/

theorem openSocket_subscriptions (client : WebOSTVServiceSocketClient) :
    (openSocket platform client).subscriptions = client.subscriptions := by
  unfold openSocket
  cases client.socket.map LGSRWebSocket.readyState with
  | none => rfl
  | some readyState => cases readyState <;> rfl

theorem sendStringOverSocket_subscriptions (client : WebOSTVServiceSocketClient)
    (payload : String) :
    (sendStringOverSocket platform client payload).subscriptions =
      client.subscriptions := by
  cases connected : client.socket with
  | none =>
      simp [sendStringOverSocket, openSocket, connected, createSocket, callSocket, enqueue,
        subscriptions]
  | some socket =>
      rcases socket with ⟨number, readyState⟩
      cases readyState <;>
        simp [sendStringOverSocket, openSocket, connected, createSocket, callSocket,
          enqueue, sendNow, subscriptions]

theorem disconnectWithError_subscriptions (client : WebOSTVServiceSocketClient)
    (error : Option NSError) :
    (client.disconnectWithError error).subscriptions = client.subscriptions.dropped := by
  rcases closeSocket_frame { client with
    observesAppState := client.observesAppState && client.reconnectOnWake
    connected := false }
    ((error.map NSError.localizedDescription).getD "Disconnected by client") with
    ⟨calls, closed⟩
  simp only [disconnectWithError, closed, callDelegate, subscriptions,
    Subscriptions.dropped]

theorem hAppDidEnterBackground_subscriptions (client : WebOSTVServiceSocketClient) :
    client.hAppDidEnterBackground.subscriptions =
      if client.connected then { active := ∅, saved := client.subscribed }
      else client.subscriptions := by
  unfold hAppDidEnterBackground
  split_ifs with online
  · exact disconnectWithError_subscriptions _ none
  · rfl

/-! ## Subscribing and unsubscribing -/

theorem sendSubscription_subscribe {client after : WebOSTVServiceSocketClient}
    {command : Ref ServiceCommand} {callId : Option Nat}
    (taken : sendSubscription platform client command .subscribe = some (after, callId)) :
    after.subscriptions = client.subscriptions := by
  rcases sendSubscription_cases taken with
    ⟨uid, key, url, _, ⟨_, text, sent⟩ | ⟨impossible, _⟩ | ⟨impossible, _⟩⟩
  · rw [sent]
    exact sendStringOverSocket_subscriptions _ text
  · cases impossible
  · cases impossible

/-- A connected client forgets the subscription that it unsubscribes. -/
theorem sendSubscription_unsubscribe {client after : WebOSTVServiceSocketClient}
    {command : Ref ServiceCommand} {callId : Option Nat}
    (taken : sendSubscription platform client command .unsubscribe =
      some (after, callId)) :
    after.subscriptions =
      if client.connected then
        { client.subscriptions with
          active := (referenceOf platform client command).elim client.subscribed
            client.subscribed.erase }
      else client.subscriptions := by
  rcases sendSubscription_cases taken with ⟨uid, key, url, target, sent⟩
  rw [referenceOf, target]
  rcases sent with ⟨impossible, _⟩ | ⟨_, online, text, sent⟩ | ⟨_, offline, sent⟩
  · cases impossible
  · rw [online, sent]
    exact sendStringOverSocket_subscriptions _ text
  · rw [offline, sent]
    rfl

theorem subscribe_subscriptions {client after : WebOSTVServiceSocketClient}
    {command : Ref ServiceCommand}
    (taken : subscribe platform client command = some after) :
    after.subscriptions = client.subscriptions := by
  rcases toObject_cases taken with ⟨_, same⟩ | ⟨_, subscribed⟩
  · rw [same]
  · rcases Option.map_eq_some_iff.mp subscribed with ⟨⟨sent, callId⟩, sending, equal⟩
    subst equal
    have sentAlone : sent.subscriptions = client.subscriptions :=
      sendSubscription_subscribe sending
    exact sentAlone

theorem unsubscribe_subscriptions {client after : WebOSTVServiceSocketClient}
    {command : Ref ServiceCommand}
    (taken : unsubscribe platform client command = some after) :
    after.subscriptions =
      if client.commands.Allocated command ∧ client.connected then
        { client.subscriptions with
          active := (referenceOf platform client command).elim client.subscribed
            client.subscribed.erase }
      else client.subscriptions := by
  rw [unsubscribe, toObject] at taken
  split_ifs at taken with allocated
  · rcases Option.map_eq_some_iff.mp taken with ⟨⟨sent, callId⟩, sending, equal⟩
    subst equal
    have removed := sendSubscription_unsubscribe sending
    simp only [allocated, true_and]
    exact removed
  · cases taken
    rw [if_neg fun both => allocated both.1]

theorem subscriptionFor_found {client : WebOSTVServiceSocketClient} {url : String}
    {payload : Option JSON.Fields} {subscription : Ref ServiceCommand}
    (found : client.subscribed.lookup (subscriptionReferenceForURL platform url payload) =
      some subscription) :
    subscriptionFor platform client url payload = (client, subscription) := by
  simp only [subscriptionFor, found]

theorem subscriptionFor_created {client : WebOSTVServiceSocketClient} {url : String}
    {payload : Option JSON.Fields}
    (absent : client.subscribed.lookup (subscriptionReferenceForURL platform url payload) =
      none) :
    (subscriptionFor platform client url payload).1.subscriptions =
        { client.subscriptions with
          active := client.subscriptions.active.insert
            (subscriptionReferenceForURL platform url payload) client.commands.fresh } ∧
      (subscriptionFor platform client url payload).2 = client.commands.fresh := by
  simp only [subscriptionFor, absent]
  exact ⟨rfl, rfl⟩

theorem addSubscribe_subscriptions {client after : WebOSTVServiceSocketClient}
    {url : String} {payload : Option JSON.Fields} {success failure : Option UserBlock}
    (taken : addSubscribe platform client url payload success failure = some after) :
    after.subscriptions = (subscriptionFor platform client url payload).1.subscriptions := by
  simp only [addSubscribe] at taken
  split_ifs at taken with subscribed
  · cases taken
    rfl
  · rw [subscribe_subscriptions taken]
    rfl

theorem subscribeAll_subscriptions {client after : WebOSTVServiceSocketClient}
    {commands : List (Ref ServiceCommand)}
    (taken : subscribeAll platform client commands = some after) :
    after.subscriptions = client.subscriptions := by
  induction commands generalizing client with
  | nil =>
      cases taken
      rfl
  | cons command rest induction =>
      rcases Option.bind_eq_some_iff.mp taken with ⟨next, first, later⟩
      rw [induction later]
      exact subscribe_subscriptions first

/-! ## The main queue -/

theorem resubscribeSaved_subscriptions {client after : WebOSTVServiceSocketClient}
    (taken : registerComplete.resubscribeSaved platform client = some after) :
    after.subscriptions = { active := client.subscriptions.restored, saved := ∅ } := by
  unfold registerComplete.resubscribeSaved at taken
  split_ifs at taken with nothing
  · cases taken
    have none : client.savedSubscriptions = ∅ := by
      apply AList.ext
      exact List.isEmpty_iff.mp nothing
    rw [@Subscriptions.restored_of_savedNone client.subscriptions nothing, subscriptions,
      none]
  · rcases Option.map_eq_some_iff.mp taken with ⟨sent, sending, equal⟩
    subst equal
    have active : sent.subscribed = client.savedSubscriptions :=
      congrArg Subscriptions.active (subscribeAll_subscriptions sending)
    simp [subscriptions, Subscriptions.restored, Subscriptions.savedNone, nothing, active]

/-- The completed registration restores what was saved, over what is there. -/
theorem registerComplete_subscriptions {client after : WebOSTVServiceSocketClient}
    {response : Option JSON}
    (taken : registerComplete platform client response = some after) :
    after.subscriptions = { active := client.subscriptions.restored, saved := ∅ } := by
  rcases registerComplete_frame taken with ⟨_, _, _, saved⟩
  rw [resubscribeSaved_subscriptions saved]
  rcases flushCommandQueue_frame _ with ⟨_, flushed⟩
  rw [flushed]
  rfl

theorem registerWithTv_subscriptions (client : WebOSTVServiceSocketClient) :
    (registerWithTv platform client).subscriptions = client.subscriptions := rfl

theorem helloComplete_subscriptions {client after : WebOSTVServiceSocketClient}
    {response : Option JSON}
    (taken : helloComplete platform client response = some after) :
    after.subscriptions =
      if client.isImpostor response then client.subscriptions.dropped
      else client.subscriptions := by
  rcases helloComplete_cases taken with
    ⟨impostor, equal⟩ | ⟨recognized, equal | ⟨uuid, equal⟩⟩
  · rw [impostor, if_pos rfl, equal, registerWithTv_subscriptions]
    exact disconnectWithError_subscriptions _ _
  · rw [recognized, equal]
    rfl
  · rw [recognized, equal]
    rfl

theorem runFailed_subscriptions {client after : WebOSTVServiceSocketClient}
    {command : Ref ServiceCommand} {error : NSError}
    (taken : runFailed platform client command error = some after) :
    after.subscriptions =
      if (client.commands.read command).callbackError = some .hello then
        client.subscriptions.dropped
      else client.subscriptions := by
  rcases runFailed_cases taken with ⟨blocks, held, ran⟩ | ⟨held, ran⟩ | ⟨held, ran⟩
  · rw [ran, held]
    rfl
  · rw [ran, held, if_pos rfl]
    exact disconnectWithError_subscriptions _ _
  · rw [ran, held, if_neg (by decide), registerFailed]
    split_ifs <;> rfl

theorem runNext_subscriptions {client after : WebOSTVServiceSocketClient}
    (taken : runNext platform client = some after) :
    after.subscriptions = client.subscriptionsAfter platform .runNext := by
  rcases runNext_cases taken with ⟨queued, rfl⟩ | ⟨block, rest, queued, run⟩
  · simp [subscriptionsAfter, entersBackground, losesConnection, completedRegistration,
      queued]
  · rcases runBlock_cases run with ⟨command, response, rfl, completed⟩ |
      ⟨command, error, rfl, failed⟩ | ⟨command, error, ran, rfl, failed, rfl⟩
    · rcases runComplete_cases completed with
        ⟨blocks, held, ran⟩ | ⟨held, greeted⟩ | ⟨held, registered⟩
      · dsimp only at held
        rw [ran]
        simp [subscriptionsAfter, entersBackground, losesConnection, disconnects,
          completedRegistration, queued, held, runUser, subscriptions]
      · dsimp only at held
        rw [helloComplete_subscriptions greeted]
        simp [subscriptionsAfter, entersBackground, losesConnection, disconnects,
          completedRegistration, queued, held, isImpostor, subscriptions]
      · dsimp only at held
        rw [registerComplete_subscriptions registered]
        simp [subscriptionsAfter, entersBackground, losesConnection, disconnects,
          completedRegistration, queued, held, subscriptions]
    · rw [runFailed_subscriptions failed]
      simp [subscriptionsAfter, entersBackground, losesConnection, disconnects,
        completedRegistration, queued, subscriptions]
    · have notified : (ran.callDelegate (.closeByResponse error)).subscriptions =
          ran.subscriptions := rfl
      rw [notified, runFailed_subscriptions failed]
      simp [subscriptionsAfter, entersBackground, losesConnection, disconnects,
        completedRegistration, queued, subscriptions]

/-! ## Steps -/

theorem step_subscriptions {client after : WebOSTVServiceSocketClient}
    {event : SocketClientEvent} (taken : step platform client event = some after) :
    after.subscriptions = client.subscriptionsAfter platform event := by
  cases event with
  | createCommand target payload complete error =>
      cases taken
      rfl
  | createSubscription target payload callId =>
      cases taken
      rfl
  | addSuccess command success =>
      rcases toSubscription_cases taken with ⟨_, same⟩ | ⟨_, added⟩
      · exact congrArg subscriptions same
      · cases added
        rfl
  | addFailure command failure =>
      rcases toSubscription_cases taken with ⟨_, same⟩ | ⟨_, added⟩
      · exact congrArg subscriptions same
      · cases added
        rfl
  | send command =>
      rcases step_send_cases taken with ⟨_, rfl⟩ | ⟨_, rfl⟩
      · rfl
      · exact sendStringOverSocket_subscriptions _ _
  | subscribe command =>
      rcases toSubscription_cases taken with ⟨_, same⟩ | ⟨_, subscribed⟩
      · exact congrArg subscriptions same
      · exact subscribe_subscriptions subscribed
  | unsubscribe command =>
      rcases toSubscription_cases taken with ⟨absent, same⟩ | ⟨_, unsubscribed⟩
      · rw [same]
        simp [subscriptionsAfter, entersBackground, losesConnection,
          completedRegistration, absent]
      · exact unsubscribe_subscriptions unsubscribed
  | addSubscribe url payload success failure => exact addSubscribe_subscriptions taken
  | killSubscribe url payload =>
      cases taken
      rfl
  | sendString payload =>
      cases taken
      exact sendStringOverSocket_subscriptions _ _
  | sendDictionary payload =>
      cases taken
      exact sendStringOverSocket_subscriptions _ _
  | connect =>
      cases taken
      exact openSocket_subscriptions client
  | disconnect error =>
      cases taken
      exact disconnectWithError_subscriptions client error
  | serviceChanged service =>
      cases taken
      rfl
  | setShouldDisconnectOnBackground value =>
      cases taken
      rfl
  | appDidEnterBackground =>
      cases taken
      cases observes : client.observesAppState with
      | false => simp [subscriptionsAfter, entersBackground, losesConnection,
          completedRegistration, observes]
      | true =>
          rw [if_pos rfl, hAppDidEnterBackground_subscriptions]
          simp [subscriptionsAfter, entersBackground, losesConnection,
            completedRegistration, observes]
  | appDidBecomeActive =>
      cases taken
      split_ifs with observes
      · unfold hAppDidBecomeActive
        split_ifs with wakes
        · exact openSocket_subscriptions client
        · rfl
      · rfl
  | readyStateChanged readyState =>
      cases taken
      rfl
  | didOpen =>
      rcases step_didOpen_cases taken with rfl | ⟨_, rfl⟩
      · rfl
      · rfl
  | didClose reason wasClean =>
      rcases step_didClose_cases taken with rfl | ⟨_, rfl⟩
      · rfl
      · rfl
  | didFail error =>
      rcases step_didFail_cases taken with rfl | ⟨_, rfl⟩
      · rfl
      · simp only [didFailWithError]
        split_ifs
        · exact openSocket_subscriptions _
        · rfl
        · rfl
  | didGetCertificates certs =>
      rcases step_didGetCertificates_cases taken with rfl | ⟨_, rfl⟩
      · rfl
      · rfl
  | didReceiveMessage decodeData shouldProcessMessage =>
      rcases step_didReceiveMessage_cases taken with rfl | ⟨_, received⟩
      · rfl
      · rcases didReceiveMessage_frame received with ⟨_, _, _, _, equal⟩
        subst equal
        rfl
  | runNext => exact runNext_subscriptions taken

end WebOSTVServiceSocketClient

open WebOSTVServiceSocketClient

/-- A client under observation. `expected` are, from the app's going to the
background to the completed registration, the subscriptions that were active, with
those added since and without those cancelled. Objects created `since` then belong
to the new connection. -/
structure SubscriptionWatch where
  client : WebOSTVServiceSocketClient
  expected : Option (Dictionary String (Ref ServiceCommand)) := none
  since : Nat := 0

namespace SubscriptionWatch

variable {platform : Platform}

/-- The expected subscriptions after an event that adds or cancels one. -/
def follow (platform : Platform) (client : WebOSTVServiceSocketClient)
    (event : SocketClientEvent) (expected : Dictionary String (Ref ServiceCommand)) :
    Dictionary String (Ref ServiceCommand) :=
  match event with
  | .addSubscribe url payload _ _ =>
      expected.insert (subscriptionReferenceForURL platform url payload)
        (subscriptionFor platform client url payload).2
  | .killSubscribe url payload =>
      expected.erase (subscriptionReferenceForURL platform url payload)
  | .unsubscribe command =>
      match referenceOf platform client command with
      | some reference =>
          if client.commands.Allocated command ∧
              expected.lookup reference = some command then
            expected.erase reference
          else
            expected
      | none => expected
  | _ => expected

/-- Whether an event completes the registration of a connection that is newer than
the app's stay in the background. -/
def completes (watch : SubscriptionWatch) (event : SocketClientEvent) : Bool :=
  (watch.client.completedRegistration event).any fun command =>
    decide (watch.since ≤ command.index)

def step (platform : Platform) (watch : SubscriptionWatch) (event : SocketClientEvent) :
    Option SubscriptionWatch :=
  (WebOSTVServiceSocketClient.step platform watch.client event).map fun client =>
    if watch.client.entersBackground event then {
      client
      expected := some (watch.expected.getD watch.client.subscribed)
      since := watch.client.commands.size }
    else {
      client
      expected := if watch.completes event then none
        else watch.expected.map (follow platform watch.client event)
      since := watch.since }

def start (service : WebOSTVService) (delegate : Option SocketClientDelegate) :
    SubscriptionWatch where
  client := initWithService service delegate

/-- The conditions under which the expected subscriptions are restored. None is added
or killed over saved ones, one that is unsubscribed is not among them and not in the
table of a client that is offline, and the table is not forgotten or saved over. -/
structure Keeps (platform : Platform) (watch : SubscriptionWatch)
    (event : SocketClientEvent) : Prop where
  adds : ∀ url payload success failure,
    event = .addSubscribe url payload success failure → watch.client.subscriptions.savedNone = true
  kills : ∀ url payload, event = .killSubscribe url payload →
    watch.client.subscriptions.savedNone = true ∨ watch.client.savedSubscriptions.lookup
      (subscriptionReferenceForURL platform url payload) = none
  unsubscribes : ∀ command reference, event = .unsubscribe command →
    referenceOf platform watch.client command = some reference →
    watch.client.commands.Allocated command →
    if watch.client.subscriptions.savedNone then
      if watch.client.connected then
        ∀ holder, watch.client.subscribed.lookup reference = some holder →
          holder = command
      else watch.client.subscribed.lookup reference ≠ some command
    else watch.client.savedSubscriptions.lookup reference ≠ some command
  saves : watch.client.entersBackground event = true →
    watch.client.subscriptions.savedNone = true ∨
      Dictionary.SameEntries watch.client.savedSubscriptions watch.client.subscribed
  disconnects : watch.client.losesConnection event = true →
    watch.client.subscriptions.savedNone = false ∨ watch.client.subscribed = ∅

/-- The conditions, for as long as subscriptions are expected to be restored. -/
def KeepsExpected (platform : Platform) (watch : SubscriptionWatch)
    (event : SocketClientEvent) : Prop :=
  watch.expected.isSome = true → watch.Keeps platform event

/-! ## What the registration would restore -/

theorem restored_addSubscribe {watch : SubscriptionWatch} {url : String}
    {payload : Option JSON.Fields}
    {expected : Dictionary String (Ref ServiceCommand)}
    (same : Dictionary.SameEntries watch.client.subscriptions.restored expected)
    (none : watch.client.subscriptions.savedNone = true) :
    Dictionary.SameEntries
      (subscriptionFor platform watch.client url payload).1.subscriptions.restored
      (expected.insert (subscriptionReferenceForURL platform url payload)
        (subscriptionFor platform watch.client url payload).2) := by
  rw [Subscriptions.restored_of_savedNone none] at same
  cases found : watch.client.subscribed.lookup
      (subscriptionReferenceForURL platform url payload) with
  | some subscription =>
      have held : expected.lookup (subscriptionReferenceForURL platform url payload) =
          some subscription := (same _).symm.trans found
      rw [subscriptionFor_found found, Subscriptions.restored_of_savedNone none]
      exact fun key => (same key).trans (Dictionary.sameEntries_insert_of_held held key)
  | none =>
      rcases subscriptionFor_created found with ⟨created, fresh⟩
      rw [created, fresh, Subscriptions.restored_setActive none]
      exact same.insert _ _

theorem restored_killSubscribe {watch : SubscriptionWatch} {url : String}
    {payload : Option JSON.Fields}
    {expected : Dictionary String (Ref ServiceCommand)}
    (same : Dictionary.SameEntries watch.client.subscriptions.restored expected)
    (keeps : watch.Keeps platform (.killSubscribe url payload)) :
    Dictionary.SameEntries
      (killSubscribe platform watch.client url payload).subscriptions.restored
      (expected.erase (subscriptionReferenceForURL platform url payload)) := by
  have killed : (killSubscribe platform watch.client url payload).subscriptions =
      { watch.client.subscriptions with
        active := watch.client.subscriptions.active.erase
          (subscriptionReferenceForURL platform url payload) } := rfl
  rw [killed]
  cases saved : watch.client.subscriptions.savedNone with
  | true =>
      rw [Subscriptions.restored_of_savedNone saved] at same
      rw [Subscriptions.restored_setActive saved]
      exact same.erase _
  | false =>
      rw [Subscriptions.restored_of_saved saved] at same
      rw [Subscriptions.restored_setActive_of_saved saved]
      rcases keeps.kills url payload rfl with none | absent
      · cases saved.symm.trans none
      · have unexpected := (same _).symm.trans absent
        intro key
        exact (same key).trans (Dictionary.sameEntries_erase_of_absent unexpected key)

theorem restored_cancel {client : WebOSTVServiceSocketClient}
    {command : Ref ServiceCommand} {reference : String}
    {expected : Dictionary String (Ref ServiceCommand)}
    (same : Dictionary.SameEntries client.subscriptions.restored expected)
    (cancels : if client.subscriptions.savedNone then
        if client.connected then
          ∀ holder, client.subscribed.lookup reference = some holder → holder = command
        else client.subscribed.lookup reference ≠ some command
      else client.savedSubscriptions.lookup reference ≠ some command) :
    Dictionary.SameEntries
      (if client.connected then
        { client.subscriptions with active := client.subscribed.erase reference }
      else client.subscriptions).restored
      (if expected.lookup reference = some command then expected.erase reference
      else expected) := by
  cases saved : client.subscriptions.savedNone with
  | true =>
      rw [Subscriptions.restored_of_savedNone saved] at same
      rw [saved, if_pos rfl] at cancels
      cases online : client.connected with
      | true =>
          rw [online, if_pos rfl] at cancels
          rw [if_pos rfl, Subscriptions.restored_setActive saved]
          by_cases held : expected.lookup reference = some command
          · rw [if_pos held]
            exact same.erase reference
          · rw [if_neg held]
            have absent : client.subscribed.lookup reference = none := by
              apply Option.eq_none_iff_forall_ne_some.mpr
              intro holder found
              apply held
              rw [← same reference, ← cancels holder found]
              exact found
            intro key
            rw [← same key]
            exact (Dictionary.sameEntries_erase_of_absent absent key).symm
      | false =>
          rw [online] at cancels
          have unheld : expected.lookup reference ≠ some command := by
            rw [← same reference]
            exact cancels
          rw [if_neg unheld, if_neg Bool.false_ne_true,
            Subscriptions.restored_of_savedNone saved]
          exact same
  | false =>
      rw [Subscriptions.restored_of_saved saved] at same
      rw [saved] at cancels
      have unheld : expected.lookup reference ≠ some command := by
        rw [← same reference]
        exact cancels
      rw [if_neg unheld]
      split_ifs with online
      · rw [Subscriptions.restored_setActive_of_saved saved]
        exact same
      · rw [Subscriptions.restored_of_saved saved]
        exact same

theorem restored_unsubscribe {watch : SubscriptionWatch} {command : Ref ServiceCommand}
    {expected : Dictionary String (Ref ServiceCommand)}
    (same : Dictionary.SameEntries watch.client.subscriptions.restored expected)
    (keeps : watch.Keeps platform (.unsubscribe command)) :
    Dictionary.SameEntries
      (watch.client.subscriptionsAfter platform (.unsubscribe command)).restored
      (follow platform watch.client (.unsubscribe command) expected) := by
  have result : watch.client.subscriptionsAfter platform (.unsubscribe command) =
      if watch.client.commands.Allocated command ∧ watch.client.connected then
        { watch.client.subscriptions with
          active := (referenceOf platform watch.client command).elim
            watch.client.subscribed watch.client.subscribed.erase }
      else watch.client.subscriptions := by
    simp [subscriptionsAfter, entersBackground, losesConnection, completedRegistration]
  rw [result]
  cases named : referenceOf platform watch.client command with
  | none =>
      simp only [follow, named, Option.elim_none]
      split_ifs <;> exact same
  | some reference =>
      simp only [follow, named, Option.elim_some]
      by_cases allocated : watch.client.commands.Allocated command
      · have cancels := keeps.unsubscribes command reference rfl named allocated
        simp only [allocated, true_and]
        exact restored_cancel same cancels
      · simp only [allocated, false_and, if_false]
        exact same

theorem restored_dropped {subscriptions : Subscriptions}
    {expected : Dictionary String (Ref ServiceCommand)}
    (same : Dictionary.SameEntries subscriptions.restored expected)
    (kept : subscriptions.savedNone = false ∨ subscriptions.active = ∅) :
    Dictionary.SameEntries subscriptions.dropped.restored expected := by
  cases saved : subscriptions.savedNone with
  | true =>
      have empty := kept.resolve_left (by rw [saved]; decide)
      rw [Subscriptions.restored_of_savedNone saved, empty] at same
      rw [Subscriptions.dropped, Subscriptions.restored_setActive saved]
      exact same
  | false =>
      rw [Subscriptions.restored_of_saved saved] at same
      rw [Subscriptions.dropped, Subscriptions.restored_setActive_of_saved saved]
      exact same

theorem restored_follow {watch : SubscriptionWatch} {event : SocketClientEvent}
    {expected : Dictionary String (Ref ServiceCommand)}
    (same : Dictionary.SameEntries watch.client.subscriptions.restored expected)
    (keeps : watch.Keeps platform event)
    (foreground : watch.client.entersBackground event = false) :
    Dictionary.SameEntries (watch.client.subscriptionsAfter platform event).restored
      (follow platform watch.client event expected) := by
  cases event with
  | addSubscribe url payload success failure =>
      exact restored_addSubscribe same (keeps.adds url payload success failure rfl)
  | killSubscribe url payload => exact restored_killSubscribe same keeps
  | unsubscribe command => exact restored_unsubscribe same keeps
  | disconnect error => exact restored_dropped same (keeps.disconnects rfl)
  | appDidEnterBackground =>
      have unchanged : watch.client.subscriptionsAfter platform .appDidEnterBackground =
          watch.client.subscriptions := by
        simp [subscriptionsAfter, foreground, losesConnection, completedRegistration]
      rw [unchanged]
      exact same
  | runNext =>
      simp only [subscriptionsAfter, foreground, Bool.false_eq_true, if_false]
      split_ifs with loses completed
      · exact restored_dropped same (keeps.disconnects loses)
      · exact same
      · exact same
  | _ => exact same

theorem restored_enter {watch : SubscriptionWatch} {event : SocketClientEvent}
    {expected : Dictionary String (Ref ServiceCommand)}
    (same : Dictionary.SameEntries watch.client.subscriptions.restored expected)
    (keeps : watch.Keeps platform event)
    (background : watch.client.entersBackground event = true) :
    Dictionary.SameEntries watch.client.subscribed expected := by
  cases saved : watch.client.subscriptions.savedNone with
  | true =>
      rw [Subscriptions.restored_of_savedNone saved] at same
      exact same
  | false =>
      rw [Subscriptions.restored_of_saved saved] at same
      rcases keeps.saves background with none | equal
      · cases saved.symm.trans none
      · exact fun key => (equal key).symm.trans (same key)

/-! ## Runs -/

/-- The registration would restore what is expected. -/
def Restorable (watch : SubscriptionWatch) : Prop :=
  ∀ expected, watch.expected = some expected →
    Dictionary.SameEntries watch.client.subscriptions.restored expected

theorem Restorable.step {watch next : SubscriptionWatch} {event : SocketClientEvent}
    (restorable : watch.Restorable) (keeps : watch.KeepsExpected platform event)
    (taken : watch.step platform event = some next) : next.Restorable := by
  rcases Option.map_eq_some_iff.mp taken with ⟨client, stepped, equal⟩
  have subscriptions := step_subscriptions stepped
  subst equal
  cases background : watch.client.entersBackground event with
  | true =>
      have saved : client.subscriptions =
          { active := ∅, saved := watch.client.subscribed } :=
        subscriptions.trans (if_pos background)
      intro expected equal
      rw [if_pos rfl] at equal ⊢
      rw [saved]
      intro key
      rw [Subscriptions.restored_save watch.client.subscribed key]
      cases before : watch.expected with
      | none =>
          rw [before] at equal
          cases equal
          rfl
      | some earlier =>
          rw [before] at equal
          cases equal
          have kept := keeps (by rw [before]; rfl)
          exact restored_enter (restorable earlier before) kept background key
  | false =>
      intro expected equal
      rw [if_neg Bool.false_ne_true] at equal ⊢
      simp only at equal
      split_ifs at equal with completes
      cases before : watch.expected with
      | none =>
          rw [before] at equal
          cases equal
      | some earlier =>
          rw [before] at equal
          cases equal
          have kept := keeps (by rw [before]; rfl)
          rw [subscriptions]
          exact restored_follow (restorable earlier before) kept background

/-- In every run that keeps to the condition, a registration that completes while
subscriptions are expected leaves exactly these. -/
theorem run_restores (platform : Platform) (service : WebOSTVService)
    (delegate : Option SocketClientDelegate) (events : List SocketClientEvent)
    (final : SubscriptionWatch)
    (keeps : EveryStep (step platform) (KeepsExpected platform) (start service delegate)
      events)
    (reached : runFrom (step platform) (start service delegate) events = some final)
    (expected : Dictionary String (Ref ServiceCommand))
    (after : WebOSTVServiceSocketClient)
    (waiting : final.expected = some expected)
    (completes : (final.client.completedRegistration .runNext).isSome = true)
    (taken : WebOSTVServiceSocketClient.step platform final.client .runNext = some after) :
    Dictionary.SameEntries after.subscribed expected := by
  have initially : (start service delegate).Restorable := nofun
  have restorable : final.Restorable := runFrom_invariant
    (fun _ _ _ restorable keeps taken => Restorable.step restorable keeps taken)
    initially keeps reached
  have registered : after.subscriptions =
      { active := final.client.subscriptions.restored, saved := ∅ } := by
    rw [step_subscriptions taken, subscriptionsAfter_registration completes]
  have active : after.subscribed = final.client.subscriptions.restored :=
    congrArg Subscriptions.active registered
  rw [active]
  exact restorable expected waiting

/-! ## A stay in the background -/

/-- An event that leaves the subscriptions where they are. -/
def isQuiet (watch : SubscriptionWatch) (event : SocketClientEvent) : Bool :=
  !watch.client.entersBackground event && !watch.client.losesConnection event &&
    match event with
    | .addSubscribe .. => false
    | .killSubscribe .. => false
    | .unsubscribe _ => false
    | _ => true

theorem keepsExpected_of_isQuiet {watch : SubscriptionWatch} {event : SocketClientEvent}
    (quiet : watch.expected.isSome = true → watch.isQuiet event = true) :
    watch.KeepsExpected platform event := by
  intro waiting
  have parts := quiet waiting
  simp only [isQuiet, Bool.and_eq_true, Bool.not_eq_true'] at parts
  refine ⟨?_, ?_, ?_, ?_, ?_⟩
  · rintro url payload success failure rfl
    cases parts.2
  · rintro url payload rfl
    cases parts.2
  · rintro command reference rfl
    cases parts.2
  · intro background
    cases parts.1.1.symm.trans background
  · intro loses
    cases parts.1.2.symm.trans loses

def noPlatform : Platform where
  writeToJSON := fun _ => ""
  collectionDescription := fun _ => ""

def televisionService : WebOSTVService where
  serviceConfig := {}
  serviceDescription := { address := some "10.0.0.7", port := 3001 }

def answer (id type : String) : JSON :=
  .object [("id", .string id), ("type", .string type), ("payload", .object [])]

/-- A socket opens, and hello and the registration are answered. -/
def registered (helloId registerId : String) : List SocketClientEvent :=
  [.readyStateChanged .open, .didOpen,
    .didReceiveMessage (some (answer helloId "hello")) true, .runNext,
    .didReceiveMessage (some (answer registerId "registered")) true]

/-- The app subscribes and goes to the background, where the socket is closed. -/
def subscribedAndGone : List SocketClientEvent :=
  .connect :: registered "1" "2" ++
    [.runNext, .addSubscribe "ssap://audio/getVolume" none (some 1) none,
      .appDidEnterBackground, .didClose none true]

theorem run_restores_volume :
    ∃ final after expected, runFrom (step noPlatform) (start televisionService none)
        (subscribedAndGone ++ .appDidBecomeActive :: registered "4" "5") = some final ∧
      final.expected = some expected ∧
      WebOSTVServiceSocketClient.step noPlatform final.client .runNext = some after ∧
      expected.lookup "ssap://audio/getVolume" = some ⟨2⟩ ∧
      Dictionary.SameEntries after.subscribed expected := by
  refine ⟨_, _, _, rfl, rfl, rfl, rfl, ?_⟩
  apply run_restores noPlatform televisionService none
    (subscribedAndGone ++ .appDidBecomeActive :: registered "4" "5") _ ?_ rfl _ _ rfl
    rfl rfl
  have quiet : EveryStep (step noPlatform)
      (fun watch event => watch.expected.isSome = true → watch.isQuiet event = true)
      (start televisionService none)
      (subscribedAndGone ++ .appDidBecomeActive :: registered "4" "5") := by
    decide
  exact quiet.mono fun _ _ => keepsExpected_of_isQuiet

/-- In the background one subscription is cancelled and another one added. The
registration revives the first and loses the second. -/
theorem cancelled_revived :
    ∃ final after expected, runFrom (step noPlatform) (start televisionService none)
        (subscribedAndGone ++
          [.unsubscribe ⟨2⟩, .addSubscribe "ssap://tv/getChannel" none (some 2) none,
            .appDidBecomeActive] ++ registered "5" "6") = some final ∧
      final.expected = some expected ∧
      WebOSTVServiceSocketClient.step noPlatform final.client .runNext = some after ∧
      expected.lookup "ssap://audio/getVolume" = none ∧
      after.subscribed.lookup "ssap://audio/getVolume" = some ⟨2⟩ ∧
      expected.lookup "ssap://tv/getChannel" = some ⟨3⟩ ∧
      after.subscribed.lookup "ssap://tv/getChannel" = none ∧
      ¬ Dictionary.SameEntries after.subscribed expected := by
  refine ⟨_, _, _, rfl, rfl, rfl, rfl, rfl, rfl, rfl, ?_⟩
  intro same
  cases same "ssap://audio/getVolume"

end SubscriptionWatch

end ConnectSDK
