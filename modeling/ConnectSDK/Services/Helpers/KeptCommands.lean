import ConnectSDK.Services.Helpers.SocketClientSteps

/-! # What commands keep

Subscribing and unsubscribing change a command, and a user adds blocks to one. A view of
commands that neither touches is the same after every step.
-/

namespace ConnectSDK

/-- A view of commands that subscribing and unsubscribing leave alone. -/
structure ServiceCommand.Lasting (view : ServiceCommand → View) : Prop where
  didSubscribe : ∀ callId command, view (command.didSubscribe callId) = view command
  didUnsubscribe : ∀ callId command, view (command.didUnsubscribe callId) = view command

/-- A view that added blocks do not change. -/
def ServiceCommand.Blind (view : ServiceCommand → View) : Prop :=
  ∀ command success failure, view (command.addBlocks success failure) = view command

/-- The object stays, and looks as it did. -/
def Keeps (view : ServiceCommand → View) (kept : Ref ServiceCommand)
    (before after : Heap ServiceCommand) : Prop :=
  before.Allocated kept →
    after.Allocated kept ∧ view (after.read kept) = view (before.read kept)

namespace Keeps

variable {view : ServiceCommand → View} {kept : Ref ServiceCommand}

theorem of_eq {before after : Heap ServiceCommand} (same : after = before) :
    Keeps view kept before after := by
  intro allocated
  rw [same]
  exact ⟨allocated, rfl⟩

theorem trans {first second third : Heap ServiceCommand} (left : Keeps view kept first second)
    (right : Keeps view kept second third) : Keeps view kept first third := by
  intro allocated
  rcases left allocated with ⟨between, same⟩
  rcases right between with ⟨allocatedLater, sameLater⟩
  exact ⟨allocatedLater, sameLater.trans same⟩

theorem allocate (heap : Heap ServiceCommand) (object : ServiceCommand) :
    Keeps view kept heap (heap.allocate object) :=
  fun allocated =>
    ⟨allocated.allocate object, congrArg view (allocated.read_allocate object)⟩

theorem modify (heap : Heap ServiceCommand) (target : Ref ServiceCommand)
    {change : ServiceCommand → ServiceCommand}
    (same : target ≠ kept ∨ ∀ object, view (change object) = view object) :
    Keeps view kept heap (heap.modify target change) := by
  intro allocated
  refine ⟨allocated, ?_⟩
  by_cases changed : kept = target
  · rcases same with apart | unchanged
    · exact absurd changed.symm apart
    · rw [changed, Heap.read_modify_self, unchanged]
  · rw [Heap.read_modify_of_ne changed]

theorem of_ledger {before after : WebOSTVServiceSocketClient}
    (same : after.ledger = before.ledger) :
    Keeps view kept before.commands after.commands :=
  .of_eq (congrArg WebOSTVServiceSocketClient.Ledger.commands same)

end Keeps

namespace WebOSTVServiceSocketClient

open Ledger

/-- Whether an event adds a block to the command. -/
def addsTo (platform : Platform) (client : WebOSTVServiceSocketClient)
    (target : Ref ServiceCommand) : SocketClientEvent → Bool
  | .addSuccess command _ => decide (command = target)
  | .addFailure command _ => decide (command = target)
  | .addSubscribe url payload _ _ =>
      decide ((subscriptionFor platform client url payload).2 = target)
  | _ => false

variable {platform : Platform} {view : ServiceCommand → View} {kept : Ref ServiceCommand}

/-! ## The client's methods -/

theorem openSocket_keeps (client : WebOSTVServiceSocketClient) :
    Keeps view kept client.commands (openSocket platform client).commands := by
  have ledgers : (openSocket platform client).ledger = _ := openSocket_ledger client
  split_ifs at ledgers with opened
  · have commands : (openSocket platform client).commands =
        client.commands.allocate (helloCommand platform) := congrArg Ledger.commands ledgers
    rw [commands]
    exact .allocate _ _
  · exact .of_ledger ledgers

theorem sendSubscription_keeps {client after : WebOSTVServiceSocketClient}
    {command : Ref ServiceCommand} {type : ServiceSubscriptionType} {callId : Option Nat}
    (taken : sendSubscription platform client command type = some (after, callId)) :
    Keeps view kept client.commands after.commands := by
  have same : after.commands = client.commands := by
    rcases sendSubscription_cases taken with
      ⟨uid, key, url, _, ⟨_, text, sent⟩ | ⟨_, _, text, sent⟩ | ⟨_, _, sent⟩⟩
    · rw [sent]
      exact congrArg Ledger.commands (sendStringOverSocket_ledger _ text)
    · rw [sent]
      exact congrArg Ledger.commands (sendStringOverSocket_ledger _ text)
    · rw [sent]
      rfl
  exact .of_eq same

theorem subscribe_keeps (lasting : ServiceCommand.Lasting view)
    {client after : WebOSTVServiceSocketClient} {command : Ref ServiceCommand}
    (taken : subscribe platform client command = some after) :
    Keeps view kept client.commands after.commands := by
  rcases toObject_cases taken with ⟨_, same⟩ | ⟨_, subscribed⟩
  · exact .of_eq (congrArg commands same)
  · rcases Option.map_eq_some_iff.mp subscribed with ⟨⟨sent, callId⟩, sending, equal⟩
    subst equal
    exact (sendSubscription_keeps sending).trans
      (.modify _ _ (.inr (lasting.didSubscribe callId)))

theorem unsubscribe_keeps (lasting : ServiceCommand.Lasting view)
    {client after : WebOSTVServiceSocketClient} {command : Ref ServiceCommand}
    (taken : unsubscribe platform client command = some after) :
    Keeps view kept client.commands after.commands := by
  rcases toObject_cases taken with ⟨_, same⟩ | ⟨_, unsubscribed⟩
  · exact .of_eq (congrArg commands same)
  · rcases Option.map_eq_some_iff.mp unsubscribed with ⟨⟨sent, callId⟩, sending, equal⟩
    subst equal
    exact (sendSubscription_keeps sending).trans
      (.modify _ _ (.inr (lasting.didUnsubscribe callId)))

theorem addBlocks_keeps (client : WebOSTVServiceSocketClient)
    {subscription : Ref ServiceCommand} (success failure : Option UserBlock)
    (unseen : subscription ≠ kept ∨ ServiceCommand.Blind view) :
    Keeps view kept client.commands
      (client.addBlocks subscription success failure).commands :=
  .modify _ _ (unseen.imp_right fun blind object => blind object success failure)

theorem subscriptionFor_keeps (client : WebOSTVServiceSocketClient) (url : String)
    (payload : Option JSON.Fields) :
    Keeps view kept client.commands
      (subscriptionFor platform client url payload).1.commands := by
  simp only [subscriptionFor]
  cases client.subscribed.lookup (subscriptionReferenceForURL platform url payload) with
  | none => exact .allocate _ _
  | some subscription => exact .of_eq rfl

/-- Once it has its subscription, `addSubscribe:` only adds to it. -/
theorem addSubscribe_keeps (lasting : ServiceCommand.Lasting view)
    {client after : WebOSTVServiceSocketClient} {url : String}
    {payload : Option JSON.Fields} {success failure : Option UserBlock}
    (unseen : (subscriptionFor platform client url payload).2 ≠ kept ∨
      ServiceCommand.Blind view)
    (taken : addSubscribe platform client url payload success failure = some after) :
    Keeps view kept (subscriptionFor platform client url payload).1.commands
      after.commands := by
  simp only [addSubscribe] at taken
  have added := addBlocks_keeps (subscriptionFor platform client url payload).1
    success failure unseen
  split_ifs at taken with subscribed
  · cases taken
    exact added
  · exact added.trans (subscribe_keeps lasting taken)

theorem subscribeAll_keeps (lasting : ServiceCommand.Lasting view)
    {client after : WebOSTVServiceSocketClient} {subscriptions : List (Ref ServiceCommand)}
    (taken : subscribeAll platform client subscriptions = some after) :
    Keeps view kept client.commands after.commands := by
  induction subscriptions generalizing client with
  | nil =>
      cases taken
      exact .of_eq rfl
  | cons subscription rest induction =>
      rcases Option.bind_eq_some_iff.mp taken with ⟨next, first, later⟩
      exact (subscribe_keeps lasting first).trans (induction later)

/-! ## The main queue -/

theorem registerWithTv_keeps (platform : Platform) (client : WebOSTVServiceSocketClient) :
    Keeps view kept client.commands (registerWithTv platform client).commands :=
  .allocate client.commands registerCommand

theorem registerComplete_keeps (lasting : ServiceCommand.Lasting view)
    {client after : WebOSTVServiceSocketClient} {response : Option JSON}
    (taken : registerComplete platform client response = some after) :
    Keeps view kept client.commands after.commands := by
  rcases registerComplete_frame taken with ⟨service, delegateCalls, observes, saved⟩
  rcases flushCommandQueue_frame { client with
    service
    delegateCalls
    observesAppState := observes } with ⟨socketCalls, flushed⟩
  rw [flushed] at saved
  unfold registerComplete.resubscribeSaved at saved
  split_ifs at saved with nothing
  · cases saved
    exact .of_eq rfl
  · rcases Option.map_eq_some_iff.mp saved with ⟨sent, sending, equal⟩
    subst equal
    have keeps : Keeps view kept _ sent.commands := subscribeAll_keeps lasting sending
    exact keeps

theorem helloComplete_keeps {client after : WebOSTVServiceSocketClient}
    {response : Option JSON}
    (taken : helloComplete platform client response = some after) :
    Keeps view kept client.commands after.commands := by
  unfold helloComplete at taken
  cases paired : client.service.serviceConfig.uuid with
  | none =>
      simp only [paired, Option.bind_eq_bind, Option.bind_eq_some_iff] at taken
      rcases taken with ⟨deviceUUID, _, equal⟩
      cases equal
      have keeps : Keeps view kept client.commands (registerWithTv platform { client with
          service := client.service.setUUID (deviceUUID.bind JSON.string?) }).commands :=
        registerWithTv_keeps platform _
      exact keeps
  | some uuid =>
      simp only [paired, Option.bind_eq_bind, Option.bind_eq_some_iff] at taken
      rcases taken with ⟨_, _, deviceUUID, _, registered⟩
      split_ifs at registered with same
      · cases registered
        exact registerWithTv_keeps platform client
      · cases registered
        have same : (client.rejectImpostor platform).ledger = client.ledger :=
          (disconnectWithError_frame _ _).1
        exact (Keeps.of_ledger same).trans (registerWithTv_keeps platform _)

theorem runFailed_keeps {client after : WebOSTVServiceSocketClient}
    {command : Ref ServiceCommand} {error : NSError}
    (taken : runFailed platform client command error = some after) :
    Keeps view kept client.commands after.commands := by
  rcases runFailed_cases taken with ⟨blocks, _, ran⟩ | ⟨_, ran⟩ | ⟨_, ran⟩
  · rw [ran]
    exact .of_eq rfl
  · rw [ran]
    exact .of_ledger (disconnectWithError_frame _ _).1
  · rw [ran]
    exact .of_ledger (registerFailed_ledger client error)

theorem runBlock_keeps (lasting : ServiceCommand.Lasting view)
    {client after : WebOSTVServiceSocketClient} {block : MainBlock}
    (taken : runBlock platform client block = some after) :
    Keeps view kept client.commands after.commands := by
  rcases runBlock_cases taken with ⟨command, response, rfl, completed⟩ |
    ⟨command, error, rfl, failed⟩ | ⟨command, error, ran, rfl, failed, rfl⟩
  · rcases runComplete_cases completed with ⟨blocks, _, ran⟩ | ⟨_, greeted⟩ | ⟨_, registered⟩
    · rw [ran]
      exact .of_eq rfl
    · exact helloComplete_keeps greeted
    · exact registerComplete_keeps lasting registered
  · exact runFailed_keeps failed
  · have keeps : Keeps view kept client.commands ran.commands := runFailed_keeps failed
    exact keeps

theorem runNext_keeps (lasting : ServiceCommand.Lasting view)
    {client after : WebOSTVServiceSocketClient}
    (taken : runNext platform client = some after) :
    Keeps view kept client.commands after.commands := by
  rcases runNext_cases taken with ⟨_, rfl⟩ | ⟨block, rest, _, run⟩
  · exact .of_eq rfl
  · have keeps : Keeps view kept ({ client with mainQueue := rest } :
        WebOSTVServiceSocketClient).commands after.commands := runBlock_keeps lasting run
    exact keeps

/-! ## Every step -/

theorem toSubscription_keeps {client after : WebOSTVServiceSocketClient}
    {command : Ref ServiceCommand}
    {act : WebOSTVServiceSocketClient → Option WebOSTVServiceSocketClient}
    (taken : client.toSubscription command act = some after)
    (keeps : act client = some after → Keeps view kept client.commands after.commands) :
    Keeps view kept client.commands after.commands := by
  rcases toSubscription_cases taken with ⟨_, same⟩ | ⟨_, understood⟩
  · exact .of_eq (congrArg commands same)
  · exact keeps understood

/-- What added blocks do not change, or no event adds to, every step keeps. -/
theorem step_keeps (lasting : ServiceCommand.Lasting view)
    {client after : WebOSTVServiceSocketClient} {event : SocketClientEvent}
    (unseen : client.addsTo platform kept event = false ∨ ServiceCommand.Blind view)
    (taken : step platform client event = some after) :
    Keeps view kept client.commands after.commands := by
  cases event with
  | createCommand target payload complete error =>
      cases taken
      exact .allocate _ _
  | createSubscription target payload callId =>
      cases taken
      exact .allocate _ _
  | addSuccess command success =>
      refine toSubscription_keeps taken fun added => ?_
      cases added
      exact addBlocks_keeps client (some success) none
        (unseen.imp_left of_decide_eq_false)
  | addFailure command failure =>
      refine toSubscription_keeps taken fun added => ?_
      cases added
      exact addBlocks_keeps client none (some failure)
        (unseen.imp_left of_decide_eq_false)
  | send command =>
      rcases step_send_cases taken with ⟨_, rfl⟩ | ⟨_, rfl⟩
      · exact .of_eq rfl
      · exact .of_eq (congrArg Ledger.commands (sendStringOverSocket_ledger _ _))
  | subscribe command => exact toSubscription_keeps taken (subscribe_keeps lasting)
  | unsubscribe command => exact toSubscription_keeps taken (unsubscribe_keeps lasting)
  | addSubscribe url payload success failure =>
      exact (subscriptionFor_keeps client url payload).trans
        (addSubscribe_keeps lasting (unseen.imp_left of_decide_eq_false) taken)
  | connect =>
      cases taken
      exact openSocket_keeps client
  | disconnect error =>
      cases taken
      exact .of_ledger (disconnectWithError_frame _ _).1
  | appDidEnterBackground =>
      cases taken
      split_ifs with observes
      · exact .of_ledger (hAppDidEnterBackground_ledger client)
      · exact .of_eq rfl
  | appDidBecomeActive =>
      cases taken
      split_ifs with observes
      · unfold hAppDidBecomeActive
        split_ifs with wakes
        · have keeps : Keeps view kept client.commands (openSocket platform client).commands :=
            openSocket_keeps client
          exact keeps
        · exact .of_eq rfl
      · exact .of_eq rfl
  | sendString payload =>
      cases taken
      exact .of_ledger (sendStringOverSocket_ledger client payload)
  | sendDictionary payload =>
      cases taken
      exact .of_ledger (sendStringOverSocket_ledger client _)
  | killSubscribe url payload =>
      cases taken
      exact .of_eq rfl
  | serviceChanged service =>
      cases taken
      exact .of_eq rfl
  | setShouldDisconnectOnBackground value =>
      cases taken
      exact .of_eq rfl
  | readyStateChanged readyState =>
      cases taken
      exact .of_eq rfl
  | didOpen =>
      rcases step_didOpen_cases taken with rfl | ⟨_, rfl⟩
      · exact .of_eq rfl
      · exact .allocate client.commands (helloCommand platform)
  | didClose reason wasClean =>
      rcases step_didClose taken with same | ⟨_, same⟩
      · exact .of_ledger same
      · exact .of_eq (congrArg Ledger.commands same)
  | didFail error =>
      rcases step_didFail taken with same | ⟨intError, same | same⟩
      · exact .of_ledger same
      · exact .of_eq (congrArg Ledger.commands same)
      · have commands : after.commands = client.commands.allocate (helloCommand platform) :=
          congrArg Ledger.commands same
        rw [commands]
        exact .allocate _ _
  | didGetCertificates certs =>
      rcases step_didGetCertificates_cases taken with rfl | ⟨_, rfl⟩
      · exact .of_eq rfl
      · exact .of_eq rfl
  | didReceiveMessage decodeData shouldProcessMessage =>
      rcases step_didReceiveMessage taken with same | ⟨message, _, _, _, same⟩
      · exact .of_ledger same
      · exact .of_eq (congrArg Ledger.commands same)
  | runNext => exact runNext_keeps lasting taken

end WebOSTVServiceSocketClient

end ConnectSDK
