import ConnectSDK.Services.Helpers.KeptCommands

/-! # Callbacks of a cancelled subscription

Unsubscribing drops the lists of success and failure blocks. The composed callbacks
keep copies of them, and the subscription stays under its message id.
-/

namespace ConnectSDK

/-- The user's blocks in a callback property. -/
def Callback.userBlocks : Option Callback → List UserBlock
  | some (.user blocks) => blocks
  | _ => []

/-- The callbacks of a command. Only added blocks change them. -/
def ServiceCommand.callbacks (command : ServiceCommand) :
    Option Callback × Option Callback :=
  (command.callbackComplete, command.callbackError)

theorem ServiceCommand.lasting_callbacks : Lasting callbacks where
  didSubscribe _ _ := rfl
  didUnsubscribe _ _ := rfl

namespace WebOSTVServiceSocketClient

variable {platform : Platform}

/-- The callback that a block of the main queue runs. -/
def callbackOf (client : WebOSTVServiceSocketClient) : MainBlock → Option Callback
  | .complete command _ => (client.commands.read command).callbackComplete
  | .failed command _ => (client.commands.read command).callbackError
  | .rejected command _ => (client.commands.read command).callbackError

/-- The main queue is about to run blocks that a user added to the subscription. -/
def Invokes (client : WebOSTVServiceSocketClient)
    (subscription : Ref ServiceCommand) : Prop :=
  ∃ block ∈ client.mainQueue, block.command = subscription ∧
    Callback.userBlocks (client.callbackOf block) ≠ []

/-- The subscription has no blocks of users to call. -/
def HoldsNone (client : WebOSTVServiceSocketClient)
    (subscription : Ref ServiceCommand) : Prop :=
  Callback.userBlocks (client.commands.read subscription).callbackComplete = [] ∧
    Callback.userBlocks (client.commands.read subscription).callbackError = []

/-! ## Unsubscribing -/

/-- The client still has the subscription under its message id, with the callbacks it
had. -/
structure Unsubscribed (client after : WebOSTVServiceSocketClient)
    (subscription : Ref ServiceCommand) : Prop where
  listed : ∃ messageId, after.activeConnections.lookup (requestKey messageId) =
    some subscription
  sameQueue : after.mainQueue = client.mainQueue
  sameComplete : ∀ command, (after.commands.read command).callbackComplete =
    (client.commands.read command).callbackComplete
  sameError : ∀ command, (after.commands.read command).callbackError =
    (client.commands.read command).callbackError

theorem step_unsubscribe {client after : WebOSTVServiceSocketClient}
    {subscription : Ref ServiceCommand} (allocated : client.commands.Allocated subscription)
    (taken : step platform client (.unsubscribe subscription) = some after) :
    Unsubscribed client after subscription := by
  have reached : ∃ sent callId,
      sendSubscription platform client subscription .unsubscribe = some (sent, callId) ∧
      sent.modifyCommand subscription (ServiceCommand.didUnsubscribe callId) = after := by
    rcases toSubscription_cases taken with ⟨absent, _⟩ | ⟨_, unsubscribed⟩
    · exact absurd allocated absent
    · rcases toObject_cases unsubscribed with ⟨absent, _⟩ | ⟨_, noted⟩
      · exact absurd allocated absent
      · rcases Option.map_eq_some_iff.mp noted with ⟨⟨sent, callId⟩, sending, equal⟩
        exact ⟨sent, callId, sending, equal⟩
  rcases reached with ⟨sent, callId, sending, equal⟩
  subst equal
  rcases issued : client.issuedCallId (client.ledger.callId subscription) with
    ⟨numbered, messageId⟩
  have ledger := (sendSubscription_ledger issued sending).1
  rcases issuedCallId_frame client (client.ledger.callId subscription) with ⟨uid, frame⟩
  rw [issued] at frame
  subst frame
  have sameCommands : sent.commands = client.commands := congrArg Ledger.commands ledger
  have unchanged : ∀ command,
      ((sent.modifyCommand subscription (ServiceCommand.didUnsubscribe callId)).commands.read
          command).callbackComplete = (client.commands.read command).callbackComplete ∧
      ((sent.modifyCommand subscription (ServiceCommand.didUnsubscribe callId)).commands.read
          command).callbackError = (client.commands.read command).callbackError := by
    intro command
    by_cases same : command = subscription
    · rw [same, modifyCommand, Heap.read_modify_self, sameCommands]
      exact ⟨rfl, rfl⟩
    · rw [modifyCommand, Heap.read_modify_of_ne same, sameCommands]
      exact ⟨rfl, rfl⟩
  refine ⟨⟨messageId, ?_⟩, ?_, fun command => (unchanged command).1,
    fun command => (unchanged command).2⟩
  · have table : sent.activeConnections =
        client.activeConnections.insert (requestKey messageId) subscription :=
      congrArg Ledger.activeConnections ledger
    rw [modifyCommand, table, AList.lookup_insert]
  · exact congrArg Ledger.mainQueue ledger

/-! ## Later messages -/

/-- A message that does not tell about a registration is understood, and puts its
callbacks on the main queue. -/
theorem step_message {client : WebOSTVServiceSocketClient} {decodeData : Option JSON}
    {message : IncomingMessage} (connected : client.socket.isSome = true)
    (read : readMessage decodeData = some message)
    (plain : message.type ≠ some "registered") :
    ∃ later, step platform client (.didReceiveMessage decodeData true) = some later ∧
      later.commands = client.commands ∧
      later.mainQueue = client.mainQueue ++
        messageBlocks platform client decodeData message := by
  have kept : client.refuses true = false := Bool.and_false _
  have answered : ∀ command, ∃ received, (if message.type = some "error" then
      some (client.dispatchOnMain
        (client.rejection platform decodeData message.comId command))
      else client.receiveAnswer message command) = some received := by
    intro command
    by_cases error : message.type = some "error"
    · exact ⟨_, if_pos error⟩
    · rw [if_neg error, receiveAnswer, if_neg plain]
      split_ifs <;> exact ⟨_, rfl⟩
  have understood : ∃ later, didReceiveMessage platform client decodeData true =
      some later := by
    rw [didReceiveMessage, kept, read]
    rcases answered (client.activeConnections.lookup (connectionKey platform message)) with
      ⟨received, receiving⟩
    exact ⟨_, congrArg (Option.map _) receiving⟩
  rcases understood with ⟨later, received⟩
  rcases didReceiveMessage_ledger kept received with ⟨other, readOther, ledger⟩
  cases read.symm.trans readOther
  refine ⟨later, ?_, congrArg Ledger.commands ledger, congrArg Ledger.mainQueue ledger⟩
  rw [step, withSocket, if_pos connected]
  exact received

/-- The subscription is called back by an answer with its message id. -/
theorem answer_invokes {client : WebOSTVServiceSocketClient} {messageId : Nat}
    {subscription : Ref ServiceCommand} (connected : client.socket.isSome = true)
    (listed : client.activeConnections.lookup (requestKey messageId) = some subscription)
    (holds :
      Callback.userBlocks (client.commands.read subscription).callbackComplete ≠ []) :
    ∃ decodeData later, step platform client (.didReceiveMessage decodeData true) =
      some later ∧ later.Invokes subscription := by
  let message : IncomingMessage :=
    { comId := some (.string (toString messageId)), type := none, payload := none }
  have read : readMessage (some (.object [("id", .string (toString messageId))])) =
      some message := rfl
  have under : commandUnder platform client message = some subscription := listed
  have set : (client.commands.read subscription).callbackComplete.isSome = true := by
    cases held : (client.commands.read subscription).callbackComplete with
    | none => exact absurd (by rw [held]; rfl) holds
    | some callback => rfl
  have blocks : messageBlocks platform client
      (some (.object [("id", .string (toString messageId))])) message =
        [.complete subscription none] := by
    rw [messageBlocks, under]
    simp [message, completion, set]
  rcases step_message connected read (by simp [message]) with
    ⟨later, taken, sameCommands, queue⟩
  refine ⟨_, later, taken, .complete subscription none, ?_, rfl, ?_⟩
  · rw [queue, blocks]
    exact List.mem_append_right _ List.mem_cons_self
  · rw [callbackOf, sameCommands]
    exact holds

/-- It is called back by an error with its message id. -/
theorem error_invokes {client : WebOSTVServiceSocketClient} {messageId : Nat}
    {subscription : Ref ServiceCommand} (connected : client.socket.isSome = true)
    (listed : client.activeConnections.lookup (requestKey messageId) = some subscription)
    (holds :
      Callback.userBlocks (client.commands.read subscription).callbackError ≠ []) :
    ∃ decodeData later, step platform client (.didReceiveMessage decodeData true) =
      some later ∧ later.Invokes subscription := by
  let error : JSON := .object [("id", .string (toString messageId)),
    ("type", .string "error")]
  let message : IncomingMessage := {
    comId := some (.string (toString messageId))
    type := some "error"
    payload := none }
  have read : readMessage (some error) = some message := rfl
  have under : commandUnder platform client message = some subscription := listed
  have set : (client.commands.read subscription).callbackError.isSome = true := by
    cases held : (client.commands.read subscription).callbackError with
    | none => exact absurd (by rw [held]; rfl) holds
    | some callback => rfl
  have blocks : messageBlocks platform client (some error) message =
      [.rejected subscription (generateError platform .tvError (some error))] := by
    rw [messageBlocks, under]
    simp [message, rejection, set]
  rcases step_message connected read (by simp [message]) with
    ⟨later, taken, sameCommands, queue⟩
  refine ⟨_, later, taken,
    .rejected subscription (generateError platform .tvError (some error)), ?_, rfl, ?_⟩
  · rw [queue, blocks]
    exact List.mem_append_right _ List.mem_cons_self
  · rw [callbackOf, sameCommands]
    exact holds

theorem HoldsNone.not_invokes {client : WebOSTVServiceSocketClient}
    {subscription : Ref ServiceCommand} (none : client.HoldsNone subscription) :
    ¬ client.Invokes subscription := by
  rintro ⟨block, _, own, holds⟩
  apply holds
  cases block with
  | complete command response =>
      have same : command = subscription := own
      rw [callbackOf, same]
      exact none.1
  | failed command error =>
      have same : command = subscription := own
      rw [callbackOf, same]
      exact none.2
  | rejected command error =>
      have same : command = subscription := own
      rw [callbackOf, same]
      exact none.2

/-- Nothing but added blocks gives a subscription something to call. -/
theorem HoldsNone.step {client after : WebOSTVServiceSocketClient}
    {subscription : Ref ServiceCommand} {event : SocketClientEvent}
    (none : client.HoldsNone subscription)
    (allocated : client.commands.Allocated subscription)
    (quiet : client.addsTo platform subscription event = false)
    (taken : step platform client event = some after) :
    after.commands.Allocated subscription ∧ after.HoldsNone subscription := by
  rcases step_keeps ServiceCommand.lasting_callbacks (.inl quiet) taken allocated with
    ⟨kept, same⟩
  have sameComplete : (after.commands.read subscription).callbackComplete =
      (client.commands.read subscription).callbackComplete := congrArg Prod.fst same
  have sameError : (after.commands.read subscription).callbackError =
      (client.commands.read subscription).callbackError := congrArg Prod.snd same
  refine ⟨kept, ?_⟩
  rw [HoldsNone, sameComplete, sameError]
  exact none

theorem HoldsNone.runFrom {client later : WebOSTVServiceSocketClient}
    {subscription : Ref ServiceCommand} {events : List SocketClientEvent}
    (none : client.HoldsNone subscription)
    (allocated : client.commands.Allocated subscription)
    (quiet : EveryStep (WebOSTVServiceSocketClient.step platform)
      (fun client event => client.addsTo platform subscription event = false) client events)
    (reached : ConnectSDK.runFrom (WebOSTVServiceSocketClient.step platform) client events =
      some later) : later.HoldsNone subscription := by
  let Silent := fun client : WebOSTVServiceSocketClient =>
    client.commands.Allocated subscription ∧ client.HoldsNone subscription
  have preserved : ∀ (client : WebOSTVServiceSocketClient) (event : SocketClientEvent)
      (after : WebOSTVServiceSocketClient), Silent client →
      client.addsTo platform subscription event = false →
      WebOSTVServiceSocketClient.step platform client event = some after → Silent after :=
    fun _ _ _ silent quiet taken => silent.2.step silent.1 quiet taken
  exact (runFrom_invariant preserved ⟨allocated, none⟩ quiet reached).2

/-! ## A connection to hear from -/

/-- Opening a connection for a client that has none. -/
def reconnection : List SocketClientEvent :=
  [.connect, .readyStateChanged .open, .didOpen]

/-- The subscription stays under its message id in a new connection. -/
theorem reconnection_listed {client : WebOSTVServiceSocketClient}
    {subscription : Ref ServiceCommand} {messageId : Nat}
    (offline : client.socket = none)
    (allocated : client.commands.Allocated subscription)
    (listed : client.activeConnections.lookup (requestKey messageId) = some subscription) :
    ∃ later, ConnectSDK.runFrom (step platform) client reconnection = some later ∧
      later.socket.isSome = true ∧
      later.activeConnections.lookup (requestKey messageId) = some subscription ∧
      later.commands.read subscription = client.commands.read subscription := by
  have connected : step platform client .connect = some (createSocket platform client) := by
    rw [step, openSocket, offline]
    rfl
  let opened : WebOSTVServiceSocketClient := { createSocket platform client with
    socket := (createSocket platform client).socket.map (changeReadyState .open) }
  have greeted : step platform opened .didOpen = some (webSocketDidOpen platform opened) :=
    rfl
  have ledger : (webSocketDidOpen platform opened).ledger = client.ledger.greet platform :=
    rfl
  have table : (webSocketDidOpen platform opened).activeConnections =
      (client.ledger.greet platform).activeConnections :=
    congrArg Ledger.activeConnections ledger
  have commands : (webSocketDidOpen platform opened).commands =
      client.commands.allocate (helloCommand platform) := congrArg Ledger.commands ledger
  refine ⟨webSocketDidOpen platform opened, ?_, rfl, ?_, ?_⟩
  · have changed : step platform (createSocket platform client) (.readyStateChanged .open) =
        some opened := rfl
    simp only [reconnection, ConnectSDK.runFrom, connected, changed, greeted]
  · rw [table, Ledger.lookup_greet, if_neg (requestKey_ne_hello messageId)]
    exact listed
  · rw [commands, allocated.read_allocate]

/-- A message with its id calls the subscription back, after a reconnection if the client
has no socket. -/
theorem Unsubscribed.called {client after : WebOSTVServiceSocketClient}
    {subscription : Ref ServiceCommand}
    (unsubscribed : Unsubscribed client after subscription)
    (allocated : after.commands.Allocated subscription)
    (holds : ¬ after.HoldsNone subscription) :
    ∃ events later, EveryStep (step platform)
        (fun client event => client.addsTo platform subscription event = false) after events ∧
      ConnectSDK.runFrom (step platform) after events = some later ∧
      later.Invokes subscription := by
  rcases unsubscribed.listed with ⟨messageId, listed⟩
  have answered : ∀ current : WebOSTVServiceSocketClient, current.socket.isSome = true →
      current.activeConnections.lookup (requestKey messageId) = some subscription →
      current.commands.read subscription = after.commands.read subscription →
      ∃ decodeData later, step platform current (.didReceiveMessage decodeData true) =
        some later ∧ later.Invokes subscription := by
    intro current isSome under same
    by_cases complete : Callback.userBlocks
        (after.commands.read subscription).callbackComplete = []
    · refine error_invokes isSome under ?_
      rw [same]
      exact fun error => holds ⟨complete, error⟩
    · refine answer_invokes isSome under ?_
      rw [same]
      exact complete
  cases connected : after.socket with
  | none =>
      rcases @reconnection_listed platform _ _ _ connected allocated listed with
        ⟨current, reached, isSome, under, same⟩
      rcases answered current isSome under same with ⟨decodeData, later, received, invokes⟩
      refine ⟨reconnection ++ [.didReceiveMessage decodeData true], later, ?_, ?_, invokes⟩
      · have quiet : ∀ event ∈ reconnection ++ [.didReceiveMessage decodeData true],
            ∀ client : WebOSTVServiceSocketClient,
              client.addsTo platform subscription event = false := by
          intro event member client
          simp only [reconnection, List.cons_append, List.nil_append, List.mem_cons,
            List.not_mem_nil, or_false] at member
          rcases member with rfl | rfl | rfl | rfl <;> rfl
        exact (everyStep_of_mem quiet).mono fun client _ quiet => quiet client
      · rw [runFrom_append, reached]
        simp only [Option.bind_some, ConnectSDK.runFrom, received]
  | some socket =>
      have isSome : after.socket.isSome = true := by rw [connected]; rfl
      rcases answered after isSome listed rfl with ⟨decodeData, later, received, invokes⟩
      refine ⟨[.didReceiveMessage decodeData true], later, ⟨rfl, ?_⟩, ?_, invokes⟩
      · rw [received]
        trivial
      · simp only [ConnectSDK.runFrom, received]

/-- Exactly when nothing that happens after `unsubscribe` has the blocks of the subscription
run, as long as none are added again: it never had any. -/
theorem unsubscribe_silences_iff (platform : Platform)
    (client after : WebOSTVServiceSocketClient) (subscription : Ref ServiceCommand)
    (allocated : client.commands.Allocated subscription)
    (taken : step platform client (.unsubscribe subscription) = some after) :
    (∀ events later, EveryStep (step platform)
        (fun client event => client.addsTo platform subscription event = false) after events →
      runFrom (step platform) after events = some later →
      ¬ later.Invokes subscription) ↔
    client.HoldsNone subscription := by
  have unsubscribed := step_unsubscribe allocated taken
  have sameHolding : after.HoldsNone subscription ↔ client.HoldsNone subscription := by
    rw [HoldsNone, HoldsNone, unsubscribed.sameComplete, unsubscribed.sameError]
  have stays : after.commands.Allocated subscription :=
    (step_keeps ServiceCommand.lasting_callbacks (.inl rfl) taken allocated).1
  constructor
  · intro silent
    by_contra holds
    rcases @Unsubscribed.called platform _ _ _ unsubscribed stays
        (fun none => holds (sameHolding.mp none)) with ⟨events, later, quiet, reached, invokes⟩
    exact silent events later quiet reached invokes
  · intro none events later quiet reached
    exact ((sameHolding.mpr none).runFrom stays quiet reached).not_invokes

/-! ## A subscription to the volume -/

def silentPlatform : Platform where
  writeToJSON := fun _ => ""
  collectionDescription := fun _ => ""

def livingRoom : WebOSTVService where
  serviceConfig := {}
  serviceDescription := { address := some "10.0.0.7", port := 3001 }

/-- A subscription on an open connection. Object `0` is the hello command, and the
subscription is object `1` with the message id `2`. -/
def volumeSubscribed (success : Option UserBlock) : List SocketClientEvent :=
  [.connect, .readyStateChanged .open, .didOpen,
    .addSubscribe "ssap://audio/getVolume" none success none]

/-- A subscription with a block is not silent: the block can still run. -/
theorem unsubscribe_silences_iff_volume :
    ∃ client after, runFrom (step silentPlatform) (initWithService livingRoom none)
        (volumeSubscribed (some 7)) = some client ∧
      step silentPlatform client (.unsubscribe ⟨1⟩) = some after ∧
      ¬ ∀ events later, EveryStep (step silentPlatform)
          (fun client event => client.addsTo silentPlatform ⟨1⟩ event = false) after events →
        runFrom (step silentPlatform) after events = some later →
        ¬ later.Invokes ⟨1⟩ := by
  let client := (runFrom (step silentPlatform) (initWithService livingRoom none)
    (volumeSubscribed (some 7))).get rfl
  refine ⟨client, _, rfl, rfl, fun silent => ?_⟩
  have none := (unsubscribe_silences_iff silentPlatform client _ ⟨1⟩ (Nat.lt_succ_self 1)
    rfl).mp silent
  cases none.1

/-- The television's reply to the unsubscribe request runs the block that was
added before. -/
theorem unsubscribed_block_run :
    ∃ after later ran, runFrom (step silentPlatform) (initWithService livingRoom none)
        (volumeSubscribed (some 7) ++ [.unsubscribe ⟨1⟩]) = some after ∧
      step silentPlatform after
        (.didReceiveMessage (some (.object [("id", .number 2)])) true) = some later ∧
      later.Invokes ⟨1⟩ ∧
      step silentPlatform later .runNext = some ran ∧
      after.replies = [] ∧ ran.replies = [([7], .success none)] := by
  refine ⟨_, _, _, rfl, rfl, ?_, rfl, rfl, rfl⟩
  exact ⟨.complete ⟨1⟩ none, List.mem_cons_self, rfl, by decide⟩

end WebOSTVServiceSocketClient

end ConnectSDK
