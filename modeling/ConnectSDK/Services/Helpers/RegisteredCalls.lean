import ConnectSDK.Services.Helpers.SocketClientSteps

/-! # Which command a message calls back

An observer notes under which ids commands were sent, which commands were called
back, and which got an answer about pairing. A message calls back the command
that was sent under its id, and each sending is called back at most once.
-/

namespace ConnectSDK

open WebOSTVServiceSocketClient

namespace WebOSTVServiceSocketClient.Ledger

/-- The sendings of a step, each with the connection key of the id it was sent
with. A hello message stands in the table under a key of its own. -/
def registrations (before after : Ledger) : List (String × Ref ServiceCommand) :=
  (Dictionary.newEntries before.activeConnections after.activeConnections).map
    fun entry => (if entry.1 = "hello" then requestKey after.uid else entry.1, entry.2)

/-- What all sendings have in common: every id was issued and went to one command,
which the command under it in the table and the subscription with that call id
are. -/
structure Registry (ledger : Ledger) (registered : List (String × Ref ServiceCommand)) :
    Prop where
  numbered : ledger.Numbered
  issued : ∀ key command, (key, command) ∈ registered →
    ∃ messageId ≤ ledger.uid, key = requestKey messageId
  unique : ∀ key command other, (key, command) ∈ registered →
    (key, other) ∈ registered → command = other
  own : ∀ command messageId other, ledger.callId command = some messageId →
    (requestKey messageId, other) ∈ registered → other = command
  present : ∀ messageId command,
    ledger.activeConnections.lookup (requestKey messageId) = some command →
    (requestKey messageId, command) ∈ registered

/-- A new hello message has the last id to itself. -/
def HelloAlone (before after : Ledger) : Prop :=
  ∀ command, after.activeConnections.lookup "hello" = some command →
    before.activeConnections.lookup "hello" ≠ some command →
    before.uid < after.uid ∧
      after.activeConnections.lookup (requestKey after.uid) = none ∧
      ∀ other, after.callId other ≠ some after.uid

theorem registrations_cases {before after : Ledger} {key : String}
    {command : Ref ServiceCommand} (advance : Advance before after)
    (member : (key, command) ∈ registrations before after) :
    (key = requestKey after.uid ∧
        after.activeConnections.lookup "hello" = some command ∧
        before.activeConnections.lookup "hello" ≠ some command) ∨
      ∃ messageId ≤ after.uid, key = requestKey messageId ∧
        after.activeConnections.lookup (requestKey messageId) = some command ∧
        (before.callId command = some messageId ∨ before.uid < messageId) := by
  rcases List.mem_map.mp member with ⟨⟨held, other⟩, new, equal⟩
  rcases Dictionary.mem_newEntries.mp new with ⟨found, absent⟩
  by_cases hello : held = "hello"
  · subst hello
    rw [if_pos rfl] at equal
    cases equal
    exact .inl ⟨rfl, found, absent⟩
  · rw [if_neg hello] at equal
    cases equal
    rcases advance.entry held other found with same | isHello | ⟨messageId, place, origin⟩
    · exact absurd same absent
    · exact absurd isHello hello
    · refine .inr ⟨messageId, ?_, place, place ▸ found, origin⟩
      rcases advance.numbered.issuedKey held other found with
        isHello | ⟨issued, bounded, equal⟩
      · exact absurd isHello hello
      · rw [requestKey_injective (place.symm.trans equal)]
        exact bounded

theorem Registry.advance {before after : Ledger}
    {registered : List (String × Ref ServiceCommand)}
    (registry : before.Registry registered) (advance : Advance before after)
    (alone : HelloAlone before after) :
    after.Registry (registered ++ registrations before after) where
  numbered := advance.numbered
  issued key command member := by
    rcases List.mem_append.mp member with old | new
    · rcases registry.issued key command old with ⟨messageId, bounded, equal⟩
      exact ⟨messageId, Nat.le_trans bounded advance.later, equal⟩
    · rcases registrations_cases advance new with
        ⟨equal, _, _⟩ | ⟨messageId, bounded, equal, _, _⟩
      · exact ⟨after.uid, Nat.le_refl _, equal⟩
      · exact ⟨messageId, bounded, equal⟩
  unique := by
    have mixed : ∀ key command other, (key, command) ∈ registered →
        (key, other) ∈ registrations before after → command = other := by
      intro key command other old new
      rcases registry.issued key command old with ⟨messageId, bounded, equal⟩
      rcases registrations_cases advance new with
        ⟨last, held, absent⟩ | ⟨sent, _, place, _, origin | fresh⟩
      · have same := requestKey_injective (equal.symm.trans last)
        have later := (alone other held absent).1
        omega
      · have same := requestKey_injective (equal.symm.trans place)
        subst same
        subst equal
        exact registry.own other messageId command origin old
      · have same := requestKey_injective (equal.symm.trans place)
        omega
    intro key command other left right
    rcases List.mem_append.mp left with oldLeft | newLeft
    · rcases List.mem_append.mp right with oldRight | newRight
      · exact registry.unique key command other oldLeft oldRight
      · exact mixed key command other oldLeft newRight
    · rcases List.mem_append.mp right with oldRight | newRight
      · exact (mixed key other command oldRight newLeft).symm
      · rcases registrations_cases advance newLeft with
          ⟨last, held, absent⟩ | ⟨sent, _, place, found, _⟩
        · rcases registrations_cases advance newRight with
            ⟨_, heldRight, _⟩ | ⟨sentRight, _, placeRight, foundRight, _⟩
          · exact Option.some.inj (held.symm.trans heldRight)
          · have none := (alone command held absent).2.1
            rw [← requestKey_injective (last.symm.trans placeRight)] at foundRight
            cases none.symm.trans foundRight
        · rcases registrations_cases advance newRight with
            ⟨last, held, absent⟩ | ⟨sentRight, _, placeRight, foundRight, _⟩
          · have none := (alone other held absent).2.1
            rw [← requestKey_injective (last.symm.trans place)] at found
            cases none.symm.trans found
          · rw [requestKey_injective (place.symm.trans placeRight)] at found
            exact Option.some.inj (found.symm.trans foundRight)
  own command messageId other called member := by
    rcases List.mem_append.mp member with old | new
    · rcases advance.call command messageId called with before | fresh
      · exact registry.own command messageId other before old
      · rcases registry.issued _ _ old with ⟨issued, bounded, equal⟩
        have same := requestKey_injective equal
        omega
    · rcases registrations_cases advance new with
        ⟨last, held, absent⟩ | ⟨sent, _, place, found, _⟩
      · rw [requestKey_injective last] at called
        exact absurd called ((alone other held absent).2.2 command)
      · rw [← requestKey_injective place] at found
        exact advance.numbered.ownKey command messageId other called found
  present messageId command found := by
    by_cases same :
        before.activeConnections.lookup (requestKey messageId) = some command
    · exact List.mem_append_left _ (registry.present messageId command same)
    · refine List.mem_append_right _ (List.mem_map.mpr ⟨_,
        Dictionary.mem_newEntries.mpr ⟨found, same⟩, ?_⟩)
      rw [if_neg (requestKey_ne_hello messageId)]

theorem helloAlone_of_kept {before after : Ledger}
    (kept : ∀ command, after.activeConnections.lookup "hello" = some command →
      before.activeConnections.lookup "hello" = some command) :
    HelloAlone before after :=
  fun command held absent => absurd (kept command held) absent

theorem callId_greet (ledger : Ledger) (platform : Platform)
    (command : Ref ServiceCommand) (messageId : Nat)
    (called : (ledger.greet platform).callId command = some messageId) :
    ledger.callId command = some messageId := by
  have read : (ledger.greet platform).commands.read command =
      (ledger.commands.allocate (helloCommand platform)).read command := rfl
  rw [callId, read] at called
  by_cases fresh : command = ledger.commands.fresh
  · rw [fresh, Heap.read_allocate_fresh] at called
    cases called
  · rw [Heap.read_allocate_of_ne fresh] at called
    exact called

theorem greet_alone {ledger : Ledger} (numbered : ledger.Numbered)
    (platform : Platform) :
    ledger.uid < (ledger.greet platform).uid ∧
      (ledger.greet platform).activeConnections.lookup
        (requestKey (ledger.greet platform).uid) = none ∧
      ∀ other, (ledger.greet platform).callId other ≠
        some (ledger.greet platform).uid := by
  refine ⟨Nat.lt_succ_self _, ?_, ?_⟩
  · rw [lookup_greet, if_neg (requestKey_ne_hello _)]
    exact numbered.unissued (Nat.lt_succ_self _)
  · intro other called
    exact numbered.callId_ne_next (ledger.callId_greet platform other _ called) rfl

end WebOSTVServiceSocketClient.Ledger

namespace WebOSTVServiceSocketClient

open Ledger

variable {platform : Platform}

/-- Hello messages are sent alone. -/
theorem step_helloAlone {client after : WebOSTVServiceSocketClient}
    {event : SocketClientEvent} (numbered : client.ledger.Numbered)
    (unset : event.CreatesUnset) (taken : step platform client event = some after) :
    HelloAlone client.ledger after.ledger := by
  have unchanged : ∀ ledger : Ledger,
      ledger.activeConnections.lookup "hello" =
        client.activeConnections.lookup "hello" →
      HelloAlone client.ledger ledger :=
    fun ledger same => helloAlone_of_kept fun _ held => same ▸ held
  cases settles : event.settles with
  | false =>
      cases greeting : client.saysHello event with
      | true =>
          rw [step_greets greeting taken]
          exact fun _ _ _ => greet_alone numbered platform
      | false =>
          have grown := step_grows unset settles greeting taken
          apply unchanged
          rw [grown.hello]
          cases event <;> rfl
  | true =>
      cases event with
      | didClose reason wasClean =>
          rcases step_didClose taken with same | ⟨_, same⟩
          · rw [same]
            exact unchanged _ rfl
          · rw [same]
            exact helloAlone_of_kept fun _ held => nomatch held
      | didFail error =>
          rcases step_didFail taken with same | ⟨intError, same | same⟩
          · rw [same]
            exact unchanged _ rfl
          · rw [same]
            exact helloAlone_of_kept fun _ held => nomatch held
          · rw [same]
            exact fun _ _ _ =>
              greet_alone (numbered.cleared (client.failureBlocks intError)).numbered
                platform
      | didReceiveMessage decodeData shouldProcessMessage =>
          rcases step_didReceiveMessage taken with same | ⟨message, _, _, _, same⟩
          · rw [same]
            exact unchanged _ rfl
          · rw [same]
            refine helloAlone_of_kept fun command held => ?_
            rw [settled, Dictionary.lookup_eraseAll] at held
            split_ifs at held
            exact held
      | _ => cases settles

end WebOSTVServiceSocketClient

/-! ## The observer -/

/-- A client under observation: the sendings, the commands called back in order,
and the commands that got an answer about pairing. -/
structure CallLog where
  client : WebOSTVServiceSocketClient
  registered : List (String × Ref ServiceCommand) := []
  called : List (Ref ServiceCommand) := []
  paired : List (Ref ServiceCommand) := []

namespace CallLog

variable {platform : Platform}

/-- The command to which an event brings `payload.pairingType`. -/
def pairedBy (platform : Platform) (client : WebOSTVServiceSocketClient) :
    SocketClientEvent → List (Ref ServiceCommand)
  | .didReceiveMessage decodeData shouldProcessMessage =>
      match readMessage decodeData with
      | some message =>
          if client.socket.isSome && !client.refuses shouldProcessMessage &&
              isRegistrationResponse message.payload then
            (commandUnder platform client message).toList
          else []
      | none => []
  | _ => []

def step (platform : Platform) (log : CallLog) (event : SocketClientEvent) :
    Option CallLog :=
  (WebOSTVServiceSocketClient.step platform log.client event).map fun after => {
    client := after
    registered := log.registered ++
      Ledger.registrations log.client.ledger after.ledger
    called := log.called ++ (scheduled log.client after).map MainBlock.command
    paired := log.paired ++ pairedBy platform log.client event }

def start (service : WebOSTVService) (delegate : Option SocketClientDelegate) :
    CallLog where
  client := initWithService service delegate

/-- How often a command was sent. -/
def sendings (log : CallLog) (command : Ref ServiceCommand) : Nat :=
  (log.registered.map Prod.snd).count command

/-- How often a command stands in the table. -/
def pending (client : WebOSTVServiceSocketClient) (command : Ref ServiceCommand) : Nat :=
  client.activeConnections.values.count command

/-! ## Counting callbacks -/

/-- A step's callbacks do not outnumber the sendings that are no longer
pending. -/
def Counts (before after : WebOSTVServiceSocketClient) (command : Ref ServiceCommand) :
    Prop :=
  ((scheduled before after).map MainBlock.command).count command + pending after command ≤
    pending before command +
      ((Ledger.registrations before.ledger after.ledger).map Prod.snd).count command

theorem registrations_commands (before after : Ledger) :
    (Ledger.registrations before after).map Prod.snd =
      (Dictionary.newEntries before.activeConnections after.activeConnections).map
        Prod.snd := by
  simp [Ledger.registrations, Function.comp_def]

theorem pending_le (before after : WebOSTVServiceSocketClient)
    (command : Ref ServiceCommand) :
    pending after command ≤ pending before command +
      ((Ledger.registrations before.ledger after.ledger).map Prod.snd).count command := by
  rw [registrations_commands]
  exact Dictionary.count_le_newEntries _ _ command

/-- A step that schedules nothing. -/
theorem counts_of_unscheduled {before after : WebOSTVServiceSocketClient}
    (unscheduled : after.mainQueue.length ≤ before.mainQueue.length)
    (command : Ref ServiceCommand) : Counts before after command := by
  have nothing : scheduled before after = [] := List.drop_eq_nil_of_le unscheduled
  rw [Counts, nothing, List.map_nil, List.count_nil, Nat.zero_add]
  exact pending_le before after command

/-- When all that stands in the table is new, it was all sent in this step. -/
theorem pending_le_of_new {before after : WebOSTVServiceSocketClient}
    (new : ∀ key command, after.activeConnections.lookup key = some command →
      before.activeConnections.lookup key ≠ some command)
    (command : Ref ServiceCommand) :
    pending after command ≤
      ((Ledger.registrations before.ledger after.ledger).map Prod.snd).count command := by
  have same : Dictionary.newEntries before.activeConnections after.activeConnections =
      Dictionary.newEntries ∅ after.activeConnections := by
    unfold Dictionary.newEntries
    congr 1
    apply List.filter_congr
    intro entry member
    have held := Dictionary.mem_entries_iff.mp member
    rw [decide_eq_true (new entry.1 entry.2 held)]
    exact (decide_eq_true (by rw [AList.lookup_empty]; exact nofun)).symm
  rw [registrations_commands]
  have counted := Dictionary.count_le_newEntries ∅ after.activeConnections command
  have nothing : (Dictionary.values (∅ : Dictionary String (Ref ServiceCommand))).count
      command = 0 := rfl
  rw [nothing, Nat.zero_add, ← same] at counted
  exact counted

theorem counts_didFail {client after : WebOSTVServiceSocketClient} {intError : NSError}
    (numbered : client.ledger.Numbered)
    (failed : after.ledger = client.cleared (client.failureBlocks intError) ∨
      after.ledger = (client.cleared (client.failureBlocks intError)).greet platform)
    (command : Ref ServiceCommand) : Counts client after command := by
  have queue : after.mainQueue = client.mainQueue ++ client.failureBlocks intError := by
    rcases failed with same | same <;> exact congrArg Ledger.mainQueue same
  have scheduledCommands : (scheduled client after).map MainBlock.command =
      client.activeConnections.values.filter fun command =>
        (client.commands.read command).callbackError.isSome := by
    rw [scheduled_of_append queue, failureBlocks, List.map_map]
    exact List.map_id _
  have called : ((scheduled client after).map MainBlock.command).count command ≤
      pending client command := by
    rw [scheduledCommands]
    exact List.filter_sublist.count_le command
  have new : ∀ key other, after.activeConnections.lookup key = some other →
      client.activeConnections.lookup key ≠ some other := by
    intro key other held before
    rcases failed with same | same
    · have table : after.activeConnections = ∅ :=
        congrArg Ledger.activeConnections same
      rw [table] at held
      cases held
    · have table : after.activeConnections =
          AList.insert "hello" client.commands.fresh ∅ :=
        congrArg Ledger.activeConnections same
      rw [table, Dictionary.lookup_insert_eq] at held
      split_ifs at held
      · cases held
        exact (numbered.object key _ before).ne_fresh rfl
      · cases held
  have bounded := pending_le_of_new new command
  rw [Counts]
  omega

/-- At most one block, for the command under a key. -/
def SettlesKey (table : Dictionary String (Ref ServiceCommand)) (key : String)
    (blocks : List MainBlock) : Prop :=
  blocks = [] ∨ ∃ block, blocks = [block] ∧ table.lookup key = some block.command

theorem SettlesKey.count_le {table : Dictionary String (Ref ServiceCommand)}
    {key : String} {blocks : List MainBlock} (settles : SettlesKey table key blocks)
    (command : Ref ServiceCommand) :
    (blocks.map MainBlock.command).count command +
        (Dictionary.values (table.erase key)).count command ≤
      table.values.count command := by
  rcases settles with nothing | ⟨block, one, held⟩
  · rw [nothing, List.map_nil, List.count_nil, Nat.zero_add]
    exact Dictionary.count_erase_le table key command
  · rw [one, Dictionary.count_erase held command, List.map_singleton,
      List.count_singleton, Nat.add_comm]
    apply Nat.add_le_add_left
    by_cases same : block.command = command <;> simp [same]

theorem settlesKey_completion {client : WebOSTVServiceSocketClient}
    {table : Dictionary String (Ref ServiceCommand)} {key : String}
    {response : Option JSON} {command : Option (Ref ServiceCommand)}
    (held : table.lookup key = command) :
    SettlesKey table key (client.completion command response) := by
  cases command with
  | none => exact .inl rfl
  | some command =>
      simp only [completion]
      split_ifs
      · exact .inr ⟨_, rfl, held⟩
      · exact .inl rfl

theorem settlesKey_rejection {client : WebOSTVServiceSocketClient}
    {table : Dictionary String (Ref ServiceCommand)} {key : String}
    {decodeData comId : Option JSON} {command : Option (Ref ServiceCommand)}
    (held : table.lookup key = command) :
    SettlesKey table key (client.rejection platform decodeData comId command) := by
  cases comId with
  | none => exact .inl rfl
  | some identifier =>
      cases command with
      | none => exact .inl rfl
      | some command =>
          simp only [rejection]
          split_ifs
          · exact .inr ⟨_, rfl, held⟩
          · exact .inl rfl

/-- The blocks for the command under a message's id, and its key, which is taken
out of a table unless the message leaves it there. -/
theorem count_own_le {client : WebOSTVServiceSocketClient} {message : IncomingMessage}
    {command : Ref ServiceCommand} {table : Dictionary String (Ref ServiceCommand)}
    {blocks : List MainBlock}
    (settles : commandUnder platform client message = some command →
      client.leaveConnection message (some command) = false)
    (held : table.lookup (connectionKey platform message) =
      commandUnder platform client message)
    (own : SettlesKey table (connectionKey platform message) blocks) :
    (blocks.map MainBlock.command).count command +
      (Dictionary.values (Dictionary.eraseAll
        (if client.leaveConnection message (commandUnder platform client message) then []
        else [connectionKey platform message]) table)).count command ≤
      table.values.count command := by
  cases leave : client.leaveConnection message (commandUnder platform client message) with
  | false => exact own.count_le command
  | true =>
      have absent : (blocks.map MainBlock.command).count command = 0 := by
        rcases own with nothing | ⟨block, one, found⟩
        · rw [nothing]
          rfl
        · rw [one, List.map_singleton, List.count_singleton]
          have different : block.command ≠ command := by
            intro same
            rw [held, same] at found
            rw [found] at leave
            cases leave.symm.trans (settles found)
          simp [different]
      rw [absent, Nat.zero_add]
      exact Nat.le_refl _

/-- A message calls back a command at most as often as it takes it out of the
table, if it does not leave the command there. -/
theorem count_messageBlocks_le {client : WebOSTVServiceSocketClient}
    {message : IncomingMessage} {command : Ref ServiceCommand}
    (decodeData : Option JSON)
    (settles : commandUnder platform client message = some command →
      client.leaveConnection message (some command) = false) :
    ((messageBlocks platform client decodeData message).map MainBlock.command).count
        command +
      (Dictionary.values (Dictionary.eraseAll (settledKeys platform client message)
        client.activeConnections)).count command ≤ pending client command := by
  unfold messageBlocks settledKeys
  by_cases error : message.type = some "error"
  · have noHello : message.type ≠ some "hello" := by
      rw [error]
      decide
    rw [if_pos error, if_neg noHello, List.nil_append]
    exact count_own_le settles rfl (settlesKey_rejection rfl)
  · rw [if_neg error]
    have ownBlocks : ∀ table : Dictionary String (Ref ServiceCommand),
        table.lookup (connectionKey platform message) =
          commandUnder platform client message →
        SettlesKey table (connectionKey platform message)
          (if message.comId.isSome then
            client.completion (commandUnder platform client message) message.payload
          else []) := by
      intro table held
      split_ifs
      · exact settlesKey_completion held
      · exact .inl rfl
    by_cases hello : message.type = some "hello"
    · rw [if_pos hello, if_pos hello, List.map_append, List.count_append]
      have greeted : SettlesKey client.activeConnections "hello"
          (client.completion (client.activeConnections.lookup "hello") message.payload) :=
        settlesKey_completion rfl
      have held : AList.lookup (connectionKey platform message)
          (client.activeConnections.erase "hello") =
            commandUnder platform client message :=
        AList.lookup_erase_ne (connectionKeyForMessageId_ne_hello _)
      have first := greeted.count_le command
      have second := count_own_le settles held (ownBlocks _ held)
      have both : Dictionary.eraseAll (["hello"] ++
          if client.leaveConnection message (commandUnder platform client message) then []
          else [connectionKey platform message]) client.activeConnections =
          Dictionary.eraseAll
            (if client.leaveConnection message (commandUnder platform client message)
              then [] else [connectionKey platform message])
            (client.activeConnections.erase "hello") := rfl
      rw [both, pending]
      omega
    · rw [if_neg hello, if_neg hello, List.nil_append, List.nil_append]
      exact count_own_le settles rfl (ownBlocks _ rfl)

/-! ## Runs -/

/-- A command is excused when it got an answer about pairing or is a
subscription; else every callback is for a sending of its own. -/
def Accounted (log : CallLog) (command : Ref ServiceCommand) : Prop :=
  command ∈ log.paired ∨
    (log.client.commands.Allocated command ∧
      (log.client.commands.read command).isSubscription = true) ∨
    log.called.count command + pending log.client command ≤ log.sendings command

structure Recorded (log : CallLog) : Prop where
  registry : log.client.ledger.Registry log.registered
  accounted : ∀ command, log.Accounted command

theorem Accounted.of_counts {log : CallLog}
    {after : WebOSTVServiceSocketClient} {command : Ref ServiceCommand}
    (counts : Counts log.client after command)
    (before : log.called.count command + pending log.client command ≤
      log.sendings command) :
    (log.called ++ (scheduled log.client after).map MainBlock.command).count command +
        pending after command ≤
      ((log.registered ++
        Ledger.registrations log.client.ledger after.ledger).map Prod.snd).count
          command := by
  unfold Counts at counts
  unfold sendings at before
  rw [List.count_append, List.map_append, List.count_append]
  omega

/-- What a step does to the count of one command. -/
theorem step_counts {log : CallLog} {event : SocketClientEvent}
    {after : WebOSTVServiceSocketClient} (numbered : log.client.ledger.Numbered)
    (unset : event.CreatesUnset)
    (taken : WebOSTVServiceSocketClient.step platform log.client event = some after)
    (command : Ref ServiceCommand) :
    command ∈ pairedBy platform log.client event ∨
      (log.client.commands.Allocated command ∧
        (log.client.commands.read command).isSubscription = true) ∨
      Counts log.client after command := by
  have quiet : ∀ {blocks : Nat}, after.mainQueue.length = blocks →
      blocks ≤ log.client.mainQueue.length → Counts log.client after command :=
    fun same bounded => counts_of_unscheduled (same ▸ bounded) command
  have unchanged : after.ledger = log.client.ledger → Counts log.client after command := by
    intro same
    have queue : after.mainQueue = log.client.mainQueue := congrArg Ledger.mainQueue same
    exact quiet (congrArg List.length queue) (Nat.le_refl _)
  cases settles : event.settles with
  | false =>
      right
      right
      cases greeting : log.client.saysHello event with
      | true =>
          have queue : after.mainQueue = log.client.mainQueue :=
            congrArg Ledger.mainQueue (step_greets greeting taken)
          exact quiet (congrArg List.length queue) (Nat.le_refl _)
      | false =>
          have grown := step_grows unset settles greeting taken
          refine quiet (congrArg List.length grown.unscheduled) ?_
          cases event with
          | runNext =>
              change log.client.mainQueue.tail.length ≤ log.client.mainQueue.length
              rw [List.length_tail]
              exact Nat.sub_le _ _
          | _ => exact Nat.le_refl _
  | true =>
      cases event with
      | didClose reason wasClean =>
          right
          right
          rcases step_didClose taken with same | ⟨_, same⟩
          · exact unchanged same
          · have queue : after.mainQueue = log.client.mainQueue ++ [] :=
              congrArg Ledger.mainQueue same
            exact quiet (congrArg List.length queue) (by simp)
      | didFail error =>
          right
          right
          rcases step_didFail taken with same | ⟨intError, failed⟩
          · exact unchanged same
          · exact counts_didFail numbered failed command
      | didReceiveMessage decodeData shouldProcessMessage =>
          rcases step_didReceiveMessage taken with
            same | ⟨message, read, connected, refused, same⟩
          · exact .inr (.inr (unchanged same))
          · have settled : (commandUnder platform log.client message = some command →
                log.client.leaveConnection message (some command) = false) →
                Counts log.client after command := by
              intro settles
              have queue : after.mainQueue = log.client.mainQueue ++
                  messageBlocks platform log.client decodeData message :=
                congrArg Ledger.mainQueue same
              have table : after.activeConnections = Dictionary.eraseAll
                  (settledKeys platform log.client message)
                  log.client.activeConnections :=
                congrArg Ledger.activeConnections same
              have bounded := count_messageBlocks_le decodeData settles
              rw [Counts, scheduled_of_append queue]
              unfold pending at bounded ⊢
              rw [table]
              omega
            by_cases under : commandUnder platform log.client message = some command
            · cases leave : log.client.leaveConnection message (some command) with
              | false => exact .inr (.inr (settled fun _ => leave))
              | true =>
                  rw [leaveConnection, Option.any_some, Bool.or_eq_true] at leave
                  rcases leave with subscription | pairing
                  · exact .inr (.inl ⟨numbered.object _ _ under, subscription⟩)
                  · left
                    simp only [pairedBy, read, connected, refused, pairing,
                      Bool.not_false, Bool.and_true, if_true, under, Option.mem_toList]
            · exact .inr (.inr (settled fun held => absurd held under))
      | _ => cases settles

theorem Recorded.step {log next : CallLog} {event : SocketClientEvent}
    (recorded : log.Recorded) (unset : event.CreatesUnset)
    (taken : log.step platform event = some next) : next.Recorded := by
  rcases Option.map_eq_some_iff.mp taken with ⟨after, stepped, equal⟩
  subst equal
  have numbered := recorded.registry.numbered
  have advance := step_advance numbered unset stepped
  refine ⟨recorded.registry.advance advance (step_helloAlone numbered unset stepped), ?_⟩
  intro command
  have still : log.client.commands.Allocated command →
      (log.client.commands.read command).isSubscription = true →
      after.commands.Allocated command ∧
        (after.commands.read command).isSubscription = true := by
    intro allocated subscription
    rcases advance.objects command allocated with ⟨allocatedLater, same⟩
    exact ⟨allocatedLater, same.trans subscription⟩
  rcases recorded.accounted command with paired | ⟨allocated, subscription⟩ | before
  · exact .inl (List.mem_append_left _ paired)
  · exact .inr (.inl (still allocated subscription))
  · rcases step_counts numbered unset stepped command with
      paired | ⟨allocated, subscription⟩ | counts
    · exact .inl (List.mem_append_right _ paired)
    · exact .inr (.inl (still allocated subscription))
    · exact .inr (.inr (Accounted.of_counts counts before))

theorem start_recorded (service : WebOSTVService)
    (delegate : Option SocketClientDelegate) : (start service delegate).Recorded where
  registry := {
    numbered := initWithService_numbered service delegate
    issued := fun _ _ member => nomatch member
    unique := fun _ _ _ member => nomatch member
    own := fun _ _ _ _ member => nomatch member
    present := fun _ _ held => nomatch held }
  accounted _ := .inr (.inr (Nat.le_refl _))

theorem SettlesKey.lookup {table : Dictionary String (Ref ServiceCommand)}
    {key : String} {blocks : List MainBlock} {block : MainBlock}
    (settles : SettlesKey table key blocks) (member : block ∈ blocks) :
    table.lookup key = some block.command := by
  rcases settles with nothing | ⟨only, one, held⟩
  · rw [nothing] at member
    cases member
  · rw [one, List.mem_singleton] at member
    rw [member, held]

/-- What a message schedules is for the command under its id, or, if it is a hello
message, for the hello command. -/
theorem lookup_of_mem_messageBlocks {client : WebOSTVServiceSocketClient}
    {decodeData : Option JSON} {message : IncomingMessage} {block : MainBlock}
    (member : block ∈ messageBlocks platform client decodeData message) :
    commandUnder platform client message = some block.command ∨
      message.type = some "hello" ∧
        client.activeConnections.lookup "hello" = some block.command := by
  unfold messageBlocks at member
  by_cases error : message.type = some "error"
  · rw [if_pos error] at member
    exact .inl ((settlesKey_rejection rfl).lookup member)
  · rw [if_neg error] at member
    rcases List.mem_append.mp member with greeted | own
    · split_ifs at greeted with hello
      · exact .inr ⟨hello, (settlesKey_completion rfl).lookup greeted⟩
      · cases greeted
    · split_ifs at own with addressed
      · exact .inl ((settlesKey_completion rfl).lookup own)
      · cases own

/-- What a message schedules is for the command sent under the message's id, or
for the hello command that waits. -/
theorem Recorded.addressed {log : CallLog} {decodeData : Option JSON}
    {shouldProcessMessage : Bool} {after : WebOSTVServiceSocketClient}
    {block : MainBlock} (recorded : log.Recorded)
    (taken : WebOSTVServiceSocketClient.step platform log.client
      (.didReceiveMessage decodeData shouldProcessMessage) = some after)
    (member : block ∈ scheduled log.client after) :
    ∃ message, readMessage decodeData = some message ∧
      ((∃ messageId : Nat, platform.description message.comId = toString messageId ∧
          (requestKey messageId, block.command) ∈ log.registered) ∨
        message.type = some "hello" ∧
          log.client.activeConnections.lookup "hello" = some block.command) := by
  rcases step_didReceiveMessage taken with same | ⟨message, read, _, _, same⟩
  · have queue : after.mainQueue = log.client.mainQueue ++ [] := by
      rw [List.append_nil]
      exact congrArg Ledger.mainQueue same
    rw [scheduled_of_append queue] at member
    cases member
  · refine ⟨message, read, ?_⟩
    have queue : after.mainQueue = log.client.mainQueue ++
        messageBlocks platform log.client decodeData message :=
      congrArg Ledger.mainQueue same
    rw [scheduled_of_append queue] at member
    rcases lookup_of_mem_messageBlocks member with under | hello
    · left
      rcases recorded.registry.numbered.issuedKey _ _ under with
        isHello | ⟨messageId, _, place⟩
      · exact absurd isHello (connectionKeyForMessageId_ne_hello _)
      · refine ⟨messageId, connectionKeyForMessageId_injective place, ?_⟩
        exact recorded.registry.present messageId block.command (place ▸ under)
    · exact .inr hello

/-- In every run: a message calls back the command sent under its id and nobody
else, but for the hello command; no id is shared; and each sending of a plain
command is called back at most once, unless an answer to it was about pairing. -/
theorem run_calls_registered (platform : Platform) (service : WebOSTVService)
    (delegate : Option SocketClientDelegate) (events : List SocketClientEvent)
    (final : CallLog) (unset : ∀ event ∈ events, event.CreatesUnset)
    (reached : runFrom (step platform) (start service delegate) events = some final) :
    (∀ decodeData shouldProcessMessage after block,
      WebOSTVServiceSocketClient.step platform final.client
        (.didReceiveMessage decodeData shouldProcessMessage) = some after →
      block ∈ scheduled final.client after →
      ∃ message, readMessage decodeData = some message ∧
        ((∃ messageId : Nat, platform.description message.comId = toString messageId ∧
            (requestKey messageId, block.command) ∈ final.registered) ∨
          message.type = some "hello" ∧
            final.client.activeConnections.lookup "hello" = some block.command)) ∧
    (∀ messageId command other, (requestKey messageId, command) ∈ final.registered →
      (requestKey messageId, other) ∈ final.registered → command = other) ∧
    ∀ command, (final.client.commands.read command).isSubscription = false →
      command ∉ final.paired →
      final.called.count command + pending final.client command ≤
        final.sendings command := by
  have preserved : ∀ (log : CallLog) (event : SocketClientEvent) (next : CallLog),
      log.Recorded → event.CreatesUnset → log.step platform event = some next →
      next.Recorded :=
    fun _ _ _ recorded unset taken => recorded.step unset taken
  have recorded : final.Recorded := runFrom_invariant preserved
    (start_recorded service delegate) (everyStep_of_mem unset) reached
  refine ⟨?_, ?_, ?_⟩
  · intro decodeData shouldProcessMessage after block taken member
    exact recorded.addressed taken member
  · intro messageId command other left right
    exact recorded.registry.unique _ command other left right
  · intro command plain unpaired
    rcases recorded.accounted command with paired | ⟨_, subscription⟩ | accounted
    · exact absurd paired unpaired
    · cases plain.symm.trans subscription
    · exact accounted

/-! ## Two commands -/

def anyPlatform : Platform where
  writeToJSON := fun _ => ""
  collectionDescription := fun _ => ""

def anyService : WebOSTVService where
  serviceConfig := {}
  serviceDescription := { address := some "10.0.0.7", port := 3001 }

/-- Two commands are sent, and the second is answered. Object `0` is the hello
command. -/
def twoCommands : List SocketClientEvent :=
  [.connect, .readyStateChanged .open, .didOpen,
    .createCommand (some "ssap://audio/volumeUp") none (some 1) none, .send ⟨1⟩,
    .createCommand (some "ssap://audio/volumeDown") none (some 2) none, .send ⟨2⟩,
    .didReceiveMessage (some (.object [("id", .number 3)])) true]

theorem twoCommands_calls_registered :
    ∃ final, runFrom (step anyPlatform) (start anyService none) twoCommands = some final ∧
      final.called = [⟨2⟩] ∧
      final.called.count ⟨2⟩ + pending final.client ⟨2⟩ ≤ final.sendings ⟨2⟩ := by
  refine ⟨_, rfl, rfl, ?_⟩
  have unset : ∀ event ∈ twoCommands, event.CreatesUnset := by
    simp [twoCommands, SocketClientEvent.CreatesUnset]
  exact (run_calls_registered anyPlatform anyService none twoCommands _ unset rfl).2.2
    ⟨2⟩ rfl (by decide)

end CallLog

end ConnectSDK
