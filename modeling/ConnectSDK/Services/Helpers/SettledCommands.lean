import ConnectSDK.Services.Helpers.SocketClientSteps

/-! # Answered, failed and abandoned commands

A command that leaves the table of active connections should have been called
back. An observer follows a run and notes which commands in the table were, and
which left it without.
-/

namespace ConnectSDK

open WebOSTVServiceSocketClient

/-- Whether an event answers a command, rather than fail it. -/
def SocketClientEvent.answers : SocketClientEvent → Bool
  | .didReceiveMessage decodeData _ =>
      (readMessage decodeData).any fun message => decide (message.type ≠ some "error")
  | _ => false

/-- Whether an event is a message for the command under a key. -/
def SocketClientEvent.addresses (platform : Platform) (key : String) :
    SocketClientEvent → Bool
  | .didReceiveMessage decodeData _ =>
      (readMessage decodeData).any fun message =>
        decide (key = "hello" ∨ key = connectionKey platform message)
  | _ => false

/-- The callback that a command which leaves the table is owed. -/
def SocketClientEvent.due (event : SocketClientEvent) (command : ServiceCommand) :
    Option Callback :=
  if event.answers then command.callbackComplete else command.callbackError

/-- A client under observation. `answered` are the keys of commands that were
called back since they came under the key, and `abandoned` those of commands
that left without the callback they were owed. -/
structure CommandWatch where
  client : WebOSTVServiceSocketClient
  answered : List String := []
  abandoned : List String := []

namespace CommandWatch

variable {platform : Platform}

def isScheduled (before after : WebOSTVServiceSocketClient)
    (command : Ref ServiceCommand) : Bool :=
  (scheduled before after).any fun block => decide (block.command = command)

/-- Whether the command under a key leaves, was not called back while it stood
there, and is not called back now. -/
def isAbandoned (watch : CommandWatch) (event : SocketClientEvent)
    (after : WebOSTVServiceSocketClient) (key : String) : Bool :=
  (watch.client.activeConnections.lookup key).any fun command =>
    decide (after.activeConnections.lookup key ≠ some command) &&
      (event.due (watch.client.commands.read command)).isSome &&
      decide (key ∉ watch.answered) &&
      !isScheduled watch.client after command

/-- Whether the command under a key stays, and was called back or is now. -/
def staysAnswered (platform : Platform) (watch : CommandWatch)
    (event : SocketClientEvent) (after : WebOSTVServiceSocketClient) (key : String) :
    Bool :=
  (watch.client.activeConnections.lookup key).any fun command =>
    decide (after.activeConnections.lookup key = some command) &&
      (decide (key ∈ watch.answered) ||
        event.addresses platform key && isScheduled watch.client after command)

def step (platform : Platform) (watch : CommandWatch) (event : SocketClientEvent) :
    Option CommandWatch :=
  (WebOSTVServiceSocketClient.step platform watch.client event).map fun after => {
    client := after
    answered := watch.client.activeConnections.keys.filter
      (watch.staysAnswered platform event after)
    abandoned := watch.abandoned ++ watch.client.activeConnections.keys.filter
      (watch.isAbandoned event after) }

def start (service : WebOSTVService) (delegate : Option SocketClientDelegate) :
    CommandWatch where
  client := initWithService service delegate

/-- The conditions under which no command is abandoned. A close does not find a
command that still waits to be failed, no hello is sent while another one waits,
and users do not number their subscriptions. -/
structure Careful (watch : CommandWatch) (event : SocketClientEvent) : Prop where
  closesSettled : ∀ reason wasClean, event = .didClose reason wasClean →
    watch.client.socket.isSome = true → ∀ key command,
    watch.client.activeConnections.lookup key = some command →
    (watch.client.commands.read command).callbackError.isSome = true →
    key ∈ watch.answered
  helloOnce : watch.client.saysHello event = true →
    watch.client.activeConnections.lookup "hello" = none
  createsUnset : event.CreatesUnset

/-! ## What a step schedules -/

theorem isScheduled_of_mem {before after : WebOSTVServiceSocketClient}
    {blocks : List MainBlock} {block : MainBlock}
    (queue : after.mainQueue = before.mainQueue ++ blocks) (member : block ∈ blocks) :
    isScheduled before after block.command = true := by
  rw [isScheduled, scheduled_of_append queue]
  exact List.any_eq_true.mpr ⟨block, member, decide_eq_true rfl⟩

theorem mem_failureBlocks {client : WebOSTVServiceSocketClient} {key : String}
    {command : Ref ServiceCommand}
    (held : client.activeConnections.lookup key = some command)
    (owed : (client.commands.read command).callbackError.isSome = true)
    (error : NSError) :
    .failed command error ∈ client.failureBlocks error := by
  refine List.mem_map_of_mem (List.mem_filter.mpr ⟨?_, owed⟩)
  exact Dictionary.mem_values_iff.mpr ⟨key, held⟩

theorem mem_completion {client : WebOSTVServiceSocketClient}
    {command : Ref ServiceCommand}
    (owed : (client.commands.read command).callbackComplete.isSome = true)
    (response : Option JSON) :
    .complete command response ∈ client.completion (some command) response := by
  simp only [completion, owed, if_true, List.mem_singleton]

theorem mem_rejection {client : WebOSTVServiceSocketClient}
    {command : Ref ServiceCommand} {comId decodeData : Option JSON}
    (owed : (client.commands.read command).callbackError.isSome = true)
    (addressed : comId.isSome = true) :
    .rejected command (generateError platform .tvError decodeData) ∈
      client.rejection platform decodeData comId (some command) := by
  rcases Option.isSome_iff_exists.mp addressed with ⟨identifier, equal⟩
  rw [equal]
  simp only [rejection, owed, if_true, List.mem_singleton]

/-- A message without an id is for no command. -/
theorem addressed_of_held {client : WebOSTVServiceSocketClient}
    {message : IncomingMessage} {command : Ref ServiceCommand}
    (numbered : client.ledger.Numbered)
    (held : commandUnder platform client message = some command) :
    message.comId.isSome = true := by
  cases identifier : message.comId with
  | some _ => rfl
  | none =>
      have unnumbered := numbered.unnumbered
      rw [commandUnder, connectionKey, identifier] at held
      cases unnumbered.symm.trans held

/-- The command that a message takes out of the table is called back by it. -/
theorem messageBlocks_settle {client : WebOSTVServiceSocketClient}
    {decodeData : Option JSON} {shouldProcessMessage : Bool}
    {message : IncomingMessage} {key : String} {command : Ref ServiceCommand}
    (numbered : client.ledger.Numbered)
    (read : readMessage decodeData = some message)
    (held : client.activeConnections.lookup key = some command)
    (leaves : key ∈ settledKeys platform client message)
    (owed : (SocketClientEvent.due (.didReceiveMessage decodeData shouldProcessMessage)
      (client.commands.read command)).isSome = true) :
    ∃ block ∈ messageBlocks platform client decodeData message,
      block.command = command := by
  have kind : SocketClientEvent.answers
      (.didReceiveMessage decodeData shouldProcessMessage) =
        decide (message.type ≠ some "error") := by
    simp only [SocketClientEvent.answers, read, Option.any_some]
  have place : key = "hello" ∧ message.type = some "hello" ∨
      commandUnder platform client message = some command := by
    rcases List.mem_append.mp leaves with hello | own
    · by_cases greeting : message.type = some "hello"
      · rw [if_pos greeting] at hello
        exact .inl ⟨List.mem_singleton.mp hello, greeting⟩
      · rw [if_neg greeting] at hello
        cases hello
    · split_ifs at own with leave
      · cases own
      · rw [List.mem_singleton.mp own] at held
        exact .inr held
  rw [SocketClientEvent.due, kind] at owed
  by_cases error : message.type = some "error"
  · simp only [error, ne_eq, not_true_eq_false, decide_false, Bool.false_eq_true,
      if_false] at owed
    rw [messageBlocks, if_pos error]
    rcases place with ⟨_, greeting⟩ | under
    · rw [error] at greeting
      exact absurd (Option.some.inj greeting) (by decide)
    · refine ⟨.rejected command (generateError platform .tvError decodeData), ?_, rfl⟩
      rw [under]
      exact mem_rejection owed (addressed_of_held numbered under)
  · simp only [ne_eq, error, not_false_eq_true, decide_true, if_true] at owed
    rw [messageBlocks, if_neg error]
    rcases place with ⟨hello, greeting⟩ | under
    · refine ⟨.complete command message.payload, List.mem_append_left _ ?_, rfl⟩
      rw [if_pos greeting, ← hello, held]
      exact mem_completion owed message.payload
    · refine ⟨.complete command message.payload, List.mem_append_right _ ?_, rfl⟩
      rw [if_pos (addressed_of_held numbered under), under]
      exact mem_completion owed message.payload

/-! ## What a step abandons -/

/-- A command that leaves the table in a careful step, and was not called back
before, is called back by it. -/
theorem settles_departure {watch : CommandWatch} {event : SocketClientEvent}
    {after : WebOSTVServiceSocketClient} {key : String} {command : Ref ServiceCommand}
    (numbered : watch.client.ledger.Numbered) (careful : watch.Careful event)
    (taken : WebOSTVServiceSocketClient.step platform watch.client event = some after)
    (held : watch.client.activeConnections.lookup key = some command)
    (left : after.activeConnections.lookup key ≠ some command)
    (owed : (event.due (watch.client.commands.read command)).isSome = true)
    (unanswered : key ∉ watch.answered) :
    isScheduled watch.client after command = true := by
  have stays : after.ledger = watch.client.ledger → False := by
    intro same
    apply left
    have table : after.activeConnections = watch.client.activeConnections :=
      congrArg Ledger.activeConnections same
    rw [table, held]
  cases settles : event.settles with
  | false =>
      cases greeting : watch.client.saysHello event with
      | true =>
          have same := step_greets greeting taken
          have table : after.activeConnections.lookup key = if key = "hello" then
              some watch.client.commands.fresh
            else watch.client.activeConnections.lookup key :=
            (congrArg (fun ledger : Ledger => ledger.activeConnections.lookup key)
              same).trans (Ledger.lookup_greet _ _ key)
          have other : key ≠ "hello" := by
            intro hello
            rw [hello, careful.helloOnce greeting] at held
            cases held
          rw [table, if_neg other, held] at left
          exact absurd rfl left
      | false =>
          have grown := step_grows careful.createsUnset settles greeting taken
          have polled : (watch.client.polled event).Numbered ∧
              (watch.client.polled event).activeConnections.lookup key = some command := by
            cases event with
            | runNext => exact ⟨{ numbered with }, held⟩
            | _ => exact ⟨numbered, held⟩
          exact absurd (grown.kept polled.1 key command polled.2) left
  | true =>
      cases event with
      | didClose reason wasClean =>
          rcases step_didClose taken with same | ⟨connected, _⟩
          · exact (stays same).elim
          · exact absurd (careful.closesSettled reason wasClean rfl connected key command
              held owed) unanswered
      | didFail error =>
          rcases step_didFail taken with same | ⟨intError, failed⟩
          · exact (stays same).elim
          · have queue : after.mainQueue =
                watch.client.mainQueue ++ watch.client.failureBlocks intError := by
              rcases failed with same | same
              · exact congrArg Ledger.mainQueue same
              · exact congrArg Ledger.mainQueue same
            exact isScheduled_of_mem queue (mem_failureBlocks held owed intError)
      | didReceiveMessage decodeData shouldProcessMessage =>
          rcases step_didReceiveMessage taken with same | ⟨message, read, _, _, same⟩
          · exact (stays same).elim
          · have table : after.activeConnections.lookup key =
                if key ∈ settledKeys platform watch.client message then none
                else watch.client.activeConnections.lookup key :=
              (congrArg (fun ledger : Ledger => ledger.activeConnections.lookup key)
                same).trans (Dictionary.lookup_eraseAll _ _ key)
            by_cases leaves : key ∈ settledKeys platform watch.client message
            · rcases messageBlocks_settle numbered read held leaves owed with
                ⟨block, member, equal⟩
              rw [← equal]
              exact isScheduled_of_mem (congrArg Ledger.mainQueue same) member
            · rw [table, if_neg leaves, held] at left
              exact absurd rfl left
      | _ => cases settles

theorem isAbandoned_eq_false {watch : CommandWatch} {event : SocketClientEvent}
    {after : WebOSTVServiceSocketClient}
    (numbered : watch.client.ledger.Numbered) (careful : watch.Careful event)
    (taken : WebOSTVServiceSocketClient.step platform watch.client event = some after)
    (key : String) : watch.isAbandoned event after key = false := by
  unfold isAbandoned
  cases held : watch.client.activeConnections.lookup key with
  | none => rfl
  | some command =>
      rw [Option.any_some]
      by_contra abandoned
      simp only [ne_eq, Bool.not_eq_false, Bool.and_eq_true, decide_eq_true_eq,
        Bool.not_eq_true'] at abandoned
      rcases abandoned with ⟨⟨⟨left, owed⟩, unanswered⟩, unscheduled⟩
      have called := settles_departure numbered careful taken held left owed unanswered
      cases called.symm.trans unscheduled

/-! ## Runs -/

theorem step_settles {watch next : CommandWatch} {event : SocketClientEvent}
    (invariant : watch.client.ledger.Numbered ∧ watch.abandoned = [])
    (careful : watch.Careful event) (taken : watch.step platform event = some next) :
    next.client.ledger.Numbered ∧ next.abandoned = [] := by
  rcases Option.map_eq_some_iff.mp taken with ⟨after, stepped, equal⟩
  subst equal
  refine ⟨(step_advance invariant.1 careful.createsUnset stepped).numbered, ?_⟩
  rw [invariant.2, List.nil_append, List.filter_eq_nil_iff]
  intro key _
  rw [isAbandoned_eq_false invariant.1 careful stepped key]
  exact Bool.false_ne_true

/-- In every careful run, every command that left the table was called back. -/
theorem run_settles (platform : Platform) (service : WebOSTVService)
    (delegate : Option SocketClientDelegate) (events : List SocketClientEvent)
    (final : CommandWatch)
    (careful : EveryStep (step platform) Careful (start service delegate) events)
    (reached : runFrom (step platform) (start service delegate) events = some final) :
    final.abandoned = [] := by
  have initially : (start service delegate).client.ledger.Numbered ∧
      (start service delegate).abandoned = [] :=
    ⟨initWithService_numbered service delegate, rfl⟩
  exact (runFrom_invariant (fun _ _ _ invariant careful taken =>
    step_settles invariant careful taken) initially careful reached).2

/-! ## Two connections -/

def plainPlatform : Platform where
  writeToJSON := fun _ => ""
  collectionDescription := fun _ => ""

def newService : WebOSTVService where
  serviceConfig := {}
  serviceDescription := { address := some "10.0.0.7", port := 3001 }

/-- A command is sent on a new connection. Object `0` is the hello command. -/
def commandSent : List SocketClientEvent :=
  [.connect, .readyStateChanged .open, .didOpen,
    .createCommand (some "ssap://system/turnOff") none (some 1) (some 2), .send ⟨1⟩]

/-- When the connection fails, the commands in the table are failed. -/
theorem run_settles_failure :
    ∃ final, runFrom (step plainPlatform) (start newService none)
        (commandSent ++ [.didFail ⟨57, "Socket is not connected"⟩]) = some final ∧
      final.client.mainQueue.length = 2 ∧ final.abandoned = [] := by
  refine ⟨_, rfl, rfl, ?_⟩
  refine run_settles plainPlatform newService none
    (commandSent ++ [.didFail ⟨57, "Socket is not connected"⟩]) _ ?_ rfl
  have silent : ∀ {watch : CommandWatch} {event : SocketClientEvent},
      (∀ reason wasClean, event ≠ .didClose reason wasClean) →
      watch.client.saysHello event = false → event.CreatesUnset →
      watch.Careful event := by
    intro watch event noClose silent unset
    refine ⟨fun reason wasClean close => absurd close (noClose reason wasClean), ?_, unset⟩
    intro greeting
    cases silent.symm.trans greeting
  refine .cons (silent nofun rfl trivial) rfl ?_
  refine .cons (silent nofun rfl trivial) rfl ?_
  refine .cons ⟨nofun, fun _ => rfl, trivial⟩ rfl ?_
  refine .cons (silent nofun rfl trivial) rfl ?_
  refine .cons (silent nofun rfl trivial) rfl ?_
  exact .cons (silent nofun rfl trivial) rfl trivial

/-- When it is closed, they are not. -/
theorem closed_abandons :
    ¬ ∀ final, runFrom (step plainPlatform) (start newService none)
        (commandSent ++ [.didClose none false]) = some final →
      final.abandoned = [] := by
  intro settles
  have none := settles _ rfl
  cases none

end CommandWatch

end ConnectSDK
