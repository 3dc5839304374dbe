import ConnectSDK.Services.Helpers.SocketClientEvents

/-! # Devices that answer with another UUID

A `hello` response whose UUID differs from the stored one. The callback clears
what it stored of the device, disconnects, and then goes on to register all the
same.
-/

namespace ConnectSDK

namespace WebOSTVServiceSocketClient

variable {platform : Platform}

/-- The UUID in a hello response. A response that is no dictionary, or a UUID
that is no string, cannot be compared. -/
def deviceUUID (response : Option JSON) : Option (Option String) :=
  (objectForKey response "deviceUUID").bind stringOrNil

/-- Whether the device that says hello is another one than the stored one, as far
as its UUID can be compared. -/
def isImpostor (client : WebOSTVServiceSocketClient) (response : Option JSON) : Bool :=
  client.service.serviceConfig.uuid.any fun stored =>
    decide (deviceUUID response ≠ some (some stored))

/-- The calls that a step made on web sockets. -/
def handed (before after : WebOSTVServiceSocketClient) : List (Nat × SocketCall) :=
  after.socketCalls.drop before.socketCalls.length

def IsRegisterMessage (platform : Platform) (text : String) : Prop :=
  ∃ fields : JSON.Fields, text = platform.writeToJSON (.object fields) ∧
    fields.value? "type" = some (.string "register")

/-- A registration waits for its answer under a message id that the step
issued. -/
def Registers (before after : WebOSTVServiceSocketClient) : Prop :=
  ∃ messageId command, before.uid < messageId ∧ messageId ≤ after.uid ∧
    after.activeConnections.lookup (requestKey messageId) = some command ∧
    (after.commands.read command).callbackComplete = some .register

/-- A step that answers a device whose UUID is `reported` with no registration:
it hands over no `register` message, keeps clear of the UUID, and takes no
further step of the registration. -/
structure RefusesDevice (platform : Platform)
    (before after : WebOSTVServiceSocketClient) (reported : Option String) : Prop where
  nothingHanded : ∀ socket sender text, (socket, .send sender text) ∈ handed before after →
    ¬ IsRegisterMessage platform text
  notAdopted : reported.isSome → after.service.serviceConfig.uuid ≠ reported
  notRegistering : ¬ Registers before after

/-! ## The registration step -/

theorem encodedFields_register (service : WebOSTVService) (data : JSON.Fields)
    (requestId : Nat) :
    (encodedFields service data none requestId).value? "type" =
      some (.string "register") := by
  simp only [encodedFields, JSON.Fields.value?_set, if_true]

theorem isRegisterMessage_registerMessage (service : WebOSTVService) (dataId : Nat) :
    IsRegisterMessage platform (registerMessage platform service dataId) :=
  ⟨_, rfl, encodedFields_register service _ dataId⟩

theorem registers_registerWithTv (client : WebOSTVServiceSocketClient) :
    Registers client (registerWithTv platform client) := by
  refine ⟨client.uid + 1, client.commands.fresh, Nat.lt_succ_self _, Nat.le_refl _, ?_, ?_⟩
  · exact AList.lookup_insert _
  · exact congrArg ServiceCommand.callbackComplete
      (Heap.read_allocate_fresh client.commands registerCommand)

/-- The registration step hands a `register` message to whatever socket there
is. -/
theorem registerWithTv_socketCalls (client : WebOSTVServiceSocketClient) :
    ∃ text, IsRegisterMessage platform text ∧
      (registerWithTv platform client).socketCalls = client.socketCalls ++
        client.socket.toList.map fun socket =>
          (socket.number, .send .registerWithTv text) :=
  ⟨_, isRegisterMessage_registerMessage _ _, rfl⟩

/-! ## The hello callback -/

theorem helloComplete_paired {client : WebOSTVServiceSocketClient}
    {response : Option JSON} {stored : String}
    (paired : client.service.serviceConfig.uuid = some stored)
    (same : deviceUUID response = some (some stored)) :
    helloComplete platform client response = some (registerWithTv platform client) := by
  rcases Option.bind_eq_some_iff.mp same with ⟨reported, read, compared⟩
  simp [helloComplete, paired, read, compared]

theorem helloComplete_impostor {client : WebOSTVServiceSocketClient}
    {response : Option JSON} {stored : String}
    (paired : client.service.serviceConfig.uuid = some stored)
    (impostor : deviceUUID response ≠ some (some stored)) :
    helloComplete platform client response = (deviceUUID response).map
      fun _ => registerWithTv platform (client.rejectImpostor platform) := by
  simp only [helloComplete, paired]
  unfold deviceUUID at impostor ⊢
  cases read : objectForKey response "deviceUUID" with
  | none => rfl
  | some reported =>
      cases compared : stringOrNil reported with
      | none => simp [compared]
      | some uuid =>
          have different : uuid ≠ some stored := by
            intro equal
            apply impostor
            rw [read, Option.bind_some, compared, equal]
          simp [compared, different]

/-- What the hello callback comes down to. -/
theorem helloComplete_cases {client after : WebOSTVServiceSocketClient}
    {response : Option JSON} (taken : helloComplete platform client response = some after) :
    (client.isImpostor response = true ∧
        after = registerWithTv platform (client.rejectImpostor platform)) ∨
      (client.isImpostor response = false ∧
        (after = registerWithTv platform client ∨
          ∃ uuid, after = registerWithTv platform
            { client with service := client.service.setUUID uuid })) := by
  cases paired : client.service.serviceConfig.uuid with
  | none =>
      simp only [helloComplete, paired, Option.bind_eq_bind,
        Option.bind_eq_some_iff] at taken
      rcases taken with ⟨reported, _, equal⟩
      cases equal
      have named : client.isImpostor response = false := by simp [isImpostor, paired]
      exact .inr ⟨named, .inr ⟨_, rfl⟩⟩
  | some stored =>
      by_cases same : deviceUUID response = some (some stored)
      · rw [helloComplete_paired paired same] at taken
        have recognized : client.isImpostor response = false := by
          simp [isImpostor, paired, same]
        exact .inr ⟨recognized, .inl (Option.some.inj taken).symm⟩
      · rw [helloComplete_impostor paired same] at taken
        rcases Option.map_eq_some_iff.mp taken with ⟨_, _, equal⟩
        have impostor : client.isImpostor response = true := by
          simp [isImpostor, paired, same]
        exact .inl ⟨impostor, equal.symm⟩

/-- The step that runs the hello callback for a device with another UUID. -/
theorem runNext_impostor {client : WebOSTVServiceSocketClient}
    {command : Ref ServiceCommand} {response : Option JSON} {rest : List MainBlock}
    {stored : String}
    (next : client.mainQueue = .complete command response :: rest)
    (hello : (client.commands.read command).callbackComplete = some .hello)
    (paired : client.service.serviceConfig.uuid = some stored)
    (impostor : deviceUUID response ≠ some (some stored)) :
    step platform client .runNext = (deviceUUID response).map fun _ =>
      registerWithTv platform
        (rejectImpostor platform { client with mainQueue := rest }) := by
  have run : step platform client .runNext =
      helloComplete platform { client with mainQueue := rest } response := by
    simp only [step, runNext, next, runBlock, runComplete, hello]
  have pairedRest :
      ({ client with mainQueue := rest } : WebOSTVServiceSocketClient
        ).service.serviceConfig.uuid = some stored := paired
  rw [run, helloComplete_impostor pairedRest impostor]

theorem rejectImpostor_registers (client : WebOSTVServiceSocketClient) :
    Registers client (registerWithTv platform (client.rejectImpostor platform)) := by
  rcases @registers_registerWithTv platform (client.rejectImpostor platform) with
    ⟨messageId, command, issued, registered⟩
  have sameIds : (client.rejectImpostor platform).uid = client.uid :=
    congrArg Ledger.uid (disconnectWithError_frame _ _).1
  rw [sameIds] at issued
  exact ⟨messageId, command, issued, registered⟩

theorem rejectImpostor_hands {client : WebOSTVServiceSocketClient}
    {socket : LGSRWebSocket} (connected : client.socket = some socket) :
    ∃ text, IsRegisterMessage platform text ∧
      (socket.number, .send .registerWithTv text) ∈
        handed client (registerWithTv platform (client.rejectImpostor platform)) := by
  have frame : (client.rejectImpostor platform).socket = client.socket ∧
      ∃ closing, (client.rejectImpostor platform).socketCalls =
        client.socketCalls ++ closing :=
    ⟨(disconnectWithError_frame _ _).2.1, (disconnectWithError_frame _ _).2.2⟩
  rcases frame with ⟨sameSocket, closing, closed⟩
  rcases @registerWithTv_socketCalls platform (client.rejectImpostor platform) with
    ⟨text, register, made⟩
  refine ⟨text, register, ?_⟩
  rw [handed, made, closed, sameSocket, connected, List.append_assoc, List.drop_left]
  exact List.mem_append_right closing List.mem_cons_self

/-- Whatever UUID is stored and whichever other one the device answers with, the
callback registers, through the socket of the connection if the client still
has it; on one that has begun to connect again `send:` raises. Only a UUID that
cannot be compared stops it before, with an exception. -/
theorem impostor_refused_iff (platform : Platform)
    (client : WebOSTVServiceSocketClient) (command : Ref ServiceCommand)
    (response : Option JSON) (rest : List MainBlock) (stored : String)
    (next : client.mainQueue = .complete command response :: rest)
    (hello : (client.commands.read command).callbackComplete = some .hello)
    (paired : client.service.serviceConfig.uuid = some stored)
    (impostor : deviceUUID response ≠ some (some stored)) :
    ((∀ after reported, step platform client .runNext = some after →
        deviceUUID response = some reported →
        RefusesDevice platform client after reported) ↔
      deviceUUID response = none) ∧
    ∀ after socket, step platform client .runNext = some after →
      client.socket = some socket → socket.readyState ≠ .connecting →
      ∃ text, IsRegisterMessage platform text ∧
        (socket.number, .send .registerWithTv text) ∈ handed client after := by
  have run := @runNext_impostor platform _ _ _ _ _ next hello paired impostor
  constructor
  · constructor
    · intro refuses
      cases compared : deviceUUID response with
      | none => rfl
      | some reported =>
          rw [compared, Option.map_some] at run
          have refused := refuses _ reported run compared
          exact absurd (rejectImpostor_registers { client with mainQueue := rest })
            refused.notRegistering
    · intro raises after reported _ compared
      rw [raises] at compared
      cases compared
  · intro after socket taken connected _
    rw [run] at taken
    rcases Option.map_eq_some_iff.mp taken with ⟨_, _, equal⟩
    subst equal
    exact @rejectImpostor_hands platform { client with mainQueue := rest } socket connected

/-! ## One such device -/

/-- Serialized by nothing but the type of the message. -/
def typeOnly : Platform where
  writeToJSON := fun json => ((json.value? "type").bind JSON.string?).getD ""
  collectionDescription := fun _ => ""

def pairedService : WebOSTVService where
  serviceConfig := {
    uuid := some "3C763B8E"
    subclass := .webOSTVServiceConfig (some "key") none }
  serviceDescription := { address := some "10.0.0.7", port := 3001 }

def helloFrom (uuid : String) : JSON :=
  .object [
    ("type", .string "hello"),
    ("payload", .object [("deviceUUID", .string uuid)])]

/-- A connection on which another device says hello. -/
def impostorConnection : List SocketClientEvent :=
  [.connect, .readyStateChanged .open, .didOpen,
    .didReceiveMessage (some (helloFrom "8AED4330")) true]

def impostorGreeted : Option WebOSTVServiceSocketClient :=
  runFrom (step typeOnly) (initWithService pairedService (some {})) impostorConnection

theorem impostor_refused_iff_connection :
    ∃ client, impostorGreeted = some client ∧
      ∃ after, step typeOnly client .runNext = some after ∧
        ∃ text, IsRegisterMessage typeOnly text ∧
          (0, .send .registerWithTv text) ∈ handed client after := by
  refine ⟨_, rfl, _, rfl, ?_⟩
  exact (impostor_refused_iff typeOnly _ ⟨0⟩
    (some (.object [("deviceUUID", .string "8AED4330")])) [] "3C763B8E" rfl rfl rfl
    (by decide)).2 _ ⟨0, .open⟩ rfl rfl (by decide)

/-- The device that was told apart as an impostor is sent a `register`
message. -/
theorem impostor_registered :
    ¬ ∀ client after, impostorGreeted = some client →
      step typeOnly client .runNext = some after →
      RefusesDevice typeOnly client after (some "8AED4330") := by
  intro refuses
  have refused := refuses _ _ rfl rfl
  apply refused.nothingHanded 0 .registerWithTv "register" ?_ ⟨[("type", .string "register")], rfl, rfl⟩
  exact List.mem_cons_of_mem _ List.mem_cons_self

end WebOSTVServiceSocketClient

end ConnectSDK
