import ConnectSDK.Services.Sessions.WebAppMessages

/-! # Callbacks of sent messages

A call that sends a message to a session that is not connected waits, first with the blocks
of the session's connect, then with a subscription to the app.
-/

namespace ConnectSDK

namespace MessageBlocks

variable {blocks : MessageBlocks}

theorem call_of_failure {given : Answer CommandBlock} (member : given ∈ blocks.failure) :
    blocks.call = some given.request := by
  rcases Option.map_eq_some_iff.mp member with ⟨call, held, same⟩
  rw [held, ← same]

theorem failure_request (blocks : MessageBlocks) :
    blocks.failure.map Answer.request = blocks.call := by
  cases blocks <;> rfl

end MessageBlocks

namespace WebOSMessageSession

/-- The call's blocks wait for the socket of the session. -/
def AwaitsSocket (session : WebOSMessageSession) (call : Nat) : Prop :=
  session.connectBlocks.bind MessageBlocks.call = some call

/-- A subscription has the call's blocks. -/
def Subscribed (session : WebOSMessageSession) (call : Nat) : Prop :=
  ∃ held ∈ session.subscriptions, held.blocks.call = some call

def Held (session : WebOSMessageSession) (call : Nat) : Prop :=
  session.AwaitsSocket call ∨ session.Subscribed call

/-- Of the blocks of each call of `sendText` and `sendJSON` exactly one ran, once, or none
yet while the session or a subscription still has them. -/
def AnswersOnce (session : WebOSMessageSession) : Prop :=
  session.calls.Kept session.Held

/-- A connect makes new blocks. -/
def isIdle (session : WebOSMessageSession) : Bool :=
  !session.connected && !session.socket.any SessionSocket.connecting

/-- What waits for the socket is held by a subscription, too. -/
def Covered (session : WebOSMessageSession) : Prop :=
  ∀ call, session.AwaitsSocket call → session.Subscribed call

/-- No subscription that is for a message is told that the app is connected, nor is one that
failed told of an error again. The blocks that wait for the socket are not replaced or
forgotten while only the session has them, and no subscription is while a call waits that
nothing else holds. -/
def KeepsCalls (session : WebOSMessageSession) : MessageSessionEvent → Prop
  | .sendText message =>
      message.any (fun message => !message.isEmpty) = true → session.isIdle = true →
        session.Covered
  | .sendJSON message =>
      message.any (fun message => !message.isEmpty) = true → session.isIdle = true →
        session.Covered
  | .connect _ => session.isIdle = true → session.Covered
  | .socketDidClose socket false => socket ∈ session.delegates → session.Covered
  | .connectReceived subscription state _ =>
      ∀ held ∈ session.subscriptions[subscription]?,
        if state = some "CONNECTED" then held.blocks.call = none
        else held.blocks.joinOnly = true → state = some "WAITING_FOR_APP" → session.Covered
  | .connectFailed subscription appChannelDidClose =>
      ∀ held ∈ session.subscriptions[subscription]?, session.Covered ∧
        (appChannelDidClose = false →
          ∀ call ∈ held.blocks.call, session.calls.Waits call)
  | .subscriptionsForgotten socket =>
      ∀ call, session.calls.Waits call → session.AwaitsSocket call ∨
        ∃ held ∈ session.subscriptions, held.socket ≠ socket ∧ held.blocks.call = some call
  | .closeWithSuccess registered =>
      registered = true → session.appId.isEmpty = false → session.Covered
  | .disconnectFromWebApp => session.Covered
  | _ => True

/-- Blocks are those of calls that were made, they wait only for a socket that is there, and
as long as no call was answered twice, what waits for the socket was not answered. -/
structure Sound (session : WebOSMessageSession) : Prop where
  calls : session.calls.Sound
  held : ∀ call, session.Held call → session.calls.Issued call
  socket : session.connectBlocks.isSome = true → session.socket.isSome = true
  awaiting : ∀ call, session.AwaitsSocket call → session.calls.answered.Nodup →
    call ∉ session.calls.answered

variable {session next : WebOSMessageSession} {blocks : MessageBlocks}

/-! ## Soundness -/

theorem Sound.of_calls (sound : session.Sound) (calls : next.calls = session.calls)
    (held : ∀ call, next.Held call → session.Held call ∨ session.calls.Waits call)
    (awaits : ∀ call, next.AwaitsSocket call →
      session.AwaitsSocket call ∨ session.calls.Waits call)
    (socket : next.connectBlocks.isSome = true → next.socket.isSome = true) :
    next.Sound := by
  refine ⟨calls ▸ sound.calls, ?_, socket, ?_⟩
  · intro call holds
    rw [calls]
    exact (held call holds).elim (sound.held call) fun waits => waits.1
  · intro call waiting
    rw [calls]
    intro once
    exact (awaits call waiting).elim (fun before => sound.awaiting call before once)
      fun waits => waits.2

/-- After the blocks of the connect are gone, one call at most was answered. -/
theorem Sound.forget (sound : session.Sound) {answer : Option (Answer CommandBlock)}
    (issued : ∀ given ∈ answer, session.calls.Issued given.request)
    (calls : next.calls = session.calls.record answer) (gone : next.connectBlocks = none)
    (subscribed : ∀ call, next.Subscribed call → session.Held call) : next.Sound := by
  have nothing : ∀ call, ¬next.AwaitsSocket call := by
    intro call waiting
    rw [AwaitsSocket, gone] at waiting
    cases waiting
  refine ⟨?_, ?_, ?_, fun call waiting => absurd waiting (nothing call)⟩
  · rw [calls]
    exact sound.calls.record issued
  · intro call holds
    rw [calls]
    exact sound.held call (subscribed call (holds.resolve_left (nothing call)))
  · rw [gone]
    intro impossible
    cases impossible

theorem Sound.failure (sound : session.Sound) (held : ∀ call ∈ blocks.call, session.Held call) :
    ∀ given ∈ blocks.failure, session.calls.Issued given.request := fun given member =>
  sound.held given.request (held given.request (MessageBlocks.call_of_failure member))

theorem subscribed_append {socket : Nat}
    (added : next.subscriptions = session.subscriptions ++ [⟨socket, blocks⟩])
    (call : Nat) :
    next.Subscribed call ↔ session.Subscribed call ∨ blocks.call = some call := by
  rw [Subscribed, added]
  simp only [List.mem_append, List.mem_singleton, or_and_right, exists_or, exists_eq_left,
    Subscribed]

theorem subscribed_of_getElem {subscription : Nat} {held : AppSubscription}
    (found : session.subscriptions[subscription]? = some held) (call : Nat)
    (same : held.blocks.call = some call) : session.Subscribed call :=
  ⟨held, List.mem_of_getElem? found, same⟩

/-! ## What the operations do -/

/-- How an operation ends that forgets the blocks of the session's connect. -/
structure Forgets (session next : WebOSMessageSession) (answer : Option (Answer CommandBlock)) :
    Prop where
  calls : next.calls = session.calls.record answer
  connectBlocks : next.connectBlocks = none
  subscriptions : next.subscriptions = session.subscriptions

/-- How an operation ends that leaves all blocks where they are. -/
structure Leaves (session next : WebOSMessageSession) (answer : Option (Answer CommandBlock)) :
    Prop where
  calls : next.calls = session.calls.record answer
  connectBlocks : next.connectBlocks = session.connectBlocks
  subscriptions : next.subscriptions = session.subscriptions
  socket : next.socket.isSome = session.socket.isSome

/-- How a connect ends that goes on with its blocks. -/
structure Replaces (session next : WebOSMessageSession) (blocks : MessageBlocks) : Prop where
  calls : next.calls = session.calls
  awaiting : next.connectBlocks = some blocks
  held : ∀ call, next.Held call ↔ session.Subscribed call ∨ blocks.call = some call
  socket : next.socket.isSome = true

theorem disconnectFromWebApp_forgets (session : WebOSMessageSession) :
    session.Forgets session.disconnectFromWebApp none :=
  ⟨(RequestBook.record_none _).symm, rfl, rfl⟩

theorem leaves_self (session : WebOSMessageSession) : session.Leaves session none :=
  ⟨(RequestBook.record_none _).symm, rfl, rfl, rfl⟩

theorem connectIdle_cases (session : WebOSMessageSession) (blocks : MessageBlocks) :
    session.Forgets (session.connectIdle blocks) blocks.failure ∨
      session.Replaces (session.connectIdle blocks) blocks := by
  have held : ∀ call, blocks.call = some call ∨ session.Subscribed call ↔
      session.Subscribed call ∨ blocks.call = some call := fun call => or_comm
  rw [connectIdle]
  cases current : session.socket.any SessionSocket.connected with
  | false =>
      simp only [Bool.false_eq_true, if_false]
      exact .inr ⟨rfl, rfl, held, rfl⟩
  | true =>
      simp only [if_true]
      rw [connectToWebApp]
      cases found : session.socket with
      | none =>
          rw [found] at current
          cases current
      | some socket =>
          split
          · exact .inl ⟨rfl, rfl, rfl⟩
          · refine .inr ⟨rfl, rfl, ?_, rfl⟩
            intro call
            rw [Held, @subscribed_append session _ blocks socket.number rfl]
            exact ⟨fun either => either.elim .inr id, .inr⟩

theorem Forgets.held_iff {answer : Option (Answer CommandBlock)}
    (forgets : session.Forgets next answer) (call : Nat) :
    next.Held call ↔ session.Subscribed call := by
  rw [Held, AwaitsSocket, Subscribed, forgets.connectBlocks, forgets.subscriptions]
  exact or_iff_right (Option.some_ne_none call).symm

theorem Leaves.held_iff {answer : Option (Answer CommandBlock)}
    (leaves : session.Leaves next answer) (call : Nat) : next.Held call ↔ session.Held call := by
  rw [Held, AwaitsSocket, Subscribed, leaves.connectBlocks, leaves.subscriptions]
  rfl

theorem Sound.forgets (sound : session.Sound) {answer : Option (Answer CommandBlock)}
    (forgets : session.Forgets next answer)
    (issued : ∀ given ∈ answer, session.calls.Issued given.request) : next.Sound :=
  sound.forget issued forgets.calls forgets.connectBlocks fun call subscribed =>
    .inr ((forgets.held_iff call).mp (.inr subscribed))

theorem Sound.leaves (sound : session.Sound) {answer : Option (Answer CommandBlock)}
    (leaves : session.Leaves next answer)
    (issued : ∀ given ∈ answer, session.calls.Issued given.request)
    (apart : ∀ given ∈ answer, ¬session.AwaitsSocket given.request) : next.Sound := by
  refine ⟨?_, ?_, ?_, ?_⟩
  · rw [leaves.calls]
    exact sound.calls.record issued
  · intro call holds
    rw [leaves.calls]
    exact sound.held call ((leaves.held_iff call).mp holds)
  · rw [leaves.connectBlocks, leaves.socket]
    exact sound.socket
  · intro call waiting
    rw [AwaitsSocket, leaves.connectBlocks] at waiting
    rw [leaves.calls, RequestBook.answered_record]
    intro once answered
    rcases List.mem_append.mp answered with before | new
    · exact sound.awaiting call waiting (List.nodup_append.mp once).1 before
    · rcases List.mem_map.mp new with ⟨given, member, same⟩
      exact apart given (Option.mem_toList.mp member) (same ▸ waiting)

theorem Sound.replaces (sound : session.Sound) (replaces : session.Replaces next blocks)
    (waits : ∀ call ∈ blocks.call, session.calls.Waits call) : next.Sound := by
  have awaits : ∀ call, next.AwaitsSocket call → session.calls.Waits call := by
    intro call waiting
    rw [AwaitsSocket, replaces.awaiting] at waiting
    exact waits call waiting
  refine sound.of_calls replaces.calls ?_ (fun call waiting => .inr (awaits call waiting))
    fun _ => replaces.socket
  intro call holds
  rcases (replaces.held call).mp holds with subscribed | own
  · exact .inl (.inr subscribed)
  · exact .inr (waits call own)

/-! ## When the calls are kept -/

variable {held : Nat → Prop}

theorem Forgets.answersOnce_iff {answer : Option (Answer CommandBlock)}
    (forgets : session.Forgets next answer) (kept : session.calls.Kept held)
    (issued : ∀ given ∈ answer, session.calls.Issued given.request) :
    next.AnswersOnce ↔ (∀ given ∈ answer, session.calls.Waits given.request) ∧
      ∀ call, session.calls.Waits call →
        answer.map Answer.request = some call ∨ session.Subscribed call := by
  rw [AnswersOnce, forgets.calls, kept.record_iff issued]
  simp only [forgets.held_iff]

theorem Leaves.answersOnce_iff {answer : Option (Answer CommandBlock)}
    (leaves : session.Leaves next answer) (kept : session.calls.Kept held)
    (issued : ∀ given ∈ answer, session.calls.Issued given.request) :
    next.AnswersOnce ↔ (∀ given ∈ answer, session.calls.Waits given.request) ∧
      ∀ call, session.calls.Waits call →
        answer.map Answer.request = some call ∨ session.Held call := by
  rw [AnswersOnce, leaves.calls, kept.record_iff issued]
  simp only [leaves.held_iff]

theorem Replaces.answersOnce_iff (replaces : session.Replaces next blocks)
    (kept : session.calls.Kept held) :
    next.AnswersOnce ↔ ∀ call, session.calls.Waits call →
      session.Subscribed call ∨ blocks.call = some call := by
  rw [AnswersOnce, replaces.calls, kept.held_iff]
  simp only [replaces.held]

/-- While the calls are kept, a call whose blocks wait for the socket waits itself. -/
theorem AnswersOnce.waits (once : session.AnswersOnce) (sound : session.Sound) {call : Nat}
    (waiting : session.AwaitsSocket call) : session.calls.Waits call :=
  ⟨sound.held call (.inl waiting), sound.awaiting call waiting once.once⟩

theorem AnswersOnce.covered_iff (once : session.AnswersOnce) (sound : session.Sound) :
    session.Covered ↔ ∀ call, session.calls.Waits call → session.Subscribed call := by
  constructor
  · intro covered call waits
    exact (once.held call waits).elim (covered call) id
  · intro subscribed call waiting
    exact subscribed call (once.waits sound waiting)

theorem Forgets.covered_iff (forgets : session.Forgets next none) (once : session.AnswersOnce)
    (sound : session.Sound) : session.Covered ↔ next.AnswersOnce := by
  rw [once.covered_iff sound, forgets.answersOnce_iff once fun _ member => by cases member]
  constructor
  · intro subscribed
    exact ⟨(fun _ member => by cases member), fun call waits => .inr (subscribed call waits)⟩
  · intro kept call waits
    exact (kept.2 call waits).resolve_left (Option.some_ne_none call).symm

/-- A new connect keeps the calls exactly if each that waits has its own blocks or is held by
a subscription. -/
theorem connectIdle_iff (kept : session.calls.Kept held)
    (own : ∀ call ∈ blocks.call, session.calls.Waits call) :
    (session.connectIdle blocks).AnswersOnce ↔ ∀ call, session.calls.Waits call →
      session.Subscribed call ∨ blocks.call = some call := by
  rcases session.connectIdle_cases blocks with forgets | replaces
  · have waits : ∀ given ∈ blocks.failure, session.calls.Waits given.request :=
      fun given member => own given.request (MessageBlocks.call_of_failure member)
    rw [forgets.answersOnce_iff kept fun given member => (waits given member).1,
      blocks.failure_request]
    simp only [or_comm (a := blocks.call = _)]
    exact and_iff_right waits
  · exact replaces.answersOnce_iff kept

theorem Sound.connectIdle (sound : session.Sound)
    (own : ∀ call ∈ blocks.call, session.calls.Waits call) :
    (session.connectIdle blocks).Sound := by
  rcases session.connectIdle_cases blocks with forgets | replaces
  · exact sound.forgets forgets fun given member =>
      (own given.request (MessageBlocks.call_of_failure member)).1
  · exact sound.replaces replaces own

/-! ## Sending -/

/-- The session as a call is made. -/
def issue (session : WebOSMessageSession) : WebOSMessageSession :=
  { session with calls := session.calls.issue }

theorem Sound.issue (sound : session.Sound) : session.issue.Sound :=
  ⟨sound.calls.issue, fun call holds => (sound.held call holds).issue, sound.socket,
    sound.awaiting⟩

/-- Nothing holds a call that has just been made. -/
theorem Sound.not_held (sound : session.Sound) : ¬session.Held (session.calls.issued + 1) :=
  fun holds => Nat.not_succ_le_self _ (sound.held _ holds).2

/-- A call is answered as it is made, or connects the session. -/
theorem send_cases (session : WebOSMessageSession) (message : Option JSON) :
    ((message.isSome && session.isIdle) = false ∧ ∃ block,
        session.issue.Leaves (session.send message)
          (some { request := session.calls.issued + 1, reply := block })) ∨
      ((message.isSome && session.isIdle) = true ∧ ∃ content,
        session.send message =
          session.issue.connectIdle (.sendP2PMessage (session.calls.issued + 1) content)) := by
  cases message with
  | none => exact .inl ⟨rfl, .failure, rfl, rfl, rfl, rfl⟩
  | some content =>
      have sends : session.send (some content) =
          session.issue.sendP2PMessage (session.calls.issued + 1) content := rfl
      rw [sends, sendP2PMessage, isIdle]
      have connected : session.issue.connected = session.connected := rfl
      have socket : session.issue.socket = session.socket := rfl
      rw [connected, connect, connected, socket]
      cases session.connected with
      | true => exact .inl ⟨rfl, .success, rfl, rfl, rfl, rfl⟩
      | false =>
          cases session.socket.any SessionSocket.connecting with
          | true => exact .inl ⟨rfl, .failure, rfl, rfl, rfl, rfl⟩
          | false => exact .inr ⟨rfl, content, rfl⟩

theorem Sound.send (sound : session.Sound) (message : Option JSON) :
    (session.send message).Sound := by
  rcases session.send_cases message with ⟨_, block, leaves⟩ | ⟨_, content, connects⟩
  · apply sound.issue.leaves leaves
    · intro given member
      cases member
      exact session.calls.issued_issue
    · intro given member waiting
      cases member
      exact sound.not_held (.inl waiting)
  · rw [connects]
    apply sound.issue.connectIdle
    intro call own
    cases own
    exact sound.calls.waits_issue

theorem send_iff (once : session.AnswersOnce) (sound : session.Sound)
    (message : Option JSON) :
    ((message.isSome && session.isIdle) = true → session.Covered) ↔
      (session.send message).AnswersOnce := by
  have kept := RequestBook.Kept.issue sound.calls once
  have waits : ∀ call, session.issue.calls.Waits call ↔
      session.calls.Waits call ∨ call = session.calls.issued + 1 :=
    RequestBook.waits_issue_iff sound.calls
  rcases session.send_cases message with ⟨busy, block, leaves⟩ | ⟨idle, content, connects⟩
  · rw [busy, leaves.answersOnce_iff kept fun given member => by
      cases member
      exact session.calls.issued_issue]
    refine iff_of_true (fun impossible => by cases impossible) ⟨?_, ?_⟩
    · intro given member
      cases member
      exact sound.calls.waits_issue
    · intro call waiting
      rcases (waits call).mp waiting with before | new
      · exact .inr (once.held call before)
      · exact .inl (congrArg some new.symm)
  · have own : ∀ call ∈ (MessageBlocks.sendP2PMessage (session.calls.issued + 1) content).call,
        session.issue.calls.Waits call := by
      intro call member
      cases member
      exact sound.calls.waits_issue
    rw [connects, connectIdle_iff kept own, once.covered_iff sound, idle]
    constructor
    · intro subscribed call waiting
      rcases (waits call).mp waiting with before | new
      · exact .inl (subscribed rfl call before)
      · exact .inr (congrArg some new.symm)
    · intro holds _ call before
      rcases holds call ((waits call).mpr (.inl before)) with subscribed | new
      · exact subscribed
      · cases new
        exact absurd before.1.2 (Nat.not_succ_le_self _)

/-! ## Connecting -/

theorem AnswersOnce.leaves (once : session.AnswersOnce) (leaves : session.Leaves next none) :
    next.AnswersOnce := by
  rw [leaves.answersOnce_iff once fun _ member => by cases member]
  exact ⟨(fun _ member => by cases member), fun call waits => .inr (once.held call waits)⟩

theorem Sound.leavesAll (sound : session.Sound) (leaves : session.Leaves next none) :
    next.Sound :=
  sound.leaves leaves (fun _ member => by cases member) fun _ member => by cases member

theorem Sound.forgetsAll (sound : session.Sound) (forgets : session.Forgets next none) :
    next.Sound :=
  sound.forgets forgets fun _ member => by cases member

theorem connect_cases (session : WebOSMessageSession) (joinOnly : Bool) :
    (session.isIdle = false ∧ session.Leaves (session.connect (.client joinOnly)) none) ∨
      (session.isIdle = true ∧
        session.connect (.client joinOnly) = session.connectIdle (.client joinOnly)) := by
  rw [connect, isIdle]
  cases session.socket.any SessionSocket.connecting with
  | true => exact .inl ⟨Bool.and_false _, rfl, rfl, rfl, rfl⟩
  | false =>
      cases session.connected with
      | true => exact .inl ⟨rfl, session.leaves_self⟩
      | false => exact .inr ⟨rfl, rfl⟩

theorem connect_iff (once : session.AnswersOnce) (sound : session.Sound) (joinOnly : Bool) :
    (session.isIdle = true → session.Covered) ↔
      (session.connect (.client joinOnly)).AnswersOnce := by
  rcases session.connect_cases joinOnly with ⟨busy, leaves⟩ | ⟨idle, connects⟩
  · rw [busy]
    exact iff_of_true (fun impossible => by cases impossible) (once.leaves leaves)
  · have own : ∀ call ∈ (MessageBlocks.client joinOnly).call, session.calls.Waits call :=
      fun _ member => by cases member
    have nobody : (MessageBlocks.client joinOnly).call = none := rfl
    rw [connects, connectIdle_iff once own, nobody, idle, once.covered_iff sound]
    simp only [reduceCtorEq, or_false, forall_const]

theorem Sound.connect (sound : session.Sound) (joinOnly : Bool) :
    (session.connect (.client joinOnly)).Sound := by
  rcases session.connect_cases joinOnly with ⟨_, leaves⟩ | ⟨_, connects⟩
  · exact sound.leavesAll leaves
  · rw [connects]
    exact sound.connectIdle fun _ member => by cases member

/-- The blocks that wait for the socket run or go to a subscription. -/
theorem socketDidConnect_cases (sound : session.Sound) :
    session.Leaves session.socketDidConnect none ∨
      ∃ blocks, session.connectBlocks = some blocks ∧
        (session.Forgets session.socketDidConnect blocks.failure ∨
          session.socketDidConnect.calls = session.calls ∧
            session.socketDidConnect.connectBlocks = none ∧
            ∀ call, session.socketDidConnect.Subscribed call ↔
              session.Subscribed call ∨ blocks.call = some call) := by
  rw [socketDidConnect]
  cases waiting : session.connectBlocks with
  | none => exact .inl session.leaves_self
  | some blocks =>
      refine .inr ⟨blocks, rfl, ?_⟩
      dsimp only
      rw [connectToWebApp]
      split
      · exact .inl ⟨rfl, rfl, rfl⟩
      · have present := sound.socket
        rw [waiting] at present
        rcases Option.isSome_iff_exists.mp (present rfl) with ⟨socket, found⟩
        rw [found]
        exact .inr ⟨rfl, rfl, @subscribed_append session _ blocks socket.number rfl⟩

theorem socketDidConnect_answersOnce (once : session.AnswersOnce) (sound : session.Sound) :
    session.socketDidConnect.AnswersOnce := by
  rcases socketDidConnect_cases sound with leaves | ⟨blocks, waiting, outcome⟩
  · exact once.leaves leaves
  · have awaits : ∀ call, session.AwaitsSocket call ↔ blocks.call = some call := by
      intro call
      rw [AwaitsSocket, waiting]
      rfl
    rcases outcome with forgets | ⟨calls, _, subscribed⟩
    · have waits : ∀ given ∈ blocks.failure, session.calls.Waits given.request :=
        fun given member => once.waits sound
          ((awaits given.request).mpr (MessageBlocks.call_of_failure member))
      rw [forgets.answersOnce_iff once fun given member => (waits given member).1,
        blocks.failure_request]
      refine ⟨waits, ?_⟩
      intro call waits
      exact (once.held call waits).imp_left (awaits call).mp
    · rw [AnswersOnce, calls, once.held_iff]
      intro call waits
      refine .inr ((subscribed call).mpr ?_)
      exact (once.held call waits).symm.imp_right (awaits call).mp

theorem Sound.socketDidConnect (sound : session.Sound) : session.socketDidConnect.Sound := by
  rcases socketDidConnect_cases sound with leaves | ⟨blocks, waiting, outcome⟩
  · exact sound.leavesAll leaves
  · have awaits : ∀ call, blocks.call = some call → session.Held call := by
      intro call own
      refine .inl ?_
      rw [AwaitsSocket, waiting]
      exact own
    rcases outcome with forgets | ⟨calls, gone, subscribed⟩
    · exact sound.forgets forgets (sound.failure awaits)
    · apply sound.forget (fun _ member => by cases member)
        (calls.trans (RequestBook.record_none _).symm) gone
      intro call holds
      exact ((subscribed call).mp holds).elim .inr (awaits call)

/-- What waits for the socket fails with it. -/
theorem socketDidFail_forgets (session : WebOSMessageSession) :
    session.Forgets session.socketDidFail
      (session.connectBlocks.bind MessageBlocks.failure) := by
  rw [socketDidFail]
  cases session.connectBlocks with
  | none => exact session.disconnectFromWebApp_forgets
  | some blocks => exact ⟨rfl, rfl, rfl⟩

theorem awaitsSocket_iff (session : WebOSMessageSession) (call : Nat) :
    session.AwaitsSocket call ↔
      (session.connectBlocks.bind MessageBlocks.failure).map Answer.request = some call := by
  rw [AwaitsSocket]
  cases session.connectBlocks with
  | none => rfl
  | some blocks => rw [Option.bind_some, Option.bind_some, blocks.failure_request]

theorem socketDidFail_answersOnce (once : session.AnswersOnce) (sound : session.Sound) :
    session.socketDidFail.AnswersOnce := by
  have waits : ∀ given ∈ session.connectBlocks.bind MessageBlocks.failure,
      session.calls.Waits given.request := fun given member =>
    once.waits sound ((session.awaitsSocket_iff given.request).mpr
      (Option.map_eq_some_iff.mpr ⟨given, member, rfl⟩))
  rw [session.socketDidFail_forgets.answersOnce_iff once fun given member =>
    (waits given member).1]
  exact ⟨waits, fun call waits => (once.held call waits).imp_left (session.awaitsSocket_iff call).mp⟩

theorem Sound.socketDidFail (sound : session.Sound) : session.socketDidFail.Sound :=
  sound.forgets session.socketDidFail_forgets fun given member =>
    sound.held given.request (.inl ((session.awaitsSocket_iff given.request).mpr
      (Option.map_eq_some_iff.mpr ⟨given, member, rfl⟩)))

/-! ## Subscriptions -/

theorem succeed_answers_twice (session : WebOSMessageSession) {call : Nat} {message : JSON} :
    ¬(session.succeed (.sendP2PMessage call message)).calls.answered.Nodup := by
  have answers : (session.succeed (.sendP2PMessage call message)).calls.answered =
      session.calls.answered ++ [call] ++ [call] := by
    rw [succeed, answer, RequestBook.answered_record, sendConnected, answer,
      RequestBook.answered_record]
    rfl
  rw [answers, List.append_assoc]
  intro once
  have pair : [call, call].Nodup := (List.nodup_append.mp once).2.1
  exact (List.nodup_cons.mp pair).1 List.mem_cons_self

/-- What a subscription's success callback does. -/
theorem connectReceived_cases (session : WebOSMessageSession) (subscription : Nat)
    (state fullAppId : Option String) :
    (session.Leaves (session.connectReceived subscription state fullAppId) none ∧
        ∀ held ∈ session.subscriptions[subscription]?,
          if state = some "CONNECTED" then held.blocks.call = none
          else ¬(held.blocks.joinOnly = true ∧ state = some "WAITING_FOR_APP")) ∨
      ∃ held, session.subscriptions[subscription]? = some held ∧
        if state = some "CONNECTED" then
          ∃ call message, held.blocks = .sendP2PMessage call message ∧
            session.connectReceived subscription state fullAppId = succeed
              { session with fullAppId := fullAppId.getD session.fullAppId, connected := true }
              (.sendP2PMessage call message)
        else held.blocks.joinOnly = true ∧ state = some "WAITING_FOR_APP" ∧
          session.Forgets (session.connectReceived subscription state fullAppId) none := by
  rw [connectReceived]
  cases found : session.subscriptions[subscription]? with
  | none => exact .inl ⟨session.leaves_self, fun _ member => by cases member⟩
  | some held =>
      dsimp only
      split
      next connected =>
        cases own : held.blocks with
        | client joinOnly =>
            refine .inl ⟨⟨(RequestBook.record_none _).symm, rfl, rfl, rfl⟩, ?_⟩
            intro other member
            cases member
            rw [own]
            rfl
        | sendP2PMessage call message =>
            exact .inr ⟨held, rfl, call, message, own, rfl⟩
      next =>
        split
        next joins =>
          rw [Bool.and_eq_true, decide_eq_true_iff] at joins
          refine .inr ⟨held, rfl, joins.1, joins.2, ?_⟩
          cases own : held.blocks with
          | client joinOnly => exact ⟨rfl, rfl, rfl⟩
          | sendP2PMessage call message =>
              rw [own] at joins
              cases joins.1
        next joins =>
          rw [Bool.and_eq_true, decide_eq_true_iff] at joins
          refine .inl ⟨session.leaves_self, ?_⟩
          intro other member
          cases member
          exact joins

theorem connectReceived_iff (once : session.AnswersOnce) (sound : session.Sound)
    (subscription : Nat) (state fullAppId : Option String) :
    session.KeepsCalls (.connectReceived subscription state fullAppId) ↔
      (session.connectReceived subscription state fullAppId).AnswersOnce := by
  rcases session.connectReceived_cases subscription state fullAppId with
    ⟨leaves, idle⟩ | ⟨held, found, outcome⟩
  · refine iff_of_true ?_ (once.leaves leaves)
    intro held member
    have here := idle held member
    split at here
    next connected =>
      rw [if_pos connected]
      exact here
    next other =>
      rw [if_neg other]
      exact fun joinOnly waiting => absurd ⟨joinOnly, waiting⟩ here
  · simp only [KeepsCalls, found, Option.mem_some_iff, forall_eq']
    split at outcome
    next connected =>
      rcases outcome with ⟨call, message, own, same⟩
      rw [if_pos connected, own, same]
      apply iff_of_false (Option.some_ne_none call)
      intro kept
      exact succeed_answers_twice _ kept.once
    next other =>
      rcases outcome with ⟨joinOnly, waiting, forgets⟩
      rw [if_neg other, ← forgets.covered_iff once sound]
      exact ⟨fun covered => covered joinOnly waiting, fun covered _ _ => covered⟩

theorem Sound.succeed (sound : session.Sound) {call : Nat} {message : JSON}
    (issued : session.calls.Issued call) :
    (session.succeed (.sendP2PMessage call message)).Sound := by
  have given : ∀ answer ∈ some ({ request := call, reply := .success } : Answer CommandBlock),
      session.calls.Issued answer.request := by
    intro answer member
    cases member
    exact issued
  exact ⟨(sound.calls.record given).record given, sound.held, sound.socket,
    fun _ _ once => absurd once (succeed_answers_twice session)⟩

theorem Sound.connectReceived (sound : session.Sound) (subscription : Nat)
    (state fullAppId : Option String) :
    (session.connectReceived subscription state fullAppId).Sound := by
  rcases session.connectReceived_cases subscription state fullAppId with
    ⟨leaves, _⟩ | ⟨held, found, outcome⟩
  · exact sound.leavesAll leaves
  · split at outcome
    next =>
      rcases outcome with ⟨call, message, own, same⟩
      have issued : session.calls.Issued call := by
        refine sound.held call (.inr (subscribed_of_getElem found call ?_))
        rw [own]
        rfl
      have connected : Sound
          { session with fullAppId := fullAppId.getD session.fullAppId, connected := true } :=
        ⟨sound.calls, sound.held, sound.socket, sound.awaiting⟩
      rw [same]
      exact connected.succeed issued
    next => exact sound.forgetsAll outcome.2.2

theorem connectFailed_forgets {subscription : Nat} {held : AppSubscription}
    (found : session.subscriptions[subscription]? = some held) (appChannelDidClose : Bool) :
    session.Forgets (session.connectFailed subscription appChannelDidClose)
      (if appChannelDidClose then none else held.blocks.failure) := by
  rw [connectFailed, found]
  cases appChannelDidClose with
  | true => exact session.disconnectFromWebApp_forgets
  | false => exact ⟨rfl, rfl, rfl⟩

theorem connectFailed_iff (once : session.AnswersOnce) (sound : session.Sound)
    (subscription : Nat) (appChannelDidClose : Bool) :
    session.KeepsCalls (.connectFailed subscription appChannelDidClose) ↔
      (session.connectFailed subscription appChannelDidClose).AnswersOnce := by
  cases found : session.subscriptions[subscription]? with
  | none =>
      have same : session.connectFailed subscription appChannelDidClose = session := by
        rw [connectFailed, found]
      rw [same]
      apply iff_of_true _ once
      intro held member
      rw [found] at member
      cases member
  | some held =>
      have forgets := connectFailed_forgets found appChannelDidClose
      simp only [KeepsCalls, found, Option.mem_some_iff, forall_eq']
      cases appChannelDidClose with
      | true =>
          rw [forgets.covered_iff once sound]
          exact and_iff_left fun impossible => by cases impossible
      | false =>
          have subscribed : ∀ call ∈ held.blocks.call, session.Subscribed call :=
            fun call own => subscribed_of_getElem found call own
          rw [forgets.answersOnce_iff once
            (sound.failure fun call own => .inr (subscribed call own)), once.covered_iff sound]
          simp only [Bool.false_eq_true, if_false, held.blocks.failure_request, forall_const]
          constructor
          · rintro ⟨covered, own⟩
            exact ⟨fun given member => own given.request (MessageBlocks.call_of_failure member),
              fun call waits => .inr (covered call waits)⟩
          · rintro ⟨waits, covered⟩
            refine ⟨fun call waiting => (covered call waiting).elim (subscribed call) id, ?_⟩
            intro call own
            exact waits { request := call, reply := .failure }
              (Option.map_eq_some_iff.mpr ⟨call, own, rfl⟩)

theorem Sound.connectFailed (sound : session.Sound) (subscription : Nat)
    (appChannelDidClose : Bool) :
    (session.connectFailed subscription appChannelDidClose).Sound := by
  cases found : session.subscriptions[subscription]? with
  | none =>
      have same : session.connectFailed subscription appChannelDidClose = session := by
        rw [WebOSMessageSession.connectFailed, found]
      rw [same]
      exact sound
  | some held =>
      apply sound.forgets (connectFailed_forgets found appChannelDidClose)
      cases appChannelDidClose with
      | true => exact fun _ member => by cases member
      | false =>
          exact sound.failure fun call own => .inr (subscribed_of_getElem found call own)

theorem subscribed_forgotten (session : WebOSMessageSession) (socket call : Nat) :
    (session.subscriptionsForgotten socket).Subscribed call ↔
      ∃ held ∈ session.subscriptions, held.socket ≠ socket ∧ held.blocks.call = some call := by
  rw [Subscribed, subscriptionsForgotten]
  simp only [List.mem_filter, bne_iff_ne, and_assoc]

theorem subscriptionsForgotten_iff (once : session.AnswersOnce) (socket : Nat) :
    session.KeepsCalls (.subscriptionsForgotten socket) ↔
      (session.subscriptionsForgotten socket).AnswersOnce := by
  have calls : (session.subscriptionsForgotten socket).calls = session.calls := rfl
  rw [AnswersOnce, calls, once.held_iff]
  simp only [Held, subscribed_forgotten]
  rfl

theorem Sound.subscriptionsForgotten (sound : session.Sound) (socket : Nat) :
    (session.subscriptionsForgotten socket).Sound := by
  refine sound.of_calls rfl ?_ (fun _ waiting => .inl waiting) sound.socket
  intro call holds
  refine .inl (holds.imp id ?_)
  intro subscribed
  rcases (session.subscribed_forgotten socket call).mp subscribed with ⟨held, member, _, own⟩
  exact ⟨held, member, own⟩

theorem closeWithSuccess_iff (once : session.AnswersOnce) (sound : session.Sound)
    (registered : Bool) :
    session.KeepsCalls (.closeWithSuccess registered) ↔
      (session.closeWithSuccess registered).AnswersOnce := by
  have closed := session.disconnectFromWebApp_forgets.covered_iff once sound
  rw [KeepsCalls, closeWithSuccess]
  cases registered with
  | false => exact iff_of_true (fun impossible => by cases impossible) once
  | true =>
      cases session.appId.isEmpty with
      | true => exact iff_of_true (fun _ impossible => by cases impossible) once
      | false => exact Iff.trans ⟨fun covered => covered rfl rfl, fun covered _ _ => covered⟩ closed

theorem Sound.disconnectFromWebApp (sound : session.Sound) :
    session.disconnectFromWebApp.Sound :=
  sound.forgetsAll session.disconnectFromWebApp_forgets

/-! ## Runs -/

theorem Sound.asDelegate (sound : session.Sound) (socket : Nat)
    (act : WebOSMessageSession → WebOSMessageSession) (acts : (act session).Sound) :
    (session.asDelegate socket act).Sound := by
  rw [WebOSMessageSession.asDelegate]
  split
  · exact acts
  · exact sound

theorem Sound.socketDidClose (sound : session.Sound) (hasError : Bool) :
    (session.socketDidClose hasError).Sound := by
  cases hasError with
  | true => exact sound.socketDidFail
  | false => exact sound.disconnectFromWebApp

theorem Sound.step (sound : session.Sound) (event : MessageSessionEvent) :
    (session.step event).Sound := by
  cases event with
  | sendText message => exact sound.send _
  | sendJSON message => exact sound.send _
  | connect joinOnly => exact sound.connect joinOnly
  | fullAppIdFound fullAppId =>
      exact ⟨sound.calls, sound.held, sound.socket, sound.awaiting⟩
  | socketChanged connecting connected =>
      refine ⟨sound.calls, sound.held, ?_, sound.awaiting⟩
      intro waiting
      exact Option.isSome_map.trans (sound.socket waiting)
  | socketDidConnect socket => exact sound.asDelegate socket _ sound.socketDidConnect
  | socketDidFail socket => exact sound.asDelegate socket _ sound.socketDidFail
  | socketDidClose socket hasError =>
      exact sound.asDelegate socket (fun session => session.socketDidClose hasError)
        (sound.socketDidClose hasError)
  | connectReceived subscription state fullAppId =>
      exact sound.connectReceived subscription state fullAppId
  | connectFailed subscription appChannelDidClose =>
      exact sound.connectFailed subscription appChannelDidClose
  | subscriptionsForgotten socket => exact sound.subscriptionsForgotten socket
  | closeWithSuccess registered =>
      rw [WebOSMessageSession.step, WebOSMessageSession.closeWithSuccess]
      split
      · exact sound.disconnectFromWebApp
      · exact sound
  | disconnectFromWebApp => exact sound.disconnectFromWebApp

/-- A message that is not empty is one to send. -/
theorem isSome_filter_map {Message : Type} (message : Option Message)
    (isFull : Message → Bool) (content : Message → JSON) :
    ((message.filter isFull).map content).isSome = message.any isFull := by
  cases message with
  | none => rfl
  | some message =>
      rw [Option.filter_some, Option.any_some]
      cases isFull message <;> rfl

theorem sendMessage_iff (once : session.AnswersOnce) (sound : session.Sound) {Message : Type}
    (message : Option Message) (isFull : Message → Bool) (content : Message → JSON) :
    (message.any isFull = true → session.isIdle = true → session.Covered) ↔
      (session.send ((message.filter isFull).map content)).AnswersOnce := by
  rw [← send_iff once sound, isSome_filter_map, Bool.and_eq_true, and_imp]

/-- While the calls are kept, a step keeps them exactly if it is one that does. -/
theorem keepsCalls_iff (once : session.AnswersOnce) (sound : session.Sound)
    (event : MessageSessionEvent) :
    session.KeepsCalls event ↔ (session.step event).AnswersOnce := by
  cases event with
  | sendText message => exact sendMessage_iff once sound message _ _
  | sendJSON message => exact sendMessage_iff once sound message _ _
  | connect joinOnly => exact connect_iff once sound joinOnly
  | fullAppIdFound fullAppId => exact iff_of_true trivial once
  | socketChanged connecting connected => exact iff_of_true trivial once
  | socketDidConnect socket =>
      refine iff_of_true trivial ?_
      rw [step, asDelegate]
      split
      · exact socketDidConnect_answersOnce once sound
      · exact once
  | socketDidFail socket =>
      refine iff_of_true trivial ?_
      rw [step, asDelegate]
      split
      · exact socketDidFail_answersOnce once sound
      · exact once
  | socketDidClose socket hasError =>
      rw [step, asDelegate]
      cases hasError with
      | true =>
          refine iff_of_true trivial ?_
          split
          · exact socketDidFail_answersOnce once sound
          · exact once
      | false =>
          split
          next known =>
            exact (forall_prop_of_true known).trans
              (session.disconnectFromWebApp_forgets.covered_iff once sound)
          next unknown => exact iff_of_true (fun known => absurd known unknown) once
  | connectReceived subscription state fullAppId =>
      exact connectReceived_iff once sound subscription state fullAppId
  | connectFailed subscription appChannelDidClose =>
      exact connectFailed_iff once sound subscription appChannelDidClose
  | subscriptionsForgotten socket => exact subscriptionsForgotten_iff once socket
  | closeWithSuccess registered => exact closeWithSuccess_iff once sound registered
  | disconnectFromWebApp =>
      exact session.disconnectFromWebApp_forgets.covered_iff once sound

theorem sound_initial (appId fullAppId : String) :
    Sound { appId, fullAppId } := by
  refine ⟨(fun _ given => by cases given), ?_, (fun impossible => by cases impossible), ?_⟩
  · intro call holds
    rcases holds with waiting | ⟨held, member, _⟩
    · cases waiting
    · cases member
  · intro call waiting
    cases waiting

theorem answersOnce_initial (appId fullAppId : String) :
    AnswersOnce { appId, fullAppId } := by
  refine ⟨List.nodup_nil, ?_⟩
  intro call waits
  exact absurd (Nat.le_antisymm waits.1.2 (Nat.zero_le _)) (Nat.ne_of_gt waits.1.1)

/-- Throughout a run, of the blocks of each call exactly one runs, once, or none as long as
something still has them, exactly if every step keeps the calls. -/
theorem run_messages_iff (appId fullAppId : String) (events : List MessageSessionEvent) :
    EveryStep stepped KeepsCalls { appId, fullAppId } events ↔
      Throughout stepped AnswersOnce { appId, fullAppId } events := by
  rcases exists_runFrom step { appId, fullAppId } events with ⟨final, reached⟩
  have preserved : ∀ session event next, Sound session → stepped session event = some next →
      next.Sound := by
    intro session event next sound taken
    cases taken
    exact sound.step event
  have agree : ∀ session event next, Sound session → session.AnswersOnce →
      stepped session event = some next → (session.KeepsCalls event ↔ next.AnswersOnce) := by
    intro session event next sound once taken
    cases taken
    exact keepsCalls_iff once sound event
  exact everyStep_iff_throughout preserved agree (sound_initial appId fullAppId)
    (answersOnce_initial appId fullAppId) reached

/-- A text is sent while the session is not connected. As the session connects, the success
block runs for the message and once more for the connect. -/
theorem sendText_succeeds_twice :
    ¬Throughout stepped AnswersOnce { appId := "player", fullAppId := "player" }
      [.sendText (some "play"), .socketDidConnect 0,
        .connectReceived 0 (some "CONNECTED") none] := by
  intro kept
  have last := kept.2.2.2.once
  revert last
  decide +kernel

end WebOSMessageSession

end ConnectSDK
