import ConnectSDK.Services.Sessions.WebOSWebAppSession

/-! # The commands of a web app session

Each operation of a session answers at most one of the commands that were made, closes the
session or its socket, or does both.
-/

namespace ConnectSDK

/-- The answer to the command when connecting fails. -/
def ConnectBlocks.failure (blocks : ConnectBlocks) : Option (Answer CommandBlock) :=
  blocks.command.map fun request => { request, reply := .failure }

theorem ConnectBlocks.failure_request (blocks : ConnectBlocks) :
    blocks.failure.map Answer.request = blocks.command := by
  rw [failure, Option.map_map]
  exact Option.map_id'

namespace WebOSMediaSession

open WebOSTVServiceSocketClient

/-- The session's commands and the blocks that ran. -/
def book (session : WebOSMediaSession) : RequestBook CommandBlock where
  issued := session.uid
  answers := session.answers
  closed := session.closed

/-- Connecting fails before `connect:success:failure:` returns, and closes the socket. -/
def failsAtOnce (session : WebOSMediaSession) : Bool :=
  !session.socket.any SessionSocket.connecting && !session.connected &&
    session.socket.any SessionSocket.connected && session.appId.isEmpty

/-- The active command that a message answers. -/
def answeredBy (session : WebOSMediaSession) (fromAppId : Option String) (message : JSON) :
    Option Nat :=
  if fromAppId = some session.getFullAppId.2 then
    (responseOf message).join.bind fun payload =>
      ((objectForKey (some payload) "requestId").bind session.activeCommand).map
        ActiveCommand.number
  else none

/-! ## Commands that were made -/

/-- The command of a call is one that was made. -/
def Knows (session : WebOSMediaSession) (blocks : ConnectBlocks) : Prop :=
  ∀ command ∈ blocks.command, session.book.Issued command

structure Sound (session : WebOSMediaSession) : Prop where
  book : session.book.Sound
  active : ∀ key active, session.activeCommands.lookup key = some active →
    key = requestKey active.number ∧ session.book.Issued active.number
  connecting : ∀ blocks ∈ session.connectBlocks, session.Knows blocks
  subscribed : ∀ blocks ∈ session.subscriptions, session.Knows blocks

variable {session next : WebOSMediaSession} {blocks : ConnectBlocks}

theorem Knows.failure (knows : session.Knows blocks) :
    ∀ given ∈ blocks.failure, session.book.Issued given.request := by
  intro given member
  rcases Option.map_eq_some_iff.mp member with ⟨command, held, same⟩
  subst same
  exact knows command held

theorem fail_eq (session : WebOSMediaSession) (blocks : ConnectBlocks) :
    session.fail blocks =
      { session with answers := session.answers ++ blocks.failure.toList } := by
  unfold fail ConnectBlocks.failure
  cases blocks.command with
  | none => simp
  | some command => rfl

theorem Sound.fail (sound : session.Sound) (knows : session.Knows blocks) :
    (session.fail blocks).Sound := by
  rw [fail_eq]
  exact { sound with book := sound.book.record knows.failure }

theorem Sound.disconnectFromWebApp (sound : session.Sound) :
    session.disconnectFromWebApp.Sound :=
  { sound with connecting := fun _ member => by cases member }

theorem Sound.connectFailure (sound : session.Sound) (knows : session.Knows blocks) :
    (session.connectFailure blocks).Sound :=
  sound.disconnectFromWebApp.fail knows

theorem Sound.connectToWebApp (sound : session.Sound) (knows : session.Knows blocks) :
    (session.connectToWebApp blocks).Sound := by
  unfold WebOSMediaSession.connectToWebApp
  split
  · exact sound.connectFailure knows
  · refine { sound with subscribed := ?_ }
    intro other member
    rcases List.mem_append.mp member with before | new
    · exact sound.subscribed other before
    · rw [List.mem_singleton.mp new]
      exact knows

theorem Sound.sendConnected (sound : session.Sound) (message : JSON) :
    (session.sendConnected message).Sound :=
  { sound with }

theorem Sound.succeed (sound : session.Sound) (blocks : ConnectBlocks) :
    (session.succeed blocks).Sound := by
  unfold WebOSMediaSession.succeed
  cases blocks.message with
  | none => exact sound
  | some message => exact sound.sendConnected message

theorem Sound.connect (sound : session.Sound) (knows : session.Knows blocks) :
    (session.connect blocks).Sound := by
  have pending : Sound { session with connectBlocks := some blocks } := by
    refine { sound with connecting := ?_ }
    intro other member
    cases member
    exact knows
  unfold WebOSMediaSession.connect
  split
  · exact sound.fail knows
  split
  · exact sound.succeed blocks
  dsimp only
  split
  · exact pending.connectToWebApp knows
  · exact { pending with }

theorem Sound.sendP2PMessage (sound : session.Sound) (message : JSON) {command : Option Nat}
    (knows : ∀ request ∈ command, session.book.Issued request) :
    (session.sendP2PMessage message command).Sound := by
  unfold WebOSMediaSession.sendP2PMessage
  split
  · exact sound.sendConnected message
  · have found : session.getFullAppId.1.Sound := { sound with }
    exact found.connect knows

/-- The session as it makes a command. -/
def register (session : WebOSMediaSession) (command : MediaCommand) : WebOSMediaSession :=
  { session with
    uid := session.uid + 1
    activeCommands := session.activeCommands.insert (requestKey (session.uid + 1))
      { number := session.uid + 1, command } }

theorem Sound.register (sound : session.Sound) (command : MediaCommand) :
    (session.register command).Sound where
  book := sound.book.issue
  active key active found := by
    rw [WebOSMediaSession.register, Dictionary.lookup_insert_eq] at found
    split at found
    · next same =>
      cases found
      exact ⟨same, session.book.issued_issue⟩
    · have known := sound.active key active found
      exact ⟨known.1, known.2.issue⟩
  connecting blocks member command held :=
    (sound.connecting blocks member command held).issue
  subscribed blocks member command held :=
    (sound.subscribed blocks member command held).issue

theorem sendMediaCommand_eq (session : WebOSMediaSession) (command : MediaCommand) :
    ∃ message, session.sendMediaCommand command =
      (session.register command).sendP2PMessage message (some (session.uid + 1)) :=
  ⟨_, rfl⟩

theorem Sound.sendMediaCommand (sound : session.Sound) (command : MediaCommand) :
    (session.sendMediaCommand command).Sound := by
  rcases session.sendMediaCommand_eq command with ⟨message, same⟩
  rw [same]
  refine (sound.register command).sendP2PMessage message ?_
  intro request held
  cases held
  exact session.book.issued_issue

theorem handleMediaCommandResponse_cases {payload : JSON}
    (taken : session.handleMediaCommandResponse payload = some next) :
    ∃ requestId, objectForKey (some payload) "requestId" = some requestId ∧
      ((session.activeCommand requestId = none ∧ next = session) ∨
        ∃ active error, session.activeCommand requestId = some active ∧
          objectForKey (some payload) "error" = some error ∧
          next = { session.answer active.number
              (if error.isNone then .success else .failure) with
            activeCommands := session.activeCommands.erase
              ((requestId.bind JSON.string?).getD "") }) := by
  rcases Option.bind_eq_some_iff.mp taken with ⟨requestId, asked, answered⟩
  refine ⟨requestId, asked, ?_⟩
  cases found : session.activeCommand requestId with
  | none =>
      rw [found] at answered
      cases answered
      exact .inl ⟨rfl, rfl⟩
  | some active =>
      rw [found] at answered
      rcases Option.bind_eq_some_iff.mp answered with ⟨error, outcome, done⟩
      split at done
      · cases done
        exact .inr ⟨active, error, rfl, outcome, rfl⟩
      · cases done

/-- A message answers no command, or the active one that its request id names. -/
theorem didReceiveMessage_cases {fromAppId : Option String} {message : JSON}
    (taken : session.didReceiveMessage fromAppId message = some next) :
    (session.answeredBy fromAppId message = none ∧ next = session.getFullAppId.1) ∨
      ∃ payload requestId active error, fromAppId = some session.getFullAppId.2 ∧
        responseOf message = some (some payload) ∧
        objectForKey (some payload) "requestId" = some requestId ∧
        objectForKey (some payload) "error" = some error ∧
        session.activeCommand requestId = some active ∧
        session.answeredBy fromAppId message = some active.number ∧
        next = { session.getFullAppId.1.answer active.number
            (if error.isNone then .success else .failure) with
          activeCommands := session.activeCommands.erase
            ((requestId.bind JSON.string?).getD "") } := by
  unfold didReceiveMessage at taken
  unfold answeredBy
  dsimp only at taken
  split at taken
  · next own =>
    rw [if_pos own]
    rcases Option.bind_eq_some_iff.mp taken with ⟨response, read, handled⟩
    cases response with
    | none =>
        cases handled
        exact .inl ⟨by rw [read]; rfl, rfl⟩
    | some payload =>
        rcases handleMediaCommandResponse_cases handled with ⟨requestId, asked, answered⟩
        have named : ((responseOf message).join.bind fun payload =>
            ((objectForKey (some payload) "requestId").bind session.activeCommand).map
              ActiveCommand.number) =
            (session.activeCommand requestId).map ActiveCommand.number := by
          rw [read, Option.join_some, Option.bind_some, asked, Option.bind_some]
        rw [named]
        rcases answered with ⟨inactive, same⟩ | ⟨active, error, found, outcome, same⟩
        · exact .inl ⟨congrArg (Option.map ActiveCommand.number) inactive, same⟩
        · exact .inr ⟨payload, requestId, active, error, own, read, asked, outcome, found,
            congrArg (Option.map ActiveCommand.number) found, same⟩
  · next foreign =>
    rw [if_neg foreign]
    cases taken
    exact .inl ⟨rfl, rfl⟩

/-- The command under a request id is the one that has it. -/
theorem Sound.activeCommand (sound : session.Sound) {requestId : Option JSON}
    {active : ActiveCommand} (found : session.activeCommand requestId = some active) :
    requestId = some (.string (requestKey active.number)) ∧
      session.book.Issued active.number := by
  rcases Option.bind_eq_some_iff.mp found with ⟨key, read, listed⟩
  rcases Option.bind_eq_some_iff.mp read with ⟨json, held, text⟩
  have known := sound.active key active listed
  rw [held, ← known.1]
  cases json with
  | string value =>
      cases text
      exact ⟨rfl, known.2⟩
  | _ => cases text

theorem Sound.didReceiveMessage (sound : session.Sound) {fromAppId : Option String}
    {message : JSON} (taken : session.didReceiveMessage fromAppId message = some next) :
    next.Sound := by
  rcases didReceiveMessage_cases taken with
    ⟨_, same⟩ | ⟨payload, requestId, active, error, _, _, _, _, found, _, same⟩
  · rw [same]
    exact { sound with }
  · rw [same]
    refine { sound with book := ?_, active := ?_ }
    · intro given member
      rcases List.mem_append.mp member with before | new
      · exact sound.book given before
      · rw [List.mem_singleton.mp new]
        exact (sound.activeCommand found).2
    · intro key other listed
      rw [Dictionary.lookup_erase_eq] at listed
      split at listed
      · cases listed
      · exact sound.active key other listed

theorem Sound.connectReceived (sound : session.Sound) (subscription : Nat)
    (state fullAppId : Option String) :
    (session.connectReceived subscription state fullAppId).Sound := by
  unfold WebOSMediaSession.connectReceived
  cases found : session.subscriptions[subscription]? with
  | none => exact sound
  | some blocks =>
      have knows := sound.subscribed blocks (List.mem_of_getElem? found)
      dsimp only
      split
      · apply Sound.succeed
        cases fullAppId with
        | none => exact { sound with }
        | some fullAppId => exact { sound with }
      split
      · exact sound.disconnectFromWebApp.connectFailure knows
      · exact sound

theorem Sound.connectFailed (sound : session.Sound) (subscription : Nat)
    (appChannelDidClose : Bool) :
    (session.connectFailed subscription appChannelDidClose).Sound := by
  unfold WebOSMediaSession.connectFailed
  cases found : session.subscriptions[subscription]? with
  | none => exact sound
  | some blocks =>
      have knows := sound.subscribed blocks (List.mem_of_getElem? found)
      cases appChannelDidClose with
      | true => exact sound.disconnectFromWebApp
      | false => exact sound.disconnectFromWebApp.connectFailure knows

theorem Sound.socketDidConnect (sound : session.Sound) : session.socketDidConnect.Sound := by
  unfold WebOSMediaSession.socketDidConnect
  cases held : session.connectBlocks with
  | none => exact sound
  | some blocks =>
      have next := sound.connectToWebApp (sound.connecting blocks held)
      exact { next with connecting := fun _ member => by cases member }

theorem Sound.socketDidFail (sound : session.Sound) : session.socketDidFail.Sound := by
  have offline : Sound { session with connected := false } := { sound with }
  unfold WebOSMediaSession.socketDidFail
  cases held : session.connectBlocks with
  | none => exact offline.disconnectFromWebApp
  | some blocks =>
      exact (offline.connectFailure (sound.connecting blocks held)).disconnectFromWebApp

theorem Sound.closeWithSuccess (sound : session.Sound) (registered : Bool) :
    (session.closeWithSuccess registered).Sound := by
  have forgotten : Sound { session with activeCommands := ∅, closed := session.uid } :=
    { sound with active := fun _ _ found => by cases found }
  unfold WebOSMediaSession.closeWithSuccess
  dsimp only
  split
  · exact forgotten.disconnectFromWebApp
  · exact forgotten

theorem asDelegate_cases {socket : Nat} {act : WebOSMediaSession → Option WebOSMediaSession}
    (taken : session.asDelegate socket act = some next) :
    (socket ∈ session.delegates ∧ act session = some next) ∨
      (socket ∉ session.delegates ∧ next = session) := by
  unfold asDelegate at taken
  split at taken
  · next member => exact .inl ⟨member, taken⟩
  · next foreign =>
    cases taken
    exact .inr ⟨foreign, rfl⟩

/-- The commands that a session answers, or may answer later, were made. -/
theorem Sound.step (sound : session.Sound) {event : MediaSessionEvent}
    (taken : session.step event = some next) : next.Sound := by
  cases event with
  | sendMediaCommand command =>
      cases taken
      exact sound.sendMediaCommand command
  | connect joinOnly =>
      cases taken
      exact sound.connect fun _ member => by cases member
  | appIdMapped fullAppId appId =>
      cases taken
      exact { sound with }
  | socketChanged connecting connected =>
      cases taken
      exact { sound with }
  | socketDidConnect socket =>
      rw [WebOSMediaSession.step] at taken
      rcases asDelegate_cases taken with ⟨_, done⟩ | ⟨_, same⟩
      · cases done
        exact sound.socketDidConnect
      · exact same ▸ sound
  | socketDidFail socket =>
      rw [WebOSMediaSession.step] at taken
      rcases asDelegate_cases taken with ⟨_, done⟩ | ⟨_, same⟩
      · cases done
        exact sound.socketDidFail
      · exact same ▸ sound
  | socketDidClose socket hasError =>
      rw [WebOSMediaSession.step] at taken
      rcases asDelegate_cases taken with ⟨_, done⟩ | ⟨_, same⟩
      · cases done
        cases hasError with
        | true => exact sound.socketDidFail
        | false => exact sound.disconnectFromWebApp
      · exact same ▸ sound
  | didReceiveMessage socket fromAppId message =>
      rw [WebOSMediaSession.step] at taken
      rcases asDelegate_cases taken with ⟨_, done⟩ | ⟨_, same⟩
      · exact sound.didReceiveMessage done
      · exact same ▸ sound
  | connectReceived subscription state fullAppId =>
      cases taken
      exact sound.connectReceived subscription state fullAppId
  | connectFailed subscription appChannelDidClose =>
      cases taken
      exact sound.connectFailed subscription appChannelDidClose
  | closeWithSuccess registered =>
      cases taken
      exact sound.closeWithSuccess registered
  | disconnectFromWebApp =>
      cases taken
      exact sound.disconnectFromWebApp

/-! ## What each operation answers and closes -/

theorem fail_book (session : WebOSMediaSession) (blocks : ConnectBlocks) :
    (session.fail blocks).book = session.book.record blocks.failure := by
  rw [fail_eq]
  rfl

theorem disconnectFromWebApp_book (session : WebOSMediaSession) :
    session.disconnectFromWebApp.book = session.book.close none :=
  congrArg (RequestBook.mk session.uid · session.uid) (List.append_nil session.answers).symm

theorem connectFailure_book (session : WebOSMediaSession) (blocks : ConnectBlocks) :
    (session.connectFailure blocks).book = session.book.close blocks.failure := by
  rw [connectFailure, fail_book]
  rfl

theorem succeed_book (session : WebOSMediaSession) (blocks : ConnectBlocks) :
    (session.succeed blocks).book = session.book := by
  unfold succeed
  cases blocks.message <;> rfl

theorem connectToWebApp_book (session : WebOSMediaSession) (blocks : ConnectBlocks) :
    (session.connectToWebApp blocks).book =
      if session.appId.isEmpty then session.book.close blocks.failure else session.book := by
  unfold connectToWebApp
  split
  · exact session.connectFailure_book blocks
  · rfl

/-- A connect may fail at once, and it closes nothing when another one is pending. -/
theorem connect_book (session : WebOSMediaSession) (blocks : ConnectBlocks) :
    (session.failsAtOnce = true ∧
        (session.connect blocks).book = session.book.close blocks.failure) ∨
      (session.failsAtOnce = false ∧
        ((session.connect blocks).book = session.book.record blocks.failure ∨
          (session.connect blocks).book = session.book)) := by
  unfold connect
  split
  · next pending =>
    exact .inr ⟨by simp [failsAtOnce, pending], .inl (session.fail_book blocks)⟩
  next pending =>
  split
  · next online => exact .inr ⟨by simp [failsAtOnce, online], .inr (session.succeed_book blocks)⟩
  next online =>
  dsimp only
  split
  · next opened =>
    have subscribed :=
      connectToWebApp_book { session with connectBlocks := some blocks } blocks
    cases empty : session.appId.isEmpty with
    | true =>
        rw [if_pos empty] at subscribed
        exact .inl ⟨by simp [failsAtOnce, pending, online, opened, empty], subscribed⟩
    | false =>
        rw [if_neg (Bool.eq_false_iff.mp empty)] at subscribed
        exact .inr ⟨by simp [failsAtOnce, empty], .inr subscribed⟩
  · next unopened => exact .inr ⟨by simp [failsAtOnce, unopened], .inr rfl⟩

theorem sendMediaCommand_book (session : WebOSMediaSession) (command : MediaCommand) :
    (session.failsAtOnce = true ∧ (session.sendMediaCommand command).book =
        session.book.issue.close (some { request := session.uid + 1, reply := .failure })) ∨
      (session.failsAtOnce = false ∧
        ((session.sendMediaCommand command).book =
            session.book.issue.record
              (some { request := session.uid + 1, reply := .failure }) ∨
          (session.sendMediaCommand command).book = session.book.issue)) := by
  rcases session.sendMediaCommand_eq command with ⟨message, same⟩
  rw [same]
  unfold sendP2PMessage
  split
  · next connected =>
    have online : session.connected = true := connected
    refine .inr ⟨?_, .inr rfl⟩
    simp [failsAtOnce, online]
  · exact (session.register command).getFullAppId.1.connect_book _

theorem socketDidConnect_book (session : WebOSMediaSession) :
    session.socketDidConnect.book =
      if session.appId.isEmpty then
        session.connectBlocks.elim session.book fun blocks => session.book.close blocks.failure
      else session.book := by
  unfold socketDidConnect
  cases session.connectBlocks with
  | none => simp
  | some blocks => exact session.connectToWebApp_book blocks

theorem socketDidFail_book (session : WebOSMediaSession) :
    session.socketDidFail.book =
      session.book.close (session.connectBlocks.bind ConnectBlocks.failure) := by
  unfold socketDidFail
  cases session.connectBlocks with
  | none => exact disconnectFromWebApp_book { session with connected := false }
  | some blocks =>
      rw [disconnectFromWebApp_book, connectFailure_book, RequestBook.close_close]
      rfl

theorem closeWithSuccess_book (session : WebOSMediaSession) (registered : Bool) :
    (session.closeWithSuccess registered).book = session.book.close none := by
  unfold closeWithSuccess
  dsimp only
  split
  · exact disconnectFromWebApp_book
      { session with activeCommands := ∅, closed := session.uid }
  · exact session.disconnectFromWebApp_book

theorem connectReceived_book (session : WebOSMediaSession) (subscription : Nat)
    (state fullAppId : Option String) :
    (∃ blocks ∈ session.subscriptions[subscription]?, blocks.joinOnly = true ∧
        state = some "WAITING_FOR_APP" ∧
        (session.connectReceived subscription state fullAppId).book =
          session.book.close blocks.failure) ∨
      ((∀ blocks ∈ session.subscriptions[subscription]?, blocks.joinOnly = true →
          state ≠ some "WAITING_FOR_APP") ∧
        (session.connectReceived subscription state fullAppId).book = session.book) := by
  unfold connectReceived
  cases session.subscriptions[subscription]? with
  | none => exact .inr ⟨(fun _ impossible => by cases impossible), rfl⟩
  | some blocks =>
      dsimp only
      split
      · next connected =>
        refine .inr ⟨?_, ?_⟩
        · intro _ _ _ waiting
          exact absurd (connected.symm.trans waiting) (by decide)
        · rw [succeed_book]
          cases fullAppId <;> rfl
      split
      · next waiting =>
        rcases Bool.and_eq_true_iff.mp waiting with ⟨joinOnly, waiting⟩
        refine .inl ⟨blocks, rfl, joinOnly, of_decide_eq_true waiting, ?_⟩
        exact session.disconnectFromWebApp.connectFailure_book blocks
      · next other =>
        refine .inr ⟨?_, rfl⟩
        intro held same joinOnly waiting
        cases same
        exact other (Bool.and_eq_true_iff.mpr ⟨joinOnly, decide_eq_true waiting⟩)

theorem connectFailed_book (session : WebOSMediaSession) (subscription : Nat)
    (appChannelDidClose : Bool) :
    (session.connectFailed subscription appChannelDidClose).book =
      session.subscriptions[subscription]?.elim session.book fun blocks =>
        session.book.close (if appChannelDidClose then none else blocks.failure) := by
  unfold connectFailed
  cases session.subscriptions[subscription]? with
  | none => rfl
  | some blocks =>
      cases appChannelDidClose with
      | true => exact session.disconnectFromWebApp_book
      | false => exact session.disconnectFromWebApp.connectFailure_book blocks

end WebOSMediaSession

end ConnectSDK
