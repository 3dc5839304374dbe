import ConnectSDK.Services.Sessions.IssuedCommands

/-! # Answers to media commands

A media command waits until the web app answers it or connecting for it fails. Closing the
session or its socket answers none of the commands that wait, and a command whose connect
failed stays active, so that the app may still answer it.
-/

namespace ConnectSDK

namespace WebOSMediaSession

open WebOSTVServiceSocketClient

/-- No command was answered twice, and none that was made before the session or its socket
closed is unanswered. -/
def AnswersOnce (session : WebOSMediaSession) : Prop :=
  session.book.Settled

/-- A response finds its command waiting, and whatever closes the session or its socket finds
no command waiting but the one whose connect fails by it. -/
def InTurn (session : WebOSMediaSession) : MediaSessionEvent → Prop
  | .sendMediaCommand _ | .connect _ =>
      session.failsAtOnce = true → session.book.WaitsOnly none
  | .socketDidConnect socket =>
      socket ∈ session.delegates → session.appId.isEmpty = true →
        ∀ blocks ∈ session.connectBlocks, session.book.WaitsOnly blocks.command
  | .socketDidFail socket | .socketDidClose socket true =>
      socket ∈ session.delegates →
        session.book.WaitsOnly (session.connectBlocks.bind ConnectBlocks.command)
  | .socketDidClose socket false =>
      socket ∈ session.delegates → session.book.WaitsOnly none
  | .didReceiveMessage socket fromAppId message =>
      socket ∈ session.delegates →
        ∀ command ∈ session.answeredBy fromAppId message, session.book.Waits command
  | .connectReceived subscription state _ =>
      ∀ blocks ∈ session.subscriptions[subscription]?, blocks.joinOnly = true →
        state = some "WAITING_FOR_APP" → session.book.WaitsOnly blocks.command
  | .connectFailed subscription appChannelDidClose =>
      ∀ blocks ∈ session.subscriptions[subscription]?,
        session.book.WaitsOnly (if appChannelDidClose then none else blocks.command)
  | .closeWithSuccess _ | .disconnectFromWebApp => session.book.WaitsOnly none
  | .appIdMapped .. | .socketChanged .. => True

/-- What may answer a command: a response of the session's own app that carries its request
id, or a connect for it that fails. -/
def Causes (session : WebOSMediaSession) : MediaSessionEvent → Answer CommandBlock → Prop
  | .sendMediaCommand _, answer =>
      answer = { request := session.uid + 1, reply := .failure }
  | .socketDidConnect _, answer | .socketDidFail _, answer
  | .socketDidClose _ true, answer =>
      ∃ blocks ∈ session.connectBlocks, answer ∈ blocks.failure
  | .connectReceived subscription _ _, answer | .connectFailed subscription _, answer =>
      ∃ blocks ∈ session.subscriptions[subscription]?, answer ∈ blocks.failure
  | .didReceiveMessage _ fromAppId message, answer =>
      fromAppId = some session.getFullAppId.2 ∧
        ∃ payload error, responseOf message = some (some payload) ∧
          objectForKey (some payload) "requestId" =
            some (some (.string (requestKey answer.request))) ∧
          objectForKey (some payload) "error" = some error ∧
          answer.reply = if error.isNone then .success else .failure
  | _, _ => False

/-- An event runs only blocks that it may run. -/
def RunsCaused (session next : WebOSMediaSession) (event : MediaSessionEvent) : Prop :=
  ∃ answers, next.answers = session.answers ++ answers ∧
    ∀ answer ∈ answers, session.Causes event answer

def AnswersWithCause (session : WebOSMediaSession) (event : MediaSessionEvent) : Prop :=
  ∀ next, session.step event = some next → session.RunsCaused next event

variable {session next : WebOSMediaSession} {blocks : ConnectBlocks}

/-! ## Steps in turn -/

theorem AnswersOnce.of_book (once : session.AnswersOnce) (same : next.book = session.book) :
    next.AnswersOnce := by
  rw [AnswersOnce, same]
  exact once

theorem AnswersOnce.close_iff (once : session.AnswersOnce) (knows : session.Knows blocks)
    (closed : next.book = session.book.close blocks.failure) :
    next.AnswersOnce ↔ session.book.WaitsOnly blocks.command := by
  rw [AnswersOnce, closed, RequestBook.Settled.close_iff once knows.failure,
    blocks.failure_request]

theorem AnswersOnce.closeUnanswered_iff (once : session.AnswersOnce)
    (closed : next.book = session.book.close none) :
    next.AnswersOnce ↔ session.book.WaitsOnly none := by
  rw [AnswersOnce, closed]
  exact RequestBook.Settled.close_iff once fun _ member => by cases member

theorem connect_iff (once : session.AnswersOnce) (joinOnly : Bool) :
    session.InTurn (.connect joinOnly) ↔ (session.connect { joinOnly }).AnswersOnce := by
  rcases session.connect_book { joinOnly } with ⟨fails, closed⟩ | ⟨goesOn, outcome⟩
  · rw [once.closeUnanswered_iff closed]
    exact ⟨fun inTurn => inTurn fails, fun only _ => only⟩
  · refine iff_of_true (fun fails => absurd fails (Bool.eq_false_iff.mp goesOn)) ?_
    rcases outcome with recorded | kept
    · exact once.of_book (recorded.trans (RequestBook.record_none session.book))
    · exact once.of_book kept

theorem sendMediaCommand_iff (sound : session.Sound) (once : session.AnswersOnce)
    (command : MediaCommand) :
    session.InTurn (.sendMediaCommand command) ↔
      (session.sendMediaCommand command).AnswersOnce := by
  have settled : session.book.issue.Settled := RequestBook.Settled.issue once
  have waits := sound.book.waits_issue
  have made : ∀ given ∈ some ({ request := session.uid + 1, reply := .failure } :
      Answer CommandBlock), session.book.issue.Issued given.request := by
    intro given member
    cases member
    exact waits.1
  rcases session.sendMediaCommand_book command with ⟨fails, closed⟩ | ⟨goesOn, outcome⟩
  · rw [AnswersOnce, closed, settled.close_iff made]
    exact ⟨fun inTurn => sound.book.waitsOnly_issue.mpr (inTurn fails),
      fun only _ => sound.book.waitsOnly_issue.mp only⟩
  · refine iff_of_true (fun fails => absurd fails (Bool.eq_false_iff.mp goesOn)) ?_
    rcases outcome with recorded | kept
    · rw [AnswersOnce, recorded, settled.record_iff made]
      intro given member
      cases member
      exact waits
    · rw [AnswersOnce, kept]
      exact settled

theorem socketDidConnect_iff (sound : session.Sound) (once : session.AnswersOnce) :
    (session.appId.isEmpty = true →
        ∀ blocks ∈ session.connectBlocks, session.book.WaitsOnly blocks.command) ↔
      session.socketDidConnect.AnswersOnce := by
  have after := session.socketDidConnect_book
  cases empty : session.appId.isEmpty with
  | false =>
      rw [if_neg (Bool.eq_false_iff.mp empty)] at after
      exact iff_of_true (fun impossible => by cases impossible) (once.of_book after)
  | true =>
      rw [if_pos empty] at after
      cases held : session.connectBlocks with
      | none =>
          rw [held] at after
          exact iff_of_true (fun _ _ member => by cases member) (once.of_book after)
      | some blocks =>
          rw [held] at after
          rw [once.close_iff (sound.connecting blocks held) after]
          constructor
          · intro inTurn
            exact inTurn rfl blocks rfl
          · intro only _ other member
            cases member
            exact only

theorem socketDidFail_iff (sound : session.Sound) (once : session.AnswersOnce) :
    session.book.WaitsOnly (session.connectBlocks.bind ConnectBlocks.command) ↔
      session.socketDidFail.AnswersOnce := by
  have after := session.socketDidFail_book
  cases held : session.connectBlocks with
  | none =>
      rw [held] at after
      exact (once.closeUnanswered_iff after).symm
  | some blocks =>
      rw [held] at after
      exact (once.close_iff (sound.connecting blocks held) after).symm

theorem didReceiveMessage_iff (sound : session.Sound) (once : session.AnswersOnce)
    {fromAppId : Option String} {message : JSON}
    (taken : session.didReceiveMessage fromAppId message = some next) :
    (∀ command ∈ session.answeredBy fromAppId message, session.book.Waits command) ↔
      next.AnswersOnce := by
  rcases didReceiveMessage_cases taken with
    ⟨nothing, same⟩ | ⟨payload, requestId, active, error, _, _, _, _, found, answers, same⟩
  · rw [nothing, same]
    exact iff_of_true (fun _ member => by cases member) (once.of_book rfl)
  · have recorded : next.book = session.book.record (some
        { request := active.number, reply := if error.isNone then .success else .failure }) := by
      rw [same]
      rfl
    rw [AnswersOnce, recorded, RequestBook.Settled.record_iff once, answers]
    · constructor
      · intro waits given member
        cases member
        exact waits active.number rfl
      · intro waits other member
        cases member
        exact waits _ rfl
    · intro given member
      cases member
      exact (sound.activeCommand found).2

theorem connectReceived_iff (sound : session.Sound) (once : session.AnswersOnce)
    (subscription : Nat) (state fullAppId : Option String) :
    session.InTurn (.connectReceived subscription state fullAppId) ↔
      (session.connectReceived subscription state fullAppId).AnswersOnce := by
  rcases session.connectReceived_book subscription state fullAppId with
    ⟨blocks, held, joinOnly, waiting, closed⟩ | ⟨other, kept⟩
  · rw [once.close_iff (sound.subscribed blocks (List.mem_of_getElem? held)) closed]
    constructor
    · intro inTurn
      exact inTurn blocks held joinOnly waiting
    · intro only other member _ _
      cases held.symm.trans member
      exact only
  · refine iff_of_true ?_ (once.of_book kept)
    intro blocks held joinOnly waiting
    exact absurd waiting (other blocks held joinOnly)

theorem connectFailed_iff (sound : session.Sound) (once : session.AnswersOnce)
    (subscription : Nat) (appChannelDidClose : Bool) :
    session.InTurn (.connectFailed subscription appChannelDidClose) ↔
      (session.connectFailed subscription appChannelDidClose).AnswersOnce := by
  have after := session.connectFailed_book subscription appChannelDidClose
  cases held : session.subscriptions[subscription]? with
  | none =>
      rw [held] at after
      refine iff_of_true ?_ (once.of_book after)
      intro blocks member
      cases held.symm.trans member
  | some blocks =>
      rw [held] at after
      have only : session.book.WaitsOnly (if appChannelDidClose then none else blocks.command) ↔
          (session.connectFailed subscription appChannelDidClose).AnswersOnce := by
        cases appChannelDidClose with
        | true => exact (once.closeUnanswered_iff after).symm
        | false =>
            have knows := sound.subscribed blocks (List.mem_of_getElem? held)
            exact (once.close_iff knows after).symm
      rw [← only]
      constructor
      · intro inTurn
        exact inTurn blocks held
      · intro waits other member
        cases held.symm.trans member
        exact waits

/-- What reaches the session from a socket, it does as the socket's delegate. -/
theorem asDelegate_iff (once : session.AnswersOnce) {socket : Nat}
    {act : WebOSMediaSession → Option WebOSMediaSession} {inTurn : Prop}
    (taken : session.asDelegate socket act = some next)
    (agree : ∀ acted, act session = some acted → (inTurn ↔ acted.AnswersOnce)) :
    (socket ∈ session.delegates → inTurn) ↔ next.AnswersOnce := by
  rcases asDelegate_cases taken with ⟨member, done⟩ | ⟨foreign, same⟩
  · rw [← agree next done]
    exact ⟨fun holds => holds member, fun holds _ => holds⟩
  · rw [same]
    exact iff_of_true (fun member => absurd member foreign) once

/-- A step from a session that answered every command once leads to another such session
exactly when it is in turn. -/
theorem inTurn_iff (sound : session.Sound) (once : session.AnswersOnce)
    {event : MediaSessionEvent} (taken : session.step event = some next) :
    session.InTurn event ↔ next.AnswersOnce := by
  cases event with
  | sendMediaCommand command =>
      cases taken
      exact sendMediaCommand_iff sound once command
  | connect joinOnly =>
      cases taken
      exact connect_iff once joinOnly
  | appIdMapped fullAppId appId =>
      cases taken
      exact iff_of_true trivial (once.of_book rfl)
  | socketChanged connecting connected =>
      cases taken
      exact iff_of_true trivial (once.of_book rfl)
  | socketDidConnect socket =>
      rw [step] at taken
      refine asDelegate_iff once taken fun acted done => ?_
      cases done
      exact socketDidConnect_iff sound once
  | socketDidFail socket =>
      rw [step] at taken
      refine asDelegate_iff once taken fun acted done => ?_
      cases done
      exact socketDidFail_iff sound once
  | socketDidClose socket hasError =>
      cases hasError with
      | true =>
          rw [step] at taken
          refine asDelegate_iff once taken fun acted done => ?_
          cases done
          exact socketDidFail_iff sound once
      | false =>
          rw [step] at taken
          refine asDelegate_iff once taken fun acted done => ?_
          cases done
          exact (once.closeUnanswered_iff session.disconnectFromWebApp_book).symm
  | didReceiveMessage socket fromAppId message =>
      rw [step] at taken
      exact asDelegate_iff once taken fun acted done => didReceiveMessage_iff sound once done
  | connectReceived subscription state fullAppId =>
      cases taken
      exact connectReceived_iff sound once subscription state fullAppId
  | connectFailed subscription appChannelDidClose =>
      cases taken
      exact connectFailed_iff sound once subscription appChannelDidClose
  | closeWithSuccess registered =>
      cases taken
      exact (once.closeUnanswered_iff (session.closeWithSuccess_book registered)).symm
  | disconnectFromWebApp =>
      cases taken
      exact (once.closeUnanswered_iff session.disconnectFromWebApp_book).symm

/-! ## Causes -/

theorem runsCaused_of_kept {event : MediaSessionEvent} (kept : next.answers = session.answers) :
    session.RunsCaused next event :=
  ⟨[], kept.trans (List.append_nil _).symm, fun _ member => by cases member⟩

theorem runsCaused_of_added {event : MediaSessionEvent} {answer : Option (Answer CommandBlock)}
    (added : next.answers = session.answers ++ answer.toList)
    (caused : ∀ given ∈ answer, session.Causes event given) :
    session.RunsCaused next event :=
  ⟨answer.toList, added, fun given member => caused given (Option.mem_toList.mp member)⟩

theorem runsCaused_asDelegate {event : MediaSessionEvent} {socket : Nat}
    {act : WebOSMediaSession → Option WebOSMediaSession}
    (taken : session.asDelegate socket act = some next)
    (caused : ∀ acted, act session = some acted → session.RunsCaused acted event) :
    session.RunsCaused next event := by
  rcases asDelegate_cases taken with ⟨_, done⟩ | ⟨_, same⟩
  · exact caused next done
  · rw [same]
    exact runsCaused_of_kept rfl

theorem sendMediaCommand_caused (session : WebOSMediaSession) (command : MediaCommand) :
    session.RunsCaused (session.sendMediaCommand command) (.sendMediaCommand command) := by
  have own : ∀ given ∈ some ({ request := session.uid + 1, reply := .failure } :
      Answer CommandBlock), session.Causes (.sendMediaCommand command) given := by
    intro given member
    cases member
    rfl
  rcases session.sendMediaCommand_book command with ⟨_, closed⟩ | ⟨_, recorded | kept⟩
  · exact runsCaused_of_added (congrArg RequestBook.answers closed) own
  · exact runsCaused_of_added (congrArg RequestBook.answers recorded) own
  · exact runsCaused_of_kept (congrArg RequestBook.answers kept)

theorem connect_caused (session : WebOSMediaSession) (joinOnly : Bool) :
    session.RunsCaused (session.connect { joinOnly }) (.connect joinOnly) := by
  have none : ∀ given ∈ ConnectBlocks.failure { joinOnly },
      session.Causes (.connect joinOnly) given := fun _ member => by cases member
  rcases session.connect_book { joinOnly } with ⟨_, closed⟩ | ⟨_, recorded | kept⟩
  · exact runsCaused_of_added (congrArg RequestBook.answers closed) none
  · exact runsCaused_of_added (congrArg RequestBook.answers recorded) none
  · exact runsCaused_of_kept (congrArg RequestBook.answers kept)

theorem socketDidConnect_caused (session : WebOSMediaSession) (socket : Nat) :
    session.RunsCaused session.socketDidConnect (.socketDidConnect socket) := by
  have after := session.socketDidConnect_book
  split at after
  · cases held : session.connectBlocks with
    | none =>
        rw [held] at after
        exact runsCaused_of_kept (congrArg RequestBook.answers after)
    | some blocks =>
        rw [held] at after
        exact runsCaused_of_added (congrArg RequestBook.answers after)
          fun given member => ⟨blocks, held, member⟩
  · exact runsCaused_of_kept (congrArg RequestBook.answers after)

theorem socketDidFail_caused {event : MediaSessionEvent}
    (may : ∀ answer, (∃ blocks ∈ session.connectBlocks, answer ∈ blocks.failure) →
      session.Causes event answer) :
    session.RunsCaused session.socketDidFail event :=
  runsCaused_of_added (congrArg RequestBook.answers session.socketDidFail_book)
    fun given member => may given (Option.bind_eq_some_iff.mp member)

theorem didReceiveMessage_caused (sound : session.Sound) {socket : Nat}
    {fromAppId : Option String} {message : JSON}
    (taken : session.didReceiveMessage fromAppId message = some next) :
    session.RunsCaused next (.didReceiveMessage socket fromAppId message) := by
  rcases didReceiveMessage_cases taken with ⟨_, same⟩ |
    ⟨payload, requestId, active, error, own, read, asked, outcome, found, _, same⟩
  · rw [same]
    exact runsCaused_of_kept rfl
  · rw [same]
    refine ⟨_, rfl, ?_⟩
    intro answer member
    rw [List.mem_singleton.mp member]
    rw [(sound.activeCommand found).1] at asked
    exact ⟨own, payload, error, read, asked, outcome, rfl⟩

theorem connectReceived_caused (session : WebOSMediaSession) (subscription : Nat)
    (state fullAppId : Option String) :
    session.RunsCaused (session.connectReceived subscription state fullAppId)
      (.connectReceived subscription state fullAppId) := by
  rcases session.connectReceived_book subscription state fullAppId with
    ⟨blocks, held, _, _, closed⟩ | ⟨_, kept⟩
  · exact runsCaused_of_added (congrArg RequestBook.answers closed)
      fun given member => ⟨blocks, held, member⟩
  · exact runsCaused_of_kept (congrArg RequestBook.answers kept)

theorem connectFailed_caused (session : WebOSMediaSession) (subscription : Nat)
    (appChannelDidClose : Bool) :
    session.RunsCaused (session.connectFailed subscription appChannelDidClose)
      (.connectFailed subscription appChannelDidClose) := by
  have after := session.connectFailed_book subscription appChannelDidClose
  cases held : session.subscriptions[subscription]? with
  | none =>
      rw [held] at after
      exact runsCaused_of_kept (congrArg RequestBook.answers after)
  | some blocks =>
      rw [held] at after
      refine runsCaused_of_added (congrArg RequestBook.answers after) fun given member => ?_
      cases appChannelDidClose with
      | true => cases member
      | false => exact ⟨blocks, held, member⟩

theorem closed_caused {event : MediaSessionEvent}
    (closed : next.book = session.book.close none) : session.RunsCaused next event :=
  runsCaused_of_added (congrArg RequestBook.answers closed) fun _ member => by cases member

/-- A command is answered for a response with its request id, or for a failed connect. -/
theorem answersWithCause (sound : session.Sound) (event : MediaSessionEvent) :
    session.AnswersWithCause event := by
  intro next taken
  cases event with
  | sendMediaCommand command =>
      cases taken
      exact session.sendMediaCommand_caused command
  | connect joinOnly =>
      cases taken
      exact session.connect_caused joinOnly
  | appIdMapped fullAppId appId =>
      cases taken
      exact runsCaused_of_kept rfl
  | socketChanged connecting connected =>
      cases taken
      exact runsCaused_of_kept rfl
  | socketDidConnect socket =>
      rw [step] at taken
      refine runsCaused_asDelegate taken fun acted done => ?_
      cases done
      exact session.socketDidConnect_caused socket
  | socketDidFail socket =>
      rw [step] at taken
      refine runsCaused_asDelegate taken fun acted done => ?_
      cases done
      exact socketDidFail_caused fun _ failed => failed
  | socketDidClose socket hasError =>
      rw [step] at taken
      refine runsCaused_asDelegate taken fun acted done => ?_
      cases done
      cases hasError with
      | true => exact socketDidFail_caused fun _ failed => failed
      | false => exact closed_caused session.disconnectFromWebApp_book
  | didReceiveMessage socket fromAppId message =>
      rw [step] at taken
      exact runsCaused_asDelegate taken fun acted done => didReceiveMessage_caused sound done
  | connectReceived subscription state fullAppId =>
      cases taken
      exact session.connectReceived_caused subscription state fullAppId
  | connectFailed subscription appChannelDidClose =>
      cases taken
      exact session.connectFailed_caused subscription appChannelDidClose
  | closeWithSuccess registered =>
      cases taken
      exact closed_caused (session.closeWithSuccess_book registered)
  | disconnectFromWebApp =>
      cases taken
      exact closed_caused session.disconnectFromWebApp_book

/-! ## Runs -/

/-- A session as it is created, for an app that the service may know already. -/
def start (appId : String) (isWebApp : Bool) (appToAppIdMappings : List (String × String)) :
    WebOSMediaSession :=
  { appId, isWebApp, appToAppIdMappings }

theorem sound_start (appId : String) (isWebApp : Bool)
    (appToAppIdMappings : List (String × String)) :
    (start appId isWebApp appToAppIdMappings).Sound where
  book _ member := by cases member
  active _ _ found := by cases found
  connecting _ member := by cases member
  subscribed _ member := by cases member

theorem answersOnce_start (appId : String) (isWebApp : Bool)
    (appToAppIdMappings : List (String × String)) :
    (start appId isWebApp appToAppIdMappings).AnswersOnce where
  once := List.nodup_nil
  due _ positive due := absurd (Nat.lt_of_lt_of_le positive due) (Nat.lt_irrefl 0)

/-- Whatever happens, a command is only answered for a cause. -/
theorem run_answersWithCause (appId : String) (isWebApp : Bool)
    (appToAppIdMappings : List (String × String)) (events : List MediaSessionEvent) :
    EveryStep step AnswersWithCause (start appId isWebApp appToAppIdMappings) events :=
  everyStep_of_invariant (fun _ _ _ sound taken => Sound.step sound taken)
    (fun _ event sound => answersWithCause sound event) events
    (sound_start appId isWebApp appToAppIdMappings)

/-- Every command of a run that raises nothing is answered once, for a cause, and by the time
the session or its socket closes, exactly as long as all its steps are in turn. -/
theorem run_answersOnce_iff (appId : String) (isWebApp : Bool)
    (appToAppIdMappings : List (String × String)) {events : List MediaSessionEvent}
    {final : WebOSMediaSession}
    (reached : runFrom step (start appId isWebApp appToAppIdMappings) events = some final) :
    EveryStep step InTurn (start appId isWebApp appToAppIdMappings) events ↔
      EveryStep step AnswersWithCause (start appId isWebApp appToAppIdMappings) events ∧
        Throughout step AnswersOnce (start appId isWebApp appToAppIdMappings) events := by
  rw [and_iff_right (run_answersWithCause appId isWebApp appToAppIdMappings events)]
  refine everyStep_iff_throughout ?_ ?_ (sound_start appId isWebApp appToAppIdMappings)
    (answersOnce_start appId isWebApp appToAppIdMappings) reached
  · intro session event next sound taken
    exact sound.step taken
  · intro session event next sound once taken
    exact inTurn_iff sound once taken

def mediaResponse : JSON :=
  .object [("contentType", .string "connectsdk.mediaCommandResponse"),
    ("mediaCommandResponse", .object [("requestId", .string "req1")])]

/-- A run in which the app answers a command before the session closes. -/
def answeredRun : List MediaSessionEvent :=
  [.sendMediaCommand (.seek 30), .socketDidConnect 0,
    .connectReceived 0 (some "CONNECTED") (some "full"),
    .didReceiveMessage 0 (some "full") mediaResponse, .closeWithSuccess true]

theorem run_answersOnce_answered :
    EveryStep step AnswersWithCause (start "app" true []) answeredRun ∧
      Throughout step AnswersOnce (start "app" true []) answeredRun := by
  refine (run_answersOnce_iff "app" true [] rfl).mp ?_
  refine ⟨?_, ?_, ?_, ?_, ?_, trivial⟩
  · intro impossible
    cases impossible
  · intro _ impossible
    cases impossible
  · intro blocks held joinOnly
    cases held
    cases joinOnly
  · intro _ command answers
    cases answers
    exact ⟨⟨by decide, by decide⟩, by decide⟩
  · intro request
    refine iff_of_false ?_ (Option.some_ne_none request).symm
    rintro ⟨⟨positive, made⟩, unanswered⟩
    exact unanswered (List.mem_singleton.mpr (Nat.le_antisymm made positive))

/-- The session forgets its commands as it closes. -/
theorem close_leaves_unanswered :
    ∃ final, runFrom step (start "app" true [])
        [.sendMediaCommand (.seek 30), .socketDidConnect 0,
          .connectReceived 0 (some "CONNECTED") (some "full"),
          .closeWithSuccess true] = some final ∧
      final.uid = 1 ∧ final.activeCommands = ∅ ∧ final.answers = [] ∧
      ¬final.AnswersOnce := by
  refine ⟨_, rfl, rfl, rfl, rfl, ?_⟩
  intro once
  cases once.due 1 Nat.one_pos (Nat.le_refl 1)

end WebOSMediaSession

end ConnectSDK
