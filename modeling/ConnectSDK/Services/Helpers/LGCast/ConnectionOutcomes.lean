import ConnectSDK.Services.Helpers.LGCast.LGCastEvents

/-! # Outcomes of events

Most events only have commands sent and users notified. What else an event does to the
connection is its outcome, told from the event and the state before it.
-/

namespace ConnectSDK

namespace LGCast

def LGCastRequest.isTeardown (request : LGCastRequest) : Bool :=
  request.command = .teardown

def teardowns (cast : LGCast) : List LGCastRequest :=
  cast.requests.filter LGCastRequest.isTeardown

/-- The connection, the services' `isRunning` and the logs about them are the same, and no
teardown was sent. -/
structure Unaffected (cast after : LGCast) : Prop where
  delegate : after.manager.delegate = cast.manager.delegate
  currentState : after.manager.currentState = cast.manager.currentState
  tvDevice : after.manager.tvDevice = cast.manager.tvDevice
  keepAliveTimer : after.manager.keepAliveTimer = cast.manager.keepAliveTimer
  isRunning : ∀ service, after.isRunning service = cast.isRunning service
  created : after.created = cast.created
  opened : after.opened = cast.opened
  closings : after.closings = cast.closings
  teardowns : after.teardowns = cast.teardowns
  callbacks : after.callbacks = cast.callbacks

theorem Unaffected.refl (cast : LGCast) : Unaffected cast cast :=
  ⟨rfl, rfl, rfl, rfl, fun _ => rfl, rfl, rfl, rfl, rfl, rfl⟩

theorem Unaffected.trans {cast between after : LGCast}
    (first : Unaffected cast between) (second : Unaffected between after) :
    Unaffected cast after where
  delegate := second.delegate.trans first.delegate
  currentState := second.currentState.trans first.currentState
  tvDevice := second.tvDevice.trans first.tvDevice
  keepAliveTimer := second.keepAliveTimer.trans first.keepAliveTimer
  isRunning := fun service => (second.isRunning service).trans (first.isRunning service)
  created := second.created.trans first.created
  opened := second.opened.trans first.opened
  closings := second.closings.trans first.closings
  teardowns := second.teardowns.trans first.teardowns
  callbacks := second.callbacks.trans first.callbacks

/-! ## What does not affect the connection -/

/-- The request that a command is sent with, if it can be sent. -/
def sentCommand (cast : LGCast) (command : LGCastCommand) (blocks : ReplyBlocks) :
    List LGCastRequest :=
  match cast.manager.service with
  | none => []
  | some service =>
      if (cast.targets service).clientKey.isSome && (cast.targets service).hasSocket then
        [⟨command, blocks, service, cast.manager.serviceName, cast.manager.serviceType,
          cast.session⟩]
      else
        []

theorem sendCommand_eq (cast : LGCast) (command : LGCastCommand) (blocks : ReplyBlocks) :
    cast.sendCommand command blocks =
      { cast with requests := cast.requests ++ cast.sentCommand command blocks } := by
  cases service : cast.manager.service with
  | none => simp only [sendCommand, sentCommand, service, List.append_nil]
  | some number =>
      simp only [sendCommand, sentCommand, service]
      split
      · rfl
      · rw [List.append_nil]

theorem mem_sentCommand {cast : LGCast} {command : LGCastCommand} {blocks : ReplyBlocks}
    {request : LGCastRequest} (member : request ∈ cast.sentCommand command blocks) :
    request.command = command ∧ request.session = cast.session := by
  unfold sentCommand at member
  split at member
  · cases member
  · split at member
    · rw [List.mem_singleton.mp member]
      exact ⟨rfl, rfl⟩
    · cases member

theorem unaffected_sendCommand (cast : LGCast) {command : LGCastCommand}
    (blocks : ReplyBlocks) (other : command ≠ .teardown) :
    Unaffected cast (cast.sendCommand command blocks) := by
  rw [sendCommand_eq]
  have none : (cast.sentCommand command blocks).filter LGCastRequest.isTeardown = [] := by
    apply List.filter_eq_nil_iff.mpr
    intro request member
    simp [LGCastRequest.isTeardown, (mem_sentCommand member).1, other]
  refine { Unaffected.refl cast with teardowns := ?_ }
  simp [LGCast.teardowns, List.filter_append, none]

theorem unaffected_notify (cast : LGCast) (notification : LGCastNotification) :
    Unaffected cast (cast.notify notification) :=
  { Unaffected.refl cast with }

theorem unaffected_isPlaying (cast : LGCast) (isPlaying : Bool) :
    Unaffected cast { cast with camera := { cast.camera with isPlaying } } :=
  { Unaffected.refl cast with }

theorem unaffected_hasCapabilities (cast : LGCast) (hasCapabilities : Bool) :
    Unaffected cast
      { cast with mirroring := { cast.mirroring with hasCapabilities } } :=
  { Unaffected.refl cast with }

theorem unaffected_unsubscribe (cast : LGCast) (subscription : Option Nat) :
    Unaffected cast (cast.unsubscribe subscription) := by
  cases subscription with
  | none => exact Unaffected.refl cast
  | some subscription =>
      exact { Unaffected.refl cast with }

theorem unaffected_subscribe (cast : LGCast) : Unaffected cast cast.subscribe := by
  unfold subscribe
  split
  · split
    · exact { Unaffected.refl cast with }
    · exact { Unaffected.refl cast with }
  · exact Unaffected.refl cast

theorem unaffected_targets (cast : LGCast) (targets : Nat → CastTarget) :
    Unaffected cast { cast with targets } :=
  { Unaffected.refl cast with }

theorem unaffected_sendSetParameterResponse (cast : LGCast) :
    Unaffected cast cast.sendSetParameterResponse := by
  unfold sendSetParameterResponse
  split
  · exact unaffected_sendCommand cast _ (by decide)
  · exact Unaffected.refl cast

theorem unaffected_sendGetParameterResponse (cast : LGCast) :
    Unaffected cast cast.sendGetParameterResponse := by
  unfold sendGetParameterResponse
  split
  · exact unaffected_sendCommand cast _ (by decide)
  · exact Unaffected.refl cast

theorem unaffected_updateCapability (cast : LGCast) :
    Unaffected cast (ScreenMirroringService.updateCapability cast) := by
  unfold ScreenMirroringService.updateCapability
  split
  · exact unaffected_sendCommand cast _ (by decide)
  · exact Unaffected.refl cast

theorem unaffected_setCameraParameter (cast : LGCast) (result : Bool) :
    Unaffected cast (cast.setCameraParameter result) := by
  unfold setCameraParameter
  split
  · exact unaffected_sendCommand cast _ (by decide)
  · exact Unaffected.refl cast

theorem unaffected_cameraDidChange (cast : LGCast) (isRotation : Bool) :
    Unaffected cast (cast.cameraDidChange isRotation) := by
  unfold cameraDidChange
  split
  · split
    · exact unaffected_sendCommand cast _ (by decide)
    · exact unaffected_notify cast _
  · exact Unaffected.refl cast

theorem unaffected_mirroringUpdated (cast : LGCast) (isVideoSize : Bool) :
    Unaffected cast (cast.mirroringUpdated isVideoSize) := by
  unfold mirroringUpdated
  split
  · exact unaffected_updateCapability cast
  · exact Unaffected.refl cast

theorem unaffected_keepAliveTimerFired (cast : LGCast) :
    Unaffected cast cast.keepAliveTimerFired := by
  unfold keepAliveTimerFired
  split
  · exact unaffected_sendCommand cast _ (by decide)
  · exact Unaffected.refl cast

theorem unaffected_ifCreated {cast : LGCast} {service : ServiceType}
    {act : LGCast → LGCast} (unaffected : Unaffected cast (act cast)) :
    Unaffected cast (cast.ifCreated service act) := by
  unfold ifCreated
  split
  · exact unaffected
  · exact Unaffected.refl cast

/-! ## Outcomes -/

/-- What an event does to the connection. -/
inductive Outcome where
  | nothing
  | creates (service : ServiceType)
  | starts (service : ServiceType) (device : Option TVDevice)
  | stops (service : ServiceType)
  | opens (type : ServiceType) (device : Option TVDevice)
  | closes
  | asksPairing
  | rejectsPairing
  | fails (message : String)
  | completes (values : JSON)
  | receives (callback : ManagerCallback)
  | errs (error : ConnectionError) (message : String)
  | keepsAlive
  | breaksOff (service : ServiceType)

def perform (platform : LGCastPlatform) (cast : LGCast) : Outcome → LGCast
  | .nothing => cast
  | .creates service => cast.sharedInstance service
  | .starts service device => (cast.setRunning true service).openConnection service device
  | .stops service => (cast.setRunning false service).closeConnection
  | .opens type device => cast.openConnection type device
  | .closes => cast.closeConnection
  | .asksPairing => cast.callOnPairingRequested
  | .rejectsPairing => cast.callOnPairingRejected
  | .fails message => cast.callOnConnectionFailed message
  | .completes values => callOnConnectionCompleted platform cast values
  | .receives callback => cast.callDelegate callback
  | .errs error message => cast.callOnError error message
  | .keepsAlive => cast.sendKeepAlive
  | .breaksOff service => cast.mediaErrorDidOccur service

def successOutcome (response : Option JSON) : ReplyBlocks → Outcome
  | .getParameter =>
      match response with
      | none => .nothing
      | some json => .completes json
  | .sourceDeviceInfo => .keepsAlive
  | _ => .nothing

def failureOutcome (error : Option NSError) (blocks : ReplyBlocks) : Outcome :=
  match error, blocks.failureMessage with
  | some _, some message => .fails message
  | _, _ => .nothing

/-- The callback that a command of the TV makes. -/
def textOutcome (platform : LGCastPlatform) (command : String) (response : JSON) : Outcome :=
  if platform.isSame command "PLAY" = some true then .receives (.receivePlayCommand response)
  else if platform.isSame command "TEARDOWN" = some true then
    .errs .rendererTerminated "renderer terminated"
  else if platform.isSame command "STOP" = some true then
    .receives (.receiveStopCommand response)
  else if platform.isSame command "GET_PARAMETER" = some true then
    .receives (.receiveGetParameter response)
  else if platform.isSame command "SET_PARAMETER" = some true then
    .receives (.receiveSetParameter response)
  else .nothing

def matchesClientKey (platform : LGCastPlatform) (cast : LGCast) (response : JSON) : Bool :=
  isCurrentClientKey platform cast ((response.value? "clientKey").bind JSON.string?) =
    some true

def commandOutcome (platform : LGCastPlatform) (cast : LGCast) (response : Option JSON) :
    Outcome :=
  match response with
  | none => .nothing
  | some response =>
      if cast.isActive && (response.value? "subscribed").isNone &&
          matchesClientKey platform cast response then
        match (response.value? "cmd").bind JSON.string? with
        | none => .nothing
        | some command => textOutcome platform command response
      else
        .nothing

def powerStateOutcome (platform : LGCastPlatform) (response : Option JSON) : Outcome :=
  match (response.bind (JSON.value? "processing")).bind JSON.string? with
  | none => .nothing
  | some processing =>
      if platform.isSame processing "Request Power Off" = some true then
        .errs .deviceShutdown "Device shut down"
      else
        .nothing

def disconnectedOutcome (cast : LGCast) : Outcome :=
  match cast.manager.currentState with
  | .connecting => .rejectsPairing
  | .connected => .errs .deviceShutdown "device disconnected"
  | _ => .nothing

def outcome (platform : LGCastPlatform) (cast : LGCast) : LGCastEvent → Outcome
  | .sharedInstance service => .creates service
  | .start service device =>
      if service ∈ cast.created ∧ cast.isRunning service = false then .starts service device
      else .nothing
  | .stop service =>
      if service ∈ cast.created ∧ cast.isRunning service = true then .stops service
      else .nothing
  | .openConnection type device => .opens type device
  | .closeConnection => .closes
  | .succeeded request response =>
      match cast.blocksOf request with
      | none => .nothing
      | some blocks => successOutcome response blocks
  | .failed request error =>
      match cast.blocksOf request with
      | none => .nothing
      | some blocks => failureOutcome error blocks
  | .commandReceived subscription response =>
      if subscription < cast.subscriptions.length then commandOutcome platform cast response
      else .nothing
  | .commandFailed subscription error =>
      if subscription < cast.subscriptions.length ∧ error.isSome then
        .errs .connectionClosed "subscribe error"
      else .nothing
  | .powerStateReceived subscription response =>
      if subscription < cast.subscriptions.length then powerStateOutcome platform response
      else .nothing
  | .deviceDisconnected device =>
      if device ∈ cast.delegating then disconnectedOutcome cast else .nothing
  | .pairingRequired device =>
      if device ∈ cast.delegating then .asksPairing else .nothing
  | .mediaErrorDidOccur service =>
      if service ∈ cast.created then .breaksOff service else .nothing
  | _ => .nothing

/-! ## Messages of the TV -/

theorem objectForKey_value {response : JSON} {key : String} {value : Option JSON}
    (read : objectForKey (some response) key = some value) :
    value = response.value? key := by
  cases response with
  | object fields => exact (Option.some.inj read).symm
  | _ => cases read

theorem stringOrNil_string {value : Option JSON} {text : Option String}
    (read : stringOrNil value = some text) : text = value.bind JSON.string? := by
  cases value with
  | none => exact (Option.some.inj read).symm
  | some value =>
      cases value with
      | string text => exact (Option.some.inj read).symm
      | _ => cases read

theorem unaffected_onReceivePlayCommand {cast after : LGCast} {values : JSON}
    (received : RemoteCameraService.onReceivePlayCommand cast values = some after) :
    Unaffected cast after := by
  rcases Option.bind_eq_some_iff.mp received with ⟨camera, _, received⟩
  cases camera with
  | none =>
      cases received
      exact Unaffected.refl cast
  | some cameraObj =>
      rcases Option.bind_eq_some_iff.mp received with ⟨_, _, received⟩
      cases received
      exact (unaffected_notify cast _).trans (unaffected_isPlaying _ true)

theorem unaffected_notifyIf (cast : LGCast) (condition : Bool)
    (notification : LGCastNotification) :
    Unaffected cast (if condition then cast.notify notification else cast) := by
  split
  · exact unaffected_notify cast notification
  · exact Unaffected.refl cast

theorem unaffected_cameraSetParameter {cast after : LGCast} {values : JSON}
    (received : RemoteCameraService.onReceiveSetParameter cast values = some after) :
    Unaffected cast after := by
  rcases Option.bind_eq_some_iff.mp received with ⟨camera, _, received⟩
  cases camera with
  | none =>
      cases received
      exact Unaffected.refl cast
  | some cameraObj =>
      rcases Option.bind_eq_some_iff.mp received with ⟨brightness, _, received⟩
      rcases Option.bind_eq_some_iff.mp received with ⟨whiteBalance, _, received⟩
      rcases Option.bind_eq_some_iff.mp received with ⟨_, _, received⟩
      rcases Option.bind_eq_some_iff.mp received with ⟨_, _, received⟩
      rcases Option.bind_eq_some_iff.mp received with ⟨_, _, received⟩
      have notified := (unaffected_notifyIf cast brightness.isSome .didChange).trans
        (unaffected_notifyIf _ whiteBalance.isSome .didChange)
      split at received
      · cases received
        exact notified.trans (unaffected_sendSetParameterResponse _)
      · cases received
        exact notified

theorem unaffected_mirroringSetParameter {cast after : LGCast} {values : JSON}
    (received : ScreenMirroringService.onReceiveSetParameter cast values = some after) :
    Unaffected cast after := by
  rcases Option.bind_eq_some_iff.mp received with ⟨mirroring, _, received⟩
  cases mirroring with
  | none =>
      cases received
      exact Unaffected.refl cast
  | some mirroringValues =>
      simp only at received
      split at received
      · rcases Option.bind_eq_some_iff.mp received with ⟨_, _, received⟩
        rcases Option.bind_eq_some_iff.mp received with ⟨_, _, received⟩
        cases received
        exact unaffected_updateCapability cast
      · cases received
        exact Unaffected.refl cast

theorem unaffected_playCommand {cast after : LGCast} {values : JSON}
    (received : cast.callOnReceivePlayCommand values = some after) :
    Unaffected (cast.callDelegate (.receivePlayCommand values)) after := by
  unfold callOnReceivePlayCommand at received
  dsimp only at received
  split at received
  · exact unaffected_onReceivePlayCommand received
  · cases received
    exact Unaffected.refl _

theorem unaffected_stopCommand (cast : LGCast) (values : JSON) :
    Unaffected (cast.callDelegate (.receiveStopCommand values))
      (cast.callOnReceiveStopCommand values) := by
  unfold callOnReceiveStopCommand
  dsimp only
  split
  · exact unaffected_isPlaying _ false
  · exact Unaffected.refl _

theorem unaffected_getParameter (cast : LGCast) (values : JSON) :
    Unaffected (cast.callDelegate (.receiveGetParameter values))
      (cast.callOnReceiveGetParameter values) := by
  unfold callOnReceiveGetParameter
  dsimp only
  split
  · exact unaffected_sendGetParameterResponse _
  · exact Unaffected.refl _

theorem unaffected_setParameter {cast after : LGCast} {values : JSON}
    (received : cast.callOnReceiveSetParameter values = some after) :
    Unaffected (cast.callDelegate (.receiveSetParameter values)) after := by
  unfold callOnReceiveSetParameter at received
  dsimp only at received
  split at received
  · cases received
    exact Unaffected.refl _
  · exact unaffected_cameraSetParameter received
  · exact unaffected_mirroringSetParameter received

/-- A text is at most one of the commands. -/
theorem isSame_iff {platform : LGCastPlatform} {command text : String}
    (same : platform.isSame command text = some true) (member : text ∈ tvCommands)
    (other : String) (otherMember : other ∈ tvCommands) :
    platform.isSame command other = some true ↔ other = text := by
  constructor
  · intro otherSame
    have folded := beq_iff_eq.mp (Option.some.inj same)
    have otherFolded := beq_iff_eq.mp (Option.some.inj otherSame)
    exact List.inj_on_of_nodup_map platform.distinct otherMember member
      (otherFolded.symm.trans folded)
  · intro equal
    rw [equal]
    exact same

theorem handleText_outcome {platform : LGCastPlatform} {cast next : LGCast}
    {response : JSON} {command : String}
    (handled : handleText platform cast response command = some next) :
    Unaffected (perform platform cast (textOutcome platform command response)) next := by
  unfold handleText ifSame at handled
  unfold textOutcome
  by_cases known : ∃ text ∈ tvCommands, platform.isSame command text = some true
  · rcases known with ⟨text, member, same⟩
    have play := isSame_iff same member "PLAY" (by decide)
    have teardown := isSame_iff same member "TEARDOWN" (by decide)
    have stop := isSame_iff same member "STOP" (by decide)
    have getParameter := isSame_iff same member "GET_PARAMETER" (by decide)
    have setParameter := isSame_iff same member "SET_PARAMETER" (by decide)
    simp only [play, teardown, stop, getParameter, setParameter] at handled ⊢
    simp only [tvCommands, List.mem_cons, List.not_mem_nil, or_false] at member
    rcases member with equal | equal | equal | equal | equal <;> subst equal
    · simp at handled
      exact unaffected_playCommand handled
    · simp at handled
      cases handled
      exact Unaffected.refl _
    · simp at handled
      cases handled
      exact unaffected_stopCommand cast response
    · simp at handled
      cases handled
      exact unaffected_getParameter cast response
    · simp at handled
      exact unaffected_setParameter handled
  · have none : ∀ text ∈ tvCommands, ¬platform.isSame command text = some true :=
      fun text member same => known ⟨text, member, same⟩
    simp [none "PLAY" (by decide), none "TEARDOWN" (by decide), none "STOP" (by decide),
      none "GET_PARAMETER" (by decide), none "SET_PARAMETER" (by decide)] at handled ⊢
    cases handled
    exact Unaffected.refl _

theorem handleCommand_cases {platform : LGCastPlatform} {cast next : LGCast}
    {response : JSON} (handled : handleCommand platform cast response = some next) :
    (next = cast ∧ (matchesClientKey platform cast response = false ∨
        (response.value? "cmd").bind JSON.string? = none)) ∨
      matchesClientKey platform cast response = true ∧
      ∃ command, (response.value? "cmd").bind JSON.string? = some command ∧
        handleText platform cast response command = some next := by
  rcases Option.bind_eq_some_iff.mp handled with ⟨clientKey, keyRead, handled⟩
  rcases Option.bind_eq_some_iff.mp handled with ⟨clientKey, keyText, handled⟩
  rcases Option.bind_eq_some_iff.mp handled with ⟨matched, compared, handled⟩
  have key := stringOrNil_string keyText
  rw [objectForKey_value keyRead] at key
  have equal : matchesClientKey platform cast response = matched := by
    unfold matchesClientKey
    rw [← key, compared]
    cases matched <;> rfl
  rw [equal]
  cases matched with
  | false =>
      cases handled
      exact Or.inl ⟨rfl, Or.inl rfl⟩
  | true =>
      rcases Option.bind_eq_some_iff.mp handled with ⟨value, valueRead, handled⟩
      rcases Option.bind_eq_some_iff.mp handled with ⟨command, commandText, handled⟩
      have text := stringOrNil_string commandText
      rw [objectForKey_value valueRead] at text
      cases command with
      | none =>
          cases handled
          exact Or.inl ⟨rfl, Or.inr text.symm⟩
      | some command => exact Or.inr ⟨rfl, command, text.symm, handled⟩

theorem commandReceived_outcome {platform : LGCastPlatform} {cast next : LGCast}
    {response : Option JSON}
    (received : commandReceived platform cast response = some next) :
    Unaffected (perform platform cast (commandOutcome platform cast response)) next := by
  cases response with
  | none =>
      cases received
      exact Unaffected.refl cast
  | some response =>
      unfold commandReceived at received
      unfold commandOutcome
      dsimp only at received ⊢
      by_cases active : cast.isActive = true
      · rw [if_pos active] at received
        rcases Option.bind_eq_some_iff.mp received with ⟨subscribed, subscribedRead, received⟩
        have subscribedValue := objectForKey_value subscribedRead
        rw [active, ← subscribedValue]
        cases subscribed with
        | some value =>
            rcases Option.bind_eq_some_iff.mp received with ⟨again, read, received⟩
            rw [subscribedRead] at read
            cases read
            cases received
            exact unaffected_sendCommand cast _ (by decide)
        | none =>
            rcases Option.bind_eq_some_iff.mp received with ⟨value, read, received⟩
            have commandValue := objectForKey_value read
            cases value with
            | none =>
                cases received
                simp only [← commandValue, Option.bind_none, ite_self]
                exact Unaffected.refl cast
            | some value =>
                rcases handleCommand_cases received with ⟨equal, other⟩ |
                  ⟨matched, command, text, handled⟩
                · subst equal
                  rcases other with unmatched | absent
                  · simp only [unmatched, Bool.and_false, Bool.false_eq_true, if_false]
                    exact Unaffected.refl next
                  · simp only [absent, ite_self]
                    exact Unaffected.refl next
                · simp only [matched, text, Option.isNone_none, Bool.and_self, if_true]
                  exact handleText_outcome handled
      · rw [if_neg active] at received
        cases received
        simp only [active, Bool.false_and, Bool.false_eq_true, if_false]
        exact unaffected_unsubscribe cast _

theorem powerStateReceived_outcome {platform : LGCastPlatform} {cast next : LGCast}
    {response : Option JSON}
    (received : powerStateReceived platform cast response = some next) :
    next = perform platform cast (powerStateOutcome platform response) := by
  rcases Option.bind_eq_some_iff.mp received with ⟨value, read, received⟩
  rcases Option.bind_eq_some_iff.mp received with ⟨processing, text, received⟩
  have equal : processing =
      (response.bind (JSON.value? "processing")).bind JSON.string? := by
    rw [stringOrNil_string text]
    cases response with
    | none =>
        cases read
        rfl
    | some response => rw [objectForKey_value read, Option.bind_some]
  unfold powerStateOutcome
  rw [← equal]
  cases processing with
  | none =>
      cases received
      rfl
  | some processing =>
      dsimp only at received ⊢
      split at received
      · rename_i same
        rw [if_pos same]
        cases received
        rfl
      · rename_i different
        rw [if_neg different]
        cases received
        rfl

/-! ## Steps -/

theorem succeed_outcome (platform : LGCastPlatform) (cast : LGCast)
    (response : Option JSON) (blocks : ReplyBlocks) :
    Unaffected (perform platform cast (successOutcome response blocks))
      (succeed platform cast response blocks) := by
  cases blocks with
  | connect => exact unaffected_sendCommand cast _ (by decide)
  | getParameter =>
      cases response with
      | none => exact Unaffected.refl cast
      | some json => exact Unaffected.refl _
  | sourceDeviceInfo => exact Unaffected.refl _
  | setParameter ignoreResult => exact Unaffected.refl cast
  | ignored => exact Unaffected.refl cast

theorem fail_outcome (platform : LGCastPlatform) (cast : LGCast) (error : Option NSError)
    (blocks : ReplyBlocks) :
    perform platform cast (failureOutcome error blocks) = cast.fail error blocks := by
  cases error with
  | none => rfl
  | some error =>
      unfold failureOutcome fail
      cases blocks.failureMessage with
      | none => rfl
      | some message => rfl

theorem connectableDeviceDisconnected_outcome (platform : LGCastPlatform) (cast : LGCast) :
    perform platform cast cast.disconnectedOutcome = cast.connectableDeviceDisconnected := by
  unfold disconnectedOutcome connectableDeviceDisconnected
  cases cast.manager.currentState <;> rfl

theorem start_outcome (platform : LGCastPlatform) (cast : LGCast) (service : ServiceType)
    (device : Option TVDevice) :
    Unaffected (perform platform cast (outcome platform cast (.start service device)))
      (cast.ifCreated service fun cast => cast.start service device) := by
  unfold outcome ifCreated start
  by_cases created : service ∈ cast.created
  · cases running : cast.isRunning service with
    | true =>
        simp only [created, running, true_and, Bool.true_eq_false, if_true, if_false]
        exact unaffected_notify cast _
    | false =>
        simp only [created, running, and_self, Bool.false_eq_true, if_true, if_false]
        exact Unaffected.refl _
  · simp only [created, false_and, if_false]
    exact Unaffected.refl _

theorem stop_outcome (platform : LGCastPlatform) (cast : LGCast) (service : ServiceType) :
    Unaffected (perform platform cast (outcome platform cast (.stop service)))
      (cast.ifCreated service fun cast => cast.stop service) := by
  unfold outcome ifCreated stop
  by_cases created : service ∈ cast.created
  · cases running : cast.isRunning service with
    | true =>
        simp only [created, running, and_self, if_true]
        exact unaffected_notify _ _
    | false =>
        simp only [created, running, Bool.false_eq_true, and_false, if_true, if_false]
        exact unaffected_notify cast _
  · simp only [created, false_and, if_false]
    exact Unaffected.refl _

theorem step_outcome {platform : LGCastPlatform} {cast next : LGCast} {event : LGCastEvent}
    (taken : step platform cast event = some next) :
    Unaffected (perform platform cast (outcome platform cast event)) next := by
  cases event with
  | sharedInstance service =>
      cases taken
      exact Unaffected.refl _
  | start service device =>
      cases taken
      exact start_outcome platform cast service device
  | stop service =>
      cases taken
      exact stop_outcome platform cast service
  | setLensFacing result =>
      cases taken
      exact unaffected_ifCreated (unaffected_setCameraParameter cast result)
  | setMicMute result =>
      cases taken
      exact unaffected_ifCreated (unaffected_setCameraParameter cast result)
  | openConnection type device =>
      cases taken
      exact Unaffected.refl _
  | closeConnection =>
      cases taken
      exact Unaffected.refl _
  | targetChanged service target =>
      cases taken
      exact unaffected_targets cast _
  | succeeded request response =>
      unfold step at taken
      unfold outcome
      cases sent : cast.blocksOf request with
      | none =>
          simp only [sent] at taken ⊢
          cases taken
          exact Unaffected.refl cast
      | some blocks =>
          simp only [sent] at taken ⊢
          cases taken
          exact succeed_outcome platform cast response blocks
  | failed request error =>
      unfold step at taken
      unfold outcome
      cases sent : cast.blocksOf request with
      | none =>
          simp only [sent] at taken ⊢
          cases taken
          exact Unaffected.refl cast
      | some blocks =>
          simp only [sent] at taken ⊢
          cases taken
          rw [fail_outcome]
          exact Unaffected.refl _
  | commandReceived subscription response =>
      simp only [step] at taken
      simp only [outcome]
      by_cases known : subscription < cast.subscriptions.length
      · rw [if_pos known] at taken ⊢
        exact commandReceived_outcome taken
      · rw [if_neg known] at taken ⊢
        cases taken
        exact Unaffected.refl cast
  | commandFailed subscription error =>
      simp only [step] at taken
      simp only [outcome]
      by_cases known : subscription < cast.subscriptions.length
      · rw [if_pos known] at taken
        cases taken
        cases error with
        | none =>
            simp only [Option.isSome_none, Bool.false_eq_true, and_false, if_false]
            exact Unaffected.refl cast
        | some error =>
            simp only [known, Option.isSome_some, and_self, if_true]
            exact Unaffected.refl _
      · rw [if_neg known] at taken
        cases taken
        simp only [known, false_and, if_false]
        exact Unaffected.refl cast
  | powerStateReceived subscription response =>
      simp only [step] at taken
      simp only [outcome]
      by_cases known : subscription < cast.subscriptions.length
      · rw [if_pos known] at taken ⊢
        rw [powerStateReceived_outcome taken]
        exact Unaffected.refl _
      · rw [if_neg known] at taken ⊢
        cases taken
        exact Unaffected.refl cast
  | deviceReady device =>
      cases taken
      unfold ifDelegating
      split
      · exact unaffected_subscribe cast
      · exact Unaffected.refl cast
  | deviceDisconnected device =>
      cases taken
      simp only [outcome, ifDelegating]
      split
      · rw [connectableDeviceDisconnected_outcome]
        exact Unaffected.refl _
      · exact Unaffected.refl cast
  | pairingRequired device =>
      cases taken
      simp only [outcome, ifDelegating]
      split
      · exact Unaffected.refl _
      · exact Unaffected.refl cast
  | keepAliveTimerFired =>
      cases taken
      exact unaffected_keepAliveTimerFired cast
  | cameraDidChange isRotation =>
      cases taken
      exact unaffected_ifCreated (unaffected_cameraDidChange cast isRotation)
  | cameraDidPlay =>
      cases taken
      exact unaffected_ifCreated (unaffected_notify cast _)
  | mirroringDidStart result =>
      cases taken
      exact unaffected_ifCreated (unaffected_notifyIf cast result _)
  | mirroringUpdated isVideoSize =>
      cases taken
      exact unaffected_ifCreated (unaffected_mirroringUpdated cast isVideoSize)
  | mediaErrorDidOccur service =>
      cases taken
      simp only [outcome, ifCreated]
      split
      · exact Unaffected.refl _
      · exact Unaffected.refl cast

/-! ## What outcomes do -/

theorem unsubscribe_frame (cast : LGCast) (subscription : Option Nat) :
    cast.unsubscribe subscription =
      { cast with unsubscribed := cast.unsubscribed ++ subscription.toList } := by
  cases subscription <;> simp [unsubscribe]

theorem releaseDevice_frame (cast : LGCast) :
    ∃ delegating, cast.releaseDevice =
      { cast with manager := { cast.manager with tvDevice := none }, delegating } := by
  cases held : cast.manager.tvDevice with
  | none =>
      refine ⟨cast.delegating, ?_⟩
      simp only [releaseDevice, held]
      rw [← held]
  | some device => exact ⟨cast.delegating.erase device, by simp only [releaseDevice, held]⟩

/-- No timer is scheduled any more. -/
def stoppedTimer (cast : LGCast) : Option NSTimer :=
  cast.manager.keepAliveTimer.map fun _ => { isValid := false }

/-- The request that closing sends. -/
def sentTeardown (cast : LGCast) : List LGCastRequest :=
  cast.sentCommand .teardown .ignored

/-- How many messages closing sends. -/
def closingMessages (cast : LGCast) : Nat :=
  cast.sentTeardown.length + (cast.manager.powerStateSubscription.toList.length +
    cast.manager.commandSubscription.toList.length)

def closing (cast : LGCast) : Closing where
  sessions := cast.opened.length
  isOpen := cast.manager.tvDevice.isSome
  messages := cast.closingMessages

theorem closeConnection_eq {cast : LGCast}
    (settled : cast.manager.currentState ≠ .disconnecting) :
    ∃ delegating, cast.closeConnection =
      { cast with
        manager := { cast.manager with
          currentState := .none
          tvDevice := none
          keepAliveTimer := cast.stoppedTimer }
        delegating
        requests := cast.requests ++ cast.sentTeardown
        unsubscribed := cast.unsubscribed ++ cast.manager.powerStateSubscription.toList ++
          cast.manager.commandSubscription.toList
        closings := cast.closings ++ [cast.closing] } := by
  unfold closeConnection
  rw [if_neg settled]
  simp only
  rw [sendCommand_eq, unsubscribe_frame, unsubscribe_frame]
  rcases releaseDevice_frame _ with ⟨delegating, released⟩
  rw [released]
  refine ⟨delegating, ?_⟩
  have messages : (cast.requests ++ cast.sentTeardown).length +
      (cast.unsubscribed ++ cast.manager.powerStateSubscription.toList ++
        cast.manager.commandSubscription.toList).length - cast.messages =
      cast.closingMessages := by
    simp only [List.length_append, LGCast.messages, closingMessages]
    omega
  have closed : cast.closing =
      { sessions := cast.opened.length
        isOpen := cast.manager.tvDevice.isSome
        messages := (cast.requests ++ cast.sentTeardown).length +
          (cast.unsubscribed ++ cast.manager.powerStateSubscription.toList ++
            cast.manager.commandSubscription.toList).length - cast.messages } := by
    rw [messages, closing]
  rw [closed]
  rfl

/-- The connection is closed. -/
structure Closed (cast after : LGCast) : Prop where
  delegate : after.manager.delegate = cast.manager.delegate
  currentState : after.manager.currentState = .none
  tvDevice : after.manager.tvDevice = none
  keepAliveTimer : after.manager.keepAliveTimer = cast.stoppedTimer
  isRunning : ∀ service, after.isRunning service = cast.isRunning service
  created : after.created = cast.created
  opened : after.opened = cast.opened
  closings : after.closings = cast.closings ++ [cast.closing]
  teardowns : after.teardowns = cast.teardowns ++ cast.sentTeardown
  callbacks : after.callbacks = cast.callbacks

theorem closed_closeConnection {cast : LGCast}
    (settled : cast.manager.currentState ≠ .disconnecting) :
    Closed cast cast.closeConnection := by
  rcases closeConnection_eq settled with ⟨delegating, equal⟩
  rw [equal]
  have every : cast.sentTeardown.filter LGCastRequest.isTeardown = cast.sentTeardown := by
    apply List.filter_eq_self.mpr
    intro request member
    simp [LGCastRequest.isTeardown, (mem_sentCommand member).1]
  refine ⟨rfl, rfl, rfl, rfl, fun _ => rfl, rfl, rfl, rfl, ?_, rfl⟩
  simp [LGCast.teardowns, every]

/-- A service stopped running, and nothing else changed but what `Unaffected` leaves out
and what closing a closed connection does. -/
structure StopsRunning (service : ServiceType) (cast after : LGCast) : Prop where
  delegate : after.manager.delegate = cast.manager.delegate
  currentState : after.manager.currentState = cast.manager.currentState
  stopped : after.isRunning service = false
  others : ∀ other, other ≠ service → after.isRunning other = cast.isRunning other
  created : after.created = cast.created
  opened : after.opened = cast.opened
  callbacks : after.callbacks = cast.callbacks

theorem stopsRunning_camera (cast : LGCast) (isPlaying : Bool)
    (notification : LGCastNotification) :
    StopsRunning .remoteCamera cast
      ({ cast with camera := { isRunning := false, isPlaying } }.notify notification) := by
  refine ⟨rfl, rfl, rfl, ?_, rfl, rfl, rfl⟩
  intro other different
  cases other with
  | remoteCamera => exact absurd rfl different
  | screenMirroring => rfl

theorem stopsRunning_mirroring (cast : LGCast) (notification : LGCastNotification) :
    StopsRunning .screenMirroring cast
      ({ cast with mirroring := { cast.mirroring with isRunning := false } }.notify
        notification) := by
  refine ⟨rfl, rfl, rfl, ?_, rfl, rfl, rfl⟩
  intro other different
  cases other with
  | remoteCamera => rfl
  | screenMirroring => exact absurd rfl different

theorem stopsRunning_cameraError {cast : LGCast} (error : ConnectionError)
    (none : cast.manager.currentState = .none) :
    StopsRunning .remoteCamera cast (RemoteCameraService.onError cast error) := by
  have closed := @closed_closeConnection
    { cast with camera := { isRunning := false, isPlaying := false } }
    (fun closing => by rw [none] at closing; cases closing)
  have stopped := closed.isRunning .remoteCamera
  refine ⟨closed.delegate, closed.currentState.trans none.symm, stopped, ?_,
    closed.created, closed.opened, closed.callbacks⟩
  intro other different
  cases other with
  | remoteCamera => exact absurd rfl different
  | screenMirroring => exact closed.isRunning .screenMirroring

/-- The manager ended the connection and calls the delegate. -/
structure Told (cast after : LGCast) (callback : ManagerCallback) : Prop where
  delegate : after.manager.delegate = cast.manager.delegate
  currentState : after.manager.currentState = .none
  isRunning : ∀ service, after.isRunning service = cast.isRunning service
  created : after.created = cast.created
  opened : after.opened = cast.opened
  callbacks : after.callbacks = cast.callbacks ++ [(callback, cast.manager.delegate)]

theorem Closed.told {cast after : LGCast} (closed : Closed cast after)
    (callback : ManagerCallback) :
    Told cast ((after.setState .none).callDelegate callback) callback where
  delegate := closed.delegate
  currentState := rfl
  isRunning := closed.isRunning
  created := closed.created
  opened := closed.opened
  callbacks := by
    rw [← closed.delegate, ← closed.callbacks]
    rfl

/-- The connection ended, and the delegate was told and stopped running. -/
structure Ended (cast after : LGCast) (callback : ManagerCallback) : Prop where
  delegate : after.manager.delegate = cast.manager.delegate
  currentState : after.manager.currentState = .none
  stopped : ∀ service, cast.manager.delegate = some service →
    after.isRunning service = false
  others : ∀ other, cast.manager.delegate ≠ some other →
    after.isRunning other = cast.isRunning other
  created : after.created = cast.created
  opened : after.opened = cast.opened
  callbacks : after.callbacks = cast.callbacks ++ [(callback, cast.manager.delegate)]

theorem Told.ended_of_none {cast told : LGCast} {callback : ManagerCallback}
    (calls : Told cast told callback) (nobody : cast.manager.delegate = none) :
    Ended cast told callback where
  delegate := calls.delegate
  currentState := calls.currentState
  stopped := fun service delegate => by
    rw [nobody] at delegate
    cases delegate
  others := fun other _ => calls.isRunning other
  created := calls.created
  opened := calls.opened
  callbacks := calls.callbacks

theorem Told.ended {cast told after : LGCast} {callback : ManagerCallback}
    {service : ServiceType} (calls : Told cast told callback)
    (delegate : cast.manager.delegate = some service)
    (stops : StopsRunning service told after) : Ended cast after callback where
  delegate := stops.delegate.trans calls.delegate
  currentState := stops.currentState.trans calls.currentState
  stopped := fun other same => by
    rw [delegate] at same
    cases same
    exact stops.stopped
  others := fun other different =>
    (stops.others other fun same => different (by rw [same, delegate])).trans
      (calls.isRunning other)
  created := stops.created.trans calls.created
  opened := stops.opened.trans calls.opened
  callbacks := stops.callbacks.trans calls.callbacks

theorem ended_callOnPairingRejected (cast : LGCast) :
    Ended cast cast.callOnPairingRejected .pairingRejected := by
  have told : Told cast ((cast.setState .none).callDelegate .pairingRejected)
      .pairingRejected := ⟨rfl, rfl, fun _ => rfl, rfl, rfl, rfl⟩
  unfold callOnPairingRejected
  dsimp only
  rw [told.delegate]
  cases delegate : cast.manager.delegate with
  | none => exact told.ended_of_none delegate
  | some service =>
      cases service with
      | remoteCamera => exact told.ended delegate (stopsRunning_camera _ _ _)
      | screenMirroring => exact told.ended delegate (stopsRunning_mirroring _ _)

theorem ended_callOnConnectionFailed {cast : LGCast}
    (settled : cast.manager.currentState ≠ .disconnecting) (message : String) :
    Ended cast (cast.callOnConnectionFailed message) (.connectionFailed message) := by
  have told := (closed_closeConnection settled).told (.connectionFailed message)
  unfold callOnConnectionFailed
  dsimp only
  rw [told.delegate]
  cases delegate : cast.manager.delegate with
  | none => exact told.ended_of_none delegate
  | some service =>
      cases service with
      | remoteCamera => exact told.ended delegate (stopsRunning_camera _ _ _)
      | screenMirroring => exact told.ended delegate (stopsRunning_mirroring _ _)

theorem ended_callOnError {cast : LGCast}
    (settled : cast.manager.currentState ≠ .disconnecting) (error : ConnectionError)
    (message : String) :
    Ended cast (cast.callOnError error message) (.error error message) := by
  have told := (closed_closeConnection settled).told (.error error message)
  unfold callOnError
  dsimp only
  rw [told.delegate]
  cases delegate : cast.manager.delegate with
  | none => exact told.ended_of_none delegate
  | some service =>
      cases service with
      | remoteCamera =>
          exact told.ended delegate (stopsRunning_cameraError error told.currentState)
      | screenMirroring => exact told.ended delegate (stopsRunning_mirroring _ _)

/-- No device is held and no timer scheduled any more, after closing and sending this. -/
structure Shut (cast after : LGCast) (closings : List Closing)
    (teardowns : List LGCastRequest) : Prop where
  tvDevice : after.manager.tvDevice = none
  keepAliveTimer : after.manager.keepAliveTimer = cast.stoppedTimer
  closings : after.closings = cast.closings ++ closings
  teardowns : after.teardowns = cast.teardowns ++ teardowns

theorem Closed.shut {cast after : LGCast} (closed : Closed cast after) :
    Shut cast after [cast.closing] cast.sentTeardown :=
  ⟨closed.tvDevice, closed.keepAliveTimer, closed.closings, closed.teardowns⟩

theorem shut_callOnConnectionFailed {cast : LGCast}
    (settled : cast.manager.currentState ≠ .disconnecting) (message : String) :
    Shut cast (cast.callOnConnectionFailed message) [cast.closing] cast.sentTeardown := by
  have shut := (closed_closeConnection settled).shut
  unfold callOnConnectionFailed
  dsimp only
  split
  · exact { shut with }
  · exact { shut with }
  · exact { shut with }

/-- What a second closing right after the first one does. -/
theorem closed_again {cast : LGCast}
    (settled : cast.manager.currentState ≠ .disconnecting) :
    cast.closeConnection.closing = { cast.closing with isOpen := false } ∧
      cast.closeConnection.sentTeardown =
        cast.sentTeardown.map fun request => { request with session := none } := by
  rcases closeConnection_eq settled with ⟨delegating, equal⟩
  have sent : cast.closeConnection.sentTeardown =
      cast.sentTeardown.map fun request => { request with session := none } := by
    rw [equal]
    unfold sentTeardown sentCommand
    dsimp only
    split
    · rfl
    · split
      · rfl
      · rfl
  refine ⟨?_, sent⟩
  have messages : cast.closeConnection.closingMessages = cast.closingMessages := by
    unfold closingMessages
    rw [sent, List.length_map, equal]
  unfold closing
  rw [messages, equal]
  rfl

/-- The camera service closes a connection again that the manager closed for an error. -/
def closesAgain (cast : LGCast) : Bool :=
  cast.manager.delegate = some .remoteCamera

theorem shut_callOnError {cast : LGCast}
    (settled : cast.manager.currentState ≠ .disconnecting)
    (once : cast.closesAgain = false) (error : ConnectionError) (message : String) :
    Shut cast (cast.callOnError error message) [cast.closing] cast.sentTeardown := by
  have closed := closed_closeConnection settled
  unfold callOnError
  dsimp only
  rw [(closed.told (.error error message)).delegate]
  cases delegate : cast.manager.delegate with
  | none => exact { closed.shut with }
  | some service =>
      cases service with
      | remoteCamera =>
          rw [closesAgain, delegate] at once
          cases once
      | screenMirroring => exact { closed.shut with }

theorem shut_callOnError_again {cast : LGCast}
    (settled : cast.manager.currentState ≠ .disconnecting)
    (again : cast.closesAgain = true) (error : ConnectionError) (message : String) :
    Shut cast (cast.callOnError error message)
      [cast.closing, { cast.closing with isOpen := false }]
      (cast.sentTeardown ++
        cast.sentTeardown.map fun request => { request with session := none }) := by
  have closed := closed_closeConnection settled
  have told := closed.told (.error error message)
  have delegate : cast.manager.delegate = some .remoteCamera := of_decide_eq_true again
  unfold callOnError
  dsimp only
  rw [told.delegate, delegate]
  have second := @closed_closeConnection
    { (cast.closeConnection.setState .none).callDelegate (.error error message) with
      camera := { isRunning := false, isPlaying := false } }
    (fun closing => by cases closing)
  refine ⟨second.tvDevice, ?_, ?_, ?_⟩
  · refine second.keepAliveTimer.trans ?_
    change cast.closeConnection.manager.keepAliveTimer.map _ = _
    rw [closed.keepAliveTimer, stoppedTimer, Option.map_map]
    rfl
  · refine second.closings.trans ?_
    change cast.closeConnection.closings ++ [cast.closeConnection.closing] = _
    rw [closed.closings, (closed_again settled).1, List.append_assoc]
    rfl
  · refine second.teardowns.trans ?_
    change cast.closeConnection.teardowns ++ cast.closeConnection.sentTeardown = _
    rw [closed.teardowns, (closed_again settled).2, List.append_assoc]

/-- Telling the TV about the device is all that the services do on completion. -/
theorem unaffected_callOnConnectionCompleted (platform : LGCastPlatform) (cast : LGCast)
    (values : JSON) :
    Unaffected ((cast.setState .connected).callDelegate (.connectionCompleted values))
      (callOnConnectionCompleted platform cast values) := by
  unfold callOnConnectionCompleted
  dsimp only
  split
  · exact Unaffected.refl _
  · exact (unaffected_sendCommand _ _ (by decide)).trans (unaffected_notify _ _)
  · exact (unaffected_hasCapabilities _ true).trans (unaffected_sendCommand _ _ (by decide))

theorem sendKeepAlive_frame (cast : LGCast) :
    ∃ sent, cast.sendKeepAlive =
        { cast with
          manager := { cast.manager with keepAliveTimer := some { isValid := true } }
          requests := cast.requests ++ sent } ∧
      ∀ request ∈ sent, request.command = .keepAlive := by
  refine ⟨cast.sentCommand .keepAlive .ignored, ?_, fun request member =>
    (mem_sentCommand member).1⟩
  unfold sendKeepAlive
  dsimp only
  rw [sendCommand_eq]
  rfl

/-- The callback of an outcome, and who gets it. -/
def Outcome.calls (delegate : Option ServiceType) :
    Outcome → List (ManagerCallback × Option ServiceType)
  | .asksPairing => [(.pairingRequested, none)]
  | .rejectsPairing => [(.pairingRejected, delegate)]
  | .fails message => [(.connectionFailed message, delegate)]
  | .completes values => [(.connectionCompleted values, delegate)]
  | .receives callback => [(callback, delegate)]
  | .errs error message => [(.error error message, delegate)]
  | _ => []

theorem sharedInstance_frame (cast : LGCast) (service : ServiceType) :
    ∃ delegate created, cast.sharedInstance service =
      { cast with manager := { cast.manager with delegate }, created } := by
  unfold sharedInstance
  split
  · exact ⟨cast.manager.delegate, cast.created, rfl⟩
  · exact ⟨some service, cast.created ++ [service], rfl⟩

theorem setRunning_frame (cast : LGCast) (isRunning : Bool) (service : ServiceType) :
    ∃ camera mirroring, cast.setRunning isRunning service =
      { cast with camera, mirroring } := by
  cases service with
  | remoteCamera => exact ⟨{ isRunning, isPlaying := false }, cast.mirroring, rfl⟩
  | screenMirroring => exact ⟨cast.camera, { cast.mirroring with isRunning }, rfl⟩

theorem closed_stop {cast : LGCast} (settled : cast.manager.currentState ≠ .disconnecting)
    (service : ServiceType) :
    Closed (cast.setRunning false service)
      (cast.setRunning false service).closeConnection := by
  apply closed_closeConnection
  rcases setRunning_frame cast false service with ⟨_, _, stopped⟩
  rw [stopped]
  exact settled

theorem openConnection_frame (cast : LGCast) (type : ServiceType)
    (device : Option TVDevice) :
    ∃ currentState serviceType serviceName service tvDevice delegating,
      cast.openConnection type device =
        { cast with
          manager := { cast.manager with
            currentState, serviceType, serviceName, service, tvDevice }
          delegating
          opened := (device.map fun device => (device.number, type)).toList ++
            cast.opened } := by
  cases device with
  | none =>
      exact ⟨cast.manager.currentState, cast.manager.serviceType, cast.manager.serviceName,
        cast.manager.service, cast.manager.tvDevice, cast.delegating, rfl⟩
  | some device =>
      exact ⟨.connecting, type, some type.serviceName, device.webOSTVService,
        some device.number, device.number :: cast.delegating.erase device.number, rfl⟩

theorem mediaErrorDidOccur_frame (cast : LGCast) (service : ServiceType) :
    ∃ camera mirroring notifications, cast.mediaErrorDidOccur service =
      { cast with camera, mirroring, notifications } := by
  cases service <;> exact ⟨_, _, _, rfl⟩

theorem perform_callbacks {cast : LGCast} (platform : LGCastPlatform) (outcome : Outcome)
    (settled : cast.manager.currentState ≠ .disconnecting) :
    (perform platform cast outcome).callbacks =
      cast.callbacks ++ outcome.calls cast.manager.delegate := by
  cases outcome with
  | nothing => exact (List.append_nil _).symm
  | creates service =>
      rcases sharedInstance_frame cast service with ⟨_, _, equal⟩
      rw [perform, equal]
      exact (List.append_nil _).symm
  | starts service device =>
      rcases setRunning_frame cast true service with ⟨_, _, running⟩
      rcases openConnection_frame (cast.setRunning true service) service device with
        ⟨_, _, _, _, _, _, opened⟩
      rw [perform, opened, running]
      exact (List.append_nil _).symm
  | stops service =>
      rcases setRunning_frame cast false service with ⟨_, _, stopped⟩
      rw [perform, (closed_stop settled service).callbacks, stopped]
      exact (List.append_nil _).symm
  | opens type device =>
      rcases openConnection_frame cast type device with ⟨_, _, _, _, _, _, opened⟩
      rw [perform, opened]
      exact (List.append_nil _).symm
  | closes =>
      rw [perform, (closed_closeConnection settled).callbacks]
      exact (List.append_nil _).symm
  | asksPairing => rfl
  | rejectsPairing => exact (ended_callOnPairingRejected cast).callbacks
  | fails message => exact (ended_callOnConnectionFailed settled message).callbacks
  | completes values =>
      exact (unaffected_callOnConnectionCompleted platform cast values).callbacks
  | receives callback => rfl
  | errs error message => exact (ended_callOnError settled error message).callbacks
  | keepsAlive =>
      rcases sendKeepAlive_frame cast with ⟨_, equal, _⟩
      rw [perform, equal]
      exact (List.append_nil _).symm
  | breaksOff service =>
      rcases mediaErrorDidOccur_frame cast service with ⟨_, _, _, equal⟩
      rw [perform, equal]
      exact (List.append_nil _).symm

/-- No event leaves the manager in the middle of closing. -/
theorem perform_settled {cast : LGCast} (platform : LGCastPlatform) (outcome : Outcome)
    (settled : cast.manager.currentState ≠ .disconnecting) :
    (perform platform cast outcome).manager.currentState ≠ .disconnecting := by
  cases outcome with
  | nothing => exact settled
  | creates service =>
      rcases sharedInstance_frame cast service with ⟨_, _, equal⟩
      rw [perform, equal]
      exact settled
  | starts service device =>
      cases device with
      | none =>
          rcases setRunning_frame cast true service with ⟨_, _, running⟩
          rw [perform, running]
          exact settled
      | some device => exact fun equal => by cases equal
  | stops service =>
      rw [perform, (closed_stop settled service).currentState]
      decide
  | opens type device =>
      cases device with
      | none => exact settled
      | some device => exact fun equal => by cases equal
  | closes =>
      rw [perform, (closed_closeConnection settled).currentState]
      decide
  | asksPairing => exact settled
  | rejectsPairing =>
      rw [perform, (ended_callOnPairingRejected cast).currentState]
      decide
  | fails message =>
      rw [perform, (ended_callOnConnectionFailed settled message).currentState]
      decide
  | completes values =>
      rw [perform, (unaffected_callOnConnectionCompleted platform cast values).currentState]
      exact fun equal => by cases equal
  | receives callback => exact settled
  | errs error message =>
      rw [perform, (ended_callOnError settled error message).currentState]
      decide
  | keepsAlive =>
      rcases sendKeepAlive_frame cast with ⟨_, equal, _⟩
      rw [perform, equal]
      exact settled
  | breaksOff service =>
      rcases mediaErrorDidOccur_frame cast service with ⟨_, _, _, equal⟩
      rw [perform, equal]
      exact settled

end LGCast

end ConnectSDK
