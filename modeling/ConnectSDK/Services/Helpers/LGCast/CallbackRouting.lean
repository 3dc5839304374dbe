import ConnectSDK.Services.Helpers.LGCast.ConnectionOutcomes

/-! # Where callbacks go

The manager calls its delegate, which is the service whose object was created last. The
connection that a callback is about belongs to the service that opened it.
-/

namespace ConnectSDK

namespace LGCast

variable {platform : LGCastPlatform}

/-- The type of the connection that an event belongs to. -/
def connectionType (cast : LGCast) : LGCastEvent → Option ServiceType
  | .succeeded request _ => cast.requests[request]?.map LGCastRequest.serviceType
  | .failed request _ => cast.requests[request]?.map LGCastRequest.serviceType
  | .commandReceived subscription _ => cast.subscriptions[subscription]?
  | .commandFailed subscription _ => cast.subscriptions[subscription]?
  | .powerStateReceived subscription _ => cast.subscriptions[subscription]?
  | .deviceReady device => cast.opened.lookup device
  | .deviceDisconnected device => cast.opened.lookup device
  | .pairingRequired device => cast.opened.lookup device
  | _ => none

/-- Every callback that the event makes is delivered to the service of its connection's
type. -/
def Routed (platform : LGCastPlatform) (cast : LGCast) (event : LGCastEvent) : Prop :=
  ∀ next, step platform cast event = some next →
    ∀ call ∈ next.callbacks.drop cast.callbacks.length,
      ∃ type, cast.connectionType event = some type ∧ call.2 = some type

def Outcome.callsDelegate : Outcome → Bool
  | .rejectsPairing => true
  | .fails _ => true
  | .completes _ => true
  | .receives _ => true
  | .errs _ _ => true
  | _ => false

def Outcome.isPairing : Outcome → Bool
  | .asksPairing => true
  | _ => false

/-- The service object created last is that of the event's connection. -/
def IsForNewest (cast : LGCast) (event : LGCastEvent) : Prop :=
  (cast.connectionType event).isSome ∧ cast.connectionType event = cast.created.getLast?

instance (cast : LGCast) (event : LGCastEvent) : Decidable (cast.IsForNewest event) :=
  inferInstanceAs (Decidable (_ ∧ _))

/-- A callback is for the service created last, and no pairing is asked for. -/
def RoutesToNewest (platform : LGCastPlatform) (cast : LGCast) (event : LGCastEvent) :
    Prop :=
  ((outcome platform cast event).callsDelegate = true → cast.IsForNewest event) ∧
    (outcome platform cast event).isPairing = false

instance (platform : LGCastPlatform) (cast : LGCast) (event : LGCastEvent) :
    Decidable (RoutesToNewest platform cast event) :=
  inferInstanceAs (Decidable ((_ → _) ∧ _))

/-! ## The delegate -/

/-- Only the creation of a service object sets the delegate. -/
structure DelegateIsNewest (cast : LGCast) : Prop where
  settled : cast.manager.currentState ≠ .disconnecting
  delegate : cast.manager.delegate = cast.created.getLast?

theorem DelegateIsNewest.same {cast after : LGCast} (newest : DelegateIsNewest cast)
    (settled : after.manager.currentState ≠ .disconnecting)
    (delegate : after.manager.delegate = cast.manager.delegate)
    (created : after.created = cast.created) : DelegateIsNewest after := by
  refine ⟨settled, ?_⟩
  rw [delegate, created]
  exact newest.delegate

theorem DelegateIsNewest.sharedInstance {cast : LGCast} (newest : DelegateIsNewest cast)
    (service : ServiceType) : DelegateIsNewest (cast.sharedInstance service) := by
  unfold LGCast.sharedInstance
  split
  · exact newest
  · refine ⟨newest.settled, ?_⟩
    simp

theorem DelegateIsNewest.perform {cast : LGCast} (newest : DelegateIsNewest cast)
    (outcome : Outcome) : DelegateIsNewest (perform platform cast outcome) := by
  have settled := perform_settled platform outcome newest.settled
  cases outcome with
  | nothing => exact newest
  | creates service => exact newest.sharedInstance service
  | starts service device =>
      rcases setRunning_frame cast true service with ⟨_, _, running⟩
      rcases openConnection_frame (cast.setRunning true service) service device with
        ⟨_, _, _, _, _, _, opened⟩
      apply newest.same settled
      · rw [LGCast.perform, opened, running]
      · rw [LGCast.perform, opened, running]
  | stops service =>
      rcases setRunning_frame cast false service with ⟨_, _, stopped⟩
      have closed := closed_stop newest.settled service
      apply newest.same settled
      · rw [LGCast.perform, closed.delegate, stopped]
      · rw [LGCast.perform, closed.created, stopped]
  | opens type device =>
      rcases openConnection_frame cast type device with ⟨_, _, _, _, _, _, opened⟩
      apply newest.same settled
      · rw [LGCast.perform, opened]
      · rw [LGCast.perform, opened]
  | closes =>
      have closed := closed_closeConnection newest.settled
      exact newest.same settled closed.delegate closed.created
  | asksPairing => exact newest.same settled rfl rfl
  | rejectsPairing =>
      have ended := ended_callOnPairingRejected cast
      exact newest.same settled ended.delegate ended.created
  | fails message =>
      have ended := ended_callOnConnectionFailed newest.settled message
      exact newest.same settled ended.delegate ended.created
  | completes values =>
      have completed := unaffected_callOnConnectionCompleted platform cast values
      exact newest.same settled completed.delegate completed.created
  | receives callback => exact newest.same settled rfl rfl
  | errs error message =>
      have ended := ended_callOnError newest.settled error message
      exact newest.same settled ended.delegate ended.created
  | keepsAlive =>
      rcases sendKeepAlive_frame cast with ⟨_, equal, _⟩
      apply newest.same settled
      · rw [LGCast.perform, equal]
      · rw [LGCast.perform, equal]
  | breaksOff service =>
      rcases mediaErrorDidOccur_frame cast service with ⟨_, _, _, equal⟩
      apply newest.same settled
      · rw [LGCast.perform, equal]
      · rw [LGCast.perform, equal]

theorem DelegateIsNewest.step {cast next : LGCast} {event : LGCastEvent}
    (newest : DelegateIsNewest cast) (taken : step platform cast event = some next) :
    DelegateIsNewest next := by
  have performed := @DelegateIsNewest.perform platform cast newest
    (outcome platform cast event)
  have unaffected := step_outcome taken
  refine performed.same ?_ unaffected.delegate unaffected.created
  rw [unaffected.currentState]
  exact performed.settled

/-! ## Callbacks -/

/-- An event appends the callback of its outcome. -/
theorem step_callbacks {cast next : LGCast} {event : LGCastEvent}
    (settled : cast.manager.currentState ≠ .disconnecting)
    (taken : step platform cast event = some next) :
    next.callbacks = cast.callbacks ++
      (outcome platform cast event).calls cast.manager.delegate := by
  rw [(step_outcome taken).callbacks, perform_callbacks platform _ settled]

theorem Outcome.calls_routed_iff (outcome : Outcome) (delegate type : Option ServiceType) :
    (∀ call ∈ outcome.calls delegate, ∃ service, type = some service ∧ call.2 = some service) ↔
      (outcome.callsDelegate = true → type.isSome ∧ type = delegate) ∧
        outcome.isPairing = false := by
  have single : (∃ service, type = some service ∧ delegate = some service) ↔
      type.isSome = true ∧ type = delegate := by
    constructor
    · rintro ⟨service, is, called⟩
      rw [is, called]
      exact ⟨rfl, rfl⟩
    · rintro ⟨known, equal⟩
      rcases Option.isSome_iff_exists.mp known with ⟨service, is⟩
      exact ⟨service, is, equal.symm.trans is⟩
  cases outcome <;> simp [calls, callsDelegate, isPairing, single]

theorem routed_iff {cast next : LGCast} {event : LGCastEvent}
    (newest : DelegateIsNewest cast) (taken : step platform cast event = some next) :
    Routed platform cast event ↔ RoutesToNewest platform cast event := by
  have added : next.callbacks.drop cast.callbacks.length =
      (outcome platform cast event).calls cast.manager.delegate := by
    rw [step_callbacks newest.settled taken, List.drop_left]
  have calls := Outcome.calls_routed_iff (outcome platform cast event)
    cast.manager.delegate (cast.connectionType event)
  rw [newest.delegate] at calls
  constructor
  · intro routed
    have every := routed next taken
    rw [added, newest.delegate] at every
    exact calls.mp every
  · intro routes other same
    rw [taken] at same
    cases same
    rw [added, newest.delegate]
    exact calls.mpr routes

theorem delegateIsNewest_initially (targets : Nat → CastTarget) :
    DelegateIsNewest (initially targets) := by
  constructor
  · intro closing
    cases closing
  · rfl

/-- In every run callbacks go to the service of their connection exactly as long as each
is for the service created last and no pairing is asked for. -/
theorem run_routed_iff {targets : Nat → CastTarget} {events : List LGCastEvent}
    {final : LGCast} (reached : runFrom (step platform) (initially targets) events =
      some final) :
    EveryStep (step platform) (Routed platform) (initially targets) events ↔
      EveryStep (step platform) (RoutesToNewest platform) (initially targets) events := by
  apply everyStep_congr _ _ (delegateIsNewest_initially targets) reached
  · intro cast event next newest taken
    exact newest.step taken
  · intro cast event next newest taken
    exact routed_iff newest taken

theorem run_routed_iff_camera :
    EveryStep (step caseSensitive) (Routed caseSensitive)
      (initially fun _ => pairedTarget) (connectEvents .remoteCamera) :=
  (run_routed_iff rfl).mpr (by decide)

/-- Created second, the mirroring service is told that the TV rejected the camera. -/
theorem rejected_camera_misrouted :
    ∃ before next,
      runFrom (step caseSensitive) (initially fun _ => pairedTarget)
        [.sharedInstance .remoteCamera, .sharedInstance .screenMirroring,
          .start .remoteCamera (some pairedTV)] = some before ∧
      step caseSensitive before (.deviceDisconnected 0) = some next ∧
      before.connectionType (.deviceDisconnected 0) = some .remoteCamera ∧
      next.callbacks = [(.pairingRejected, some .screenMirroring)] ∧
      ¬Routed caseSensitive before (.deviceDisconnected 0) := by
  refine ⟨_, _, rfl, rfl, rfl, rfl, ?_⟩
  intro routed
  rcases routed _ rfl _ List.mem_cons_self with ⟨type, opened, called⟩
  cases opened
  cases called

end LGCast

end ConnectSDK
