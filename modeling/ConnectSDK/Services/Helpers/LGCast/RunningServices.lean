import ConnectSDK.Services.Helpers.LGCast.Connections

/-! # Running services

Each service notes for itself that it is running, next to the manager's state.
-/

namespace ConnectSDK

def Connection.isActive (connection : Connection) : Bool :=
  connection.currentState = .connected ∨ connection.currentState = .connecting

/-- What a change does to the activity of the connection. -/
def ConnectionChange.isActive (isActive : Bool) : ConnectionChange → Bool
  | .keeps => isActive
  | .opens _ _ => true
  | .shuts => false
  | .rejects => false
  | .completes => true
  | .schedules => isActive

theorem Connection.apply_isActive (connection : Connection) (change : ConnectionChange) :
    (connection.apply change).isActive = change.isActive connection.isActive := by
  cases change <;> rfl

namespace LGCast

/-- What an outcome does to `isRunning` of a service. -/
def Outcome.isRunning (delegate : Option ServiceType) (service : ServiceType)
    (isRunning : Bool) : Outcome → Bool
  | .starts started _ => isRunning || service == started
  | .stops stopped => isRunning && service != stopped
  | .rejectsPairing => isRunning && delegate != some service
  | .fails _ => isRunning && delegate != some service
  | .errs _ _ => isRunning && delegate != some service
  | .breaksOff stopped => isRunning && service != stopped
  | _ => isRunning

theorem setRunning_true (cast : LGCast) (started service : ServiceType) :
    (cast.setRunning true started).isRunning service =
      (cast.isRunning service || service == started) := by
  cases started <;> cases service <;> simp [setRunning, LGCast.isRunning]

theorem setRunning_false (cast : LGCast) (stopped service : ServiceType) :
    (cast.setRunning false stopped).isRunning service =
      (cast.isRunning service && service != stopped) := by
  cases stopped <;> cases service <;> simp [setRunning, LGCast.isRunning]

theorem Ended.isRunning {cast after : LGCast} {callback : ManagerCallback}
    (ended : Ended cast after callback) (service : ServiceType) :
    after.isRunning service =
      (cast.isRunning service && cast.manager.delegate != some service) := by
  by_cases delegate : cast.manager.delegate = some service
  · rw [ended.stopped service delegate, delegate]
    simp
  · rw [ended.others service delegate, bne_iff_ne.mpr delegate, Bool.and_true]

theorem perform_isRunning {cast : LGCast} (platform : LGCastPlatform) (outcome : Outcome)
    (settled : cast.manager.currentState ≠ .disconnecting) (service : ServiceType) :
    (perform platform cast outcome).isRunning service =
      outcome.isRunning cast.manager.delegate service (cast.isRunning service) := by
  cases outcome with
  | nothing => rfl
  | creates created =>
      rcases sharedInstance_frame cast created with ⟨_, _, equal⟩
      rw [perform, equal]
      rfl
  | starts started device =>
      rcases openConnection_frame (cast.setRunning true started) started device with
        ⟨_, _, _, _, _, _, opened⟩
      rw [perform, opened]
      exact setRunning_true cast started service
  | stops stopped =>
      rw [perform, (closed_stop settled stopped).isRunning]
      exact setRunning_false cast stopped service
  | opens type device =>
      rcases openConnection_frame cast type device with ⟨_, _, _, _, _, _, opened⟩
      rw [perform, opened]
      rfl
  | closes => exact (closed_closeConnection settled).isRunning service
  | asksPairing => rfl
  | rejectsPairing => exact (ended_callOnPairingRejected cast).isRunning service
  | fails message => exact (ended_callOnConnectionFailed settled message).isRunning service
  | completes values =>
      exact (unaffected_callOnConnectionCompleted platform cast values).isRunning service
  | receives callback => rfl
  | errs error message => exact (ended_callOnError settled error message).isRunning service
  | keepsAlive =>
      rcases sendKeepAlive_frame cast with ⟨_, equal, _⟩
      rw [perform, equal]
      rfl
  | breaksOff stopped =>
      cases stopped <;> cases service <;>
        simp [perform, mediaErrorDidOccur, notify, Outcome.isRunning, LGCast.isRunning]

end LGCast

/-- The services, and the one that called `openConnection:device:` last. Before any did,
the camera service is looked at. -/
structure RunningWatch where
  cast : LGCast
  owner : ServiceType := .remoteCamera

namespace RunningWatch

open LGCast (initially caseSensitive pairedTV pairedTarget connectEvents)

variable {platform : LGCastPlatform}

/-- Opening without a device is a call too. -/
def noteOwner (watch : RunningWatch) : LGCast.Outcome → ServiceType
  | .starts service _ => service
  | .opens type _ => type
  | _ => watch.owner

def step (platform : LGCastPlatform) (watch : RunningWatch) (event : LGCastEvent) :
    Option RunningWatch :=
  (LGCast.step platform watch.cast event).map fun cast =>
    { cast, owner := watch.noteOwner (LGCast.outcome platform watch.cast event) }

def isRunning (watch : RunningWatch) : Bool :=
  watch.cast.isRunning watch.owner

/-- The service that owns the connection is running exactly when the manager is connecting
or connected, and the camera service never is otherwise. -/
structure Agrees (watch : RunningWatch) : Prop where
  owner : watch.isRunning = watch.cast.isActive
  camera : watch.cast.isRunning .remoteCamera = true → watch.cast.isActive = true

/-- The owner and the camera service are stopped, or are among those that `stops`. -/
def areStopped (watch : RunningWatch) (stops : ServiceType → Bool) : Bool :=
  (stops watch.owner || !watch.isRunning) &&
    (stops .remoteCamera || !watch.cast.isRunning .remoteCamera)

/-- A start has a device, what ends an active connection stops its owner and the camera
service, what completes one finds its owner running, and an error of the media framework
finds it stopped. -/
def agreesAfter (watch : RunningWatch) : LGCast.Outcome → Bool
  | .starts _ device => device.isSome || watch.cast.isActive
  | .opens type device =>
      watch.cast.isRunning type == (device.isSome || watch.cast.isActive)
  | .stops service => watch.areStopped fun other => other == service
  | .closes => watch.areStopped fun _ => false
  | .rejectsPairing => watch.areStopped fun service =>
      watch.cast.manager.delegate == some service
  | .fails _ => watch.areStopped fun service =>
      watch.cast.manager.delegate == some service
  | .errs _ _ => watch.areStopped fun service =>
      watch.cast.manager.delegate == some service
  | .completes _ => watch.isRunning
  | .breaksOff service => watch.owner != service || !watch.isRunning
  | _ => true

def StaysAgreed (platform : LGCastPlatform) (watch : RunningWatch) (event : LGCastEvent) :
    Prop :=
  watch.agreesAfter (LGCast.outcome platform watch.cast event) = true

instance (watch : RunningWatch) (event : LGCastEvent) :
    Decidable (StaysAgreed platform watch event) :=
  inferInstanceAs (Decidable (_ = _))

theorem step_cast {watch next : RunningWatch} {event : LGCastEvent}
    (taken : step platform watch event = some next) :
    LGCast.step platform watch.cast event = some next.cast ∧
      next.owner = watch.noteOwner (LGCast.outcome platform watch.cast event) := by
  rcases Option.map_eq_some_iff.mp taken with ⟨cast, stepped, equal⟩
  rw [← equal]
  exact ⟨stepped, rfl⟩

/-- The two flags after an outcome. -/
def isRunningAfter (watch : RunningWatch) (outcome : LGCast.Outcome) (service : ServiceType) :
    Bool :=
  outcome.isRunning watch.cast.manager.delegate service (watch.cast.isRunning service)

/-- Whether the manager is active after an outcome. -/
def isActiveAfter (watch : RunningWatch) (outcome : LGCast.Outcome) : Bool :=
  outcome.change.isActive watch.cast.isActive

/-- A connection that ends leaves nobody running that should not. -/
theorem areStopped_iff (watch : RunningWatch) (stops : ServiceType → Bool) :
    watch.areStopped stops = true ↔
      (watch.isRunning && !stops watch.owner) = false ∧
        ((watch.cast.isRunning .remoteCamera && !stops .remoteCamera) = true →
          false = true) := by
  unfold areStopped
  cases watch.isRunning <;> cases watch.cast.isRunning .remoteCamera <;> simp

theorem agreesAfter_iff {watch : RunningWatch} (agrees : watch.Agrees)
    (outcome : LGCast.Outcome) :
    watch.agreesAfter outcome = true ↔
      watch.isRunningAfter outcome (watch.noteOwner outcome) =
          watch.isActiveAfter outcome ∧
        (watch.isRunningAfter outcome .remoteCamera = true →
          watch.isActiveAfter outcome = true) := by
  have kept : true = true ↔ watch.isRunning = watch.cast.isActive ∧
      (watch.cast.isRunning .remoteCamera = true → watch.cast.isActive = true) :=
    iff_of_true rfl ⟨agrees.owner, agrees.camera⟩
  cases outcome with
  | nothing => exact kept
  | creates service => exact kept
  | starts service device =>
      cases device with
      | none =>
          constructor
          · intro active
            have stays : watch.cast.isActive = true := by simpa [agreesAfter] using active
            refine ⟨?_, fun _ => stays⟩
            simp [isRunningAfter, isActiveAfter, noteOwner, LGCast.Outcome.isRunning,
              LGCast.Outcome.change, ConnectionChange.isActive, stays]
          · intro after
            have active := after.1
            simp [isRunningAfter, isActiveAfter, noteOwner, LGCast.Outcome.isRunning,
              LGCast.Outcome.change, ConnectionChange.isActive] at active
            simp [agreesAfter, ← active]
      | some device =>
          simp [agreesAfter, isRunningAfter, isActiveAfter, noteOwner, LGCast.Outcome.isRunning,
            LGCast.Outcome.change, ConnectionChange.isActive]
  | stops service => exact watch.areStopped_iff fun other => other == service
  | opens type device =>
      cases device with
      | none =>
          refine ⟨fun same => ⟨beq_iff_eq.mp same, agrees.camera⟩, fun after => ?_⟩
          exact beq_iff_eq.mpr after.1
      | some device =>
          refine ⟨fun same => ⟨beq_iff_eq.mp same, fun _ => rfl⟩, fun after => ?_⟩
          exact beq_iff_eq.mpr after.1
  | closes =>
      have stopped := watch.areStopped_iff fun _ => false
      simp only [Bool.not_false, Bool.and_true] at stopped
      exact stopped
  | asksPairing => exact kept
  | rejectsPairing =>
      exact watch.areStopped_iff fun service => watch.cast.manager.delegate == some service
  | fails message =>
      exact watch.areStopped_iff fun service => watch.cast.manager.delegate == some service
  | completes values => exact ⟨fun running => ⟨running, fun _ => rfl⟩, And.left⟩
  | receives callback => exact kept
  | errs error message =>
      exact watch.areStopped_iff fun service => watch.cast.manager.delegate == some service
  | keepsAlive => exact kept
  | breaksOff service =>
      have owner : (watch.owner != service || !watch.isRunning) = true ↔
          (watch.isRunning && watch.owner != service) = watch.isRunning := by
        cases watch.isRunning <;> simp
      constructor
      · intro apart
        refine ⟨(owner.mp apart).trans agrees.owner, fun running => ?_⟩
        have before : (watch.cast.isRunning .remoteCamera &&
          ServiceType.remoteCamera != service) = true := running
        exact agrees.camera (Bool.and_eq_true_iff.mp before).1
      · intro after
        exact owner.mpr (after.1.trans agrees.owner.symm)

theorem staysAgreed_iff {watch next : RunningWatch} {event : LGCastEvent}
    (coherent : watch.cast.connection.Coherent) (agrees : watch.Agrees)
    (taken : step platform watch event = some next) :
    StaysAgreed platform watch event ↔ next.Agrees := by
  rcases step_cast taken with ⟨stepped, owner⟩
  have unaffected := LGCast.step_outcome stepped
  have running : ∀ service, next.cast.isRunning service =
      watch.isRunningAfter (LGCast.outcome platform watch.cast event) service := by
    intro service
    rw [unaffected.isRunning, LGCast.perform_isRunning platform _ coherent.settled]
    rfl
  have active : next.cast.isActive =
      watch.isActiveAfter (LGCast.outcome platform watch.cast event) := by
    have changed := LGCast.step_connection coherent.settled stepped
    change next.cast.connection.isActive = _
    rw [changed, Connection.apply_isActive]
    rfl
  refine (agreesAfter_iff agrees _).trans ?_
  rw [← running, ← running, ← active, ← owner]
  exact ⟨fun both => ⟨both.1, both.2⟩, fun both => ⟨both.owner, both.camera⟩⟩

theorem agrees_initially (targets : Nat → CastTarget) :
    Agrees { cast := initially targets } := by
  constructor
  · rfl
  · intro running
    cases running

/-- In every run services are running exactly when the manager is connecting or connected,
exactly as long as every event keeps them agreed. -/
theorem run_agrees_iff {targets : Nat → CastTarget} {events : List LGCastEvent}
    {final : RunningWatch}
    (reached : runFrom (step platform) { cast := initially targets } events = some final) :
    EveryStep (step platform) (StaysAgreed platform) { cast := initially targets } events ↔
      Throughout (step platform) Agrees { cast := initially targets } events := by
  refine @everyStep_iff_throughout _ _ _ _ (fun watch => watch.cast.connection.Coherent) _
    ?_ ?_ _ _ _ (LGCast.coherent_initially targets) (agrees_initially targets) reached
  · intro watch event next coherent taken
    exact LGCast.coherent_step coherent (step_cast taken).1
  · intro watch event next coherent agrees taken
    exact staysAgreed_iff coherent agrees taken

theorem run_agrees_iff_camera :
    Throughout (step caseSensitive) Agrees { cast := initially fun _ => pairedTarget }
      (connectEvents .remoteCamera ++
        [.stop .remoteCamera, .start .remoteCamera (some pairedTV), .deviceDisconnected 0]) :=
  (run_agrees_iff rfl).mp (by decide)

/-- A start without a device fails, and so does every later one. -/
theorem start_without_device_blocks :
    ∃ final, runFrom (step caseSensitive) { cast := initially fun _ => pairedTarget }
        [.sharedInstance .remoteCamera, .start .remoteCamera none,
          .start .remoteCamera (some pairedTV)] = some final ∧
      final.cast.camera.isRunning = true ∧ final.cast.manager.currentState = .none ∧
      final.cast.opened = [] ∧
      final.cast.notifications = [.didStart .remoteCamera false] ∧ ¬final.Agrees := by
  refine ⟨_, rfl, rfl, rfl, rfl, rfl, ?_⟩
  intro agrees
  have running := agrees.camera rfl
  cases running

end RunningWatch

end ConnectSDK
