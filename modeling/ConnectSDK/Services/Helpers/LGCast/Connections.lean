import ConnectSDK.Services.Helpers.LGCast.ConnectionOutcomes

/-! # The connection

The connection of the manager as a machine of its own: its state, the device held, the
keep-alive timer and what was opened and closed. An outcome makes one of six changes.
-/

namespace ConnectSDK

structure Connection where
  currentState : ConnectionState
  tvDevice : Option Nat
  isKeptAlive : Bool
  opened : List (Nat × ServiceType)
  lastClosed : Option Nat
deriving DecidableEq

inductive ConnectionChange where
  | keeps
  | opens (type : ServiceType) (device : Nat)
  | shuts
  | rejects
  | completes
  | schedules
deriving DecidableEq

namespace Connection

def apply (connection : Connection) : ConnectionChange → Connection
  | .keeps => connection
  | .opens type device =>
      { connection with
        currentState := .connecting
        tvDevice := some device
        opened := (device, type) :: connection.opened }
  | .shuts =>
      { connection with
        currentState := .none
        tvDevice := none
        isKeptAlive := false
        lastClosed := some connection.opened.length }
  | .rejects => { connection with currentState := .none }
  | .completes => { connection with currentState := .connected }
  | .schedules => { connection with isKeptAlive := true }

end Connection

namespace LGCast

/-- A timer is scheduled. -/
def isKeptAlive (cast : LGCast) : Bool :=
  cast.manager.keepAliveTimer = some { isValid := true }

/-- How many connections had been opened when the last one was closed. -/
def lastClosed (cast : LGCast) : Option Nat :=
  cast.closings.getLast?.map Closing.sessions

def connection (cast : LGCast) : Connection where
  currentState := cast.manager.currentState
  tvDevice := cast.manager.tvDevice
  isKeptAlive := cast.isKeptAlive
  opened := cast.opened
  lastClosed := cast.lastClosed

def Outcome.change : Outcome → ConnectionChange
  | .starts type (some device) => .opens type device.number
  | .opens type (some device) => .opens type device.number
  | .stops _ => .shuts
  | .closes => .shuts
  | .rejectsPairing => .rejects
  | .fails _ => .shuts
  | .completes _ => .completes
  | .errs _ _ => .shuts
  | .keepsAlive => .schedules
  | _ => .keeps

theorem Unaffected.connection {cast after : LGCast} (unaffected : Unaffected cast after) :
    after.connection = cast.connection := by
  simp only [LGCast.connection, isKeptAlive, lastClosed, unaffected.currentState,
    unaffected.tvDevice, unaffected.keepAliveTimer, unaffected.opened, unaffected.closings]

theorem stoppedTimer_isValid (cast : LGCast) :
    cast.stoppedTimer ≠ some { isValid := true } := by
  intro live
  rcases Option.map_eq_some_iff.mp live with ⟨_, _, equal⟩
  cases equal

theorem Shut.connection {cast after : LGCast} (closings : List Closing)
    {closing : Closing} {teardowns : List LGCastRequest}
    (shut : Shut cast after (closings ++ [closing]) teardowns)
    (sessions : closing.sessions = cast.opened.length)
    (currentState : after.manager.currentState = .none)
    (opened : after.opened = cast.opened) :
    after.connection = cast.connection.apply .shuts := by
  have kept : after.isKeptAlive = false := by
    rw [isKeptAlive, shut.keepAliveTimer]
    exact decide_eq_false (stoppedTimer_isValid cast)
  have closed : after.lastClosed = some cast.opened.length := by
    rw [lastClosed, shut.closings, ← List.append_assoc, List.getLast?_concat,
      Option.map_some, sessions]
  simp only [LGCast.connection, Connection.apply, kept, closed, currentState, opened,
    shut.tvDevice]

theorem Closed.connection {cast after : LGCast} (closed : Closed cast after) :
    after.connection = cast.connection.apply .shuts :=
  Shut.connection [] closed.shut rfl closed.currentState closed.opened

theorem callOnPairingRejected_connection (cast : LGCast) :
    cast.callOnPairingRejected.connection = cast.connection.apply .rejects := by
  unfold callOnPairingRejected
  dsimp only
  split
  · rfl
  · rfl
  · rfl

theorem perform_connection {cast : LGCast} (platform : LGCastPlatform) (outcome : Outcome)
    (settled : cast.manager.currentState ≠ .disconnecting) :
    (perform platform cast outcome).connection = cast.connection.apply outcome.change := by
  cases outcome with
  | nothing => rfl
  | creates service =>
      rcases sharedInstance_frame cast service with ⟨_, _, equal⟩
      rw [perform, equal]
      rfl
  | starts service device =>
      rcases setRunning_frame cast true service with ⟨_, _, running⟩
      rw [perform, running]
      cases device <;> rfl
  | stops service =>
      rcases setRunning_frame cast false service with ⟨_, _, stopped⟩
      rw [perform, (closed_stop settled service).connection, stopped]
      rfl
  | opens type device => cases device <;> rfl
  | closes => exact (closed_closeConnection settled).connection
  | asksPairing => rfl
  | rejectsPairing => exact callOnPairingRejected_connection cast
  | fails message =>
      have ended := ended_callOnConnectionFailed settled message
      exact Shut.connection [] (shut_callOnConnectionFailed settled message) rfl
        ended.currentState ended.opened
  | completes values =>
      exact (unaffected_callOnConnectionCompleted platform cast values).connection
  | receives callback => rfl
  | errs error message =>
      have ended := ended_callOnError settled error message
      cases again : cast.closesAgain with
      | false =>
          exact Shut.connection [] (shut_callOnError settled again error message)
            rfl ended.currentState ended.opened
      | true =>
          exact Shut.connection [cast.closing]
            (shut_callOnError_again settled again error message) rfl ended.currentState
            ended.opened
  | keepsAlive =>
      rcases sendKeepAlive_frame cast with ⟨_, equal, _⟩
      rw [perform, equal]
      rfl
  | breaksOff service =>
      rcases mediaErrorDidOccur_frame cast service with ⟨_, _, _, equal⟩
      rw [perform, equal]
      rfl

/-- An event changes the connection as its outcome says. -/
theorem step_connection {platform : LGCastPlatform} {cast next : LGCast}
    {event : LGCastEvent} (settled : cast.connection.currentState ≠ .disconnecting)
    (taken : step platform cast event = some next) :
    next.connection = cast.connection.apply (outcome platform cast event).change :=
  (step_outcome taken).connection.trans (perform_connection platform _ settled)

end LGCast

namespace Connection

/-- The device held is the one opened last, and was not closed since. -/
def IsOpen (connection : Connection) : Prop :=
  ∃ device, connection.tvDevice = some device ∧
    connection.opened.head?.map Prod.fst = some device ∧
    ∀ sessions, connection.lastClosed = some sessions →
      sessions < connection.opened.length

/-- What holds of every connection, whatever the events. -/
structure Coherent (connection : Connection) : Prop where
  settled : connection.currentState ≠ .disconnecting
  bounded : ∀ sessions, connection.lastClosed = some sessions →
    sessions ≤ connection.opened.length
  held : connection.tvDevice.isSome → connection.IsOpen

theorem apply_settled {connection : Connection}
    (settled : connection.currentState ≠ .disconnecting) (change : ConnectionChange) :
    (connection.apply change).currentState ≠ .disconnecting := by
  intro closing
  cases change with
  | keeps => exact settled closing
  | opens type device => cases closing
  | shuts => cases closing
  | rejects => cases closing
  | completes => cases closing
  | schedules => exact settled closing

theorem Coherent.apply {connection : Connection} (coherent : connection.Coherent)
    (change : ConnectionChange) : (connection.apply change).Coherent := by
  have settled := apply_settled coherent.settled change
  cases change with
  | keeps => exact coherent
  | opens type device =>
      have bounded : ∀ sessions, connection.lastClosed = some sessions →
          sessions < connection.opened.length + 1 :=
        fun sessions closed => Nat.lt_succ_of_le (coherent.bounded sessions closed)
      refine ⟨settled, ?_, ?_⟩
      · intro sessions closed
        exact Nat.le_of_lt (bounded sessions closed)
      · intro _
        exact ⟨device, rfl, rfl, bounded⟩
  | shuts =>
      refine ⟨settled, ?_, ?_⟩
      · intro sessions closed
        cases closed
        exact Nat.le_refl _
      · intro held
        cases held
  | rejects => exact ⟨settled, coherent.bounded, coherent.held⟩
  | completes => exact ⟨settled, coherent.bounded, coherent.held⟩
  | schedules => exact ⟨settled, coherent.bounded, coherent.held⟩

end Connection

namespace LGCast

theorem coherent_initially (targets : Nat → CastTarget) :
    (initially targets).connection.Coherent := by
  refine ⟨?_, ?_, ?_⟩
  · intro closing
    cases closing
  · intro sessions closed
    cases closed
  · intro held
    cases held

theorem coherent_step {platform : LGCastPlatform} {cast next : LGCast}
    {event : LGCastEvent} (coherent : cast.connection.Coherent)
    (taken : step platform cast event = some next) : next.connection.Coherent := by
  rw [step_connection coherent.settled taken]
  exact coherent.apply _

end LGCast

end ConnectSDK
