import ConnectSDK.Services.Helpers.LGCast.Connections

/-! # Late replies

The blocks of a request go on with the connection that there is when the reply comes,
whatever connection the request was sent for.
-/

namespace ConnectSDK

namespace Connection

/-- A connection opened after the last closing is among those up to `exchanged`. -/
def isExchanged (connection : Connection) (exchanged : Nat) : Bool :=
  connection.lastClosed.all fun sessions => decide (sessions < exchanged)

/-- The manager is connected only while the device opened last is held and not closed
since, and once closed no timer is live before a new connection completed its exchange. -/
structure Timely (connection : Connection) (exchanged : Nat) : Prop where
  connected : connection.currentState = .connected → connection.IsOpen
  quiet : connection.isKeptAlive = true → connection.isExchanged exchanged = true

theorem isExchanged_mono {connection : Connection} {exchanged later : Nat}
    (holds : connection.isExchanged exchanged = true) (grows : exchanged ≤ later) :
    connection.isExchanged later = true := by
  unfold isExchanged at holds ⊢
  cases closed : connection.lastClosed with
  | none => rfl
  | some sessions =>
      rw [closed] at holds
      have before : sessions < exchanged := of_decide_eq_true holds
      exact decide_eq_true (Nat.lt_of_lt_of_le before grows)

/-- Of all changes only a completion and a scheduled timer can come too late. -/
theorem Timely.apply_iff {connection : Connection} {exchanged later : Nat}
    (timely : connection.Timely exchanged) (coherent : connection.Coherent)
    (grows : exchanged ≤ later) (change : ConnectionChange) :
    (connection.apply change).Timely later ↔
      (change = .completes → connection.tvDevice.isSome) ∧
        (change = .schedules → connection.isExchanged later = true) := by
  have quiet : connection.isKeptAlive = true → connection.isExchanged later = true :=
    fun live => isExchanged_mono (timely.quiet live) grows
  cases change with
  | keeps =>
      refine ⟨fun _ => ⟨fun other => ?_, fun other => ?_⟩, fun _ => ⟨timely.connected, quiet⟩⟩
      · cases other
      · cases other
  | opens type device =>
      refine ⟨fun _ => ⟨fun other => ?_, fun other => ?_⟩, fun _ => ⟨?_, quiet⟩⟩
      · cases other
      · cases other
      · intro connected
        cases connected
  | shuts =>
      refine ⟨fun _ => ⟨fun other => ?_, fun other => ?_⟩, fun _ => ⟨?_, ?_⟩⟩
      · cases other
      · cases other
      · intro connected
        cases connected
      · intro live
        cases live
  | rejects =>
      refine ⟨fun _ => ⟨fun other => ?_, fun other => ?_⟩, fun _ => ⟨?_, quiet⟩⟩
      · cases other
      · cases other
      · intro connected
        cases connected
  | completes =>
      constructor
      · intro next
        refine ⟨fun _ => ?_, fun other => ?_⟩
        · rcases next.connected rfl with ⟨device, held, _⟩
          exact Option.isSome_iff_exists.mpr ⟨device, held⟩
        · cases other
      · intro inTime
        exact ⟨fun _ => coherent.held (inTime.1 rfl), quiet⟩
  | schedules =>
      constructor
      · intro next
        refine ⟨fun other => ?_, fun _ => next.quiet rfl⟩
        cases other
      · intro inTime
        exact ⟨timely.connected, fun _ => inTime.2 rfl⟩

end Connection

namespace LGCast

/-- The number of the connection whose parameter exchange the event completes, `0` for
none. -/
def exchangedBy (cast : LGCast) : LGCastEvent → Nat
  | .succeeded request _ =>
      match cast.requests[request]? with
      | none => 0
      | some request =>
          if request.blocks = .sourceDeviceInfo then request.session.getD 0 else 0
  | _ => 0

end LGCast

/-- The services, and the newest connection whose parameters were exchanged. -/
structure ReplyWatch where
  cast : LGCast
  exchanged : Nat := 0

namespace ReplyWatch

open LGCast (initially caseSensitive pairedTV pairedTarget connectEvents)

variable {platform : LGCastPlatform}

def noteExchange (watch : ReplyWatch) (event : LGCastEvent) : Nat :=
  max watch.exchanged (watch.cast.exchangedBy event)

def step (platform : LGCastPlatform) (watch : ReplyWatch) (event : LGCastEvent) :
    Option ReplyWatch :=
  (LGCast.step platform watch.cast event).map fun cast =>
    { cast, exchanged := watch.noteExchange event }

def Timely (watch : ReplyWatch) : Prop :=
  watch.cast.connection.Timely watch.exchanged

/-- A reply completes the connection only while a device is held. One that schedules the
timer is to a connection opened after the last closing, or such a one completed its
exchange before. -/
def InTime (platform : LGCastPlatform) (watch : ReplyWatch) (event : LGCastEvent) : Prop :=
  ((LGCast.outcome platform watch.cast event).change = .completes →
      watch.cast.manager.tvDevice.isSome) ∧
    ((LGCast.outcome platform watch.cast event).change = .schedules →
      watch.cast.connection.isExchanged (watch.noteExchange event) = true)

instance (watch : ReplyWatch) (event : LGCastEvent) :
    Decidable (InTime platform watch event) :=
  inferInstanceAs (Decidable ((_ → _) ∧ (_ → _)))

theorem step_cast {watch next : ReplyWatch} {event : LGCastEvent}
    (taken : step platform watch event = some next) :
    LGCast.step platform watch.cast event = some next.cast ∧
      next.exchanged = watch.noteExchange event := by
  rcases Option.map_eq_some_iff.mp taken with ⟨cast, stepped, equal⟩
  rw [← equal]
  exact ⟨stepped, rfl⟩

theorem inTime_iff {watch next : ReplyWatch} {event : LGCastEvent}
    (coherent : watch.cast.connection.Coherent) (timely : watch.Timely)
    (taken : step platform watch event = some next) :
    InTime platform watch event ↔ next.Timely := by
  rcases step_cast taken with ⟨stepped, exchanged⟩
  unfold ReplyWatch.Timely
  rw [LGCast.step_connection coherent.settled stepped, exchanged]
  exact (Connection.Timely.apply_iff timely coherent (Nat.le_max_left _ _) _).symm

theorem timely_initially (targets : Nat → CastTarget) :
    Timely { cast := initially targets } := by
  constructor
  · intro connected
    cases connected
  · intro live
    cases live

/-- In every run the manager is connected only with an open device, and a closed
connection stays quiet until a new one is complete, exactly as long as no reply comes too
late. -/
theorem run_timely_iff {targets : Nat → CastTarget} {events : List LGCastEvent}
    {final : ReplyWatch}
    (reached : runFrom (step platform) { cast := initially targets } events = some final) :
    EveryStep (step platform) (InTime platform) { cast := initially targets } events ↔
      Throughout (step platform) Timely { cast := initially targets } events := by
  refine @everyStep_iff_throughout _ _ _ _ (fun watch => watch.cast.connection.Coherent) _
    ?_ ?_ _ _ _ (LGCast.coherent_initially targets) (timely_initially targets) reached
  · intro watch event next coherent taken
    exact LGCast.coherent_step coherent (step_cast taken).1
  · intro watch event next coherent timely taken
    exact inTime_iff coherent timely taken

theorem run_timely_iff_stop :
    Throughout (step caseSensitive) Timely { cast := initially fun _ => pairedTarget }
      (connectEvents .remoteCamera ++ [.stop .remoteCamera]) :=
  (run_timely_iff rfl).mp (by decide)

/-- The answers to SET_PARAMETER and to GET_PARAMETER come after the stop. -/
theorem late_replies_revive :
    (∃ final, runFrom (step caseSensitive) { cast := initially fun _ => pairedTarget }
        ((connectEvents .remoteCamera).take 6 ++
          [.stop .remoteCamera, .succeeded 2 none]) = some final ∧
      final.cast.isKeptAlive = true ∧ ¬final.Timely) ∧
    ∃ final, runFrom (step caseSensitive) { cast := initially fun _ => pairedTarget }
        ((connectEvents .remoteCamera).take 5 ++
          [.stop .remoteCamera, .succeeded 1 (some (.object []))]) = some final ∧
      final.cast.manager.currentState = .connected ∧
      final.cast.manager.tvDevice = none ∧ ¬final.Timely := by
  constructor
  · refine ⟨_, rfl, rfl, ?_⟩
    intro timely
    have quiet := timely.quiet rfl
    cases quiet
  · refine ⟨_, rfl, rfl, rfl, ?_⟩
    intro timely
    rcases timely.connected rfl with ⟨device, held, _⟩
    cases held

end ReplyWatch

end ConnectSDK
