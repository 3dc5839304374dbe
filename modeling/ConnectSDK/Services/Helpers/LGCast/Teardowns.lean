import ConnectSDK.Services.Helpers.LGCast.Connections

/-! # TEARDOWN messages

Closing sends what the manager still has a service and subscriptions for, which are kept
when the connection is closed.
-/

namespace ConnectSDK

namespace LGCast

variable {platform : LGCastPlatform}

/-- Every TEARDOWN was sent for an open connection, no two for the same one, and closing
without an open connection sent nothing. -/
structure ClosesOnce (cast : LGCast) : Prop where
  isOpen : ∀ request ∈ cast.teardowns, request.session.isSome
  once : (cast.teardowns.map LGCastRequest.session).Nodup
  silent : ∀ closing ∈ cast.closings, closing.isOpen = false → closing.messages = 0

def Outcome.isError : Outcome → Bool
  | .errs _ _ => true
  | _ => false

/-- Closing finds an open connection, or nothing that can be sent. When the camera service
closes again after an error, nothing can be sent. -/
def ClosesOpen (platform : LGCastPlatform) (cast : LGCast) (event : LGCastEvent) : Prop :=
  ((outcome platform cast event).change = .shuts →
      cast.manager.tvDevice.isSome ∨ cast.closingMessages = 0) ∧
    ((outcome platform cast event).isError = true → cast.closesAgain = true →
      cast.closingMessages = 0)

instance (cast : LGCast) (event : LGCastEvent) :
    Decidable (ClosesOpen platform cast event) :=
  inferInstanceAs (Decidable ((_ → _ ∨ _) ∧ (_ → _ → _)))

/-! ## What outcomes close and send -/

def Outcome.closings (cast : LGCast) : Outcome → List Closing
  | .stops _ => [cast.closing]
  | .closes => [cast.closing]
  | .fails _ => [cast.closing]
  | .errs _ _ =>
      cast.closing :: if cast.closesAgain then [{ cast.closing with isOpen := false }] else []
  | _ => []

def Outcome.teardowns (cast : LGCast) : Outcome → List LGCastRequest
  | .stops _ => cast.sentTeardown
  | .closes => cast.sentTeardown
  | .fails _ => cast.sentTeardown
  | .errs _ _ =>
      cast.sentTeardown ++
        if cast.closesAgain then
          cast.sentTeardown.map fun request => { request with session := none }
        else []
  | _ => []

theorem perform_closings {cast : LGCast} (platform : LGCastPlatform) (outcome : Outcome)
    (settled : cast.manager.currentState ≠ .disconnecting) :
    (perform platform cast outcome).closings = cast.closings ++ outcome.closings cast ∧
      (perform platform cast outcome).teardowns =
        cast.teardowns ++ outcome.teardowns cast := by
  have same : ∀ {after : LGCast}, after.closings = cast.closings →
      after.requests = cast.requests →
      after.closings = cast.closings ++ [] ∧ after.teardowns = cast.teardowns ++ [] := by
    intro after closings requests
    rw [List.append_nil, List.append_nil, LGCast.teardowns, requests]
    exact ⟨closings, rfl⟩
  cases outcome with
  | nothing => exact same rfl rfl
  | creates service =>
      rcases sharedInstance_frame cast service with ⟨_, _, equal⟩
      rw [perform, equal]
      exact same rfl rfl
  | starts service device =>
      rcases setRunning_frame cast true service with ⟨_, _, running⟩
      rcases openConnection_frame (cast.setRunning true service) service device with
        ⟨_, _, _, _, _, _, opened⟩
      rw [perform, opened, running]
      exact same rfl rfl
  | stops service =>
      rcases setRunning_frame cast false service with ⟨_, _, stopped⟩
      have closed := closed_stop settled service
      rw [stopped] at closed
      rw [perform, stopped]
      exact ⟨closed.closings, closed.teardowns⟩
  | opens type device =>
      rcases openConnection_frame cast type device with ⟨_, _, _, _, _, _, opened⟩
      rw [perform, opened]
      exact same rfl rfl
  | closes =>
      have closed := closed_closeConnection settled
      exact ⟨closed.closings, closed.teardowns⟩
  | asksPairing => exact same rfl rfl
  | rejectsPairing =>
      unfold perform callOnPairingRejected
      dsimp only
      split
      · exact same rfl rfl
      · exact same rfl rfl
      · exact same rfl rfl
  | fails message =>
      have shut := shut_callOnConnectionFailed settled message
      exact ⟨shut.closings, shut.teardowns⟩
  | completes values =>
      have completed := unaffected_callOnConnectionCompleted platform cast values
      exact ⟨completed.closings.trans (List.append_nil _).symm,
        completed.teardowns.trans (List.append_nil _).symm⟩
  | receives callback => exact same rfl rfl
  | errs error message =>
      unfold Outcome.closings Outcome.teardowns
      cases again : cast.closesAgain with
      | false =>
          have shut := shut_callOnError settled again error message
          exact ⟨shut.closings, shut.teardowns.trans (by simp)⟩
      | true =>
          have shut := shut_callOnError_again settled again error message
          exact ⟨shut.closings, shut.teardowns⟩
  | keepsAlive =>
      have sent := @unaffected_sendCommand cast.invalidateTimer .keepAlive .ignored
        (by decide)
      exact ⟨sent.closings.trans (List.append_nil _).symm,
        sent.teardowns.trans (List.append_nil _).symm⟩
  | breaksOff service =>
      rcases mediaErrorDidOccur_frame cast service with ⟨_, _, _, equal⟩
      rw [perform, equal]
      exact same rfl rfl

theorem step_closings {cast next : LGCast} {event : LGCastEvent}
    (settled : cast.manager.currentState ≠ .disconnecting)
    (taken : step platform cast event = some next) :
    next.closings = cast.closings ++ (outcome platform cast event).closings cast ∧
      next.teardowns = cast.teardowns ++ (outcome platform cast event).teardowns cast := by
  have unaffected := step_outcome taken
  rw [unaffected.closings, unaffected.teardowns]
  exact perform_closings platform _ settled

/-- The step closes as `ClosesOpen` wants exactly when its closings do. -/
theorem closesOpen_iff (cast : LGCast) (event : LGCastEvent) :
    ClosesOpen platform cast event ↔
      ∀ closing ∈ (outcome platform cast event).closings cast,
        closing.isOpen = false → closing.messages = 0 := by
  have here : (cast.manager.tvDevice.isSome ∨ cast.closingMessages = 0) ↔
      (cast.closing.isOpen = false → cast.closing.messages = 0) := by
    rw [closing]
    cases cast.manager.tvDevice <;> simp
  unfold ClosesOpen
  cases outcome platform cast event with
  | starts service device =>
      cases device <;> simp [Outcome.change, Outcome.isError, Outcome.closings]
  | opens type device =>
      cases device <;> simp [Outcome.change, Outcome.isError, Outcome.closings]
  | errs error message =>
      cases again : cast.closesAgain with
      | false => simp [Outcome.change, Outcome.isError, Outcome.closings, here, again]
      | true =>
          have second : cast.closing.messages = cast.closingMessages := rfl
          simp [Outcome.change, Outcome.isError, Outcome.closings, here, again, second]
  | _ => simp [Outcome.change, Outcome.isError, Outcome.closings, here]

/-! ## TEARDOWN per connection -/

/-- No TEARDOWN was sent yet for the connection whose device is held. -/
structure TeardownsBounded (cast : LGCast) : Prop where
  coherent : cast.connection.Coherent
  bounded : ∀ request ∈ cast.teardowns, ∀ session, request.session = some session →
    session ≤ cast.opened.length
  fresh : cast.manager.tvDevice.isSome → ∀ request ∈ cast.teardowns, ∀ session,
    request.session = some session → session < cast.opened.length

theorem Outcome.mem_teardowns {cast : LGCast} {outcome : Outcome} {request : LGCastRequest}
    (member : request ∈ outcome.teardowns cast) :
    outcome.change = .shuts ∧ (request.session = cast.session ∨ request.session = none) := by
  have sent : ∀ request ∈ cast.sentTeardown, request.session = cast.session :=
    fun request member => (mem_sentCommand member).2
  cases outcome with
  | stops service => exact ⟨rfl, Or.inl (sent request member)⟩
  | closes => exact ⟨rfl, Or.inl (sent request member)⟩
  | fails message => exact ⟨rfl, Or.inl (sent request member)⟩
  | errs error message =>
      refine ⟨rfl, ?_⟩
      rcases List.mem_append.mp member with first | second
      · exact Or.inl (sent request first)
      · split at second
        · rcases List.mem_map.mp second with ⟨_, _, equal⟩
          rw [← equal]
          exact Or.inr rfl
        · cases second
  | _ => cases member

theorem TeardownsBounded.step {cast next : LGCast} {event : LGCastEvent}
    (bounds : TeardownsBounded cast) (taken : step platform cast event = some next) :
    TeardownsBounded next := by
  have settled := bounds.coherent.settled
  have changed := step_connection settled taken
  have sent := (step_closings settled taken).2
  have numbered : ∀ request ∈ (outcome platform cast event).teardowns cast, ∀ session,
      request.session = some session → session = cast.opened.length := by
    intro request member session is
    rcases (Outcome.mem_teardowns member).2 with here | nowhere
    · rw [is] at here
      rcases Option.map_eq_some_iff.mp here.symm with ⟨_, _, equal⟩
      exact equal.symm
    · rw [is] at nowhere
      cases nowhere
  have opened : next.opened = (cast.connection.apply
      (outcome platform cast event).change).opened := congrArg Connection.opened changed
  have grows : cast.opened.length ≤ next.opened.length := by
    rw [opened]
    cases (outcome platform cast event).change with
    | opens type device => exact Nat.le_succ _
    | _ => exact Nat.le_refl _
  refine ⟨coherent_step bounds.coherent taken, ?_, ?_⟩
  · intro request member session is
    rw [sent] at member
    rcases List.mem_append.mp member with earlier | new
    · exact (bounds.bounded request earlier session is).trans grows
    · rw [numbered request new session is]
      exact grows
  · intro held request member session is
    have device : next.manager.tvDevice = (cast.connection.apply
        (outcome platform cast event).change).tvDevice :=
      congrArg Connection.tvDevice changed
    rw [device] at held
    rw [sent] at member
    rw [opened]
    rcases List.mem_append.mp member with earlier | new
    · cases change : (outcome platform cast event).change with
      | opens type device =>
          exact Nat.lt_succ_of_le (bounds.bounded request earlier session is)
      | shuts =>
          rw [change] at held
          cases held
      | _ =>
          rw [change] at held
          exact bounds.fresh held request earlier session is
    · rw [(Outcome.mem_teardowns new).1] at held
      cases held

/-- An outcome that does not close again sends the TEARDOWN of closing, or none. -/
theorem Outcome.teardowns_cases (cast : LGCast) (outcome : Outcome)
    (once : outcome.isError = true → cast.closesAgain = false) :
    outcome.teardowns cast = [] ∨
      outcome.change = .shuts ∧ outcome.teardowns cast = cast.sentTeardown := by
  cases outcome with
  | stops service => exact Or.inr ⟨rfl, rfl⟩
  | closes => exact Or.inr ⟨rfl, rfl⟩
  | fails message => exact Or.inr ⟨rfl, rfl⟩
  | errs error message =>
      refine Or.inr ⟨rfl, ?_⟩
      simp [Outcome.teardowns, once rfl]
  | _ => exact Or.inl rfl

theorem sentTeardown_cases (cast : LGCast) :
    cast.sentTeardown = [] ∨ ∃ request, cast.sentTeardown = [request] := by
  unfold sentTeardown sentCommand
  split
  · exact Or.inl rfl
  · split
    · exact Or.inr ⟨_, rfl⟩
    · exact Or.inl rfl

/-- A step that closes as it should sends at most one TEARDOWN, for the open connection. -/
theorem teardowns_of_closesOpen {cast : LGCast} {event : LGCastEvent}
    (closes : ClosesOpen platform cast event) :
    (outcome platform cast event).teardowns cast = [] ∨
      ∃ request, (outcome platform cast event).teardowns cast = [request] ∧
        cast.manager.tvDevice.isSome ∧ request.session = some cast.opened.length := by
  rcases sentTeardown_cases cast with none | ⟨request, one⟩
  · left
    cases outcome platform cast event <;> simp [Outcome.teardowns, none]
  · have messages : cast.closingMessages ≠ 0 := by
      rw [closingMessages, one, List.length_singleton]
      omega
    have once : (outcome platform cast event).isError = true → cast.closesAgain = false := by
      intro error
      cases again : cast.closesAgain with
      | false => rfl
      | true => exact absurd (closes.2 error again) messages
    rcases Outcome.teardowns_cases cast _ once with nothing | ⟨shuts, sent⟩
    · exact Or.inl nothing
    · right
      have held := (closes.1 shuts).resolve_right messages
      have session : request.session = cast.session :=
        (mem_sentCommand (one ▸ List.mem_singleton_self request)).2
      refine ⟨request, sent.trans one, held, session.trans ?_⟩
      rcases Option.isSome_iff_exists.mp held with ⟨device, is⟩
      rw [LGCast.session, is]
      rfl

theorem closesOpen_iff_closesOnce {cast next : LGCast} {event : LGCastEvent}
    (bounds : TeardownsBounded cast) (good : ClosesOnce cast)
    (taken : step platform cast event = some next) :
    ClosesOpen platform cast event ↔ ClosesOnce next := by
  rcases step_closings bounds.coherent.settled taken with ⟨closings, teardowns⟩
  constructor
  · intro closes
    have silent : ∀ closing ∈ next.closings, closing.isOpen = false →
        closing.messages = 0 := by
      intro closing member
      rw [closings] at member
      rcases List.mem_append.mp member with earlier | new
      · exact good.silent closing earlier
      · exact (closesOpen_iff cast event).mp closes closing new
    rcases teardowns_of_closesOpen closes with nothing | ⟨request, sent, held, session⟩
    · have same : next.teardowns = cast.teardowns := by
        rw [teardowns, nothing, List.append_nil]
      exact ⟨same ▸ good.isOpen, same ▸ good.once, silent⟩
    · rw [sent] at teardowns
      refine ⟨?_, ?_, silent⟩
      · intro other member
        rw [teardowns] at member
        rcases List.mem_append.mp member with earlier | new
        · exact good.isOpen other earlier
        · rw [List.mem_singleton.mp new, session]
          rfl
      · rw [teardowns, List.map_append, List.map_singleton, session]
        apply List.nodup_append.mpr
        refine ⟨good.once, List.nodup_singleton _, ?_⟩
        intro first earlier second new equal
        rcases List.mem_map.mp earlier with ⟨other, member, is⟩
        rw [List.mem_singleton.mp new] at equal
        have before := bounds.fresh held other member _ (is.trans equal)
        omega
  · intro after
    apply (closesOpen_iff cast event).mpr
    intro closing new
    apply after.silent closing
    rw [closings]
    exact List.mem_append_right _ new

/-! ## Runs -/

theorem teardownsBounded_initially (targets : Nat → CastTarget) :
    TeardownsBounded (initially targets) := by
  refine ⟨coherent_initially targets, ?_, ?_⟩
  · intro request member
    cases member
  · intro held
    cases held

theorem closesOnce_initially (targets : Nat → CastTarget) :
    ClosesOnce (initially targets) := by
  refine ⟨?_, List.nodup_nil, ?_⟩
  · intro request member
    cases member
  · intro closing member
    cases member

end LGCast

end ConnectSDK
