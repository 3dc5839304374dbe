import ConnectSDK.Services.ReachabilityDelegate

/-! # Connections and their checkers

A loss should end only the connection whose checker noticed it, and a service that has
disconnected should check nothing. Neither `connect` nor `didLoseReachability:` looks at
the checkers there were before.
-/

namespace ConnectSDK

namespace ReachabilityDelegate

/-- A loss that ends the connection comes from its checker. -/
def LosesOwn (service : ReachabilityDelegate) : Prop :=
  ∀ index, service.connected = true →
    (service.step (.didLoseReachability index)).connected = false →
      ∃ checker, service.losses[index]? = some checker ∧
        service.serviceReachability = some checker

/-- No checker is running once the service disconnects. -/
def StopsCheckers (service : ReachabilityDelegate) : Prop :=
  ∀ checker, ((service.step .disconnect).checkers.read checker).running = false

/-- The event makes a connection. -/
def connects (service : ReachabilityDelegate) : ReachabilityEvent → Bool
  | .connect =>
      service.serviceClass != .netcastTVService ||
        (!service.connected && service.pairingCode.isNone && !service.pairingLevelOn)
  | .pairingAnswered index succeeds => succeeds && service.pairings[index]?.isSome
  | _ => false

/-- A connection is made only while there is none, and when no loss waits to be told. -/
def ConnectsOnce (service : ReachabilityDelegate) (event : ReachabilityEvent) : Prop :=
  service.connects event = true → service.connected = false ∧ service.losses = []

def running (service : ReachabilityDelegate) (checker : Ref DeviceServiceReachability) :
    Bool :=
  (service.checkers.read checker).running

/-- What holds of every service. -/
structure Checked (service : ReachabilityDelegate) : Prop where
  current : ∀ checker, service.serviceReachability = some checker →
    service.checkers.Allocated checker
  started : ∀ checker, service.running checker = true → service.checkers.Allocated checker
  lost : ∀ checker ∈ service.losses,
    service.checkers.Allocated checker ∧ service.running checker = false
  idle : service.connected = false → ∀ checker,
    service.serviceReachability = some checker → service.running checker = false
  watched : service.connected = true → ∃ checker,
    service.serviceReachability = some checker ∧
      (service.running checker = true ∨ checker ∈ service.losses)

/-- Only the checker of the connection runs, and only its loss waits. -/
structure Calm (service : ReachabilityDelegate) : Prop where
  runs : ∀ checker, service.running checker = true →
    service.serviceReachability = some checker
  waits : service.connected = true → ∀ checker ∈ service.losses,
    service.serviceReachability = some checker

/-! ## What the steps do -/

theorem running_stopReachability (service : ReachabilityDelegate)
    (checker : Ref DeviceServiceReachability) :
    service.stopReachability.running checker = true ↔
      service.running checker = true ∧ service.serviceReachability ≠ some checker := by
  cases current : service.serviceReachability with
  | none => simp [stopReachability, current]
  | some own =>
      by_cases same : checker = own
      · simp [stopReachability, running, current, same, DeviceServiceReachability.stop]
      · have other : some own ≠ some checker :=
          fun equal => same (Option.some.inj equal).symm
        simp [stopReachability, running, current, Heap.read_modify_of_ne same, other]

theorem stopReachability_rest (service : ReachabilityDelegate) :
    service.stopReachability.connected = service.connected ∧
      service.stopReachability.serviceReachability = service.serviceReachability ∧
      service.stopReachability.losses = service.losses ∧
      ∀ checker, service.stopReachability.checkers.Allocated checker ↔
        service.checkers.Allocated checker := by
  cases current : service.serviceReachability <;> simp [stopReachability, current]

/-- What a service comes to when it disconnects. -/
def offline (service : ReachabilityDelegate) : ReachabilityDelegate :=
  stopReachability { service with connected := false }

theorem disconnect_eq (service : ReachabilityDelegate) :
    service.disconnect = service.offline ∨
      service.connected = false ∧ service.disconnect = service := by
  by_cases idle : service.serviceClass = .netcastTVService ∧ service.connected = false
  · exact Or.inr ⟨idle.2, if_pos idle⟩
  · exact Or.inl (if_neg idle)

theorem didLoseReachability_eq (service : ReachabilityDelegate) :
    service.didLoseReachability = service.offline := by
  cases connected : service.connected with
  | true =>
      rw [didLoseReachability, connected, if_pos rfl, disconnect, connected, if_neg]
      · rfl
      · intro both
        cases both.2
  | false =>
      rw [didLoseReachability, connected, if_neg Bool.false_ne_true, offline, ← connected]

/-- It does not matter which losses have been told. -/
theorem Checked.offline {service : ReachabilityDelegate} (checked : service.Checked)
    {losses : List (Ref DeviceServiceReachability)} (fewer : losses ⊆ service.losses) :
    (ReachabilityDelegate.offline { service with losses }).Checked := by
  rcases stopReachability_rest { service with losses, connected := false } with
    ⟨connected, current, waiting, allocated⟩
  have stops := running_stopReachability { service with losses, connected := false }
  constructor
  · intro checker own
    exact (allocated checker).mpr (checked.current checker (current.symm.trans own))
  · intro checker running
    exact (allocated checker).mpr (checked.started checker ((stops checker).mp running).1)
  · intro checker member
    rw [ReachabilityDelegate.offline, waiting] at member
    rcases checked.lost checker (fewer member) with ⟨known, stopped⟩
    refine ⟨(allocated checker).mpr known, Bool.eq_false_iff.mpr fun running => ?_⟩
    cases stopped.symm.trans ((stops checker).mp running).1
  · intro _ checker own
    apply Bool.eq_false_iff.mpr
    intro running
    exact ((stops checker).mp running).2 (current.symm.trans own)
  · intro impossible
    cases connected.symm.trans impossible

theorem Calm.offline {service : ReachabilityDelegate} (calm : service.Calm)
    (losses : List (Ref DeviceServiceReachability)) :
    (ReachabilityDelegate.offline { service with losses }).Calm := by
  rcases stopReachability_rest { service with losses, connected := false } with
    ⟨connected, _⟩
  constructor
  · intro checker running
    rcases (running_stopReachability _ checker).mp running with ⟨before, other⟩
    exact absurd (calm.runs checker before) other
  · intro impossible
    cases connected.symm.trans impossible

/-! ## Making a connection -/

theorem running_hConnectSuccess (service : ReachabilityDelegate)
    (checker : Ref DeviceServiceReachability) :
    service.hConnectSuccess.running checker = true ↔
      checker = service.checkers.fresh ∨ service.running checker = true := by
  by_cases new : checker = service.checkers.fresh
  · rw [new, running, hConnectSuccess, Heap.read_allocate_fresh]
    exact iff_of_true rfl (Or.inl rfl)
  · rw [running, hConnectSuccess, Heap.read_allocate_of_ne new]
    exact (or_iff_right new).symm

theorem Checked.hConnectSuccess {service : ReachabilityDelegate}
    (checked : service.Checked) : service.hConnectSuccess.Checked := by
  have allocated : ∀ checker, service.checkers.Allocated checker →
      service.hConnectSuccess.checkers.Allocated checker :=
    fun _ known => known.allocate _
  have new := Heap.allocated_fresh service.checkers (DeviceServiceReachability.start {})
  constructor
  · intro checker own
    cases own
    exact new
  · intro checker runs
    rcases (service.running_hConnectSuccess checker).mp runs with rfl | before
    · exact new
    · exact allocated checker (checked.started checker before)
  · intro checker member
    rcases checked.lost checker member with ⟨known, stopped⟩
    refine ⟨allocated checker known, Bool.eq_false_iff.mpr fun runs => ?_⟩
    rcases (service.running_hConnectSuccess checker).mp runs with same | before
    · exact known.ne_fresh same
    · cases stopped.symm.trans before
  · intro impossible
    cases impossible
  · intro _
    exact ⟨_, rfl, Or.inl ((service.running_hConnectSuccess _).mpr (Or.inl rfl))⟩

/-- A new connection keeps calm exactly when there was none and no loss waits. -/
theorem calm_hConnectSuccess_iff {service : ReachabilityDelegate}
    (checked : service.Checked) (calm : service.Calm) :
    service.connected = false ∧ service.losses = [] ↔ service.hConnectSuccess.Calm := by
  constructor
  · intro free
    rcases free with ⟨idle, quiet⟩
    constructor
    · intro checker runs
      rcases (service.running_hConnectSuccess checker).mp runs with rfl | before
      · rfl
      · have stopped := checked.idle idle checker (calm.runs checker before)
        cases stopped.symm.trans before
    · intro _ checker member
      have waiting : checker ∈ service.losses := member
      rw [quiet] at waiting
      cases waiting
  · intro next
    -- Whatever was there before is not the new checker.
    have stopped : ∀ checker, service.running checker ≠ true := by
      intro checker before
      have own := next.runs checker
        ((service.running_hConnectSuccess checker).mpr (Or.inr before))
      exact (checked.started checker before).ne_fresh (Option.some.inj own).symm
    have quiet : ∀ checker, checker ∉ service.losses := by
      intro checker member
      have own := next.waits rfl checker member
      exact (checked.lost checker member).1.ne_fresh (Option.some.inj own).symm
    constructor
    · cases connected : service.connected with
      | false => rfl
      | true =>
          rcases checked.watched connected with ⟨checker, _, runs | waits⟩
          · exact absurd runs (stopped checker)
          · exact absurd waits (quiet checker)
    · exact List.eq_nil_iff_forall_not_mem.mpr quiet

/-! ## Checking -/

theorem running_checkReachability (service : ReachabilityDelegate)
    (asking checker : Ref DeviceServiceReachability) :
    (service.checkReachability asking).running checker = service.running checker := by
  by_cases own : checker = asking
  · rw [own, running, checkReachability, Heap.read_modify_self, running,
      DeviceServiceReachability.checkReachability]
    split <;> rfl
  · rw [running, checkReachability, Heap.read_modify_of_ne own, running]

/-- An answer is of no consequence, or a running checker stops and its loss waits. -/
theorem requestCompleted_cases (service : ReachabilityDelegate)
    (asking : Ref DeviceServiceReachability) (noDataIsAvailable : Bool) :
    let next := service.requestCompleted asking noDataIsAvailable
    next.connected = service.connected ∧
      next.serviceReachability = service.serviceReachability ∧
      (∀ checker, next.checkers.Allocated checker ↔ service.checkers.Allocated checker) ∧
      ((∀ checker, next.running checker = service.running checker) ∧
          next.losses = service.losses ∨
        service.running asking = true ∧ next.losses = service.losses ++ [asking] ∧
          ∀ checker, next.running checker = true ↔
            service.running checker = true ∧ checker ≠ asking) := by
  intro next
  by_cases none : (service.checkers.read asking).requests = 0
  · have same : next = service := if_pos none
    rw [same]
    exact ⟨rfl, rfl, fun _ => Iff.rfl, Or.inl ⟨fun _ => rfl, rfl⟩⟩
  · by_cases fails :
        ((service.checkers.read asking).running && noDataIsAvailable) = true
    · have same : next = { service with
          checkers := service.checkers.modify asking fun _ =>
            DeviceServiceReachability.stop
              { service.checkers.read asking with
                requests := (service.checkers.read asking).requests - 1 }
          losses := service.losses ++ [asking] } :=
        (if_neg none).trans (if_pos fails)
      rw [same]
      refine ⟨rfl, rfl, fun _ => Iff.rfl,
        Or.inr ⟨((Bool.and_eq_true _ _).mp fails).1, rfl, fun checker => ?_⟩⟩
      by_cases own : checker = asking
      · rw [own, running, Heap.read_modify_self]
        exact iff_of_false Bool.false_ne_true fun both => both.2 rfl
      · rw [running, Heap.read_modify_of_ne own]
        exact (and_iff_left own).symm
    · have same : next = { service with
          checkers := service.checkers.modify asking fun _ =>
            { service.checkers.read asking with
              requests := (service.checkers.read asking).requests - 1 } } :=
        (if_neg none).trans (if_neg fails)
      rw [same]
      refine ⟨rfl, rfl, fun _ => Iff.rfl, Or.inl ⟨fun checker => ?_, rfl⟩⟩
      by_cases own : checker = asking
      · rw [own, running, Heap.read_modify_self]
        rfl
      · rw [running, Heap.read_modify_of_ne own]
        rfl

/-! ## Every step -/

/-- The connection, the checkers that run and the losses that wait are the same. -/
structure SameConnection (service next : ReachabilityDelegate) : Prop where
  connected : next.connected = service.connected
  current : next.serviceReachability = service.serviceReachability
  losses : next.losses = service.losses
  allocated : ∀ checker,
    next.checkers.Allocated checker ↔ service.checkers.Allocated checker
  running : ∀ checker, next.running checker = service.running checker

theorem SameConnection.refl (service : ReachabilityDelegate) :
    SameConnection service service :=
  ⟨rfl, rfl, rfl, fun _ => Iff.rfl, fun _ => rfl⟩

theorem SameConnection.checked {service next : ReachabilityDelegate}
    (same : SameConnection service next) (checked : service.Checked) : next.Checked := by
  rcases same with ⟨connected, current, losses, allocated, running⟩
  constructor
  · intro checker own
    exact (allocated checker).mpr (checked.current checker (current.symm.trans own))
  · intro checker runs
    exact (allocated checker).mpr
      (checked.started checker ((running checker).symm.trans runs))
  · intro checker member
    rw [losses] at member
    rcases checked.lost checker member with ⟨known, stopped⟩
    exact ⟨(allocated checker).mpr known, (running checker).trans stopped⟩
  · intro idle checker own
    rw [running]
    exact checked.idle (connected.symm.trans idle) checker (current.symm.trans own)
  · intro busy
    rw [current, losses]
    rcases checked.watched (connected.symm.trans busy) with ⟨checker, own, watches⟩
    exact ⟨checker, own, watches.imp_left (running checker).trans⟩

theorem SameConnection.calm {service next : ReachabilityDelegate}
    (same : SameConnection service next) (calm : service.Calm) : next.Calm := by
  rcases same with ⟨connected, current, losses, _, running⟩
  constructor
  · intro checker runs
    exact current.trans (calm.runs checker ((running checker).symm.trans runs))
  · intro busy checker member
    rw [losses] at member
    exact current.trans (calm.waits (connected.symm.trans busy) checker member)

theorem sameConnection_checkReachability (service : ReachabilityDelegate)
    (asking : Ref DeviceServiceReachability) :
    SameConnection service (service.checkReachability asking) :=
  ⟨rfl, rfl, rfl, fun _ => Iff.rfl, service.running_checkReachability asking⟩

/-- What a step does to the connection. -/
inductive Acts (service : ReachabilityDelegate) (event : ReachabilityEvent) : Prop
  | connects {before : ReachabilityDelegate} (makes : service.connects event = true)
      (same : SameConnection service before)
      (taken : service.step event = before.hConnectSuccess)
  | keeps (makes : service.connects event = false)
      (same : SameConnection service (service.step event))
  | disconnects {losses : List (Ref DeviceServiceReachability)}
      (makes : service.connects event = false) (fewer : losses ⊆ service.losses)
      (taken : service.step event = offline { service with losses })
  | answers {checker : Ref DeviceServiceReachability} {noDataIsAvailable : Bool}
      (makes : service.connects event = false)
      (taken : service.step event = service.requestCompleted checker noDataIsAvailable)

theorem connect_acts (service : ReachabilityDelegate) : Acts service .connect := by
  have other : service.serviceClass ≠ .netcastTVService → Acts service .connect := by
    intro different
    refine .connects ?_ (.refl service) ?_
    · rw [connects, bne_iff_ne.mpr different, Bool.true_or]
    · rw [step, connect]
      cases named : service.serviceClass with
      | netcastTVService => exact absurd named different
      | _ => rfl
  by_cases netcast : service.serviceClass = .netcastTVService
  · cases connected : service.connected with
    | true =>
        refine .keeps (by simp [connects, netcast, connected]) ?_
        simp only [step, connect, netcast, connected, if_true]
        exact .refl service
    | false =>
        cases code : service.pairingCode with
        | some pairingCode =>
            refine .keeps (by simp [connects, netcast, code]) ?_
            simp only [step, connect, netcast, connected, code, Bool.false_eq_true, if_false]
            exact ⟨rfl, rfl, rfl, fun _ => Iff.rfl, fun _ => rfl⟩
        | none =>
            cases pairing : service.pairingLevelOn with
            | true =>
                refine .keeps (by simp [connects, netcast, pairing]) ?_
                simp only [step, connect, netcast, connected, code, pairing,
                  Bool.false_eq_true, if_false, if_true]
                exact .refl service
            | false =>
                refine .connects (by simp [connects, connected, code, pairing])
                  (.refl service) ?_
                simp only [step, connect, netcast, connected, code, pairing,
                  Bool.false_eq_true, if_false]
  · exact other netcast

theorem pairingAnswered_acts (service : ReachabilityDelegate) (index : Nat)
    (succeeds : Bool) : Acts service (.pairingAnswered index succeeds) := by
  cases sent : service.pairings[index]? with
  | none =>
      refine .keeps (by simp [connects, sent]) ?_
      simp only [step, pairingAnswered, sent]
      exact .refl service
  | some pairingCode =>
      cases succeeds with
      | false =>
          refine .keeps rfl ?_
          simp only [step, pairingAnswered, sent, Bool.false_eq_true, if_false]
          exact ⟨rfl, rfl, rfl, fun _ => Iff.rfl, fun _ => rfl⟩
      | true =>
          have same : SameConnection service
              { service with
                pairings := service.pairings.eraseIdx index
                pairingCode := some pairingCode } :=
            ⟨rfl, rfl, rfl, fun _ => Iff.rfl, fun _ => rfl⟩
          refine .connects (by simp [connects, sent]) same ?_
          simp only [step, pairingAnswered, sent, if_true]

theorem step_acts (service : ReachabilityDelegate) (event : ReachabilityEvent) :
    Acts service event := by
  cases event with
  | connect => exact service.connect_acts
  | disconnect =>
      rcases service.disconnect_eq with offline | ⟨_, unchanged⟩
      · exact .disconnects rfl (List.Subset.refl service.losses) offline
      · exact .keeps rfl (by rw [step, unchanged]; exact .refl service)
  | pairWithData pairingCode =>
      refine .keeps rfl ?_
      rw [step]
      split
      · exact ⟨rfl, rfl, rfl, fun _ => Iff.rfl, fun _ => rfl⟩
      · exact .refl service
  | pairingAnswered index succeeds => exact service.pairingAnswered_acts index succeeds
  | checkReachability checker =>
      exact .keeps rfl (service.sameConnection_checkReachability checker)
  | requestCompleted checker noDataIsAvailable => exact .answers rfl rfl
  | didLoseReachability index =>
      cases waiting : service.losses[index]? with
      | none =>
          refine .keeps rfl ?_
          simp only [step, waiting]
          exact .refl service
      | some checker =>
          have fewer : service.losses.eraseIdx index ⊆ service.losses :=
            List.eraseIdx_subset
          refine .disconnects rfl fewer ?_
          simp only [step, waiting]
          exact didLoseReachability_eq _

theorem Checked.requestCompleted {service : ReachabilityDelegate}
    (checked : service.Checked) (asking : Ref DeviceServiceReachability)
    (noDataIsAvailable : Bool) :
    (service.requestCompleted asking noDataIsAvailable).Checked := by
  rcases service.requestCompleted_cases asking noDataIsAvailable with
    ⟨connected, current, allocated, ⟨running, losses⟩ | ⟨ran, losses, running⟩⟩
  · exact SameConnection.checked ⟨connected, current, losses, allocated, running⟩ checked
  · have stays : ∀ checker, service.running checker = false →
        (service.requestCompleted asking noDataIsAvailable).running checker = false := by
      intro checker stopped
      apply Bool.eq_false_iff.mpr
      intro runs
      cases stopped.symm.trans ((running checker).mp runs).1
    have stops : (service.requestCompleted asking noDataIsAvailable).running asking =
        false :=
      Bool.eq_false_iff.mpr fun runs => ((running asking).mp runs).2 rfl
    constructor
    · intro checker own
      exact (allocated checker).mpr (checked.current checker (current.symm.trans own))
    · intro checker runs
      exact (allocated checker).mpr
        (checked.started checker ((running checker).mp runs).1)
    · intro checker member
      rw [losses] at member
      rcases List.mem_append.mp member with old | new
      · rcases checked.lost checker old with ⟨known, stopped⟩
        exact ⟨(allocated checker).mpr known, stays checker stopped⟩
      · cases List.mem_singleton.mp new
        exact ⟨(allocated asking).mpr (checked.started asking ran), stops⟩
    · intro idle checker own
      exact stays checker
        (checked.idle (connected.symm.trans idle) checker (current.symm.trans own))
    · intro busy
      rw [current, losses]
      rcases checked.watched (connected.symm.trans busy) with ⟨checker, own, watches⟩
      refine ⟨checker, own, ?_⟩
      by_cases same : checker = asking
      · exact Or.inr (List.mem_append_right _ (List.mem_singleton.mpr same))
      · rcases watches with runs | waits
        · exact Or.inl ((running checker).mpr ⟨runs, same⟩)
        · exact Or.inr (List.mem_append_left _ waits)

theorem Calm.requestCompleted {service : ReachabilityDelegate} (calm : service.Calm)
    (asking : Ref DeviceServiceReachability) (noDataIsAvailable : Bool) :
    (service.requestCompleted asking noDataIsAvailable).Calm := by
  rcases service.requestCompleted_cases asking noDataIsAvailable with
    ⟨connected, current, allocated, ⟨running, losses⟩ | ⟨ran, losses, running⟩⟩
  · exact SameConnection.calm ⟨connected, current, losses, allocated, running⟩ calm
  · constructor
    · intro checker runs
      exact current.trans (calm.runs checker ((running checker).mp runs).1)
    · intro busy checker member
      rw [losses] at member
      rcases List.mem_append.mp member with old | new
      · exact current.trans (calm.waits (connected.symm.trans busy) checker old)
      · cases List.mem_singleton.mp new
        exact current.trans (calm.runs asking ran)

/-! ## Which runs lose only their own connections -/

theorem Checked.step {service : ReachabilityDelegate} (checked : service.Checked)
    (event : ReachabilityEvent) : (service.step event).Checked := by
  cases service.step_acts event with
  | connects _ same taken =>
      rw [taken]
      exact (same.checked checked).hConnectSuccess
  | keeps _ same => exact same.checked checked
  | disconnects _ fewer taken =>
      rw [taken]
      exact checked.offline fewer
  | @answers asking noDataIsAvailable _ taken =>
      rw [taken]
      exact checked.requestCompleted asking noDataIsAvailable

theorem connectsOnce_iff {service : ReachabilityDelegate} (checked : service.Checked)
    (calm : service.Calm) (event : ReachabilityEvent) :
    service.ConnectsOnce event ↔ (service.step event).Calm := by
  cases service.step_acts event with
  | connects makes same taken =>
      rw [taken, ← calm_hConnectSuccess_iff (same.checked checked) (same.calm calm),
        same.connected, same.losses]
      exact ⟨fun once => once makes, fun free _ => free⟩
  | keeps makes same =>
      refine iff_of_true (fun impossible => ?_) (same.calm calm)
      cases makes.symm.trans impossible
  | disconnects makes fewer taken =>
      refine iff_of_true (fun impossible => ?_) ?_
      · cases makes.symm.trans impossible
      · rw [taken]
        exact calm.offline _
  | @answers asking noDataIsAvailable makes taken =>
      refine iff_of_true (fun impossible => ?_) ?_
      · cases makes.symm.trans impossible
      · rw [taken]
        exact calm.requestCompleted asking noDataIsAvailable

/-- A service is calm exactly if, whatever loss is told next, it ends only its own
connection, and disconnecting stops every checker. -/
theorem calm_iff {service : ReachabilityDelegate} (checked : service.Checked) :
    service.Calm ↔ service.LosesOwn ∧ service.StopsCheckers := by
  constructor
  · intro calm
    constructor
    · intro index connected offline
      cases waiting : service.losses[index]? with
      | none =>
          simp only [step, waiting] at offline
          cases connected.symm.trans offline
      | some checker =>
          exact ⟨checker, rfl, calm.waits connected checker (List.mem_of_getElem? waiting)⟩
    · intro checker
      apply Bool.eq_false_iff.mpr
      intro runs
      rcases service.disconnect_eq with offline | ⟨idle, unchanged⟩
      · rw [step, offline] at runs
        rcases (running_stopReachability _ checker).mp runs with ⟨before, other⟩
        exact other (calm.runs checker before)
      · rw [step, unchanged] at runs
        have stopped := checked.idle idle checker (calm.runs checker runs)
        cases stopped.symm.trans runs
  · intro both
    rcases both with ⟨losesOwn, stops⟩
    constructor
    · intro checker runs
      rcases service.disconnect_eq with offline | ⟨_, unchanged⟩
      · by_contra other
        have still := (running_stopReachability { service with connected := false }
          checker).mpr ⟨runs, other⟩
        have stopped := stops checker
        rw [step, offline] at stopped
        cases stopped.symm.trans still
      · have stopped := stops checker
        rw [step, unchanged] at stopped
        cases stopped.symm.trans runs
    · intro connected checker member
      rcases List.mem_iff_getElem?.mp member with ⟨index, waiting⟩
      have offline : (service.step (.didLoseReachability index)).connected = false := by
        simp only [step, waiting]
        rw [didLoseReachability_eq]
        exact (stopReachability_rest _).1
      rcases losesOwn index connected offline with ⟨own, same, current⟩
      cases waiting.symm.trans same
      exact current

theorem calm_initial (serviceClass : ReachabilityServiceClass)
    (pairingCode : Option String) (pairingLevelOn : Bool) :
    Checked { serviceClass, pairingCode, pairingLevelOn } ∧
      Calm { serviceClass, pairingCode, pairingLevelOn } := by
  constructor
  · constructor
    · intro checker impossible
      cases impossible
    · intro checker impossible
      cases impossible
    · intro checker impossible
      cases impossible
    · intro _ checker impossible
      cases impossible
    · intro impossible
      cases impossible
  · constructor
    · intro checker impossible
      cases impossible
    · intro impossible
      cases impossible

/-- No event raises an exception. -/
def react (service : ReachabilityDelegate) (event : ReachabilityEvent) :
    Option ReachabilityDelegate :=
  some (service.step event)

/-- In every state that a service reaches, a loss ends only its own connection and
disconnecting stops every checker, exactly as long as each connection is made where there
is none and no loss waits. -/
theorem run_losesOwn_iff (serviceClass : ReachabilityServiceClass)
    (pairingCode : Option String) (pairingLevelOn : Bool)
    (events : List ReachabilityEvent) :
    EveryStep react ConnectsOnce { serviceClass, pairingCode, pairingLevelOn } events ↔
      Throughout react (fun service => service.LosesOwn ∧ service.StopsCheckers)
        { serviceClass, pairingCode, pairingLevelOn } events := by
  rcases calm_initial serviceClass pairingCode pairingLevelOn with ⟨checked, calm⟩
  rcases exists_runFrom step { serviceClass, pairingCode, pairingLevelOn } events with
    ⟨final, reached⟩
  refine everyStep_iff_throughout ?_ ?_ checked ((calm_iff checked).mp calm) reached
  · intro service event next checked taken
    cases taken
    exact checked.step event
  · intro service event next checked good taken
    cases taken
    exact (connectsOnce_iff checked ((calm_iff checked).mpr good) event).trans
      (calm_iff (checked.step event))

/-- A loss that waits while the service connects again ends the new connection; and of two
connections in a row only the second checker is stopped. -/
theorem stale_loss_disconnects :
    (∃ service, runFrom react { serviceClass := .dlnaService }
        [.connect, .requestCompleted ⟨0⟩ true, .disconnect, .connect] = some service ∧
      service.losses = [⟨0⟩] ∧ service.connected = true ∧
      service.serviceReachability = some ⟨1⟩ ∧
      (service.step (.didLoseReachability 0)).connected = false ∧ ¬ service.LosesOwn) ∧
    ∃ service, runFrom react { serviceClass := .rokuService }
        [.connect, .connect, .disconnect] = some service ∧
      service.connected = false ∧ service.running ⟨0⟩ = true := by
  constructor
  · refine ⟨_, rfl, rfl, rfl, rfl, rfl, ?_⟩
    intro losesOwn
    rcases losesOwn 0 rfl rfl with ⟨checker, waiting, current⟩
    cases waiting
    cases current
  · exact ⟨_, rfl, rfl, rfl⟩

end ReachabilityDelegate

end ConnectSDK
