import ConnectSDK.Foundation.Run
import ConnectSDK.Services.Config.ServiceConfig

/-! # Writing the device store to disk

`store` replaces the contents to be written and, unless `_waitToWrite` says
that a write is coming, queues a block that writes them. The two run on threads
of their own, so what each does to the shared fields is taken step by step.
-/

namespace ConnectSDK

/-- Where a `store` call stands. -/
inductive StorePhase (Contents : Type u) where
  | stamped (updated : TimeInterval) (contents : Contents)
  | restamped (contents : Contents)
  | published
  | dispatching
deriving DecidableEq

/-- Where the running write block stands, with the time `writeStoreToDisk`
captured for it. -/
inductive WritePhase where
  | serialized (lastUpdated : TimeInterval)
  | written (lastUpdated : TimeInterval)
  | failed (lastUpdated : TimeInterval)
  | cleared (lastUpdated : TimeInterval)
  | redispatching
deriving DecidableEq

def WritePhase.isFailed : WritePhase → Bool
  | .failed _ => true
  | _ => false

/-- The fields the two threads share. `lastAttempt` is what the last write
block to start took from `_deviceStore`, or what `load` read if there was
none. -/
structure StoreWriter (Contents : Type u) where
  updated : TimeInterval
  deviceStore : Contents
  lastAttempt : Contents
  waitToWrite : Bool := false
  queue : List TimeInterval := []
  running : Option WritePhase := none
  storing : Option (StorePhase Contents) := none
deriving DecidableEq

inductive StoreWriterEvent (Contents : Type u) where
  | stamp (first second : TimeInterval) (contents : Contents)
  | restamp
  | publish
  | check
  | dispatch
  | snapshot
  | write (succeeds : Bool)
  | clear
  | recheck
  | redispatch

namespace StoreWriter

/-- The fields as `load` leaves them. -/
def loaded (updated : TimeInterval) (contents : Contents) :
    StoreWriter Contents where
  updated
  deviceStore := contents
  lastAttempt := contents

def writeStoreToDisk (writer : StoreWriter Contents) : StoreWriter Contents :=
  { writer with
    waitToWrite := true
    queue := writer.queue ++ [writer.updated] }

/-- `store` from its first time stamp on, when nothing comes between. -/
def store (writer : StoreWriter Contents) (now : TimeInterval)
    (contents : Contents) : StoreWriter Contents :=
  let published := { writer with updated := now, deviceStore := contents }
  if writer.waitToWrite then published else published.writeStoreToDisk

/-- One step of either thread, `none` when that thread is not about to take it.
Both error exits of the block are a `write` that does not succeed. -/
def step (writer : StoreWriter Contents) :
    StoreWriterEvent Contents → Option (StoreWriter Contents)
  | .stamp first second contents =>
      match writer.storing with
      | none =>
          some { writer with
            updated := first
            storing := some (.stamped second contents) }
      | some _ => none
  | .restamp =>
      match writer.storing with
      | some (.stamped second contents) =>
          some { writer with
            updated := second
            storing := some (.restamped contents) }
      | _ => none
  | .publish =>
      match writer.storing with
      | some (.restamped contents) =>
          some { writer with
            deviceStore := contents
            storing := some .published }
      | _ => none
  | .check =>
      match writer.storing with
      | some .published =>
          some { writer with
            storing := if writer.waitToWrite then none else some .dispatching }
      | _ => none
  | .dispatch =>
      match writer.storing with
      | some .dispatching =>
          some { writer.writeStoreToDisk with storing := none }
      | _ => none
  | .snapshot =>
      match writer.running, writer.queue with
      | none, lastUpdated :: rest =>
          some { writer with
            lastAttempt := writer.deviceStore
            queue := rest
            running := some (.serialized lastUpdated) }
      | _, _ => none
  | .write succeeds =>
      match writer.running with
      | some (.serialized lastUpdated) =>
          some { writer with
            running := some
              (if succeeds then .written lastUpdated else .failed lastUpdated) }
      | _ => none
  | .clear =>
      match writer.running with
      | some (.written lastUpdated) =>
          some { writer with
            waitToWrite := false
            running := some (.cleared lastUpdated) }
      | some (.failed _) =>
          some { writer with waitToWrite := false, running := none }
      | _ => none
  | .recheck =>
      match writer.running with
      | some (.cleared lastUpdated) =>
          some { writer with
            running :=
              if lastUpdated ≠ writer.updated then some .redispatching
              else none }
      | _ => none
  | .redispatch =>
      match writer.running with
      | some .redispatching =>
          some { writer.writeStoreToDisk with running := none }
      | _ => none

/-- The steps of one store call that nothing interrupts. -/
def storeSteps (writer : StoreWriter Contents) (first second : TimeInterval)
    (contents : Contents) : List (StoreWriterEvent Contents) :=
  [.stamp first second contents, .restamp, .publish, .check] ++
    if writer.waitToWrite then [] else [.dispatch]

theorem runFrom_storeSteps {writer : StoreWriter Contents}
    (ready : writer.storing = none) (first second : TimeInterval)
    (contents : Contents) :
    runFrom step writer (writer.storeSteps first second contents) =
      some (writer.store second contents) := by
  rcases writer with ⟨_, _, _, _ | _, _, _, _ | _⟩
  · rfl
  · cases ready
  · rfl
  · cases ready

/-- No store call is under way, and no write block is queued or running. -/
def Idle (writer : StoreWriter Contents) : Prop :=
  writer.storing = none ∧ writer.queue = [] ∧ writer.running = none

/-- The current contents need nothing more of the block that is running. -/
def Supplied (writer : StoreWriter Contents) : Prop :=
  writer.storing ≠ none ∨ writer.queue ≠ [] ∨
    writer.lastAttempt = writer.deviceStore

/-- Why the current contents are or will be attempted. -/
inductive Covered (writer : StoreWriter Contents) : Prop where
  | supplied (supplied : writer.Supplied)
  | willRecheck (lastUpdated : TimeInterval)
      (older : lastUpdated ≠ writer.updated)
      (running : writer.running = some (.serialized lastUpdated) ∨
        writer.running = some (.written lastUpdated) ∨
        writer.running = some (.cleared lastUpdated))
  | redispatching (running : writer.running = some .redispatching)
  | failed (lastUpdated : TimeInterval)
      (running : writer.running = some (.failed lastUpdated))

/-- The block that is running has not cleared `_waitToWrite` yet. -/
def BeforeClear (writer : StoreWriter Contents) : Prop :=
  ∃ lastUpdated, writer.running = some (.serialized lastUpdated) ∨
    writer.running = some (.written lastUpdated) ∨
    writer.running = some (.failed lastUpdated)

structure Tracked (writer : StoreWriter Contents) : Prop where
  awaited : writer.waitToWrite = true → writer.queue ≠ [] ∨ writer.BeforeClear
  covered : writer.Covered

/-- What must not go wrong in a write block. A block that failed does not check
again, so it must have missed nothing. A store call that relies on a block
which already has its time stamp must not have been missed by the snapshot. -/
def NothingMissed (writer : StoreWriter Contents) :
    StoreWriterEvent Contents → Prop
  | .clear =>
      writer.running.any WritePhase.isFailed = true → writer.Supplied
  | .check =>
      writer.waitToWrite = true → writer.queue = [] →
        (writer.running = some (.serialized writer.updated) ∨
          writer.running = some (.written writer.updated)) →
        writer.lastAttempt = writer.deviceStore
  | _ => True

instance [DecidableEq Contents] (writer : StoreWriter Contents)
    (event : StoreWriterEvent Contents) : Decidable (writer.NothingMissed event) :=
  match event with
  | .clear =>
      inferInstanceAs (Decidable (_ → _ ∨ _ ∨ _))
  | .check =>
      inferInstanceAs (Decidable (_ → _ → _ ∨ _ → _))
  | .stamp .. | .restamp | .publish | .dispatch | .snapshot | .write _
  | .recheck | .redispatch => isTrue trivial

theorem loaded_tracked (updated : TimeInterval) (contents : Contents) :
    (loaded updated contents).Tracked where
  awaited := by
    intro waiting
    cases waiting
  covered := .supplied (.inr (.inr rfl))

theorem Tracked.ofQueue {writer : StoreWriter Contents}
    (queue : writer.queue ≠ []) : writer.Tracked :=
  ⟨fun _ => .inl queue, .supplied (.inr (.inl queue))⟩

theorem writeStoreToDisk_queue (writer : StoreWriter Contents) :
    writer.writeStoreToDisk.queue ≠ [] :=
  List.append_ne_nil_of_right_ne_nil _ (List.cons_ne_nil _ _)

/-- A step of the store call under way. -/
theorem Tracked.ofStoring {writer next : StoreWriter Contents}
    (tracked : writer.Tracked)
    (waitToWrite : next.waitToWrite = writer.waitToWrite)
    (queue : next.queue = writer.queue) (running : next.running = writer.running)
    (storing : next.storing ≠ none) : next.Tracked := by
  refine ⟨?_, .supplied (.inl storing)⟩
  rw [waitToWrite, queue, BeforeClear, running]
  exact tracked.awaited

/-- A store call that relies on the coming write leaves its contents covered:
by a queued block, by the running block's snapshot or by its second look at the
time stamp. -/
theorem Tracked.check {writer : StoreWriter Contents} (tracked : writer.Tracked)
    (nothingMissed : writer.NothingMissed .check) :
    Tracked { writer with
      storing := if writer.waitToWrite then none else some .dispatching } := by
  cases waiting : writer.waitToWrite with
  | false =>
      exact ⟨fun impossible => (by cases impossible),
        .supplied (.inl (by simp))⟩
  | true =>
      by_cases queue : writer.queue = []
      · refine ⟨fun _ => tracked.awaited waiting, ?_⟩
        rcases tracked.awaited waiting with queued | ⟨lastUpdated, running⟩
        · exact absurd queue queued
        · have current := nothingMissed waiting queue
          by_cases same : lastUpdated = writer.updated
          · subst same
            rcases running with running | running | running
            · exact .supplied (.inr (.inr (current (.inl running))))
            · exact .supplied (.inr (.inr (current (.inr running))))
            · exact .failed _ running
          · rcases running with running | running | running
            · exact .willRecheck lastUpdated same (.inl running)
            · exact .willRecheck lastUpdated same (.inr (.inl running))
            · exact .failed _ running
      · exact .ofQueue queue

/-- A block that is going to check again either will find a newer time stamp or
has nothing left to do. -/
theorem Covered.older_or_supplied {writer : StoreWriter Contents}
    (covered : writer.Covered) {lastUpdated : TimeInterval}
    (running : writer.running = some (.serialized lastUpdated) ∨
      writer.running = some (.written lastUpdated) ∨
      writer.running = some (.cleared lastUpdated)) :
    lastUpdated ≠ writer.updated ∨ writer.Supplied := by
  cases covered with
  | supplied supplied => exact .inr supplied
  | willRecheck other older same =>
      left
      rcases running with running | running | running <;>
        simp_all
  | redispatching same => simp [same] at running
  | failed other same => simp [same] at running

theorem Tracked.write {writer : StoreWriter Contents} (tracked : writer.Tracked)
    {lastUpdated : TimeInterval}
    (running : writer.running = some (.serialized lastUpdated))
    (succeeds : Bool) :
    Tracked { writer with
      running := some
        (if succeeds then .written lastUpdated else .failed lastUpdated) } := by
  cases succeeds with
  | false =>
      exact ⟨fun _ => .inr ⟨lastUpdated, .inr (.inr rfl)⟩,
        .failed lastUpdated rfl⟩
  | true =>
      refine ⟨fun _ => .inr ⟨lastUpdated, .inr (.inl rfl)⟩, ?_⟩
      rcases tracked.covered.older_or_supplied (.inl running) with
        older | supplied
      · exact .willRecheck lastUpdated older (.inr (.inl rfl))
      · exact .supplied supplied

theorem Tracked.clear {writer : StoreWriter Contents} (tracked : writer.Tracked)
    {lastUpdated : TimeInterval}
    (running : writer.running = some (.written lastUpdated)) :
    Tracked { writer with
      waitToWrite := false, running := some (.cleared lastUpdated) } := by
  refine ⟨fun waiting => (by cases waiting), ?_⟩
  rcases tracked.covered.older_or_supplied (.inr (.inl running)) with
    older | supplied
  · exact .willRecheck lastUpdated older (.inr (.inr rfl))
  · exact .supplied supplied

theorem Tracked.recheck {writer : StoreWriter Contents} (tracked : writer.Tracked)
    {lastUpdated : TimeInterval}
    (running : writer.running = some (.cleared lastUpdated)) :
    Tracked { writer with
      running :=
        if lastUpdated ≠ writer.updated then some .redispatching else none } := by
  constructor
  · intro waiting
    rcases tracked.awaited waiting with queue | ⟨other, impossible⟩
    · exact .inl queue
    · simp [running] at impossible
  · by_cases same : lastUpdated = writer.updated
    · rcases tracked.covered.older_or_supplied (.inr (.inr running)) with
        older | supplied
      · exact absurd same older
      · exact .supplied supplied
    · exact .redispatching (if_pos same)

theorem step_tracked {writer next : StoreWriter Contents}
    {event : StoreWriterEvent Contents} (tracked : writer.Tracked)
    (nothingMissed : writer.NothingMissed event)
    (taken : writer.step event = some next) : next.Tracked := by
  cases event with
  | stamp first second contents =>
      rcases storing : writer.storing with _ | phase <;>
        simp only [step, storing, reduceCtorEq, Option.some.injEq] at taken
      subst taken
      exact tracked.ofStoring rfl rfl rfl (Option.some_ne_none _)
  | restamp =>
      rcases storing : writer.storing with
        _ | ⟨second, contents⟩ | contents | _ | _ <;>
        simp only [step, storing, reduceCtorEq, Option.some.injEq] at taken
      subst taken
      exact tracked.ofStoring rfl rfl rfl (Option.some_ne_none _)
  | publish =>
      rcases storing : writer.storing with
        _ | ⟨second, contents⟩ | contents | _ | _ <;>
        simp only [step, storing, reduceCtorEq, Option.some.injEq] at taken
      subst taken
      exact tracked.ofStoring rfl rfl rfl (Option.some_ne_none _)
  | check =>
      rcases storing : writer.storing with
        _ | ⟨second, contents⟩ | contents | _ | _ <;>
        simp only [step, storing, reduceCtorEq, Option.some.injEq] at taken
      subst taken
      exact tracked.check nothingMissed
  | dispatch =>
      rcases storing : writer.storing with
        _ | ⟨second, contents⟩ | contents | _ | _ <;>
        simp only [step, storing, reduceCtorEq, Option.some.injEq] at taken
      subst taken
      exact .ofQueue writer.writeStoreToDisk_queue
  | snapshot =>
      rcases running : writer.running with _ | phase <;>
        rcases queue : writer.queue with _ | ⟨lastUpdated, rest⟩ <;>
        simp only [step, running, queue, reduceCtorEq, Option.some.injEq] at taken
      subst taken
      exact ⟨fun _ => .inr ⟨lastUpdated, .inl rfl⟩,
        .supplied (.inr (.inr rfl))⟩
  | write succeeds =>
      rcases running : writer.running with
        _ | lastUpdated | lastUpdated | lastUpdated | lastUpdated | _ <;>
        simp only [step, running, reduceCtorEq, Option.some.injEq] at taken
      subst taken
      exact tracked.write running succeeds
  | clear =>
      rcases running : writer.running with
        _ | lastUpdated | lastUpdated | lastUpdated | lastUpdated | _ <;>
        simp only [step, running, reduceCtorEq, Option.some.injEq] at taken
      · subst taken
        exact tracked.clear running
      · subst taken
        exact ⟨fun waiting => (by cases waiting),
          .supplied (nothingMissed (by rw [running]; rfl))⟩
  | recheck =>
      rcases running : writer.running with
        _ | lastUpdated | lastUpdated | lastUpdated | lastUpdated | _ <;>
        simp only [step, running, reduceCtorEq, Option.some.injEq] at taken
      subst taken
      exact tracked.recheck running
  | redispatch =>
      rcases running : writer.running with
        _ | lastUpdated | lastUpdated | lastUpdated | lastUpdated | _ <;>
        simp only [step, running, reduceCtorEq, Option.some.injEq] at taken
      subst taken
      exact .ofQueue writer.writeStoreToDisk_queue

/-- When both threads are done, the last write attempt was one of the current
contents. -/
theorem idle_lastAttempt {writer : StoreWriter Contents} (tracked : writer.Tracked)
    (idle : writer.Idle) : writer.lastAttempt = writer.deviceStore := by
  rcases idle with ⟨storing, queue, running⟩
  cases tracked.covered with
  | supplied supplied =>
      rcases supplied with busy | queued | current
      · exact absurd storing busy
      · exact absurd queue queued
      · exact current
  | willRecheck lastUpdated older busy => simp [running] at busy
  | redispatching busy => simp [running] at busy
  | failed lastUpdated busy => simp [running] at busy

/-- The condition cannot be weakened: once a step breaks it, the write block
has only to finish for the contents to stay behind unattempted. -/
theorem missed_unattempted {writer next : StoreWriter Contents}
    {event : StoreWriterEvent Contents}
    (missed : ¬ writer.NothingMissed event)
    (taken : writer.step event = some next) :
    ∃ events final, runFrom step next events = some final ∧ final.Idle ∧
      final.lastAttempt ≠ final.deviceStore := by
  rcases writer with ⟨updated, deviceStore, lastAttempt, waiting, queue, running,
    storing⟩
  cases event with
  | clear =>
      rcases running with _ | _ | _ | lastUpdated | _ | _ <;>
        simp only [NothingMissed, Supplied, Option.any, WritePhase.isFailed,
          reduceCtorEq, false_implies, not_true, true_implies, ne_eq, not_or,
          Decidable.not_not] at missed
      rcases missed with ⟨rfl, rfl, unattempted⟩
      cases taken
      exact ⟨[], _, rfl, ⟨rfl, rfl, rfl⟩, unattempted⟩
  | check =>
      simp only [NothingMissed, Classical.not_imp] at missed
      rcases missed with ⟨rfl, rfl, rfl | rfl, unattempted⟩ <;>
        rcases storing with _ | ⟨second, contents⟩ | contents | _ | _ <;>
        simp only [step, reduceCtorEq, Option.some.injEq] at taken <;>
        subst taken
      · exact ⟨[.write true, .clear, .recheck],
          { updated, deviceStore, lastAttempt },
          by simp only [runFrom, step, if_true, ne_eq, not_true, if_false],
          ⟨rfl, rfl, rfl⟩, unattempted⟩
      · exact ⟨[.clear, .recheck], { updated, deviceStore, lastAttempt },
          by simp only [runFrom, step, ne_eq, not_true, if_false, if_true],
          ⟨rfl, rfl, rfl⟩, unattempted⟩
  | _ => exact absurd trivial missed

theorem run_idle_lastAttempt {updated : TimeInterval} {contents : Contents}
    {events : List (StoreWriterEvent Contents)} {final : StoreWriter Contents}
    (holds : EveryStep step NothingMissed (loaded updated contents) events)
    (reached : runFrom step (loaded updated contents) events = some final)
    (idle : final.Idle) : final.lastAttempt = final.deviceStore :=
  idle_lastAttempt
    (runFrom_invariant (fun _ _ _ => step_tracked)
      (loaded_tracked updated contents) holds reached) idle

/-- Two store calls, the second while the contents of the first are being
written. -/
def overlappingStores (succeeds : Bool) : List (StoreWriterEvent String) :=
  [.stamp 1 1 "first", .restamp, .publish, .check, .dispatch, .snapshot,
    .stamp 2 2 "second", .restamp, .publish, .check, .write succeeds, .clear]

/-- When the first write succeeds, a second block writes the rest. -/
theorem overlappingStores_lastAttempt :
    ∃ final, runFrom step (loaded 0 "empty") (overlappingStores true ++
        [.recheck, .redispatch, .snapshot, .write true, .clear, .recheck]) =
        some final ∧ final.lastAttempt = final.deviceStore := by
  have reached : runFrom step (loaded 0 "empty") (overlappingStores true ++
      [.recheck, .redispatch, .snapshot, .write true, .clear, .recheck]) =
      some { updated := 2, deviceStore := "second", lastAttempt := "second" } := by
    decide
  exact ⟨_, reached, run_idle_lastAttempt (by decide) reached ⟨rfl, rfl, rfl⟩⟩

/-- Times of successive store calls increase. -/
def ClockAdvances (writer : StoreWriter Contents) :
    StoreWriterEvent Contents → Prop
  | .stamp first second _ => writer.updated < first ∧ first ≤ second
  | _ => True

/-- When it fails, nothing ever writes the contents of the second call. -/
theorem failed_write_loses_store :
    ¬ ∀ (events : List (StoreWriterEvent String)) (final : StoreWriter String),
      EveryStep step ClockAdvances (loaded 0 "empty") events →
      runFrom step (loaded 0 "empty") events = some final →
      final.Idle → final.lastAttempt = final.deviceStore := by
  intro attempted
  have equal := attempted (overlappingStores false)
    { updated := 2, deviceStore := "second", lastAttempt := "first" }
    (by simp [EveryStep, ClockAdvances, overlappingStores, step, loaded,
      writeStoreToDisk])
    (by decide) ⟨rfl, rfl, rfl⟩
  exact absurd equal (by decide)

end StoreWriter

end ConnectSDK
