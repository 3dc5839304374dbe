import ConnectSDK.Devices.StoreSession
import ConnectSDK.Devices.StoredServices

/-! # Expiry of records

A device that was connected is to be stored until it is removed. Expiry looks
at the record's `lastConnected`, which is what the device object held when the
record was last written. The run carries which devices have been connected and
which of their records were last written without a connection time.
-/

namespace ConnectSDK

/-- A session with the ids of the devices that connected and were added, and of
the records last written from an object whose `lastConnected` was not set. -/
structure ExpirySession extends StoreSession where
  connectedIds : String → Bool
  undated : String → Bool

namespace ExpirySession

/-- The record of an id is there and is not null. -/
def hasRecord (store : DefaultConnectableDeviceStore) (id : String) : Bool :=
  (store.storedDevices.lookup id).any fun record => !record.isNull

def connectedAfter (session : ExpirySession) : StoreCall → String → Bool
  | .connectionSuccess device _ _ => fun id =>
      session.connectedIds id ||
        (session.memory.connected device && session.memory.hasServices device &&
          (session.memory.devices.read device).id == id &&
          !(session.store.storedDevices.lookup id).any JSON.isNull)
  | .removeDevice device _ => fun id =>
      session.connectedIds id &&
        !(session.memory.hasServices device &&
          (session.memory.devices.read device).id == id)
  | .removeAll _ => fun _ => false
  | .load file now => fun id =>
      session.connectedIds id && hasRecord (.load file now) id
  | .change _ | .addDevice .. | .updateDevice .. | .deviceForId ..
  | .setMaxStoreDuration .. => session.connectedIds

/-- Writing a device dates its record or does not. -/
def undatedByWrite (session : ExpirySession) (device : Ref ConnectableDevice)
    (id : String) : Bool :=
  if session.memory.hasServices device &&
      (session.memory.devices.read device).id == id then
    decide ((session.memory.devices.read device).lastConnected ≤ 0)
  else session.undated id

def undatedAfter (session : ExpirySession) : StoreCall → String → Bool
  | .addDevice device _ | .updateDevice device _ =>
      session.undatedByWrite device
  | .connectionSuccess device _ _ =>
      if session.memory.connected device then session.undatedByWrite device
      else session.undated
  | .load file now => fun id =>
      ((DefaultConnectableDeviceStore.load file now).storedDevices.lookup id).any
        fun record => decide (record.numberAt "lastConnected" ≤ 0)
  | .change _ | .deviceForId .. | .removeDevice .. | .removeAll _
  | .setMaxStoreDuration .. => session.undated

def step (session : ExpirySession) (call : StoreCall) : Option ExpirySession :=
  (session.toStoreSession.step call).map fun next =>
    { next with
      connectedIds := session.connectedAfter call
      undated := session.undatedAfter call }

/-- There is a record that `updateDevice:` would write. -/
def Updatable (store : DefaultConnectableDeviceStore) (memory : Memory)
    (device : Ref ConnectableDevice) : Prop :=
  ∃ info, store.storedDeviceForUUID (memory.devices.read device).id = some info ∧
    info.isNull = false

/-- A scan comes in time for the undated records of connected devices. -/
def ScanInTime (session : ExpirySession) (spared : String → Prop)
    (maxStoreDuration now : TimeInterval) : Prop :=
  ∀ id record, ¬ spared id → session.connectedIds id = true →
    session.undated id = true →
    session.store.storedDevices.lookup id = some record →
      now - record.numberAt "lastDetection" ≤ maxStoreDuration

/-- A write, and the scan that follows it, come in time. -/
structure WriteInTime (session : ExpirySession) (device : Ref ConnectableDevice)
    (connects : Bool) (now : TimeInterval) : Prop where
  others : session.ScanInTime (· = (session.memory.devices.read device).id)
    session.store.maxStoreDuration now
  own : session.connectedIds (session.memory.devices.read device).id = true ∨
      connects = true →
    (session.memory.devices.read device).lastConnected ≤ 0 →
      now - (session.memory.devices.read device).lastDetection ≤
        session.store.maxStoreDuration

/-- Between the write of a connected device without a connection time and the
next with one, no scan comes later than `maxStoreDuration` after the detection
that was written. -/
def InTime (session : ExpirySession) : StoreCall → Prop
  | .addDevice device now =>
      session.memory.hasServices device = true →
        session.WriteInTime device false now
  | .updateDevice device now =>
      session.memory.hasServices device = true →
        Updatable session.store session.memory device →
          session.WriteInTime device false now
  | .connectionSuccess device stored _ =>
      session.memory.connected device = true →
        session.memory.hasServices device = true →
          session.WriteInTime device true stored
  | .removeDevice device now =>
      session.memory.hasServices device = true →
        session.ScanInTime (· = (session.memory.devices.read device).id)
          session.store.maxStoreDuration now
  | .setMaxStoreDuration maxStoreDuration now =>
      session.ScanInTime (fun _ => False) maxStoreDuration now
  | .change _ | .deviceForId .. | .removeAll _ | .load .. => True

/-- Records of connected devices are there, and a record that is not undated
has a connection time. -/
def Kept (session : ExpirySession) : Prop :=
  ∀ id, session.connectedIds id = true →
    ∃ record, session.store.storedDevices.lookup id = some record ∧
      record ≠ .null ∧
      (session.undated id = false → 0 < record.numberAt "lastConnected")

def start (file : DeviceStoreFile) (now : TimeInterval) : ExpirySession where
  store := .load file now
  memory := .empty
  connectedIds := fun _ => false
  undated := fun _ => false

theorem start_kept (file : DeviceStoreFile) (now : TimeInterval) :
    (start file now).Kept := fun _ connected => by cases connected

/-! ## Scans and writes -/

/-- A scan that comes in time leaves the record of a connected device. -/
theorem Kept.surviving {session : ExpirySession} (kept : session.Kept)
    {spared : String → Prop} {now : TimeInterval}
    (inTime : session.ScanInTime spared session.store.maxStoreDuration now)
    {id : String} (apart : ¬ spared id)
    (connected : session.connectedIds id = true) :
    ∃ record, session.store.surviving now id = some record ∧ record ≠ .null ∧
      (session.undated id = false → 0 < record.numberAt "lastConnected") := by
  rcases kept id connected with ⟨record, held, notNull, dated⟩
  have young : DefaultConnectableDeviceStore.overdue
      session.store.maxStoreDuration now record = false := by
    rw [DefaultConnectableDeviceStore.overdue_eq_false_iff]
    cases undated : session.undated id with
    | false => exact .inl (dated undated)
    | true => exact .inr (inTime id record apart connected undated held)
  exact ⟨record,
    DefaultConnectableDeviceStore.surviving_eq_some_iff.mpr ⟨held, young⟩,
    notNull, dated⟩

/-- A write in time keeps the records of connected devices, that of a device
which connects with it included. -/
theorem Kept.of_wrote {session : ExpirySession} (kept : session.Kept)
    {device : Ref ConnectableDevice} {connects : Bool} {now : TimeInterval}
    (inTime : session.WriteInTime device connects now)
    {store : DefaultConnectableDeviceStore} {memory : Memory}
    (wrote : DefaultConnectableDeviceStore.Wrote session.memory device now
      session.store store)
    {connectedIds : String → Bool}
    (connected : ∀ id, connectedIds id = true → session.connectedIds id = true ∨
      connects = true ∧ id = (session.memory.devices.read device).id) :
    Kept { store, memory, connectedIds, undated := session.undatedByWrite device } := by
  intro id connectedId
  rcases wrote.record with ⟨record, recordOf, lookup⟩
  by_cases own : id = (session.memory.devices.read device).id
  · subst own
    refine ⟨record, ?_, recordOf.ne_null, ?_⟩
    · have young : DefaultConnectableDeviceStore.overdue
          session.store.maxStoreDuration now record = false := by
        rw [recordOf.overdue_eq_false_iff]
        by_cases dated : 0 < (session.memory.devices.read device).lastConnected
        · exact .inl dated
        · refine .inr (inTime.own ?_ (Int.not_lt.mp dated))
          rcases connected _ connectedId with before | ⟨now, _⟩
          · exact .inl before
          · exact .inr now
      change store.storedDevices.lookup _ = _
      rw [lookup, if_pos rfl, Option.filter_eq_some_iff, young]
      exact ⟨rfl, rfl⟩
    · intro dated
      rw [recordOf.lastConnected]
      simpa [undatedByWrite, wrote.hasServices] using dated
  · have before : session.connectedIds id = true := by
      rcases connected id connectedId with before | ⟨_, same⟩
      · exact before
      · exact absurd same own
    rcases kept.surviving inTime.others own before with ⟨other, held, rest⟩
    have elsewhere : session.undatedByWrite device id = session.undated id := by
      have different : (session.memory.devices.read device).id ≠ id :=
        fun same => own same.symm
      simp [undatedByWrite, different]
    refine ⟨other, ?_, ?_⟩
    · change store.storedDevices.lookup id = _
      rw [lookup, if_neg own, held]
    · change other ≠ .null ∧ (session.undatedByWrite device id = false → _)
      rw [elsewhere]
      exact rest

/-- A call that wrote nothing had no record of a connected device to write. -/
theorem Kept.of_unwritten {session : ExpirySession} (kept : session.Kept)
    {device : Ref ConnectableDevice} {store : DefaultConnectableDeviceStore}
    {memory : Memory} (stored : store.storedDevices = session.store.storedDevices)
    (unwritten : session.memory.hasServices device = true →
      session.store.storedDevices.lookup
          (session.memory.devices.read device).id = none ∨
        session.store.storedDevices.lookup
          (session.memory.devices.read device).id = some .null) :
    Kept { session with
      store, memory, undated := session.undatedByWrite device } := by
  intro id connected
  rcases kept id connected with ⟨record, held, notNull, dated⟩
  refine ⟨record, by rw [stored, held], notNull, ?_⟩
  intro datedAfter
  apply dated
  by_cases own : session.memory.hasServices device &&
      (session.memory.devices.read device).id == id
  · rw [Bool.and_eq_true, beq_iff_eq] at own
    rcases own with ⟨hasServices, rfl⟩
    rcases unwritten hasServices with missing | null
    · cases missing.symm.trans held
    · exact absurd (Option.some.inj (held.symm.trans null)) notNull
  · have same : session.undatedByWrite device id = session.undated id :=
      if_neg own
    exact same.symm.trans datedAfter

/-- A call writes the device unless there is nothing to write. -/
theorem perform_wrote_or_unwritten {store after : DefaultConnectableDeviceStore}
    (write : StoreWrite) {memory : Memory} {device : Ref ConnectableDevice}
    {now : TimeInterval}
    (performed : store.perform write memory device now = some after) :
    DefaultConnectableDeviceStore.Wrote memory device now store after ∧
        (write = .updateDevice → Updatable store memory device) ∨
      after.storedDevices = store.storedDevices ∧
        (memory.hasServices device = true →
          store.storedDevices.lookup (memory.devices.read device).id = none ∨
            store.storedDevices.lookup (memory.devices.read device).id =
              some .null) := by
  by_cases ready : ∃ record, memory.hasServices device = true ∧
      store.storedDevices.lookup (memory.devices.read device).id = some record ∧
      record ≠ .null
  · rcases ready with ⟨record, hasServices, held, notNull⟩
    refine .inl ⟨DefaultConnectableDeviceStore.perform_wrote hasServices
      (fun _ => by simp [held]) (by simpa [held] using notNull) performed,
      fun _ => ⟨record, ?_, ?_⟩⟩
    · rw [DefaultConnectableDeviceStore.storedDeviceForUUID, held, Option.some_or]
    · rw [Bool.eq_false_iff]
      exact fun null =>
        notNull (DefaultConnectableDeviceStore.isNull_eq_true_iff.mp null)
  · have unwritten : memory.hasServices device = true →
        store.storedDevices.lookup (memory.devices.read device).id = none ∨
          store.storedDevices.lookup (memory.devices.read device).id =
            some .null := by
      intro hasServices
      cases held : store.storedDevices.lookup (memory.devices.read device).id with
      | none => exact .inl rfl
      | some record =>
          by_cases null : record = .null
          · exact .inr (congrArg some null)
          · exact absurd ⟨record, hasServices, held, null⟩ ready
    cases write with
    | addDevice =>
        rcases DefaultConnectableDeviceStore.addDevice_cases performed with
          rfl | rfl | wrote
        · exact .inr ⟨rfl, unwritten⟩
        · exact .inr ⟨DefaultConnectableDeviceStore.activate_storedDevices ..,
            unwritten⟩
        · exact .inl ⟨wrote, fun impossible => by cases impossible⟩
    | updateDevice =>
        rcases DefaultConnectableDeviceStore.updateDevice_cases performed with
          rfl | ⟨wrote, updatable⟩
        · exact .inr ⟨rfl, unwritten⟩
        · exact .inl ⟨wrote, fun _ => updatable⟩

/-! ## What each call preserves -/

theorem Kept.addDevice {session : ExpirySession} (kept : session.Kept)
    {device : Ref ConnectableDevice} {now : TimeInterval}
    (inTime : session.InTime (.addDevice device now))
    {store : DefaultConnectableDeviceStore}
    (added : session.store.addDevice session.memory device now = some store) :
    Kept { session with store, undated := session.undatedByWrite device } := by
  rcases perform_wrote_or_unwritten .addDevice added with
    ⟨wrote, _⟩ | ⟨stored, unwritten⟩
  · exact kept.of_wrote (inTime wrote.hasServices) wrote fun _ before => .inl before
  · exact kept.of_unwritten stored unwritten

theorem Kept.updateDevice {session : ExpirySession} (kept : session.Kept)
    {device : Ref ConnectableDevice} {now : TimeInterval}
    (inTime : session.InTime (.updateDevice device now))
    {store : DefaultConnectableDeviceStore}
    (updated : session.store.updateDevice session.memory device now =
      some store) :
    Kept { session with store, undated := session.undatedByWrite device } := by
  rcases perform_wrote_or_unwritten .updateDevice updated with
    ⟨wrote, updatable⟩ | ⟨stored, unwritten⟩
  · exact kept.of_wrote (inTime wrote.hasServices (updatable rfl)) wrote
      fun _ before => .inl before
  · exact kept.of_unwritten stored unwritten

/-- The device that connects is from now on one whose record is to stay. -/
theorem Kept.connectionSuccess {session : ExpirySession} (kept : session.Kept)
    {device : Ref ConnectableDevice} {stored connected : TimeInterval}
    (ready : session.memory.connected device = true)
    (inTime : session.InTime (.connectionSuccess device stored connected))
    {store : DefaultConnectableDeviceStore}
    (added : session.store.addDevice session.memory device stored =
      some store) (memory : Memory) :
    Kept
      { store, memory
        connectedIds :=
          session.connectedAfter (.connectionSuccess device stored connected)
        undated := session.undatedByWrite device } := by
  have connects : ∀ id,
      session.connectedAfter (.connectionSuccess device stored connected) id =
        true →
      session.connectedIds id = true ∨
        (session.memory.hasServices device = true ∧
          session.store.storedDevices.lookup
            (session.memory.devices.read device).id ≠ some .null) ∧
        id = (session.memory.devices.read device).id := by
    intro id connectedId
    simp only [connectedAfter, Bool.or_eq_true, Bool.and_eq_true, beq_iff_eq,
      Bool.not_eq_true'] at connectedId
    rcases connectedId with before | ⟨⟨⟨_, hasServices⟩, rfl⟩, notNull⟩
    · exact .inl before
    · refine .inr ⟨⟨hasServices, fun null => ?_⟩, rfl⟩
      rw [null] at notNull
      cases notNull
  by_cases writes : session.memory.hasServices device = true ∧
      session.store.storedDevices.lookup (session.memory.devices.read device).id ≠
        some .null
  · have performed : session.store.perform .addDevice session.memory device
        stored = some store := added
    have wrote := DefaultConnectableDeviceStore.perform_wrote writes.1
      (fun impossible => by cases impossible) writes.2 performed
    refine kept.of_wrote (inTime ready writes.1) wrote fun id connectedId => ?_
    rcases connects id connectedId with before | ⟨_, same⟩
    · exact .inl before
    · exact .inr ⟨rfl, same⟩
  · have alreadyInTime : session.InTime (.addDevice device stored) :=
      fun hasServices =>
        ⟨(inTime ready hasServices).others, fun before =>
          (inTime ready hasServices).own (.inl (before.resolve_right (by simp)))⟩
    intro id connectedId
    rcases connects id connectedId with before | ⟨written, _⟩
    · exact kept.addDevice alreadyInTime added id before
    · exact absurd written writes

theorem Kept.of_scan {session : ExpirySession} (kept : session.Kept)
    {spared : String → Prop} {now : TimeInterval}
    (inTime : session.ScanInTime spared session.store.maxStoreDuration now)
    {store : DefaultConnectableDeviceStore} {connectedIds : String → Bool}
    (connected : ∀ id, connectedIds id = true →
      session.connectedIds id = true ∧ ¬ spared id)
    (lookup : ∀ id, ¬ spared id →
      store.storedDevices.lookup id = session.store.surviving now id) :
    Kept { session with store, connectedIds } := by
  intro id connectedId
  rcases connected id connectedId with ⟨before, apart⟩
  rcases kept.surviving inTime apart before with ⟨record, held, rest⟩
  exact ⟨record, (lookup id apart).trans held, rest⟩

theorem Kept.removeDevice {session : ExpirySession} (kept : session.Kept)
    {device : Ref ConnectableDevice} {now : TimeInterval}
    (inTime : session.InTime (.removeDevice device now)) :
    Kept
      { session with
        store := session.store.removeDevice session.memory device now
        connectedIds := session.connectedAfter (.removeDevice device now) } := by
  cases hasServices : session.memory.hasServices device with
  | false =>
      have unchanged : session.store.removeDevice session.memory device now =
          session.store := by
        simp [DefaultConnectableDeviceStore.removeDevice, hasServices]
      intro id connectedId
      have before : session.connectedIds id = true := by
        simpa [connectedAfter, hasServices] using connectedId
      rw [unchanged]
      exact kept id before
  | true =>
      refine kept.of_scan (inTime hasServices) ?_ ?_
      · intro id connectedId
        simp only [connectedAfter, hasServices, Bool.true_and, Bool.and_eq_true,
          Bool.not_eq_true', beq_eq_false_iff_ne] at connectedId
        exact ⟨connectedId.1, fun same => connectedId.2 same.symm⟩
      · intro id different
        rw [DefaultConnectableDeviceStore.removeDevice, hasServices, if_pos rfl,
          DefaultConnectableDeviceStore.lookup_store,
          DefaultConnectableDeviceStore.surviving, Dictionary.lookup_erase_eq,
          if_neg different]
        rfl

theorem Kept.load {session : ExpirySession} (file : DeviceStoreFile)
    (now : TimeInterval) :
    Kept
      { session with
        store := .load file now
        connectedIds := session.connectedAfter (.load file now)
        undated := session.undatedAfter (.load file now) } := by
  intro id connectedId
  simp only [connectedAfter, Bool.and_eq_true, hasRecord] at connectedId
  cases held : (DefaultConnectableDeviceStore.load file now).storedDevices.lookup
      id with
  | none =>
      rw [held] at connectedId
      cases connectedId.2
  | some record =>
      rw [held] at connectedId
      refine ⟨record, rfl, ?_, ?_⟩
      · rintro rfl
        cases connectedId.2
      · intro dated
        have positive : ¬ record.numberAt "lastConnected" ≤ 0 := by
          simpa [undatedAfter, held] using dated
        exact Int.not_le.mp positive

theorem step_kept {session next : ExpirySession} {call : StoreCall}
    (kept : session.Kept) (inTime : session.InTime call)
    (taken : session.step call = some next) : next.Kept := by
  rcases Option.map_eq_some_iff.mp taken with ⟨after, stepped, rfl⟩
  cases call with
  | change memory =>
      cases stepped
      exact kept
  | addDevice device now =>
      rcases Option.map_eq_some_iff.mp stepped with ⟨store, added, rfl⟩
      exact kept.addDevice inTime added
  | updateDevice device now =>
      rcases Option.map_eq_some_iff.mp stepped with ⟨store, updated, rfl⟩
      exact kept.updateDevice inTime updated
  | deviceForId id guid =>
      cases stepped
      intro connectedId connected
      rcases kept connectedId connected with ⟨record, held, rest⟩
      refine ⟨record, ?_, rest⟩
      rw [← held]
      exact congrArg (AList.lookup connectedId)
        (session.store.deviceForId_storedDevices session.memory id guid)
  | removeDevice device now =>
      cases stepped
      exact kept.removeDevice inTime
  | removeAll now =>
      cases stepped
      intro id connectedId
      cases connectedId
  | setMaxStoreDuration maxStoreDuration now =>
      cases stepped
      have widened : Kept
          { session with store := { session.store with maxStoreDuration } } := kept
      refine widened.of_scan inTime (fun _ connected => ⟨connected, not_false⟩) ?_
      intro id _
      exact DefaultConnectableDeviceStore.lookup_deleteOldUnusedDevices ..
  | connectionSuccess device stored connected =>
      rw [StoreSession.step, StoreSession.deviceServiceConnectionSuccess] at stepped
      cases ready : session.memory.connected device with
      | false =>
          rw [ready, if_neg (by simp), Option.some.injEq] at stepped
          subst stepped
          simpa [connectedAfter, undatedAfter, ready] using kept
      | true =>
          rw [ready, if_pos rfl] at stepped
          rcases Option.map_eq_some_iff.mp stepped with ⟨store, added, rfl⟩
          have written := kept.connectionSuccess ready inTime added
            (session.memory.modifyDevice device fun object =>
              { object with lastConnected := connected })
          simpa [undatedAfter, ready] using written
  | load file now =>
      cases stepped
      exact .load file now

/-- The record of a device that connected is there until it is removed. -/
theorem run_keeps_connected {file : DeviceStoreFile} {now : TimeInterval}
    {calls : List StoreCall} {final : ExpirySession}
    (inTime : EveryStep step InTime (start file now) calls)
    (reached : runFrom step (start file now) calls = some final) {id : String}
    (connected : final.connectedIds id = true) :
    final.store.storedDevices.lookup id ≠ none := by
  have kept := runFrom_invariant (fun _ _ _ => step_kept) (start_kept file now)
    inTime reached
  rcases kept id connected with ⟨record, held, _⟩
  rw [held]
  exact Option.some_ne_none record

/-- A device found at time 100 whose only service has just connected. -/
def justConnected : Memory :=
  let roku : DeviceService :=
    { serviceClass := .rokuService, serviceDescription := ⟨0⟩, connected := true }
  let memory := Memory.empty.allocateDescription
    { serviceId := some "Roku", uuid := some "roku" }
  { memory with
    devices := memory.devices.allocate
      { id := "tv"
        serviceDescription := ⟨0⟩
        lastDetection := 100
        services := AList.insert "Roku" roku ∅ } }

/-- A later update dates the record, and no scan deletes it from then on. -/
theorem updated_connection_kept :
    ∃ final, runFrom step (start .missing 0)
        [.change justConnected, .connectionSuccess ⟨0⟩ 100 100,
          .updateDevice ⟨0⟩ 200, .setMaxStoreDuration 1 1000000] =
        some final ∧ final.store.storedDevices.lookup "tv" ≠ none := by
  refine ⟨_, rfl, @run_keeps_connected .missing 0
    [.change justConnected, .connectionSuccess ⟨0⟩ 100 100,
      .updateDevice ⟨0⟩ 200, .setMaxStoreDuration 1 1000000] _
    ⟨trivial, ?_, ?_, ?_, trivial⟩ rfl "tv" rfl⟩
  · intro _ _
    refine ⟨fun id record _ connected => (by cases connected), fun _ _ => ?_⟩
    change (100 : Int) - 100 ≤ 3 * 24 * 60 * 60
    decide
  · intro _ _
    refine ⟨fun id record different connected => ?_, fun _ undated => ?_⟩
    · change (false || (true && ("tv" == id)) && true) = true at connected
      have same : "tv" = id := by simpa using connected
      exact absurd same.symm different
    · change (100 : Int) ≤ 0 at undated
      exact absurd undated (by decide)
  · intro id record _ connected undated
    change (false || (true && ("tv" == id)) && true) = true at connected
    have same : "tv" = id := by simpa using connected
    subst same
    cases undated

/-- A device that connects for the first time is stored without a connection
time. If nothing updates it, a scan three days later deletes the record. -/
theorem first_connection_expires :
    ¬ ∀ (calls : List StoreCall) (final : ExpirySession) (id : String),
      runFrom step (start .missing 0) calls = some final →
      final.connectedIds id = true →
        final.store.storedDevices.lookup id ≠ none := by
  intro kept
  exact kept [.change justConnected, .connectionSuccess ⟨0⟩ 100 100,
    .setMaxStoreDuration (3 * 24 * 60 * 60) 259301] _ "tv" rfl rfl rfl

end ExpirySession

end ConnectSDK
