import ConnectSDK.Devices.ObjectGraph
import ConnectSDK.Devices.StoreSession

/-! # Removing devices

`removeDevice:` and `removeAll` promise that what they removed is not found
again until it is added again. The run carries the ids the promise holds for.
-/

namespace ConnectSDK

namespace DefaultConnectableDeviceStore

/-- Nothing the store returns for an id leads back to a removed device, and no
lookup raises on a record on its way. -/
structure Forgets (store : DefaultConnectableDeviceStore) (memory : Memory)
    (id : String) : Prop where
  records : store.HoldsRecords
  storedDevices : store.storedDevices.lookup id = none
  deviceForId : ∀ guid, (store.deviceForId memory (some id) guid).1 = none
  serviceConfigForUUID : store.serviceConfigForUUID (some id) = none

/-- No key and no service of either table answers for an id. -/
structure Gone (store : DefaultConnectableDeviceStore) (memory : Memory)
    (id : String) : Prop where
  active : ∀ key device, store.activeDevices.lookup key = some device →
    key ≠ id ∧ ∀ service ∈ memory.services device,
      memory.serviceUUID service ≠ some id
  stored : ∀ key record, store.storedDevices.lookup key = some record →
    key ≠ id ∧ recordHasService id record = false

theorem storedDeviceForUUID_eq_none_iff {store : DefaultConnectableDeviceStore}
    {uuid : String} :
    store.storedDeviceForUUID uuid = none ↔
      ∀ key record, store.storedDevices.lookup key = some record →
        key ≠ uuid ∧ recordHasService uuid record = false := by
  simp only [storedDeviceForUUID, Option.or_eq_none_iff, Option.map_eq_none_iff,
    Dictionary.firstWhere_eq_none_iff]
  constructor
  · rintro ⟨unkeyed, unserved⟩ key record held
    refine ⟨?_, unserved key record held⟩
    rintro rfl
    cases unkeyed.symm.trans held
  · intro none
    refine ⟨?_, fun key record held => (none key record held).2⟩
    cases held : store.storedDevices.lookup uuid with
    | none => rfl
    | some record => exact absurd rfl (none uuid record held).1

theorem activeDeviceForUUID_eq_none_iff {store : DefaultConnectableDeviceStore}
    {memory : Memory} {uuid : String} :
    store.activeDeviceForUUID memory uuid = none ↔
      ∀ key device, store.activeDevices.lookup key = some device →
        key ≠ uuid ∧ ∀ service ∈ memory.services device,
          memory.serviceUUID service ≠ some uuid := by
  simp only [activeDeviceForUUID, Option.or_eq_none_iff, Option.map_eq_none_iff,
    Dictionary.firstWhere_eq_none_iff, List.any_eq_false, beq_iff_eq]
  constructor
  · rintro ⟨unkeyed, unserved⟩ key device held
    refine ⟨?_, unserved key device held⟩
    rintro rfl
    cases unkeyed.symm.trans held
  · intro none
    refine ⟨?_, fun key device held => (none key device held).2⟩
    cases held : store.activeDevices.lookup uuid with
    | none => rfl
    | some device => exact absurd rfl (none uuid device held).1

theorem Gone.forgets {store : DefaultConnectableDeviceStore} {memory : Memory}
    {id : String} (gone : store.Gone memory id) (records : store.HoldsRecords) :
    store.Forgets memory id := by
  have active := activeDeviceForUUID_eq_none_iff.mpr gone.active
  have stored := storedDeviceForUUID_eq_none_iff.mpr gone.stored
  refine ⟨records, ?_, ?_, ?_⟩
  · cases held : store.storedDevices.lookup id with
    | none => rfl
    | some record => exact absurd rfl (gone.stored id record held).1
  · intro guid
    rw [deviceForId, active, stored]
    cases id.isEmpty <;> rfl
  · rw [serviceConfigForUUID, stored]
    cases id.isEmpty <;> rfl

/-- An expiry scan brings nothing back. -/
theorem Gone.of_surviving {before after : DefaultConnectableDeviceStore}
    {memory : Memory} {id : String} (gone : before.Gone memory id)
    (active : after.activeDevices = before.activeDevices)
    (stored : ∀ key record, after.storedDevices.lookup key = some record →
      before.storedDevices.lookup key = some record) : after.Gone memory id where
  active := by
    rw [active]
    exact gone.active
  stored := fun key record held => gone.stored key record (stored key record held)

/-- Writing a device brings back its id and the UUIDs of its services only. -/
theorem Gone.of_wrote {before after : DefaultConnectableDeviceStore}
    {memory : Memory} {device : Ref ConnectableDevice} {now : TimeInterval}
    {id : String} (gone : before.Gone memory id)
    (wrote : Wrote memory device now before after)
    (different : (memory.devices.read device).id ≠ id)
    (unserved : ∀ service ∈ memory.services device,
      memory.serviceUUID service ≠ some id) : after.Gone memory id where
  active := by
    intro key other held
    rcases wrote.active key other held with old | ⟨rfl, rfl⟩
    · exact gone.active key other old
    · exact ⟨different, unserved⟩
  stored := by
    intro key record held
    rcases wrote.record with ⟨new, recordOf, lookup⟩
    rw [lookup] at held
    by_cases own : key = (memory.devices.read device).id
    · rw [if_pos own, Option.filter_eq_some_iff] at held
      cases held.1
      refine ⟨own ▸ different, ?_⟩
      cases contains : recordHasService id record with
      | false => rfl
      | true =>
          rcases recordOf.hasService contains with
            ⟨service, member, identified⟩ | ⟨present, found, inherited⟩
          · exact absurd identified (unserved service member)
          · rcases storedDeviceForUUID_answers found with ⟨key, stored, _⟩
            rw [(gone.stored key present stored).2] at inherited
            cases inherited
    · rw [if_neg own] at held
      exact gone.stored key record (surviving_eq_some_iff.mp held).1

end DefaultConnectableDeviceStore

/-- A session with the ids that were removed and not added again since. -/
structure RemovalSession extends StoreSession where
  forgotten : String → Bool

namespace RemovalSession

/-- What a device is known by: its id and the UUIDs of its services. -/
def knownBy (memory : Memory) (device : Ref ConnectableDevice) (id : String) :
    Bool :=
  (memory.devices.read device).id == id ||
    (memory.services device).any fun service =>
      memory.serviceUUID service == some id

/-- A removal promises, and a later `addDevice:` takes the promise back for
what it adds. Loading a file starts anew. -/
def forgottenAfter (session : RemovalSession) : StoreCall → String → Bool
  | .removeDevice device _ => fun id =>
      (session.memory.devices.read device).id == id || session.forgotten id
  | .removeAll _ => fun _ => true
  | .addDevice device _ => fun id =>
      session.forgotten id && !knownBy session.memory device id
  | .connectionSuccess device _ _ => fun id =>
      session.forgotten id &&
        !(session.memory.connected device && knownBy session.memory device id)
  | .load .. => fun _ => false
  | .change _ | .updateDevice .. | .deviceForId .. | .setMaxStoreDuration .. =>
      session.forgotten

def step (session : RemovalSession) (call : StoreCall) : Option RemovalSession :=
  (session.toStoreSession.step call).map fun next =>
    { next with forgotten := session.forgottenAfter call }

/-- A device that `removeDevice:` does remove: it is not active, no other
record answers for its id, and if it has no services it has no record. -/
structure Removable (session : StoreSession) (device : Ref ConnectableDevice)
    (now : TimeInterval) : Prop where
  inactive : session.store.activeDeviceForUUID session.memory
    (session.memory.devices.read device).id = none
  only : session.memory.hasServices device = true → ∀ key record,
    key ≠ (session.memory.devices.read device).id →
      session.store.surviving now key = some record →
        DefaultConnectableDeviceStore.recordHasService
          (session.memory.devices.read device).id record = false
  unstored : session.memory.hasServices device = false →
    session.store.storedDeviceForUUID (session.memory.devices.read device).id =
      none

/-- The calls that keep the promise. Beside what a removal needs, no removed id
comes back as the UUID of a service of an active or updated device, or as the
own id of a device found under another, and a file that is loaded holds records
that can be read. -/
def Permits (session : RemovalSession) : StoreCall → Prop
  | .removeDevice device now => Removable session.toStoreSession device now
  | .removeAll _ => ∀ key, session.store.activeDevices.lookup key = none
  | .addDevice device _ | .connectionSuccess device _ _ =>
      session.memory.devices.Allocated device
  | .updateDevice device _ =>
      session.memory.devices.Allocated device ∧
        ∀ info, session.store.storedDeviceForUUID
            (session.memory.devices.read device).id = some info →
          info.isNull = false →
          ∀ service ∈ session.memory.services device, ∀ uuid,
            session.memory.serviceUUID service = some uuid →
              session.forgotten uuid = false
  | .deviceForId id guid => ∀ uuid, id = some uuid → uuid ≠ "" →
      match session.store.activeDeviceForUUID session.memory uuid with
      | some device =>
          session.forgotten (session.memory.devices.read device).id = false
      | none => ∀ record, session.store.storedDeviceForUUID uuid = some record →
          session.forgotten (((record.value? "id").bind JSON.string?).getD guid) =
            false
  | .change memory =>
      session.memory.Extends memory ∧
        ∀ key device, session.store.activeDevices.lookup key = some device →
          ∀ service ∈ memory.services device, ∀ uuid,
            memory.serviceUUID service = some uuid →
              session.forgotten uuid = false
  | .load file now =>
      (DefaultConnectableDeviceStore.load file now).HoldsRecords
  | .setMaxStoreDuration .. => True

structure Forgetful (session : RemovalSession) : Prop where
  records : session.store.HoldsRecords
  wellFormed : session.memory.WellFormed
  allocated : ∀ key device, session.store.activeDevices.lookup key = some device →
    session.memory.devices.Allocated device
  gone : ∀ id, session.forgotten id = true →
    session.store.Gone session.memory id

/-- Before the first call: the store has read its file. -/
def start (file : DeviceStoreFile) (now : TimeInterval) : RemovalSession where
  store := .load file now
  memory := .empty
  forgotten := fun _ => false

theorem start_forgetful {file : DeviceStoreFile} {now : TimeInterval}
    (records : (DefaultConnectableDeviceStore.load file now).HoldsRecords) :
    (start file now).Forgetful where
  records := records
  wellFormed := Memory.wellFormed_empty
  allocated := by
    intro key device held
    cases (DefaultConnectableDeviceStore.load_activeDevices file now
      key).symm.trans held
  gone := fun _ removed => by cases removed

theorem knownBy_eq_false_iff {memory : Memory} {device : Ref ConnectableDevice}
    {id : String} :
    knownBy memory device id = false ↔
      (memory.devices.read device).id ≠ id ∧
        ∀ service ∈ memory.services device,
          memory.serviceUUID service ≠ some id := by
  simp only [knownBy, Bool.or_eq_false_iff, beq_eq_false_iff_ne, ne_eq,
    List.any_eq_false, beq_iff_eq]

/-! ## What each call preserves -/

/-- A store that only lost records. -/
theorem Forgetful.of_surviving {session : RemovalSession}
    (forgetful : session.Forgetful) {store : DefaultConnectableDeviceStore}
    (active : store.activeDevices = session.store.activeDevices)
    (stored : ∀ key record, store.storedDevices.lookup key = some record →
      session.store.storedDevices.lookup key = some record) :
    Forgetful { session with store } where
  records := forgetful.records.of_lookup stored
  wellFormed := forgetful.wellFormed
  allocated := by
    rw [active]
    exact forgetful.allocated
  gone := fun id removed => (forgetful.gone id removed).of_surviving active stored

theorem Forgetful.removeDevice {session : RemovalSession}
    (forgetful : session.Forgetful) {device : Ref ConnectableDevice}
    {now : TimeInterval}
    (removable : Removable session.toStoreSession device now) :
    Forgetful
      { session with
        store := session.store.removeDevice session.memory device now
        forgotten := session.forgottenAfter (.removeDevice device now) } := by
  have active :
      (session.store.removeDevice session.memory device now).activeDevices =
        session.store.activeDevices := by
    rw [DefaultConnectableDeviceStore.removeDevice]
    cases session.memory.hasServices device <;> rfl
  have stored : ∀ key record,
      (session.store.removeDevice session.memory device now).storedDevices.lookup
          key = some record →
        session.store.storedDevices.lookup key = some record ∧
          key ≠ (session.memory.devices.read device).id ∧
          DefaultConnectableDeviceStore.recordHasService
            (session.memory.devices.read device).id record = false := by
    intro key record held
    rw [DefaultConnectableDeviceStore.removeDevice] at held
    cases hasServices : session.memory.hasServices device with
    | false =>
        rw [hasServices, if_neg (by simp)] at held
        have absent := DefaultConnectableDeviceStore.storedDeviceForUUID_eq_none_iff.mp
          (removable.unstored hasServices) key record held
        exact ⟨held, absent⟩
    | true =>
        rw [hasServices, if_pos rfl, DefaultConnectableDeviceStore.lookup_store,
          DefaultConnectableDeviceStore.surviving_eq_some_iff,
          Dictionary.lookup_erase_eq] at held
        by_cases own : key = (session.memory.devices.read device).id
        · simp [own] at held
        · rw [if_neg own] at held
          exact ⟨held.1, own, removable.only hasServices key record own
            (DefaultConnectableDeviceStore.surviving_eq_some_iff.mpr held)⟩
  have kept := forgetful.of_surviving active fun key record held =>
    (stored key record held).1
  refine ⟨kept.records, kept.wellFormed, kept.allocated, ?_⟩
  intro id removed
  by_cases own : (session.memory.devices.read device).id = id
  · subst own
    refine ⟨?_, fun key record held => (stored key record held).2⟩
    rw [active]
    exact DefaultConnectableDeviceStore.activeDeviceForUUID_eq_none_iff.mp
      removable.inactive
  · have before : session.forgotten id = true := by
      simpa [forgottenAfter, own] using removed
    exact kept.gone id before

theorem Forgetful.removeAll {session : RemovalSession}
    (forgetful : session.Forgetful) (now : TimeInterval)
    (inactive : ∀ key, session.store.activeDevices.lookup key = none) :
    Forgetful
      { session with
        store := session.store.removeAll now
        forgotten := fun _ => true } where
  records := session.store.holdsRecords_removeAll now
  wellFormed := forgetful.wellFormed
  allocated := fun key device held => forgetful.allocated key device held
  gone := by
    intro id _
    constructor
    · intro key device held
      cases (inactive key).symm.trans held
    · intro key record held
      rw [DefaultConnectableDeviceStore.removeAll,
        DefaultConnectableDeviceStore.lookup_store,
        DefaultConnectableDeviceStore.surviving_eq_some_iff] at held
      cases held.1

/-- A write of a device that is known by none of the ids that stay removed. -/
theorem Forgetful.of_wrote {session : RemovalSession}
    (forgetful : session.Forgetful) {device : Ref ConnectableDevice}
    (allocated : session.memory.devices.Allocated device) {now : TimeInterval}
    {store : DefaultConnectableDeviceStore}
    (wrote : DefaultConnectableDeviceStore.Wrote session.memory device now
      session.store store)
    {forgotten : String → Bool}
    (unknown : ∀ id, forgotten id = true → session.forgotten id = true ∧
      knownBy session.memory device id = false) :
    Forgetful { session with store, forgotten } where
  records := wrote.holdsRecords forgetful.records
  wellFormed := forgetful.wellFormed
  allocated := by
    intro key other held
    rcases wrote.active key other held with old | ⟨_, rfl⟩
    · exact forgetful.allocated key other old
    · exact allocated
  gone := by
    intro id removed
    rcases unknown id removed with ⟨before, apart⟩
    rw [knownBy_eq_false_iff] at apart
    exact (forgetful.gone id before).of_wrote wrote apart.1 apart.2

/-- Making a device active that is known by none of the ids that stay
removed. -/
theorem Forgetful.of_activate {session : RemovalSession}
    (forgetful : session.Forgetful) {device : Ref ConnectableDevice}
    (allocated : session.memory.devices.Allocated device)
    {forgotten : String → Bool}
    (unknown : ∀ id, forgotten id = true → session.forgotten id = true ∧
      knownBy session.memory device id = false) :
    Forgetful
      { session with
        store := session.store.activate session.memory device
        forgotten } where
  records := by
    rw [DefaultConnectableDeviceStore.HoldsRecords,
      DefaultConnectableDeviceStore.activate_storedDevices]
    exact forgetful.records
  wellFormed := forgetful.wellFormed
  allocated := by
    intro key other held
    rcases DefaultConnectableDeviceStore.activate_active held with
      old | ⟨_, rfl⟩
    · exact forgetful.allocated key other old
    · exact allocated
  gone := by
    intro id removed
    rcases unknown id removed with ⟨before, apart⟩
    rw [knownBy_eq_false_iff] at apart
    have gone := forgetful.gone id before
    constructor
    · intro key other held
      rcases DefaultConnectableDeviceStore.activate_active held with
        old | ⟨rfl, rfl⟩
      · exact gone.active key other old
      · exact apart
    · intro key record held
      rw [DefaultConnectableDeviceStore.activate_storedDevices] at held
      exact gone.stored key record held

theorem Forgetful.addDevice {session : RemovalSession}
    (forgetful : session.Forgetful) {device : Ref ConnectableDevice}
    (allocated : session.memory.devices.Allocated device) {now : TimeInterval}
    {store : DefaultConnectableDeviceStore}
    (added : session.store.addDevice session.memory device now = some store) :
    Forgetful
      { session with
        store, forgotten := session.forgottenAfter (.addDevice device now) } := by
  have unknown : ∀ id, session.forgottenAfter (.addDevice device now) id = true →
      session.forgotten id = true ∧ knownBy session.memory device id = false := by
    intro id removed
    simpa [forgottenAfter] using removed
  rcases DefaultConnectableDeviceStore.addDevice_cases added with
    rfl | rfl | wrote
  · exact ⟨forgetful.records, forgetful.wellFormed, forgetful.allocated,
      fun id removed => forgetful.gone id (unknown id removed).1⟩
  · exact forgetful.of_activate allocated unknown
  · exact forgetful.of_wrote allocated wrote unknown

theorem Forgetful.updateDevice {session : RemovalSession}
    (forgetful : session.Forgetful) {device : Ref ConnectableDevice}
    {now : TimeInterval} (permitted : session.Permits (.updateDevice device now))
    {store : DefaultConnectableDeviceStore}
    (updated : session.store.updateDevice session.memory device now =
      some store) : Forgetful { session with store } := by
  rcases permitted with ⟨allocated, unserved⟩
  rcases DefaultConnectableDeviceStore.updateDevice_cases updated with
    rfl | ⟨wrote, info, found, notNull⟩
  · exact forgetful
  · refine forgetful.of_wrote allocated wrote fun id removed => ⟨removed, ?_⟩
    rw [knownBy_eq_false_iff]
    constructor
    · rintro rfl
      have absent :=
        DefaultConnectableDeviceStore.storedDeviceForUUID_eq_none_iff.mpr
          (forgetful.gone _ removed).stored
      cases absent.symm.trans found
    · intro service member identified
      have kept := unserved info found notNull service member id identified
      cases kept.symm.trans removed

/-- Restoring a device from a record changes nothing for the others. -/
theorem Forgetful.restore {session : RemovalSession}
    (forgetful : session.Forgetful) (record : JSON) (guid : String) :
    Forgetful
      { session with memory := session.memory.initWithJSONObject record guid } where
  records := forgetful.records
  wellFormed := forgetful.wellFormed.initWithJSONObject record guid
  allocated := fun key device held =>
    (forgetful.allocated key device held).allocate _
  gone := by
    intro id removed
    have gone := forgetful.gone id removed
    refine ⟨?_, gone.stored⟩
    intro key device held
    have allocated := forgetful.allocated key device held
    refine ⟨(gone.active key device held).1, fun service member => ?_⟩
    rw [Memory.services_initWithJSONObject_other record guid allocated] at member
    rw [forgetful.wellFormed.serviceUUID_initWithJSONObject record guid allocated
      member]
    exact (gone.active key device held).2 service member

theorem Forgetful.deviceForId {session : RemovalSession}
    (forgetful : session.Forgetful) {id : Option String} {guid : String}
    (permitted : session.Permits (.deviceForId id guid)) :
    Forgetful
      { session with
        memory := (session.store.deviceForId session.memory id guid).2.1
        store := (session.store.deviceForId session.memory id guid).2.2 } := by
  have answer := session.store.deviceForId_forId session.memory id guid
  generalize session.store.deviceForId session.memory id guid = result at answer
  cases answer with
  | nothing => exact forgetful
  | @inUse uuid device filled active =>
      have apart := permitted uuid rfl (by rintro rfl; simp at filled)
      rw [active] at apart
      rcases DefaultConnectableDeviceStore.activeDeviceForUUID_active active with
        ⟨key, held⟩
      refine forgetful.of_activate (forgetful.allocated key device held)
        fun id removed => ⟨removed, ?_⟩
      rw [knownBy_eq_false_iff]
      refine ⟨?_, ((forgetful.gone id removed).active key device held).2⟩
      rintro rfl
      cases apart.symm.trans removed
  | @restored uuid record filled unused stored =>
      have apart := permitted uuid rfl (by rintro rfl; simp at filled)
      rw [unused] at apart
      refine (forgetful.restore record guid).of_activate
        (Heap.allocated_fresh session.memory.devices _)
        fun id removed => ⟨removed, ?_⟩
      rw [knownBy_eq_false_iff]
      constructor
      · rintro rfl
        simp only [Memory.initWithJSONObject, Heap.read_allocate_fresh] at removed
        cases (apart record stored).symm.trans removed
      · intro service member
        rw [Memory.services_initWithJSONObject_fresh] at member
        cases member

theorem Forgetful.change {session : RemovalSession}
    (forgetful : session.Forgetful) {memory : Memory}
    (permitted : session.Permits (.change memory)) :
    Forgetful { session with memory } where
  records := forgetful.records
  wellFormed := permitted.1.wellFormed
  allocated := fun key device held =>
    permitted.1.allocated device (forgetful.allocated key device held)
  gone := by
    intro id removed
    have gone := forgetful.gone id removed
    refine ⟨fun key device held => ⟨(gone.active key device held).1, ?_⟩,
      gone.stored⟩
    intro service member identified
    have kept := permitted.2 key device held service member id identified
    cases kept.symm.trans removed

/-- Setting `lastConnected` is a change that touches no service. -/
theorem Forgetful.connected {session : RemovalSession}
    (forgetful : session.Forgetful) {device : Ref ConnectableDevice}
    (allocated : session.memory.devices.Allocated device)
    (connected : TimeInterval) :
    Forgetful
      { session with
        memory := session.memory.modifyDevice device fun object =>
          { object with lastConnected := connected } } := by
  have services : ∀ other,
      (session.memory.modifyDevice device fun object =>
        { object with lastConnected := connected }).services other =
        session.memory.services other := by
    intro other
    rw [Memory.services, Memory.modifyDevice]
    by_cases same : other = device
    · subst same
      rw [Heap.read_modify_self]
      rfl
    · rw [Heap.read_modify_of_ne same]
      rfl
  refine ⟨forgetful.records, ?_, forgetful.allocated, fun id removed => ⟨?_, ?_⟩⟩
  · refine (forgetful.wellFormed.modifyProperties allocated ?_).wellFormed
    exact fun _ => ⟨rfl, rfl⟩
  · intro key other held
    rw [services other]
    exact (forgetful.gone id removed).active key other held
  · exact (forgetful.gone id removed).stored

theorem step_forgetful {session next : RemovalSession} {call : StoreCall}
    (forgetful : session.Forgetful) (permitted : session.Permits call)
    (taken : session.step call = some next) : next.Forgetful := by
  rcases Option.map_eq_some_iff.mp taken with ⟨after, stepped, rfl⟩
  cases call with
  | change memory =>
      cases stepped
      exact forgetful.change permitted
  | addDevice device now =>
      rcases Option.map_eq_some_iff.mp stepped with ⟨store, added, rfl⟩
      exact forgetful.addDevice permitted added
  | updateDevice device now =>
      rcases Option.map_eq_some_iff.mp stepped with ⟨store, updated, rfl⟩
      exact forgetful.updateDevice permitted updated
  | deviceForId id guid =>
      cases stepped
      exact forgetful.deviceForId permitted
  | removeDevice device now =>
      cases stepped
      exact forgetful.removeDevice permitted
  | removeAll now =>
      cases stepped
      exact forgetful.removeAll now permitted
  | setMaxStoreDuration maxStoreDuration now =>
      cases stepped
      refine forgetful.of_surviving rfl fun key record held => ?_
      rw [DefaultConnectableDeviceStore.setMaxStoreDuration,
        DefaultConnectableDeviceStore.lookup_deleteOldUnusedDevices] at held
      exact (DefaultConnectableDeviceStore.surviving_eq_some_iff.mp held).1
  | connectionSuccess device stored connected =>
      rw [StoreSession.step, StoreSession.deviceServiceConnectionSuccess] at stepped
      cases ready : session.memory.connected device with
      | false =>
          rw [ready, if_neg (by simp), Option.some.injEq] at stepped
          subst stepped
          refine ⟨forgetful.records, forgetful.wellFormed, forgetful.allocated,
            fun id removed => ?_⟩
          have before : session.forgotten id = true := by
            simpa [forgottenAfter, ready] using removed
          exact forgetful.gone id before
      | true =>
          rw [ready, if_pos rfl] at stepped
          rcases Option.map_eq_some_iff.mp stepped with ⟨store, added, rfl⟩
          have kept := (forgetful.addDevice permitted added).connected permitted
            connected
          simpa [forgottenAfter, ready] using kept
  | load file now =>
      cases stepped
      refine ⟨permitted, forgetful.wellFormed, ?_, fun id removed => by cases removed⟩
      intro key device held
      cases (DefaultConnectableDeviceStore.load_activeDevices file now
      key).symm.trans held

/-- What was removed stays forgotten until it is added again. -/
theorem run_forgets {file : DeviceStoreFile} {now : TimeInterval}
    (records : (DefaultConnectableDeviceStore.load file now).HoldsRecords)
    {calls : List StoreCall} {final : RemovalSession}
    (permitted : EveryStep step Permits (start file now) calls)
    (reached : runFrom step (start file now) calls = some final) {id : String}
    (removed : final.forgotten id = true) :
    final.store.Forgets final.memory id := by
  have forgetful := runFrom_invariant (fun _ _ _ => step_forgetful)
    (start_forgetful records) permitted reached
  exact (forgetful.gone id removed).forgets forgetful.records

/-- The record of a device that was connected once, without services. -/
def connectedRecord : JSON :=
  .object [("id", .string "tv"), ("lastConnected", .number 1)]

theorem isRecord_connectedRecord : connectedRecord.IsRecord := by
  constructor
  · rfl
  · intro key listed time under
    rcases List.mem_pair.mp listed with rfl | rfl
    · cases under
      rfl
    · cases under
  · intro services impossible
    cases impossible
  · intro uuid service impossible
    cases impossible
  · intro uuid config impossible
    cases impossible

/-- A store file with the record of one device. -/
def oneRecord : DeviceStoreFile :=
  .contents (.object [("devices", .object [("tv", connectedRecord)])])

theorem load_oneRecord_holdsRecords (now : TimeInterval) :
    (DefaultConnectableDeviceStore.load oneRecord now).HoldsRecords := by
  have stored : (DefaultConnectableDeviceStore.load oneRecord now).storedDevices =
      AList.insert "tv" connectedRecord ∅ := rfl
  rw [DefaultConnectableDeviceStore.HoldsRecords, stored]
  exact (Dictionary.allValues_empty _).insert isRecord_connectedRecord

/-- Before anything was looked up, `removeAll` leaves nothing to find. -/
theorem removeAll_forgets :
    ∃ final, runFrom step (start oneRecord 1) [.removeAll 2] = some final ∧
      final.store.Forgets final.memory "tv" :=
  ⟨_, rfl, @run_forgets oneRecord 1 (load_oneRecord_holdsRecords 1)
    [.removeAll 2] _
    ⟨DefaultConnectableDeviceStore.load_activeDevices oneRecord 1, trivial⟩ rfl
    "tv" rfl⟩

/-- Device objects that a call is given exist, and a file holds records that can
be read. -/
def Legal (session : RemovalSession) : StoreCall → Prop
  | .change memory => session.memory.Extends memory
  | .addDevice device _ | .updateDevice device _ | .removeDevice device _
  | .connectionSuccess device _ _ => session.memory.devices.Allocated device
  | .load file now =>
      (DefaultConnectableDeviceStore.load file now).HoldsRecords
  | .deviceForId .. | .removeAll _ | .setMaxStoreDuration .. => True

/-- A device looked up by its id has no services yet, so removing it changes
nothing. -/
theorem removeDevice_keeps_record :
    ¬ ∀ (calls : List StoreCall) (final : RemovalSession) (id : String),
      EveryStep step Legal (start oneRecord 1) calls →
      runFrom step (start oneRecord 1) calls = some final →
      final.forgotten id = true → final.store.Forgets final.memory id := by
  intro forgets
  have removed := forgets
    [.deviceForId (some "tv") "guid", .removeDevice ⟨0⟩ 2] _ "tv"
    ⟨trivial, (by decide : 0 < 1), trivial⟩ rfl rfl
  have lookup := congrArg Option.isSome removed.storedDevices
  exact absurd lookup (by decide)

end RemovalSession

end ConnectSDK
