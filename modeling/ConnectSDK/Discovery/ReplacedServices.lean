import ConnectSDK.Devices.AttachedServices
import ConnectSDK.Discovery.Soundness

/-! # Services that are replaced

A description with another UUID replaces the service that a device has under its id. A
loss is matched by the id only, so a late one of the old service takes away the new one.
-/

namespace ConnectSDK

/-- The manager, and for each service id the UUID that was found last at an address,
unless a service of this id was lost there since. -/
structure ServiceWatch where
  manager : DiscoveryManager
  latest : String → Option (Option String)

/-- A provider finds or loses a service at an address. -/
def DiscoveryEvent.At (address : String) : DiscoveryEvent → Prop
  | .didFindService description _ _ _ => description.address = some address
  | .didLoseService description _ => description.address = some address
  | _ => False

namespace ServiceWatch

/-- The UUIDs of the services that the device at an address has. -/
def heldAt (manager : DiscoveryManager) (address : String) :
    String → Option (Option String) :=
  match manager.allDevices.lookup address with
  | none => fun _ => none
  | some device => manager.memory.attachedUUID device

def start (manager : DiscoveryManager) (address : String) : ServiceWatch where
  manager
  latest := heldAt manager address

/-- The history before a find. The first find at an address may be of a device that is in
use already, which comes with its services. -/
def latestBefore (watch : ServiceWatch) (address : String) (uuid : Option String) :
    String → Option (Option String) :=
  match watch.manager.allDevices.lookup address, watch.manager.knownDevice uuid with
  | none, some device => watch.manager.memory.attachedUUID device
  | _, _ => watch.latest

def latestAfter (watch : ServiceWatch) (address : String) (event : DiscoveryEvent)
    (serviceId : String) : Option (Option String) :=
  match event with
  | .didFindService description _ _ _ =>
      if watch.manager.acceptsDescription description = true ∧
          description.serviceId = some serviceId then
        some description.uuid
      else watch.latestBefore address description.uuid serviceId
  | .didLoseService description _ =>
      if description.serviceId = some serviceId then none else watch.latest serviceId
  | _ => watch.latest serviceId

def step {address : String} (watch : ServiceWatch)
    (event : { event : DiscoveryEvent // event.At address }) : Option ServiceWatch :=
  (watch.manager.step event.val).map fun next =>
    { manager := next, latest := watch.latestAfter address event.val }

/-- A loss removes no service but one with the lost id and UUID. -/
def RemovesOnlyLost {address : String} (watch : ServiceWatch)
    (event : { event : DiscoveryEvent // event.At address }) : Prop :=
  match event.val with
  | .didLoseService description now => ∀ device next,
      watch.manager.allDevices.lookup address = some device →
      watch.manager.step (.didLoseService description now) = some next →
      ∀ serviceId service,
        (watch.manager.memory.devices.read device).services.lookup serviceId =
            some service →
          (next.memory.devices.read device).services.lookup serviceId = some service ∨
            description.serviceId = some serviceId ∧
              watch.manager.memory.serviceUUID service = description.uuid
  | _ => True

/-- What is lost is what was found last under its id, or the id was lost before. -/
def LosesLatest {address : String} (watch : ServiceWatch)
    (event : { event : DiscoveryEvent // event.At address }) : Prop :=
  match event.val with
  | .didLoseService description _ =>
      match description.serviceId.bind watch.latest with
      | none => True
      | some uuid => uuid = description.uuid
  | _ => True

instance {address : String} (watch : ServiceWatch)
    (event : { event : DiscoveryEvent // event.At address }) :
    Decidable (watch.LosesLatest event) := by
  unfold LosesLatest
  split
  · split <;> infer_instance
  · infer_instance

end ServiceWatch

namespace DiscoveryManager

/-! ## Finding a device -/

/-- Finding a device rewrites no description. -/
theorem findDevice_reads (manager : DiscoveryManager) (address : String)
    (description : Ref ServiceDescription) (uuid : Option String) (guid : String)
    {reference : Ref ServiceDescription}
    (allocated : manager.memory.descriptions.Allocated reference) :
    (manager.findDevice address description uuid
        guid).manager.memory.descriptions.read reference =
      manager.memory.descriptions.read reference := by
  cases held : manager.allDevices.lookup address with
  | some device => simp only [findDevice, held]
  | none =>
      rcases manager.storedDevice_cases uuid guid with
        nothing | ⟨deviceStore, _, _, answered⟩
      · simp only [findDevice, held, nothing]
        rfl
      · simp only [findDevice, held, answered]
        have answer := deviceStore.deviceForId_forId manager.memory uuid guid
        generalize deviceStore.deviceForId manager.memory uuid guid = result at answer
        cases answer with
        | nothing => rfl
        | inUse filled active => rfl
        | restored filled unused stored => exact allocated.read_allocate _

/-- A device that was there before keeps its services when it is found, and a new one has
none. -/
theorem Sound.attachedUUID_findDevice {manager : DiscoveryManager} (sound : manager.Sound)
    (address : String) (description : ServiceDescription) (guid : String)
    {found : FoundDevice}
    (finding : findDevice
      { manager with memory := manager.memory.allocateDescription description }
      address manager.memory.descriptions.fresh description.uuid guid = found)
    (serviceId : String) :
    found.manager.memory.attachedUUID found.device serviceId =
      if manager.memory.devices.Allocated found.device then
        manager.memory.attachedUUID found.device serviceId
      else none := by
  have finds := sound.finds address description guid
  rw [finding] at finds
  by_cases known : manager.memory.devices.Allocated found.device
  · rw [if_pos known, Memory.attachedUUID, Memory.attachedUUID, (finds.unchanged known).1]
    cases held : (manager.memory.devices.read found.device).services.lookup serviceId with
    | none => rfl
    | some service =>
        have described := (sound.wellFormed.keyed _ known serviceId service held).1
        have reads := findDevice_reads
          { manager with memory := manager.memory.allocateDescription description }
          address manager.memory.descriptions.fresh description.uuid guid
          (described.allocate description)
        rw [finding] at reads
        rw [Option.map_some, Option.map_some, Memory.serviceUUID, Memory.serviceUUID, reads]
        exact congrArg (fun object : ServiceDescription => some object.uuid)
          (described.read_allocate description)
  · rw [if_neg known]
    apply (Memory.hasServices_eq_false_iff _ _).mp
    rw [Memory.hasServices, finds.bare known]
    rfl

/-- Registering a description that was found puts its UUID under its id. -/
theorem Sound.attachedUUID_registerFound {manager : DiscoveryManager}
    (sound : manager.Sound) {address : String} {description : ServiceDescription}
    (located : description.address = some address) {capabilities : List String}
    {now : TimeInterval} {guid : String} {found : FoundDevice}
    (registered : manager.registerFound address description capabilities now guid =
      some found) (serviceId : String) :
    found.manager.memory.attachedUUID found.device serviceId =
      if manager.acceptsDescription description = true ∧
          description.serviceId = some serviceId then
        some description.uuid
      else if manager.memory.devices.Allocated found.device then
        manager.memory.attachedUUID found.device serviceId
      else none := by
  have finds := sound.finds address description guid
  rcases registerFound_added registered with ⟨before, memory, finding, added, rfl⟩
  have attached :=
    sound.attachedUUID_findDevice address description guid finding serviceId
  rw [finding] at finds
  have unmoved : (before.manager.memory.modifyDevice before.device
      (manager.detect address now)).attachedUUID before.device serviceId =
        before.manager.memory.attachedUUID before.device serviceId := by
    apply Memory.attachedUUID_modifyDevice
    intro object
    rfl
  rcases finds.added located added with
    ⟨rejected, rfl⟩ | ⟨accepted, serviceClass, config, name, identified, result, _⟩
  · rw [rejected, if_neg (fun both => Bool.false_ne_true both.1)]
    exact unmoved.trans attached
  · have detected := finds.detected now
    have reads := finds.reads_detected now
    have registers := detected.wellFormed.attachedUUID_registerService
      (detected.allocated_iff.mpr finds.allocated) (by rw [reads, identified]) result
      serviceId
    rw [reads] at registers
    rw [accepted, identified]
    by_cases own : serviceId = name
    · rw [if_pos own] at registers
      rw [if_pos ⟨rfl, congrArg some own.symm⟩]
      exact registers
    · rw [if_neg own, unmoved, attached] at registers
      rw [if_neg (fun both => own (Option.some.inj both.2).symm)]
      exact registers

/-- At an address without a device, the one that the store knows is found. -/
theorem Sound.findDevice_known {manager : DiscoveryManager} (sound : manager.Sound)
    {address : String} (unlisted : manager.allDevices.lookup address = none)
    {description : ServiceDescription} {device : Ref ConnectableDevice}
    (known : manager.knownDevice description.uuid = some device) (guid : String) :
    (findDevice
      { manager with memory := manager.memory.allocateDescription description }
      address manager.memory.descriptions.fresh description.uuid guid).device =
        device := by
  unfold knownDevice at known
  split at known
  · rename_i deviceStore uuid use used identified
    split at known
    · cases known
    · rename_i filled
      have active := sound.activeDeviceForUUID_allocateDescription used description uuid
      simp only [findDevice, unlisted, storedDevice, use, used, identified,
        DefaultConnectableDeviceStore.deviceForId, filled, active, known]
      rfl
  · cases known

/-- The device that the store knows for a UUID is in use. -/
theorem knownDevice_active {manager : DiscoveryManager} {uuid : Option String}
    {device : Ref ConnectableDevice} (known : manager.knownDevice uuid = some device) :
    manager.Active device := by
  unfold knownDevice at known
  split at known
  · rename_i deviceStore uuid _ used
    split at known
    · cases known
    · rcases DefaultConnectableDeviceStore.activeDeviceForUUID_active known with ⟨id, held⟩
      exact ⟨deviceStore, id, used, held⟩
  · cases known

theorem registerFound_device {manager : DiscoveryManager} {address : String}
    {description : ServiceDescription} {capabilities : List String} {now : TimeInterval}
    {guid : String} {found : FoundDevice}
    (registered : manager.registerFound address description capabilities now guid =
      some found) :
    found.device = (findDevice
      { manager with memory := manager.memory.allocateDescription description }
      address manager.memory.descriptions.fresh description.uuid guid).device := by
  rcases Option.map_eq_some_iff.mp registered with ⟨memory, _, rfl⟩
  rfl

/-! ## What is listed after a report -/

theorem reporting_lose {manager : DiscoveryManager} {description : ServiceDescription}
    {address : String} (located : description.address = some address)
    {device : Ref ConnectableDevice}
    (listed : manager.allDevices.lookup address = some device) (now : TimeInterval) :
    manager.reporting (.didLoseService description now) = some
      { manager := manager.removeService device description.serviceId
        device
        report :=
          if (manager.removeService device
              description.serviceId).memory.hasServices device then
            .update now
          else .lose address } := by
  simp only [reporting, located, Option.bind_some, listed, Option.map_some]

/-- The address that a report takes off the list. -/
def delisted : DeviceReport → Option String
  | .add _ => none
  | .update _ => none
  | .withdraw address => some address
  | .lose address => some address

theorem outcome_allDevices {reporting : Reporting}
    {allDevices compatibleDevices : Dictionary String (Ref ConnectableDevice)}
    {sent : List DeviceNotification}
    (outcome : Outcome reporting allDevices compatibleDevices sent) (address : String) :
    allDevices.lookup address =
      if delisted reporting.report = some address then none
      else reporting.manager.allDevices.lookup address := by
  have erased : ∀ key, (reporting.manager.allDevices.erase key).lookup address =
      if some key = some address then none
      else reporting.manager.allDevices.lookup address := by
    intro key
    rw [Dictionary.lookup_erase_eq]
    by_cases own : address = key
    · rw [if_pos own, if_pos (congrArg some own.symm)]
    · rw [if_neg own, if_neg fun same => own (Option.some.inj same).symm]
  cases outcome with
  | ignored report _ => rw [report]; rfl
  | found report _ _ => rw [report]; rfl
  | updated report _ _ _ => rw [report]; rfl
  | admitted report _ _ _ => rw [report]; rfl
  | dropped report _ _ => rw [report]; rfl
  | withdrawn report => rw [report]; exact erased _
  | lost report => rw [report]; exact erased _

end DiscoveryManager

namespace ServiceWatch

open DiscoveryManager

/-! ## The history tells what the device holds -/

structure Tracks (address : String) (watch : ServiceWatch) : Prop where
  sound : watch.manager.Sound
  latest : watch.latest = heldAt watch.manager address

theorem heldAt_listed {manager : DiscoveryManager} {address : String}
    {device : Ref ConnectableDevice}
    (listed : manager.allDevices.lookup address = some device) :
    heldAt manager address = manager.memory.attachedUUID device := by
  rw [heldAt, listed]

theorem heldAt_unlisted {manager : DiscoveryManager} {address : String}
    (unlisted : manager.allDevices.lookup address = none) (serviceId : String) :
    heldAt manager address serviceId = none := by
  rw [heldAt, unlisted]

/-- A report at the address keeps the history true, when the services of the reported
device are what the new history says and the device goes off the list with its last
service. -/
theorem Tracks.reported {address : String} {watch : ServiceWatch}
    (tracks : watch.Tracks address) {reporting : Reporting} {next : DiscoveryManager}
    {latest : String → Option (Option String)}
    (performed : reporting.perform = some next)
    (changed : Changed reporting.device watch.manager reporting.manager)
    (here : reporting.manager.allDevices.lookup address = some reporting.device)
    (delists : delisted reporting.report =
      if reporting.manager.memory.hasServices reporting.device then none else some address)
    (attached : ∀ serviceId,
      reporting.manager.memory.attachedUUID reporting.device serviceId =
        latest serviceId) :
    Tracks address { manager := next, latest } := by
  refine ⟨tracks.sound.reported changed performed, ?_⟩
  rcases reporting.perform_outcome performed with
    ⟨_, allDevices, compatibleDevices, sent, outcome, effect⟩
  have lists := outcome_allDevices outcome address
  rw [← effect.allDevices, delists] at lists
  funext serviceId
  dsimp only
  rw [← attached serviceId]
  cases has : reporting.manager.memory.hasServices reporting.device with
  | false =>
      rw [has, if_neg Bool.false_ne_true, if_pos rfl] at lists
      rw [heldAt_unlisted lists]
      exact (Memory.hasServices_eq_false_iff _ _).mp has serviceId
  | true =>
      rw [has, if_pos rfl, if_neg (fun same => by cases same), here] at lists
      rw [heldAt_listed lists, effect.memory]

/-- A device that is found comes with the services that the history says it has. -/
theorem Tracks.held {address : String} {watch : ServiceWatch}
    (tracks : watch.Tracks address) {description : ServiceDescription} {guid : String}
    {found : FoundDevice}
    (registers : Registers watch.manager address description found)
    (same : found.device = (findDevice
      { watch.manager with
        memory := watch.manager.memory.allocateDescription description }
      address watch.manager.memory.descriptions.fresh description.uuid guid).device)
    (serviceId : String) :
    (if watch.manager.memory.devices.Allocated found.device then
        watch.manager.memory.attachedUUID found.device serviceId
      else none) = watch.latestBefore address description.uuid serviceId := by
  rw [latestBefore]
  rcases registers.listed with ⟨listed, _⟩ | ⟨unlisted, _, _, known⟩
  · rw [if_pos (tracks.sound.listed address _ listed), listed, tracks.latest,
      heldAt_listed listed]
  · rw [unlisted]
    cases stored : watch.manager.knownDevice description.uuid with
    | some device =>
        have own := same.trans (tracks.sound.findDevice_known unlisted stored guid)
        have inUse := knownDevice_active stored
        rw [own, if_pos (tracks.sound.active device inUse)]
    | none =>
        have unallocated : ¬ watch.manager.memory.devices.Allocated found.device := by
          intro allocated
          cases stored.symm.trans (known allocated)
        rw [if_neg unallocated]
        dsimp only
        rw [tracks.latest, heldAt_unlisted unlisted]

theorem attachedUUID_removeService (manager : DiscoveryManager)
    (device : Ref ConnectableDevice) (removed : Option String) (serviceId : String) :
    (manager.removeService device removed).memory.attachedUUID device serviceId =
      if removed = some serviceId then none
      else manager.memory.attachedUUID device serviceId := by
  cases removed with
  | none => rfl
  | some name =>
      rw [removeService, Memory.attachedUUID_removeServiceWithId]
      by_cases own : serviceId = name
      · rw [if_pos own, if_pos (congrArg some own.symm)]
      · rw [if_neg own, if_neg fun same => own (Option.some.inj same).symm]

theorem Tracks.find {address : String} {watch : ServiceWatch}
    (tracks : watch.Tracks address) {description : ServiceDescription}
    (located : description.address = some address) {capabilities : List String}
    {now : TimeInterval} {guid : String} {next : DiscoveryManager}
    (stepped : watch.manager.step
      (.didFindService description capabilities now guid) = some next) :
    Tracks address
      { manager := next
        latest := watch.latestAfter address
          (.didFindService description capabilities now guid) } := by
  cases registered : watch.manager.registerFound address description capabilities now
      guid with
  | none =>
      simp [DiscoveryManager.step, didFindService, located, registered] at stepped
  | some found =>
      have reports : watch.manager.reporting
          (.didFindService description capabilities now guid) = some
            { manager := found.manager
              device := found.device
              report :=
                if found.manager.memory.hasServices found.device then
                  if found.deviceIsNew then .add address else .update now
                else .withdraw address } := by
        simp only [reporting, located, Option.bind_some, registered, Option.map_some]
      rw [step_eq_perform reports] at stepped
      have registers := tracks.sound.registers located registered
      have same := registerFound_device registered
      refine tracks.reported stepped registers.changed ?_ ?_ ?_
      · dsimp only
        rcases registers.listed with ⟨listed, _, same⟩ | ⟨_, _, inserted, _⟩
        · rw [same, listed]
        · rw [inserted, Dictionary.lookup_insert_eq, if_pos rfl]
      · cases found.manager.memory.hasServices found.device <;>
          cases found.deviceIsNew <;> rfl
      · intro serviceId
        rw [latestAfter, ← tracks.held registers same serviceId]
        exact tracks.sound.attachedUUID_registerFound located registered serviceId

theorem Tracks.lose {address : String} {watch : ServiceWatch}
    (tracks : watch.Tracks address) {description : ServiceDescription}
    (located : description.address = some address) {now : TimeInterval}
    {next : DiscoveryManager}
    (stepped : watch.manager.step (.didLoseService description now) = some next) :
    Tracks address
      { manager := next
        latest := watch.latestAfter address (.didLoseService description now) } := by
  cases listed : watch.manager.allDevices.lookup address with
  | none =>
      simp only [DiscoveryManager.step, didLoseService, located, listed,
        Option.some.injEq] at stepped
      refine ⟨stepped ▸ tracks.sound, ?_⟩
      rw [← stepped]
      funext serviceId
      dsimp only [latestAfter]
      rw [tracks.latest, heldAt_unlisted listed, ite_self]
  | some device =>
      have reports := reporting_lose located listed now
      rw [step_eq_perform reports] at stepped
      have allocated := tracks.sound.listed address device listed
      refine tracks.reported stepped
        (tracks.sound.removeService_changed allocated description.serviceId) ?_ ?_ ?_
      · dsimp only
        cases description.serviceId <;> exact listed
      · dsimp only
        cases (watch.manager.removeService device
          description.serviceId).memory.hasServices device <;> rfl
      · intro serviceId
        dsimp only [latestAfter]
        rw [tracks.latest, heldAt_listed listed]
        exact attachedUUID_removeService watch.manager device _ serviceId

theorem Tracks.step {address : String} {watch next : ServiceWatch}
    (tracks : watch.Tracks address)
    {event : { event : DiscoveryEvent // event.At address }}
    (taken : watch.step event = some next) : next.Tracks address := by
  rcases Option.map_eq_some_iff.mp taken with ⟨manager, stepped, rfl⟩
  rcases event with ⟨event, here⟩
  cases event with
  | didFindService description capabilities now guid => exact tracks.find here stepped
  | didLoseService description now => exact tracks.lose here stepped
  | setCapabilityFilters _ => cases here
  | detectSSIDChange _ => cases here
  | capabilitiesChanged _ _ _ _ _ => cases here
  | devicePicker => cases here
  | setDeviceStore _ => cases here

/-! ## Which losses are of the service that is there -/

/-- Of the services of the device a loss removes the one under its id, whatever its
UUID. -/
theorem loses_services {manager next : DiscoveryManager} {description : ServiceDescription}
    {address : String} (located : description.address = some address) {now : TimeInterval}
    {device : Ref ConnectableDevice}
    (listed : manager.allDevices.lookup address = some device)
    (stepped : manager.step (.didLoseService description now) = some next)
    (serviceId : String) :
    (next.memory.devices.read device).services.lookup serviceId =
      if description.serviceId = some serviceId then none
      else (manager.memory.devices.read device).services.lookup serviceId := by
  have reports := reporting_lose located listed now
  rw [step_eq_perform reports] at stepped
  rcases Reporting.perform_outcome stepped with ⟨_, _, _, _, _, effect⟩
  rw [effect.memory]
  cases description.serviceId with
  | none => rfl
  | some name =>
      rw [removeService, Memory.removeServiceWithId_services, Dictionary.lookup_erase_eq]
      by_cases own : serviceId = name
      · rw [if_pos own, if_pos (congrArg some own.symm)]
      · rw [if_neg own, if_neg fun same => own (Option.some.inj same).symm]

/-- Where the history is true, a loss removes only what is lost exactly when it is of
what was found last. -/
theorem Tracks.losesLatest_iff {address : String} {watch next : ServiceWatch}
    (tracks : watch.Tracks address)
    {event : { event : DiscoveryEvent // event.At address }}
    (taken : watch.step event = some next) :
    watch.LosesLatest event ↔ watch.RemovesOnlyLost event := by
  rcases Option.map_eq_some_iff.mp taken with ⟨manager, stepped, _⟩
  rcases event with ⟨event, here⟩
  cases event with
  | didFindService _ _ _ _ => exact Iff.rfl
  | setCapabilityFilters _ => cases here
  | detectSSIDChange _ => cases here
  | capabilitiesChanged _ _ _ _ _ => cases here
  | devicePicker => cases here
  | setDeviceStore _ => cases here
  | didLoseService description now =>
      constructor
      · intro latest device next listed stepped serviceId service held
        rw [loses_services here listed stepped serviceId]
        by_cases own : description.serviceId = some serviceId
        · right
          refine ⟨own, ?_⟩
          dsimp only [LosesLatest] at latest
          rw [own, Option.bind_some, tracks.latest, heldAt_listed listed,
            Memory.attachedUUID, held] at latest
          exact latest
        · left
          rw [if_neg own]
          exact held
      · intro removes
        dsimp only [LosesLatest]
        cases identified : description.serviceId with
        | none => trivial
        | some serviceId =>
            cases latest : watch.latest serviceId with
            | none =>
                rw [Option.bind_some, latest]
                trivial
            | some uuid =>
                rw [Option.bind_some, latest]
                rw [tracks.latest] at latest
                cases listed : watch.manager.allDevices.lookup address with
                | none => cases (heldAt_unlisted listed serviceId).symm.trans latest
                | some device =>
                    rw [heldAt_listed listed] at latest
                    rcases Option.map_eq_some_iff.mp latest with ⟨service, held, same⟩
                    rcases removes device manager listed stepped serviceId service held
                      with kept | ⟨_, own⟩
                    · rw [loses_services here listed stepped serviceId,
                        if_pos identified] at kept
                      cases kept
                    · exact same.symm.trans own

/-- Every loss removes only the service that is lost, exactly as long as every loss is of
what was found last. -/
theorem run_removesOnlyLost_iff {manager : DiscoveryManager} (sound : manager.Sound)
    {address : String} {events : List { event : DiscoveryEvent // event.At address }}
    {final : ServiceWatch}
    (reached : runFrom step (start manager address) events = some final) :
    EveryStep step LosesLatest (start manager address) events ↔
      EveryStep step RemovesOnlyLost (start manager address) events := by
  have initially : Tracks address (start manager address) := ⟨sound, rfl⟩
  exact everyStep_congr (fun _ _ _ tracks taken => tracks.step taken)
    (fun _ _ _ tracks taken => tracks.losesLatest_iff taken) initially reached

/-- A Roku of some UUID, found or lost at one address. -/
def rokuOf (uuid : String) : ServiceDescription :=
  { rokuAt "10.0.0.1" with uuid := some uuid }

def foundRoku (uuid : String) (now : TimeInterval) :
    { event : DiscoveryEvent // event.At "10.0.0.1" } :=
  ⟨.didFindService (rokuOf uuid) rokuCapabilities now "guid", rfl⟩

def lostRoku (uuid : String) (now : TimeInterval) :
    { event : DiscoveryEvent // event.At "10.0.0.1" } :=
  ⟨.didLoseService (rokuOf uuid) now, rfl⟩

/-- A manager that knows Roku players and uses no store. -/
def rokuManager : DiscoveryManager where
  memory := .empty
  deviceClasses := rokuClasses
  useDeviceStore := false

theorem rokuManager_sound : rokuManager.Sound := by
  apply Initial.sound
  refine ⟨Memory.wellFormed_empty, rfl, rfl, ?_, rfl, rfl⟩
  intro device active
  rcases active with ⟨deviceStore, id, used, held⟩
  cases used

/-- A service that is lost before another one replaces it is removed, and the other one
stays until its own loss. -/
theorem run_removesOnlyLost_replaced :
    EveryStep step RemovesOnlyLost (start rokuManager "10.0.0.1")
      [foundRoku "old" 1, lostRoku "old" 2, foundRoku "new" 3, lostRoku "new" 4] := by
  have completes : (runFrom step (start rokuManager "10.0.0.1")
      [foundRoku "old" 1, lostRoku "old" 2, foundRoku "new" 3,
        lostRoku "new" 4]).isSome := by
    decide +kernel
  rcases Option.isSome_iff_exists.mp completes with ⟨final, reached⟩
  exact (run_removesOnlyLost_iff rokuManager_sound reached).mp (by decide +kernel)

/-- The loss of a service that was replaced removes the new one. -/
theorem late_loss_removes_new :
    ∃ found next device service,
      runFrom step (start rokuManager "10.0.0.1")
          [foundRoku "old" 1, foundRoku "new" 2] = some found ∧
        found.manager.allDevices.lookup "10.0.0.1" = some device ∧
        (found.manager.memory.devices.read device).services.lookup "Roku" =
          some service ∧
        found.manager.memory.serviceUUID service = some "new" ∧
        found.manager.step (lostRoku "old" 3).val = some next ∧
        (next.memory.devices.read device).services.lookup "Roku" = none ∧
        ¬ found.RemovesOnlyLost (lostRoku "old" 3) := by
  have violated : ∀ {found : ServiceWatch} {next : DiscoveryManager}
      {device : Ref ConnectableDevice} {service : DeviceService},
      found.manager.allDevices.lookup "10.0.0.1" = some device →
      (found.manager.memory.devices.read device).services.lookup "Roku" =
        some service →
      found.manager.memory.serviceUUID service = some "new" →
      found.manager.step (lostRoku "old" 3).val = some next →
      (next.memory.devices.read device).services.lookup "Roku" = none →
        ¬ found.RemovesOnlyLost (lostRoku "old" 3) := by
    intro found next device service listed held uuid stepped gone removes
    rcases removes device next listed stepped "Roku" service held with kept | ⟨_, same⟩
    · cases gone.symm.trans kept
    · exact absurd (uuid.symm.trans same) (by decide +kernel)
  exact ⟨_, _, _, _, rfl, rfl, rfl, rfl, rfl, rfl, violated rfl rfl rfl rfl rfl⟩

end ServiceWatch

end ConnectSDK
