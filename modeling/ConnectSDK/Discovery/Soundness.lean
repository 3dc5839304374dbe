import ConnectSDK.Discovery.DeviceReports

/-! # Events and device objects

An event changes one device object and leaves every other as it was, and every
device that the manager can reach goes on existing.
-/

namespace ConnectSDK

namespace DiscoveryManager

/-- The device objects that an event brings with it exist. -/
def Legal (manager : DiscoveryManager) : DiscoveryEvent → Prop
  | .capabilitiesChanged device _ _ _ _ => manager.memory.devices.Allocated device
  | .setDeviceStore deviceStore => ∀ device,
      { manager with deviceStore }.Active device →
        manager.memory.devices.Allocated device
  | .didFindService .. | .didLoseService .. | .setCapabilityFilters _
  | .detectSSIDChange _ | .devicePicker => True

/-- Before discovery starts nothing is listed and nobody was told anything. -/
structure Initial (manager : DiscoveryManager) : Prop where
  wellFormed : manager.memory.WellFormed
  allDevices : manager.allDevices = ∅
  compatibleDevices : manager.compatibleDevices = ∅
  active : ∀ device, manager.Active device →
    manager.memory.devices.Allocated device
  delegate : manager.delegate = true
  delegateReceived : manager.delegateReceived = []

theorem Initial.sound {manager : DiscoveryManager} (initial : manager.Initial) :
    manager.Sound where
  wellFormed := initial.wellFormed
  listed := fun address device held => by
    rw [initial.allDevices] at held
    simp at held
  compatible := fun address device held => by
    rw [initial.compatibleDevices] at held
    simp at held
  active := initial.active

/-- The manager with the default store, which has read its file. -/
def start (deviceClasses : Dictionary String DeviceServiceClass)
    (file : DeviceStoreFile) (now : TimeInterval) : DiscoveryManager where
  memory := .empty
  deviceClasses
  deviceStore := some (.load file now)

theorem start_initial (deviceClasses : Dictionary String DeviceServiceClass)
    (file : DeviceStoreFile) (now : TimeInterval) :
    (start deviceClasses file now).Initial where
  wellFormed := Memory.wellFormed_empty
  allDevices := rfl
  compatibleDevices := rfl
  active := by
    rintro device ⟨_, id, same, held⟩
    cases same
    cases (DefaultConnectableDeviceStore.load_activeDevices file now
      id).symm.trans held
  delegate := rfl
  delegateReceived := rfl

/-- Rewriting a device that the manager knows. -/
theorem changed_of_onlyChanges {manager : DiscoveryManager}
    {device : Ref ConnectableDevice} {memory : Memory}
    (changes : Memory.OnlyChanges device manager.memory memory)
    (allocated : manager.memory.devices.Allocated device) :
    Changed device manager { manager with memory } where
  touches := changes.touches
  allocated := changes.allocated_iff.mpr allocated
  active := fun _ active => .inl active
  listed := fun _ _ held => .inl held
  rest := rfl

theorem Sound.changed_refl {manager : DiscoveryManager} (sound : manager.Sound)
    {device : Ref ConnectableDevice}
    (allocated : manager.memory.devices.Allocated device) :
    Changed device manager manager :=
  changed_of_onlyChanges (.refl sound.wellFormed device) allocated

theorem Sound.removeService_changed {manager : DiscoveryManager}
    (sound : manager.Sound) {device : Ref ConnectableDevice}
    (allocated : manager.memory.devices.Allocated device)
    (serviceId : Option String) :
    Changed device manager (manager.removeService device serviceId) := by
  cases serviceId with
  | none => exact sound.changed_refl allocated
  | some serviceId =>
      exact changed_of_onlyChanges
        (sound.wellFormed.removeServiceWithId allocated serviceId) allocated

theorem Sound.changeCapabilities_changed {manager : DiscoveryManager}
    (sound : manager.Sound) {device : Ref ConnectableDevice}
    (allocated : manager.memory.devices.Allocated device) (serviceName : String)
    (added removed : List String) :
    Changed device manager
      (manager.changeCapabilities device serviceName added removed) := by
  cases held : (manager.memory.devices.read device).services.lookup serviceName with
  | none =>
      simp only [changeCapabilities, held]
      exact sound.changed_refl allocated
  | some service =>
      simp only [changeCapabilities, held]
      apply changed_of_onlyChanges _ allocated
      refine sound.wellFormed.modifyServices allocated (fun _ => rfl) ?_
      intro name other kept
      rw [Dictionary.lookup_insert_eq] at kept
      by_cases same : name = serviceName
      · rw [if_pos same, Option.some.injEq] at kept
        subst kept same
        exact sound.wellFormed.keyed device allocated name service held
      · rw [if_neg same] at kept
        exact sound.wellFormed.keyed device allocated name other kept

theorem removeService_address (manager : DiscoveryManager)
    (device : Ref ConnectableDevice) (serviceId : Option String) :
    (manager.removeService device serviceId).memory.address device =
      manager.memory.address device := by
  cases serviceId with
  | none => rfl
  | some serviceId => exact Memory.modifyDevice_address fun _ => rfl

theorem removeService_allDevices (manager : DiscoveryManager)
    (device : Ref ConnectableDevice) (serviceId : Option String) :
    (manager.removeService device serviceId).allDevices = manager.allDevices := by
  cases serviceId <;> rfl

theorem changeCapabilities_address (manager : DiscoveryManager)
    (device : Ref ConnectableDevice) (serviceName : String)
    (added removed : List String) :
    (manager.changeCapabilities device serviceName added
        removed).memory.address device = manager.memory.address device := by
  rw [changeCapabilities]
  cases (manager.memory.devices.read device).services.lookup serviceName with
  | none => rfl
  | some service => exact Memory.modifyDevice_address fun _ => rfl

theorem changeCapabilities_allDevices (manager : DiscoveryManager)
    (device : Ref ConnectableDevice) (serviceName : String)
    (added removed : List String) :
    (manager.changeCapabilities device serviceName added removed).allDevices =
      manager.allDevices := by
  rw [changeCapabilities]
  cases (manager.memory.devices.read device).services.lookup serviceName <;> rfl

/-- What an event does before it reports its device. -/
theorem Sound.changed {manager : DiscoveryManager} (sound : manager.Sound)
    {event : DiscoveryEvent} (legal : manager.Legal event) {reporting : Reporting}
    (reports : manager.reporting event = some reporting) :
    Changed reporting.device manager reporting.manager := by
  cases event with
  | didFindService description capabilities now guid =>
      rcases Option.bind_eq_some_iff.mp reports with ⟨address, located, registered⟩
      rcases Option.map_eq_some_iff.mp registered with ⟨found, same, rfl⟩
      exact (sound.registers located same).changed
  | didLoseService description now =>
      rcases Option.bind_eq_some_iff.mp reports with ⟨address, located, listed⟩
      rcases Option.map_eq_some_iff.mp listed with ⟨device, held, rfl⟩
      exact sound.removeService_changed (sound.listed address device held) _
  | capabilitiesChanged device serviceName added removed now =>
      cases reports
      exact sound.changeCapabilities_changed legal serviceName added removed
  | setCapabilityFilters _ => cases reports
  | detectSSIDChange _ => cases reports
  | devicePicker => cases reports
  | setDeviceStore _ => cases reports

/-! ## What a report does to the dictionaries -/

theorem outcome_listed {reporting : Reporting}
    {allDevices compatibleDevices : Dictionary String (Ref ConnectableDevice)}
    {sent : List DeviceNotification}
    (outcome : Outcome reporting allDevices compatibleDevices sent)
    {key : String} {device : Ref ConnectableDevice}
    (held : allDevices.lookup key = some device) :
    reporting.manager.allDevices.lookup key = some device ∧
      reporting.report ≠ .withdraw key := by
  cases outcome with
  | ignored report _ => exact ⟨held, by simp [report]⟩
  | found report _ _ => exact ⟨held, by simp [report]⟩
  | updated report _ _ _ => exact ⟨held, by simp [report]⟩
  | admitted report _ _ _ => exact ⟨held, by simp [report]⟩
  | dropped report _ _ => exact ⟨held, by simp [report]⟩
  | @withdrawn address report =>
      rw [Dictionary.lookup_erase_eq] at held
      by_cases same : key = address
      · simp [same] at held
      · rw [if_neg same] at held
        refine ⟨held, ?_⟩
        rw [report]
        intro equal
        cases equal
        exact same rfl
  | @lost address report =>
      rw [Dictionary.lookup_erase_eq] at held
      by_cases same : key = address
      · simp [same] at held
      · rw [if_neg same] at held
        exact ⟨held, by simp [report]⟩

/-- A new entry is the reported device, under its address. -/
theorem outcome_compatible {reporting : Reporting}
    {allDevices compatibleDevices : Dictionary String (Ref ConnectableDevice)}
    {sent : List DeviceNotification}
    (outcome : Outcome reporting allDevices compatibleDevices sent)
    {key : String} {device : Ref ConnectableDevice}
    (held : compatibleDevices.lookup key = some device) :
    reporting.manager.compatibleDevices.lookup key = some device ∨
      device = reporting.device ∧
        reporting.manager.memory.address reporting.device = some key := by
  have inserted : ∀ address,
      reporting.manager.memory.address reporting.device = some address →
      (reporting.manager.compatibleDevices.insert address
        reporting.device).lookup key = some device →
      reporting.manager.compatibleDevices.lookup key = some device ∨
        device = reporting.device ∧
          reporting.manager.memory.address reporting.device = some key := by
    intro address located held
    rw [Dictionary.lookup_insert_eq] at held
    by_cases same : key = address
    · rw [if_pos same, Option.some.injEq] at held
      exact .inr ⟨held.symm, by rw [same, located]⟩
    · rw [if_neg same] at held
      exact .inl held
  have erased : ∀ address,
      (reporting.manager.compatibleDevices.erase address).lookup key =
        some device →
      reporting.manager.compatibleDevices.lookup key = some device := by
    intro address held
    rw [Dictionary.lookup_erase_eq] at held
    by_cases same : key = address
    · simp [same] at held
    · rw [if_neg same] at held
      exact held
  cases outcome with
  | ignored _ _ => exact .inl held
  | found _ _ located => exact inserted _ located held
  | updated _ _ _ _ => exact .inl held
  | admitted _ _ located _ => exact inserted _ located held
  | dropped _ _ _ => exact .inl (erased _ held)
  | withdrawn _ => exact .inl held
  | lost _ => exact .inl (erased _ held)

/-! ## Every step -/

theorem active_of_deviceStore {before after : DiscoveryManager}
    (same : after.deviceStore = before.deviceStore)
    {device : Ref ConnectableDevice} (active : after.Active device) :
    before.Active device := by
  rcases active with ⟨deviceStore, id, used, held⟩
  exact ⟨deviceStore, id, same ▸ used, held⟩

theorem Sound.reported {manager next : DiscoveryManager} (sound : manager.Sound)
    {reporting : Reporting} (changed : Changed reporting.device manager
      reporting.manager) (performed : reporting.perform = some next) :
    next.Sound := by
  rcases reporting.perform_outcome performed with
    ⟨active, allDevices, compatibleDevices, sent, outcome, effect⟩
  have known : ∀ device, manager.memory.devices.Allocated device ∨
      device = reporting.device → next.memory.devices.Allocated device := by
    intro device reachable
    rw [effect.memory]
    rcases reachable with old | rfl
    · exact changed.touches.kept device old
    · exact changed.allocated
  constructor
  · rw [effect.memory]
    exact changed.touches.wellFormed
  · intro address device held
    rw [effect.allDevices] at held
    apply known
    rcases changed.listed address device (outcome_listed outcome held).1 with
      before | own
    · exact .inl (sound.listed address device before)
    · exact .inr own
  · intro address device held
    rw [effect.compatibleDevices] at held
    apply known
    rcases outcome_compatible outcome held with before | ⟨own, _⟩
    · rw [changed.compatibleDevices] at before
      exact .inl (sound.compatible address device before)
    · exact .inr own
  · intro device activeAfter
    apply known
    rcases active device activeAfter with before | own
    · exact (changed.active device before).imp (sound.active device) id
    · exact .inr own

theorem Sound.step {manager next : DiscoveryManager} (sound : manager.Sound)
    {event : DiscoveryEvent} (legal : manager.Legal event)
    (stepped : manager.step event = some next) : next.Sound := by
  cases step_reaction stepped with
  | reported reports performed =>
      exact sound.reported (sound.changed legal reports) performed
  | filtered set =>
      rcases setCapabilityFilters_cases set with
        ⟨stored, entries, filtered, _, effect⟩
      have memory : next.memory = manager.memory := effect.memory
      constructor
      · rw [memory]
        exact sound.wellFormed
      · intro address device held
        rw [memory]
        rw [effect.allDevices] at held
        exact sound.listed address device held
      · intro address device held
        rw [effect.compatibleDevices] at held
        rcases Dictionary.lookup_insertAll held with member | impossible
        · have listed : device ∈ manager.allDevices.values := by
            have mapped := List.mem_map_of_mem (f := Prod.snd) member
            rw [filtered] at mapped
            exact (List.mem_filter.mp mapped).1
          rcases Dictionary.mem_values_iff.mp listed with ⟨key, held⟩
          rw [memory]
          exact sound.listed key device held
        · simp at impossible
      · intro device active
        rw [memory]
        exact sound.active device (active_of_deviceStore stored active)
  | purged effect stored =>
      constructor
      · rw [effect.memory]
        exact sound.wellFormed
      · intro address device held
        rw [effect.allDevices] at held
        simp at held
      · intro address device held
        rw [effect.compatibleDevices] at held
        simp at held
      · intro device active
        rw [effect.memory]
        exact sound.active device (active_of_deviceStore stored active)
  | quiet effect stored =>
      constructor
      · rw [effect.memory]
        exact sound.wellFormed
      · intro address device held
        rw [effect.memory]
        rw [effect.allDevices] at held
        exact sound.listed address device held
      · intro address device held
        rw [effect.memory]
        rw [effect.compatibleDevices] at held
        exact sound.compatible address device held
      · intro device active
        rw [effect.memory]
        rcases stored with same | rfl
        · exact sound.active device (active_of_deviceStore same active)
        · exact legal device active

/-! ## A device to find -/

/-- A Roku at some address. -/
def rokuAt (address : String) : ServiceDescription where
  address := some address
  serviceId := some "Roku"
  uuid := some "roku"

/-- What `updateCapabilities` of a `RokuService` sets. -/
def rokuCapabilities : List String :=
  ["Launcher.App.List", "Launcher.App", "Launcher.App.Params", "Launcher.AppStore",
    "Launcher.AppStore.Params", "Launcher.App.Close", "MediaPlayer.Display.Image",
    "MediaPlayer.Play.Video", "MediaPlayer.Play.Audio", "MediaPlayer.Close",
    "MediaPlayer.MetaData.Title", "MediaControl.Play", "MediaControl.Pause",
    "MediaControl.Rewind", "MediaControl.FastForward", "TextInputControl.Send.Text",
    "TextInputControl.Send.Enter", "TextInputControl.Send.Delete", "KeyControl.Up",
    "KeyControl.Down", "KeyControl.Left", "KeyControl.Right", "KeyControl.OK",
    "KeyControl.Back", "KeyControl.Home", "KeyControl.Send.KeyCode"]

def rokuClasses : Dictionary String DeviceServiceClass :=
  AList.insert "Roku" .rokuService ∅

end DiscoveryManager

end ConnectSDK
