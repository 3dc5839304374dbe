import ConnectSDK.Discovery.DeviceRegistration

/-! # What an event reports

A discovery or capability event brings the services of one device up to date
and then reports that device: to the dictionary of compatible devices, to the
delegate and to the picker. The other events change no device.
-/

namespace ConnectSDK

inductive DeviceReport where
  | add (address : String)
  | update (now : TimeInterval)
  | withdraw (address : String)
  | lose (address : String)

/-- The manager when it is about to report a device. -/
structure Reporting where
  manager : DiscoveryManager
  device : Ref ConnectableDevice
  report : DeviceReport

namespace DiscoveryManager

def reporting (manager : DiscoveryManager) : DiscoveryEvent → Option Reporting
  | .didFindService description capabilities now guid =>
      description.address.bind fun address =>
        (manager.registerFound address description capabilities now guid).map
          fun found =>
            { manager := found.manager
              device := found.device
              report :=
                if found.manager.memory.hasServices found.device then
                  if found.deviceIsNew then .add address else .update now
                else .withdraw address }
  | .didLoseService description now =>
      description.address.bind fun address =>
        (manager.allDevices.lookup address).map fun device =>
          { manager := manager.removeService device description.serviceId
            device
            report :=
              if (manager.removeService device
                  description.serviceId).memory.hasServices device then
                .update now
              else .lose address }
  | .capabilitiesChanged device serviceName added removed now =>
      some
        { manager := manager.changeCapabilities device serviceName added removed
          device
          report := .update now }
  | .setCapabilityFilters _ | .detectSSIDChange _ | .devicePicker
  | .setDeviceStore _ => none

end DiscoveryManager

namespace Reporting

def perform (reporting : Reporting) : Option DiscoveryManager :=
  match reporting.report with
  | .add _ => reporting.manager.handleDeviceAdd reporting.device
  | .update now => reporting.manager.handleDeviceUpdate reporting.device now
  | .withdraw address =>
      some { reporting.manager with
        allDevices := reporting.manager.allDevices.erase address }
  | .lose address =>
      some (DiscoveryManager.handleDeviceLoss
        { reporting.manager with
          allDevices := reporting.manager.allDevices.erase address
          compatibleDevices := reporting.manager.compatibleDevices.erase address }
        reporting.device)

end Reporting

namespace DiscoveryManager

/-- An event that has a device to report does so. -/
theorem step_eq_perform {manager : DiscoveryManager} {event : DiscoveryEvent}
    {reporting : Reporting} (reports : manager.reporting event = some reporting) :
    manager.step event = reporting.perform := by
  cases event with
  | didFindService description capabilities now guid =>
      rcases Option.bind_eq_some_iff.mp reports with ⟨address, located, registered⟩
      rcases Option.map_eq_some_iff.mp registered with ⟨found, same, rfl⟩
      simp only [step, didFindService, located, same, Option.bind_some, reportFound,
        Reporting.perform]
      cases found.manager.memory.hasServices found.device <;>
        cases found.deviceIsNew <;> rfl
  | didLoseService description now =>
      rcases Option.bind_eq_some_iff.mp reports with ⟨address, located, listed⟩
      rcases Option.map_eq_some_iff.mp listed with ⟨device, held, rfl⟩
      simp only [step, didLoseService, located, held, loseService,
        Reporting.perform]
      cases (manager.removeService device
        description.serviceId).memory.hasServices device <;> rfl
  | capabilitiesChanged device serviceName added removed now =>
      cases reports
      rfl
  | setCapabilityFilters _ => cases reports
  | detectSSIDChange _ => cases reports
  | devicePicker => cases reports
  | setDeviceStore _ => cases reports

/-- Before its report an event has changed no list but that of all devices. -/
theorem reporting_rest {manager : DiscoveryManager} {event : DiscoveryEvent}
    {reporting : Reporting} (reports : manager.reporting event = some reporting) :
    reporting.manager =
      { manager with
        memory := reporting.manager.memory
        deviceStore := reporting.manager.deviceStore
        allDevices := reporting.manager.allDevices } := by
  cases event with
  | didFindService description capabilities now guid =>
      rcases Option.bind_eq_some_iff.mp reports with ⟨address, _, registered⟩
      rcases Option.map_eq_some_iff.mp registered with ⟨found, same, rfl⟩
      rcases Option.map_eq_some_iff.mp same with ⟨memory, _, rfl⟩
      have rest := findDevice_rest
        { manager with memory := manager.memory.allocateDescription description }
        address manager.memory.descriptions.fresh description.uuid guid
      dsimp only
      rw [rest]
  | didLoseService description now =>
      rcases Option.bind_eq_some_iff.mp reports with ⟨address, _, listed⟩
      rcases Option.map_eq_some_iff.mp listed with ⟨device, _, rfl⟩
      cases description.serviceId <;> rfl
  | capabilitiesChanged device serviceName added removed now =>
      cases reports
      simp only [changeCapabilities]
      cases (manager.memory.devices.read device).services.lookup serviceName <;> rfl
  | setCapabilityFilters _ => cases reports
  | detectSSIDChange _ => cases reports
  | devicePicker => cases reports
  | setDeviceStore _ => cases reports

/-- An event without a device to report is none of the providers' or services', or it
changes nothing. -/
theorem step_unreported {manager next : DiscoveryManager} {event : DiscoveryEvent}
    (reports : manager.reporting event = none) (stepped : manager.step event = some next) :
    next = manager ∨
      (∃ capabilityFilters, event = .setCapabilityFilters capabilityFilters ∧
        manager.setCapabilityFilters capabilityFilters = some next) ∨
      (∃ ssidName, event = .detectSSIDChange ssidName ∧
        next = manager.detectSSIDChange ssidName) ∨
      (event = .devicePicker ∧ next = manager.devicePicker) ∨
      ∃ deviceStore, event = .setDeviceStore deviceStore ∧
        next = manager.setDeviceStore deviceStore := by
  cases event with
  | didFindService description capabilities now guid =>
      cases located : description.address with
      | none => simp [step, didFindService, located] at stepped
      | some address =>
          simp only [reporting, located, Option.bind_some,
            Option.map_eq_none_iff] at reports
          simp [step, didFindService, located, reports] at stepped
  | didLoseService description now =>
      cases located : description.address with
      | none =>
          simp only [step, didLoseService, located, Option.some.injEq] at stepped
          exact Or.inl stepped.symm
      | some address =>
          simp only [reporting, located, Option.bind_some,
            Option.map_eq_none_iff] at reports
          simp only [step, didLoseService, located, reports, Option.some.injEq] at stepped
          exact Or.inl stepped.symm
  | setCapabilityFilters capabilityFilters =>
      exact Or.inr (Or.inl ⟨capabilityFilters, rfl, stepped⟩)
  | detectSSIDChange ssidName =>
      exact Or.inr (Or.inr (Or.inl ⟨ssidName, rfl, (Option.some.inj stepped).symm⟩))
  | capabilitiesChanged device serviceName added removed now => cases reports
  | devicePicker =>
      exact Or.inr (Or.inr (Or.inr (Or.inl ⟨rfl, (Option.some.inj stepped).symm⟩)))
  | setDeviceStore deviceStore =>
      exact Or.inr (Or.inr (Or.inr (Or.inr
        ⟨deviceStore, rfl, (Option.some.inj stepped).symm⟩)))

/-! ## What a report changes -/

/-- `after` has other dictionaries, has sent something to the delegate, and
otherwise differs in the store, the network and the picker at most. -/
structure Effect (before after : DiscoveryManager)
    (allDevices compatibleDevices : Dictionary String (Ref ConnectableDevice))
    (sent : List DeviceNotification) : Prop where
  memory : after.memory = before.memory
  capabilityFilters : after.capabilityFilters = before.capabilityFilters
  delegate : after.delegate = before.delegate
  allDevices : after.allDevices = allDevices
  compatibleDevices : after.compatibleDevices = compatibleDevices
  delegateReceived : before.delegate = true →
    after.delegateReceived = before.delegateReceived ++ sent

theorem Effect.deviceIsCompatible {before after : DiscoveryManager}
    {allDevices compatibleDevices : Dictionary String (Ref ConnectableDevice)}
    {sent : List DeviceNotification}
    (effect : Effect before after allDevices compatibleDevices sent)
    (device : Ref ConnectableDevice) :
    after.deviceIsCompatible device = before.deviceIsCompatible device := by
  rw [DiscoveryManager.deviceIsCompatible, DiscoveryManager.deviceIsCompatible,
    effect.capabilityFilters, effect.memory]

theorem Effect.refl (manager : DiscoveryManager) :
    Effect manager manager manager.allDevices manager.compatibleDevices [] :=
  ⟨rfl, rfl, rfl, rfl, rfl, fun _ => (List.append_nil _).symm⟩

theorem Effect.trans {before middle after : DiscoveryManager}
    {allDevices compatibleDevices allAfter compatibleAfter :
      Dictionary String (Ref ConnectableDevice)}
    {sent more : List DeviceNotification}
    (first : Effect before middle allDevices compatibleDevices sent)
    (second : Effect middle after allAfter compatibleAfter more) :
    Effect before after allAfter compatibleAfter (sent ++ more) where
  memory := second.memory.trans first.memory
  capabilityFilters := second.capabilityFilters.trans first.capabilityFilters
  delegate := second.delegate.trans first.delegate
  allDevices := second.allDevices
  compatibleDevices := second.compatibleDevices
  delegateReceived := fun delegate => by
    rw [second.delegateReceived (first.delegate.trans delegate),
      first.delegateReceived delegate, List.append_assoc]

/-- Sending more after the dictionaries have changed. -/
theorem Effect.send {before middle after : DiscoveryManager}
    {allDevices compatibleDevices : Dictionary String (Ref ConnectableDevice)}
    {sent more : List DeviceNotification}
    (first : Effect before middle allDevices compatibleDevices sent)
    (second : Effect middle after middle.allDevices middle.compatibleDevices more) :
    Effect before after allDevices compatibleDevices (sent ++ more) := by
  rw [first.allDevices, first.compatibleDevices] at second
  exact first.trans second

theorem Effect.of_lists {before middle after : DiscoveryManager}
    {allDevices compatibleDevices : Dictionary String (Ref ConnectableDevice)}
    {sent : List DeviceNotification}
    (same : middle = { before with
      deviceStore := middle.deviceStore
      allDevices
      compatibleDevices })
    (effect : Effect middle after middle.allDevices middle.compatibleDevices sent) :
    Effect before after allDevices compatibleDevices sent where
  memory := effect.memory.trans (by rw [same])
  capabilityFilters := effect.capabilityFilters.trans (by rw [same])
  delegate := effect.delegate.trans (by rw [same])
  allDevices := effect.allDevices.trans (by rw [same])
  compatibleDevices := effect.compatibleDevices.trans (by rw [same])
  delegateReceived := fun delegate => by
    rw [effect.delegateReceived (by rw [same]; exact delegate), same]

theorem effect_notifyDelegate (manager : DiscoveryManager)
    (notification : DeviceNotification) :
    Effect manager (manager.notifyDelegate notification) manager.allDevices
      manager.compatibleDevices [notification] := by
  cases delegate : manager.delegate <;> constructor <;>
    simp [notifyDelegate, delegate]

theorem effect_notifyPicker (manager : DiscoveryManager)
    (notification : DeviceNotification) :
    Effect manager (manager.notifyPicker notification) manager.allDevices
      manager.compatibleDevices [] := by
  cases picker : manager.currentPicker <;> constructor <;>
    simp [notifyPicker, picker]

theorem effect_notify (manager : DiscoveryManager)
    (notification : DeviceNotification) :
    Effect manager (manager.notify notification) manager.allDevices
      manager.compatibleDevices [notification] :=
  (effect_notifyDelegate manager notification).send
    (effect_notifyPicker (manager.notifyDelegate notification) notification)

@[simp] theorem notifyDelegate_deviceStore (manager : DiscoveryManager)
    (notification : DeviceNotification) :
    (manager.notifyDelegate notification).deviceStore = manager.deviceStore := by
  rw [notifyDelegate]
  cases manager.delegate <;> rfl

@[simp] theorem notifyPicker_deviceStore (manager : DiscoveryManager)
    (notification : DeviceNotification) :
    (manager.notifyPicker notification).deviceStore = manager.deviceStore := by
  rw [notifyPicker]
  cases manager.currentPicker <;> rfl

@[simp] theorem notify_deviceStore (manager : DiscoveryManager)
    (notification : DeviceNotification) :
    (manager.notify notification).deviceStore = manager.deviceStore := by
  rw [notify, notifyPicker_deviceStore, notifyDelegate_deviceStore]

end DiscoveryManager

/-- The dictionaries after a report, and what the delegate is sent. -/
inductive Outcome (reporting : Reporting) :
    Dictionary String (Ref ConnectableDevice) →
    Dictionary String (Ref ConnectableDevice) → List DeviceNotification → Prop
  | ignored {address : String} (report : reporting.report = .add address)
      (incompatible :
        reporting.manager.deviceIsCompatible reporting.device = false) :
      Outcome reporting reporting.manager.allDevices
        reporting.manager.compatibleDevices []
  | found {address key : String} (report : reporting.report = .add address)
      (compatible : reporting.manager.deviceIsCompatible reporting.device = true)
      (located : reporting.manager.memory.address reporting.device = some key) :
      Outcome reporting reporting.manager.allDevices
        (reporting.manager.compatibleDevices.insert key reporting.device)
        [.didFindDevice reporting.device]
  | updated {now : TimeInterval} {key : String} {listed : Ref ConnectableDevice}
      (report : reporting.report = .update now)
      (compatible : reporting.manager.deviceIsCompatible reporting.device = true)
      (located : reporting.manager.memory.address reporting.device = some key)
      (held : reporting.manager.compatibleDevices.lookup key = some listed) :
      Outcome reporting reporting.manager.allDevices
        reporting.manager.compatibleDevices [.didUpdateDevice reporting.device]
  | admitted {now : TimeInterval} {key : String}
      (report : reporting.report = .update now)
      (compatible : reporting.manager.deviceIsCompatible reporting.device = true)
      (located : reporting.manager.memory.address reporting.device = some key)
      (absent : reporting.manager.compatibleDevices.lookup key = none) :
      Outcome reporting reporting.manager.allDevices
        (reporting.manager.compatibleDevices.insert key reporting.device)
        [.didFindDevice reporting.device]
  | dropped {now : TimeInterval} {key : String}
      (report : reporting.report = .update now)
      (incompatible :
        reporting.manager.deviceIsCompatible reporting.device = false)
      (located : reporting.manager.memory.address reporting.device = some key) :
      Outcome reporting reporting.manager.allDevices
        (reporting.manager.compatibleDevices.erase key)
        [.didLoseDevice reporting.device]
  | withdrawn {address : String} (report : reporting.report = .withdraw address) :
      Outcome reporting (reporting.manager.allDevices.erase address)
        reporting.manager.compatibleDevices []
  | lost {address : String} (report : reporting.report = .lose address) :
      Outcome reporting (reporting.manager.allDevices.erase address)
        (reporting.manager.compatibleDevices.erase address)
        [.didLoseDevice reporting.device]

namespace DiscoveryManager

theorem handleDeviceAdd_cases {manager next : DiscoveryManager}
    {device : Ref ConnectableDevice}
    (handled : manager.handleDeviceAdd device = some next) :
    next.deviceStore = manager.deviceStore ∧
      (manager.deviceIsCompatible device = false ∧ next = manager ∨
        manager.deviceIsCompatible device = true ∧
          ∃ key, manager.memory.address device = some key ∧
            Effect manager next manager.allDevices
              (manager.compatibleDevices.insert key device)
              [.didFindDevice device]) := by
  cases compatible : manager.deviceIsCompatible device with
  | false =>
      simp only [handleDeviceAdd, compatible, Bool.false_eq_true, if_false,
        Option.some.injEq] at handled
      exact ⟨by rw [handled], .inl ⟨rfl, handled.symm⟩⟩
  | true =>
      cases located : manager.memory.address device with
      | none => simp [handleDeviceAdd, compatible, located] at handled
      | some key =>
          simp only [handleDeviceAdd, compatible, if_true, located,
            Option.some.injEq] at handled
          subst handled
          exact ⟨notify_deviceStore .., .inr ⟨rfl, key, rfl,
            (effect_notify _ _).of_lists rfl⟩⟩

theorem updateDeviceStore_active {manager next : DiscoveryManager}
    {device : Ref ConnectableDevice} {now : TimeInterval}
    (updated : manager.updateDeviceStore device now = some next) :
    next = { manager with deviceStore := next.deviceStore } ∧
      ∀ other, next.Active other → manager.Active other ∨ other = device := by
  cases used : manager.deviceStore with
  | none =>
      simp only [updateDeviceStore, used, Option.some.injEq] at updated
      subst updated
      exact ⟨rfl, fun _ active => .inl active⟩
  | some deviceStore =>
      simp only [updateDeviceStore, used] at updated
      rcases Option.map_eq_some_iff.mp updated with ⟨after, wrote, rfl⟩
      refine ⟨rfl, ?_⟩
      rintro other ⟨_, id, same, held⟩
      cases same
      rcases DefaultConnectableDeviceStore.updateDevice_cases wrote with
        rfl | ⟨written, _⟩
      · exact .inl ⟨after, id, used, held⟩
      · rcases written.active id other held with before | own
        · exact .inl ⟨deviceStore, id, used, before⟩
        · exact .inr own.2

/-- What becomes of the dictionaries does not depend on the store. -/
theorem outcome_of_deviceStore {manager : DiscoveryManager}
    {deviceStore : Option DefaultConnectableDeviceStore}
    {device : Ref ConnectableDevice} {report : DeviceReport}
    {allDevices compatibleDevices : Dictionary String (Ref ConnectableDevice)}
    {sent : List DeviceNotification}
    (outcome : Outcome
      { manager := { manager with deviceStore }, device, report } allDevices
      compatibleDevices sent) :
    Outcome { manager, device, report } allDevices compatibleDevices sent := by
  cases outcome with
  | ignored report incompatible => exact .ignored report incompatible
  | found report compatible located => exact .found report compatible located
  | updated report compatible located held =>
      exact .updated report compatible located held
  | admitted report compatible located absent =>
      exact .admitted report compatible located absent
  | dropped report incompatible located =>
      exact .dropped report incompatible located
  | withdrawn report => exact @Outcome.withdrawn ⟨manager, device, _⟩ _ report
  | lost report => exact @Outcome.lost ⟨manager, device, _⟩ _ report

theorem refreshDevice_outcome {manager next : DiscoveryManager}
    {device : Ref ConnectableDevice}
    (refreshed : manager.refreshDevice device = some next) (now : TimeInterval) :
    next.deviceStore = manager.deviceStore ∧
      ∃ allDevices compatibleDevices sent,
        Outcome { manager, device, report := .update now } allDevices
          compatibleDevices sent ∧
        Effect manager next allDevices compatibleDevices sent := by
  cases compatible : manager.deviceIsCompatible device with
  | true =>
      cases located : manager.memory.address device with
      | none =>
          simp [refreshDevice, compatible, located, handleDeviceAdd] at refreshed
      | some key =>
          cases held : manager.compatibleDevices.lookup key with
          | some other =>
              simp only [refreshDevice, compatible, if_true, located,
                Option.bind_some, held, Option.some.injEq] at refreshed
              subst refreshed
              exact ⟨notify_deviceStore .., _, _, _,
                .updated rfl compatible located held, effect_notify ..⟩
          | none =>
              simp only [refreshDevice, compatible, if_true, located,
                Option.bind_some, held] at refreshed
              rcases handleDeviceAdd_cases refreshed with
                ⟨stored, ⟨impossible, _⟩ | ⟨_, other, same, effect⟩⟩
              · cases compatible.symm.trans impossible
              · cases located.symm.trans same
                exact ⟨stored, _, _, _, .admitted rfl compatible located held,
                  effect⟩
  | false =>
      cases located : manager.memory.address device with
      | none => simp [refreshDevice, compatible, located] at refreshed
      | some key =>
          simp only [refreshDevice, compatible, Bool.false_eq_true, if_false,
            located, handleDeviceLoss, Option.some.injEq] at refreshed
          subst refreshed
          exact ⟨notify_deviceStore .., _, _, _, .dropped rfl compatible located,
            (effect_notify _ _).of_lists rfl⟩

end DiscoveryManager

/-- Whatever a report does has one of the outcomes. -/
theorem Reporting.perform_outcome {reporting : Reporting} {next : DiscoveryManager}
    (performed : reporting.perform = some next) :
    (∀ other, next.Active other →
      reporting.manager.Active other ∨ other = reporting.device) ∧
      ∃ allDevices compatibleDevices sent,
        Outcome reporting allDevices compatibleDevices sent ∧
        DiscoveryManager.Effect reporting.manager next allDevices
          compatibleDevices sent := by
  rcases reporting with ⟨manager, device, report⟩
  cases report with
  | add address =>
      rcases DiscoveryManager.handleDeviceAdd_cases performed with
        ⟨stored, ⟨incompatible, rfl⟩ | ⟨compatible, key, located, effect⟩⟩
      · exact ⟨fun _ active => .inl active, _, _, _, .ignored rfl incompatible,
          rfl, rfl, rfl, rfl, rfl, fun _ => (List.append_nil _).symm⟩
      · refine ⟨fun other active => .inl ?_, _, _, _,
          .found rfl compatible located, effect⟩
        rcases active with ⟨deviceStore, id, used, held⟩
        exact ⟨deviceStore, id, stored ▸ used, held⟩
  | update now =>
      rcases Option.bind_eq_some_iff.mp performed with ⟨updated, kept, refreshed⟩
      rcases DiscoveryManager.updateDeviceStore_active kept with ⟨same, active⟩
      rcases DiscoveryManager.refreshDevice_outcome refreshed now with
        ⟨stored, _, _, _, outcome, effect⟩
      refine ⟨?_, _, _, _,
        DiscoveryManager.outcome_of_deviceStore (same ▸ outcome), ?_⟩
      · rintro other ⟨deviceStore, id, used, held⟩
        exact active other ⟨deviceStore, id, stored ▸ used, held⟩
      · rw [same] at effect
        exact ⟨effect.memory, effect.capabilityFilters, effect.delegate,
          effect.allDevices, effect.compatibleDevices, effect.delegateReceived⟩
  | withdraw address =>
      cases performed
      exact ⟨fun _ active => .inl active, _, _, _, .withdrawn rfl, rfl, rfl, rfl,
        rfl, rfl, fun _ => (List.append_nil _).symm⟩
  | lose address =>
      cases performed
      refine ⟨fun other active => .inl ?_, _, _, _, .lost rfl,
        (DiscoveryManager.effect_notify _ _).of_lists rfl⟩
      rcases active with ⟨deviceStore, id, used, held⟩
      rw [DiscoveryManager.handleDeviceLoss,
        DiscoveryManager.notify_deviceStore] at used
      exact ⟨deviceStore, id, used, held⟩

namespace DiscoveryManager

/-! ## Events that report no device of their own -/

theorem foldl_notifyDelegate (notifications : List DeviceNotification)
    (manager : DiscoveryManager) :
    Effect manager (notifications.foldl notifyDelegate manager) manager.allDevices
        manager.compatibleDevices notifications ∧
      (notifications.foldl notifyDelegate manager).deviceStore =
        manager.deviceStore := by
  induction notifications generalizing manager with
  | nil =>
      exact ⟨.refl manager, rfl⟩
  | cons head tail induction =>
      rcases induction (manager.notifyDelegate head) with ⟨effect, stored⟩
      refine ⟨(effect_notifyDelegate manager head).send effect, ?_⟩
      rw [List.foldl_cons, stored, notifyDelegate_deviceStore]

theorem admitDevice_cases {manager next : DiscoveryManager}
    {device : Ref ConnectableDevice}
    (admitted : manager.admitDevice device = some next) :
    next.deviceStore = manager.deviceStore ∧
      (manager.deviceIsCompatible device = false ∧ next = manager ∨
        manager.deviceIsCompatible device = true ∧
          ∃ key, manager.memory.address device = some key ∧
            Effect manager next manager.allDevices
              (manager.compatibleDevices.insert key device)
              [.didFindDevice device]) := by
  cases compatible : manager.deviceIsCompatible device with
  | false =>
      simp only [admitDevice, compatible, Bool.false_eq_true, if_false,
        Option.some.injEq] at admitted
      exact ⟨by rw [admitted], .inl ⟨rfl, admitted.symm⟩⟩
  | true =>
      cases located : manager.memory.address device with
      | none => simp [admitDevice, compatible, located] at admitted
      | some key =>
          simp only [admitDevice, compatible, if_true, located,
            Option.some.injEq] at admitted
          subst admitted
          exact ⟨notifyDelegate_deviceStore .., .inr ⟨rfl, key, rfl,
            (effect_notifyDelegate _ _).of_lists rfl⟩⟩

/-- The devices that pass the filters are filed under their addresses, one
after the other, and announced. -/
theorem foldlM_admitDevice {devices : List (Ref ConnectableDevice)}
    {manager next : DiscoveryManager}
    (admitted : devices.foldlM admitDevice manager = some next) :
    next.deviceStore = manager.deviceStore ∧
      ∃ entries : List (String × Ref ConnectableDevice),
        entries.map Prod.snd = devices.filter manager.deviceIsCompatible ∧
        (∀ entry ∈ entries,
          manager.memory.address entry.2 = some entry.1) ∧
        Effect manager next manager.allDevices
          (manager.compatibleDevices.insertAll entries)
          (entries.map fun entry => .didFindDevice entry.2) := by
  induction devices generalizing manager with
  | nil =>
      cases admitted
      refine ⟨rfl, [], rfl, ?_, rfl, rfl, rfl, rfl, rfl, ?_⟩
      · intro entry impossible
        cases impossible
      · intro _
        exact (List.append_nil _).symm
  | cons head tail induction =>
      rw [List.foldlM_cons] at admitted
      rcases Option.bind_eq_some_iff.mp admitted with ⟨middle, first, rest⟩
      rcases induction rest with ⟨stored, entries, filtered, located, effect⟩
      rcases admitDevice_cases first with
        ⟨kept, ⟨incompatible, rfl⟩ | ⟨compatible, key, address, added⟩⟩
      · refine ⟨stored.trans kept, entries, ?_, located, effect⟩
        rw [List.filter_cons, incompatible, filtered]
        rfl
      · refine ⟨stored.trans kept, (key, head) :: entries, ?_, ?_, ?_⟩
        · have same : middle.deviceIsCompatible = manager.deviceIsCompatible :=
            funext added.deviceIsCompatible
          rw [List.filter_cons, compatible, List.map_cons, filtered, same]
          rfl
        · intro entry member
          rcases List.mem_cons.mp member with rfl | inTail
          · exact address
          · rw [← added.memory]
            exact located entry inTail
        · rw [added.allDevices, added.compatibleDevices] at effect
          exact added.trans effect

/-- Every compatible device is lost and every device that passes the new filters
is found. -/
theorem setCapabilityFilters_cases {manager next : DiscoveryManager}
    {capabilityFilters : List (List String)}
    (filtered : manager.setCapabilityFilters capabilityFilters = some next) :
    next.deviceStore = manager.deviceStore ∧
      ∃ entries : List (String × Ref ConnectableDevice),
        entries.map Prod.snd = manager.allDevices.values.filter
          { manager with capabilityFilters }.deviceIsCompatible ∧
        (∀ entry ∈ entries, manager.memory.address entry.2 = some entry.1) ∧
        Effect { manager with capabilityFilters } next manager.allDevices
          (Dictionary.insertAll entries ∅)
          (manager.compatibleDevices.values.map .didLoseDevice ++
            entries.map fun entry => .didFindDevice entry.2) := by
  have lost : Effect { manager with capabilityFilters }
        (loseCompatibleDevices { manager with capabilityFilters })
        manager.allDevices manager.compatibleDevices
        (manager.compatibleDevices.values.map .didLoseDevice) ∧
      (loseCompatibleDevices { manager with capabilityFilters }).deviceStore =
        manager.deviceStore := by
    have folded := foldl_notifyDelegate
      (manager.compatibleDevices.values.map .didLoseDevice)
      { manager with capabilityFilters }
    rw [List.foldl_map] at folded
    exact folded
  have cleared : Effect { manager with capabilityFilters }
      { loseCompatibleDevices { manager with capabilityFilters } with
        compatibleDevices := ∅ } manager.allDevices ∅
      (manager.compatibleDevices.values.map .didLoseDevice) :=
    ⟨lost.1.memory, lost.1.capabilityFilters, lost.1.delegate, lost.1.allDevices,
      rfl, lost.1.delegateReceived⟩
  rcases foldlM_admitDevice filtered with ⟨stored, entries, same, located, effect⟩
  refine ⟨stored.trans lost.2, entries, ?_, ?_, ?_⟩
  · rw [same, funext cleared.deviceIsCompatible, lost.1.allDevices]
  · rw [← lost.1.memory]
    exact located
  · have whole := cleared.trans effect
    exact { whole with allDevices := whole.allDevices.trans lost.1.allDevices }

theorem effect_devicePicker (manager : DiscoveryManager) :
    Effect manager manager.devicePicker manager.allDevices
        manager.compatibleDevices [] ∧
      manager.devicePicker.deviceStore = manager.deviceStore := by
  cases picker : manager.currentPicker <;>
    exact ⟨by constructor <;> simp [devicePicker, picker],
      by simp [devicePicker, picker]⟩

theorem foldl_purge (devices : List (Ref ConnectableDevice))
    (manager : DiscoveryManager) :
    Effect manager (devices.foldl (fun manager device =>
        (manager.notifyDelegate (.didLoseDevice device)).devicePicker.notifyPicker
          (.didLoseDevice device)) manager) manager.allDevices
        manager.compatibleDevices (devices.map .didLoseDevice) ∧
      (devices.foldl (fun manager device =>
        (manager.notifyDelegate (.didLoseDevice device)).devicePicker.notifyPicker
          (.didLoseDevice device)) manager).deviceStore = manager.deviceStore := by
  induction devices generalizing manager with
  | nil =>
      exact ⟨.refl manager, rfl⟩
  | cons head tail induction =>
      have picked := effect_devicePicker (manager.notifyDelegate (.didLoseDevice head))
      have told := ((effect_notifyDelegate manager (.didLoseDevice head)).send
        picked.1).send (effect_notifyPicker _ (.didLoseDevice head))
      rcases induction ((manager.notifyDelegate
        (.didLoseDevice head)).devicePicker.notifyPicker (.didLoseDevice head))
        with ⟨effect, stored⟩
      refine ⟨told.send effect, ?_⟩
      rw [List.foldl_cons, stored, notifyPicker_deviceStore, picked.2,
        notifyDelegate_deviceStore]

theorem purgeDeviceList_effect (manager : DiscoveryManager) :
    Effect manager manager.purgeDeviceList ∅ ∅
        (manager.compatibleDevices.values.map .didLoseDevice) ∧
      manager.purgeDeviceList.deviceStore = manager.deviceStore := by
  rcases foldl_purge manager.compatibleDevices.values manager with ⟨effect, stored⟩
  exact ⟨⟨effect.memory, effect.capabilityFilters, effect.delegate, rfl, rfl,
    effect.delegateReceived⟩, stored⟩

/-- An event reports a device, filters the devices anew, drops them all, or
touches none. -/
inductive Reaction (manager : DiscoveryManager) (next : DiscoveryManager) :
    DiscoveryEvent → Prop
  | reported {event : DiscoveryEvent} {reporting : Reporting}
      (reports : manager.reporting event = some reporting)
      (performed : reporting.perform = some next) : Reaction manager next event
  | filtered {capabilityFilters : List (List String)}
      (set : manager.setCapabilityFilters capabilityFilters = some next) :
      Reaction manager next (.setCapabilityFilters capabilityFilters)
  | purged {ssidName : String}
      (effect : Effect manager next ∅ ∅
        (manager.compatibleDevices.values.map .didLoseDevice))
      (stored : next.deviceStore = manager.deviceStore) :
      Reaction manager next (.detectSSIDChange ssidName)
  | quiet {event : DiscoveryEvent}
      (effect : Effect manager next manager.allDevices manager.compatibleDevices [])
      (stored : next.deviceStore = manager.deviceStore ∨
        event = .setDeviceStore next.deviceStore) : Reaction manager next event

theorem step_reaction {manager next : DiscoveryManager} {event : DiscoveryEvent}
    (stepped : manager.step event = some next) : Reaction manager next event := by
  cases reports : manager.reporting event with
  | some reporting =>
      rw [step_eq_perform reports] at stepped
      exact .reported reports stepped
  | none =>
      rcases step_unreported reports stepped with
        rfl | ⟨_, rfl, filtered⟩ | ⟨ssidName, rfl, rfl⟩ | ⟨rfl, rfl⟩ | ⟨_, rfl, rfl⟩
      · exact .quiet (.refl next) (.inl rfl)
      · exact .filtered filtered
      · rw [detectSSIDChange]
        cases manager.currentSSID with
        | none =>
            exact .quiet ⟨rfl, rfl, rfl, rfl, rfl, fun _ => (List.append_nil _).symm⟩
              (.inl rfl)
        | some currentSSID =>
            by_cases same : ssidName.toLower = currentSSID.toLower
            · simp only [if_pos same]
              exact .quiet (.refl manager) (.inl rfl)
            · simp only [if_neg same]
              have purged := manager.purgeDeviceList_effect
              exact .purged ⟨purged.1.memory, purged.1.capabilityFilters,
                purged.1.delegate, purged.1.allDevices, purged.1.compatibleDevices,
                purged.1.delegateReceived⟩ purged.2
      · exact .quiet manager.effect_devicePicker.1 (.inl manager.effect_devicePicker.2)
      · exact .quiet ⟨rfl, rfl, rfl, rfl, rfl, fun _ => (List.append_nil _).symm⟩
          (.inr rfl)

end DiscoveryManager

end ConnectSDK
