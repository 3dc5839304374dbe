import ConnectSDK.Discovery.Soundness
import ConnectSDK.Discovery.DevicePicker

/-! # What the picker holds

The manager sends the picker what a report sends the delegate. Then the picker lists what
the manager lists, address by address.
-/

namespace ConnectSDK

namespace DiscoveryManager

/-! ## What the picker is sent -/

/-- A picker that was there before has been sent some messages. -/
structure Tells (before after : DiscoveryManager) (sent : List DeviceNotification) :
    Prop where
  currentPicker : after.currentPicker = before.currentPicker
  heard : before.currentPicker = true →
    after.pickerReceived = before.pickerReceived ++ sent
  unheard : before.currentPicker = false → after.pickerReceived = before.pickerReceived

theorem Tells.of_eq {before after : DiscoveryManager}
    (currentPicker : after.currentPicker = before.currentPicker)
    (pickerReceived : after.pickerReceived = before.pickerReceived) :
    Tells before after [] where
  currentPicker := currentPicker
  heard := fun _ => by rw [pickerReceived, List.append_nil]
  unheard := fun _ => pickerReceived

theorem Tells.trans {before middle after : DiscoveryManager}
    {sent more : List DeviceNotification} (first : Tells before middle sent)
    (second : Tells middle after more) : Tells before after (sent ++ more) where
  currentPicker := second.currentPicker.trans first.currentPicker
  heard := fun picker => by
    rw [second.heard (first.currentPicker.trans picker), first.heard picker,
      List.append_assoc]
  unheard := fun absent =>
    (second.unheard (first.currentPicker.trans absent)).trans (first.unheard absent)

theorem tells_notifyDelegate (manager : DiscoveryManager)
    (notification : DeviceNotification) :
    Tells manager (manager.notifyDelegate notification) [] := by
  cases delegate : manager.delegate <;> apply Tells.of_eq <;>
    simp [notifyDelegate, delegate]

theorem tells_notifyPicker (manager : DiscoveryManager)
    (notification : DeviceNotification) :
    Tells manager (manager.notifyPicker notification) [notification] := by
  cases picker : manager.currentPicker <;> constructor <;> simp [notifyPicker, picker]

theorem tells_notify (manager : DiscoveryManager) (notification : DeviceNotification) :
    Tells manager (manager.notify notification) [notification] :=
  (tells_notifyDelegate manager notification).trans
    (tells_notifyPicker (manager.notifyDelegate notification) notification)

/-- The picker does not see the dictionaries. -/
theorem Tells.of_lists {before middle after : DiscoveryManager}
    {sent : List DeviceNotification} (tells : Tells middle after sent)
    (currentPicker : middle.currentPicker = before.currentPicker)
    (pickerReceived : middle.pickerReceived = before.pickerReceived) :
    Tells before after sent :=
  (Tells.of_eq currentPicker pickerReceived).trans tells

theorem tells_admitDevice {manager next : DiscoveryManager}
    {device : Ref ConnectableDevice} (admitted : manager.admitDevice device = some next) :
    Tells manager next [] := by
  unfold admitDevice at admitted
  split at admitted
  · split at admitted
    · cases admitted
    · cases admitted
      exact (tells_notifyDelegate _ _).of_lists rfl rfl
  · cases admitted
    exact .of_eq rfl rfl

/-- New filters are no news for the picker. -/
theorem tells_setCapabilityFilters {manager next : DiscoveryManager}
    {capabilityFilters : List (List String)}
    (filtered : manager.setCapabilityFilters capabilityFilters = some next) :
    Tells manager next [] := by
  have lost : ∀ (devices : List (Ref ConnectableDevice)) (before : DiscoveryManager),
      Tells before (devices.foldl
        (fun manager device => manager.notifyDelegate (.didLoseDevice device)) before)
        [] := by
    intro devices
    induction devices with
    | nil => exact fun before => .of_eq rfl rfl
    | cons head tail induction =>
        exact fun before => (tells_notifyDelegate before _).trans (induction _)
  have admitted : ∀ (devices : List (Ref ConnectableDevice)) (before : DiscoveryManager),
      devices.foldlM (fun manager device => manager.admitDevice device) before =
        some next → Tells before next [] := by
    intro devices
    induction devices with
    | nil =>
        intro before same
        cases same
        exact .of_eq rfl rfl
    | cons head tail induction =>
        intro before rest
        rw [List.foldlM_cons] at rest
        rcases Option.bind_eq_some_iff.mp rest with ⟨middle, first, later⟩
        exact (tells_admitDevice first).trans (induction middle later)
  have before : Tells manager (loseCompatibleDevices { manager with capabilityFilters })
      [] := (lost manager.compatibleDevices.values _).of_lists rfl rfl
  have after := admitted _ _ filtered
  exact before.trans (after.of_lists rfl rfl)

theorem tells_handleDeviceAdd {manager next : DiscoveryManager}
    {device : Ref ConnectableDevice} (handled : manager.handleDeviceAdd device = some next)
    (compatible : manager.deviceIsCompatible device = true) :
    Tells manager next [.didFindDevice device] := by
  unfold handleDeviceAdd at handled
  rw [if_pos compatible] at handled
  split at handled
  · cases handled
  · cases handled
    exact (tells_notify _ _).of_lists rfl rfl

/-- The picker is sent what the delegate is sent. -/
theorem outcome_tells {reporting : Reporting} {next : DiscoveryManager}
    (performed : reporting.perform = some next)
    {allDevices compatibleDevices : Dictionary String (Ref ConnectableDevice)}
    {sent : List DeviceNotification}
    (outcome : Outcome reporting allDevices compatibleDevices sent) :
    Tells reporting.manager next sent := by
  have refreshed : ∀ now, reporting.report = .update now → ∃ updated,
      Tells reporting.manager updated [] ∧
      updated.deviceIsCompatible reporting.device =
        reporting.manager.deviceIsCompatible reporting.device ∧
      updated.memory = reporting.manager.memory ∧
      updated.compatibleDevices = reporting.manager.compatibleDevices ∧
      updated.refreshDevice reporting.device = some next := by
    intro now report
    rw [Reporting.perform, report] at performed
    rcases Option.bind_eq_some_iff.mp performed with ⟨updated, kept, rest⟩
    have same := (updateDeviceStore_active kept).1
    refine ⟨updated, .of_eq ?_ ?_, ?_, ?_, ?_, rest⟩ <;> rw [same]
    rfl
  cases outcome with
  | ignored report incompatible =>
      rw [Reporting.perform, report] at performed
      simp only [handleDeviceAdd, incompatible, Bool.false_eq_true, if_false,
        Option.some.injEq] at performed
      exact .of_eq (by rw [performed]) (by rw [performed])
  | found report compatible located =>
      rw [Reporting.perform, report] at performed
      exact tells_handleDeviceAdd performed compatible
  | updated report compatible located held =>
      rcases refreshed _ report with ⟨updated, tells, passes, memory, listed, same⟩
      unfold refreshDevice at same
      rw [passes, if_pos compatible, memory, located, Option.bind_some, listed, held] at same
      cases same
      exact tells.trans (tells_notify _ _)
  | admitted report compatible located absent =>
      rcases refreshed _ report with ⟨updated, tells, passes, memory, listed, same⟩
      unfold refreshDevice at same
      rw [passes, if_pos compatible, memory, located, Option.bind_some, listed, absent] at same
      exact tells.trans (tells_handleDeviceAdd same (passes.trans compatible))
  | dropped report incompatible located =>
      rcases refreshed _ report with ⟨updated, tells, passes, memory, listed, same⟩
      unfold refreshDevice at same
      rw [passes, incompatible, if_neg Bool.false_ne_true, memory, located] at same
      cases same
      exact tells.trans ((tells_notify _ _).of_lists rfl rfl)
  | withdrawn report =>
      rw [Reporting.perform, report] at performed
      cases performed
      exact .of_eq rfl rfl
  | lost report =>
      rw [Reporting.perform, report] at performed
      cases performed
      exact (tells_notify _ _).of_lists rfl rfl

/-- A purge tells the picker of every device it loses. -/
theorem foldl_purge_tells (devices : List (Ref ConnectableDevice))
    {manager : DiscoveryManager} (picker : manager.currentPicker = true) :
    Tells manager (devices.foldl (fun manager device =>
        (manager.notifyDelegate (.didLoseDevice device)).devicePicker.notifyPicker
          (.didLoseDevice device)) manager) (devices.map .didLoseDevice) := by
  induction devices generalizing manager with
  | nil => exact .of_eq rfl rfl
  | cons head tail induction =>
      have told := tells_notifyDelegate manager (.didLoseDevice head)
      have there := told.currentPicker.trans picker
      have same : (manager.notifyDelegate (.didLoseDevice head)).devicePicker =
          manager.notifyDelegate (.didLoseDevice head) := if_pos there
      rw [List.foldl_cons, same]
      have lost := told.trans (tells_notifyPicker _ (.didLoseDevice head))
      exact lost.trans (induction (lost.currentPicker.trans picker))

theorem purgeDeviceList_tells {manager : DiscoveryManager}
    (picker : manager.currentPicker = true) :
    Tells manager manager.purgeDeviceList
      (manager.compatibleDevices.values.map .didLoseDevice) := by
  have lost := foldl_purge_tells manager.compatibleDevices.values picker
  exact ⟨lost.currentPicker, lost.heard, lost.unheard⟩

/-- A purge that has something to lose makes a picker, which finds it first. -/
theorem purgeDeviceList_unpicked {manager : DiscoveryManager}
    (absent : manager.currentPicker = false) :
    manager.purgeDeviceList.currentPicker = false ∧
        manager.purgeDeviceList.pickerReceived = manager.pickerReceived ∨
      manager.purgeDeviceList.currentPicker = true ∧
        manager.purgeDeviceList.pickerReceived =
          manager.compatibleDevices.values.map .didFindDevice ++
            manager.compatibleDevices.values.map .didLoseDevice := by
  unfold purgeDeviceList
  cases listed : manager.compatibleDevices.values with
  | nil => exact Or.inl ⟨absent, rfl⟩
  | cons head tail =>
      right
      have told := tells_notifyDelegate manager (.didLoseDevice head)
      have kept := (effect_notifyDelegate manager (.didLoseDevice head)).compatibleDevices
      have still := told.currentPicker.trans absent
      have lost := tells_notifyPicker
        (manager.notifyDelegate (.didLoseDevice head)).devicePicker (.didLoseDevice head)
      have made : (manager.notifyDelegate (.didLoseDevice head)).devicePicker.currentPicker =
          true := by simp [devicePicker, still]
      have found :
          (manager.notifyDelegate (.didLoseDevice head)).devicePicker.pickerReceived =
            (head :: tail).map .didFindDevice := by
        simp [devicePicker, still, kept, listed]
      have rest := lost.trans (foldl_purge_tells tail (lost.currentPicker.trans made))
      refine ⟨rest.currentPicker.trans made, ?_⟩
      exact (rest.heard made).trans (by rw [found]; rfl)

/-- Another network purges the lists. -/
theorem detectSSIDChange_cases (manager : DiscoveryManager) (ssidName : String) :
    manager.changesSSID ssidName = false ∧
        (∃ currentSSID,
          manager.detectSSIDChange ssidName = { manager with currentSSID }) ∨
      manager.changesSSID ssidName = true ∧
        manager.detectSSIDChange ssidName =
          { manager.purgeDeviceList with currentSSID := some ssidName } := by
  unfold changesSSID detectSSIDChange
  cases noted : manager.currentSSID with
  | none => exact Or.inl ⟨rfl, _, rfl⟩
  | some currentSSID =>
      by_cases same : ssidName.toLower = currentSSID.toLower
      · left
        simp only [Option.any_some, same, ne_eq, not_true_eq_false, decide_false, if_true,
          true_and]
        exact ⟨some currentSSID, by rw [← noted]⟩
      · right
        simp [same]

end DiscoveryManager

namespace DevicePicker

variable {memory : Memory} {devices after : Dictionary String (Ref ConnectableDevice)}

theorem foldlM_receive_found {found : List (Ref ConnectableDevice)}
    (received : (found.map .didFindDevice).foldlM (receive memory) devices = some after) :
    ∃ entries : List (String × Ref ConnectableDevice), entries.map Prod.snd = found ∧
      (∀ entry ∈ entries, memory.address entry.2 = some entry.1) ∧
      after = devices.insertAll entries := by
  induction found generalizing devices with
  | nil =>
      cases received
      refine ⟨[], rfl, ?_, rfl⟩
      intro entry impossible
      cases impossible
  | cons head tail induction =>
      rw [List.map_cons, List.foldlM_cons] at received
      rcases Option.bind_eq_some_iff.mp received with ⟨middle, first, rest⟩
      rcases Option.map_eq_some_iff.mp first with ⟨address, located, rfl⟩
      rcases induction rest with ⟨entries, same, filed, rfl⟩
      refine ⟨(address, head) :: entries, by rw [List.map_cons, same], ?_, rfl⟩
      intro entry member
      rcases List.mem_cons.mp member with rfl | inTail
      · exact located
      · exact filed entry inTail

theorem foldlM_receive_lost {lost : List (Ref ConnectableDevice)}
    (received : (lost.map .didLoseDevice).foldlM (receive memory) devices = some after) :
    ∃ keys : List String, (∀ device ∈ lost, ∃ key ∈ keys, memory.address device = some key) ∧
      (∀ key ∈ keys, ∃ device ∈ lost, memory.address device = some key) ∧
      after = devices.eraseAll keys := by
  induction lost generalizing devices with
  | nil =>
      cases received
      refine ⟨[], ?_, ?_, rfl⟩ <;>
        · intro entry impossible
          cases impossible
  | cons head tail induction =>
      rw [List.map_cons, List.foldlM_cons] at received
      rcases Option.bind_eq_some_iff.mp received with ⟨middle, first, rest⟩
      rcases Option.map_eq_some_iff.mp first with ⟨address, located, rfl⟩
      rcases induction rest with ⟨keys, every, only, rfl⟩
      refine ⟨address :: keys, ?_, ?_, rfl⟩
      · intro device member
        rcases List.mem_cons.mp member with rfl | inTail
        · exact ⟨address, List.mem_cons_self, located⟩
        · rcases every device inTail with ⟨key, listed, same⟩
          exact ⟨key, List.mem_cons_of_mem address listed, same⟩
      · intro key listed
        rcases List.mem_cons.mp listed with rfl | inTail
        · exact ⟨head, List.mem_cons_self, located⟩
        · rcases only key inTail with ⟨device, member, same⟩
          exact ⟨device, List.mem_cons_of_mem head member, same⟩

end DevicePicker

namespace PickerWatch

/-! ## The list of the picker is the list of the manager -/

/-- A picker lists what the manager lists; without one nothing was sent. -/
structure Mirrored (watch : PickerWatch) : Prop where
  picked : watch.manager.currentPicker = true →
    Dictionary.SameEntries watch.devices watch.manager.compatibleDevices
  unpicked : watch.manager.currentPicker = false →
    watch.manager.pickerReceived = [] ∧ watch.devices = ∅

theorem Mirrored.holdsCompatible {watch : PickerWatch} (mirrored : watch.Mirrored) :
    watch.HoldsCompatible :=
  fun picker => (mirrored.picked picker).mem_values_iff

/-- What a report tells the picker is what it does to the compatible devices. -/
theorem outcome_mirrored {reporting : Reporting}
    {devices after allDevices compatibleDevices : Dictionary String (Ref ConnectableDevice)}
    {sent : List DeviceNotification}
    (same : Dictionary.SameEntries devices reporting.manager.compatibleDevices)
    (lost : ∀ address key, reporting.report = .lose address →
      reporting.manager.memory.address reporting.device = some key →
        key = address ∨ reporting.manager.compatibleDevices.lookup key = none ∧
          reporting.manager.compatibleDevices.lookup address = none)
    (outcome : Outcome reporting allDevices compatibleDevices sent)
    (received : sent.foldlM (DevicePicker.receive reporting.manager.memory) devices =
      some after) :
    Dictionary.SameEntries after compatibleDevices := by
  cases outcome with
  | ignored report incompatible =>
      cases received
      exact same
  | found report compatible located =>
      simp only [List.foldlM_cons, DevicePicker.receive, located] at received
      cases received
      exact same.insert _ _
  | updated report compatible located held =>
      cases received
      exact same
  | admitted report compatible located absent =>
      simp only [List.foldlM_cons, DevicePicker.receive, located] at received
      cases received
      exact same.insert _ _
  | dropped report incompatible located =>
      simp only [List.foldlM_cons, DevicePicker.receive, located] at received
      cases received
      exact same.erase _
  | withdrawn report =>
      cases received
      exact same
  | @lost address report =>
      cases located : reporting.manager.memory.address reporting.device with
      | none =>
          simp only [List.foldlM_cons, DevicePicker.receive, located] at received
          cases received
      | some key =>
          simp only [List.foldlM_cons, DevicePicker.receive, located] at received
          cases received
          intro other
          rcases lost address key report located with equal | ⟨neither, absent⟩
          · rw [equal]
            exact same.erase address other
          · have nothing : devices.lookup key = none := (same key).trans neither
            calc AList.lookup other (devices.erase key)
                = devices.lookup other :=
                  (Dictionary.sameEntries_erase_of_absent nothing other).symm
              _ = reporting.manager.compatibleDevices.lookup other := same other
              _ = AList.lookup other (reporting.manager.compatibleDevices.erase address) :=
                  Dictionary.sameEntries_erase_of_absent absent other

/-- Each compatible device under its own address. -/
theorem found_mirrored {memory : Memory}
    {listed devices : Dictionary String (Ref ConnectableDevice)}
    (created : ∀ key device, listed.lookup key = some device →
      memory.address device = some key)
    (received : (listed.values.map .didFindDevice).foldlM (DevicePicker.receive memory) ∅ =
      some devices) :
    Dictionary.SameEntries devices listed := by
  rcases DevicePicker.foldlM_receive_found received with ⟨entries, same, filed, rfl⟩
  have held : ∀ key device, (key, device) ∈ entries → listed.lookup key = some device := by
    intro key device member
    have value : device ∈ listed.values := by
      rw [← same]
      exact List.mem_map_of_mem member
    rcases Dictionary.mem_values_iff.mp value with ⟨other, held⟩
    cases (created other device held).symm.trans (filed _ member)
    exact held
  intro key
  cases found : listed.lookup key with
  | none =>
      rw [Dictionary.lookup_insertAll_of_absent]
      · rfl
      · intro device member
        cases found.symm.trans (held key device member)
  | some device =>
      apply Dictionary.lookup_insertAll_of_mem
      · have value : device ∈ entries.map Prod.snd := by
          rw [same]
          exact Dictionary.mem_values_iff.mpr ⟨key, found⟩
        rcases List.mem_map.mp value with ⟨⟨other, _⟩, member, rfl⟩
        cases (created key _ found).symm.trans (filed _ member)
        exact member
      · intro other member
        exact Option.some.inj ((held key other member).symm.trans found)

/-- New filters that let the same devices pass at the same addresses. -/
theorem filtered_mirrored {manager next : DiscoveryManager}
    {capabilityFilters : List (List String)}
    (passing : ∀ address, manager.compatibleDevices.lookup address =
      manager.passingAt capabilityFilters address)
    (filtered : manager.setCapabilityFilters capabilityFilters = some next) :
    Dictionary.SameEntries manager.compatibleDevices next.compatibleDevices := by
  rcases DiscoveryManager.setCapabilityFilters_cases filtered with
    ⟨_, entries, same, located, effect⟩
  intro address
  have split : (manager.allDevices.values.filter fun device =>
        { manager with capabilityFilters }.deviceIsCompatible device &&
          decide (manager.memory.address device = some address)) =
      (entries.map Prod.snd).filter fun device =>
        decide (manager.memory.address device = some address) := by
    rw [same, List.filter_filter]
    apply List.filter_congr
    intro device _
    rw [Bool.and_comm]
  have here : ((fun device => decide (manager.memory.address device = some address)) ∘
        Prod.snd : String × Ref ConnectableDevice → Bool) =
      fun entry => decide (manager.memory.address entry.2 = some address) := rfl
  have filed : (entries.filter fun entry =>
        decide (manager.memory.address entry.2 = some address)) =
      entries.filter fun entry => decide (entry.1 = address) := by
    apply List.filter_congr
    intro entry member
    simp [located entry member]
  rw [passing address, DiscoveryManager.passingAt, split, List.filter_map, here, filed,
    List.getLast?_map, effect.compatibleDevices, Dictionary.lookup_insertAll_eq,
    AList.lookup_empty, Option.or_none]

/-- Losing devices that are found at all the addresses in use leaves nothing. -/
theorem lost_mirrored {memory : Memory} {lost : List (Ref ConnectableDevice)}
    {devices after : Dictionary String (Ref ConnectableDevice)}
    (covered : ∀ key device, devices.lookup key = some device →
      ∃ other ∈ lost, memory.address other = some key)
    (received : (lost.map .didLoseDevice).foldlM (DevicePicker.receive memory) devices =
      some after) :
    Dictionary.SameEntries after ∅ := by
  rcases DevicePicker.foldlM_receive_lost received with ⟨keys, every, _, rfl⟩
  intro key
  rw [Dictionary.lookup_eraseAll]
  by_cases listed : key ∈ keys
  · rw [if_pos listed]
    rfl
  · rw [if_neg listed]
    cases held : devices.lookup key with
    | none => rfl
    | some device =>
        rcases covered key device held with ⟨other, member, located⟩
        rcases every other member with ⟨address, inKeys, same⟩
        cases located.symm.trans same
        exact absurd inKeys listed

/-- What was heard in a step is what was sent in it. -/
theorem received_of_tells {watch after : PickerWatch}
    (stepped : watch.step event = some after) :
    watch.manager.step event = some after.manager ∧
      (after.manager.pickerReceived.drop watch.manager.pickerReceived.length).foldlM
        (DevicePicker.receive after.manager.memory) watch.devices = some after.devices := by
  rcases Option.bind_eq_some_iff.mp stepped with ⟨manager, taken, heard⟩
  rcases Option.map_eq_some_iff.mp heard with ⟨devices, received, rfl⟩
  exact ⟨taken, received⟩

theorem Mirrored.of_tells {watch : PickerWatch} (mirrored : watch.Mirrored)
    {manager : DiscoveryManager} {devices : Dictionary String (Ref ConnectableDevice)}
    {sent : List DeviceNotification} (tells : watch.manager.Tells manager sent)
    (received : (manager.pickerReceived.drop watch.manager.pickerReceived.length).foldlM
      (DevicePicker.receive manager.memory) watch.devices = some devices)
    (kept : watch.manager.currentPicker = true →
      Dictionary.SameEntries watch.devices watch.manager.compatibleDevices →
      sent.foldlM (DevicePicker.receive manager.memory) watch.devices = some devices →
        Dictionary.SameEntries devices manager.compatibleDevices) :
    Mirrored { manager, devices } where
  picked := fun picker => by
    have before := tells.currentPicker.symm.trans picker
    rw [tells.heard before, List.drop_left] at received
    exact kept before (mirrored.picked before) received
  unpicked := fun absent => by
    have before := tells.currentPicker.symm.trans absent
    rcases mirrored.unpicked before with ⟨nothing, empty⟩
    rw [tells.unheard before, List.drop_length] at received
    cases received
    exact ⟨(tells.unheard before).trans nothing, empty⟩

theorem Mirrored.reported {watch : PickerWatch} (mirrored : watch.Mirrored)
    {event : DiscoveryEvent} (permitted : watch.TellsPicker event) {reporting : Reporting}
    {manager : DiscoveryManager} {devices : Dictionary String (Ref ConnectableDevice)}
    (reports : watch.manager.reporting event = some reporting)
    (performed : reporting.perform = some manager)
    (received : (manager.pickerReceived.drop watch.manager.pickerReceived.length).foldlM
      (DevicePicker.receive manager.memory) watch.devices = some devices) :
    Mirrored { manager, devices } := by
  have rest := DiscoveryManager.reporting_rest reports
  have listed : reporting.manager.compatibleDevices = watch.manager.compatibleDevices := by
    rw [rest]
  rcases reporting.perform_outcome performed with
    ⟨_, allDevices, compatibleDevices, sent, outcome, effect⟩
  have tells : watch.manager.Tells manager sent :=
    (DiscoveryManager.outcome_tells performed outcome).of_lists (by rw [rest]) (by rw [rest])
  apply mirrored.of_tells tells received
  intro picker same heard
  rw [effect.memory] at heard
  rw [effect.compatibleDevices]
  rw [← listed] at same
  apply outcome_mirrored same _ outcome heard
  intro address key report located
  rw [listed]
  exact permitted.lost picker reporting address key reports report located

theorem Mirrored.detectSSIDChange {watch : PickerWatch} (mirrored : watch.Mirrored)
    {ssidName : String} (permitted : watch.TellsPicker (.detectSSIDChange ssidName))
    {devices : Dictionary String (Ref ConnectableDevice)}
    (received : ((watch.manager.detectSSIDChange ssidName).pickerReceived.drop
        watch.manager.pickerReceived.length).foldlM
      (DevicePicker.receive (watch.manager.detectSSIDChange ssidName).memory) watch.devices =
        some devices) :
    Mirrored { manager := watch.manager.detectSSIDChange ssidName, devices } := by
  rcases watch.manager.detectSSIDChange_cases ssidName with
    ⟨_, currentSSID, same⟩ | ⟨changes, same⟩
  · rw [same] at received ⊢
    have tells : watch.manager.Tells { watch.manager with currentSSID } [] := .of_eq rfl rfl
    apply mirrored.of_tells tells received
    intro _ kept heard
    cases heard
    exact kept
  · rw [same] at received ⊢
    have memory : watch.manager.purgeDeviceList.memory = watch.manager.memory :=
      watch.manager.purgeDeviceList_effect.1.memory
    rw [memory] at received
    cases picker : watch.manager.currentPicker with
    | true =>
        have purged := DiscoveryManager.purgeDeviceList_tells picker
        rw [purged.heard picker, List.drop_left] at received
        constructor
        · intro _
          apply lost_mirrored _ received
          intro key device held
          rw [mirrored.picked picker key] at held
          exact permitted.purged picker ssidName rfl changes key device held
        · intro absent
          cases (purged.currentPicker.trans picker).symm.trans absent
    | false =>
        rcases mirrored.unpicked picker with ⟨nothing, empty⟩
        rw [nothing, empty] at received
        rcases DiscoveryManager.purgeDeviceList_unpicked picker with
          ⟨absent, silent⟩ | ⟨made, sent⟩
        · rw [silent, nothing] at received
          cases received
          constructor
          · intro impossible
            cases absent.symm.trans impossible
          · exact fun _ => ⟨silent.trans nothing, rfl⟩
        · rw [sent, List.length_nil, List.drop_zero, List.foldlM_append] at received
          rcases Option.bind_eq_some_iff.mp received with ⟨middle, found, lost⟩
          rcases DevicePicker.foldlM_receive_found found with ⟨entries, every, filed, rfl⟩
          constructor
          · intro _
            apply lost_mirrored _ lost
            intro key device held
            have member := (Dictionary.lookup_insertAll held).resolve_right (by simp)
            refine ⟨device, ?_, filed _ member⟩
            rw [← every]
            exact List.mem_map_of_mem member
          · intro absent
            cases made.symm.trans absent

theorem Mirrored.devicePicker {watch : PickerWatch} (mirrored : watch.Mirrored)
    (permitted : watch.TellsPicker .devicePicker)
    {devices : Dictionary String (Ref ConnectableDevice)}
    (received : (watch.manager.devicePicker.pickerReceived.drop
        watch.manager.pickerReceived.length).foldlM
      (DevicePicker.receive watch.manager.devicePicker.memory) watch.devices =
        some devices) :
    Mirrored { manager := watch.manager.devicePicker, devices } := by
  have effect := watch.manager.effect_devicePicker.1
  rw [effect.memory] at received
  cases picker : watch.manager.currentPicker with
  | true =>
      have same : watch.manager.devicePicker = watch.manager := if_pos picker
      rw [same, List.drop_length] at received
      cases received
      rw [same]
      exact mirrored
  | false =>
      rcases mirrored.unpicked picker with ⟨nothing, empty⟩
      have found : watch.manager.devicePicker.pickerReceived =
          watch.manager.compatibleDevices.values.map .didFindDevice := by
        simp [DiscoveryManager.devicePicker, picker]
      have made : watch.manager.devicePicker.currentPicker = true := by
        simp [DiscoveryManager.devicePicker, picker]
      rw [nothing, found, empty] at received
      constructor
      · intro _
        rw [effect.compatibleDevices]
        exact found_mirrored (permitted.created picker rfl) received
      · intro absent
        cases made.symm.trans absent

theorem Mirrored.step {watch after : PickerWatch} {event : DiscoveryEvent}
    (mirrored : watch.Mirrored) (permitted : watch.TellsPicker event)
    (stepped : watch.step event = some after) : after.Mirrored := by
  rcases received_of_tells stepped with ⟨taken, received⟩
  rcases after with ⟨manager, devices⟩
  cases reports : watch.manager.reporting event with
  | some reporting =>
      rw [DiscoveryManager.step_eq_perform reports] at taken
      exact mirrored.reported permitted reports taken received
  | none =>
      rcases DiscoveryManager.step_unreported reports taken with
        same | ⟨_, rfl, filtered⟩ | ⟨ssidName, rfl, same⟩ | ⟨rfl, same⟩ | ⟨_, rfl, same⟩
      · apply mirrored.of_tells (.of_eq (by rw [same]) (by rw [same])) received
        intro _ kept heard
        cases heard
        rw [same]
        exact kept
      · apply mirrored.of_tells (DiscoveryManager.tells_setCapabilityFilters filtered) received
        intro picker kept heard
        cases heard
        intro address
        exact (kept address).trans
          (filtered_mirrored (permitted.filtered picker _ rfl) filtered address)
      · cases same
        exact mirrored.detectSSIDChange permitted received
      · cases same
        exact mirrored.devicePicker permitted received
      · apply mirrored.of_tells (.of_eq (by rw [same]; rfl) (by rw [same]; rfl)) received
        intro _ kept heard
        cases heard
        rw [same]
        exact kept

/-- The picker goes on holding the compatible devices as long as it is told. -/
theorem run_holdsCompatible {manager : DiscoveryManager} {events : List DiscoveryEvent}
    (absent : manager.currentPicker = false) (silent : manager.pickerReceived = [])
    (permitted : EveryStep PickerWatch.step TellsPicker { manager } events) :
    Throughout PickerWatch.step HoldsCompatible { manager } events := by
  have initially : Mirrored { manager } := by
    constructor
    · intro picker
      cases absent.symm.trans picker
    · exact fun _ => ⟨silent, rfl⟩
  exact EveryStep.throughout (fun _ _ _ mirrored => mirrored.step)
    (fun _ mirrored => mirrored.holdsCompatible) initially permitted

open DiscoveryManager

/-- A picker from the start, and a device that comes and goes. -/
theorem run_holdsCompatible_lost :
    Throughout PickerWatch.step HoldsCompatible { manager := start rokuClasses .missing 1 }
      [.devicePicker, .didFindService (rokuAt "10.0.0.1") rokuCapabilities 1 "guid",
        .didLoseService (rokuAt "10.0.0.1") 2] := by
  apply run_holdsCompatible rfl rfl
  refine ⟨⟨?_, ?_, ?_, ?_⟩, ⟨?_, ?_, ?_, ?_⟩, ⟨?_, ?_, ?_, ?_⟩, trivial⟩
  · exact fun picker => by cases picker
  · exact fun picker => by cases picker
  · exact fun picker => by cases picker
  · exact fun _ _ key device held => by cases held
  · intro _ reporting address key reports report
    cases Option.some.inj reports
    cases report
  · exact fun _ _ same => by cases same
  · exact fun _ _ same => by cases same
  · exact fun absent => by cases absent
  · intro _ reporting address key reports report located
    cases Option.some.inj reports
    cases report
    cases located
    exact Or.inl rfl
  · exact fun _ _ same => by cases same
  · exact fun _ _ same => by cases same
  · exact fun absent => by cases absent

/-- New filters drop a device, and the picker is not told. -/
theorem filters_keep_picked_device :
    ∃ final, runFrom PickerWatch.step { manager := start rokuClasses .missing 1 }
        [.devicePicker, .didFindService (rokuAt "10.0.0.1") rokuCapabilities 1 "guid",
          .setCapabilityFilters [["VolumeControl.Set"]]] = some final ∧
      ¬ final.HoldsCompatible := by
  refine ⟨_, rfl, fun holds => ?_⟩
  have member := (holds rfl ⟨0⟩).mp List.mem_cons_self
  cases member

end PickerWatch

end ConnectSDK
