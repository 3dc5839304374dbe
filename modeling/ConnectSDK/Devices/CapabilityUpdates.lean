import ConnectSDK.Devices.DeviceCapabilities
import ConnectSDK.Services.CapabilityLists

/-! # What the delegate knows of the capabilities

The delegate of a device adds up what it is told. It ends with the capabilities of the
device if no update names what another service has, and none overtakes another.
-/

namespace ConnectSDK

/-! ## What the main queue still tells -/

namespace CapabilityBlock

/-- The updates on their way to the delegate, in front of those on their way to the
device. -/
def delivered (queue : List CapabilityBlock) : List CapabilityUpdate :=
  queue.filterMap fun
    | .connectableDevice update => some update
    | .deviceService _ => none

def relayed (queue : List CapabilityBlock) : List CapabilityUpdate :=
  queue.filterMap fun
    | .connectableDevice _ => none
    | .deviceService update => some update

end CapabilityBlock

def applyUpdates (updates : List CapabilityUpdate) (known : Finset String) : Finset String :=
  updates.foldl (fun known update => update.delta.apply known) known

def CapabilityUpdate.Names (update : CapabilityUpdate) (capability : String) : Prop :=
  capability ∈ update.added ∨ capability ∈ update.removed

theorem mem_delta_apply {update : CapabilityUpdate} {known : Finset String}
    {capability : String} :
    capability ∈ update.delta.apply known ↔
      (capability ∈ known ∧ capability ∉ update.removed) ∨ capability ∈ update.added := by
  rw [SetDelta.mem_apply, CapabilityUpdate.delta, List.mem_toFinset, List.mem_toFinset]

/-- Each capability is kept up to date by itself. -/
theorem applyUpdates_congr {updates : List CapabilityUpdate} {left right : Finset String}
    {capability : String} (same : capability ∈ left ↔ capability ∈ right) :
    capability ∈ applyUpdates updates left ↔ capability ∈ applyUpdates updates right := by
  induction updates generalizing left right with
  | nil => exact same
  | cons head tail induction =>
      apply induction
      rw [mem_delta_apply, mem_delta_apply, same]

theorem applyUpdates_of_unnamed {updates : List CapabilityUpdate} {known : Finset String}
    {capability : String} (unnamed : ∀ update ∈ updates, ¬ update.Names capability) :
    capability ∈ applyUpdates updates known ↔ capability ∈ known := by
  induction updates generalizing known with
  | nil => rfl
  | cons head tail induction =>
      have here := not_or.mp (unnamed head List.mem_cons_self)
      refine (induction fun update member =>
        unnamed update (List.mem_cons_of_mem head member)).trans ?_
      rw [mem_delta_apply, or_iff_left here.1, and_iff_left here.2]

/-- Updates that name a capability settle it, whatever came before. -/
theorem applyUpdates_of_named {updates : List CapabilityUpdate} {left right : Finset String}
    {capability : String} (named : ∃ update ∈ updates, update.Names capability) :
    capability ∈ applyUpdates updates left ↔ capability ∈ applyUpdates updates right := by
  induction updates generalizing left right with
  | nil =>
      rcases named with ⟨_, impossible, _⟩
      cases impossible
  | cons head tail induction =>
      change capability ∈ applyUpdates tail (head.delta.apply left) ↔
        capability ∈ applyUpdates tail (head.delta.apply right)
      by_cases here : head.Names capability
      · apply applyUpdates_congr
        rw [mem_delta_apply, mem_delta_apply]
        rcases here with added | removed
        · exact iff_of_true (Or.inr added) (Or.inr added)
        · simp [removed]
      · apply induction
        rcases named with ⟨update, member, names⟩
        rcases List.mem_cons.mp member with rfl | later
        · exact absurd names here
        · exact ⟨update, later, names⟩

namespace CapabilityWatch

open CapabilityBlock

/-- What the delegate knows once the main queue has run dry. -/
def settled (watch : CapabilityWatch) : Finset String :=
  applyUpdates (relayed watch.queue) (applyUpdates (delivered watch.queue) watch.known)

theorem runBlock_settled (watch : CapabilityWatch) :
    watch.runBlock.settled = watch.settled := by
  rcases watch with ⟨device, queue, known⟩
  cases queue with
  | nil => rfl
  | cons head tail =>
      cases head with
      | connectableDevice update => rfl
      | deviceService update =>
          simp [settled, runBlock, delivered, relayed, applyUpdates]

theorem runBlock_device (watch : CapabilityWatch) : watch.runBlock.device = watch.device := by
  rcases watch with ⟨device, queue, known⟩
  cases queue with
  | nil => rfl
  | cons head tail => cases head <;> rfl

theorem runDry_known (watch : CapabilityWatch) : watch.runDry.known = watch.settled := by
  induction watch using runDry.induct with
  | case1 watch empty =>
      rcases watch with ⟨device, queue, known⟩
      cases empty
      rw [runDry]
      rfl
  | case2 watch head tail waiting induction =>
      rw [← runBlock_settled, ← induction]
      rcases watch with ⟨device, queue, known⟩
      cases waiting
      rw [runDry]

/-- An update of a service's list waits to be handed to the device, and names this
capability. -/
def Awaits (watch : CapabilityWatch) (capability : String) : Prop :=
  ∃ update ∈ relayed watch.queue, update.Names capability

/-- A waiting update of a service has the last word. -/
theorem mem_settled_connectableDevice (watch : CapabilityWatch) (device : CapableDevice)
    (updates : List CapabilityUpdate) (capability : String) :
    capability ∈ (watch.enqueue (device, updates.map .connectableDevice)).settled ↔
      (watch.Awaits capability ∧ capability ∈ watch.settled) ∨
        ¬ watch.Awaits capability ∧ capability ∈ applyUpdates updates watch.settled := by
  have relays : relayed (watch.queue ++ updates.map .connectableDevice) =
      relayed watch.queue := by
    simp [relayed, List.filterMap_append, List.filterMap_map]
  have delivers : delivered (watch.queue ++ updates.map .connectableDevice) =
      delivered watch.queue ++ updates := by
    simp [delivered, List.filterMap_append, List.filterMap_map]
  have split : (watch.enqueue (device, updates.map .connectableDevice)).settled =
      applyUpdates (relayed watch.queue)
        (applyUpdates updates (applyUpdates (delivered watch.queue) watch.known)) := by
    rw [settled, enqueue, relays, delivers, applyUpdates, applyUpdates, List.foldl_append]
    rfl
  rw [split]
  by_cases awaits : watch.Awaits capability
  · rw [iff_true_intro awaits, true_and, not_true, false_and, or_false]
    exact applyUpdates_of_named awaits
  · rw [iff_false_intro awaits, false_and, false_or, not_false_eq_true, true_and]
    have unnamed : ∀ update ∈ relayed watch.queue, ¬ update.Names capability := by
      intro update member names
      exact awaits ⟨update, member, names⟩
    rw [applyUpdates_of_unnamed unnamed]
    apply applyUpdates_congr
    rw [settled, applyUpdates_of_unnamed unnamed]

theorem settled_deviceService (watch : CapabilityWatch) (device : CapableDevice)
    (update : CapabilityUpdate) :
    (watch.enqueue (device, [.deviceService update])).settled =
      update.delta.apply watch.settled := by
  simp [settled, enqueue, relayed, delivered, applyUpdates]

theorem settled_silent (watch : CapabilityWatch) (device : CapableDevice) :
    (watch.enqueue (device, [])).settled = watch.settled := by
  simp [settled, enqueue]

end CapabilityWatch

/-! ## What the device provides -/

namespace CapableDevice

/-- A service under another name than these has the capability. -/
def ProvidesExcept (device : CapableDevice) (names : List String) (capability : String) :
    Prop :=
  ∃ name service, device.services.lookup name = some service ∧ name ∉ names ∧
    capability ∈ (device.read service).capabilities

def Provides (device : CapableDevice) (capability : String) : Prop :=
  device.ProvidesExcept [] capability

def Attached (device : CapableDevice) (service : Ref CapableService) : Prop :=
  ∃ name, device.services.lookup name = some service

def OthersProvide (device : CapableDevice) (service : Ref CapableService)
    (capability : String) : Prop :=
  ∃ name other, device.services.lookup name = some other ∧ other ≠ service ∧
    capability ∈ (device.read other).capabilities

theorem mem_capabilities_iff {device : CapableDevice} {capability : String} :
    capability ∈ device.capabilities ↔ device.Provides capability := by
  have inner : ∀ list caps : List String, capability ∈ list.foldl (fun caps item =>
      if caps.contains item then caps else caps ++ [item]) caps ↔
        capability ∈ caps ∨ capability ∈ list := by
    intro list
    induction list with
    | nil => simp
    | cons head tail induction =>
        intro caps
        rw [List.foldl_cons, induction, List.mem_cons, ← or_assoc]
        apply or_congr_left
        split
        · rename_i contained
          rw [List.contains_iff_mem] at contained
          constructor
          · exact Or.inl
          · rintro (member | equal)
            · exact member
            · exact equal ▸ contained
        · rw [List.mem_append, List.mem_singleton]
  have outer : ∀ (services : List (Ref CapableService)) (caps : List String),
      capability ∈ services.foldl (fun caps service =>
        (device.read service).capabilities.foldl (fun caps item =>
          if caps.contains item then caps else caps ++ [item]) caps) caps ↔
        capability ∈ caps ∨
          ∃ service ∈ services, capability ∈ (device.read service).capabilities := by
    intro services
    induction services with
    | nil => simp
    | cons head tail induction =>
        intro caps
        rw [List.foldl_cons, induction, inner, or_assoc]
        simp
  rw [capabilities, outer, Provides, ProvidesExcept]
  simp only [List.not_mem_nil, not_false_eq_true, true_and, false_or,
    Dictionary.mem_values_iff]
  constructor
  · rintro ⟨service, ⟨name, held⟩, has⟩
    exact ⟨name, service, held, has⟩
  · rintro ⟨name, service, held, has⟩
    exact ⟨service, ⟨name, held⟩, has⟩

theorem provides_iff_others (device : CapableDevice) (service : Ref CapableService)
    (capability : String) :
    device.Provides capability ↔
      device.OthersProvide service capability ∨
        device.Attached service ∧ capability ∈ (device.read service).capabilities := by
  constructor
  · rintro ⟨name, other, held, _, has⟩
    by_cases same : other = service
    · subst same
      exact Or.inr ⟨⟨name, held⟩, has⟩
    · exact Or.inl ⟨name, other, held, same, has⟩
  · rintro (⟨name, other, held, _, has⟩ | ⟨⟨name, held⟩, has⟩)
    · exact ⟨name, other, held, List.not_mem_nil, has⟩
    · exact ⟨name, service, held, List.not_mem_nil, has⟩

theorem provides_setServiceCapabilities (device : CapableDevice)
    (service : Ref CapableService) (capabilities : List String) (capability : String) :
    (device.setServiceCapabilities service capabilities).Provides capability ↔
      device.OthersProvide service capability ∨
        device.Attached service ∧ capability ∈ capabilities := by
  rw [provides_iff_others _ service]
  apply or_congr
  · apply exists_congr
    intro name
    apply exists_congr
    intro other
    apply and_congr_right
    intro _
    apply and_congr_right
    intro different
    simp [setServiceCapabilities, read, Heap.read_modify_of_ne different]
  · simp [setServiceCapabilities, read, Attached]

theorem providesExcept_erase (device : CapableDevice) (names : List String) (name : String)
    (capability : String) :
    ({ device with services := device.services.erase name } :
        CapableDevice).ProvidesExcept names capability ↔
      device.ProvidesExcept (name :: names) capability := by
  apply exists_congr
  intro key
  apply exists_congr
  intro service
  simp only [Dictionary.lookup_erase_eq, List.mem_cons, not_or]
  by_cases same : key = name
  · simp [same]
  · simp [same, read]

theorem provides_attachService (device : CapableDevice) (name : String)
    (service : Ref CapableService) (capability : String) :
    (device.attachService name service).Provides capability ↔
      device.ProvidesExcept [name] capability ∨
        capability ∈ (device.read service).capabilities := by
  have same : ∀ other, ((device.attachService name service).read other).capabilities =
      (device.read other).capabilities := by
    intro other
    by_cases own : other = service
    · simp [attachService, read, own]
    · simp [attachService, read, Heap.read_modify_of_ne own]
  constructor
  · rintro ⟨key, other, held, _, has⟩
    rw [same other] at has
    simp only [attachService, Dictionary.lookup_insert_eq] at held
    by_cases here : key = name
    · rw [if_pos here] at held
      cases held
      exact Or.inr has
    · rw [if_neg here] at held
      exact Or.inl ⟨key, other, held, by simpa using here, has⟩
  · rintro (⟨key, other, held, different, has⟩ | has)
    · have here : key ≠ name := by simpa using different
      refine ⟨key, other, ?_, List.not_mem_nil, ?_⟩
      · simp only [attachService, Dictionary.lookup_insert_eq, if_neg here]
        exact held
      · rw [same other]
        exact has
    · refine ⟨name, service, ?_, List.not_mem_nil, ?_⟩
      · simp [attachService]
      · rw [same service]
        exact has

/-! ## What the list of services tells -/

theorem delta_differences (oldCapabilities newCapabilities : List String) :
    (differences oldCapabilities newCapabilities).delta =
      SetDelta.between oldCapabilities.toFinset newCapabilities.toFinset := by
  rw [CapabilityUpdate.delta, SetDelta.between, SetDelta.mk.injEq]
  constructor <;> ext capability <;> simp [differences]

theorem mem_apply_differences {oldCapabilities newCapabilities : List String}
    {known : Finset String} {capability : String} :
    capability ∈ (differences oldCapabilities newCapabilities).delta.apply known ↔
      (capability ∈ known ∧ (capability ∈ oldCapabilities → capability ∈ newCapabilities)) ∨
        capability ∈ newCapabilities ∧ capability ∉ oldCapabilities := by
  rw [delta_differences, SetDelta.mem_apply_between, List.mem_toFinset, List.mem_toFinset]

/-- The names under which `addService:` removes a service first, unless it ignores the
service it is given. -/
def withdrawn (device : CapableDevice) (service : Ref CapableService) (serviceName : String) :
    Option (List String) :=
  match device.services.lookup serviceName with
  | none => some []
  | some existing =>
      if (device.read service).lastDetection > (device.read existing).lastDetection then
        some (device.read existing).serviceName.toList
      else none

theorem removeServiceWithId_spec (device : CapableDevice) (serviceId : String) :
    ∃ updates : List CapabilityUpdate,
      (device.removeServiceWithId serviceId).2 = updates.map .connectableDevice ∧
      (∀ names capability,
        (device.removeServiceWithId serviceId).1.ProvidesExcept names capability ↔
          device.ProvidesExcept (serviceId :: names) capability) ∧
      (device.removeServiceWithId serviceId).1.objects = device.objects ∧
      ∀ known capability, (capability ∈ known ↔ device.Provides capability) →
        (capability ∈ applyUpdates updates known ↔
          device.ProvidesExcept [serviceId] capability) := by
  unfold removeServiceWithId
  cases held : device.services.lookup serviceId with
  | none =>
      have absent : ∀ names capability, device.ProvidesExcept names capability ↔
          device.ProvidesExcept (serviceId :: names) capability := by
        intro names capability
        constructor
        · rintro ⟨name, service, listed, other, has⟩
          refine ⟨name, service, listed, ?_, has⟩
          rw [List.mem_cons, not_or]
          refine ⟨?_, other⟩
          rintro rfl
          cases held.symm.trans listed
        · rintro ⟨name, service, listed, other, has⟩
          exact ⟨name, service, listed, fun member => other (List.mem_cons_of_mem _ member),
            has⟩
      exact ⟨[], rfl, absent, rfl, fun known capability same =>
        same.trans (absent [] capability)⟩
  | some service =>
      refine ⟨[_], rfl, ?_, rfl, ?_⟩
      · intro names capability
        exact device.providesExcept_erase names serviceId capability
      · intro known capability same
        have after : capability ∈
            ({ device with services := device.services.erase serviceId } :
              CapableDevice).capabilities ↔ device.ProvidesExcept [serviceId] capability :=
          mem_capabilities_iff.trans (device.providesExcept_erase [] serviceId capability)
        change capability ∈ (differences _ _).delta.apply known ↔ _
        rw [mem_apply_differences, after, mem_capabilities_iff, same]
        by_cases provides : device.Provides capability <;> simp [provides]

theorem ProvidesExcept.mono {device : CapableDevice} {fewer more : List String}
    {capability : String} (subset : fewer ⊆ more)
    (provides : device.ProvidesExcept more capability) :
    device.ProvidesExcept fewer capability := by
  rcases provides with ⟨name, service, held, other, has⟩
  exact ⟨name, service, held, fun member => other (subset member), has⟩

/-- A service is attached after the services under some names were removed. The last update
counts from the capabilities before both. -/
theorem attached_spec {device removed : CapableDevice} {service : Ref CapableService}
    {serviceName : String} {names : List String} {updates : List CapabilityUpdate}
    (excepts : ∀ others capability, removed.ProvidesExcept others capability ↔
      device.ProvidesExcept (names ++ others) capability)
    (objects : removed.objects = device.objects)
    (known : Finset String) (capability : String)
    (told : capability ∈ applyUpdates updates known ↔
      device.ProvidesExcept names capability) :
    ((removed.attachService serviceName service).Provides capability ↔
      device.ProvidesExcept (names ++ [serviceName]) capability ∨
        capability ∈ (device.read service).capabilities) ∧
    ((capability ∈ applyUpdates (updates ++ [differences device.capabilities
        (removed.attachService serviceName service).capabilities]) known ↔
        (removed.attachService serviceName service).Provides capability) ↔
      (capability ∈ (device.read service).capabilities → device.Provides capability →
        device.ProvidesExcept names capability)) := by
  have after : (removed.attachService serviceName service).Provides capability ↔
      device.ProvidesExcept (names ++ [serviceName]) capability ∨
        capability ∈ (device.read service).capabilities := by
    rw [provides_attachService, excepts, read, objects]
    rfl
  refine ⟨after, ?_⟩
  have split : applyUpdates (updates ++ [differences device.capabilities
        (removed.attachService serviceName service).capabilities]) known =
      (differences device.capabilities (removed.attachService serviceName
        service).capabilities).delta.apply (applyUpdates updates known) := by
    rw [applyUpdates, List.foldl_append]
    rfl
  have kept : device.ProvidesExcept (names ++ [serviceName]) capability →
      device.ProvidesExcept names capability :=
    ProvidesExcept.mono (List.subset_append_left names _)
  have was : device.ProvidesExcept names capability → device.Provides capability :=
    ProvidesExcept.mono (List.nil_subset names)
  rw [split, mem_apply_differences, told, mem_capabilities_iff, mem_capabilities_iff, after]
  grind

theorem addService_ignored {device : CapableDevice} {service : Ref CapableService}
    {serviceName : String} (named : (device.read service).serviceName = some serviceName)
    (ignored : device.withdrawn service serviceName = none) :
    device.addService service = some (device, []) := by
  unfold withdrawn at ignored
  unfold addService
  rw [named]
  dsimp only
  cases held : device.services.lookup serviceName with
  | none =>
      rw [held] at ignored
      cases ignored
  | some existing =>
      rw [held] at ignored
      dsimp only at ignored ⊢
      split at ignored
      · cases ignored
      · rename_i older
        exact if_neg older

theorem addService_spec (device : CapableDevice) (service : Ref CapableService)
    {serviceName : String} {names : List String}
    (named : (device.read service).serviceName = some serviceName)
    (taken : device.withdrawn service serviceName = some names) :
    ∃ after updates,
      device.addService service = some (after, updates.map .connectableDevice) ∧
      ∀ known capability, (capability ∈ known ↔ device.Provides capability) →
        (after.Provides capability ↔
          device.ProvidesExcept (names ++ [serviceName]) capability ∨
            capability ∈ (device.read service).capabilities) ∧
        ((capability ∈ applyUpdates updates known ↔ after.Provides capability) ↔
          (capability ∈ (device.read service).capabilities → device.Provides capability →
            device.ProvidesExcept names capability)) := by
  have unchanged : ∀ others capability, device.ProvidesExcept others capability ↔
      device.ProvidesExcept ([] ++ others) capability := fun _ _ => Iff.rfl
  unfold withdrawn at taken
  unfold addService
  rw [named]
  dsimp only
  cases held : device.services.lookup serviceName with
  | none =>
      rw [held] at taken
      cases taken
      exact ⟨_, [_], rfl, fun known capability same =>
        @attached_spec device device service serviceName [] [] unchanged rfl known capability
          same⟩
  | some existing =>
      rw [held] at taken
      dsimp only at taken ⊢
      split at taken
      · rename_i newer
        cases taken
        rw [if_pos newer, removeExisting]
        cases existingName : (device.read existing).serviceName with
        | none =>
            exact ⟨_, [_], rfl, fun known capability same =>
              @attached_spec device device service serviceName [] [] unchanged rfl known
                capability same⟩
        | some name =>
            rcases device.removeServiceWithId_spec name with
              ⟨updates, blocks, excepts, objects, told⟩
            refine ⟨_, updates ++ [_], ?_, fun known capability same =>
              attached_spec excepts objects known capability (told known capability same)⟩
            rw [List.map_append, ← blocks]
            rfl
      · cases taken

end CapableDevice

namespace CapabilityWatch

/-! ## When the delegate is told the truth -/

/-- What a list of services may change: nothing that a waiting update names, and a service
that is replaced shares with the one that replaces it only what a third one has, too. -/
def RelaysService (watch : CapabilityWatch) (service : Ref CapableService) : Prop :=
  ∀ serviceName names, (watch.device.read service).serviceName = some serviceName →
    watch.device.withdrawn service serviceName = some names →
    ∀ capability,
      (watch.Awaits capability →
        (watch.device.Provides capability ↔
          watch.device.ProvidesExcept (names ++ [serviceName]) capability ∨
            capability ∈ (watch.device.read service).capabilities)) ∧
      (¬ watch.Awaits capability →
        capability ∈ (watch.device.read service).capabilities →
        watch.device.Provides capability → watch.device.ProvidesExcept names capability)

/-- An update that names a capability is right if no other service has what is removed and
the device then has what is added. Where the device is not told, nothing may change. -/
def Relays (watch : CapabilityWatch) : CapabilityEvent → Prop
  | .addService service => watch.RelaysService service
  | .removeServiceWithId serviceId => ∀ capability, watch.Awaits capability →
      watch.device.Provides capability → watch.device.ProvidesExcept [serviceId] capability
  | .setCapabilities service newCapabilities =>
      if (watch.device.read service).delegate = .device then
        (∀ capability ∈ (watch.device.read service).capabilities,
          capability ∉ newCapabilities → ¬ watch.device.OthersProvide service capability) ∧
        ∀ capability ∈ newCapabilities,
          capability ∉ (watch.device.read service).capabilities →
            watch.device.Attached service ∨ watch.device.OthersProvide service capability
      else
        watch.device.Attached service → ∀ capability,
          (capability ∈ (watch.device.read service).capabilities ↔
            capability ∈ newCapabilities) ∨ watch.device.OthersProvide service capability
  | .addCapabilities service capabilities =>
      if (watch.device.read service).delegate = .device then
        ∀ capability ∈ capabilities,
          (watch.Awaits capability → watch.device.Attached service →
            capability ∈ DeviceService.refused (watch.device.read service).capabilities
              capabilities ∨ capability ∈ (watch.device.read service).capabilities ∨
              watch.device.OthersProvide service capability) ∧
          (¬ watch.Awaits capability → watch.device.OthersProvide service capability ∨
            watch.device.Attached service ∧
              capability ∉ DeviceService.refused (watch.device.read service).capabilities
                capabilities)
      else
        watch.device.Attached service → ∀ capability ∈ capabilities,
          capability ∈ DeviceService.refused (watch.device.read service).capabilities
            capabilities ∨ capability ∈ (watch.device.read service).capabilities ∨
            watch.device.OthersProvide service capability
  | .removeCapabilities service capabilities =>
      if (watch.device.read service).delegate = .device then
        ∀ capability ∈ capabilities,
          (watch.Awaits capability → watch.device.Attached service →
            capability ∈ (watch.device.read service).capabilities →
            DeviceService.removable capability = true →
              watch.device.OthersProvide service capability) ∧
          (¬ watch.Awaits capability → ¬ watch.device.OthersProvide service capability ∧
            (watch.device.Attached service →
              capability ∈ (watch.device.read service).capabilities →
                DeviceService.removable capability = true))
      else
        watch.device.Attached service → ∀ capability ∈ capabilities,
          capability ∈ (watch.device.read service).capabilities →
          DeviceService.removable capability = true →
            watch.device.OthersProvide service capability
  | .mainQueue => True

theorem settles_iff (watch : CapabilityWatch) :
    watch.Settles ↔ ∀ capability,
      capability ∈ watch.settled ↔ watch.device.Provides capability := by
  rw [Settles, runDry_known, Finset.ext_iff]
  apply forall_congr'
  intro capability
  rw [List.mem_toFinset, CapableDevice.mem_capabilities_iff]

theorem settles_addService {watch : CapabilityWatch} {service : Ref CapableService}
    (settles : watch.Settles) {changed : CapableDevice × List CapabilityBlock}
    (added : watch.device.addService service = some changed) :
    watch.RelaysService service ↔ (watch.enqueue changed).Settles := by
  rw [settles_iff] at settles ⊢
  cases named : (watch.device.read service).serviceName with
  | none =>
      unfold CapableDevice.addService at added
      rw [named] at added
      cases added
  | some serviceName =>
      cases taken : watch.device.withdrawn service serviceName with
      | none =>
          cases (watch.device.addService_ignored named taken).symm.trans added
          constructor
          · intro _ capability
            rw [settled_silent]
            exact settles capability
          · intro _ other names named' taken'
            cases named.symm.trans named'
            cases taken.symm.trans taken'
      | some names =>
          rcases watch.device.addService_spec service named taken with
            ⟨after, updates, same, spec⟩
          cases same.symm.trans added
          have relays : watch.RelaysService service ↔ ∀ capability,
              (watch.Awaits capability →
                (watch.device.Provides capability ↔
                  watch.device.ProvidesExcept (names ++ [serviceName]) capability ∨
                    capability ∈ (watch.device.read service).capabilities)) ∧
              (¬ watch.Awaits capability →
                capability ∈ (watch.device.read service).capabilities →
                watch.device.Provides capability →
                watch.device.ProvidesExcept names capability) := by
            constructor
            · exact fun holds => holds serviceName names named taken
            · intro holds other others named' taken'
              cases named.symm.trans named'
              cases taken.symm.trans taken'
              exact holds
          rw [relays]
          apply forall_congr'
          intro capability
          rcases spec watch.settled capability (settles capability) with ⟨provides, told⟩
          rw [mem_settled_connectableDevice, settles capability, ← told, ← provides]
          change _ ↔ (_ ↔ after.Provides capability)
          by_cases awaits : watch.Awaits capability <;> simp [awaits]

theorem settles_removeServiceWithId {watch : CapabilityWatch} (settles : watch.Settles)
    (serviceId : String) :
    (∀ capability, watch.Awaits capability → watch.device.Provides capability →
        watch.device.ProvidesExcept [serviceId] capability) ↔
      (watch.enqueue (watch.device.removeServiceWithId serviceId)).Settles := by
  rw [settles_iff] at settles ⊢
  rcases watch.device.removeServiceWithId_spec serviceId with
    ⟨updates, blocks, excepts, _, told⟩
  have split : watch.device.removeServiceWithId serviceId =
      ((watch.device.removeServiceWithId serviceId).1, updates.map .connectableDevice) :=
    Prod.ext rfl blocks
  apply forall_congr'
  intro capability
  have kept : watch.device.ProvidesExcept [serviceId] capability →
      watch.device.Provides capability := CapableDevice.ProvidesExcept.mono (List.nil_subset _)
  have after : (watch.enqueue (watch.device.removeServiceWithId
      serviceId)).device.Provides capability ↔
      watch.device.ProvidesExcept [serviceId] capability := excepts [] capability
  rw [after, split, mem_settled_connectableDevice,
    told watch.settled capability (settles capability), settles capability]
  grind

/-- A service that changes its list and tells the device of it at once. -/
theorem settles_told {watch : CapabilityWatch} {service : Ref CapableService}
    (settles : watch.Settles) (capabilities : List String) (update : CapabilityUpdate) :
    (watch.enqueue (watch.device.setServiceCapabilities service capabilities,
        [.connectableDevice update])).Settles ↔
      ∀ capability, (watch.Awaits capability ∧ watch.device.Provides capability ∨
          ¬ watch.Awaits capability ∧
            ((watch.device.Provides capability ∧ capability ∉ update.removed) ∨
              capability ∈ update.added)) ↔
        watch.device.OthersProvide service capability ∨
          watch.device.Attached service ∧ capability ∈ capabilities := by
  rw [settles_iff] at settles ⊢
  apply forall_congr'
  intro capability
  have told := watch.mem_settled_connectableDevice
    (watch.device.setServiceCapabilities service capabilities) [update] capability
  rw [List.map_singleton] at told
  have after : (watch.enqueue (watch.device.setServiceCapabilities service capabilities,
      [.connectableDevice update])).device.Provides capability ↔ _ :=
    watch.device.provides_setServiceCapabilities service capabilities capability
  have applied : capability ∈ applyUpdates [update] watch.settled ↔
      capability ∈ update.delta.apply watch.settled := Iff.rfl
  rw [told, after, applied, mem_delta_apply, settles capability]

/-- A service that changes its list and tells nobody. -/
theorem settles_untold {watch : CapabilityWatch} {service : Ref CapableService}
    (settles : watch.Settles) (capabilities : List String) :
    (watch.enqueue (watch.device.setServiceCapabilities service capabilities, [])).Settles ↔
      (watch.device.Attached service → ∀ capability,
        (capability ∈ (watch.device.read service).capabilities ↔ capability ∈ capabilities) ∨
          watch.device.OthersProvide service capability) := by
  rw [settles_iff] at settles ⊢
  rw [← forall_comm]
  apply forall_congr'
  intro capability
  have after : (watch.enqueue
      (watch.device.setServiceCapabilities service capabilities, [])).device.Provides
        capability ↔ _ :=
    watch.device.provides_setServiceCapabilities service capabilities capability
  rw [settled_silent, after, settles capability, watch.device.provides_iff_others service]
  by_cases attached : watch.device.Attached service <;>
    by_cases others : watch.device.OthersProvide service capability <;>
    simp [attached, others]

theorem settles_setCapabilities {watch : CapabilityWatch} (settles : watch.Settles)
    (service : Ref CapableService) (newCapabilities : List String) :
    watch.Relays (.setCapabilities service newCapabilities) ↔
      (watch.enqueue (watch.device.setCapabilities service newCapabilities)).Settles := by
  have before := watch.device.provides_iff_others service
  rw [Relays, CapableDevice.setCapabilities]
  by_cases owned : (watch.device.read service).delegate = .device
  · rw [if_pos owned, if_pos owned]
    rw [settles_iff] at settles ⊢
    rw [settled_deviceService, ← forall_and]
    apply forall_congr'
    intro capability
    have after : (watch.enqueue
        (watch.device.setServiceCapabilities service newCapabilities,
          [.deviceService (CapableDevice.differences (watch.device.read service).capabilities
            newCapabilities)])).device.Provides capability ↔ _ :=
      watch.device.provides_setServiceCapabilities service newCapabilities capability
    rw [after, CapableDevice.mem_apply_differences, settles capability, before capability]
    grind
  · rw [if_neg owned, if_neg owned, settles_untold settles]

theorem settles_addCapabilities {watch : CapabilityWatch} (settles : watch.Settles)
    (service : Ref CapableService) (capabilities : List String) :
    watch.Relays (.addCapabilities service capabilities) ↔
      (watch.enqueue (watch.device.addCapabilities service capabilities)).Settles := by
  have before := watch.device.provides_iff_others service
  have added : ∀ capability, capability ∈ DeviceService.addCapabilities capabilities
        (watch.device.read service).capabilities ↔
      capability ∈ (watch.device.read service).capabilities ∨
        capability ∈ capabilities ∧ capability ∉ DeviceService.refused
          (watch.device.read service).capabilities capabilities := by
    intro capability
    by_cases passed : capability ∈ capabilities
    · rw [DeviceService.mem_addCapabilities_iff passed]
      have kept := @DeviceService.not_mem_refused_of_mem
        (watch.device.read service).capabilities capabilities capability
      grind
    · have kept := @DeviceService.mem_addCapabilities_of_mem
        (watch.device.read service).capabilities capabilities capability
      have only := @DeviceService.mem_or_mem_of_mem_addCapabilities
        (watch.device.read service).capabilities capabilities capability
      grind
  rw [Relays, CapableDevice.addCapabilities]
  by_cases owned : (watch.device.read service).delegate = .device
  · rw [if_pos owned, if_pos owned, settles_told settles]
    apply forall_congr'
    intro capability
    rw [before capability, added capability]
    have kept := @DeviceService.not_mem_refused_of_mem
      (watch.device.read service).capabilities capabilities capability
    have nothing : capability ∉ ([] : List String) := List.not_mem_nil
    grind
  · rw [if_neg owned, if_neg owned, settles_untold settles]
    apply imp_congr_right
    intro _
    apply forall_congr'
    intro capability
    rw [added capability]
    grind

theorem settles_removeCapabilities {watch : CapabilityWatch} (settles : watch.Settles)
    (service : Ref CapableService) (capabilities : List String) :
    watch.Relays (.removeCapabilities service capabilities) ↔
      (watch.enqueue (watch.device.removeCapabilities service capabilities)).Settles := by
  have before := watch.device.provides_iff_others service
  rw [Relays, CapableDevice.removeCapabilities]
  by_cases owned : (watch.device.read service).delegate = .device
  · rw [if_pos owned, if_pos owned, settles_told settles]
    apply forall_congr'
    intro capability
    rw [before capability, DeviceService.mem_removeCapabilities_iff, ← Bool.not_eq_true]
    have nothing : capability ∉ ([] : List String) := List.not_mem_nil
    grind
  · rw [if_neg owned, if_neg owned, settles_untold settles]
    apply imp_congr_right
    intro _
    apply forall_congr'
    intro capability
    rw [DeviceService.mem_removeCapabilities_iff, ← Bool.not_eq_true]
    grind

theorem settles_step {watch next : CapabilityWatch} {event : CapabilityEvent}
    (settles : watch.Settles) (stepped : watch.step event = some next) :
    watch.Relays event ↔ next.Settles := by
  cases event with
  | addService service =>
      rcases Option.map_eq_some_iff.mp stepped with ⟨changed, added, rfl⟩
      exact settles_addService settles added
  | removeServiceWithId serviceId =>
      cases stepped
      exact settles_removeServiceWithId settles serviceId
  | setCapabilities service newCapabilities =>
      cases stepped
      exact settles_setCapabilities settles service newCapabilities
  | addCapabilities service capabilities =>
      cases stepped
      exact settles_addCapabilities settles service capabilities
  | removeCapabilities service capabilities =>
      cases stepped
      exact settles_removeCapabilities settles service capabilities
  | mainQueue =>
      cases stepped
      rw [settles_iff] at settles ⊢
      rw [runBlock_settled, runBlock_device]
      exact iff_of_true trivial settles

/-- The delegate always ends with the capabilities of the device, as long as each change is
told rightly and no sooner than what it follows. -/
theorem run_settles_iff {device : CapableDevice} {events : List CapabilityEvent}
    {final : CapabilityWatch}
    (reached : runFrom CapabilityWatch.step (start device) events = some final) :
    EveryStep CapabilityWatch.step Relays (start device) events ↔
      Throughout CapabilityWatch.step Settles (start device) events := by
  have initially : (start device).Settles := by
    rw [Settles, runDry_known]
    rfl
  have preserved : ∀ watch event next, True → CapabilityWatch.step watch event = some next →
      True := fun _ _ _ _ _ => trivial
  exact everyStep_iff_throughout preserved
    (fun _ _ _ _ settles stepped => settles_step settles stepped) trivial initially reached

/-- Two descriptions of a DIAL service, each with an object of its own. -/
def dialServices (capabilities : List String) : Heap CapableService where
  size := 2
  read := fun service =>
    { serviceName := some "DIAL", lastDetection := service.index, capabilities }

/-- A service without capabilities is attached, replaced, and finds an app. -/
theorem run_settles_replaced :
    Throughout CapabilityWatch.step Settles (start { objects := dialServices [] })
      [.addService ⟨0⟩, .mainQueue, .addService ⟨1⟩,
        .addCapabilities ⟨1⟩ ["Launcher.App"], .mainQueue] := by
  apply (run_settles_iff rfl).mp
  have idle : ∀ watch : CapabilityWatch, CapabilityBlock.relayed watch.queue = [] →
      ∀ capability, ¬ watch.Awaits capability := by
    intro watch nothing capability awaits
    rcases awaits with ⟨update, waiting, _⟩
    rw [nothing] at waiting
    cases waiting
  refine ⟨?_, trivial, ?_, ?_, trivial, trivial⟩
  · intro serviceName names named taken capability
    refine ⟨fun awaits => absurd awaits (idle _ rfl capability), fun _ has => ?_⟩
    cases has
  · intro serviceName names named taken capability
    refine ⟨fun awaits => absurd awaits (idle _ rfl capability), fun _ has => ?_⟩
    cases has
  · intro capability member
    cases List.mem_singleton.mp member
    refine ⟨fun awaits => absurd awaits (idle _ rfl "Launcher.App"), fun _ => Or.inr ⟨?_, ?_⟩⟩
    · exact ⟨"DIAL", rfl⟩
    · decide

/-- The service that replaces another has the same capability. -/
theorem replaced_capability_lost :
    ∃ final, runFrom CapabilityWatch.step
        (start { objects := dialServices ["Launcher.App"] })
        [.addService ⟨0⟩, .addService ⟨1⟩] = some final ∧ ¬ final.Settles := by
  refine ⟨_, rfl, fun settles => ?_⟩
  rw [Settles, runDry_known] at settles
  revert settles
  decide

end CapabilityWatch

end ConnectSDK
