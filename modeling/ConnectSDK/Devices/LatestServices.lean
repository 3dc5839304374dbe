import Mathlib.Data.List.MinMax
import ConnectSDK.Devices.CapabilityUpdates

/-! # The latest service of each name

A service takes the place of the one under its name only if it was detected later. So
under a name a device has the first of the latest services that were ever added.
-/

namespace ConnectSDK

namespace CapableDevice

/-- No service changed its name or the time of its detection. -/
def SameStamps (device after : CapableDevice) : Prop :=
  ∀ service, (after.read service).serviceName = (device.read service).serviceName ∧
    (after.read service).lastDetection = (device.read service).lastDetection

/-- Every service stands under its name. -/
def Keyed (device : CapableDevice) : Prop :=
  ∀ name service, device.services.lookup name = some service →
    (device.read service).serviceName = some name

theorem SameStamps.refl (device : CapableDevice) : device.SameStamps device :=
  fun _ => ⟨rfl, rfl⟩

theorem SameStamps.trans {device middle after : CapableDevice}
    (first : device.SameStamps middle) (second : middle.SameStamps after) :
    device.SameStamps after := fun service =>
  ⟨(second service).1.trans (first service).1, (second service).2.trans (first service).2⟩

/-- Rewriting an object that keeps its name and its detection. -/
theorem sameStamps_modify (device : CapableDevice) (service : Ref CapableService)
    (change : CapableService → CapableService)
    (serviceName : ∀ object, (change object).serviceName = object.serviceName)
    (lastDetection : ∀ object, (change object).lastDetection = object.lastDetection)
    (services : Dictionary String (Ref CapableService)) :
    device.SameStamps { objects := device.objects.modify service change, services } := by
  intro other
  rw [read, read]
  by_cases same : other = service
  · subst same
    rw [Heap.read_modify_self, serviceName, lastDetection]
    exact ⟨rfl, rfl⟩
  · rw [Heap.read_modify_of_ne same]
    exact ⟨rfl, rfl⟩

theorem sameStamps_attachService (device : CapableDevice) (serviceName : String)
    (service : Ref CapableService) :
    device.SameStamps (device.attachService serviceName service) := by
  refine sameStamps_modify device service _ ?_ ?_ _
  · exact fun _ => rfl
  · exact fun _ => rfl

theorem sameStamps_setServiceCapabilities (device : CapableDevice)
    (service : Ref CapableService) (capabilities : List String) :
    device.SameStamps (device.setServiceCapabilities service capabilities) := by
  refine sameStamps_modify device service _ ?_ ?_ _
  · exact fun _ => rfl
  · exact fun _ => rfl

/-- The service that stands under a name after another one of that name was added. -/
def later (device : CapableDevice) (service : Ref CapableService)
    (held : Option (Ref CapableService)) : Option (Ref CapableService) :=
  Option.casesOn held (some service) fun existing =>
    if (device.read existing).lastDetection < (device.read service).lastDetection then
      some service
    else some existing

/-- Adding a service touches its name only. -/
theorem addService_lookup {device after : CapableDevice} {service : Ref CapableService}
    {blocks : List CapabilityBlock} (keyed : device.Keyed)
    (added : device.addService service = some (after, blocks)) :
    ∃ serviceName, (device.read service).serviceName = some serviceName ∧
      device.SameStamps after ∧
      ∀ name, after.services.lookup name =
        if name = serviceName then device.later service (device.services.lookup serviceName)
        else device.services.lookup name := by
  unfold addService at added
  cases named : (device.read service).serviceName with
  | none =>
      rw [named] at added
      cases added
  | some serviceName =>
      refine ⟨serviceName, rfl, ?_⟩
      rw [named] at added
      dsimp only at added
      cases held : device.services.lookup serviceName with
      | none =>
          rw [held] at added
          cases added
          exact ⟨sameStamps_attachService device serviceName service, fun name =>
            Dictionary.lookup_insert_eq ..⟩
      | some existing =>
          rw [held] at added
          dsimp only at added
          by_cases newer :
              (device.read existing).lastDetection < (device.read service).lastDetection
          · -- the service to remove is the one under the same name
            rw [if_pos newer, removeExisting, keyed serviceName existing held] at added
            simp only [removeServiceWithId, held] at added
            cases added
            refine ⟨sameStamps_attachService device serviceName service, fun name => ?_⟩
            rw [later]
            simp only [if_pos newer]
            refine (Dictionary.lookup_insert_eq ..).trans ?_
            by_cases own : name = serviceName
            · rw [if_pos own, if_pos own]
            · rw [if_neg own, if_neg own, Dictionary.lookup_erase_eq, if_neg own]
          · rw [if_neg newer] at added
            cases added
            refine ⟨.refl device, fun name => ?_⟩
            rw [later]
            simp only [if_neg newer]
            by_cases own : name = serviceName
            · rw [if_pos own, own, held]
            · rw [if_neg own]

/-- The first of the latest services that were added under a name. -/
def latest (device : CapableDevice) (added : List (Ref CapableService)) (name : String) :
    Option (Ref CapableService) :=
  @List.argmax _ TimeInterval Int.instLinearOrder.toPartialOrder.toPreorder _
    (fun service => (device.read service).lastDetection)
    (added.filter fun service => decide ((device.read service).serviceName = some name))

theorem latest_concat (device : CapableDevice) (added : List (Ref CapableService))
    (service : Ref CapableService) (name : String) :
    device.latest (added ++ [service]) name =
      if (device.read service).serviceName = some name then
        device.later service (device.latest added name)
      else device.latest added name := by
  rw [latest, List.filter_append]
  by_cases named : (device.read service).serviceName = some name
  · have own : [service].filter (fun service =>
        decide ((device.read service).serviceName = some name)) = [service] := by
      simp [named]
    rw [own, if_pos named, List.argmax_concat]
    rfl
  · have other : [service].filter (fun service =>
        decide ((device.read service).serviceName = some name)) = [] := by
      simp [named]
    rw [other, if_neg named, List.append_nil]
    rfl

theorem serviceName_of_latest {device : CapableDevice} {added : List (Ref CapableService)}
    {name : String} {service : Ref CapableService}
    (held : device.latest added name = some service) :
    (device.read service).serviceName = some name := by
  have member := List.argmax_mem (Option.mem_def.mpr held)
  exact of_decide_eq_true (List.mem_filter.mp member).2

theorem SameStamps.later {device after : CapableDevice} (same : device.SameStamps after)
    (service : Ref CapableService) (held : Option (Ref CapableService)) :
    after.later service held = device.later service held := by
  cases held with
  | none => rfl
  | some existing =>
      simp only [CapableDevice.later, (same existing).2, (same service).2]

/-- The device holds the first of the latest services that were added under each name. -/
structure HoldsLatest (origin : CapableDevice) (added : List (Ref CapableService))
    (device : CapableDevice) : Prop where
  stamps : origin.SameStamps device
  held : ∀ name, device.services.lookup name = origin.latest added name

theorem HoldsLatest.keyed {origin device : CapableDevice}
    {added : List (Ref CapableService)} (holds : HoldsLatest origin added device) :
    device.Keyed := by
  intro name service held
  rw [(holds.stamps service).1]
  exact serviceName_of_latest ((holds.held name).symm.trans held)

theorem HoldsLatest.addService {origin device after : CapableDevice}
    {added : List (Ref CapableService)} (holds : HoldsLatest origin added device)
    {service : Ref CapableService} {blocks : List CapabilityBlock}
    (taken : device.addService service = some (after, blocks)) :
    HoldsLatest origin (added ++ [service]) after := by
  rcases addService_lookup holds.keyed taken with ⟨serviceName, named, stamps, lookup⟩
  refine ⟨holds.stamps.trans stamps, fun name => ?_⟩
  rw [(holds.stamps service).1] at named
  rw [lookup, latest_concat, named, holds.stamps.later, holds.held, holds.held]
  by_cases own : name = serviceName
  · rw [if_pos own, if_pos (by rw [own]), own]
  · rw [if_neg own, if_neg fun same => own (Option.some.inj same).symm]

theorem HoldsLatest.of_services {origin device after : CapableDevice}
    {added : List (Ref CapableService)} (holds : HoldsLatest origin added device)
    (stamps : device.SameStamps after) (services : after.services = device.services) :
    HoldsLatest origin added after :=
  ⟨holds.stamps.trans stamps, fun name => by rw [services, holds.held]⟩

end CapableDevice

namespace CapabilityEvent

/-- No service is removed but to make room for another one. -/
def Keeps : CapabilityEvent → Prop
  | .removeServiceWithId _ => False
  | _ => True

def addedService : CapabilityEvent → Option (Ref CapableService)
  | .addService service => some service
  | _ => none

end CapabilityEvent

namespace CapabilityWatch

open CapableDevice

theorem holdsLatest_step {origin : CapableDevice} {added : List (Ref CapableService)}
    {watch next : CapabilityWatch} {event : CapabilityEvent}
    (holds : HoldsLatest origin added watch.device) (keeps : event.Keeps)
    (stepped : watch.step event = some next) :
    HoldsLatest origin (added ++ event.addedService.toList) next.device := by
  have same : event.addedService = none →
      added ++ event.addedService.toList = added := fun none => by simp [none]
  cases event with
  | addService service =>
      rcases Option.map_eq_some_iff.mp stepped with ⟨⟨after, blocks⟩, taken, rfl⟩
      exact holds.addService taken
  | removeServiceWithId serviceId => exact False.elim keeps
  | setCapabilities service newCapabilities =>
      cases stepped
      rw [same rfl]
      exact holds.of_services (sameStamps_setServiceCapabilities _ _ _) rfl
  | addCapabilities service capabilities =>
      cases stepped
      rw [same rfl]
      exact holds.of_services (sameStamps_setServiceCapabilities _ _ _) rfl
  | removeCapabilities service capabilities =>
      cases stepped
      rw [same rfl]
      exact holds.of_services (sameStamps_setServiceCapabilities _ _ _) rfl
  | mainQueue =>
      cases stepped
      rw [same rfl, runBlock_device]
      exact holds

theorem holdsLatest_run {origin : CapableDevice} :
    ∀ {events : List CapabilityEvent} {added : List (Ref CapableService)}
      {watch final : CapabilityWatch}, HoldsLatest origin added watch.device →
      (∀ event ∈ events, event.Keeps) →
      runFrom CapabilityWatch.step watch events = some final →
      HoldsLatest origin (added ++ events.filterMap CapabilityEvent.addedService)
        final.device
  | [], added, watch, final, holds, _, reached => by
      cases reached
      rw [List.filterMap_nil, List.append_nil]
      exact holds
  | event :: events, added, watch, final, holds, keeps, reached => by
      cases taken : watch.step event with
      | none =>
          rw [runFrom, taken] at reached
          cases reached
      | some next =>
          rw [runFrom, taken] at reached
          have stepped := holdsLatest_step holds (keeps event List.mem_cons_self) taken
          have rest := holdsLatest_run stepped
            (fun other member => keeps other (List.mem_cons_of_mem event member)) reached
          have split : (event :: events).filterMap CapabilityEvent.addedService =
              event.addedService.toList ++
                events.filterMap CapabilityEvent.addedService := by
            cases event <;> rfl
          rw [split, ← List.append_assoc]
          exact rest

/-- Under each name a device has exactly one service, the first of the latest ones that were
added, in whatever order names, repetitions and ties came. -/
theorem services_named_eq_latest {device : CapableDevice} {events : List CapabilityEvent}
    {final : CapabilityWatch} (fresh : device.services = ∅)
    (keeps : ∀ event ∈ events, event.Keeps)
    (reached : runFrom CapabilityWatch.step (start device) events = some final)
    (name : String) :
    final.device.services.values.filter (fun service =>
        decide ((final.device.read service).serviceName = some name)) =
      (device.latest (events.filterMap CapabilityEvent.addedService) name).toList := by
  have initially : HoldsLatest device [] (start device).device :=
    ⟨.refl device, fun name => by rw [start, fresh]; rfl⟩
  have holds := holdsLatest_run initially keeps reached
  rw [Dictionary.filter_values_keyed holds.keyed name, holds.held, List.nil_append]

/-- Four services: a DLNA service, one that is detected later, one at the same time as that,
and a DIAL service. -/
def detectedServices : CapableDevice where
  objects :=
    ((((Heap.empty { serviceName := none, lastDetection := 0 }).allocate
      { serviceName := some "DLNA", lastDetection := 3 }).allocate
      { serviceName := some "DLNA", lastDetection := 5 }).allocate
      { serviceName := some "DLNA", lastDetection := 5 }).allocate
      { serviceName := some "DIAL", lastDetection := 4 }

theorem services_named_eq_latest_detected : ∃ final,
    runFrom CapabilityWatch.step (start detectedServices)
        [.addService ⟨0⟩, .addService ⟨3⟩, .addService ⟨1⟩, .addService ⟨2⟩] = some final ∧
      final.device.services.values.filter (fun service =>
        decide ((final.device.read service).serviceName = some "DLNA")) = [⟨1⟩] := by
  have completes : (runFrom CapabilityWatch.step (start detectedServices)
      [.addService ⟨0⟩, .addService ⟨3⟩, .addService ⟨1⟩, .addService ⟨2⟩]).isSome = true := by
    decide +kernel
  rcases Option.isSome_iff_exists.mp completes with ⟨final, reached⟩
  have keeps : ∀ event ∈ [CapabilityEvent.addService ⟨0⟩, .addService ⟨3⟩,
      .addService ⟨1⟩, .addService ⟨2⟩], event.Keeps := by
    intro event member
    simp only [List.mem_cons, List.not_mem_nil, or_false] at member
    rcases member with rfl | rfl | rfl | rfl <;> trivial
  refine ⟨final, reached, (services_named_eq_latest rfl keeps reached "DLNA").trans ?_⟩
  decide +kernel

end CapabilityWatch

end ConnectSDK
