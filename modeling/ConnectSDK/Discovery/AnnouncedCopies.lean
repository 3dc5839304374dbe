import ConnectSDK.Discovery.SSDPSteps
import ConnectSDK.Services.Config.DescriptionEquality

/-! # The copies that SSDP discovery announces

A copy of a description equals it unless the description has a device object, which the
copy lacks. Nothing that SSDP discovers has one.
-/

namespace ConnectSDK

namespace ServiceDescription

theorem isEqual_copy_iff (components : ComponentEquality)
    {heap : Heap ServiceDescription} {description : Ref ServiceDescription}
    (allocated : heap.Allocated description) (now : TimeInterval) :
    isEqual components (heap.allocate ((heap.read description).copy now)) heap.fresh
        (some description) = true ↔
      (heap.read description).device = none := by
  have equal := isEqualToServiceDescription_copy components (heap.read description)
    (heap.read description).serviceId now
  rw [isEqual_some, ← isEqualToServiceDescription_eq, Heap.read_allocate_fresh,
    Heap.read_allocate_of_ne allocated.ne_fresh, ← Option.isNone_iff_eq_none, ← equal]
  rfl

end ServiceDescription

namespace SSDPDiscoveryProvider

open ServiceDescription

/-- The copies for the service ids carry every compared field of the description. -/
def CopiesCarry (components : ComponentEquality) (service : ServiceDescription)
    (services : List ServiceDescription) : Prop :=
  ∀ copy ∈ services, isEqualToServiceDescription components copy
    { service with serviceId := copy.serviceId } = true

theorem copiesCarry_iff (components : ComponentEquality)
    {provider : SSDPDiscoveryProvider} {service : ServiceDescription} {now : TimeInterval}
    {services : List ServiceDescription}
    (copies : provider.servicesFor service now = some services) :
    CopiesCarry components service services ↔ services = [] ∨ service.device = none := by
  rcases Option.map_eq_some_iff.mp copies with ⟨serviceIds, _, rfl⟩
  have each : ∀ serviceId : String,
      isEqualToServiceDescription components
          { service.copy now with serviceId := some serviceId }
          { service with serviceId := some serviceId } = true ↔ service.device = none := by
    intro serviceId
    rw [isEqualToServiceDescription_copy, Option.isNone_iff_eq_none]
  cases serviceIds with
  | nil => exact iff_of_true (fun _ member => by cases member) (Or.inl rfl)
  | cons serviceId rest =>
      constructor
      · intro carry
        exact Or.inr ((each serviceId).mp (carry _ List.mem_cons_self))
      · intro absent copy member
        rcases List.mem_map.mp member with ⟨other, _, rfl⟩
        exact (each other).mpr (absent.resolve_left (List.cons_ne_nil _ _))

/-- Neither table holds a description with a device object. -/
structure WithoutDevices (provider : SSDPDiscoveryProvider) : Prop where
  found : provider.foundServices.AllValues fun service => service.device = none
  hello : provider.helloDevices.AllValues fun service => service.device = none

theorem WithoutDevices.receives {provider next : SSDPDiscoveryProvider}
    {message : SSDPMessage} {address : String} {now : TimeInterval}
    (without : provider.WithoutDevices)
    (receives : Receives provider message address now next) : next.WithoutDevices := by
  cases receives with
  | ignored _ => exact without
  | unknown _ _ _ => exact without
  | nowhere _ _ _ => exact without
  | awaited _ _ _ _ _ _ => exact without
  | lost _ _ _ _ => exact ⟨without.found.erase _, without.hello⟩
  | @refreshed uuid _ _ service _ _ _ _ held =>
      have absent : service.device = none := without.found uuid service held
      exact ⟨without.found.insert absent, without.hello⟩
  | greeted _ _ _ _ _ _ => exact ⟨without.found, without.hello.insert rfl⟩

/-- Completing a description leaves its device object as it was. -/
theorem WithoutDevices.loads {provider next : SSDPDiscoveryProvider} {load : LocationLoad}
    {response : Option LocationResponse} {now : TimeInterval}
    (without : provider.WithoutDevices)
    (loads : Loads provider load response now next) : next.WithoutDevices := by
  cases loads with
  | dismissed _ => exact ⟨without.found, without.hello.erase _⟩
  | @found answer device hello _ _ held _ =>
      have absent : hello.device = none := without.hello load.uuid hello held
      exact ⟨without.found.insert absent, without.hello.erase _⟩

theorem WithoutDevices.step {provider next : SSDPDiscoveryProvider} {event : SSDPEvent}
    (without : provider.WithoutDevices) (stepped : provider.step event = some next) :
    next.WithoutDevices := by
  cases step_reacts stepped with
  | received receives => exact without.receives receives
  | unanswered _ => exact without
  | @answered index _ _ _ _ pending loads =>
      have forgotten : WithoutDevices { provider with
          locationLoads := provider.locationLoads.eraseIdx index } :=
        ⟨without.found, without.hello⟩
      exact forgotten.loads loads
  | started => exact ⟨without.found, without.hello⟩
  | stopped => exact ⟨Dictionary.allValues_empty _, Dictionary.allValues_empty _⟩

theorem withoutDevices_of_run {serviceFilters : List SSDPServiceFilter}
    {events : List SSDPEvent} {reached : SSDPDiscoveryProvider}
    (run : runFrom SSDPDiscoveryProvider.step { serviceFilters } events = some reached) :
    reached.WithoutDevices := by
  have initially : WithoutDevices { serviceFilters } :=
    ⟨Dictionary.allValues_empty _, Dictionary.allValues_empty _⟩
  exact runFrom_invariant (fun _ _ _ without _ stepped => without.step stepped) initially
    (everyStep_of_forall (fun _ _ => trivial) _ _) run

/-- A copy equals its description exactly when the description has no device object, and the
copies that are announced carry every field exactly then. What SSDP discovers has none. -/
theorem copies_equal_iff (components : ComponentEquality) :
    (∀ (heap : Heap ServiceDescription) (description : Ref ServiceDescription)
      (now : TimeInterval), heap.Allocated description →
      (isEqual components (heap.allocate ((heap.read description).copy now)) heap.fresh
          (some description) = true ↔
        (heap.read description).device = none)) ∧
    (∀ (provider : SSDPDiscoveryProvider) (service : ServiceDescription)
      (now : TimeInterval) (services : List ServiceDescription),
      provider.servicesFor service now = some services →
      (CopiesCarry components service services ↔
        services = [] ∨ service.device = none)) ∧
    ∀ (serviceFilters : List SSDPServiceFilter) (events : List SSDPEvent)
      (reached : SSDPDiscoveryProvider),
      runFrom SSDPDiscoveryProvider.step { serviceFilters } events = some reached →
      ∀ (uuid : String) (service : ServiceDescription),
        reached.foundServices.lookup uuid = some service →
        ∀ (now : TimeInterval) (services : List ServiceDescription),
          reached.servicesFor service now = some services →
          CopiesCarry components service services := by
  refine ⟨?_, ?_, ?_⟩
  · intro heap description now allocated
    exact isEqual_copy_iff components allocated now
  · intro provider service now services copies
    exact copiesCarry_iff components copies
  · intro serviceFilters events reached run uuid service held now services copies
    have absent := (withoutDevices_of_run run).found uuid service held
    exact (copiesCarry_iff components copies).mpr (Or.inr absent)

/-- Component classes that hash by length. Only `nil` arrays are compared with them here. -/
def lengthComponents : ComponentEquality where
  strings := .strings
  urls := .strings
  arrays := (ObjectEquality.ofHash UInt64.ofNat).comap List.length
  dictionaries := .ofHash fun entries => UInt64.ofNat entries.length
  objects := .ofHash fun object => UInt64.ofNat object.address

/-- A heap with the description of a Cast device, which only its device object controls. -/
def castHeap (device : Option AnyObject) : Heap ServiceDescription :=
  (Heap.empty {}).allocate
    { serviceId := some "Chromecast", address := some "10.0.0.9", device }

theorem copies_equal_cast :
    isEqual lengthComponents
        ((castHeap none).allocate (((castHeap none).read ⟨0⟩).copy 5)) (castHeap none).fresh
        (some ⟨0⟩) = true ∧
      CopiesCarry lengthComponents { type := some "dial" }
        [{ type := some "dial", serviceId := some "DIAL", lastDetection := 5 }] := by
  have equal := copies_equal_iff lengthComponents
  constructor
  · exact (equal.1 (castHeap none) ⟨0⟩ 5 (by decide)).mpr rfl
  · let dialFilters : List SSDPServiceFilter := [{ serviceId := some "DIAL", filter := "dial" }]
    exact (equal.2.1 { serviceFilters := dialFilters } _ 5 _ rfl).mpr (Or.inr rfl)

/-- The copy of a description with a device object does not equal it. -/
theorem copy_drops_device :
    ¬ ∀ (components : ComponentEquality) (heap : Heap ServiceDescription)
      (description : Ref ServiceDescription) (now : TimeInterval),
      heap.Allocated description →
      isEqual components (heap.allocate ((heap.read description).copy now)) heap.fresh
        (some description) = true := by
  intro always
  have equal := always lengthComponents (castHeap (some ⟨1⟩)) ⟨0⟩ 5 (by decide)
  exact absurd equal (by decide)

end SSDPDiscoveryProvider

end ConnectSDK
