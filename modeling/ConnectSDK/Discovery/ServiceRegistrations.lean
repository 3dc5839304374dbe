import ConnectSDK.Foundation.Run
import ConnectSDK.Discovery.DeviceServices

/-! # What is registered

The class table, the filters of the providers and the list of providers, against what was
registered and not unregistered since.
-/

namespace ConnectSDK

/-- What the guards let through. -/
inductive Registration where
  | register (serviceClass : DeviceServiceClass) (newProvider : DiscoveryProviderClass)
  | unregister (serviceClass : DeviceServiceClass)
      (discoveryClass : DiscoveryProviderClass)
  | rejected
deriving DecidableEq

namespace RegistrationEvent

def registration : RegistrationEvent → Registration
  | .registerDeviceService (.deviceService serviceClass) (.discoveryProvider newProvider) =>
      .register serviceClass newProvider
  | .registerDeviceServiceWithFactory (.deviceService serviceClass) newProvider =>
      .register serviceClass newProvider
  | .unregisterDeviceService (.deviceService serviceClass)
      (.discoveryProvider discoveryClass) =>
      .unregister serviceClass discoveryClass
  | _ => .rejected

end RegistrationEvent

namespace DiscoveryRegistry

def handle (clients : ClientParameters) (registry : DiscoveryRegistry) :
    Registration → Option DiscoveryRegistry
  | .register serviceClass newProvider =>
      registry.registerProvided clients serviceClass newProvider
  | .unregister _ discoveryClass => registry.unregisterProvided discoveryClass
  | .rejected => some registry

/-- Every event is one of three cases. -/
theorem step_eq_handle (clients : ClientParameters) (registry : DiscoveryRegistry)
    (event : RegistrationEvent) :
    registry.step clients event = registry.handle clients event.registration := by
  cases event with
  | registerDeviceService deviceClass discoveryClass =>
      cases discoveryClass <;> cases deviceClass <;> rfl
  | registerDeviceServiceWithFactory deviceClass newProvider =>
      cases deviceClass <;> rfl
  | unregisterDeviceService deviceClass discoveryClass =>
      cases discoveryClass <;> cases deviceClass <;> rfl

/-- Reports of the service reach the manager, which knows its class. -/
def IsDiscoverable (clients : ClientParameters) (registry : DiscoveryRegistry)
    (serviceClass : DeviceServiceClass) : Prop :=
  (∃ serviceId, registry.deviceClasses.lookup serviceId = some serviceClass) ∧
    ∃ provider ∈ registry.discoveryProviders,
      (registry.providers.read provider).delegate = true ∧
      ∃ filter ∈ registry.serviceFilters provider,
        serviceClass.discoveryParameters clients = some filter

/-- The filters of a provider are those of the services registered with it, one each. -/
def HasFilters (clients : ClientParameters) (registry : DiscoveryRegistry)
    (registered : Finset (DeviceServiceClass × Ref DiscoveryProvider))
    (provider : Ref DiscoveryProvider) : Prop :=
  ∃ services : List DeviceServiceClass, services.Nodup ∧
    (∀ serviceClass, serviceClass ∈ services ↔ (serviceClass, provider) ∈ registered) ∧
    (registry.serviceFilters provider).map some =
      services.map (DeviceServiceClass.discoveryParameters clients)

/-- The registry holds exactly what is registered. -/
structure Accurate (clients : ClientParameters) (registry : DiscoveryRegistry)
    (registered : Finset (DeviceServiceClass × Ref DiscoveryProvider)) : Prop where
  deviceClasses : ∀ serviceClass,
    (∃ serviceId, registry.deviceClasses.lookup serviceId = some serviceClass) ↔
      ∃ provider, (serviceClass, provider) ∈ registered
  serviceIds : ∀ serviceId serviceClass,
    registry.deviceClasses.lookup serviceId = some serviceClass →
      serviceClass.serviceId clients = some serviceId
  serviceFilters : ∀ provider, HasFilters clients registry registered provider
  discoveryProviders : ∀ provider,
    provider ∈ registry.discoveryProviders ↔ registry.serviceFilters provider ≠ []

/-- What every registration keeps, right or wrong. -/
structure WellFormed (registry : DiscoveryRegistry) : Prop where
  allocated : ∀ provider ∈ registry.discoveryProviders,
    registry.providers.Allocated provider
  delegate : ∀ provider ∈ registry.discoveryProviders,
    (registry.providers.read provider).delegate = true
  filtered : ∀ provider, registry.serviceFilters provider ≠ [] →
    registry.providers.Allocated provider ∧
      (registry.providerClass provider).keepsFilters = true

end DiscoveryRegistry

/-! ## Watching registrations -/

/-- The registry, with the services registered with each provider and not unregistered
since. -/
structure RegistrationWatch where
  registry : DiscoveryRegistry := {}
  registered : Finset (DeviceServiceClass × Ref DiscoveryProvider) := ∅

namespace RegistrationWatch

/-- The registrations as they should be. -/
def record (watch : RegistrationWatch) :
    Registration → Finset (DeviceServiceClass × Ref DiscoveryProvider)
  | .register serviceClass newProvider =>
      insert (serviceClass, (watch.registry.provide newProvider).2) watch.registered
  | .unregister serviceClass discoveryClass =>
      match watch.registry.findProvider discoveryClass with
      | none => watch.registered
      | some provider => watch.registered.erase (serviceClass, provider)
  | .rejected => watch.registered

def step (clients : ClientParameters) (watch : RegistrationWatch)
    (event : RegistrationEvent) : Option RegistrationWatch :=
  (watch.registry.step clients event).map fun registry =>
    { registry, registered := watch.record event.registration }

/-- The registry is accurate after the step, registering once more changed nothing, and
unregistering a service left the others discoverable. -/
structure MeetsStep (clients : ClientParameters) (watch : RegistrationWatch)
    (event : RegistrationEvent) (next : RegistrationWatch) : Prop where
  accurate : next.registry.Accurate clients next.registered
  again : ∀ serviceClass newProvider,
    event.registration = .register serviceClass newProvider →
    (serviceClass, (watch.registry.provide newProvider).2) ∈ watch.registered →
      next.registry = watch.registry
  others : ∀ serviceClass discoveryClass,
    event.registration = .unregister serviceClass discoveryClass →
    ∀ other, other ≠ serviceClass → watch.registry.IsDiscoverable clients other →
      next.registry.IsDiscoverable clients other

/-- The service is new to a provider that keeps its filter, and its id is not that of
another one. -/
def registersNew (clients : ClientParameters) (watch : RegistrationWatch)
    (serviceClass : DeviceServiceClass) (newProvider : DiscoveryProviderClass) : Bool :=
  let (registry, provider) := watch.registry.provide newProvider
  let providerClass := registry.providerClass provider
  match serviceClass.discoveryParameters clients with
  | none => false
  | some parameters =>
      match parameters.serviceId with
      | none => false
      | some serviceId =>
          providerClass.acceptsFilter parameters && providerClass.keepsFilters &&
            decide ((serviceClass, provider) ∉ watch.registered) &&
            (watch.registry.deviceClasses.lookup serviceId).all fun other =>
              other == serviceClass

/-- No provider is found; or the provider's class answers with the service's id, and the
service is registered with this provider only, which has no other one or tells when it is
empty; or the service is not registered with it, and the class answers with an id that is
not in use and tells when it is empty. -/
def unregistersOnly (clients : ClientParameters) (watch : RegistrationWatch)
    (serviceClass : DeviceServiceClass) (discoveryClass : DiscoveryProviderClass) : Bool :=
  match watch.registry.findProvider discoveryClass with
  | none => true
  | some provider =>
      let tellsEmpty := (watch.registry.providerClass provider).tellsEmpty
      match discoveryClass.discoveryParameters.bind DiscoveryParameters.serviceId with
      | none => false
      | some serviceId =>
          if (serviceClass, provider) ∈ watch.registered then
            serviceClass.serviceId clients == some serviceId &&
              decide (∀ other ∈ watch.registered, other.1 = serviceClass →
                other.2 = provider) &&
              (tellsEmpty || decide (∀ other ∈ watch.registered, other.2 = provider →
                other.1 = serviceClass))
          else
            (watch.registry.deviceClasses.lookup serviceId).isNone && tellsEmpty

def keepsAccurate (clients : ClientParameters) (watch : RegistrationWatch)
    (event : RegistrationEvent) : Bool :=
  match event.registration with
  | .register serviceClass newProvider => watch.registersNew clients serviceClass newProvider
  | .unregister serviceClass discoveryClass =>
      watch.unregistersOnly clients serviceClass discoveryClass
  | .rejected => true

end RegistrationWatch

end ConnectSDK
