import Mathlib.Data.Finset.Basic
import ConnectSDK.Foundation.Dictionary
import ConnectSDK.Foundation.Heap
import ConnectSDK.Discovery.DiscoveryProvider

/-! # Registered device services

The classes of the services that the discovery manager finds devices for, and the
providers that find them. Starting and stopping the search is left out.
-/

namespace ConnectSDK

/-- A class object. -/
inductive RuntimeClass where
  | deviceService (serviceClass : DeviceServiceClass)
  | discoveryProvider (providerClass : DiscoveryProviderClass)
  | other
deriving DecidableEq

/-- The part of the discovery manager that registering changes. -/
structure DiscoveryRegistry where
  deviceClasses : Dictionary String DeviceServiceClass := ∅
  discoveryProviders : List (Ref DiscoveryProvider) := []
  providers : Heap DiscoveryProvider := Heap.empty { providerClass := .discoveryProvider }

/-- The factory returns a new provider of some class. -/
inductive RegistrationEvent where
  | registerDeviceService (deviceClass discoveryClass : RuntimeClass)
  | registerDeviceServiceWithFactory (deviceClass : RuntimeClass)
      (newProvider : DiscoveryProviderClass)
  | unregisterDeviceService (deviceClass discoveryClass : RuntimeClass)

namespace DiscoveryRegistry

def providerClass (registry : DiscoveryRegistry) (provider : Ref DiscoveryProvider) :
    DiscoveryProviderClass :=
  (registry.providers.read provider).providerClass

def serviceFilters (registry : DiscoveryRegistry) (provider : Ref DiscoveryProvider) :
    List DiscoveryParameters :=
  (registry.providers.read provider).serviceFilters

/-- The first provider of the class or of a subclass. -/
def findProvider (registry : DiscoveryRegistry) (discoveryClass : DiscoveryProviderClass) :
    Option (Ref DiscoveryProvider) :=
  registry.discoveryProviders.find? fun provider =>
    (registry.providerClass provider).isSubclassOfClass discoveryClass

/-- The provider that a service is registered with, which is new if none was found. -/
def provide (registry : DiscoveryRegistry) (newProvider : DiscoveryProviderClass) :
    DiscoveryRegistry × Ref DiscoveryProvider :=
  match registry.findProvider newProvider with
  | some provider => (registry, provider)
  | none =>
      ({ registry with
          discoveryProviders := registry.discoveryProviders ++ [registry.providers.fresh]
          providers := registry.providers.allocate
            { providerClass := newProvider, delegate := true } },
        registry.providers.fresh)

def addDeviceFilter (registry : DiscoveryRegistry) (provider : Ref DiscoveryProvider)
    (parameters : DiscoveryParameters) : Option DiscoveryRegistry :=
  ((registry.providers.read provider).addDeviceFilter parameters).map fun added =>
    { registry with providers := registry.providers.modify provider fun _ => added }

/-- A service without an id raises an exception when it is put under `nil`. -/
def registerProvided (registry : DiscoveryRegistry) (clients : ClientParameters)
    (serviceClass : DeviceServiceClass) (newProvider : DiscoveryProviderClass) :
    Option DiscoveryRegistry := do
  let (registry, provider) := registry.provide newProvider
  let parameters ← serviceClass.discoveryParameters clients
  let serviceId ← parameters.serviceId
  addDeviceFilter
    { registry with
      deviceClasses := registry.deviceClasses.insert serviceId serviceClass }
    provider parameters

def registerDeviceServiceWithFactory (registry : DiscoveryRegistry)
    (clients : ClientParameters) (deviceClass : RuntimeClass)
    (newProvider : DiscoveryProviderClass) : Option DiscoveryRegistry :=
  match deviceClass with
  | .deviceService serviceClass =>
      registry.registerProvided clients serviceClass newProvider
  | _ => some registry

def registerDeviceService (registry : DiscoveryRegistry) (clients : ClientParameters)
    (deviceClass discoveryClass : RuntimeClass) : Option DiscoveryRegistry :=
  match discoveryClass with
  | .discoveryProvider providerClass =>
      registry.registerDeviceServiceWithFactory clients deviceClass providerClass
  | _ => some registry

/-- A provider without filters is dropped. -/
def dropEmptyProvider (registry : DiscoveryRegistry) (provider : Ref DiscoveryProvider) :
    DiscoveryRegistry :=
  if (registry.providers.read provider).isEmpty then
    { registry with
      discoveryProviders := registry.discoveryProviders.filter fun other => other != provider
      providers := registry.providers.modify provider fun provider =>
        { provider with delegate := false } }
  else
    registry

/-- The parameters asked for are those of the provider's class. Without an id nothing
can be removed under `nil`, which raises an exception. -/
def unregisterProvided (registry : DiscoveryRegistry)
    (discoveryClass : DiscoveryProviderClass) : Option DiscoveryRegistry :=
  match registry.findProvider discoveryClass with
  | none => some registry
  | some provider => do
      let parameters ← discoveryClass.discoveryParameters
      let serviceId ← parameters.serviceId
      some (dropEmptyProvider
        { registry with
          deviceClasses := registry.deviceClasses.erase serviceId
          providers := registry.providers.modify provider fun provider =>
            provider.removeDeviceFilter parameters }
        provider)

def unregisterDeviceService (registry : DiscoveryRegistry)
    (deviceClass discoveryClass : RuntimeClass) : Option DiscoveryRegistry :=
  match discoveryClass, deviceClass with
  | .discoveryProvider providerClass, .deviceService _ =>
      registry.unregisterProvided providerClass
  | _, _ => some registry

def step (clients : ClientParameters) (registry : DiscoveryRegistry) :
    RegistrationEvent → Option DiscoveryRegistry
  | .registerDeviceService deviceClass discoveryClass =>
      registry.registerDeviceService clients deviceClass discoveryClass
  | .registerDeviceServiceWithFactory deviceClass newProvider =>
      registry.registerDeviceServiceWithFactory clients deviceClass newProvider
  | .unregisterDeviceService deviceClass discoveryClass =>
      registry.unregisterDeviceService deviceClass discoveryClass

end DiscoveryRegistry

end ConnectSDK
