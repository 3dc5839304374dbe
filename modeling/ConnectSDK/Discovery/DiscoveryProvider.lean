import ConnectSDK.Services.DeviceService

/-! # Discovery providers

A provider searches for the services whose parameters it was given as filters. What the
search sends and finds is left out.
-/

namespace ConnectSDK

/-! ## Discovery parameters -/

/-- The dictionary under `ssdp` or `zeroconf`. -/
structure SearchInfo where
  filter : Option String := none
deriving DecidableEq

structure DiscoveryParameters where
  serviceId : Option String := none
  ssdp : Option SearchInfo := none
  zeroconf : Option SearchInfo := none
deriving DecidableEq

/-- What the service classes of a client answer to `+discoveryParameters`. -/
abbrev ClientParameters := DeviceServiceClass → Option DiscoveryParameters

namespace DeviceServiceClass

def discoveryParameters (clients : ClientParameters) :
    DeviceServiceClass → Option DiscoveryParameters
  | .airPlayService =>
      some {
        serviceId := some "AirPlay"
        zeroconf := some { filter := some "_airplay._tcp" } }
  | .dialService =>
      some {
        serviceId := some "DIAL"
        ssdp := some { filter := some "urn:dial-multiscreen-org:service:dial:1" } }
  | .dlnaService =>
      some {
        serviceId := some "DLNA"
        ssdp := some { filter := some "urn:schemas-upnp-org:device:MediaRenderer:1" } }
  | .netcastTVService =>
      some {
        serviceId := some "Netcast TV"
        ssdp := some { filter := some "urn:schemas-upnp-org:device:MediaRenderer:1" } }
  | .rokuService =>
      some {
        serviceId := some "Roku"
        ssdp := some { filter := some "roku:ecp" } }
  | .webOSTVService =>
      some {
        serviceId := some "webOS TV"
        ssdp := some { filter := some "urn:lge-com:service:webos-second-screen:1" } }
  | .other name isConnectable => clients (.other name isConnectable)

def serviceId (clients : ClientParameters) (serviceClass : DeviceServiceClass) :
    Option String :=
  (serviceClass.discoveryParameters clients).bind DiscoveryParameters.serviceId

end DeviceServiceClass

/-! ## Provider classes -/

/-- What a client's subclass of a provider implements anew: methods that keep every
filter, an `isEmpty` that looks at the filters, and `+discoveryParameters`, which no
provider class of the SDK has. -/
structure ProviderOverrides where
  deviceFilters : Bool := false
  isEmpty : Bool := false
  discoveryParameters : Option DiscoveryParameters := none
deriving DecidableEq

inductive DiscoveryProviderClass where
  | discoveryProvider
  | ssdpDiscoveryProvider
  | zeroConfDiscoveryProvider
  | subclass (name : String) (superclass : DiscoveryProviderClass)
      (overrides : ProviderOverrides)
deriving DecidableEq

namespace DiscoveryProviderClass

def isSubclassOfClass : DiscoveryProviderClass → DiscoveryProviderClass → Bool
  | .discoveryProvider, other => other == .discoveryProvider
  | .ssdpDiscoveryProvider, other =>
      other == .ssdpDiscoveryProvider || other == .discoveryProvider
  | .zeroConfDiscoveryProvider, other =>
      other == .zeroConfDiscoveryProvider || other == .discoveryProvider
  | .subclass name superclass overrides, other =>
      other == .subclass name superclass overrides || superclass.isSubclassOfClass other

/-- The answer to `+discoveryParameters`. Without one the message raises an exception. -/
def discoveryParameters : DiscoveryProviderClass → Option DiscoveryParameters
  | .subclass _ superclass overrides =>
      overrides.discoveryParameters <|> superclass.discoveryParameters
  | _ => none

/-- `isEmpty` looks at the filters. The inherited one answers `YES`. -/
def tellsEmpty : DiscoveryProviderClass → Bool
  | .subclass _ superclass overrides => overrides.isEmpty || superclass.tellsEmpty
  | _ => false

/-- The methods of the abstract class keep nothing. -/
def keepsFilters : DiscoveryProviderClass → Bool
  | .discoveryProvider => false
  | .ssdpDiscoveryProvider => true
  | .zeroConfDiscoveryProvider => true
  | .subclass _ superclass overrides => overrides.deviceFilters || superclass.keepsFilters

/-- The assertions on a filter that is added. -/
def acceptsFilter (parameters : DiscoveryParameters) : DiscoveryProviderClass → Bool
  | .discoveryProvider => true
  | .ssdpDiscoveryProvider => (parameters.ssdp.bind SearchInfo.filter).isSome
  | .zeroConfDiscoveryProvider => (parameters.zeroconf.bind SearchInfo.filter).isSome
  | .subclass _ superclass overrides =>
      overrides.deviceFilters || superclass.acceptsFilter parameters

end DiscoveryProviderClass

/-! ## Providers -/

structure DiscoveryProvider where
  providerClass : DiscoveryProviderClass
  delegate : Bool := false
  serviceFilters : List DiscoveryParameters := []

/-- `[serviceId isEqualToString:searchTerm]`, where `nil` equals nothing. -/
def DiscoveryParameters.hasServiceId (searchTerm : Option String)
    (parameters : DiscoveryParameters) : Bool :=
  parameters.serviceId.any fun serviceId => searchTerm == some serviceId

namespace DiscoveryProvider

def addDeviceFilter (provider : DiscoveryProvider) (parameters : DiscoveryParameters) :
    Option DiscoveryProvider :=
  if !provider.providerClass.acceptsFilter parameters then
    none
  else if provider.providerClass.keepsFilters then
    some { provider with serviceFilters := provider.serviceFilters ++ [parameters] }
  else
    some provider

/-- Only the first filter with the service's id is removed. -/
def removeDeviceFilter (provider : DiscoveryProvider) (parameters : DiscoveryParameters) :
    DiscoveryProvider :=
  if provider.providerClass.keepsFilters then
    { provider with
      serviceFilters := provider.serviceFilters.eraseP
        (DiscoveryParameters.hasServiceId parameters.serviceId) }
  else
    provider

def isEmpty (provider : DiscoveryProvider) : Bool :=
  if provider.providerClass.tellsEmpty then provider.serviceFilters.isEmpty else true

end DiscoveryProvider

end ConnectSDK
