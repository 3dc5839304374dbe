import ConnectSDK.Foundation.Dictionary
import ConnectSDK.Foundation.Run
import ConnectSDK.Services.DeviceService

/-! # ZeroConf discovery

The browser finds and removes services by name. A service that was found is resolved; it
stands in `_resolvingDevices` until its resolve ends, and in `_discoveredDevices` once it
has been announced. The searches of the browser, and who keeps a service alive while it
resolves, are not modelled. A step that raises an exception returns `none`.
-/

namespace ConnectSDK

/-- The discovery parameters of a service class, as far as ZeroConf reads them. -/
structure ZeroConfServiceFilter where
  serviceId : Option String
  filter : String

structure NSNetService where
  name : String
  type : String
  deriving DecidableEq

inductive ZeroConfAnnouncement where
  | didFindService (service : ServiceDescription)
  | didLoseService (service : ServiceDescription)

/-- Both dictionaries are `nil` until discovery first starts. -/
structure ZeroConfDiscoveryProvider where
  serviceFilters : List ZeroConfServiceFilter
  resolvingDevices : Option (Dictionary String NSNetService) := none
  discoveredDevices : Option (Dictionary String ServiceDescription) := none
  resolves : List NSNetService := []
  isRunning : Bool := false
  announcements : List ZeroConfAnnouncement := []

/-- The callbacks of the browser, the end of a resolve, and the calls of the manager. Of
the addresses only those of IPv4 are read, as text and port; the TXT record is `none` when
it is not UTF-8. -/
inductive ZeroConfEvent where
  | startDiscovery
  | stopDiscovery
  | didFindService (service : NSNetService)
  | didRemoveService (service : NSNetService)
  | netServiceDidResolveAddress (index : Nat) (addresses : List (Option (String × Nat)))
      (txtRecord : Option String)
  | didNotResolve (index : Nat)

namespace ZeroConfDiscoveryProvider

/-- What a dictionary that may be `nil` holds. -/
def objectForKey (dictionary : Option (Dictionary String Value)) (name : String) :
    Option Value :=
  dictionary.bind fun dictionary => dictionary.lookup name

def setObject (dictionary : Option (Dictionary String Value)) (value : Value)
    (name : String) : Option (Dictionary String Value) :=
  dictionary.map fun dictionary => dictionary.insert name value

def removeObject (dictionary : Option (Dictionary String Value)) (name : String) :
    Option (Dictionary String Value) :=
  dictionary.map fun dictionary => dictionary.erase name

def startDiscovery (provider : ZeroConfDiscoveryProvider) : ZeroConfDiscoveryProvider :=
  if provider.isRunning then provider
  else
    { provider with
      resolvingDevices := some ∅
      discoveredDevices := some ∅
      isRunning := true }

/-- Resolves that were started still end. -/
def stopDiscovery (provider : ZeroConfDiscoveryProvider) : ZeroConfDiscoveryProvider :=
  if provider.isRunning then
    { provider with
      isRunning := false
      resolvingDevices := some ∅
      discoveredDevices := some ∅ }
  else provider

/-- A service of this name is resolving or discovered. -/
def knows (provider : ZeroConfDiscoveryProvider) (name : String) : Bool :=
  (objectForKey provider.resolvingDevices name).isSome ||
    (objectForKey provider.discoveredDevices name).isSome

/-- `netServiceBrowser:didFindService:moreComing:`. -/
def didFindService (provider : ZeroConfDiscoveryProvider) (service : NSNetService) :
    ZeroConfDiscoveryProvider :=
  if provider.knows service.name then provider
  else
    { provider with
      resolves := provider.resolves ++ [service]
      resolvingDevices := setObject provider.resolvingDevices service service.name }

/-- `netServiceBrowser:didRemoveService:moreComing:`. -/
def didRemoveService (provider : ZeroConfDiscoveryProvider) (service : NSNetService) :
    ZeroConfDiscoveryProvider :=
  match objectForKey provider.discoveredDevices service.name with
  | none => provider
  | some description =>
      { provider with
        discoveredDevices := removeObject provider.discoveredDevices service.name
        announcements := provider.announcements ++ [.didLoseService description] }

/-- The service id of the first filter that occurs in a service type. -/
def serviceIdFromFilter (provider : ZeroConfDiscoveryProvider) (filter : String) :
    Option String :=
  if filter.isEmpty then none
  else
    (provider.serviceFilters.find? fun serviceFilter =>
      (rangeOfString serviceFilter.filter.toList filter.toList).isSome).bind
        ZeroConfServiceFilter.serviceId

/-- The fourteen characters after `deviceid=`, or the name of the service. A record that
ends before them raises. Without a record there is no UUID. -/
def resolvedUUID (name : String) : Option String → Option (Option String)
  | none => some none
  | some txtRecord =>
      match rangeOfString "deviceid=".toList txtRecord.toList with
      | none => some (some name)
      | some location =>
          let rest := txtRecord.toList.drop (location + 9)
          if 14 ≤ rest.length then some (some (String.ofList (rest.take 14))) else none

def describe (provider : ZeroConfDiscoveryProvider) (service : NSNetService)
    (address : String) (port : Nat) (uuid : Option String) : ServiceDescription where
  address := some address
  friendlyName := some service.name
  serviceId := provider.serviceIdFromFilter service.type
  port := port
  uuid := uuid
  commandURL := some ("http://" ++ address ++ ":" ++ toString port ++ "/")

/-- `netServiceDidResolveAddress:`. -/
def netServiceDidResolveAddress (provider : ZeroConfDiscoveryProvider)
    (sender : NSNetService) (addresses : List (Option (String × Nat)))
    (txtRecord : Option String) : Option ZeroConfDiscoveryProvider :=
  let provider :=
    { provider with
      resolvingDevices := removeObject provider.resolvingDevices sender.name }
  match addresses.findSome? id with
  | none => some provider
  | some (address, port) =>
      (resolvedUUID sender.name txtRecord).map fun uuid =>
        let service := provider.describe sender address port uuid
        { provider with
          discoveredDevices := setObject provider.discoveredDevices service sender.name
          announcements := provider.announcements ++ [.didFindService service] }

/-- `netService:didNotResolve:`. -/
def didNotResolve (provider : ZeroConfDiscoveryProvider) (sender : NSNetService) :
    ZeroConfDiscoveryProvider :=
  { provider with resolvingDevices := removeObject provider.resolvingDevices sender.name }

/-- The provider once a resolve is over. -/
def withoutResolve (provider : ZeroConfDiscoveryProvider) (index : Nat) :
    ZeroConfDiscoveryProvider :=
  { provider with resolves := provider.resolves.eraseIdx index }

def step (provider : ZeroConfDiscoveryProvider) :
    ZeroConfEvent → Option ZeroConfDiscoveryProvider
  | .startDiscovery => some provider.startDiscovery
  | .stopDiscovery => some provider.stopDiscovery
  | .didFindService service => some (provider.didFindService service)
  | .didRemoveService service => some (provider.didRemoveService service)
  | .netServiceDidResolveAddress index addresses txtRecord =>
      match provider.resolves[index]? with
      | none => some provider
      | some sender =>
          (provider.withoutResolve index).netServiceDidResolveAddress sender addresses
            txtRecord
  | .didNotResolve index =>
      match provider.resolves[index]? with
      | none => some provider
      | some sender => some ((provider.withoutResolve index).didNotResolve sender)

end ZeroConfDiscoveryProvider

end ConnectSDK
