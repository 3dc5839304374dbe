import ConnectSDK.Foundation.Dictionary
import ConnectSDK.Foundation.Run
import ConnectSDK.Services.DeviceService

/-! # SSDP discovery

A device answers or advertises itself, its description is loaded from its location, and
when the description fits the filter the device is announced. Until then the device stands
in `_helloDevices`, from then on in `_foundServices`, under its UUID. Neither the sockets
nor the search requests are modelled. A step that raises an exception returns `none`.
-/

namespace ConnectSDK

/-- The discovery parameters of a service class, as far as SSDP reads them. -/
structure SSDPServiceFilter where
  serviceId : Option String
  filter : String
  requiredServices : List String := []

/-- The `Location` header, and the host of its URL if that has a scheme and a host. -/
structure SSDPLocation where
  text : String
  host : Option String

/-- A datagram, read as an HTTP message. -/
structure SSDPMessage where
  isHeaderComplete : Bool := true
  requestMethod : Option String := none
  statusCode : Nat := 200
  nt : Option String := none
  st : Option String := none
  usn : Option String := none
  nts : Option String := none
  location : Option SSDPLocation := none

/-- The texts of a `device` element, and what `serviceListForDevice:` reads off it. -/
structure XMLDeviceTexts where
  friendlyName : Option String := none
  modelName : Option String := none
  modelNumber : Option String := none
  modelDescription : Option String := none
  manufacturer : Option String := none
  serviceList : List JSON := []

/-- A `device` element, with the types in its `serviceList` and the devices in its
`deviceList`. -/
inductive XMLDevice where
  | mk (texts : XMLDeviceTexts) (serviceTypes : List String) (deviceList : List XMLDevice)

/-- What a location answers, and the root device if there is one. -/
structure LocationResponse where
  url : Option String := none
  locationXML : Option String := none
  headers : Option (List (String × String)) := none
  device : Option XMLDevice := none

/-- A request of `getLocationData:forKey:andType:` that has no answer yet. -/
structure LocationLoad where
  uuid : String
  type : String

/-- One pass over the service ids of a description, or the end of a session. -/
inductive SSDPAnnouncement where
  | didFindServices (uuid : String) (services : List ServiceDescription)
  | didLoseServices (uuid : String) (services : List ServiceDescription)
  | stopDiscovery

structure SSDPDiscoveryProvider where
  serviceFilters : List SSDPServiceFilter
  foundServices : Dictionary String ServiceDescription := ∅
  helloDevices : Dictionary String ServiceDescription := ∅
  locationLoads : List LocationLoad := []
  isRunning : Bool := false
  announcements : List SSDPAnnouncement := []

/-- A load that fails, or whose answer is not well-formed, has no response. -/
inductive SSDPEvent where
  | didReceiveData (message : SSDPMessage) (address : String) (now : TimeInterval)
  | locationLoaded (index : Nat) (response : Option LocationResponse)
      (now : TimeInterval := 0)
  | startDiscovery
  | stopDiscovery

/-! ## Messages -/

/-- The offset of the last occurrence of a nonempty text. -/
def lastRangeOfString (searched : List Char) : List Char → Option Nat
  | [] => none
  | character :: rest =>
      match lastRangeOfString searched rest with
      | some location => some (location + 1)
      | none => if searched.isPrefixOf (character :: rest) then some 0 else none

namespace SSDPMessage

/-- The UUID between `uuid:` and the last `::` of a USN. Without them the range is empty,
and the code takes what follows the first five characters: a shorter USN raises. Of a USN that
has no character of two UTF-16 units, it is what the code takes. -/
def theUUID (usn : String) : Option String :=
  let uuid := (rangeOfString "uuid:".toList usn.toList).bind fun location =>
    let rest := usn.toList.drop (location + 5)
    (lastRangeOfString "::".toList rest).map rest.take
  match uuid with
  | some uuid => some (String.ofList uuid)
  | none =>
      if 5 ≤ usn.toList.length then some (String.ofList (usn.toList.drop 5)) else none

def theType (message : SSDPMessage) : Option String :=
  if message.requestMethod = some "NOTIFY" then message.nt else message.st

def isByebye (message : SSDPMessage) : Bool :=
  message.nts == some "ssdp:byebye"

end SSDPMessage

/-! ## Filters -/

/-- The predicate `LIKE`: a star stands for any text, a question mark for a character. -/
def like : List Char → List Char → Bool
  | [], text => text.isEmpty
  | '*' :: pattern, text => text.tails.any (like pattern)
  | '?' :: pattern, text =>
      match text with
      | [] => false
      | _ :: rest => like pattern rest
  | character :: pattern, text =>
      match text with
      | [] => false
      | first :: rest => first == character && like pattern rest

namespace XMLDevice

mutual

/-- `device:containingRequiredServices:`, the device itself or one inside it. -/
def containingRequiredServices (requiredServices : List String) :
    XMLDevice → Option XMLDevice
  | .mk texts serviceTypes deviceList =>
      if requiredServices.all serviceTypes.contains then
        some (.mk texts serviceTypes deviceList)
      else firstContaining requiredServices deviceList

def firstContaining (requiredServices : List String) : List XMLDevice → Option XMLDevice
  | [] => none
  | device :: rest =>
      (device.containingRequiredServices requiredServices).or
        (firstContaining requiredServices rest)

end

def texts : XMLDevice → XMLDeviceTexts
  | .mk texts _ _ => texts

end XMLDevice

namespace SSDPDiscoveryProvider

def isSearchingForFilter (provider : SSDPDiscoveryProvider) (filter : String) : Bool :=
  provider.serviceFilters.any fun serviceFilter => serviceFilter.filter == filter

/-- The services that the first filter like this one requires. -/
def requiredServicesForFilter (provider : SSDPDiscoveryProvider) (filter : String) :
    List String :=
  ((provider.serviceFilters.find? fun serviceFilter =>
    like filter.toList serviceFilter.filter.toList).map
      SSDPServiceFilter.requiredServices).getD []

def deviceContainingServicesWithFilter (provider : SSDPDiscoveryProvider)
    (device : XMLDevice) (filter : String) : Option XMLDevice :=
  device.containingRequiredServices (provider.requiredServicesForFilter filter)

/-- `serviceIdsForFilter:`. A filter without a service id raises. -/
def serviceIdsForFilter (provider : SSDPDiscoveryProvider) (filter : Option String) :
    Option (List String) :=
  (provider.serviceFilters.filter fun serviceFilter =>
    decide (some serviceFilter.filter = filter)).mapM SSDPServiceFilter.serviceId

/-- The copies of a description that the delegate gets, one for each service id. -/
def servicesFor (provider : SSDPDiscoveryProvider) (service : ServiceDescription)
    (now : TimeInterval) : Option (List ServiceDescription) :=
  (provider.serviceIdsForFilter service.type).map fun serviceIds =>
    serviceIds.map fun serviceId =>
      { service.copy now with serviceId := some serviceId }

/-! ## Packets -/

def byebye (provider : SSDPDiscoveryProvider) (uuid : String) (now : TimeInterval) :
    Option SSDPDiscoveryProvider :=
  match provider.foundServices.lookup uuid with
  | none => some provider
  | some service =>
      (provider.servicesFor service now).map fun services =>
        { provider with
          foundServices := provider.foundServices.erase uuid
          announcements := provider.announcements ++ [.didLoseServices uuid services] }

/-- An advertisement or an answer. A device that is neither found nor about to be is new. -/
def alive (provider : SSDPDiscoveryProvider) (uuid type : String) (location : SSDPLocation)
    (address : String) (now : TimeInterval) : SSDPDiscoveryProvider :=
  match provider.foundServices.lookup uuid, provider.helloDevices.lookup uuid with
  | some service, _ =>
      { provider with
        foundServices := provider.foundServices.insert uuid
          { service with lastDetection := now } }
  | none, some _ => provider
  | none, none =>
      { provider with
        helloDevices := provider.helloDevices.insert uuid
          { uuid := some uuid
            type := some type
            address := some (location.host.getD address)
            port := 3001
            lastDetection := now }
        locationLoads := provider.locationLoads ++ [{ uuid, type }] }

/-- What a message is about: the type it matches, its USN, if it gets past the checks. -/
def subject (provider : SSDPDiscoveryProvider) (message : SSDPMessage) :
    Option (String × String) :=
  match message.theType, message.usn with
  | some type, some usn =>
      if message.isHeaderComplete && message.statusCode == 200 &&
          message.requestMethod != some "M-SEARCH" &&
          provider.isSearchingForFilter type && !usn.isEmpty then
        some (type, usn)
      else none
  | _, _ => none

/-- `socket:didReceiveData:fromAddress:`. -/
def didReceiveData (provider : SSDPDiscoveryProvider) (message : SSDPMessage)
    (address : String) (now : TimeInterval) : Option SSDPDiscoveryProvider :=
  match provider.subject message with
  | none => some provider
  | some (type, usn) =>
      (SSDPMessage.theUUID usn).bind fun uuid =>
        if uuid.isEmpty then some provider
        else if message.isByebye then provider.byebye uuid now
        else
          match message.location with
          | none => some provider
          | some location =>
              if location.text.isEmpty then some provider
              else some (provider.alive uuid type location address now)

/-! ## Descriptions -/

/-- What the answer of a location adds to a description. -/
def describe (service : ServiceDescription) (type : String) (response : LocationResponse)
    (device : XMLDevice) : ServiceDescription :=
  { service with
    type := some type
    friendlyName := device.texts.friendlyName
    modelName := device.texts.modelName
    modelNumber := device.texts.modelNumber
    modelDescription := device.texts.modelDescription
    manufacturer := device.texts.manufacturer
    locationXML := response.locationXML
    serviceList := some device.texts.serviceList
    commandURL := response.url
    locationResponseHeaders := response.headers }

/-- The device in an answer that fits the filter of the load. -/
def fittingDevice (provider : SSDPDiscoveryProvider) (type : String)
    (response : Option LocationResponse) : Option (LocationResponse × XMLDevice) :=
  response.bind fun response =>
    (response.device.bind fun device =>
      provider.deviceContainingServicesWithFilter device type).map fun device =>
        (response, device)

/-- A device whose description fits is found, if it is still in `_helloDevices`. -/
def findService (provider : SSDPDiscoveryProvider) (load : LocationLoad)
    (response : LocationResponse) (device : XMLDevice) (now : TimeInterval) :
    Option SSDPDiscoveryProvider :=
  match provider.helloDevices.lookup load.uuid with
  | none => some provider
  | some hello =>
      let service := describe hello load.type response device
      (provider.servicesFor service now).map fun services =>
        { provider with
          foundServices := provider.foundServices.insert load.uuid service
          announcements :=
            provider.announcements ++ [.didFindServices load.uuid services] }

/-- The completion handler of `getLocationData:forKey:andType:`. -/
def locationLoaded (provider : SSDPDiscoveryProvider) (load : LocationLoad)
    (response : Option LocationResponse) (now : TimeInterval) :
    Option SSDPDiscoveryProvider :=
  let found :=
    match provider.fittingDevice load.type response with
    | none => some provider
    | some (response, device) => provider.findService load response device now
  found.map fun provider =>
    { provider with helloDevices := provider.helloDevices.erase load.uuid }

/-- Loads that were started are still answered. -/
def stopDiscovery (provider : SSDPDiscoveryProvider) : SSDPDiscoveryProvider :=
  { provider with
    foundServices := ∅
    helloDevices := ∅
    isRunning := false
    announcements := provider.announcements ++ [.stopDiscovery] }

def step (provider : SSDPDiscoveryProvider) : SSDPEvent → Option SSDPDiscoveryProvider
  | .didReceiveData message address now => provider.didReceiveData message address now
  | .locationLoaded index response now =>
      match provider.locationLoads[index]? with
      | none => some provider
      | some load =>
          locationLoaded
            { provider with locationLoads := provider.locationLoads.eraseIdx index }
            load response now
  | .startDiscovery => some { provider with isRunning := true }
  | .stopDiscovery => some provider.stopDiscovery

end SSDPDiscoveryProvider

end ConnectSDK
