import ConnectSDK.Foundation.Heap
import ConnectSDK.Services.Config.ServiceDescription

/-! # Device services

A service of a device: its class, the description object it points to, its
configuration and its capabilities.
-/

namespace ConnectSDK

/-- The service classes of the SDK, and any other a client registers. -/
inductive DeviceServiceClass where
  | airPlayService
  | dialService
  | dlnaService
  | netcastTVService
  | rokuService
  | webOSTVService
  | other (name : String) (isConnectable : Bool)
deriving DecidableEq

namespace DeviceServiceClass

def name : DeviceServiceClass → String
  | .airPlayService => "AirPlayService"
  | .dialService => "DIALService"
  | .dlnaService => "DLNAService"
  | .netcastTVService => "NetcastTVService"
  | .rokuService => "RokuService"
  | .webOSTVService => "WebOSTVService"
  | .other name _ => name

def isConnectable : DeviceServiceClass → Bool
  | .other _ isConnectable => isConnectable
  | _ => true

/-- `setServiceConfig:` on a service that has no configuration yet. The two TV
services copy a configuration of another class into one of their own. -/
def adoptConfig : DeviceServiceClass → ServiceConfig → ServiceConfig
  | .webOSTVService, config =>
      match config.subclass with
      | .webOSTVServiceConfig .. => config
      | _ => { config with subclass := .webOSTVServiceConfig none none }
  | .netcastTVService, config =>
      match config.subclass with
      | .netcastTVServiceConfig .. => config
      | _ => { config with subclass := .netcastTVServiceConfig none }
  | _, config => config

/-- What `setServiceDescription:` writes into the description it is given. -/
def completeDescription (serviceClass : DeviceServiceClass)
    (description : ServiceDescription) : ServiceDescription :=
  match serviceClass with
  | .webOSTVService =>
      match description.locationResponseHeaders with
      | none => description
      | some headers =>
          let systemOS := (headers.lookup "Server").map fun serverInfo =>
            (serverInfo.splitOn " ").headD ""
          { description with
            version := systemOS.map fun name => (name.splitOn "/").getLastD "" }
  | .rokuService =>
      { description with
        port := 8060
        commandURL := some ("http://" ++ description.address.getD "(null)" ++ ":8060") }
  | .dialService =>
      match description.locationResponseHeaders with
      | none => description
      | some headers =>
          { description with commandURL := headers.lookup "Application-URL" }
  | _ => description

/-- What `setServiceDescription:` writes into the service's configuration. -/
def completeConfig (serviceClass : DeviceServiceClass)
    (description : ServiceDescription) (config : ServiceConfig) :
    ServiceConfig :=
  match serviceClass with
  | .webOSTVService | .netcastTVService =>
      if config.uuid.isNone then { config with uuid := description.uuid }
      else config
  | _ => config

@[simp] theorem completeDescription_address (serviceClass : DeviceServiceClass)
    (description : ServiceDescription) :
    (serviceClass.completeDescription description).address =
      description.address := by
  rcases description with ⟨_, _, _, _, _, _, _, _, _, _, _, _, _, _, _ | headers, _, _⟩ <;>
    cases serviceClass <;> rfl

end DeviceServiceClass

structure DeviceService where
  serviceClass : DeviceServiceClass
  serviceDescription : Ref ServiceDescription
  serviceConfig : Option ServiceConfig := none
  capabilities : List String := []
  connected : Bool := false

/-- The offset of the first occurrence of a nonempty text. The search is literal, as that of
`rangeOfString:` is where no mark in the text combines with what precedes it. -/
def rangeOfString (searched : List Char) : List Char → Option Nat
  | [] => none
  | character :: rest =>
      if searched.isPrefixOf (character :: rest) then
        if searched.isEmpty then none else some 0
      else (rangeOfString searched rest).map (· + 1)

namespace DeviceService

def isConnectable (service : DeviceService) : Bool :=
  service.serviceClass.isConnectable

/-- A capability that contains `.Any` stands for every capability that
contains what precedes it. -/
def hasCapability (capabilities : List String) (capability : String) : Bool :=
  match rangeOfString ".Any".toList capability.toList with
  | some location =>
      capabilities.any fun item =>
        (rangeOfString (capability.toList.take location) item.toList).isSome
  | none => capabilities.contains capability

/-- `addCapabilities:`, up to the callback to the delegate. -/
def addCapabilities (added capabilities : List String) : List String :=
  added.foldl (fun present capability =>
    if capability.isEmpty || hasCapability present capability then present
    else present ++ [capability]) capabilities

/-- `removeCapabilities:`, up to the callback to the delegate. -/
def removeCapabilities (removed capabilities : List String) : List String :=
  removed.foldl (fun present capability =>
    if capability.isEmpty || !hasCapability present capability then present
    else present.filter (· != capability)) capabilities

/-- `toJSONObject`, given the description the service points to. -/
def toJSONObject (service : DeviceService) (description : ServiceDescription) :
    JSON :=
  let dictionary :=
    JSON.Fields.set [] "class" (.string service.serviceClass.name)
  let dictionary := dictionary.setIfSome "config"
    (service.serviceConfig.map ServiceConfig.toJSONObject)
  .object (dictionary.set "description" description.toJSONObject)

end DeviceService

end ConnectSDK
