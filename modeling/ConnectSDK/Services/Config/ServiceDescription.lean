import ConnectSDK.Services.Config.ServiceConfig

/-! # Service descriptions

What discovery learned about one service of a device.
-/

namespace ConnectSDK

/-- An object of another framework, known by its address only. -/
structure AnyObject where
  address : Nat
deriving DecidableEq

structure ServiceDescription where
  address : Option String := none
  serviceId : Option String := none
  port : Nat := 0
  uuid : Option String := none
  type : Option String := none
  version : Option String := none
  friendlyName : Option String := none
  manufacturer : Option String := none
  modelName : Option String := none
  modelDescription : Option String := none
  modelNumber : Option String := none
  commandURL : Option String := none
  locationXML : Option String := none
  serviceList : Option (List JSON) := none
  locationResponseHeaders : Option (List (String × String)) := none
  lastDetection : TimeInterval := 0
  device : Option AnyObject := none

/-- `[value intValue]` on a number, which keeps the lower 32 bits. The encoder
writes no port as a string, which the method would parse; here one reads as
zero. -/
def JSON.intValue : JSON → Int
  | .number value => value.bmod 4294967296
  | .bool value => value.toNat
  | _ => 0

namespace ServiceDescription

def initWithAddress (address uuid : Option String) (now : TimeInterval) :
    ServiceDescription :=
  { address, uuid, port := 0, lastDetection := now }

/-- `initWithJSONObject:`. The port goes from a signed number of 32 bits into an unsigned
one of 64. -/
def initWithJSONObject (urlWithString : String → Option String) (dictionary : JSON) :
    ServiceDescription :=
  let text := fun key => (dictionary.value? key).bind JSON.string?
  { serviceId := text "serviceId"
    address := text "address"
    port :=
      (((dictionary.value? "port").map JSON.intValue).getD 0 %
        18446744073709551616).toNat
    uuid := text "UUID"
    type := text "serviceId"
    version := text "version"
    friendlyName := text "friendlyName"
    manufacturer := text "manufacturer"
    modelName := text "modelName"
    modelDescription := text "modelDescription"
    modelNumber := text "modelNumber"
    commandURL := (text "commandURL").bind urlWithString }

def toJSONObject (description : ServiceDescription) : JSON :=
  let text := fun (value : Option String) => value.map JSON.string
  let dictionary := JSON.Fields.setIfSome [] "serviceId" (text description.serviceId)
  let dictionary := dictionary.setIfSome "address" (text description.address)
  let dictionary := dictionary.setIfSome "port" (JSON.ofNonzero description.port)
  let dictionary := dictionary.setIfSome "UUID" (text description.uuid)
  let dictionary := dictionary.setIfSome "type" (text description.type)
  let dictionary := dictionary.setIfSome "version" (text description.version)
  let dictionary :=
    dictionary.setIfSome "friendlyName" (text description.friendlyName)
  let dictionary :=
    dictionary.setIfSome "manufacturer" (text description.manufacturer)
  let dictionary := dictionary.setIfSome "modelName" (text description.modelName)
  let dictionary :=
    dictionary.setIfSome "modelDescription" (text description.modelDescription)
  let dictionary :=
    dictionary.setIfSome "modelNumber" (text description.modelNumber)
  .object (dictionary.setIfSome "commandURL" (text description.commandURL))

def copy (description : ServiceDescription) (now : TimeInterval) : ServiceDescription :=
  { initWithAddress description.address description.uuid now with
    serviceId := description.serviceId
    port := description.port
    type := description.type
    version := description.version
    friendlyName := description.friendlyName
    manufacturer := description.manufacturer
    modelName := description.modelName
    modelDescription := description.modelDescription
    modelNumber := description.modelNumber
    commandURL := description.commandURL
    locationResponseHeaders := description.locationResponseHeaders
    locationXML := description.locationXML
    serviceList := description.serviceList }

end ServiceDescription

/-- `-[ServiceConfig initWithServiceDescription:]`. -/
def ServiceConfig.initWithServiceDescription (description : ServiceDescription)
    (now : TimeInterval) : ServiceConfig where
  uuid := description.uuid
  lastDetection := now

end ConnectSDK
