import ConnectSDK.Services.Config.ServiceDescription

/-! # The webOS TV service

What the socket client reads and writes of the service it belongs to.
-/

namespace ConnectSDK

inductive DeviceServicePairingType where
  | none
  | firstScreen
  | pinCode
  | mixed
  | airPlayMirroring
  | unknown
deriving DecidableEq

/-- The value of the enumeration's constant. -/
def DeviceServicePairingType.rawValue : DeviceServicePairingType → Nat
  | .none => 0
  | .firstScreen => 1
  | .pinCode => 2
  | .mixed => 3
  | .airPlayMirroring => 4
  | .unknown => 5

namespace ServiceConfig

def clientKey (config : ServiceConfig) : Option String :=
  match config.subclass with
  | .webOSTVServiceConfig clientKey _ => clientKey
  | _ => none

def sslCertificates (config : ServiceConfig) : Option (List JSON) :=
  match config.subclass with
  | .webOSTVServiceConfig _ sslCertificates => sslCertificates
  | _ => none

/-- `webOSTVServiceConfig.clientKey = clientKey`, a message to `nil` when the
configuration is of another class. -/
def setClientKey (config : ServiceConfig) (clientKey : Option String) :
    ServiceConfig :=
  match config.subclass with
  | .webOSTVServiceConfig _ sslCertificates =>
      { config with subclass := .webOSTVServiceConfig clientKey sslCertificates }
  | _ => config

def setSSLCertificates (config : ServiceConfig)
    (sslCertificates : Option (List JSON)) : ServiceConfig :=
  match config.subclass with
  | .webOSTVServiceConfig clientKey _ =>
      { config with subclass := .webOSTVServiceConfig clientKey sslCertificates }
  | _ => config

@[simp] theorem setClientKey_uuid (config : ServiceConfig)
    (clientKey : Option String) : (config.setClientKey clientKey).uuid = config.uuid := by
  rcases config with ⟨_, _, _, _, _ | _ | _⟩ <;> rfl

@[simp] theorem setSSLCertificates_uuid (config : ServiceConfig)
    (sslCertificates : Option (List JSON)) :
    (config.setSSLCertificates sslCertificates).uuid = config.uuid := by
  rcases config with ⟨_, _, _, _, _ | _ | _⟩ <;> rfl

end ServiceConfig

structure WebOSTVService where
  serviceConfig : ServiceConfig
  serviceDescription : ServiceDescription
  /-- The instance variable `_pairingType`. -/
  assignedPairingType : DeviceServicePairingType := .none
  /-- `[DiscoveryManager sharedManager].pairingLevel == DeviceServicePairingLevelOn`. -/
  pairingLevelOn : Bool := false
  permissions : List String := []

namespace WebOSTVService

def pairingType (service : WebOSTVService) : DeviceServicePairingType :=
  if service.pairingLevelOn then
    if service.assignedPairingType ≠ .none then service.assignedPairingType
    else .firstScreen
  else
    .none

def setPairingType (service : WebOSTVService)
    (pairingType : DeviceServicePairingType) : WebOSTVService :=
  { service with assignedPairingType := pairingType }

/-- `serviceConfig.UUID = serviceDescription.UUID = UUID`. -/
def setUUID (service : WebOSTVService) (uuid : Option String) : WebOSTVService :=
  { service with
    serviceConfig := { service.serviceConfig with uuid }
    serviceDescription := { service.serviceDescription with uuid } }

def setClientKey (service : WebOSTVService) (clientKey : Option String) :
    WebOSTVService :=
  { service with serviceConfig := service.serviceConfig.setClientKey clientKey }

def setSSLCertificates (service : WebOSTVService)
    (sslCertificates : Option (List JSON)) : WebOSTVService :=
  { service with
    serviceConfig := service.serviceConfig.setSSLCertificates sslCertificates }

end WebOSTVService

end ConnectSDK
