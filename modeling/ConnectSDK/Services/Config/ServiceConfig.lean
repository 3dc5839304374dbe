import ConnectSDK.Foundation.JSON

/-! # Service configurations

`ServiceConfig` and its two subclasses, with the JSON dictionaries the device
store keeps of them.
-/

namespace ConnectSDK

/-- A time stamp or a duration, in a fixed unit. The source uses `double`. -/
abbrev TimeInterval := Int

/-- The class of a configuration and the properties its subclass declares. -/
inductive ServiceConfigClass where
  | serviceConfig
  | webOSTVServiceConfig (clientKey : Option String)
      (sslCertificates : Option (List JSON))
  | netcastTVServiceConfig (pairingCode : Option String)

structure ServiceConfig where
  uuid : Option String := none
  connected : Bool := false
  wasConnected : Bool := false
  lastDetection : TimeInterval := 0
  subclass : ServiceConfigClass := .serviceConfig

/-- `NSStringFromClass([self class])`. -/
def ServiceConfigClass.name : ServiceConfigClass → String
  | .serviceConfig => "ServiceConfig"
  | .webOSTVServiceConfig .. => "WebOSTVServiceConfig"
  | .netcastTVServiceConfig .. => "NetcastTVServiceConfig"

/-- `if (flag) dictionary[key] = @(flag)`. -/
def JSON.ofFlag (flag : Bool) : Option JSON :=
  if flag then some (.bool flag) else none

/-- `if (value) dictionary[key] = @(value)` on a number. -/
def JSON.ofNonzero (value : Int) : Option JSON :=
  if value = 0 then none else some (.number value)

namespace ServiceConfig

/-- `-[ServiceConfig toJSONObject]`. The class name written is that of the
receiver, which may be a subclass. -/
def superJSONObject (config : ServiceConfig) : JSON.Fields :=
  let dictionary := JSON.Fields.set [] "class" (.string config.subclass.name)
  let dictionary := dictionary.setIfSome "UUID" (config.uuid.map .string)
  let dictionary :=
    dictionary.setIfSome "connected" (JSON.ofFlag config.connected)
  let dictionary :=
    dictionary.setIfSome "wasConnected" (JSON.ofFlag config.wasConnected)
  dictionary.setIfSome "lastDetection" (JSON.ofNonzero config.lastDetection)

/-- `toJSONObject`, dispatched on the class of the receiver. -/
def toJSONObject (config : ServiceConfig) : JSON :=
  let superDictionary := config.superJSONObject
  match config.subclass with
  | .serviceConfig => .object superDictionary
  | .webOSTVServiceConfig clientKey sslCertificates =>
      let dictionary :=
        superDictionary.set "class" (.string config.subclass.name)
      let dictionary :=
        dictionary.setIfSome "clientKey" (clientKey.map .string)
      .object (dictionary.setIfSome "SSLCertificates"
        (sslCertificates.map .array))
  | .netcastTVServiceConfig pairingCode =>
      let dictionary :=
        superDictionary.set "class" (.string config.subclass.name)
      .object (dictionary.setIfSome "pairingCode" (pairingCode.map .string))

/-- `-[ServiceConfig initWithJSONObject:]`. -/
def initWithJSONObject (dictionary : JSON) : ServiceConfig :=
  let connected := ((dictionary.value? "connected").map JSON.boolValue).getD false
  let wasConnected :=
    ((dictionary.value? "wasConnected").map JSON.boolValue).getD false
  { uuid := (dictionary.value? "UUID").bind JSON.string?
    connected := if connected then false else connected
    wasConnected := if connected then true else wasConnected
    lastDetection :=
      ((dictionary.value? "lastDetection").map JSON.doubleValue).getD 0 }

/-- `-[WebOSTVServiceConfig initWithJSONObject:]`. It starts from
`[super init]`, so nothing of `ServiceConfig` is read. -/
def initWebOSWithJSONObject (dictionary : JSON) : ServiceConfig :=
  { subclass := .webOSTVServiceConfig
      ((dictionary.value? "clientKey").bind JSON.string?)
      ((dictionary.value? "SSLCertificates").bind JSON.array?) }

/-- `-[NetcastTVServiceConfig initWithJSONObject:]`, also from `[super init]`. -/
def initNetcastWithJSONObject (dictionary : JSON) : ServiceConfig :=
  { subclass := .netcastTVServiceConfig
      ((dictionary.value? "pairingCode").bind JSON.string?) }

/-- `+serviceConfigWithJSONObject:`. An unknown class is `nil`, and so is
what it allocates. -/
def serviceConfigWithJSONObject (dictionary : JSON) : Option ServiceConfig :=
  match (dictionary.value? "class").bind JSON.string? with
  | some "ServiceConfig" => some (initWithJSONObject dictionary)
  | some "WebOSTVServiceConfig" => some (initWebOSWithJSONObject dictionary)
  | some "NetcastTVServiceConfig" => some (initNetcastWithJSONObject dictionary)
  | _ => none

/-- What reading a stored configuration back is for: the configuration as it
was, no longer connected. -/
def restored (config : ServiceConfig) : ServiceConfig :=
  { config with
    connected := false
    wasConnected := config.connected || config.wasConnected }

/-- The configuration holds nothing of what `ServiceConfig` itself declares. -/
def BaseUnset (config : ServiceConfig) : Prop :=
  config.uuid = none ∧ config.connected = false ∧
    config.wasConnected = false ∧ config.lastDetection = 0

theorem class_toJSONObject (config : ServiceConfig) :
    config.toJSONObject.value? "class" = some (.string config.subclass.name) := by
  rcases config with ⟨uuid, connected, wasConnected, lastDetection, subclass⟩
  cases subclass <;> simp [toJSONObject, superJSONObject]

theorem isObject_toJSONObject (config : ServiceConfig) :
    config.toJSONObject.isObject = true := by
  rcases config with ⟨uuid, connected, wasConnected, lastDetection, subclass⟩
  cases subclass <;> rfl

theorem superJSONObject_uuid (config : ServiceConfig) :
    ((config.superJSONObject.value? "UUID").bind JSON.string?) = config.uuid := by
  rcases config with ⟨_ | uuid, _, _, _, _⟩ <;>
    simp [superJSONObject, JSON.string?]

theorem superJSONObject_connected (config : ServiceConfig) :
    ((config.superJSONObject.value? "connected").map JSON.boolValue).getD false =
      config.connected := by
  rcases config with ⟨_, _ | _, _, _, _⟩ <;>
    simp [superJSONObject, JSON.ofFlag, JSON.boolValue]

theorem superJSONObject_wasConnected (config : ServiceConfig) :
    ((config.superJSONObject.value? "wasConnected").map
      JSON.boolValue).getD false = config.wasConnected := by
  rcases config with ⟨_, _, _ | _, _, _⟩ <;>
    simp [superJSONObject, JSON.ofFlag, JSON.boolValue]

theorem superJSONObject_lastDetection (config : ServiceConfig) :
    ((config.superJSONObject.value? "lastDetection").map
      JSON.doubleValue).getD 0 = config.lastDetection := by
  by_cases zero : config.lastDetection = 0 <;>
    simp [superJSONObject, JSON.ofNonzero, JSON.doubleValue, zero]

/-- The decoder of the base class recovers everything the base class wrote. -/
theorem initWithJSONObject_superJSONObject (config : ServiceConfig) :
    initWithJSONObject (.object config.superJSONObject) =
      { config.restored with subclass := .serviceConfig } := by
  simp only [initWithJSONObject, JSON.value?_object, superJSONObject_uuid,
    superJSONObject_connected, superJSONObject_wasConnected,
    superJSONObject_lastDetection, restored]
  cases config.connected <;> simp

/-- The decoder of a subclass recovers what the subclass wrote and resets the
rest to what `init` leaves. -/
theorem serviceConfigWithJSONObject_subclass (config : ServiceConfig)
    (derived : config.subclass ≠ .serviceConfig) :
    serviceConfigWithJSONObject config.toJSONObject =
      some { subclass := config.subclass } := by
  rw [serviceConfigWithJSONObject, class_toJSONObject]
  rcases config with ⟨uuid, connected, wasConnected, lastDetection, subclass⟩
  cases subclass with
  | serviceConfig => exact absurd rfl derived
  | webOSTVServiceConfig clientKey sslCertificates =>
      cases clientKey <;> cases sslCertificates <;>
        simp [ServiceConfigClass.name, JSON.string?, JSON.array?, toJSONObject,
          superJSONObject, initWebOSWithJSONObject]
  | netcastTVServiceConfig pairingCode =>
      cases pairingCode <;>
        simp [ServiceConfigClass.name, JSON.string?, toJSONObject,
          superJSONObject, initNetcastWithJSONObject]

theorem restored_eq_subclass_iff (config : ServiceConfig) :
    ({ subclass := config.subclass } : ServiceConfig) = config.restored ↔
      config.BaseUnset := by
  rcases config with ⟨_ | uuid, _ | _, _ | _, lastDetection, subclass⟩ <;>
    simp [restored, BaseUnset, eq_comm]

/-- A configuration survives the round trip exactly when it is of the base
class or has nothing of the base class to lose. -/
theorem serviceConfigWithJSONObject_toJSONObject_iff (config : ServiceConfig) :
    serviceConfigWithJSONObject config.toJSONObject = some config.restored ↔
      config.subclass = .serviceConfig ∨ config.BaseUnset := by
  by_cases base : config.subclass = .serviceConfig
  · have written : config.toJSONObject = .object config.superJSONObject := by
      simp [toJSONObject, base]
    rw [serviceConfigWithJSONObject, class_toJSONObject, base, written]
    simp only [ServiceConfigClass.name, JSON.string?, Option.bind_some,
      initWithJSONObject_superJSONObject, true_or, iff_true, Option.some.injEq]
    rw [← base]
    rfl
  · rw [serviceConfigWithJSONObject_subclass config base, Option.some.injEq,
      restored_eq_subclass_iff]
    simp [base]

/-- A paired webOS configuration comes back without its UUID. -/
theorem webOS_round_trip_loses_uuid :
    ¬ ∀ config : ServiceConfig,
      serviceConfigWithJSONObject config.toJSONObject =
        some config.restored := by
  intro roundTrip
  have decoded := roundTrip
    { uuid := some "66be8e5d", subclass := .webOSTVServiceConfig (some "key") none }
  have uuids := congrArg (Option.bind · ServiceConfig.uuid) decoded
  exact absurd uuids (by decide)

end ServiceConfig

end ConnectSDK
