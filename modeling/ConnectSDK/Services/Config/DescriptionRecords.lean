import ConnectSDK.Services.Config.ServiceDescription

/-! # Records of service descriptions

What comes back of a description that was written to JSON. The decoder takes the type from
the entry of the service id.
-/

namespace ConnectSDK

namespace JSON

theorem intValue_ofNonzero {value : Nat} (small : value < 65536) :
    ((JSON.ofNonzero value).map JSON.intValue).getD 0 = (value : Int) := by
  have fits : (value : Int).bmod 4294967296 = value :=
    Int.bmod_eq_of_le_mul_two (by omega) (by omega)
  by_cases zero : value = 0
  · simp [JSON.ofNonzero, zero]
  · have written : ¬ (value : Int) = 0 := by omega
    rw [JSON.ofNonzero, if_neg written, Option.map_some, Option.getD_some, intValue, fits]

end JSON

namespace ServiceDescription

/-- Two descriptions agree in the fields of a record. -/
structure SameRecord (left right : ServiceDescription) : Prop where
  serviceId : left.serviceId = right.serviceId
  address : left.address = right.address
  port : left.port = right.port
  uuid : left.uuid = right.uuid
  type : left.type = right.type
  version : left.version = right.version
  friendlyName : left.friendlyName = right.friendlyName
  manufacturer : left.manufacturer = right.manufacturer
  modelName : left.modelName = right.modelName
  modelDescription : left.modelDescription = right.modelDescription
  modelNumber : left.modelNumber = right.modelNumber
  commandURL : left.commandURL = right.commandURL

/-- What a record keeps of a description. -/
def recorded (description : ServiceDescription) : ServiceDescription :=
  { description with
    locationXML := none
    serviceList := none
    locationResponseHeaders := none
    lastDetection := 0
    device := none }

/-- Where the encoder writes a text, and nothing else is written there. -/
theorem toJSONObject_texts (description : ServiceDescription) :
    let text := fun key =>
      (description.toJSONObject.value? key).bind JSON.string?
    text "serviceId" = description.serviceId ∧ text "address" = description.address ∧
      text "UUID" = description.uuid ∧ text "type" = description.type ∧
      text "version" = description.version ∧
      text "friendlyName" = description.friendlyName ∧
      text "manufacturer" = description.manufacturer ∧
      text "modelName" = description.modelName ∧
      text "modelDescription" = description.modelDescription ∧
      text "modelNumber" = description.modelNumber ∧
      text "commandURL" = description.commandURL := by
  simp [toJSONObject]

theorem toJSONObject_port (description : ServiceDescription) :
    description.toJSONObject.value? "port" = JSON.ofNonzero description.port := by
  simp [toJSONObject]

/-- The type of the decoded description is the service id. -/
theorem initWithJSONObject_toJSONObject {urlWithString : String → Option String}
    {description : ServiceDescription} (small : description.port < 65536)
    (wellFormed : ∀ url, description.commandURL = some url →
      urlWithString url = some url) :
    initWithJSONObject urlWithString description.toJSONObject =
      { description.recorded with type := description.serviceId } := by
  rcases toJSONObject_texts description with ⟨serviceId, address, uuid, _, version,
    friendlyName, manufacturer, modelName, modelDescription, modelNumber, commandURL⟩
  have port : (((description.toJSONObject.value? "port").map JSON.intValue).getD 0 %
      18446744073709551616).toNat = description.port := by
    rw [toJSONObject_port, JSON.intValue_ofNonzero small]
    omega
  have url : description.commandURL.bind urlWithString = description.commandURL := by
    cases given : description.commandURL with
    | none => rfl
    | some url => exact wellFormed url given
  simp only [initWithJSONObject, serviceId, address, uuid, version, friendlyName,
    manufacturer, modelName, modelDescription, modelNumber, commandURL, port, url, recorded]

/-- A description comes back as it was exactly when its type is its service id. -/
theorem sameRecord_initWithJSONObject_iff (urlWithString : String → Option String)
    (description : ServiceDescription) (small : description.port < 65536)
    (wellFormed : ∀ url, description.commandURL = some url →
      urlWithString url = some url) :
    SameRecord (initWithJSONObject urlWithString description.toJSONObject) description ↔
      description.type = description.serviceId := by
  rw [initWithJSONObject_toJSONObject small wellFormed]
  constructor
  · intro same
    exact same.type.symm
  · intro typed
    exact ⟨rfl, rfl, rfl, rfl, typed.symm, rfl, rfl, rfl, rfl, rfl, rfl, rfl⟩

theorem sameRecord_initWithJSONObject_airPlay :
    SameRecord
        (initWithJSONObject some (toJSONObject
          { serviceId := some "AirPlay", type := some "AirPlay", port := 7000
            commandURL := some "http://10.0.0.7:7000/" }))
        { serviceId := some "AirPlay", type := some "AirPlay", port := 7000
          commandURL := some "http://10.0.0.7:7000/" } ↔
      (some "AirPlay" : Option String) = some "AirPlay" :=
  sameRecord_initWithJSONObject_iff some _ (by decide) fun _ _ => rfl

/-- A renderer found through SSDP has the type it was searched by, and comes back with the
type `DLNA`. -/
theorem renderer_loses_type :
    ¬ ∀ (urlWithString : String → Option String) (description : ServiceDescription),
      description.port < 65536 →
      (∀ url, description.commandURL = some url → urlWithString url = some url) →
      SameRecord (initWithJSONObject urlWithString description.toJSONObject)
        description := by
  intro roundTrip
  have typed := (roundTrip some
    { serviceId := some "DLNA"
      type := some "urn:schemas-upnp-org:device:MediaRenderer:1"
      address := some "10.0.0.7", port := 3001 } (by decide) fun _ _ => rfl).type
  exact absurd typed (by decide)

end ServiceDescription

end ConnectSDK
