import ConnectSDK.Foundation.Heap
import ConnectSDK.Foundation.ObjectEquality
import ConnectSDK.Services.Config.ServiceDescription

/-! # Equality of service descriptions

`isEqual:` and `hash` go through two lists of properties. The classes of the values are
assumed to keep their own `isEqual:` and `hash` consistent.
-/

namespace ConnectSDK

/-- The classes whose objects a description holds. -/
structure ComponentEquality where
  strings : ObjectEquality String
  urls : ObjectEquality String
  arrays : ObjectEquality (List JSON)
  dictionaries : ObjectEquality (List (String × String))
  objects : ObjectEquality AnyObject

namespace ServiceDescription

def stringProperties : List (ServiceDescription → Option String) :=
  [address, serviceId, uuid, type, version, friendlyName, manufacturer, modelName,
    modelDescription, modelNumber, locationXML]

def isEqualToServiceDescription (components : ComponentEquality)
    (description service : ServiceDescription) : Bool :=
  let haveSameStrings := stringProperties.all fun property =>
    components.strings.haveSame (property description) (property service)
  let haveSamePort := description.port == service.port
  let haveSameCommandURL :=
    components.urls.haveSame description.commandURL service.commandURL
  let haveSameServiceList :=
    components.arrays.haveSame description.serviceList service.serviceList
  let haveSameHeaders := components.dictionaries.haveSame
    description.locationResponseHeaders service.locationResponseHeaders
  let haveSameDevices := components.objects.haveSame description.device service.device
  haveSameStrings && (haveSamePort && haveSameCommandURL && haveSameServiceList &&
    haveSameHeaders && haveSameDevices)

/-- `isEqual:`. What is not a description, `nil` included, is `none`. -/
def isEqual (components : ComponentEquality) (heap : Heap ServiceDescription)
    (description : Ref ServiceDescription) (object : Option (Ref ServiceDescription)) :
    Bool :=
  match object with
  | none => false
  | some object =>
      decide (description = object) ||
        isEqualToServiceDescription components (heap.read description) (heap.read object)

def hash (components : ComponentEquality) (description : ServiceDescription) : UInt64 :=
  let string := components.strings.messageHash
  let properties :=
    [string description.address, string description.serviceId, string description.uuid,
      string description.type, string description.version,
      string description.friendlyName, string description.manufacturer,
      string description.modelName, string description.modelDescription,
      string description.modelNumber,
      components.urls.messageHash description.commandURL,
      string description.locationXML,
      components.arrays.messageHash description.serviceList,
      components.dictionaries.messageHash description.locationResponseHeaders,
      components.objects.messageHash description.device]
  properties.foldl (fun hash property => hash ^^^ property) 0 ^^^
    UInt64.ofNat description.port

/-! ## The fields -/

section

variable (components : ComponentEquality)

def stringField (property : ServiceDescription → Option String) :
    ObjectEquality ServiceDescription :=
  components.strings.optional.comap property

def portField : ObjectEquality ServiceDescription :=
  (ObjectEquality.ofHash UInt64.ofNat).comap port

def commandURLField : ObjectEquality ServiceDescription :=
  components.urls.optional.comap commandURL

def serviceListField : ObjectEquality ServiceDescription :=
  components.arrays.optional.comap serviceList

def headersField : ObjectEquality ServiceDescription :=
  components.dictionaries.optional.comap locationResponseHeaders

def deviceField : ObjectEquality ServiceDescription :=
  components.objects.optional.comap device

/-- The sixteen fields that `isEqual:` compares. -/
def comparedFields : List (ObjectEquality ServiceDescription) :=
  stringProperties.map (stringField components) ++
    [portField, commandURLField components, serviceListField components,
      headersField components, deviceField components]

/-- The fields that `hash` combines, in its order. -/
def hashedFields : List (ObjectEquality ServiceDescription) :=
  [address, serviceId, uuid, type, version, friendlyName, manufacturer, modelName,
      modelDescription, modelNumber].map (stringField components) ++
    [commandURLField components, stringField components locationXML,
      serviceListField components, headersField components, deviceField components,
      portField]

theorem isEqualToServiceDescription_eq (description service : ServiceDescription) :
    isEqualToServiceDescription components description service =
      ObjectEquality.agreeOn (comparedFields components) description service := by
  have strings : ∀ properties : List (ServiceDescription → Option String),
      (properties.all fun property =>
        components.strings.haveSame (property description) (property service)) =
      (properties.map (stringField components)).all fun field =>
        field.isEqual description service := by
    intro properties
    rw [List.all_map]
    rfl
  have ports : (description.port == service.port) =
      portField.isEqual description service := rfl
  rw [ObjectEquality.agreeOn, comparedFields, List.all_append,
    isEqualToServiceDescription, strings, ports]
  simp only [List.all_cons, List.all_nil, Bool.and_true, Bool.and_assoc]
  rfl

theorem hash_eq_hashOf (description : ServiceDescription) :
    description.hash components =
      ObjectEquality.hashOf (hashedFields components) description := rfl

theorem hashedFields_subset : hashedFields components ⊆ comparedFields components := by
  intro field member
  rw [comparedFields, List.mem_append]
  rcases List.mem_append.mp member with string | component
  · exact .inl (List.map_subset _ (List.subset_append_left _ [locationXML]) string)
  · simp only [List.mem_cons, List.not_mem_nil, or_false] at component ⊢
    rcases component with rfl | rfl | rfl | rfl | rfl | rfl
    · exact .inr (.inr (.inl rfl))
    · exact .inl (List.mem_map_of_mem (by simp [stringProperties]))
    · exact .inr (.inr (.inr (.inl rfl)))
    · exact .inr (.inr (.inr (.inr (.inl rfl))))
    · exact .inr (.inr (.inr (.inr (.inr rfl))))
    · exact .inr (.inl rfl)

/-- A description equals itself, so the identity test decides nothing. -/
theorem isEqual_some (heap : Heap ServiceDescription)
    (description object : Ref ServiceDescription) :
    isEqual components heap description (some object) =
      ObjectEquality.agreeOn (comparedFields components) (heap.read description)
        (heap.read object) := by
  rw [isEqual, isEqualToServiceDescription_eq]
  by_cases same : description = object
  · subst same
    rw [(ObjectEquality.agreeOn_equivalence _).refl, Bool.or_true]
  · rw [decide_eq_false same, Bool.false_or]

/-- `isEqual:` is an equivalence, and equal descriptions have the same hash. -/
theorem isEqual_equivalence_and_hash (heap : Heap ServiceDescription) :
    (Equivalence fun left right =>
      isEqual components heap left (some right) = true) ∧
    ∀ left right, isEqual components heap left (some right) = true →
      (heap.read left).hash components = (heap.read right).hash components := by
  have fields := ObjectEquality.agreeOn_equivalence (comparedFields components)
  simp only [isEqual_some]
  refine ⟨fields.comap heap.read, fun left right same => ?_⟩
  rw [hash_eq_hashOf, hash_eq_hashOf]
  exact ObjectEquality.hashOf_eq (hashedFields_subset components) same

/-- A copy is the description without its device, detected now. -/
theorem copy_eq (description : ServiceDescription) (now : TimeInterval) :
    description.copy now = { description with device := none, lastDetection := now } := rfl

theorem isEqualToServiceDescription_copy (description : ServiceDescription)
    (serviceId : Option String) (now : TimeInterval) :
    isEqualToServiceDescription components
        { description.copy now with serviceId := serviceId }
        { description with serviceId := serviceId } =
      description.device.isNone := by
  simp [isEqualToServiceDescription, stringProperties, copy_eq]

end

end ServiceDescription

end ConnectSDK
