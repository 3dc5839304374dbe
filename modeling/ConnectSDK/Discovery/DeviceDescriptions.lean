import ConnectSDK.Foundation.FirstMatch
import ConnectSDK.Foundation.KeyValueCoding
import ConnectSDK.Discovery.FilterRequirements

/-! # Device descriptions as they are parsed

An element of the description is a dictionary of its children. A child that occurs once is
a dictionary itself, one that occurs more often is an array of dictionaries. Key-value
coding and subscripts read these shapes differently. An exception returns `none`.
-/

namespace ConnectSDK

namespace SSDPDiscoveryProvider

/-- `discoveredServicesInDevice:`. An array takes no `nil`, so a single service without the
text of its type raises. -/
def discoveredServicesInDevice (device : JSON) : Option (Option (List JSON)) := do
  match ← JSON.valueForKeyPath ["serviceList", "service"] (some device) with
  | some (.object service) =>
      let text ← JSON.valueForKeyPath ["serviceType", "text"] (some (.object service))
      text.map fun text => some [text]
  | some (.array services) =>
      let texts ← JSON.valueForKeyPath ["serviceType", "text"] (some (.array services))
      return texts.bind JSON.array?
  | _ => return none

/-- `allRequiredServices:areInDiscoveredServices:`, an inclusion of sets. -/
def allRequiredServices (requiredServices : List String)
    (discoveredServices : Option (List JSON)) : Bool :=
  requiredServices.all fun required =>
    (discoveredServices.getD []).any fun discovered => discovered.string? == some required

/-- The subdevices that are searched. A single one is put into an array. -/
def subDevices (device : JSON) : Option (List JSON) :=
  (JSON.valueForKeyPath ["deviceList", "device"] (some device)).map fun
    | none => []
    | some (.array devices) => devices
    | some subDevice => [subDevice]

theorem sizeOf_subDevices {device subDevice : JSON} {devices : List JSON}
    (listed : subDevices device = some devices) (member : subDevice ∈ devices) :
    sizeOf subDevice < sizeOf device := by
  rcases Option.map_eq_some_iff.mp listed with ⟨_ | value, answered, rfl⟩
  · cases member
  · have smaller := JSON.sizeOf_valueForKeyPath (List.cons_ne_nil _ _) answered
    cases value with
    | array elements =>
        have below : sizeOf subDevice < sizeOf (JSON.array elements) :=
          JSON.sizeOf_lt_array member
        rcases smaller with smaller | ⟨_, smaller⟩ <;> omega
    | _ =>
        cases List.mem_singleton.mp member
        rcases smaller with smaller | ⟨array, _⟩
        · exact smaller
        · cases array

/-- `device:containingRequiredServices:`, the device itself or one inside it. -/
def containingRequiredServices (requiredServices : List String) (device : JSON) :
    Option (Option JSON) :=
  (discoveredServicesInDevice device).bind fun discoveredServices =>
    if allRequiredServices requiredServices discoveredServices then some (some device)
    else
      match listed : subDevices device with
      | none => none
      | some devices =>
          devices.attach.findSomeM? fun ⟨subDevice, member⟩ =>
            have : sizeOf subDevice < sizeOf device := sizeOf_subDevices listed member
            containingRequiredServices requiredServices subDevice
termination_by sizeOf device

/-- The entries of an array, or a dictionary as the only one. -/
def listedObjects : Option JSON → List JSON
  | some (.array elements) => elements
  | some (.object fields) => [.object fields]
  | _ => []

/-- The services of a device, as `serviceListForDevice:` adds them to its list. -/
def ownServiceList (device : JSON) : Option (List JSON) := do
  let serviceList ← objectForKey (some device) "serviceList"
  return listedObjects (← objectForKey serviceList "service")

/-- `serviceListForDevice:`, the services of the device and of those right inside it. -/
def serviceListForDevice (device : JSON) : Option (List JSON) := do
  let own ← ownServiceList device
  let deviceList ← objectForKey (some device) "deviceList"
  let devices := listedObjects (← objectForKey deviceList "device")
  return own ++ (← devices.mapM ownServiceList).flatten

end SSDPDiscoveryProvider

/-! ## What a description says -/

namespace DeviceDescription

/-- The elements of one name, given once, more often or not at all. -/
def elements : Option JSON → List JSON
  | none => []
  | some (.array several) => several
  | some single => [single]

/-- The elements of one name in a list of the device. -/
def children (list name : String) (device : JSON) : List JSON :=
  elements ((device.value? list).bind (JSON.value? name))

def services (device : JSON) : List JSON :=
  children "serviceList" "service" device

def devices (device : JSON) : List JSON :=
  children "deviceList" "device" device

def serviceType (service : JSON) : Option String :=
  ((service.value? "serviceType").bind (JSON.value? "text")).bind JSON.string?

def serviceTypes (device : JSON) : List String :=
  (services device).filterMap serviceType

/-- The own services of the device include all of these. -/
def includes (requiredServices : List String) (device : JSON) : Bool :=
  requiredServices.all (serviceTypes device).contains

theorem sizeOf_children {list name : String} {device child : JSON}
    (member : child ∈ children list name device) : sizeOf child < sizeOf device := by
  cases found : (device.value? list).bind (JSON.value? name) with
  | none =>
      rw [children, found] at member
      cases member
  | some value =>
      rcases Option.bind_eq_some_iff.mp found with ⟨inner, outer, named⟩
      have smaller : sizeOf value < sizeOf device :=
        Nat.lt_trans (JSON.sizeOf_lt_of_value? named) (JSON.sizeOf_lt_of_value? outer)
      rw [children, found] at member
      cases value with
      | array several => exact Nat.lt_trans (JSON.sizeOf_lt_array member) smaller
      | _ =>
          cases List.mem_singleton.mp member
          exact smaller

theorem sizeOf_devices {device inner : JSON} (member : inner ∈ devices device) :
    sizeOf inner < sizeOf device :=
  sizeOf_children member

/-- A device and then those inside it. -/
def preorder (device : JSON) : List JSON :=
  device :: (devices device).attach.flatMap fun ⟨inner, member⟩ =>
    have : sizeOf inner < sizeOf device := sizeOf_devices member
    preorder inner
termination_by sizeOf device

theorem preorder_eq (device : JSON) :
    preorder device = device :: (devices device).flatMap preorder := by
  rw [preorder, List.flatMap_subtype (fun _ _ => rfl), List.unattach_attach]

/-! ### Well-formed descriptions -/

/-- Elements of one name are missing, a dictionary or an array of dictionaries. -/
inductive AreElements : Option JSON → Prop
  | absent : AreElements none
  | single (fields : JSON.Fields) : AreElements (some (.object fields))
  | several (elements : List JSON)
      (objects : ∀ element ∈ elements, ∃ fields, element = .object fields) :
      AreElements (some (.array elements))

/-- A list of elements is missing or a dictionary. -/
inductive IsListOf (name : String) : Option JSON → Prop
  | absent : IsListOf name none
  | given (fields : JSON.Fields) (elements : AreElements (fields.value? name)) :
      IsListOf name (some (.object fields))

/-- The type of a service is missing, or a dictionary with or without a text. -/
inductive IsType : Option JSON → Prop
  | absent : IsType none
  | untold (fields : JSON.Fields) (missing : fields.value? "text" = none) :
      IsType (some (.object fields))
  | told (fields : JSON.Fields) (type : String)
      (text : fields.value? "text" = some (.string type)) : IsType (some (.object fields))

/-- A device of any depth, with any other children. -/
inductive IsDevice : JSON → Prop
  | device (fields : JSON.Fields)
      (serviceList : IsListOf "service" (fields.value? "serviceList"))
      (deviceList : IsListOf "device" (fields.value? "deviceList"))
      (types : ∀ service ∈ services (.object fields), IsType (service.value? "serviceType"))
      (inner : ∀ device ∈ devices (.object fields), IsDevice device) :
      IsDevice (.object fields)

theorem IsDevice.of_mem_preorder {device : JSON} (isDevice : IsDevice device) :
    ∀ inner ∈ preorder device, IsDevice inner := by
  induction isDevice with
  | device fields serviceList deviceList types inner induction =>
      intro visited member
      rw [preorder_eq] at member
      rcases List.mem_cons.mp member with rfl | below
      · exact .device fields serviceList deviceList types inner
      · rcases List.mem_flatMap.mp below with ⟨child, listed, found⟩
        exact induction child listed visited found

theorem IsListOf.elements {fields : JSON.Fields} {list name : String}
    (isList : IsListOf name (fields.value? list)) :
    AreElements (((JSON.object fields).value? list).bind (JSON.value? name)) := by
  rw [JSON.value?_object]
  cases held : fields.value? list with
  | none => exact .absent
  | some value =>
      rw [held] at isList
      cases isList with
      | given inner elements => exact elements

/-- Along a list, key-value coding and subscripts read the same. -/
theorem valueForKeyPath_list {fields : JSON.Fields} {list name : String}
    (isList : IsListOf name (fields.value? list)) :
    JSON.valueForKeyPath [list, name] (some (.object fields)) =
      some (((JSON.object fields).value? list).bind (JSON.value? name)) := by
  rw [JSON.value?_object]
  cases held : fields.value? list with
  | none => simp [JSON.valueForKeyPath, JSON.valueForKey, held]
  | some value =>
      rw [held] at isList
      cases isList with
      | given inner elements =>
          cases named : inner.value? name <;>
            simp [JSON.valueForKeyPath, JSON.valueForKey, held, named]

theorem objectForKey_list {fields : JSON.Fields} {list name : String}
    (isList : IsListOf name (fields.value? list)) :
    (objectForKey (some (.object fields)) list).bind (objectForKey · name) =
      some (((JSON.object fields).value? list).bind (JSON.value? name)) := by
  rw [JSON.value?_object, objectForKey, Option.bind_some]
  cases held : fields.value? list with
  | none => rfl
  | some value =>
      rw [held] at isList
      cases isList with
      | given inner elements => rfl

/-! ### The services of one device -/

/-- A single service has the text of a type, several services have a type each. -/
def ReadsServices (device : JSON) : Prop :=
  match (device.value? "serviceList").bind (JSON.value? "service") with
  | none => True
  | some (.array services) =>
      ∀ service ∈ services, (service.value? "serviceType").isSome = true
  | some service => (serviceType service).isSome = true

/-- What is discovered of a device are the types of its services. -/
def Discovers (device : JSON) (discoveredServices : Option (List JSON)) : Prop :=
  ∀ type, (∃ discovered ∈ discoveredServices.getD [],
    discovered.string? = some type) ↔ type ∈ serviceTypes device

theorem Discovers.allRequired {device : JSON} {discoveredServices : Option (List JSON)}
    (discovers : Discovers device discoveredServices) (requiredServices : List String) :
    SSDPDiscoveryProvider.allRequiredServices requiredServices discoveredServices =
      includes requiredServices device := by
  rw [Bool.eq_iff_iff, SSDPDiscoveryProvider.allRequiredServices, includes,
    List.all_eq_true, List.all_eq_true]
  apply forall₂_congr
  intro type _
  rw [List.any_eq_true, List.contains_iff_mem, ← discovers type]
  simp only [beq_iff_eq]

/-- The types in an array of services. A type without a text leaves `NSNull`. -/
theorem valueForKeyPath_services {services : List JSON}
    (objects : ∀ service ∈ services, ∃ fields, service = .object fields)
    (types : ∀ service ∈ services, IsType (service.value? "serviceType"))
    (typed : ∀ service ∈ services, (service.value? "serviceType").isSome = true) :
    JSON.valueForKeyPath ["serviceType", "text"] (some (.array services)) =
      some (some (.array (services.map fun service =>
        ((serviceType service).map JSON.string).getD .null))) := by
  have collected := JSON.valuesForKey_objects "serviceType" objects
  have elements : ∀ element ∈ services.map (fun service =>
      (service.value? "serviceType").getD .null), ∃ fields, element = .object fields := by
    intro element member
    rcases List.mem_map.mp member with ⟨service, listed, rfl⟩
    have isType := types service listed
    have given := typed service listed
    cases held : service.value? "serviceType" with
    | none => rw [held] at given; cases given
    | some value =>
        rw [held] at isType
        cases isType with
        | untold fields missing => exact ⟨fields, rfl⟩
        | told fields type text => exact ⟨fields, rfl⟩
  have texts := JSON.valuesForKey_objects "text" elements
  simp only [JSON.valueForKeyPath, JSON.valueForKey, collected, texts, Option.map_some,
    Option.bind_some, List.map_map, Option.some.injEq, JSON.array.injEq]
  apply List.map_congr_left
  intro service listed
  have isType := types service listed
  rw [Function.comp_apply, serviceType]
  cases held : service.value? "serviceType" with
  | none => rfl
  | some value =>
      rw [held] at isType
      cases isType with
      | untold fields missing => simp [missing]
      | told fields type text => simp [text, JSON.string?]

/-- `NSNull` has no text. -/
theorem valueForKeyPath_untyped {services : List JSON}
    (objects : ∀ service ∈ services, ∃ fields, service = .object fields)
    {service : JSON} (listed : service ∈ services)
    (untyped : service.value? "serviceType" = none) :
    JSON.valueForKeyPath ["serviceType", "text"] (some (.array services)) = none := by
  have collected := JSON.valuesForKey_objects "serviceType" objects
  have missing : JSON.null ∈ services.map fun service =>
      (service.value? "serviceType").getD .null :=
    List.mem_map.mpr ⟨service, listed, by rw [untyped]; rfl⟩
  simp only [JSON.valueForKeyPath, JSON.valueForKey, collected,
    JSON.valuesForKey_null missing, Option.map_some, Option.bind_some, Option.map_none,
    Option.bind_none]

theorem valueForKeyPath_service {fields : JSON.Fields}
    (isType : IsType (fields.value? "serviceType")) :
    JSON.valueForKeyPath ["serviceType", "text"] (some (.object fields)) =
      some ((serviceType (.object fields)).map JSON.string) := by
  rw [serviceType, JSON.value?_object]
  cases held : fields.value? "serviceType" with
  | none => simp [JSON.valueForKeyPath, JSON.valueForKey, held]
  | some value =>
      rw [held] at isType
      cases isType with
      | untold inner missing =>
          simp [JSON.valueForKeyPath, JSON.valueForKey, held, missing]
      | told inner type text =>
          simp [JSON.valueForKeyPath, JSON.valueForKey, held, text, JSON.string?]

theorem discovers_texts {device : JSON} {list : List JSON} (own : services device = list) :
    Discovers device (some (list.map fun service =>
      ((serviceType service).map JSON.string).getD .null)) := by
  intro type
  rw [serviceTypes, own, List.mem_filterMap, Option.getD_some]
  simp only [List.mem_map, exists_exists_and_eq_and]
  apply exists_congr
  intro service
  cases serviceType service <;> simp [JSON.string?]

/-- A device is read, unless a service lacks what the reading needs of it. -/
theorem IsDevice.discoveredServices {device : JSON} (isDevice : IsDevice device) :
    (ReadsServices device ∧ ∃ discoveredServices,
        SSDPDiscoveryProvider.discoveredServicesInDevice device =
          some discoveredServices ∧ Discovers device discoveredServices) ∨
      (¬ ReadsServices device ∧
        SSDPDiscoveryProvider.discoveredServicesInDevice device = none) := by
  cases isDevice with
  | device fields serviceList deviceList types inner =>
      have path := valueForKeyPath_list serviceList
      have shape := serviceList.elements
      rw [services, children] at types
      rw [ReadsServices, SSDPDiscoveryProvider.discoveredServicesInDevice, path]
      generalize own : ((JSON.object fields).value? "serviceList").bind
        (JSON.value? "service") = list at shape types ⊢
      cases shape with
      | absent =>
          have empty : services (.object fields) = [] := by
            rw [services, children, own]
            rfl
          refine Or.inl ⟨trivial, none, rfl, ?_⟩
          intro type
          simp [serviceTypes, empty]
      | single service =>
          have isType := types (.object service) (List.mem_singleton_self _)
          rw [JSON.value?_object] at isType
          have text := valueForKeyPath_service isType
          cases told : serviceType (.object service) with
          | none =>
              refine Or.inr ⟨by simp [told], ?_⟩
              simp [text, told]
          | some type =>
              refine Or.inl ⟨by simp [told], some [.string type], by simp [text, told], ?_⟩
              have single : services (.object fields) = [.object service] := by
                rw [services, children, own]
                rfl
              have discovers := discovers_texts single
              rw [List.map_singleton, told] at discovers
              exact discovers
      | several list objects =>
          by_cases typed : ∀ service ∈ list,
              (service.value? "serviceType").isSome = true
          · have texts := valueForKeyPath_services objects types typed
            refine Or.inl ⟨typed, _, by simp [texts, JSON.array?]; rfl, ?_⟩
            exact discovers_texts (by rw [services, children, own]; rfl)
          · refine Or.inr ⟨typed, ?_⟩
            simp only [not_forall] at typed
            rcases typed with ⟨service, listed, untyped⟩
            have missing := Option.not_isSome_iff_eq_none.mp untyped
            simp [valueForKeyPath_untyped objects listed missing]

/-! ### The search -/

/-- Whether the device itself fits, if it can be read. -/
def hasAllRequired (requiredServices : List String) (device : JSON) : Option Bool :=
  (SSDPDiscoveryProvider.discoveredServicesInDevice device).map
    (SSDPDiscoveryProvider.allRequiredServices requiredServices)

theorem IsDevice.hasAllRequired_some {device : JSON} (isDevice : IsDevice device)
    (reads : ReadsServices device) (requiredServices : List String) :
    hasAllRequired requiredServices device = some (includes requiredServices device) := by
  rcases isDevice.discoveredServices with ⟨_, discovered, read, discovers⟩ | ⟨unread, _⟩
  · rw [hasAllRequired, read, Option.map_some, discovers.allRequired]
  · exact absurd reads unread

theorem IsDevice.hasAllRequired_none {device : JSON} (isDevice : IsDevice device)
    (unread : ¬ ReadsServices device) (requiredServices : List String) :
    hasAllRequired requiredServices device = none := by
  rcases isDevice.discoveredServices with ⟨reads, _⟩ | ⟨_, raises⟩
  · exact absurd reads unread
  · rw [hasAllRequired, raises, Option.map_none]

theorem IsDevice.subDevices {device : JSON} (isDevice : IsDevice device) :
    SSDPDiscoveryProvider.subDevices device = some (devices device) := by
  cases isDevice with
  | device fields serviceList deviceList types inner =>
      have shape := deviceList.elements
      rw [SSDPDiscoveryProvider.subDevices, valueForKeyPath_list deviceList, devices, children]
      generalize ((JSON.object fields).value? "deviceList").bind
        (JSON.value? "device") = list at shape ⊢
      cases shape <;> rfl

theorem containingRequiredServices_eq (requiredServices : List String) (device : JSON) :
    SSDPDiscoveryProvider.containingRequiredServices requiredServices device =
      (hasAllRequired requiredServices device).bind fun fits =>
        if fits then some (some device)
        else (SSDPDiscoveryProvider.subDevices device).bind fun devices =>
          devices.findSomeM?
            (SSDPDiscoveryProvider.containingRequiredServices requiredServices) := by
  rw [SSDPDiscoveryProvider.containingRequiredServices, hasAllRequired, Option.bind_map]
  apply Option.bind_congr
  intro discovered _
  rw [Function.comp_apply]
  split
  · rfl
  · split
    · rename_i missing
      rw [missing]
      rfl
    · rename_i devices listed
      have searched : ((SSDPDiscoveryProvider.subDevices device).bind fun devices =>
          devices.findSomeM?
            (SSDPDiscoveryProvider.containingRequiredServices requiredServices)) =
          devices.findSomeM?
            (SSDPDiscoveryProvider.containingRequiredServices requiredServices) := by
        rw [listed, Option.bind_some]
      rw [searched]
      exact findSomeM?_attach _ devices

/-- The search looks at the devices in preorder. -/
theorem IsDevice.containingRequiredServices {device : JSON} (isDevice : IsDevice device)
    (requiredServices : List String) :
    SSDPDiscoveryProvider.containingRequiredServices requiredServices device =
      (preorder device).findM? (hasAllRequired requiredServices) := by
  induction isDevice with
  | device fields serviceList deviceList types inner induction =>
      have isDevice := IsDevice.device fields serviceList deviceList types inner
      rw [containingRequiredServices_eq, preorder_eq, List.findM?, isDevice.subDevices,
        findM?_flatMap, ← findSomeM?_congr induction]
      rcases hasAllRequired requiredServices (.object fields) with _ | _ | _ <;> rfl

/-! ### The list of services -/

theorem AreElements.listedObjects {list : Option JSON} (shape : AreElements list) :
    SSDPDiscoveryProvider.listedObjects list = elements list := by
  cases shape <;> rfl

theorem IsDevice.ownServiceList {device : JSON} (isDevice : IsDevice device) :
    SSDPDiscoveryProvider.ownServiceList device = some (services device) := by
  cases isDevice with
  | device fields serviceList deviceList types inner =>
      rcases Option.bind_eq_some_iff.mp (objectForKey_list serviceList) with
        ⟨outer, first, second⟩
      rw [SSDPDiscoveryProvider.ownServiceList, first]
      simp only [Option.bind_eq_bind, Option.bind_some, second, Option.pure_def]
      rw [serviceList.elements.listedObjects]
      rfl

theorem mapM_eq_some_map {α β : Type} {answer : α → Option β} {value : α → β}
    {list : List α} (answers : ∀ element ∈ list, answer element = some (value element)) :
    list.mapM answer = some (list.map value) := by
  induction list with
  | nil => rfl
  | cons first rest induction =>
      rw [List.mapM_cons, answers first (List.mem_cons_self ..),
        induction fun element member => answers element (List.mem_cons_of_mem _ member)]
      rfl

/-- The list has the services of the device itself and of those right inside it. -/
theorem IsDevice.serviceListForDevice {device : JSON} (isDevice : IsDevice device) :
    SSDPDiscoveryProvider.serviceListForDevice device =
      some (services device ++ (devices device).flatMap services) := by
  have own := isDevice.ownServiceList
  cases isDevice with
  | device fields serviceList deviceList types inner =>
      rcases Option.bind_eq_some_iff.mp (objectForKey_list deviceList) with
        ⟨outer, first, second⟩
      have below : (devices (.object fields)).mapM SSDPDiscoveryProvider.ownServiceList =
          some ((devices (.object fields)).map services) :=
        mapM_eq_some_map fun device listed => (inner device listed).ownServiceList
      rw [SSDPDiscoveryProvider.serviceListForDevice, own, first]
      simp only [Option.bind_eq_bind, Option.bind_some, second, Option.pure_def]
      rw [deviceList.elements.listedObjects]
      exact congrArg (Option.bind · _) below

/-! ### The first device that fits -/

/-- The search finds the first device whose own services include those that are required,
and the list for that device has an entry for each. -/
structure FindsFirst (requiredServices : List String) (device : JSON) : Prop where
  found : SSDPDiscoveryProvider.containingRequiredServices requiredServices device =
    some ((preorder device).find? (includes requiredServices))
  missing : SSDPDiscoveryProvider.containingRequiredServices requiredServices device =
      some none ↔
    ∀ inner ∈ preorder device, includes requiredServices inner = false
  listed : ∀ first,
    SSDPDiscoveryProvider.containingRequiredServices requiredServices device =
        some (some first) →
      ∃ serviceList, SSDPDiscoveryProvider.serviceListForDevice first = some serviceList ∧
        ∀ type ∈ requiredServices, ∃ service ∈ serviceList, serviceType service = some type

theorem IsDevice.listed_of_includes {device : JSON} (isDevice : IsDevice device)
    {requiredServices : List String} (fits : includes requiredServices device = true) :
    ∃ serviceList, SSDPDiscoveryProvider.serviceListForDevice device = some serviceList ∧
      ∀ type ∈ requiredServices, ∃ service ∈ serviceList,
        serviceType service = some type := by
  refine ⟨_, isDevice.serviceListForDevice, ?_⟩
  intro type required
  have own : type ∈ serviceTypes device :=
    List.contains_iff_mem.mp (List.all_eq_true.mp fits type required)
  rcases List.mem_filterMap.mp own with ⟨service, listed, typed⟩
  exact ⟨service, List.mem_append_left _ listed, typed⟩

/-- Every device of any shape is searched as it should, exactly if the services of each
device up to the first match can be read. -/
theorem findsFirst_iff {device : JSON} (isDevice : IsDevice device)
    (requiredServices : List String) :
    FindsFirst requiredServices device ↔
      ∀ visited ∈ upToFirst (includes requiredServices) (preorder device),
        ReadsServices visited := by
  have searched :
      SSDPDiscoveryProvider.containingRequiredServices requiredServices device =
          some ((preorder device).find? (includes requiredServices)) ↔
        ∀ visited ∈ upToFirst (includes requiredServices) (preorder device),
          ReadsServices visited := by
    rw [isDevice.containingRequiredServices]
    apply findM?_eq_find?_iff
    · intro inner member reads
      exact (isDevice.of_mem_preorder inner member).hasAllRequired_some reads _
    · intro inner member unread
      exact (isDevice.of_mem_preorder inner member).hasAllRequired_none unread _
  rw [← searched]
  refine ⟨FindsFirst.found, fun found => ⟨found, ?_, ?_⟩⟩
  · rw [found, Option.some.injEq, List.find?_eq_none]
    simp only [Bool.not_eq_true]
  · intro first same
    rw [found, Option.some.injEq] at same
    have member := List.mem_of_find?_eq_some same
    have fits := List.find?_some same
    exact (isDevice.of_mem_preorder first member).listed_of_includes fits

def serviceElement (type : String) : JSON :=
  .object [("serviceType", .object [("text", .string type)])]

def rendererServices : List JSON :=
  [serviceElement "urn:schemas-upnp-org:service:RenderingControl:1",
    serviceElement "urn:schemas-upnp-org:service:AVTransport:1"]

def renderer : JSON :=
  .object [("serviceList", .object [("service", .array rendererServices)])]

/-- A device without services around one with two. -/
def zonePlayer : JSON :=
  .object [("deviceList", .object [("device", renderer)])]

theorem rendererServices_typed : ∀ service ∈ rendererServices,
    ∃ (fields : JSON.Fields) (type : String), service = .object fields ∧
      fields.value? "serviceType" = some (.object [("text", .string type)]) := by
  intro service listed
  simp only [rendererServices, List.mem_cons, List.not_mem_nil, or_false] at listed
  rcases listed with rfl | rfl <;> exact ⟨_, _, rfl, rfl⟩

theorem renderer_isDevice : IsDevice renderer := by
  refine .device _ (.given _ (.several _ fun service listed => ?_)) .absent
    (fun service listed => ?_) fun device inner => ?_
  · rcases rendererServices_typed service listed with ⟨fields, _, same, _⟩
    exact ⟨fields, same⟩
  · rcases rendererServices_typed service listed with ⟨fields, type, rfl, typed⟩
    rw [JSON.value?_object, typed]
    exact .told _ type rfl
  · cases inner

theorem zonePlayer_isDevice : IsDevice zonePlayer := by
  refine .device _ .absent (.given _ (.single _)) (fun service listed => ?_)
    fun device inner => ?_
  · cases listed
  · cases List.mem_singleton.mp inner
    exact renderer_isDevice

theorem findsFirst_zonePlayer :
    FindsFirst ["urn:schemas-upnp-org:service:AVTransport:1"] zonePlayer := by
  refine (findsFirst_iff zonePlayer_isDevice _).mpr ?_
  have inOrder : preorder zonePlayer = [zonePlayer, renderer] := by
    rw [preorder_eq]
    refine congrArg (zonePlayer :: ·) ((List.flatMap_singleton preorder renderer).trans ?_)
    rw [preorder_eq]
    rfl
  rw [inOrder]
  intro visited member
  have visits : visited ∈ [zonePlayer, renderer] := member
  simp only [List.mem_cons, List.not_mem_nil, or_false] at visits
  rcases visits with rfl | rfl
  · trivial
  · intro service listed
    rcases rendererServices_typed service listed with ⟨_, _, rfl, typed⟩
    rw [JSON.value?_object, typed]
    rfl

/-- A service that does not tell its type. -/
def untypedDevice : JSON :=
  .object [("serviceList", .object [("service", .object
    [("serviceId", .object [("text", .string "urn:upnp-org:serviceId:AVTransport")])])])]

theorem untypedDevice_isDevice : IsDevice untypedDevice := by
  refine .device _ (.given _ (.single _)) .absent (fun service member => ?_)
    fun device member => ?_
  · cases List.mem_singleton.mp member
    exact .absent
  · cases member

/-- The search raises for a device whose only service has no type. -/
theorem untyped_service_raises :
    ¬ ∀ (device : JSON) (requiredServices : List String), IsDevice device →
      FindsFirst requiredServices device := by
  intro always
  have finds := always untypedDevice
    ["urn:schemas-upnp-org:service:AVTransport:1"] untypedDevice_isDevice
  have found := finds.found
  rw [containingRequiredServices_eq] at found
  cases found

/-! ## The device of a description -/

def text (name : String) (device : JSON) : Option String :=
  ((device.value? name).bind (JSON.value? "text")).bind JSON.string?

def texts (device : JSON) : XMLDeviceTexts where
  friendlyName := text "friendlyName" device
  modelName := text "modelName" device
  modelNumber := text "modelNumber" device
  modelDescription := text "modelDescription" device
  manufacturer := text "manufacturer" device
  serviceList := (SSDPDiscoveryProvider.serviceListForDevice device).getD []

/-- The device as the provider searches it once its description is parsed. -/
def toXMLDevice (device : JSON) : XMLDevice :=
  .mk (texts device) (serviceTypes device)
    ((devices device).attach.map fun ⟨inner, member⟩ =>
      have : sizeOf inner < sizeOf device := sizeOf_devices member
      toXMLDevice inner)
termination_by sizeOf device

theorem toXMLDevice_eq (device : JSON) :
    toXMLDevice device =
      .mk (texts device) (serviceTypes device) ((devices device).map toXMLDevice) := by
  rw [toXMLDevice, List.map_subtype (fun _ _ => rfl), List.unattach_attach]

theorem IsDevice.preorder_toXMLDevice {device : JSON} (isDevice : IsDevice device) :
    (toXMLDevice device).preorder = (preorder device).map toXMLDevice := by
  induction isDevice with
  | device fields serviceList deviceList types inner induction =>
      rw [toXMLDevice_eq, XMLDevice.preorder, ← toXMLDevice_eq, preorder_eq, List.map_cons,
        List.map_flatMap, XMLDevice.preorderList_eq, List.flatMap_map]
      exact congrArg _ (List.flatMap_congr induction)

/-- Where the search finds the first device, it finds what the provider's search does. -/
theorem FindsFirst.toXMLDevice {device : JSON} {requiredServices : List String}
    (finds : FindsFirst requiredServices device) (isDevice : IsDevice device) :
    (SSDPDiscoveryProvider.containingRequiredServices requiredServices device).map
        (Option.map toXMLDevice) =
      some ((toXMLDevice device).containingRequiredServices requiredServices) := by
  have types : ∀ inner, (DeviceDescription.toXMLDevice inner).serviceTypes =
      serviceTypes inner := by
    intro inner
    rw [toXMLDevice_eq]
    rfl
  rw [finds.found, Option.map_some, XMLDevice.containingRequiredServices_eq_find,
    isDevice.preorder_toXMLDevice, List.find?_map]
  simp only [Function.comp_def, types]
  rfl

end DeviceDescription

end ConnectSDK
