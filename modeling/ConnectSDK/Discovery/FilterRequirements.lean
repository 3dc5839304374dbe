import ConnectSDK.Discovery.SSDPResponses
import Mathlib.Data.Finset.Basic
import Mathlib.Data.List.Infix

/-! # Filters that share a search string

A description is searched for the services that the first filter like the type requires,
but every filter with that string gets the announcement.
-/

namespace ConnectSDK

/-! ## Devices inside a device -/

namespace XMLDevice

def serviceTypes : XMLDevice → List String
  | .mk _ serviceTypes _ => serviceTypes

mutual

/-- A device and then those inside it. -/
def preorder : XMLDevice → List XMLDevice
  | .mk texts serviceTypes deviceList =>
      .mk texts serviceTypes deviceList :: preorderList deviceList

def preorderList : List XMLDevice → List XMLDevice
  | [] => []
  | device :: rest => device.preorder ++ preorderList rest

end

theorem preorderList_eq (devices : List XMLDevice) :
    preorderList devices = devices.flatMap preorder := by
  induction devices with
  | nil => rfl
  | cons device rest induction => rw [preorderList, induction, List.flatMap_cons]

mutual

theorem containingRequiredServices_eq_find (requiredServices : List String) :
    ∀ device : XMLDevice, device.containingRequiredServices requiredServices =
      device.preorder.find? fun inner => requiredServices.all inner.serviceTypes.contains
  | .mk texts serviceTypes deviceList => by
      rw [containingRequiredServices, preorder, List.find?_cons,
        firstContaining_eq_find requiredServices deviceList]
      simp only [XMLDevice.serviceTypes]
      cases requiredServices.all serviceTypes.contains <;> rfl

theorem firstContaining_eq_find (requiredServices : List String) :
    ∀ devices : List XMLDevice, firstContaining requiredServices devices =
      (preorderList devices).find? fun inner =>
        requiredServices.all inner.serviceTypes.contains
  | [] => rfl
  | device :: rest => by
      rw [firstContaining, preorderList, List.find?_append,
        containingRequiredServices_eq_find requiredServices device,
        firstContaining_eq_find requiredServices rest]

end

theorem all_contains_iff {requiredServices serviceTypes : List String} :
    requiredServices.all serviceTypes.contains = true ↔
      ∀ type ∈ requiredServices, type ∈ serviceTypes := by
  simp

/-- The device that is found has the services itself. -/
theorem containingRequiredServices_sound {requiredServices : List String}
    {device found : XMLDevice}
    (contained : device.containingRequiredServices requiredServices = some found) :
    ∀ type ∈ requiredServices, type ∈ found.serviceTypes := by
  rw [containingRequiredServices_eq_find] at contained
  have fits := List.find?_some contained
  exact all_contains_iff.mp fits

/-- Only which services are required matters, not their order. -/
theorem containingRequiredServices_congr {requiredServices others : List String}
    (same : ∀ type, type ∈ requiredServices ↔ type ∈ others) (device : XMLDevice) :
    device.containingRequiredServices requiredServices =
      device.containingRequiredServices others := by
  have fits : ∀ inner : XMLDevice, requiredServices.all inner.serviceTypes.contains =
      others.all inner.serviceTypes.contains := by
    intro inner
    rw [Bool.eq_iff_iff, all_contains_iff, all_contains_iff]
    simp only [same]
  simp only [containingRequiredServices_eq_find, fits]

end XMLDevice

/-! ## Filters like a type -/

theorem like_self : ∀ text : List Char, like text text = true
  | [] => rfl
  | character :: rest => by
      have below := like_self rest
      unfold like
      split
      · rename_i same
        cases same
      · rename_i pattern same
        injection same with _ same
        subst same
        exact List.any_eq_true.mpr
          ⟨rest, (List.mem_tails _ _).mpr (List.suffix_cons character rest), below⟩
      · rename_i pattern same
        injection same with _ same
        subst same
        exact below
      · rename_i first pattern _ _ same
        injection same with here there
        subst here there
        simp only [beq_self_eq_true, below, Bool.and_self]

namespace SSDPServiceFilter

def IsLike (serviceFilter : SSDPServiceFilter) (type : String) : Prop :=
  like type.toList serviceFilter.filter.toList = true

instance (serviceFilter : SSDPServiceFilter) (type : String) :
    Decidable (serviceFilter.IsLike type) :=
  inferInstanceAs (Decidable (_ = true))

end SSDPServiceFilter

/-- The services that the delegate is told of. -/
def SSDPAnnouncement.foundServiceIds : SSDPAnnouncement → List String
  | .didFindServices _ services => services.filterMap ServiceDescription.serviceId
  | .didLoseServices _ _ => []
  | .stopDiscovery => []

namespace LocationResponse

/-- The described device, or one inside it, has all of these services. -/
def contains (response : Option LocationResponse) (requiredServices : List String) : Bool :=
  (response.bind LocationResponse.device).any fun device =>
    (device.containingRequiredServices requiredServices).isSome

theorem contains_congr {requiredServices others : List String}
    (same : ∀ type, type ∈ requiredServices ↔ type ∈ others)
    (response : Option LocationResponse) :
    contains response requiredServices = contains response others := by
  simp only [contains, XMLDevice.containingRequiredServices_congr same]

/-- A description of one device with these services. -/
def ofServiceTypes (serviceTypes : List String) : LocationResponse where
  device := some (.mk {} serviceTypes [])

theorem contains_ofServiceTypes {serviceTypes requiredServices : List String} :
    contains (some (ofServiceTypes serviceTypes)) requiredServices = true ↔
      ∀ type ∈ requiredServices, type ∈ serviceTypes := by
  simp only [contains, ofServiceTypes, Option.bind_some, Option.any_some,
    XMLDevice.containingRequiredServices_eq_find, XMLDevice.preorder, XMLDevice.preorderList,
    List.find?_isSome, List.mem_singleton, exists_eq_left, XMLDevice.serviceTypes,
    XMLDevice.all_contains_iff]

end LocationResponse

namespace SSDPDiscoveryProvider

/-- The service ids that the answer of a location is announced with. -/
def announcedServiceIds (provider : SSDPDiscoveryProvider) (load : LocationLoad)
    (response : Option LocationResponse) (now : TimeInterval) : Option (Finset String) :=
  (provider.locationLoaded load response now).map fun next =>
    ((next.announcements.drop provider.announcements.length).flatMap
      SSDPAnnouncement.foundServiceIds).toFinset

theorem fittingDevice_eq (provider : SSDPDiscoveryProvider) (type : String)
    (response : Option LocationResponse) :
    (provider.fittingDevice type response).isSome =
      LocationResponse.contains response (provider.requiredServicesForFilter type) := by
  rcases response with _ | ⟨_, _, _, _ | device⟩ <;>
    simp [fittingDevice, LocationResponse.contains, deviceContainingServicesWithFilter]

theorem fittingDevice_contained {provider : SSDPDiscoveryProvider} {type : String}
    {response : Option LocationResponse} {answer : LocationResponse} {device : XMLDevice}
    (found : provider.fittingDevice type response = some (answer, device)) :
    ∃ root : XMLDevice, root.containingRequiredServices
      (provider.requiredServicesForFilter type) = some device := by
  rcases Option.bind_eq_some_iff.mp found with ⟨_, _, described⟩
  rcases Option.map_eq_some_iff.mp described with ⟨inner, contained, same⟩
  cases same
  rcases Option.bind_eq_some_iff.mp contained with ⟨root, _, fits⟩
  exact ⟨root, fits⟩

/-- What is announced, if anything is, is every service id registered for the type. -/
theorem announcedServiceIds_eq (provider : SSDPDiscoveryProvider) (load : LocationLoad)
    (response : Option LocationResponse) (now : TimeInterval) :
    provider.announcedServiceIds load response now =
      if (provider.helloDevices.lookup load.uuid).isSome &&
          LocationResponse.contains response
            (provider.requiredServicesForFilter load.type) then
        (provider.serviceIdsForFilter (some load.type)).map List.toFinset
      else some ∅ := by
  rw [← fittingDevice_eq, announcedServiceIds, locationLoaded]
  cases fits : provider.fittingDevice load.type response with
  | none => simp
  | some fitting =>
      cases held : provider.helloDevices.lookup load.uuid with
      | none => simp [findService, held]
      | some hello =>
          simp only [findService, held, servicesFor, describe]
          cases provider.serviceIdsForFilter (some load.type) with
          | none => rfl
          | some serviceIds =>
              simp [SSDPAnnouncement.foundServiceIds, List.filterMap_map]

/-! ## The order of the filters -/

theorem toFinset_mapM_cons {α : Type u} {β : Type v} [DecidableEq β] (answer : α → Option β)
    (head : α) (tail : List α) :
    ((head :: tail).mapM answer).map List.toFinset =
      (answer head).bind fun first =>
        ((tail.mapM answer).map List.toFinset).map (insert first) := by
  rw [List.mapM_cons]
  cases answer head with
  | none => rfl
  | some first => cases tail.mapM answer <;> simp

theorem toFinset_mapM_perm {α : Type u} {β : Type v} [DecidableEq β] {answer : α → Option β}
    {list other : List α} (same : list.Perm other) :
    (list.mapM answer).map List.toFinset = (other.mapM answer).map List.toFinset := by
  induction same with
  | nil => rfl
  | cons head same induction => rw [toFinset_mapM_cons, toFinset_mapM_cons, induction]
  | swap first second rest =>
      simp only [toFinset_mapM_cons]
      cases answer first <;> cases answer second <;> cases rest.mapM answer <;>
        simp [Finset.insert_comm]
  | trans _ _ first second => rw [first, second]

theorem serviceIdsForFilter_perm (provider : SSDPDiscoveryProvider)
    {serviceFilters : List SSDPServiceFilter}
    (same : serviceFilters.Perm provider.serviceFilters) (type : Option String) :
    (serviceIdsForFilter { provider with serviceFilters } type).map List.toFinset =
      (provider.serviceIdsForFilter type).map List.toFinset :=
  toFinset_mapM_perm (same.filter _)

/-- A type that is searched for is announced as something, or the announcement raises. -/
theorem serviceIdsForFilter_ne_empty {provider : SSDPDiscoveryProvider} {type : String}
    (searching : provider.isSearchingForFilter type = true) :
    (provider.serviceIdsForFilter (some type)).map List.toFinset ≠ some ∅ := by
  intro empty
  rcases Option.map_eq_some_iff.mp empty with ⟨serviceIds, answered, none⟩
  rw [List.toFinset_eq_empty_iff] at none
  subst none
  rcases List.any_eq_true.mp searching with ⟨serviceFilter, registered, own⟩
  have kept : serviceFilter ∈ provider.serviceFilters.filter fun serviceFilter =>
      decide (some serviceFilter.filter = some type) :=
    List.mem_filter.mpr ⟨registered, by simpa using own⟩
  rw [serviceIdsForFilter] at answered
  rcases List.exists_cons_of_ne_nil (List.ne_nil_of_mem kept) with ⟨head, tail, split⟩
  rw [split, List.mapM_cons] at answered
  rcases Option.bind_eq_some_iff.mp answered with ⟨_, _, rest⟩
  rcases Option.bind_eq_some_iff.mp rest with ⟨_, _, same⟩
  cases same

/-- Each filter like the type is the first one in some order. -/
theorem exists_requiredServicesForFilter (provider : SSDPDiscoveryProvider) {type : String}
    {serviceFilter : SSDPServiceFilter}
    (registered : serviceFilter ∈ provider.serviceFilters)
    (alike : serviceFilter.IsLike type) :
    ∃ serviceFilters : List SSDPServiceFilter, serviceFilters.Perm provider.serviceFilters ∧
      requiredServicesForFilter { provider with serviceFilters } type =
        serviceFilter.requiredServices := by
  rcases List.append_of_mem registered with ⟨before, after, split⟩
  refine ⟨serviceFilter :: (before ++ after), ?_, ?_⟩
  · rw [split]
    exact List.perm_middle.symm
  · rw [SSDPServiceFilter.IsLike] at alike
    simp [requiredServicesForFilter, alike]

/-- In every order the required services are those of some filter like the type. -/
theorem requiredServicesForFilter_mem {provider : SSDPDiscoveryProvider} {type : String}
    (searching : provider.isSearchingForFilter type = true) :
    ∃ serviceFilter ∈ provider.serviceFilters, serviceFilter.IsLike type ∧
      provider.requiredServicesForFilter type = serviceFilter.requiredServices := by
  rcases List.any_eq_true.mp searching with ⟨own, registered, same⟩
  have alike : own.IsLike type := by
    rw [SSDPServiceFilter.IsLike, eq_of_beq same]
    exact like_self _
  rw [SSDPServiceFilter.IsLike] at alike
  cases first : provider.serviceFilters.find? fun serviceFilter =>
      like type.toList serviceFilter.filter.toList with
  | none =>
      have missing := List.find?_eq_none.mp first own registered
      exact absurd alike missing
  | some serviceFilter =>
      have fits := List.find?_some first
      refine ⟨serviceFilter, List.mem_of_find?_eq_some first, fits, ?_⟩
      rw [requiredServicesForFilter, first]
      rfl

theorem isSearchingForFilter_perm {provider : SSDPDiscoveryProvider}
    {serviceFilters : List SSDPServiceFilter}
    (same : serviceFilters.Perm provider.serviceFilters) (filter : String) :
    isSearchingForFilter { provider with serviceFilters } filter =
      provider.isSearchingForFilter filter :=
  same.any_eq

/-! ## What is announced -/

/-- The service id of this filter is among those announced. -/
def Announces (provider : SSDPDiscoveryProvider) (load : LocationLoad)
    (response : Option LocationResponse) (now : TimeInterval)
    (serviceFilter : SSDPServiceFilter) : Prop :=
  serviceFilter ∈ provider.serviceFilters ∧ serviceFilter.filter = load.type ∧
    ∃ serviceIds serviceId,
      provider.announcedServiceIds load response now = some serviceIds ∧
        serviceId ∈ serviceIds ∧ serviceFilter.serviceId = some serviceId

/-- In whichever order the filters are registered, the same service ids are announced, and
only those whose own filter requires what the described device contains. -/
structure FollowsFilters (provider : SSDPDiscoveryProvider) (load : LocationLoad)
    (response : Option LocationResponse) (now : TimeInterval) : Prop where
  unordered : ∀ serviceFilters : List SSDPServiceFilter,
    serviceFilters.Perm provider.serviceFilters →
      announcedServiceIds { provider with serviceFilters } load response now =
        provider.announcedServiceIds load response now
  required : ∀ serviceFilters : List SSDPServiceFilter,
    serviceFilters.Perm provider.serviceFilters → ∀ serviceFilter,
      Announces { provider with serviceFilters } load response now serviceFilter →
        LocationResponse.contains response serviceFilter.requiredServices = true

/-- The device that is announced has these services itself. -/
def FoundHasRequired (provider : SSDPDiscoveryProvider) (load : LocationLoad)
    (response : Option LocationResponse) (now : TimeInterval) : Prop :=
  ∀ serviceFilters : List SSDPServiceFilter,
    serviceFilters.Perm provider.serviceFilters → ∀ serviceFilter,
      Announces { provider with serviceFilters } load response now serviceFilter →
        ∃ answer device,
          fittingDevice { provider with serviceFilters } load.type response =
            some (answer, device) ∧
          ∀ type ∈ serviceFilter.requiredServices, type ∈ device.serviceTypes

/-- The answer is not awaited, or no filter has its type. -/
def Silent (provider : SSDPDiscoveryProvider) (load : LocationLoad) : Prop :=
  provider.helloDevices.lookup load.uuid = none ∨
    provider.isSearchingForFilter load.type = false

/-- The described device fits all the filters like the type, or none. -/
def LikeFiltersAgree (provider : SSDPDiscoveryProvider) (type : String)
    (response : Option LocationResponse) : Prop :=
  ∀ one ∈ provider.serviceFilters, one.IsLike type →
    ∀ other ∈ provider.serviceFilters, other.IsLike type →
      LocationResponse.contains response one.requiredServices =
        LocationResponse.contains response other.requiredServices

/-- All the filters like the type require the same services. -/
def LikeFiltersRequireSame (provider : SSDPDiscoveryProvider) (type : String) : Prop :=
  ∀ one ∈ provider.serviceFilters, one.IsLike type →
    ∀ other ∈ provider.serviceFilters, other.IsLike type →
      ∀ service, service ∈ one.requiredServices ↔ service ∈ other.requiredServices

theorem Silent.announcedServiceIds {provider : SSDPDiscoveryProvider} {load : LocationLoad}
    (silent : provider.Silent load) (response : Option LocationResponse)
    (now : TimeInterval) :
    provider.announcedServiceIds load response now = some ∅ := by
  rw [announcedServiceIds_eq]
  rcases silent with missing | unsearched
  · rw [missing]
    rfl
  · have none : provider.serviceIdsForFilter (some load.type) = some [] := by
      have kept : provider.serviceFilters.filter (fun serviceFilter =>
          decide (some serviceFilter.filter = some load.type)) = [] := by
        rw [List.filter_eq_nil_iff]
        intro serviceFilter registered own
        have other := List.any_eq_false.mp unsearched serviceFilter registered
        simp only [beq_iff_eq] at other
        simp only [Option.some.injEq, decide_eq_true_eq] at own
        exact other own
      rw [serviceIdsForFilter, kept]
      rfl
    rw [none]
    split <;> rfl

theorem Silent.perm {provider : SSDPDiscoveryProvider} {load : LocationLoad}
    (silent : provider.Silent load) {serviceFilters : List SSDPServiceFilter}
    (same : serviceFilters.Perm provider.serviceFilters) :
    Silent { provider with serviceFilters } load :=
  silent.imp id fun unsearched => (isSearchingForFilter_perm same _).trans unsearched

theorem Silent.not_announces {provider : SSDPDiscoveryProvider} {load : LocationLoad}
    (silent : provider.Silent load) {response : Option LocationResponse}
    {now : TimeInterval} {serviceFilter : SSDPServiceFilter} :
    ¬ provider.Announces load response now serviceFilter := by
  intro announces
  rcases announces with ⟨_, _, serviceIds, serviceId, announced, member, _⟩
  rw [silent.announcedServiceIds] at announced
  cases announced
  exact absurd member (Finset.notMem_empty _)

theorem Silent.followsFilters {provider : SSDPDiscoveryProvider} {load : LocationLoad}
    (silent : provider.Silent load) (response : Option LocationResponse)
    (now : TimeInterval) : provider.FollowsFilters load response now where
  unordered := by
    intro serviceFilters same
    rw [(silent.perm same).announcedServiceIds, silent.announcedServiceIds]
  required := by
    intro serviceFilters same own announces
    exact absurd announces (silent.perm same).not_announces

/-- Something is announced only if the described device fits. -/
theorem Announces.contains {provider : SSDPDiscoveryProvider} {load : LocationLoad}
    {response : Option LocationResponse} {now : TimeInterval}
    {serviceFilter : SSDPServiceFilter}
    (announces : provider.Announces load response now serviceFilter) :
    LocationResponse.contains response
      (provider.requiredServicesForFilter load.type) = true := by
  rcases announces with ⟨_, _, serviceIds, serviceId, announced, member, _⟩
  rw [announcedServiceIds_eq] at announced
  split at announced
  · rename_i fits
    exact (Bool.and_eq_true_iff.mp fits).2
  · cases announced
    exact absurd member (Finset.notMem_empty _)

/-- Whichever filter like the type comes first decides nothing. -/
theorem LikeFiltersAgree.contains_eq {provider : SSDPDiscoveryProvider} {type : String}
    {response : Option LocationResponse} (agree : provider.LikeFiltersAgree type response)
    (searching : provider.isSearchingForFilter type = true)
    {serviceFilters : List SSDPServiceFilter}
    (same : serviceFilters.Perm provider.serviceFilters) {own : SSDPServiceFilter}
    (registered : own ∈ provider.serviceFilters) (alike : own.IsLike type) :
    LocationResponse.contains response
        (requiredServicesForFilter { provider with serviceFilters } type) =
      LocationResponse.contains response own.requiredServices := by
  have searched : isSearchingForFilter { provider with serviceFilters } type = true :=
    (isSearchingForFilter_perm same type).trans searching
  rcases requiredServicesForFilter_mem searched with ⟨first, listed, fits, required⟩
  rw [required]
  exact agree first (same.mem_iff.mp listed) fits own registered alike

theorem followsFilters_of_agree {provider : SSDPDiscoveryProvider} {load : LocationLoad}
    {response : Option LocationResponse}
    (searching : provider.isSearchingForFilter load.type = true)
    (agree : provider.LikeFiltersAgree load.type response) (now : TimeInterval) :
    provider.FollowsFilters load response now where
  unordered := by
    intro serviceFilters same
    rcases requiredServicesForFilter_mem searching with ⟨first, listed, fits, required⟩
    rw [announcedServiceIds_eq, announcedServiceIds_eq,
      agree.contains_eq searching same listed fits,
      serviceIdsForFilter_perm provider same, required]
  required := by
    intro serviceFilters same own announces
    have alike : own.IsLike load.type := by
      rw [SSDPServiceFilter.IsLike, announces.2.1]
      exact like_self _
    rw [← agree.contains_eq searching same (same.mem_iff.mp announces.1) alike]
    exact announces.contains

theorem FollowsFilters.agree {provider : SSDPDiscoveryProvider} {load : LocationLoad}
    {response : Option LocationResponse} {now : TimeInterval}
    (follows : provider.FollowsFilters load response now)
    (awaited : (provider.helloDevices.lookup load.uuid).isSome = true)
    (searching : provider.isSearchingForFilter load.type = true) :
    provider.LikeFiltersAgree load.type response := by
  -- Each of the two filters comes first in some order, and what is announced is the same.
  have one_of_other : ∀ one ∈ provider.serviceFilters, one.IsLike load.type →
      ∀ other ∈ provider.serviceFilters, other.IsLike load.type →
        LocationResponse.contains response one.requiredServices = true →
          LocationResponse.contains response other.requiredServices = true := by
    intro one registered fits other listed alike contained
    rcases exists_requiredServicesForFilter provider registered fits with
      ⟨oneFirst, same, required⟩
    rcases exists_requiredServicesForFilter provider listed alike with
      ⟨otherFirst, permuted, requires⟩
    have unordered := (follows.unordered oneFirst same).trans
      (follows.unordered otherFirst permuted).symm
    simp only [announcedServiceIds_eq, awaited, required, requires, contained,
      serviceIdsForFilter_perm provider same, serviceIdsForFilter_perm provider permuted,
      Bool.true_and, if_true] at unordered
    by_contra missing
    rw [if_neg missing] at unordered
    exact serviceIdsForFilter_ne_empty searching unordered
  intro one registered fits other listed alike
  rw [Bool.eq_iff_iff]
  exact ⟨one_of_other one registered fits other listed alike,
    one_of_other other listed alike one registered fits⟩

theorem followsFilters_iff (provider : SSDPDiscoveryProvider) (load : LocationLoad)
    (response : Option LocationResponse) (now : TimeInterval) :
    provider.FollowsFilters load response now ↔
      provider.Silent load ∨ provider.LikeFiltersAgree load.type response := by
  constructor
  · intro follows
    cases awaited : provider.helloDevices.lookup load.uuid with
    | none => exact Or.inl (Or.inl awaited)
    | some hello =>
        cases searching : provider.isSearchingForFilter load.type with
        | false => exact Or.inl (Or.inr searching)
        | true => exact Or.inr (follows.agree (by rw [awaited]; rfl) searching)
  · intro condition
    rcases condition with silent | agree
    · exact silent.followsFilters response now
    · cases searching : provider.isSearchingForFilter load.type with
      | false =>
          have silent : provider.Silent load := Or.inr searching
          exact silent.followsFilters response now
      | true => exact followsFilters_of_agree searching agree now

theorem LikeFiltersRequireSame.agree {provider : SSDPDiscoveryProvider} {type : String}
    (same : provider.LikeFiltersRequireSame type) (response : Option LocationResponse) :
    provider.LikeFiltersAgree type response :=
  fun one registered fits other listed alike =>
    LocationResponse.contains_congr (same one registered fits other listed alike) response

/-- A device with just the services of one filter tells the others apart. -/
theorem likeFiltersRequireSame_of_agree {provider : SSDPDiscoveryProvider} {type : String}
    (agree : ∀ response, provider.LikeFiltersAgree type response) :
    provider.LikeFiltersRequireSame type := by
  have included : ∀ one ∈ provider.serviceFilters, one.IsLike type →
      ∀ other ∈ provider.serviceFilters, other.IsLike type →
        ∀ service ∈ one.requiredServices, service ∈ other.requiredServices := by
    intro one registered fits other listed alike
    have same := agree (some (LocationResponse.ofServiceTypes other.requiredServices))
      one registered fits other listed alike
    rw [← LocationResponse.contains_ofServiceTypes, same,
      LocationResponse.contains_ofServiceTypes]
    exact fun _ member => member
  intro one registered fits other listed alike service
  exact ⟨included one registered fits other listed alike service,
    included other listed alike one registered fits service⟩

theorem LikeFiltersRequireSame.foundHasRequired {provider : SSDPDiscoveryProvider}
    {load : LocationLoad} (required : provider.LikeFiltersRequireSame load.type)
    (response : Option LocationResponse) (now : TimeInterval) :
    provider.FoundHasRequired load response now := by
  intro serviceFilters same own announces
  have searching : isSearchingForFilter { provider with serviceFilters } load.type = true :=
    List.any_eq_true.mpr ⟨own, announces.1, beq_iff_eq.mpr announces.2.1⟩
  rcases requiredServicesForFilter_mem searching with ⟨first, listed, fits, chosen⟩
  have fitting := announces.contains
  rw [← fittingDevice_eq] at fitting
  rcases Option.isSome_iff_exists.mp fitting with ⟨⟨answer, device⟩, found⟩
  refine ⟨answer, device, found, ?_⟩
  rcases fittingDevice_contained found with ⟨root, contained⟩
  rw [chosen] at contained
  have alike : own.IsLike load.type := by
    rw [SSDPServiceFilter.IsLike, announces.2.1]
    exact like_self _
  intro type needed
  exact XMLDevice.containingRequiredServices_sound contained type
    ((required first (same.mem_iff.mp listed) fits own (same.mem_iff.mp announces.1) alike
      type).mpr needed)

/-- What is announced follows the filters, whatever their order, exactly if the described
device fits all the filters like the type or none; over all descriptions, exactly if these
filters require the same services. -/
theorem announcedServiceIds_followFilters_iff (provider : SSDPDiscoveryProvider)
    (load : LocationLoad) (now : TimeInterval) :
    (∀ response, provider.FollowsFilters load response now ↔
      provider.Silent load ∨ provider.LikeFiltersAgree load.type response) ∧
    ((∀ response, provider.FollowsFilters load response now ∧
        provider.FoundHasRequired load response now) ↔
      provider.Silent load ∨ provider.LikeFiltersRequireSame load.type) := by
  refine ⟨fun response => provider.followsFilters_iff load response now, ?_, ?_⟩
  · intro follows
    by_cases silent : provider.Silent load
    · exact Or.inl silent
    · refine Or.inr (likeFiltersRequireSame_of_agree fun response => ?_)
      have agrees := (provider.followsFilters_iff load response now).mp (follows response).1
      exact agrees.resolve_left silent
  · intro condition response
    rcases condition with silent | required
    · refine ⟨silent.followsFilters response now, ?_⟩
      intro serviceFilters same own announces
      exact absurd announces (silent.perm same).not_announces
    · exact ⟨(provider.followsFilters_iff load response now).mpr
        (Or.inr (required.agree response)), required.foundHasRequired response now⟩

/-- A provider that waits for the description of a media renderer. -/
def awaitingRenderer (serviceFilters : List SSDPServiceFilter) : SSDPDiscoveryProvider where
  serviceFilters := serviceFilters
  helloDevices := AList.insert "tv" { uuid := some "tv" } ∅

def netcastFilter : SSDPServiceFilter where
  serviceId := some "Netcast TV"
  filter := "urn:schemas-upnp-org:device:MediaRenderer:1"

def dlnaFilter : SSDPServiceFilter where
  serviceId := some "DLNA"
  filter := "urn:schemas-upnp-org:device:MediaRenderer:1"
  requiredServices :=
    ["urn:schemas-upnp-org:service:AVTransport:1",
      "urn:schemas-upnp-org:service:RenderingControl:1"]

/-- A renderer without the services is announced if the filter without them comes first. -/
theorem announced_depends_on_order :
    ¬ ∀ (provider : SSDPDiscoveryProvider) (load : LocationLoad)
      (response : Option LocationResponse) (now : TimeInterval),
      provider.FollowsFilters load response now := by
  intro always
  have follows := always (awaitingRenderer [netcastFilter, dlnaFilter])
    ⟨"tv", "urn:schemas-upnp-org:device:MediaRenderer:1"⟩
    (some (LocationResponse.ofServiceTypes [])) 0
  have swapped := follows.unordered [dlnaFilter, netcastFilter] (List.Perm.swap _ _ _)
  revert swapped
  decide

end SSDPDiscoveryProvider

end ConnectSDK
