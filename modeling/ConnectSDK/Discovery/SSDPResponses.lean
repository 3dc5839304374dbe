import ConnectSDK.Discovery.SSDPAnnouncements

/-! # Devices that answer for several types

A device may answer several searches under one UUID. The first answer decides as which
services it is announced.
-/

namespace ConnectSDK

/-- A service id that some filter registers for a type. -/
def RegisteredFor (serviceFilters : List SSDPServiceFilter) (type serviceId : String) :
    Prop :=
  ∃ serviceFilter ∈ serviceFilters,
    serviceFilter.filter = type ∧ serviceFilter.serviceId = some serviceId

namespace SSDPDiscoveryProvider

/-- The UUID and the type that a message advertises together with a location. -/
def advertises (provider : SSDPDiscoveryProvider) (message : SSDPMessage) :
    Option (String × String) :=
  if message.isByebye then none
  else if message.location.any fun location => !location.text.isEmpty then
    provider.hears message
  else none

/-- The responses of a run, in the order in which they arrive. -/
def advertised (serviceFilters : List SSDPServiceFilter) (events : List SSDPEvent) :
    List (String × String) :=
  events.filterMap fun
    | .didReceiveData message _ _ => advertises { serviceFilters } message
    | _ => none

/-- Nothing but responses, and loads that succeed. -/
def Succeeds (provider : SSDPDiscoveryProvider) : SSDPEvent → Prop
  | .didReceiveData message _ _ => message.isByebye = false
  | .locationLoaded index response _ => ∀ load, provider.locationLoads[index]? = some load →
      (provider.fittingDevice load.type response).isSome = true
  | .startDiscovery => True
  | .stopDiscovery => False

instance (provider : SSDPDiscoveryProvider) (event : SSDPEvent) :
    Decidable (provider.Succeeds event) :=
  match event with
  | .didReceiveData message _ _ => inferInstanceAs (Decidable (message.isByebye = false))
  | .locationLoaded index response _ =>
      match pending : provider.locationLoads[index]? with
      | none => isTrue fun _ same => by cases pending.symm.trans same
      | some load =>
          decidable_of_iff ((provider.fittingDevice load.type response).isSome = true)
            ⟨fun fits _ same => by cases pending.symm.trans same; exact fits,
              fun succeeds => succeeds load pending⟩
  | .startDiscovery => isTrue trivial
  | .stopDiscovery => isFalse id

/-- The device was announced as found with this service id. -/
def AnnouncedAs (provider : SSDPDiscoveryProvider) (uuid serviceId : String) : Prop :=
  ∃ services, .didFindServices uuid services ∈ provider.announcements ∧
    ∃ service ∈ services, service.serviceId = some serviceId

/-- The type of the first response of a device. -/
def firstType (responses : List (String × String)) (uuid : String) : Option String :=
  (responses.find? fun response => response.1 == uuid).map Prod.snd

/-- Every registered service id is announced whose type was advertised. -/
def AnnouncesAll (serviceFilters : List SSDPServiceFilter)
    (responses : List (String × String)) (provider : SSDPDiscoveryProvider) : Prop :=
  ∀ uuid type serviceId, (uuid, type) ∈ responses →
    RegisteredFor serviceFilters type serviceId → provider.AnnouncedAs uuid serviceId

/-- What is registered for a type that a device advertises is registered for the type the
device advertises first, too. -/
def FirstCovers (serviceFilters : List SSDPServiceFilter)
    (responses : List (String × String)) : Prop :=
  ∀ uuid type serviceId, (uuid, type) ∈ responses →
    RegisteredFor serviceFilters type serviceId →
      ∃ first, firstType responses uuid = some first ∧
        RegisteredFor serviceFilters first serviceId

theorem firstType_append (responses more : List (String × String)) (uuid : String) :
    firstType (responses ++ more) uuid =
      (firstType responses uuid).or (firstType more uuid) := by
  rw [firstType, List.find?_append]
  cases found : responses.find? fun response => response.1 == uuid <;>
    simp [firstType, found]

theorem firstType_mem {responses : List (String × String)} {uuid type : String}
    (first : firstType responses uuid = some type) : (uuid, type) ∈ responses := by
  rcases Option.map_eq_some_iff.mp first with ⟨⟨other, same⟩, found, rfl⟩
  have own : other = uuid := by simpa using List.find?_some found
  rw [← own]
  exact List.mem_of_find?_eq_some found

theorem mem_mapM_some {α : Type u} {β : Type v} {answer : α → Option β} {list : List α}
    {answers : List β} (answered : list.mapM answer = some answers) (item : β) :
    item ∈ answers ↔ ∃ element ∈ list, answer element = some item := by
  induction list generalizing answers with
  | nil =>
      cases answered
      simp
  | cons head tail induction =>
      rw [List.mapM_cons] at answered
      rcases Option.bind_eq_some_iff.mp answered with ⟨first, here, rest⟩
      rcases Option.bind_eq_some_iff.mp rest with ⟨later, there, same⟩
      cases same
      rw [List.mem_cons, induction there]
      simp only [List.mem_cons, exists_eq_or_imp, here, Option.some.injEq]
      rw [eq_comm]

theorem serviceIds_of_servicesFor {provider : SSDPDiscoveryProvider}
    {service : ServiceDescription} {services : List ServiceDescription} {type : String}
    {now : TimeInterval} (typed : service.type = some type)
    (copies : provider.servicesFor service now = some services)
    (serviceId : String) :
    (∃ copy ∈ services, copy.serviceId = some serviceId) ↔
      RegisteredFor provider.serviceFilters type serviceId := by
  rcases Option.map_eq_some_iff.mp copies with ⟨serviceIds, answered, rfl⟩
  rw [serviceIdsForFilter, typed] at answered
  have listed := mem_mapM_some answered serviceId
  simp only [List.mem_filter, decide_eq_true_eq, Option.some.injEq] at listed
  simp only [List.mem_map, exists_exists_and_eq_and, Option.some.injEq, exists_eq_right]
  rw [listed, RegisteredFor]
  apply exists_congr
  intro serviceFilter
  rw [and_assoc]

/-! ## From the first answer to the announcement -/

/-- How far a device has come, given the type of its first response. -/
inductive Progress (uuid : String) (provider : SSDPDiscoveryProvider) : Option String → Prop
  | unheard (missing : provider.foundServices.lookup uuid = none)
      (fresh : provider.helloDevices.lookup uuid = none)
      (idle : ∀ load ∈ provider.locationLoads, load.uuid ≠ uuid)
      (silent : ∀ serviceId, ¬ provider.AnnouncedAs uuid serviceId) :
      Progress uuid provider none
  | loading {type : String} {hello : ServiceDescription}
      (missing : provider.foundServices.lookup uuid = none)
      (held : provider.helloDevices.lookup uuid = some hello)
      (pending : ∃ load ∈ provider.locationLoads, load.uuid = uuid)
      (typed : ∀ load ∈ provider.locationLoads, load.uuid = uuid → load.type = type)
      (silent : ∀ serviceId, ¬ provider.AnnouncedAs uuid serviceId) :
      Progress uuid provider (some type)
  | announced {type : String} {service : ServiceDescription}
      (found : provider.foundServices.lookup uuid = some service)
      (gone : provider.helloDevices.lookup uuid = none)
      (told : ∀ serviceId, provider.AnnouncedAs uuid serviceId ↔
        RegisteredFor provider.serviceFilters type serviceId) :
      Progress uuid provider (some type)

/-- What happens to other devices does not matter. -/
theorem Progress.of_same {uuid : String} {provider next : SSDPDiscoveryProvider}
    {first : Option String} (progress : provider.Progress uuid first)
    (filters : next.serviceFilters = provider.serviceFilters)
    (found : next.foundServices.lookup uuid = provider.foundServices.lookup uuid)
    (hello : next.helloDevices.lookup uuid = provider.helloDevices.lookup uuid)
    (loads : ∀ load, load.uuid = uuid →
      (load ∈ next.locationLoads ↔ load ∈ provider.locationLoads))
    (told : ∀ serviceId, next.AnnouncedAs uuid serviceId ↔
      provider.AnnouncedAs uuid serviceId) : next.Progress uuid first := by
  cases progress with
  | unheard missing fresh idle silent =>
      refine .unheard (found.trans missing) (hello.trans fresh) ?_ ?_
      · intro load member own
        exact idle load ((loads load own).mp member) own
      · exact fun serviceId announced => silent serviceId ((told serviceId).mp announced)
  | loading missing held pending typed silent =>
      refine .loading (found.trans missing) (hello.trans held) ?_ ?_ ?_
      · rcases pending with ⟨load, member, own⟩
        exact ⟨load, (loads load own).mpr member, own⟩
      · exact fun load member own => typed load ((loads load own).mp member) own
      · exact fun serviceId announced => silent serviceId ((told serviceId).mp announced)
  | announced located gone registered =>
      refine .announced (found.trans located) (hello.trans gone) ?_
      intro serviceId
      rw [told, filters, registered]

theorem advertises_eq_none {provider : SSDPDiscoveryProvider} {message : SSDPMessage}
    (missing : ∀ location, message.location = some location →
      location.text.isEmpty = true) : provider.advertises message = none := by
  unfold advertises
  split
  · rfl
  · rw [if_neg]
    intro given
    rcases (Option.any_eq_true _ _).mp given with ⟨location, located, nonempty⟩
    rw [missing location located] at nonempty
    cases nonempty

theorem advertises_eq_hears {provider : SSDPDiscoveryProvider} {message : SSDPMessage}
    {location : SSDPLocation} (stays : message.isByebye = false)
    (located : message.location = some location) (given : location.text.isEmpty = false) :
    provider.advertises message = provider.hears message := by
  rw [advertises, stays, if_neg Bool.false_ne_true, located, Option.any_some, given]
  rfl

theorem firstType_singleton (other type uuid : String) :
    firstType [(other, type)] uuid = if other = uuid then some type else none := by
  by_cases own : other = uuid <;> simp [firstType, own]

theorem Progress.receives {uuid : String} {provider next : SSDPDiscoveryProvider}
    {first : Option String} (progress : provider.Progress uuid first)
    {message : SSDPMessage} {address : String} {now : TimeInterval}
    (stays : message.isByebye = false)
    (receives : Receives provider message address now next) :
    next.Progress uuid
      (first.or (firstType (provider.advertises message).toList uuid)) := by
  have quiet : provider.advertises message = none →
      provider.Progress uuid
        (first.or (firstType (provider.advertises message).toList uuid)) := by
    intro nothing
    rw [nothing]
    exact (Option.or_none ▸ progress : provider.Progress uuid (first.or none))
  cases receives with
  | ignored unheard =>
      apply quiet
      rw [advertises, unheard, ite_self, ite_self]
  | unknown _ leaves _ => cases leaves.symm.trans stays
  | lost _ leaves _ _ => cases leaves.symm.trans stays
  | nowhere _ _ missing => exact quiet (advertises_eq_none missing)
  | @refreshed other type location service heard _ located given held =>
      rw [advertises_eq_hears stays located given, heard, Option.toList_some,
        firstType_singleton]
      by_cases own : other = uuid
      · subst own
        cases progress with
        | unheard missing _ _ _ => cases missing.symm.trans held
        | loading missing _ _ _ _ => cases missing.symm.trans held
        | announced found gone told =>
            exact .announced (AList.lookup_insert _) gone told
      · rw [if_neg own, Option.or_none]
        refine progress.of_same ?_ ?_ ?_ ?_ ?_
        · rfl
        · rw [Dictionary.lookup_insert_eq, if_neg (Ne.symm own)]
        · rfl
        · exact fun _ _ => Iff.rfl
        · exact fun _ => Iff.rfl
  | @awaited other type location hello heard _ located given absent held =>
      rw [advertises_eq_hears stays located given, heard, Option.toList_some,
        firstType_singleton]
      by_cases own : other = uuid
      · subst own
        cases progress with
        | unheard _ fresh _ _ => cases fresh.symm.trans held
        | loading missing held pending typed silent =>
            exact .loading missing held pending typed silent
        | announced found gone told => exact .announced found gone told
      · rw [if_neg own, Option.or_none]
        exact progress
  | @greeted other type location heard _ located given absent fresh =>
      rw [advertises_eq_hears stays located given, heard, Option.toList_some,
        firstType_singleton]
      by_cases own : other = uuid
      · subst own
        rw [if_pos rfl]
        cases progress with
        | unheard missing _ idle silent =>
            refine .loading missing (AList.lookup_insert _)
              ⟨_, List.mem_append_right _ List.mem_cons_self, rfl⟩ ?_ silent
            intro load member same
            rcases List.mem_append.mp member with old | new
            · exact absurd same (idle load old)
            · rw [List.mem_singleton.mp new]
        | loading _ held _ _ _ => cases fresh.symm.trans held
        | announced found _ _ => cases absent.symm.trans found
      · rw [if_neg own, Option.or_none]
        refine progress.of_same ?_ ?_ ?_ ?_ ?_
        · rfl
        · rfl
        · rw [Dictionary.lookup_insert_eq, if_neg (Ne.symm own)]
        · intro load same
          rw [List.mem_append, List.mem_singleton, or_iff_left]
          rintro rfl
          exact own same
        · exact fun _ => Iff.rfl

/-- What one more announcement adds. -/
theorem announcedAs_found {provider next : SSDPDiscoveryProvider} {uuid other : String}
    {services : List ServiceDescription} {serviceId : String}
    (log : next.announcements = provider.announcements ++ [.didFindServices other services]) :
    next.AnnouncedAs uuid serviceId ↔ provider.AnnouncedAs uuid serviceId ∨
      if other = uuid then ∃ service ∈ services, service.serviceId = some serviceId
      else False := by
  unfold AnnouncedAs
  simp only [log, List.mem_append, List.mem_singleton, SSDPAnnouncement.didFindServices.injEq,
    or_and_right, exists_or]
  apply or_congr_right
  by_cases own : other = uuid
  · rw [if_pos own]
    constructor
    · rintro ⟨_, ⟨_, rfl⟩, copy⟩
      exact copy
    · exact fun copy => ⟨services, ⟨own.symm, rfl⟩, copy⟩
  · rw [if_neg own]
    constructor
    · rintro ⟨_, ⟨same, _⟩, _⟩
      exact own same.symm
    · exact False.elim

theorem Progress.loads {uuid : String} {provider next : SSDPDiscoveryProvider}
    {first : Option String} (progress : provider.Progress uuid first) {index : Nat}
    {load : LocationLoad} {response : Option LocationResponse} {now : TimeInterval}
    (pending : provider.locationLoads[index]? = some load)
    (succeeds : (provider.fittingDevice load.type response).isSome = true)
    (loads : Loads
      { provider with locationLoads := provider.locationLoads.eraseIdx index } load response
      now next) : next.Progress uuid first := by
  have others : ∀ other : LocationLoad, other.uuid ≠ load.uuid →
      (other ∈ provider.locationLoads.eraseIdx index ↔ other ∈ provider.locationLoads) := by
    intro other different
    constructor
    · exact List.mem_of_mem_eraseIdx
    · intro member
      rcases List.getElem?_of_mem member with ⟨place, there⟩
      refine List.mem_eraseIdx_iff_getElem?.mpr ⟨place, ?_, there⟩
      rintro rfl
      cases pending.symm.trans there
      exact different rfl
  have listed : load ∈ provider.locationLoads := List.mem_of_getElem? pending
  cases loads with
  | dismissed unfit =>
      have absent : provider.helloDevices.lookup load.uuid = none := by
        rcases unfit with unfit | absent
        · have nothing : provider.fittingDevice load.type response = none := unfit
          rw [nothing] at succeeds
          cases succeeds
        · exact absent
      by_cases own : uuid = load.uuid
      · rw [own] at progress ⊢
        cases progress with
        | unheard _ _ idle _ => exact absurd rfl (idle load listed)
        | loading _ held _ _ _ => cases absent.symm.trans held
        | announced found gone told =>
            refine .announced found ?_ told
            rw [Dictionary.lookup_erase_eq, if_pos rfl]
      · refine progress.of_same ?_ ?_ ?_ ?_ ?_
        · rfl
        · rfl
        · rw [Dictionary.lookup_erase_eq, if_neg own]
        · exact fun other same => others other (same ▸ own)
        · exact fun _ => Iff.rfl
  | @found answer device hello services fits held copies =>
      by_cases own : uuid = load.uuid
      · rw [own] at progress ⊢
        cases progress with
        | unheard _ fresh _ _ => cases fresh.symm.trans held
        | @loading type _ missing _ _ typed silent =>
            have same := typed load listed rfl
            refine .announced (AList.lookup_insert _) ?_ ?_
            · rw [Dictionary.lookup_erase_eq, if_pos rfl]
            · intro serviceId
              refine (announcedAs_found rfl).trans ?_
              rw [if_pos rfl, serviceIds_of_servicesFor rfl copies, same]
              exact or_iff_right (silent serviceId)
        | announced _ gone _ => cases gone.symm.trans held
      · refine progress.of_same ?_ ?_ ?_ ?_ ?_
        · rfl
        · rw [Dictionary.lookup_insert_eq, if_neg own]
        · rw [Dictionary.lookup_erase_eq, if_neg own]
        · exact fun other same => others other (same ▸ own)
        · intro serviceId
          refine (announcedAs_found rfl).trans ?_
          rw [if_neg (Ne.symm own), or_false]
          rfl

theorem step_serviceFilters {provider next : SSDPDiscoveryProvider} {event : SSDPEvent}
    (stepped : provider.step event = some next) :
    next.serviceFilters = provider.serviceFilters := by
  cases step_reacts stepped with
  | received receives => cases receives <;> rfl
  | unanswered absent => rfl
  | answered pending loads => cases loads <;> rfl
  | started => rfl
  | stopped => rfl

theorem Progress.step {uuid : String} {provider next : SSDPDiscoveryProvider}
    {first : Option String} (progress : provider.Progress uuid first) {event : SSDPEvent}
    (succeeds : provider.Succeeds event) (stepped : provider.step event = some next) :
    next.Progress uuid
      (first.or (firstType (advertised provider.serviceFilters [event]) uuid)) := by
  have quiet : first.or (firstType [] uuid) = first := Option.or_none
  cases step_reacts stepped with
  | @received message address now _ receives =>
      have heard : advertised provider.serviceFilters
          [.didReceiveData message address now] = (provider.advertises message).toList := by
        have same : advertises { serviceFilters := provider.serviceFilters } message =
            provider.advertises message := rfl
        rw [advertised, List.filterMap_cons]
        dsimp only
        rw [same]
        cases provider.advertises message <;> rfl
      rw [heard]
      exact progress.receives succeeds receives
  | unanswered absent =>
      change provider.Progress uuid (first.or (firstType [] uuid))
      rw [quiet]
      exact progress
  | answered pending loads =>
      change next.Progress uuid (first.or (firstType [] uuid))
      rw [quiet]
      exact progress.loads pending (succeeds _ pending) loads
  | started =>
      change Progress uuid _ (first.or (firstType [] uuid))
      rw [quiet]
      refine progress.of_same ?_ ?_ ?_ ?_ ?_
      · rfl
      · rfl
      · rfl
      · exact fun _ _ => Iff.rfl
      · exact fun _ => Iff.rfl
  | stopped => cases succeeds

theorem run_progress {uuid : String} :
    ∀ {provider final : SSDPDiscoveryProvider} {events : List SSDPEvent}
      {first : Option String}, provider.Progress uuid first →
      EveryStep SSDPDiscoveryProvider.step Succeeds provider events →
      runFrom SSDPDiscoveryProvider.step provider events = some final →
      final.serviceFilters = provider.serviceFilters ∧
        final.Progress uuid
          (first.or (firstType (advertised provider.serviceFilters events) uuid))
  | provider, final, [], first, progress, _, reached => by
      cases reached
      refine ⟨rfl, ?_⟩
      have quiet : first.or (firstType [] uuid) = first := Option.or_none
      change provider.Progress uuid (first.or (firstType [] uuid))
      rw [quiet]
      exact progress
  | provider, final, event :: events, first, progress, succeeds, reached => by
      cases taken : provider.step event with
      | none =>
          rw [runFrom, taken] at reached
          cases reached
      | some next =>
          rw [runFrom, taken] at reached
          have here := progress.step succeeds.1 taken
          rcases run_progress here (succeeds.head taken) reached with ⟨filters, rest⟩
          have same := step_serviceFilters taken
          refine ⟨filters.trans same, ?_⟩
          have split : advertised provider.serviceFilters (event :: events) =
              advertised provider.serviceFilters [event] ++
                advertised provider.serviceFilters events :=
            List.filterMap_append (l := [event])
          rw [same, Option.or_assoc, ← firstType_append, ← split] at rest
          exact rest

/-- A run in which only responses arrive and every load succeeds. -/
structure Settled (serviceFilters : List SSDPServiceFilter) (events : List SSDPEvent)
    (final : SSDPDiscoveryProvider) : Prop where
  succeeds : EveryStep SSDPDiscoveryProvider.step Succeeds { serviceFilters } events
  reached : runFrom SSDPDiscoveryProvider.step { serviceFilters } events = some final
  loaded : final.locationLoads = []

/-- A device is announced with the service ids of its first response. -/
theorem Settled.announcedAs_iff {serviceFilters : List SSDPServiceFilter}
    {events : List SSDPEvent} {final : SSDPDiscoveryProvider}
    (settled : Settled serviceFilters events final) (uuid serviceId : String) :
    final.AnnouncedAs uuid serviceId ↔
      ∃ first, firstType (advertised serviceFilters events) uuid = some first ∧
        RegisteredFor serviceFilters first serviceId := by
  have initially : Progress uuid { serviceFilters } none := by
    refine .unheard rfl rfl ?_ ?_
    · exact fun load impossible => by cases impossible
    · rintro serviceId ⟨_, impossible, _⟩
      cases impossible
  rcases run_progress initially settled.succeeds settled.reached with ⟨filters, progress⟩
  rw [Option.none_or] at progress
  cases first : firstType (advertised serviceFilters events) uuid with
  | none =>
      rw [first] at progress
      cases progress with
      | unheard _ _ _ silent =>
          apply iff_of_false (silent serviceId)
          rintro ⟨_, impossible, _⟩
          cases impossible
  | some type =>
      rw [first] at progress
      cases progress with
      | loading _ _ pending _ _ =>
          rcases pending with ⟨_, member, _⟩
          rw [settled.loaded] at member
          cases member
      | announced _ _ told =>
          rw [told, filters]
          constructor
          · exact fun registered => ⟨type, rfl, registered⟩
          · rintro ⟨_, same, registered⟩
            cases same
            exact registered

theorem Settled.announcesAll_iff {serviceFilters : List SSDPServiceFilter}
    {events : List SSDPEvent} {final : SSDPDiscoveryProvider}
    (settled : Settled serviceFilters events final) :
    AnnouncesAll serviceFilters (advertised serviceFilters events) final ↔
      FirstCovers serviceFilters (advertised serviceFilters events) := by
  unfold AnnouncesAll FirstCovers
  simp only [settled.announcedAs_iff]

/-- In two orders of arrival the same is announced, and all that is registered for what was
advertised, exactly if in both the first response of a device covers the others. -/
theorem announced_same_iff {serviceFilters : List SSDPServiceFilter}
    {events others : List SSDPEvent} {final other : SSDPDiscoveryProvider}
    (settled : Settled serviceFilters events final)
    (settledOther : Settled serviceFilters others other)
    (same : ∀ response, response ∈ advertised serviceFilters events ↔
      response ∈ advertised serviceFilters others) :
    ((∀ uuid serviceId, final.AnnouncedAs uuid serviceId ↔
          other.AnnouncedAs uuid serviceId) ∧
        AnnouncesAll serviceFilters (advertised serviceFilters events) final ∧
        AnnouncesAll serviceFilters (advertised serviceFilters others) other) ↔
      FirstCovers serviceFilters (advertised serviceFilters events) ∧
        FirstCovers serviceFilters (advertised serviceFilters others) := by
  rw [settled.announcesAll_iff, settledOther.announcesAll_iff]
  refine and_iff_right_of_imp ?_
  rintro ⟨covers, coversOther⟩ uuid serviceId
  rw [settled.announcedAs_iff, settledOther.announcedAs_iff]
  constructor
  · rintro ⟨type, first, registered⟩
    exact coversOther uuid type serviceId ((same _).mp (firstType_mem first)) registered
  · rintro ⟨type, first, registered⟩
    exact covers uuid type serviceId ((same _).mpr (firstType_mem first)) registered

theorem firstCovers_of_single {serviceFilters : List SSDPServiceFilter}
    {responses : List (String × String)}
    (single : ∀ response ∈ responses, ∀ other ∈ responses,
      response.1 = other.1 → response.2 = other.2) :
    FirstCovers serviceFilters responses := by
  intro uuid type serviceId member registered
  cases first : firstType responses uuid with
  | none =>
      have unheard := List.find?_eq_none.mp (Option.map_eq_none_iff.mp first) _ member
      simp at unheard
  | some other =>
      refine ⟨other, rfl, ?_⟩
      have same : other = type := single _ (firstType_mem first) _ member rfl
      rw [same]
      exact registered

theorem settled_of_run (serviceFilters : List SSDPServiceFilter) (events : List SSDPEvent)
    (succeeds : EveryStep SSDPDiscoveryProvider.step Succeeds { serviceFilters } events)
    (loaded : ((runFrom SSDPDiscoveryProvider.step { serviceFilters } events).any
      fun final => final.locationLoads.isEmpty) = true) :
    ∃ final, Settled serviceFilters events final := by
  rcases (Option.any_eq_true _ _).mp loaded with ⟨final, reached, empty⟩
  exact ⟨final, succeeds, reached, List.isEmpty_iff.mp empty⟩

def rokuFilter : SSDPServiceFilter where
  serviceId := some "Roku"
  filter := "roku"

/-- An answer to the search for Roku under a UUID. -/
def rokuAnswer (uuid : String) : SSDPMessage where
  st := some "roku"
  usn := some ("uuid:" ++ uuid ++ "::roku")
  location := some { text := "http://roku/", host := some "roku" }

/-- Two answers that arrive one after the other, and the load of the first device. -/
def answersOf (first second : SSDPMessage) : List SSDPEvent :=
  [.didReceiveData first "tv" 1, .didReceiveData second "tv" 2,
    .locationLoaded 0 (some plainDescription), .locationLoaded 0 (some plainDescription)]

/-- Two devices in both orders. -/
theorem two_devices_announced : ∃ final other,
    (∀ uuid serviceId, final.AnnouncedAs uuid serviceId ↔
        other.AnnouncedAs uuid serviceId) ∧
      AnnouncesAll [dialFilter, rokuFilter]
        (advertised [dialFilter, rokuFilter] (answersOf dialAnswer (rokuAnswer "2"))) final ∧
      AnnouncesAll [dialFilter, rokuFilter]
        (advertised [dialFilter, rokuFilter] (answersOf (rokuAnswer "2") dialAnswer))
        other := by
  have first : advertised [dialFilter, rokuFilter] (answersOf dialAnswer (rokuAnswer "2")) =
      [("1", "dial"), ("2", "roku")] := by decide +kernel
  have second : advertised [dialFilter, rokuFilter]
      (answersOf (rokuAnswer "2") dialAnswer) = [("2", "roku"), ("1", "dial")] := by
    decide +kernel
  rcases settled_of_run [dialFilter, rokuFilter]
    (answersOf dialAnswer (rokuAnswer "2")) (by decide +kernel) (by decide +kernel)
    with ⟨final, settled⟩
  rcases settled_of_run [dialFilter, rokuFilter]
    (answersOf (rokuAnswer "2") dialAnswer) (by decide +kernel) (by decide +kernel)
    with ⟨other, settledOther⟩
  refine ⟨final, other, (announced_same_iff settled settledOther ?_).mpr ⟨?_, ?_⟩⟩
  · intro response
    rw [first, second]
    exact (List.Perm.swap _ _ _).mem_iff
  · rw [first]
    exact firstCovers_of_single (by decide)
  · rw [second]
    exact firstCovers_of_single (by decide)

/-- One device that answers both searches is found as what it answers first. -/
theorem first_answer_decides : ∃ final other,
    Settled [dialFilter, rokuFilter] (answersOf dialAnswer (rokuAnswer "1")) final ∧
      Settled [dialFilter, rokuFilter] (answersOf (rokuAnswer "1") dialAnswer) other ∧
      advertised [dialFilter, rokuFilter] (answersOf (rokuAnswer "1") dialAnswer) =
        [("1", "roku"), ("1", "dial")] ∧
      advertised [dialFilter, rokuFilter] (answersOf dialAnswer (rokuAnswer "1")) =
        [("1", "dial"), ("1", "roku")] ∧
      final.AnnouncedAs "1" "DIAL" ∧ ¬ other.AnnouncedAs "1" "DIAL" := by
  have first : advertised [dialFilter, rokuFilter] (answersOf dialAnswer (rokuAnswer "1")) =
      [("1", "dial"), ("1", "roku")] := by decide +kernel
  have second : advertised [dialFilter, rokuFilter]
      (answersOf (rokuAnswer "1") dialAnswer) = [("1", "roku"), ("1", "dial")] := by
    decide +kernel
  rcases settled_of_run [dialFilter, rokuFilter]
    (answersOf dialAnswer (rokuAnswer "1")) (by decide +kernel) (by decide +kernel)
    with ⟨final, settled⟩
  rcases settled_of_run [dialFilter, rokuFilter]
    (answersOf (rokuAnswer "1") dialAnswer) (by decide +kernel) (by decide +kernel)
    with ⟨other, settledOther⟩
  refine ⟨final, other, settled, settledOther, second, first, ?_, ?_⟩
  · rw [settled.announcedAs_iff, first]
    exact ⟨"dial", rfl, dialFilter, List.mem_cons_self, rfl, rfl⟩
  · rw [settledOther.announcedAs_iff, second]
    rintro ⟨type, same, serviceFilter, member, typed, named⟩
    cases same
    rcases List.mem_cons.mp member with rfl | inTail
    · exact absurd typed (by decide)
    · rw [List.mem_singleton.mp inTail] at named
      exact absurd named (by decide)

end SSDPDiscoveryProvider

end ConnectSDK
