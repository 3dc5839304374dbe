import ConnectSDK.Discovery.RegistrationSteps

/-! # Accurate registrations

When the registry still holds exactly what is registered after a step, and so throughout
a run.
-/

namespace ConnectSDK

namespace DiscoveryRegistry

variable {clients : ClientParameters} {registry next : DiscoveryRegistry}
  {registered : Finset (DeviceServiceClass × Ref DiscoveryProvider)}
  {provider : Ref DiscoveryProvider} {serviceClass : DeviceServiceClass}
  {parameters : DiscoveryParameters} {serviceId : String}

/-! ## Accurate registries -/

theorem Accurate.initially (clients : ClientParameters) : Accurate clients {} ∅ := by
  constructor
  · intro serviceClass
    constructor
    · rintro ⟨serviceId, found⟩
      rw [AList.lookup_empty] at found
      cases found
    · rintro ⟨provider, member⟩
      cases member
  · intro serviceId serviceClass found
    rw [AList.lookup_empty] at found
    cases found
  · intro provider
    refine ⟨[], List.nodup_nil, fun serviceClass => ?_, rfl⟩
    exact iff_of_false List.not_mem_nil (Finset.notMem_empty _)
  · intro provider
    exact iff_of_false List.not_mem_nil fun filtered => filtered rfl

theorem Accurate.lookup (accurate : Accurate clients registry registered)
    (member : (serviceClass, provider) ∈ registered) :
    ∃ serviceId, serviceClass.serviceId clients = some serviceId ∧
      registry.deviceClasses.lookup serviceId = some serviceClass := by
  rcases (accurate.deviceClasses serviceClass).mpr ⟨provider, member⟩ with ⟨serviceId, found⟩
  exact ⟨serviceId, accurate.serviceIds serviceId serviceClass found, found⟩

/-- Registered services have different ids. -/
theorem Accurate.unique (accurate : Accurate clients registry registered)
    {other : DeviceServiceClass} {otherProvider : Ref DiscoveryProvider}
    (member : (serviceClass, provider) ∈ registered)
    (otherMember : (other, otherProvider) ∈ registered)
    (same : serviceClass.serviceId clients = other.serviceId clients) :
    serviceClass = other := by
  rcases accurate.lookup member with ⟨serviceId, is, found⟩
  rcases accurate.lookup otherMember with ⟨otherId, otherIs, otherFound⟩
  rw [is, otherIs] at same
  cases same
  rw [found] at otherFound
  cases otherFound
  rfl

theorem HasFilters.filter_of_mem (has : HasFilters clients registry registered provider)
    (member : (serviceClass, provider) ∈ registered) :
    ∃ filter ∈ registry.serviceFilters provider,
      serviceClass.discoveryParameters clients = some filter := by
  rcases has with ⟨services, _, members, same⟩
  have mapped := List.mem_map_of_mem (f := DeviceServiceClass.discoveryParameters clients)
    ((members serviceClass).mpr member)
  rw [← same] at mapped
  rcases List.mem_map.mp mapped with ⟨filter, found, is⟩
  exact ⟨filter, found, is.symm⟩

theorem HasFilters.mem_of_filter (has : HasFilters clients registry registered provider)
    {filter : DiscoveryParameters} (found : filter ∈ registry.serviceFilters provider) :
    ∃ serviceClass, (serviceClass, provider) ∈ registered ∧
      serviceClass.discoveryParameters clients = some filter := by
  rcases has with ⟨services, _, members, same⟩
  have mapped := List.mem_map_of_mem (f := some) found
  rw [same] at mapped
  rcases List.mem_map.mp mapped with ⟨serviceClass, member, is⟩
  exact ⟨serviceClass, (members serviceClass).mp member, is⟩

theorem HasFilters.ne_nil_iff (has : HasFilters clients registry registered provider) :
    registry.serviceFilters provider ≠ [] ↔
      ∃ serviceClass, (serviceClass, provider) ∈ registered := by
  constructor
  · intro filtered
    rcases List.exists_mem_of_ne_nil _ filtered with ⟨filter, found⟩
    rcases has.mem_of_filter found with ⟨serviceClass, member, _⟩
    exact ⟨serviceClass, member⟩
  · rintro ⟨serviceClass, member⟩
    rcases has.filter_of_mem member with ⟨filter, found, _⟩
    exact List.ne_nil_of_mem found

/-- There are as many filters as services, however the services are listed. -/
theorem HasFilters.length_eq (has : HasFilters clients registry registered provider)
    (other : HasFilters clients next registered provider) :
    (registry.serviceFilters provider).length = (next.serviceFilters provider).length := by
  rcases has with ⟨services, nodup, members, same⟩
  rcases other with ⟨others, otherNodup, otherMembers, otherSame⟩
  have permuted : services.Perm others :=
    (List.perm_ext_iff_of_nodup nodup otherNodup).mpr fun serviceClass =>
      (members serviceClass).trans (otherMembers serviceClass).symm
  have lengths := congrArg List.length same
  have otherLengths := congrArg List.length otherSame
  simp only [List.length_map] at lengths otherLengths
  rw [lengths, otherLengths, permuted.length_eq]

/-- The other providers, when nothing of theirs changes. -/
theorem HasFilters.congr {after : Finset (DeviceServiceClass × Ref DiscoveryProvider)}
    (has : HasFilters clients registry registered provider)
    (filters : next.serviceFilters provider = registry.serviceFilters provider)
    (members : ∀ serviceClass,
      (serviceClass, provider) ∈ after ↔ (serviceClass, provider) ∈ registered) :
    HasFilters clients next after provider := by
  rcases has with ⟨services, nodup, listed, same⟩
  refine ⟨services, nodup, fun serviceClass => ?_, ?_⟩
  · rw [listed, members]
  · rw [filters, same]

theorem Accurate.isDiscoverable_iff (accurate : Accurate clients registry registered)
    (wellFormed : registry.WellFormed) :
    registry.IsDiscoverable clients serviceClass ↔
      ∃ provider, (serviceClass, provider) ∈ registered := by
  constructor
  · rintro ⟨found, _⟩
    exact (accurate.deviceClasses serviceClass).mp found
  · rintro ⟨provider, member⟩
    have has := accurate.serviceFilters provider
    have listed := (accurate.discoveryProviders provider).mpr
      (has.ne_nil_iff.mpr ⟨serviceClass, member⟩)
    exact ⟨(accurate.deviceClasses serviceClass).mpr ⟨provider, member⟩, provider, listed,
      wellFormed.delegate provider listed, has.filter_of_mem member⟩

/-! ## After registering -/

theorem mem_insert_iff_of_ne {other : Ref DiscoveryProvider} (different : other ≠ provider)
    (serviceClass listedClass : DeviceServiceClass) :
    (listedClass, other) ∈ insert (serviceClass, provider) registered ↔
      (listedClass, other) ∈ registered := by
  rw [Finset.mem_insert, Prod.mk.injEq]
  exact ⟨fun either => either.resolve_left fun same => different same.2, Or.inr⟩

/-- The filters are right exactly for a service that is new to the provider. -/
theorem Adds.hasFilters_iff
    (adds : registry.Adds next provider serviceClass parameters serviceId)
    (wellFormed : next.WellFormed) (has : HasFilters clients registry registered provider)
    (held : serviceClass.discoveryParameters clients = some parameters) :
    HasFilters clients next (insert (serviceClass, provider) registered) provider ↔
      (next.providerClass provider).keepsFilters = true ∧
        (serviceClass, provider) ∉ registered := by
  have filters := adds.filters
  constructor
  · intro after
    have filtered : next.serviceFilters provider ≠ [] :=
      after.ne_nil_iff.mpr ⟨serviceClass, Finset.mem_insert_self _ _⟩
    have keeps := (wellFormed.filtered provider filtered).2
    refine ⟨keeps, fun member => ?_⟩
    rw [Finset.insert_eq_self.mpr member] at after
    have lengths := has.length_eq after
    rw [filters, if_pos keeps, List.length_append] at lengths
    exact absurd lengths (Nat.ne_of_lt (Nat.lt_succ_self _))
  · rintro ⟨keeps, absent⟩
    rcases has with ⟨services, nodup, members, same⟩
    rw [if_pos keeps] at filters
    refine ⟨services ++ [serviceClass], ?_, ?_, ?_⟩
    · apply List.nodup_append.mpr
      refine ⟨nodup, List.nodup_singleton _, ?_⟩
      intro listed member other single equal
      cases List.mem_singleton.mp single
      subst equal
      exact absent ((members listed).mp member)
    · intro listed
      rw [List.mem_append, List.mem_singleton, members, Finset.mem_insert, Prod.mk.injEq,
        or_comm, and_iff_left rfl]
    · rw [filters, List.map_append, List.map_append, same, List.map_singleton,
        List.map_singleton, held]

theorem Adds.deviceClasses_iff
    (adds : registry.Adds next provider serviceClass parameters serviceId)
    (accurate : Accurate clients registry registered)
    (keyed : serviceClass.serviceId clients = some serviceId) :
    (∀ listed, (∃ key, next.deviceClasses.lookup key = some listed) ↔
        ∃ held, (listed, held) ∈ insert (serviceClass, provider) registered) ↔
      ∀ other, registry.deviceClasses.lookup serviceId = some other → other = serviceClass := by
  have lookup : ∀ key, next.deviceClasses.lookup key =
      if key = serviceId then some serviceClass else registry.deviceClasses.lookup key := by
    intro key
    rw [adds.deviceClasses, Dictionary.lookup_insert_eq]
  constructor
  · intro after other found
    rcases (accurate.deviceClasses other).mp ⟨serviceId, found⟩ with ⟨held, member⟩
    rcases (after other).mpr ⟨held, Finset.mem_insert_of_mem member⟩ with ⟨key, is⟩
    rw [lookup] at is
    split at is
    · cases is
      rfl
    · rename_i different
      have same := accurate.serviceIds key other is
      rw [accurate.serviceIds serviceId other found] at same
      cases same
      exact absurd rfl different
  · intro unclaimed listed
    constructor
    · rintro ⟨key, is⟩
      rw [lookup] at is
      split at is
      · cases is
        exact ⟨provider, Finset.mem_insert_self _ _⟩
      · rcases (accurate.deviceClasses listed).mp ⟨key, is⟩ with ⟨held, member⟩
        exact ⟨held, Finset.mem_insert_of_mem member⟩
    · rintro ⟨held, member⟩
      rcases Finset.mem_insert.mp member with equal | member
      · cases equal
        exact ⟨serviceId, by rw [lookup, if_pos rfl]⟩
      · rcases (accurate.deviceClasses listed).mpr ⟨held, member⟩ with ⟨key, found⟩
        refine ⟨key, ?_⟩
        rw [lookup]
        split
        · rename_i same
          subst same
          rw [unclaimed listed found]
        · exact found

theorem Adds.accurate_iff
    (adds : registry.Adds next provider serviceClass parameters serviceId)
    (wellFormed : next.WellFormed) (accurate : Accurate clients registry registered)
    (held : serviceClass.discoveryParameters clients = some parameters)
    (is : parameters.serviceId = some serviceId) :
    Accurate clients next (insert (serviceClass, provider) registered) ↔
      ((next.providerClass provider).keepsFilters = true ∧
        (serviceClass, provider) ∉ registered) ∧
      ∀ other, registry.deviceClasses.lookup serviceId = some other →
        other = serviceClass := by
  have keyed : serviceClass.serviceId clients = some serviceId := by
    rw [DeviceServiceClass.serviceId, held, Option.bind_some, is]
  rw [← adds.hasFilters_iff wellFormed (accurate.serviceFilters provider) held,
    ← adds.deviceClasses_iff accurate keyed]
  constructor
  · intro after
    exact ⟨after.serviceFilters provider, after.deviceClasses⟩
  · rintro ⟨has, classes⟩
    refine ⟨classes, ?_, ?_, ?_⟩
    · intro key listed found
      rw [adds.deviceClasses, Dictionary.lookup_insert_eq] at found
      split at found
      · rename_i same
        cases found
        rw [same, keyed]
      · exact accurate.serviceIds key listed found
    · intro other
      by_cases same : other = provider
      · subst same
        exact has
      · exact (accurate.serviceFilters other).congr (adds.others other same)
          fun listed => mem_insert_iff_of_ne same serviceClass listed
    · intro other
      rw [adds.discoveryProviders]
      by_cases same : other = provider
      · subst same
        exact iff_of_true (Or.inr rfl)
          (has.ne_nil_iff.mpr ⟨serviceClass, Finset.mem_insert_self _ _⟩)
      · rw [adds.others other same, or_iff_left same]
        exact accurate.discoveryProviders other

/-! ## After unregistering -/

theorem hasServiceId_iff :
    parameters.hasServiceId (some serviceId) = true ↔
      parameters.serviceId = some serviceId := by
  unfold DiscoveryParameters.hasServiceId
  cases parameters.serviceId with
  | none => simp
  | some held =>
      rw [Option.any_some, beq_iff_eq]
      exact eq_comm

/-- Erasing the only element that is accepted. -/
theorem mem_eraseP_iff_of_unique {Element : Type u} {accepts : Element → Bool}
    {elements : List Element} (nodup : elements.Nodup)
    (unique : ∀ left ∈ elements, ∀ right ∈ elements,
      accepts left = true → accepts right = true → left = right) (element : Element) :
    element ∈ elements.eraseP accepts ↔ element ∈ elements ∧ accepts element = false := by
  cases accepted : accepts element with
  | false =>
      rw [List.mem_eraseP_of_neg (by simp [accepted])]
      simp
  | true =>
      refine iff_of_false (fun remains => ?_) fun both => Bool.noConfusion both.2
      have member := List.mem_of_mem_eraseP remains
      rcases List.exists_of_eraseP member accepted with
        ⟨erased, before, after, _, here, split, rest⟩
      have same := unique element member erased (split ▸ by simp) accepted here
      subst same
      rw [rest] at remains
      rw [split] at nodup
      exact (List.nodup_cons.mp (List.nodup_middle.mp nodup)).1 remains

/-- The filters that remain are those of the services with another id. -/
theorem Removes.remaining (removes : registry.Removes next provider serviceId)
    (accurate : Accurate clients registry registered) :
    ∃ services : List DeviceServiceClass, services.Nodup ∧
      (∀ serviceClass, serviceClass ∈ services ↔ (serviceClass, provider) ∈ registered ∧
        serviceClass.serviceId clients ≠ some serviceId) ∧
      (next.serviceFilters provider).map some =
        services.map (DeviceServiceClass.discoveryParameters clients) := by
  rcases accurate.serviceFilters provider with ⟨services, nodup, members, same⟩
  let accepts : Option DiscoveryParameters → Bool := fun held =>
    held.any (DiscoveryParameters.hasServiceId (some serviceId))
  let ofService := accepts ∘ DeviceServiceClass.discoveryParameters clients
  have accepts_iff : ∀ serviceClass, ofService serviceClass = true ↔
      serviceClass.serviceId clients = some serviceId := by
    intro serviceClass
    change accepts _ = true ↔ _
    unfold DeviceServiceClass.serviceId
    cases serviceClass.discoveryParameters clients with
    | none => simp [accepts]
    | some parameters => exact hasServiceId_iff
  refine ⟨services.eraseP ofService, nodup.eraseP _, ?_, ?_⟩
  · intro serviceClass
    rw [mem_eraseP_iff_of_unique nodup, members, ← Bool.not_eq_true, accepts_iff]
    intro left leftMember right rightMember leftAccepts rightAccepts
    exact accurate.unique ((members left).mp leftMember) ((members right).mp rightMember)
      (((accepts_iff left).mp leftAccepts).trans ((accepts_iff right).mp rightAccepts).symm)
  · rw [removes.filters, ← List.eraseP_map, ← same, List.eraseP_map]
    rfl

/-- The filters are right when exactly the service with the id is gone. -/
theorem Removes.hasFilters_iff (removes : registry.Removes next provider serviceId)
    (accurate : Accurate clients registry registered)
    {after : Finset (DeviceServiceClass × Ref DiscoveryProvider)} (fewer : after ⊆ registered) :
    HasFilters clients next after provider ↔
      ∀ serviceClass, (serviceClass, provider) ∈ after ↔
        (serviceClass, provider) ∈ registered ∧
          serviceClass.serviceId clients ≠ some serviceId := by
  rcases removes.remaining accurate with ⟨services, nodup, members, same⟩
  have listed : ∀ filter, filter ∈ next.serviceFilters provider ↔ ∃ serviceClass ∈ services,
      serviceClass.discoveryParameters clients = some filter := by
    intro filter
    rw [← List.mem_map, ← same, List.mem_map_of_injective (Option.some_injective _)]
  constructor
  · intro has serviceClass
    constructor
    · intro member
      refine ⟨fewer member, ?_⟩
      rcases has.filter_of_mem member with ⟨filter, found, is⟩
      rcases (listed filter).mp found with ⟨other, remains, otherIs⟩
      have sameId : serviceClass.serviceId clients = other.serviceId clients := by
        rw [DeviceServiceClass.serviceId, is, DeviceServiceClass.serviceId, otherIs]
      rw [sameId]
      exact ((members other).mp remains).2
    · intro remains
      have before := accurate.serviceFilters provider
      rcases before.filter_of_mem remains.1 with ⟨filter, _, is⟩
      have found := (listed filter).mpr ⟨serviceClass, (members serviceClass).mpr remains, is⟩
      rcases has.mem_of_filter found with ⟨other, member, otherIs⟩
      have equal : serviceClass = other := by
        apply accurate.unique remains.1 (fewer member)
        rw [DeviceServiceClass.serviceId, is, DeviceServiceClass.serviceId, otherIs]
      rw [equal]
      exact member
  · intro gone
    exact ⟨services, nodup, fun serviceClass =>
      (members serviceClass).trans (gone serviceClass).symm, same⟩

theorem Removes.accurate_iff (removes : registry.Removes next provider serviceId)
    (accurate : Accurate clients registry registered)
    (listed : provider ∈ registry.discoveryProviders)
    {after : Finset (DeviceServiceClass × Ref DiscoveryProvider)} (fewer : after ⊆ registered)
    (others : ∀ serviceClass other, other ≠ provider →
      ((serviceClass, other) ∈ after ↔ (serviceClass, other) ∈ registered)) :
    Accurate clients next after ↔
      (∀ serviceClass, (serviceClass, provider) ∈ after ↔
        (serviceClass, provider) ∈ registered ∧
          serviceClass.serviceId clients ≠ some serviceId) ∧
      (∀ serviceClass, (∃ held, (serviceClass, held) ∈ after) ↔
        (∃ held, (serviceClass, held) ∈ registered) ∧
          serviceClass.serviceId clients ≠ some serviceId) ∧
      ((registry.providerClass provider).tellsEmpty = true ∨
        ∀ serviceClass, (serviceClass, provider) ∉ after) := by
  have lookup : ∀ key serviceClass, next.deviceClasses.lookup key = some serviceClass ↔
      key ≠ serviceId ∧ registry.deviceClasses.lookup key = some serviceClass := by
    intro key serviceClass
    rw [removes.deviceClasses, Dictionary.lookup_erase_eq]
    by_cases same : key = serviceId
    · simp [same]
    · simp [same]
  have classes : ∀ serviceClass,
      (∃ key, next.deviceClasses.lookup key = some serviceClass) ↔
        (∃ held, (serviceClass, held) ∈ registered) ∧
          serviceClass.serviceId clients ≠ some serviceId := by
    intro serviceClass
    rw [← accurate.deviceClasses]
    constructor
    · rintro ⟨key, found⟩
      have kept := (lookup key serviceClass).mp found
      refine ⟨⟨key, kept.2⟩, fun same => kept.1 ?_⟩
      rw [accurate.serviceIds key serviceClass kept.2] at same
      exact Option.some.inj same
    · rintro ⟨⟨key, found⟩, different⟩
      refine ⟨key, (lookup key serviceClass).mpr ⟨fun same => different ?_, found⟩⟩
      rw [accurate.serviceIds key serviceClass found, same]
  rw [← removes.hasFilters_iff accurate fewer]
  constructor
  · intro holds
    refine ⟨holds.serviceFilters provider, fun serviceClass => ?_, ?_⟩
    · rw [← holds.deviceClasses, classes]
    · cases tells : (registry.providerClass provider).tellsEmpty with
      | true => exact Or.inl rfl
      | false =>
          refine Or.inr fun serviceClass member => ?_
          have filtered := (holds.serviceFilters provider).ne_nil_iff.mpr ⟨serviceClass, member⟩
          have kept := (holds.discoveryProviders provider).mpr filtered
          have tellsIt := (((removes.discoveryProviders provider).mp kept).2 rfl).1
          rw [tells] at tellsIt
          cases tellsIt
  · rintro ⟨has, known, drops⟩
    refine ⟨fun serviceClass => ?_, ?_, ?_, ?_⟩
    · rw [classes, known]
    · intro key serviceClass found
      exact accurate.serviceIds key serviceClass ((lookup key serviceClass).mp found).2
    · intro other
      by_cases same : other = provider
      · subst same
        exact has
      · exact (accurate.serviceFilters other).congr (removes.others other same)
          fun serviceClass => others serviceClass other same
    · intro other
      rw [removes.discoveryProviders]
      by_cases same : other = provider
      · subst same
        constructor
        · rintro ⟨_, kept⟩
          exact (kept rfl).2
        · intro filtered
          refine ⟨listed, fun _ => ⟨?_, filtered⟩⟩
          apply drops.resolve_right
          intro none
          rcases has.ne_nil_iff.mp filtered with ⟨serviceClass, member⟩
          exact none serviceClass member
      · rw [removes.others other same, ← accurate.discoveryProviders other]
        exact and_iff_left fun equal => absurd equal same

theorem mem_erase_iff_of_ne {other : Ref DiscoveryProvider} (different : other ≠ provider)
    (serviceClass listedClass : DeviceServiceClass) :
    (listedClass, other) ∈ registered.erase (serviceClass, provider) ↔
      (listedClass, other) ∈ registered := by
  rw [Finset.mem_erase]
  exact and_iff_right fun same => different (Prod.mk.inj same).2

/-- A service that is registered with the provider. -/
theorem Removes.accurate_iff_of_mem (removes : registry.Removes next provider serviceId)
    (accurate : Accurate clients registry registered)
    (listed : provider ∈ registry.discoveryProviders)
    (member : (serviceClass, provider) ∈ registered) :
    Accurate clients next (registered.erase (serviceClass, provider)) ↔
      serviceClass.serviceId clients = some serviceId ∧
      (∀ other ∈ registered, other.1 = serviceClass → other.2 = provider) ∧
      ((registry.providerClass provider).tellsEmpty = true ∨
        ∀ other ∈ registered, other.2 = provider → other.1 = serviceClass) := by
  have here : ∀ other, (other, provider) ∈ registered.erase (serviceClass, provider) ↔
      other ≠ serviceClass ∧ (other, provider) ∈ registered := by
    intro other
    rw [Finset.mem_erase, Ne, Prod.mk.injEq, and_iff_left rfl]
  rw [removes.accurate_iff accurate listed (Finset.erase_subset _ _)
    fun other held different => mem_erase_iff_of_ne different serviceClass other]
  constructor
  · rintro ⟨gone, known, drops⟩
    have keyed : serviceClass.serviceId clients = some serviceId := by
      by_contra different
      exact ((here serviceClass).mp ((gone serviceClass).mpr ⟨member, different⟩)).1 rfl
    refine ⟨keyed, ?_, drops.imp_right ?_⟩
    · rintro ⟨other, held⟩ otherMember equal
      subst equal
      by_contra different
      have remains := (mem_erase_iff_of_ne different other other).mpr otherMember
      exact ((known other).mp ⟨held, remains⟩).2 keyed
    · rintro none ⟨other, held⟩ otherMember equal
      subst equal
      by_contra different
      exact none other ((here other).mpr ⟨different, otherMember⟩)
  · rintro ⟨keyed, only, drops⟩
    have other_iff : ∀ other held, (other, held) ∈ registered →
        (other.serviceId clients ≠ some serviceId ↔ other ≠ serviceClass) := by
      intro other held otherMember
      refine not_congr ⟨fun same => ?_, fun same => same ▸ keyed⟩
      exact accurate.unique otherMember member (same.trans keyed.symm)
    refine ⟨fun other => ?_, fun other => ?_, drops.imp_right ?_⟩
    · rw [here]
      constructor
      · rintro ⟨different, otherMember⟩
        exact ⟨otherMember, (other_iff other provider otherMember).mpr different⟩
      · rintro ⟨otherMember, different⟩
        exact ⟨(other_iff other provider otherMember).mp different, otherMember⟩
    · constructor
      · rintro ⟨held, remains⟩
        rcases Finset.mem_erase.mp remains with ⟨different, otherMember⟩
        refine ⟨⟨held, otherMember⟩, (other_iff other held otherMember).mpr fun equal => ?_⟩
        subst equal
        exact different (congrArg (Prod.mk other) (only (other, held) otherMember rfl))
      · rintro ⟨⟨held, otherMember⟩, different⟩
        refine ⟨held, Finset.mem_erase.mpr ⟨fun same => ?_, otherMember⟩⟩
        exact (other_iff other held otherMember).mp different (Prod.mk.inj same).1
    · intro only other remains
      rcases (here other).mp remains with ⟨different, otherMember⟩
      exact different (only (other, provider) otherMember rfl)

/-- A service that is not registered with the provider. -/
theorem Removes.accurate_iff_of_not_mem (removes : registry.Removes next provider serviceId)
    (accurate : Accurate clients registry registered)
    (listed : provider ∈ registry.discoveryProviders)
    (absent : (serviceClass, provider) ∉ registered) :
    Accurate clients next (registered.erase (serviceClass, provider)) ↔
      registry.deviceClasses.lookup serviceId = none ∧
        (registry.providerClass provider).tellsEmpty = true := by
  rw [Finset.erase_eq_of_notMem absent,
    removes.accurate_iff accurate listed (Finset.Subset.refl _) fun _ _ _ => Iff.rfl]
  have filtered := (accurate.discoveryProviders provider).mp listed
  rcases (accurate.serviceFilters provider).ne_nil_iff.mp filtered with ⟨held, member⟩
  have unused_iff : registry.deviceClasses.lookup serviceId = none ↔
      ∀ other, (∃ held, (other, held) ∈ registered) →
        other.serviceId clients ≠ some serviceId := by
    constructor
    · rintro unused other ⟨held, otherMember⟩ same
      rcases accurate.lookup otherMember with ⟨key, is, found⟩
      rw [is] at same
      cases same
      rw [unused] at found
      cases found
    · intro different
      cases found : registry.deviceClasses.lookup serviceId with
      | none => rfl
      | some other =>
          have known := (accurate.deviceClasses other).mp ⟨serviceId, found⟩
          exact absurd (accurate.serviceIds serviceId other found) (different other known)
  rw [unused_iff]
  constructor
  · rintro ⟨_, known, drops⟩
    refine ⟨fun other otherMember => ((known other).mp otherMember).2, ?_⟩
    exact drops.resolve_right fun none => none held member
  · rintro ⟨different, tells⟩
    refine ⟨fun other => ?_, fun other => ?_, Or.inl tells⟩
    · exact (and_iff_left_of_imp fun otherMember => different other ⟨provider, otherMember⟩).symm
    · exact (and_iff_left_of_imp (different other)).symm

end DiscoveryRegistry

/-! ## Runs -/

namespace RegistrationWatch

open DiscoveryRegistry

variable {clients : ClientParameters} {watch : RegistrationWatch}

theorem registersNew_spec {serviceClass : DeviceServiceClass}
    {parameters : DiscoveryParameters} {serviceId : String}
    (held : serviceClass.discoveryParameters clients = some parameters)
    (is : parameters.serviceId = some serviceId) (newProvider : DiscoveryProviderClass) :
    watch.registersNew clients serviceClass newProvider = true ↔
      ((watch.registry.provide newProvider).1.providerClass
        (watch.registry.provide newProvider).2).acceptsFilter parameters = true ∧
      (((watch.registry.provide newProvider).1.providerClass
        (watch.registry.provide newProvider).2).keepsFilters = true ∧
        (serviceClass, (watch.registry.provide newProvider).2) ∉ watch.registered) ∧
      ∀ other, watch.registry.deviceClasses.lookup serviceId = some other →
        other = serviceClass := by
  unfold registersNew
  rw [held]
  dsimp only
  rw [is]
  simp only [Bool.and_eq_true, decide_eq_true_eq, and_assoc, Option.all_eq_true, beq_iff_eq]

theorem registersNew_iff (wellFormed : watch.registry.WellFormed)
    (accurate : watch.registry.Accurate clients watch.registered)
    (serviceClass : DeviceServiceClass) (newProvider : DiscoveryProviderClass) :
    watch.registersNew clients serviceClass newProvider = true ↔
      ∃ next, watch.registry.registerProvided clients serviceClass newProvider = some next ∧
        next.Accurate clients (watch.record (.register serviceClass newProvider)) := by
  constructor
  · intro new
    cases held : serviceClass.discoveryParameters clients with
    | none => simp [registersNew, held] at new
    | some parameters =>
        cases is : parameters.serviceId with
        | none => simp [registersNew, held, is] at new
        | some serviceId =>
            rcases (registersNew_spec held is newProvider).mp new with
              ⟨accepts, ⟨keeps, absent⟩, unclaimed⟩
            rcases registerProvided_spec wellFormed held is accepts with
              ⟨next, taken, well, sameClass, adds⟩
            rw [← sameClass] at keeps
            exact ⟨next, taken,
              (adds.accurate_iff well accurate held is).mpr ⟨⟨keeps, absent⟩, unclaimed⟩⟩
  · rintro ⟨next, taken, after⟩
    rcases registerProvided_effect wellFormed taken with
      ⟨parameters, serviceId, held, is, accepts, well, sameClass, adds⟩
    have conditions := (adds.accurate_iff well accurate held is).mp after
    rw [sameClass] at conditions
    exact (registersNew_spec held is newProvider).mpr ⟨accepts, conditions⟩

theorem unregistersOnly_iff (wellFormed : watch.registry.WellFormed)
    (accurate : watch.registry.Accurate clients watch.registered)
    (serviceClass : DeviceServiceClass) (discoveryClass : DiscoveryProviderClass) :
    watch.unregistersOnly clients serviceClass discoveryClass = true ↔
      ∃ next, watch.registry.unregisterProvided discoveryClass = some next ∧
        next.Accurate clients (watch.record (.unregister serviceClass discoveryClass)) := by
  simp only [unregistersOnly, record]
  cases found : watch.registry.findProvider discoveryClass with
  | none =>
      refine iff_of_true rfl ⟨watch.registry, ?_, accurate⟩
      rw [unregisterProvided, found]
  | some provider =>
      dsimp only
      have listed : provider ∈ watch.registry.discoveryProviders :=
        List.mem_of_find?_eq_some found
      cases answered : discoveryClass.discoveryParameters.bind DiscoveryParameters.serviceId with
      | none =>
          refine iff_of_false (fun holds => Bool.noConfusion holds) ?_
          rintro ⟨next, taken, _⟩
          rcases unregisterProvided_effect wellFormed found taken with ⟨serviceId, is, _⟩
          rw [answered] at is
          cases is
      | some serviceId =>
          rcases Option.bind_eq_some_iff.mp answered with ⟨parameters, held, is⟩
          rcases unregisterProvided_spec wellFormed found held is with
            ⟨next, taken, well, removes⟩
          have only : (∃ other, watch.registry.unregisterProvided discoveryClass = some other ∧
              other.Accurate clients (watch.registered.erase (serviceClass, provider))) ↔
              next.Accurate clients (watch.registered.erase (serviceClass, provider)) := by
            rw [taken]
            simp
          rw [only]
          by_cases member : (serviceClass, provider) ∈ watch.registered
          · rw [removes.accurate_iff_of_mem accurate listed member]
            simp only [if_pos member, Bool.and_eq_true, Bool.or_eq_true, decide_eq_true_eq,
              beq_iff_eq, and_assoc]
          · rw [removes.accurate_iff_of_not_mem accurate listed member]
            simp only [if_neg member, Bool.and_eq_true, Option.isNone_iff_eq_none]

/-- An accurate registry tells that the service was new. -/
theorem notMem_of_accurate {next : DiscoveryRegistry} (wellFormed : watch.registry.WellFormed)
    (accurate : watch.registry.Accurate clients watch.registered)
    {serviceClass : DeviceServiceClass} {newProvider : DiscoveryProviderClass}
    (taken : watch.registry.registerProvided clients serviceClass newProvider = some next)
    (after : next.Accurate clients (watch.record (.register serviceClass newProvider))) :
    (serviceClass, (watch.registry.provide newProvider).2) ∉ watch.registered := by
  have new := (registersNew_iff wellFormed accurate serviceClass newProvider).mpr
    ⟨next, taken, after⟩
  rcases registerProvided_some taken with ⟨parameters, serviceId, held, is, _⟩
  exact ((registersNew_spec held is newProvider).mp new).2.1.2

theorem mem_record_unregister {serviceClass other : DeviceServiceClass}
    {discoveryClass : DiscoveryProviderClass} {provider : Ref DiscoveryProvider}
    (different : other ≠ serviceClass) (member : (other, provider) ∈ watch.registered) :
    (other, provider) ∈ watch.record (.unregister serviceClass discoveryClass) := by
  unfold record
  dsimp only
  split
  · exact member
  · exact Finset.mem_erase.mpr ⟨fun same => different (Prod.mk.inj same).1, member⟩

/-- A step from an accurate registry. -/
theorem keepsAccurate_iff (wellFormed : watch.registry.WellFormed)
    (accurate : watch.registry.Accurate clients watch.registered)
    (event : RegistrationEvent) :
    watch.keepsAccurate clients event = true ↔
      ∃ next, watch.step clients event = some next ∧ watch.MeetsStep clients event next := by
  have meets_iff : watch.keepsAccurate clients event = true ↔
      ∃ next, watch.registry.handle clients event.registration = some next ∧
        next.Accurate clients (watch.record event.registration) := by
    unfold keepsAccurate
    cases event.registration with
    | register serviceClass newProvider =>
        exact registersNew_iff wellFormed accurate serviceClass newProvider
    | unregister serviceClass discoveryClass =>
        exact unregistersOnly_iff wellFormed accurate serviceClass discoveryClass
    | rejected => exact iff_of_true rfl ⟨watch.registry, rfl, accurate⟩
  rw [meets_iff]
  unfold step
  rw [step_eq_handle]
  constructor
  · rintro ⟨next, taken, after⟩
    refine ⟨_, congrArg _ taken, after, ?_, ?_⟩
    · intro serviceClass newProvider registers member
      rw [registers] at taken after
      exact absurd member (notMem_of_accurate wellFormed accurate taken after)
    · intro serviceClass discoveryClass unregisters other different discoverable
      rcases (accurate.isDiscoverable_iff wellFormed).mp discoverable with ⟨provider, member⟩
      refine (after.isDiscoverable_iff (wellFormed.handle taken)).mpr ⟨provider, ?_⟩
      rw [unregisters]
      exact mem_record_unregister different member
  · rintro ⟨_, taken, meets⟩
    rcases Option.map_eq_some_iff.mp taken with ⟨next, handled, equal⟩
    subst equal
    exact ⟨next, handled, meets.accurate⟩

/-- No provider class of the SDK answers to `+discoveryParameters`. -/
theorem unregistersOnly_iff_of_unanswered {discoveryClass : DiscoveryProviderClass}
    (unanswered : discoveryClass.discoveryParameters = none)
    (serviceClass : DeviceServiceClass) :
    watch.unregistersOnly clients serviceClass discoveryClass = true ↔
      watch.registry.findProvider discoveryClass = none := by
  unfold unregistersOnly
  rw [unanswered]
  cases watch.registry.findProvider discoveryClass with
  | none => simp
  | some provider => simp

/-- The registry holds exactly what is registered throughout a run, and no step raises an
exception, exactly as long as every registration is a new one and every unregistration
removes what it should. -/
theorem run_accurate_iff (clients : ClientParameters) (events : List RegistrationEvent) :
    EveryStep (step clients) (fun watch event => watch.keepsAccurate clients event = true)
        {} events ↔
      Completes (step clients) (MeetsStep clients) {} events := by
  have preserved : ∀ watch event next,
      watch.registry.WellFormed ∧ watch.registry.Accurate clients watch.registered →
      step clients watch event = some next → MeetsStep clients watch event next →
      next.registry.WellFormed ∧ next.registry.Accurate clients next.registered := by
    intro watch event next keeps taken meets
    rcases Option.map_eq_some_iff.mp taken with ⟨registry, handled, equal⟩
    subst equal
    rw [step_eq_handle] at handled
    exact ⟨keeps.1.handle handled, meets.accurate⟩
  apply everyStep_iff_completes preserved
  · intro watch event keeps
    exact keepsAccurate_iff keeps.1 keeps.2 event
  · exact ⟨WellFormed.initially, Accurate.initially clients⟩

/-- Unregistering what was registered raises an exception, and registering it again adds a
second filter. -/
theorem roku_not_unregistered :
    runFrom (step fun _ => none) {}
        [.registerDeviceService (.deviceService .rokuService)
            (.discoveryProvider .ssdpDiscoveryProvider),
          .unregisterDeviceService (.deviceService .rokuService)
            (.discoveryProvider .ssdpDiscoveryProvider)] = none ∧
      (runFrom (step fun _ => none) {}
          [.registerDeviceService (.deviceService .rokuService)
              (.discoveryProvider .ssdpDiscoveryProvider),
            .registerDeviceService (.deviceService .rokuService)
              (.discoveryProvider .ssdpDiscoveryProvider)]).map
          (fun watch => (watch.registry.serviceFilters ⟨0⟩).length) = some 2 ∧
      ¬Completes (step fun _ => none) (MeetsStep fun _ => none) {}
        [.registerDeviceService (.deviceService .rokuService)
            (.discoveryProvider .ssdpDiscoveryProvider),
          .unregisterDeviceService (.deviceService .rokuService)
            (.discoveryProvider .ssdpDiscoveryProvider)] := by
  refine ⟨rfl, rfl, ?_⟩
  rintro ⟨next, taken, _, last, raised, _⟩
  cases taken
  cases raised

end RegistrationWatch

end ConnectSDK
