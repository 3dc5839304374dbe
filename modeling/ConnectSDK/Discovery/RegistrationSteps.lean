import ConnectSDK.Discovery.ServiceRegistrations

/-! # Registering and unregistering services

What each of the two changes of the class table, the filters and the providers.
-/

namespace ConnectSDK

namespace DiscoveryRegistry

variable {clients : ClientParameters} {registry next : DiscoveryRegistry}
  {provider : Ref DiscoveryProvider} {serviceClass : DeviceServiceClass}
  {parameters : DiscoveryParameters} {serviceId : String}

theorem WellFormed.initially : WellFormed {} := by
  constructor
  · intro provider member
    cases member
  · intro provider member
    cases member
  · intro provider filtered
    exact absurd rfl filtered

/-! ## Registering -/

/-- What registering changes. -/
structure Adds (registry next : DiscoveryRegistry) (provider : Ref DiscoveryProvider)
    (serviceClass : DeviceServiceClass) (parameters : DiscoveryParameters)
    (serviceId : String) : Prop where
  deviceClasses : next.deviceClasses = registry.deviceClasses.insert serviceId serviceClass
  discoveryProviders : ∀ other, other ∈ next.discoveryProviders ↔
    other ∈ registry.discoveryProviders ∨ other = provider
  filters : next.serviceFilters provider =
    if (next.providerClass provider).keepsFilters then
      registry.serviceFilters provider ++ [parameters]
    else
      registry.serviceFilters provider
  others : ∀ other, other ≠ provider →
    next.serviceFilters other = registry.serviceFilters other

theorem provide_spec (wellFormed : registry.WellFormed) (newProvider : DiscoveryProviderClass) :
    (registry.provide newProvider).1.WellFormed ∧
      (registry.provide newProvider).1.deviceClasses = registry.deviceClasses ∧
      (∀ other, other ∈ (registry.provide newProvider).1.discoveryProviders ↔
        other ∈ registry.discoveryProviders ∨ other = (registry.provide newProvider).2) ∧
      ∀ other, (registry.provide newProvider).1.serviceFilters other =
        registry.serviceFilters other := by
  unfold provide
  cases found : registry.findProvider newProvider with
  | some provider =>
      refine ⟨wellFormed, rfl, fun other => ?_, fun _ => rfl⟩
      have listed : provider ∈ registry.discoveryProviders := List.mem_of_find?_eq_some found
      constructor
      · exact Or.inl
      · rintro (member | equal)
        · exact member
        · exact equal ▸ listed
  | none =>
      dsimp only
      have filters : ∀ other, (DiscoveryRegistry.serviceFilters
          { registry with
            discoveryProviders := registry.discoveryProviders ++ [registry.providers.fresh]
            providers := registry.providers.allocate
              { providerClass := newProvider, delegate := true } } other) =
          registry.serviceFilters other := by
        intro other
        by_cases same : other = registry.providers.fresh
        · subst same
          rw [serviceFilters, Heap.read_allocate_fresh]
          by_contra filtered
          have allocated := (wellFormed.filtered _ fun empty => filtered empty.symm).1
          exact allocated.ne_fresh rfl
        · rw [serviceFilters, Heap.read_allocate_of_ne same]
          rfl
      have classes : ∀ other, other ≠ registry.providers.fresh →
          (registry.providers.allocate
            { providerClass := newProvider, delegate := true }).read other =
          registry.providers.read other := fun other different =>
        Heap.read_allocate_of_ne different _
      refine ⟨⟨?_, ?_, ?_⟩, rfl, ?_, filters⟩
      · intro other member
        rcases List.mem_append.mp member with member | member
        · exact (wellFormed.allocated other member).allocate _
        · cases List.mem_singleton.mp member
          exact Heap.allocated_fresh _ _
      · intro other member
        rcases List.mem_append.mp member with member | member
        · dsimp only
          rw [classes other (wellFormed.allocated other member).ne_fresh]
          exact wellFormed.delegate other member
        · cases List.mem_singleton.mp member
          dsimp only
          rw [Heap.read_allocate_fresh]
      · intro other filtered
        rw [filters] at filtered
        have kept := wellFormed.filtered other filtered
        refine ⟨kept.1.allocate _, ?_⟩
        rw [providerClass, classes other kept.1.ne_fresh]
        exact kept.2
      · intro other
        rw [List.mem_append, List.mem_singleton]

/-- A change of one provider that keeps its class and its delegate. -/
theorem WellFormed.modify (wellFormed : registry.WellFormed)
    (change : DiscoveryProvider → DiscoveryProvider)
    (sameClass : ∀ held, (change held).providerClass = held.providerClass)
    (sameDelegate : ∀ held, (change held).delegate = held.delegate)
    (filtered : (change (registry.providers.read provider)).serviceFilters ≠ [] →
      registry.providers.Allocated provider ∧
        (registry.providerClass provider).keepsFilters = true) :
    WellFormed { registry with providers := registry.providers.modify provider change } := by
  constructor
  · exact wellFormed.allocated
  · intro other member
    have before := wellFormed.delegate other member
    by_cases same : other = provider
    · subst same
      dsimp only
      rw [Heap.read_modify_self, sameDelegate, before]
    · dsimp only
      rw [Heap.read_modify_of_ne same, before]
  · intro other holds
    by_cases same : other = provider
    · subst same
      rw [serviceFilters, Heap.read_modify_self] at holds
      rw [providerClass, Heap.read_modify_self, sameClass]
      exact filtered holds
    · rw [serviceFilters, Heap.read_modify_of_ne same] at holds
      rw [providerClass, Heap.read_modify_of_ne same]
      exact wellFormed.filtered other holds

def keepFilter (parameters : DiscoveryParameters) (provider : DiscoveryProvider) :
    DiscoveryProvider :=
  if provider.providerClass.keepsFilters then
    { provider with serviceFilters := provider.serviceFilters ++ [parameters] }
  else
    provider

theorem keepFilter_providerClass (parameters : DiscoveryParameters)
    (provider : DiscoveryProvider) :
    (keepFilter parameters provider).providerClass = provider.providerClass := by
  unfold keepFilter
  split <;> rfl

theorem keepFilter_delegate (parameters : DiscoveryParameters)
    (provider : DiscoveryProvider) :
    (keepFilter parameters provider).delegate = provider.delegate := by
  unfold keepFilter
  split <;> rfl

/-- The filter is kept if the provider keeps filters. -/
theorem addDeviceFilter_eq (registry : DiscoveryRegistry) (provider : Ref DiscoveryProvider)
    (parameters : DiscoveryParameters) :
    registry.addDeviceFilter provider parameters =
      if (registry.providerClass provider).acceptsFilter parameters then
        some { registry with
          providers := registry.providers.modify provider (keepFilter parameters) }
      else
        none := by
  unfold addDeviceFilter DiscoveryProvider.addDeviceFilter providerClass
  cases (registry.providers.read provider).providerClass.acceptsFilter parameters with
  | false => rfl
  | true =>
      cases keeps : (registry.providers.read provider).providerClass.keepsFilters <;>
        simp [Heap.modify, keepFilter, keeps]

theorem registerProvided_eq (clients : ClientParameters) (newProvider : DiscoveryProviderClass)
    (held : serviceClass.discoveryParameters clients = some parameters)
    (is : parameters.serviceId = some serviceId) :
    registry.registerProvided clients serviceClass newProvider =
      addDeviceFilter
        { (registry.provide newProvider).1 with
          deviceClasses :=
            (registry.provide newProvider).1.deviceClasses.insert serviceId serviceClass }
        (registry.provide newProvider).2 parameters := by
  unfold registerProvided
  rw [held]
  dsimp only [Option.bind_eq_bind, Option.bind_some]
  rw [is]
  rfl

/-- Registering raises an exception for a service without an id, and where the filter
fails an assertion. -/
theorem registerProvided_some {newProvider : DiscoveryProviderClass}
    (taken : registry.registerProvided clients serviceClass newProvider = some next) :
    ∃ parameters serviceId, serviceClass.discoveryParameters clients = some parameters ∧
      parameters.serviceId = some serviceId ∧
      ((registry.provide newProvider).1.providerClass
        (registry.provide newProvider).2).acceptsFilter parameters = true := by
  have steps := taken
  unfold registerProvided at steps
  rcases Option.bind_eq_some_iff.mp steps with ⟨parameters, held, steps⟩
  rcases Option.bind_eq_some_iff.mp steps with ⟨serviceId, is, steps⟩
  rw [registerProvided_eq clients newProvider held is, addDeviceFilter_eq] at taken
  refine ⟨parameters, serviceId, held, is, ?_⟩
  split at taken
  · assumption
  · cases taken

theorem registerProvided_spec (wellFormed : registry.WellFormed)
    {newProvider : DiscoveryProviderClass}
    (held : serviceClass.discoveryParameters clients = some parameters)
    (is : parameters.serviceId = some serviceId)
    (accepts : ((registry.provide newProvider).1.providerClass
      (registry.provide newProvider).2).acceptsFilter parameters = true) :
    ∃ next, registry.registerProvided clients serviceClass newProvider = some next ∧
      next.WellFormed ∧
      (next.providerClass (registry.provide newProvider).2 =
        (registry.provide newProvider).1.providerClass (registry.provide newProvider).2) ∧
      registry.Adds next (registry.provide newProvider).2 serviceClass parameters
        serviceId := by
  rcases provide_spec wellFormed newProvider with
    ⟨providedWell, sameClasses, listed, filters⟩
  rw [registerProvided_eq clients newProvider held is, addDeviceFilter_eq]
  generalize registry.provide newProvider = given at *
  rcases given with ⟨provided, provider⟩
  dsimp only at *
  refine ⟨_, if_pos accepts, ?_, ?_, ?_⟩
  · have well : WellFormed { provided with
        deviceClasses := provided.deviceClasses.insert serviceId serviceClass } :=
      ⟨providedWell.allocated, providedWell.delegate, providedWell.filtered⟩
    apply well.modify (keepFilter parameters) (keepFilter_providerClass parameters)
      (keepFilter_delegate parameters)
    intro filtered
    cases keeps : (provided.providerClass provider).keepsFilters with
    | true => exact ⟨providedWell.allocated provider ((listed provider).mpr (Or.inr rfl)), keeps⟩
    | false =>
        have unchanged : keepFilter parameters (provided.providers.read provider) =
            provided.providers.read provider := if_neg (by rw [providerClass] at keeps; simp [keeps])
        rw [unchanged] at filtered
        exact providedWell.filtered provider filtered
  · rw [providerClass, Heap.read_modify_self, keepFilter_providerClass]
    rfl
  · constructor
    · exact congrArg (AList.insert serviceId serviceClass) sameClasses
    · exact listed
    · rw [serviceFilters, providerClass, Heap.read_modify_self, keepFilter_providerClass,
        ← filters provider]
      unfold keepFilter
      split
      · rfl
      · rfl
    · intro other different
      rw [serviceFilters, Heap.read_modify_of_ne different]
      exact filters other

theorem registerProvided_effect (wellFormed : registry.WellFormed)
    {newProvider : DiscoveryProviderClass}
    (taken : registry.registerProvided clients serviceClass newProvider = some next) :
    ∃ parameters serviceId, serviceClass.discoveryParameters clients = some parameters ∧
      parameters.serviceId = some serviceId ∧
      ((registry.provide newProvider).1.providerClass
        (registry.provide newProvider).2).acceptsFilter parameters = true ∧
      next.WellFormed ∧
      (next.providerClass (registry.provide newProvider).2 =
        (registry.provide newProvider).1.providerClass (registry.provide newProvider).2) ∧
      registry.Adds next (registry.provide newProvider).2 serviceClass parameters
        serviceId := by
  rcases registerProvided_some taken with ⟨parameters, serviceId, held, is, accepts⟩
  rcases registerProvided_spec wellFormed held is accepts with ⟨other, same, effect⟩
  rw [taken] at same
  cases same
  exact ⟨parameters, serviceId, held, is, accepts, effect⟩

/-! ## Unregistering -/

/-- What unregistering changes when a provider is found. -/
structure Removes (registry next : DiscoveryRegistry) (provider : Ref DiscoveryProvider)
    (serviceId : String) : Prop where
  deviceClasses : next.deviceClasses = registry.deviceClasses.erase serviceId
  discoveryProviders : ∀ other, other ∈ next.discoveryProviders ↔
    other ∈ registry.discoveryProviders ∧ (other = provider →
      (registry.providerClass provider).tellsEmpty = true ∧
        next.serviceFilters provider ≠ [])
  filters : next.serviceFilters provider = (registry.serviceFilters provider).eraseP
    (DiscoveryParameters.hasServiceId (some serviceId))
  others : ∀ other, other ≠ provider →
    next.serviceFilters other = registry.serviceFilters other

theorem removeDeviceFilter_providerClass (provider : DiscoveryProvider)
    (parameters : DiscoveryParameters) :
    (provider.removeDeviceFilter parameters).providerClass = provider.providerClass := by
  unfold DiscoveryProvider.removeDeviceFilter
  split <;> rfl

theorem removeDeviceFilter_delegate (provider : DiscoveryProvider)
    (parameters : DiscoveryParameters) :
    (provider.removeDeviceFilter parameters).delegate = provider.delegate := by
  unfold DiscoveryProvider.removeDeviceFilter
  split <;> rfl

/-- A provider that keeps no filters has none to remove. -/
theorem WellFormed.removeDeviceFilter (wellFormed : registry.WellFormed)
    (provider : Ref DiscoveryProvider) (parameters : DiscoveryParameters) :
    ((registry.providers.read provider).removeDeviceFilter parameters).serviceFilters =
      (registry.serviceFilters provider).eraseP
        (DiscoveryParameters.hasServiceId parameters.serviceId) := by
  unfold DiscoveryProvider.removeDeviceFilter
  split
  · rfl
  · rename_i keeps
    have none : registry.serviceFilters provider = [] := by
      by_contra filtered
      exact keeps (wellFormed.filtered provider filtered).2
    rw [none]
    exact none

theorem dropEmptyProvider_spec (wellFormed : registry.WellFormed)
    (provider : Ref DiscoveryProvider) :
    (registry.dropEmptyProvider provider).WellFormed ∧
      (registry.dropEmptyProvider provider).deviceClasses = registry.deviceClasses ∧
      (∀ other, (registry.dropEmptyProvider provider).serviceFilters other =
        registry.serviceFilters other) ∧
      ∀ other, other ∈ (registry.dropEmptyProvider provider).discoveryProviders ↔
        other ∈ registry.discoveryProviders ∧ (other = provider →
          (registry.providers.read provider).isEmpty = false) := by
  unfold dropEmptyProvider
  cases empty : (registry.providers.read provider).isEmpty with
  | false => exact ⟨wellFormed, rfl, fun _ => rfl, fun other => by simp⟩
  | true =>
      have filters : ∀ other, ((registry.providers.modify provider fun provider =>
          { provider with delegate := false }).read other).serviceFilters =
          registry.serviceFilters other := by
        intro other
        by_cases same : other = provider
        · rw [same, Heap.read_modify_self]
          rfl
        · rw [Heap.read_modify_of_ne same]
          rfl
      have classes : ∀ other, ((registry.providers.modify provider fun provider =>
          { provider with delegate := false }).read other).providerClass =
          registry.providerClass other := by
        intro other
        by_cases same : other = provider
        · rw [same, Heap.read_modify_self]
          rfl
        · rw [Heap.read_modify_of_ne same]
          rfl
      refine ⟨⟨?_, ?_, ?_⟩, rfl, filters, ?_⟩
      · intro other member
        exact wellFormed.allocated other (List.mem_filter.mp member).1
      · intro other member
        rcases List.mem_filter.mp member with ⟨listed, different⟩
        rw [if_pos rfl, Heap.read_modify_of_ne (bne_iff_ne.mp different)]
        exact wellFormed.delegate other listed
      · intro other filtered
        have kept := wellFormed.filtered other (filters other ▸ filtered)
        exact ⟨kept.1, (congrArg _ (classes other)).trans kept.2⟩
      · intro other
        simp

theorem unregisterProvided_spec (wellFormed : registry.WellFormed)
    {discoveryClass : DiscoveryProviderClass}
    (found : registry.findProvider discoveryClass = some provider)
    (held : discoveryClass.discoveryParameters = some parameters)
    (is : parameters.serviceId = some serviceId) :
    ∃ next, registry.unregisterProvided discoveryClass = some next ∧ next.WellFormed ∧
      registry.Removes next provider serviceId := by
  unfold unregisterProvided
  rw [found, held]
  dsimp only [Option.bind_eq_bind, Option.bind_some]
  rw [is]
  have removed := wellFormed.removeDeviceFilter provider parameters
  have well : WellFormed { registry with
      deviceClasses := registry.deviceClasses.erase serviceId
      providers := registry.providers.modify provider fun provider =>
        provider.removeDeviceFilter parameters } := by
    have erased : WellFormed { registry with
        deviceClasses := registry.deviceClasses.erase serviceId } :=
      ⟨wellFormed.allocated, wellFormed.delegate, wellFormed.filtered⟩
    apply erased.modify
    · exact fun held => removeDeviceFilter_providerClass held parameters
    · exact fun held => removeDeviceFilter_delegate held parameters
    · intro filtered
      apply wellFormed.filtered provider
      intro none
      apply filtered
      rw [removed, none]
      rfl
  rcases dropEmptyProvider_spec well provider with ⟨dropped, classes, filters, listed⟩
  refine ⟨_, rfl, dropped, ?_⟩
  have here := (filters provider).trans
    ((congrArg DiscoveryProvider.serviceFilters (Heap.read_modify_self _ _ _)).trans removed)
  rw [is] at here
  constructor
  · exact classes
  · intro other
    rw [listed, Heap.read_modify_self]
    have empty : ((registry.providers.read provider).removeDeviceFilter parameters).isEmpty =
        false ↔ (registry.providerClass provider).tellsEmpty = true ∧
          (registry.serviceFilters provider).eraseP
            (DiscoveryParameters.hasServiceId (some serviceId)) ≠ [] := by
      unfold DiscoveryProvider.isEmpty
      rw [removeDeviceFilter_providerClass, removed, is]
      change (if (registry.providerClass provider).tellsEmpty then _ else _) = _ ↔ _
      cases (registry.providerClass provider).tellsEmpty with
      | false => simp
      | true => simp
    rw [empty, here]
  · exact here
  · intro other different
    rw [filters, serviceFilters, Heap.read_modify_of_ne different]
    rfl

theorem unregisterProvided_effect (wellFormed : registry.WellFormed)
    {discoveryClass : DiscoveryProviderClass}
    (found : registry.findProvider discoveryClass = some provider)
    (taken : registry.unregisterProvided discoveryClass = some next) :
    ∃ serviceId,
      discoveryClass.discoveryParameters.bind DiscoveryParameters.serviceId =
        some serviceId ∧
      next.WellFormed ∧ registry.Removes next provider serviceId := by
  have steps := taken
  unfold unregisterProvided at steps
  rw [found] at steps
  rcases Option.bind_eq_some_iff.mp steps with ⟨parameters, held, steps⟩
  rcases Option.bind_eq_some_iff.mp steps with ⟨serviceId, is, steps⟩
  rcases unregisterProvided_spec wellFormed found held is with ⟨other, same, effect⟩
  rw [taken] at same
  cases same
  refine ⟨serviceId, ?_, effect⟩
  rw [held, Option.bind_some, is]

theorem WellFormed.handle (wellFormed : registry.WellFormed) {registration : Registration}
    (taken : registry.handle clients registration = some next) : next.WellFormed := by
  cases registration with
  | register serviceClass newProvider =>
      rcases registerProvided_effect wellFormed taken with ⟨_, _, _, _, _, well, _⟩
      exact well
  | unregister serviceClass discoveryClass =>
      cases found : registry.findProvider discoveryClass with
      | none =>
          simp only [DiscoveryRegistry.handle, unregisterProvided, found] at taken
          cases taken
          exact wellFormed
      | some provider =>
          rcases unregisterProvided_effect wellFormed found taken with ⟨_, _, well, _⟩
          exact well
  | rejected =>
      cases taken
      exact wellFormed

end DiscoveryRegistry

end ConnectSDK
