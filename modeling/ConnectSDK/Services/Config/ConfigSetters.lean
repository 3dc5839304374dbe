import Mathlib.Data.List.Nodup
import ConnectSDK.Services.Config.ObservedConfig
import ConnectSDK.Services.WebOSTVService

/-! # Setting the configuration of a service

The setters of `WebOSTVService` and `NetcastTVService` keep a configuration of their own
class, into which they copy any other, and assert first that no key is lost. The
configuration that is replaced is released, and without another owner it is deallocated.
-/

namespace ConnectSDK

def ServiceConfig.pairingCode (config : ServiceConfig) : Option String :=
  match config.subclass with
  | .netcastTVServiceConfig pairingCode => pairingCode
  | _ => none

/-- `isKindOfClass:[WebOSTVServiceConfig class]`. -/
def ServiceConfigClass.isWebOSTVServiceConfig : ServiceConfigClass → Bool
  | .webOSTVServiceConfig .. => true
  | _ => false

/-- `isKindOfClass:[NetcastTVServiceConfig class]`. -/
def ServiceConfigClass.isNetcastTVServiceConfig : ServiceConfigClass → Bool
  | .netcastTVServiceConfig .. => true
  | _ => false

/-- What the two setters differ in. -/
structure PlatformConfigs where
  isKindOfClass : ServiceConfigClass → Bool
  /-- The key or code, `nil` for a configuration of another class. -/
  key : ServiceConfig → Option String
  /-- The class that other configurations are copied into. -/
  subclass : ServiceConfigClass
  /-- The text of the exception. -/
  reason : String
  isKindOfClass_subclass : isKindOfClass subclass.unset = true
  key_other : ∀ config, isKindOfClass config.subclass = false → key config = none
  key_copy : ∀ config : ServiceConfig, key { config with subclass := subclass.unset } = none

/-- An exception that leaves a setter. -/
inductive SetterException where
  /-- `NSInternalInconsistencyException`, from `_assert_state`. -/
  | internalInconsistency (reason : String)
  /-- An observer was removed that is not registered. -/
  | notRegistered
deriving DecidableEq

variable {Delegate : Type}

/-- A service's configuration, among all configurations. -/
structure ConfiguredService (Delegate : Type) where
  serviceConfig : Option (Ref (ObservedConfig Delegate)) := none
  system : ServiceConfigs Delegate := {}

namespace ConfiguredService

def config (service : ConfiguredService Delegate) (ref : Ref (ObservedConfig Delegate)) :
    ServiceConfig :=
  (service.system.configs.read ref).config

/-- The key of the current configuration. -/
def key (platform : PlatformConfigs) (service : ConfiguredService Delegate) :
    Option String :=
  (service.serviceConfig.map service.config).bind platform.key

/-- The synthesized `-[DeviceService setServiceConfig:]`. The new value is stored before
the old one is released. -/
def superSetServiceConfig (service : ConfiguredService Delegate)
    (serviceConfig : Ref (ObservedConfig Delegate)) (releasesLast : Bool) :
    ConfiguredService Delegate × Option SetterException :=
  let stored := { service with serviceConfig := some serviceConfig }
  match service.serviceConfig, releasesLast with
  | some old, true =>
      match (service.system.configs.read old).dealloc with
      | none => (stored, some .notRegistered)
      | some gone => ({ stored with system := service.system.write old gone }, none)
  | _, _ => (stored, none)

/-- `setServiceConfig:`, where the service may be the only owner of its current
configuration; whoever calls it owns the new one. -/
def setServiceConfig (platform : PlatformConfigs) (service : ConfiguredService Delegate)
    (serviceConfig : Ref (ObservedConfig Delegate)) (onlyOwner : Bool) :
    ConfiguredService Delegate × Option SetterException :=
  let releasesLast := onlyOwner && decide (service.serviceConfig ≠ some serviceConfig)
  let oldServiceConfigHasKey := (service.key platform).isSome
  if platform.isKindOfClass (service.config serviceConfig).subclass then
    let newServiceConfigHasKey := (platform.key (service.config serviceConfig)).isSome
    let wouldLoseKey := oldServiceConfigHasKey && !newServiceConfigHasKey
    if wouldLoseKey then (service, some (.internalInconsistency platform.reason))
    else service.superSetServiceConfig serviceConfig releasesLast
  else if oldServiceConfigHasKey then
    (service, some (.internalInconsistency platform.reason))
  else
    match service.system.initWithServiceConfig platform.subclass serviceConfig with
    | none => (service, some .notRegistered)
    | some system =>
        { service with system }.superSetServiceConfig service.system.configs.fresh
          releasesLast

end ConfiguredService

def webOSTVServiceConfigs : PlatformConfigs where
  isKindOfClass := ServiceConfigClass.isWebOSTVServiceConfig
  key := ServiceConfig.clientKey
  subclass := .webOSTVServiceConfig none none
  reason := "Losing important data!"
  isKindOfClass_subclass := rfl
  key_other := by
    intro config other
    rcases config with ⟨_, _, _, _, _ | _ | _⟩
    · rfl
    · cases other
    · rfl
  key_copy := fun _ => rfl

def netcastTVServiceConfigs : PlatformConfigs where
  isKindOfClass := ServiceConfigClass.isNetcastTVServiceConfig
  key := ServiceConfig.pairingCode
  subclass := .netcastTVServiceConfig none
  reason := "Replacing important data!"
  isKindOfClass_subclass := rfl
  key_other := by
    intro config other
    rcases config with ⟨_, _, _, _, _ | _ | _⟩
    · rfl
    · rfl
    · cases other
  key_copy := fun _ => rfl

/-- `-[WebOSTVService setServiceConfig:]`. -/
def WebOSTVService.setServiceConfig (service : ConfiguredService Delegate)
    (serviceConfig : Ref (ObservedConfig Delegate)) (onlyOwner : Bool) :
    ConfiguredService Delegate × Option SetterException :=
  service.setServiceConfig webOSTVServiceConfigs serviceConfig onlyOwner

/-- `-[NetcastTVService setServiceConfig:]`. -/
def NetcastTVService.setServiceConfig (service : ConfiguredService Delegate)
    (serviceConfig : Ref (ObservedConfig Delegate)) (onlyOwner : Bool) :
    ConfiguredService Delegate × Option SetterException :=
  service.setServiceConfig netcastTVServiceConfigs serviceConfig onlyOwner

/-- The two services that have a setter of their own. -/
inductive KeyedService where
  | webOSTVService
  | netcastTVService

namespace KeyedService

def platform : KeyedService → PlatformConfigs
  | .webOSTVService => webOSTVServiceConfigs
  | .netcastTVService => netcastTVServiceConfigs

def setServiceConfig : KeyedService → ConfiguredService Delegate →
    Ref (ObservedConfig Delegate) → Bool →
    ConfiguredService Delegate × Option SetterException
  | .webOSTVService => WebOSTVService.setServiceConfig
  | .netcastTVService => NetcastTVService.setServiceConfig

theorem setServiceConfig_eq (kind : KeyedService) (service : ConfiguredService Delegate)
    (serviceConfig : Ref (ObservedConfig Delegate)) (onlyOwner : Bool) :
    kind.setServiceConfig service serviceConfig onlyOwner =
      service.setServiceConfig kind.platform serviceConfig onlyOwner := by
  cases kind <;> rfl

end KeyedService

namespace ObservedConfig

/-- The configuration has kept a delegate but does not observe what its class adds. -/
def Unregistered (observed : ObservedConfig Delegate) : Prop :=
  observed.delegate.isSome = true ∧
    ∃ keyPath ∈ observed.config.subclass.subclassKeyPaths, keyPath ∉ observed.observers

/-! ### Deallocation -/

theorem mem_removeUntilRaised {keyPath : KeyPath} :
    ∀ {removed observers : List KeyPath}, keyPath ∉ removed →
      (keyPath ∈ KeyPath.removeUntilRaised removed observers ↔ keyPath ∈ observers)
  | [], _, _ => Iff.rfl
  | first :: rest, observers, absent => by
      rw [List.mem_cons, not_or] at absent
      rw [KeyPath.removeUntilRaised, KeyPath.removeObserver]
      by_cases registered : first ∈ observers
      · rw [if_pos registered]
        dsimp only
        rw [mem_removeUntilRaised absent.2, List.mem_erase_of_ne absent.1]
      · rw [if_neg registered]

/-- Removing several observers raises an exception where one is not registered. -/
theorem foldlM_removeObserver_eq_none_iff :
    ∀ {removed observers : List KeyPath}, removed.Nodup →
      (removed.foldlM KeyPath.removeObserver observers = none ↔
        ∃ keyPath ∈ removed, keyPath ∉ observers)
  | [], observers, _ => by simp
  | first :: rest, observers, distinct => by
      rw [List.nodup_cons] at distinct
      rw [List.foldlM_cons, KeyPath.removeObserver]
      by_cases registered : first ∈ observers
      · rw [if_pos registered, Option.bind_eq_bind, Option.bind_some,
          foldlM_removeObserver_eq_none_iff distinct.2, List.exists_mem_cons_iff]
        constructor
        · intro missing
          rcases missing with ⟨keyPath, member, absent⟩
          have different : keyPath ≠ first := fun same => distinct.1 (same ▸ member)
          rw [List.mem_erase_of_ne different] at absent
          exact Or.inr ⟨keyPath, member, absent⟩
        · intro missing
          rcases missing with absent | ⟨keyPath, member, absent⟩
          · exact absurd registered absent
          · exact ⟨keyPath, member, fun erased => absent (List.mem_of_mem_erase erased)⟩
      · rw [if_neg registered]
        exact iff_of_true rfl ⟨first, List.mem_cons_self, registered⟩

theorem mem_removeSuperObservers {observed : ObservedConfig Delegate} {keyPath : KeyPath}
    (added : keyPath ∈ observed.config.subclass.subclassKeyPaths) :
    keyPath ∈ observed.removeSuperObservers.observers ↔ keyPath ∈ observed.observers := by
  have own : keyPath ∉ KeyPath.superKeyPaths := by
    rcases observed with ⟨⟨_, _, _, _, subclass⟩, _, _, _, _⟩
    cases subclass <;> cases keyPath <;>
      simp [ServiceConfigClass.subclassKeyPaths, KeyPath.superKeyPaths] at added ⊢
  rw [removeSuperObservers]
  cases observed.hasObservers with
  | true => exact mem_removeUntilRaised own
  | false => exact Iff.rfl

theorem subclassKeyPaths_nodup (subclass : ServiceConfigClass) :
    subclass.subclassKeyPaths.Nodup := by
  cases subclass <;> simp [ServiceConfigClass.subclassKeyPaths]

theorem removeObservers_eq_none_iff (observed : ObservedConfig Delegate) :
    observed.removeObservers = none ↔
      ∃ keyPath ∈ observed.config.subclass.subclassKeyPaths,
        keyPath ∉ observed.observers := by
  rw [removeObservers, Option.map_eq_none_iff,
    foldlM_removeObserver_eq_none_iff (subclassKeyPaths_nodup _)]
  apply exists_congr
  intro keyPath
  apply and_congr_right
  intro added
  rw [mem_removeSuperObservers added]

theorem dealloc_eq_none_iff (observed : ObservedConfig Delegate) :
    observed.dealloc = none ↔ observed.Unregistered := by
  rw [dealloc, Option.map_eq_none_iff, Unregistered]
  cases held : observed.delegate with
  | none => simp [setDelegate, held]
  | some delegate =>
      simp only [setDelegate, held, Option.isSome_some, true_and]
      exact removeObservers_eq_none_iff observed

/-- A deallocated configuration still reads the same. -/
theorem dealloc_config {observed gone : ObservedConfig Delegate}
    (deallocated : observed.dealloc = some gone) : gone.config = observed.config := by
  rcases Option.map_eq_some_iff.mp deallocated with ⟨cleared, taken, same⟩
  rw [← same]
  cases held : observed.delegate with
  | none =>
      simp only [setDelegate, held, Option.some.injEq] at taken
      rw [← taken]
  | some delegate =>
      simp only [setDelegate, held] at taken
      rcases Option.map_eq_some_iff.mp taken with ⟨observers, _, removed⟩
      rw [← removed, removeSuperObservers]
      dsimp only
      split <;> rfl

end ObservedConfig

namespace ConfiguredService

/-! ## What a setter is to do -/

/-- There is a key, and the new configuration has none. -/
def WouldLoseKey (platform : PlatformConfigs) (service : ConfiguredService Delegate)
    (serviceConfig : Ref (ObservedConfig Delegate)) : Prop :=
  (service.key platform).isSome = true ∧ platform.key (service.config serviceConfig) = none

/-- The service has a configuration of its platform, which says what the new one said. -/
def Installs (platform : PlatformConfigs) (service after : ConfiguredService Delegate)
    (serviceConfig : Ref (ObservedConfig Delegate)) : Prop :=
  ∃ current, after.serviceConfig = some current ∧
    platform.isKindOfClass (after.config current).subclass = true ∧
    platform.key (after.config current) = platform.key (service.config serviceConfig) ∧
    (after.config current).uuid = (service.config serviceConfig).uuid ∧
    (after.config current).connected = (service.config serviceConfig).connected ∧
    (after.config current).wasConnected = (service.config serviceConfig).wasConnected ∧
    (after.config current).lastDetection = (service.config serviceConfig).lastDetection ∧
    (after.system.configs.read current).delegate =
      (service.system.configs.read serviceConfig).delegate

/-- The setter raises an exception exactly where the key would be lost, and has changed
nothing then; otherwise it installs the configuration. -/
def SetsOrRefuses (platform : PlatformConfigs) (service : ConfiguredService Delegate)
    (serviceConfig : Ref (ObservedConfig Delegate))
    (result : ConfiguredService Delegate × Option SetterException) : Prop :=
  (result.2.isSome = true ↔ service.WouldLoseKey platform serviceConfig) ∧
    (result.2.isSome = true → result.1 = service) ∧
    (result.2 = none → service.Installs platform result.1 serviceConfig)

/-- What is released for the last time observes what it has to. -/
def ReleasesCleanly (service : ConfiguredService Delegate)
    (serviceConfig : Ref (ObservedConfig Delegate)) (onlyOwner : Bool) : Prop :=
  onlyOwner = true → ∀ old, service.serviceConfig = some old → old ≠ serviceConfig →
    ¬ (service.system.configs.read old).Unregistered

/-- Setting one configuration after the other, each the only one's owner or not. -/
def setServiceConfigs (kind : KeyedService) (service : ConfiguredService Delegate)
    (calls : List (Ref (ObservedConfig Delegate) × Bool)) : ConfiguredService Delegate :=
  calls.foldl (fun service call => (kind.setServiceConfig service call.1 call.2).1) service

/-! ## Replacing a configuration -/

/-- The exception comes after the new configuration is stored. -/
theorem superSetServiceConfig_unregistered {service : ConfiguredService Delegate}
    {old : Ref (ObservedConfig Delegate)} (current : service.serviceConfig = some old)
    (unregistered : (service.system.configs.read old).Unregistered)
    (serviceConfig : Ref (ObservedConfig Delegate)) :
    service.superSetServiceConfig serviceConfig true =
      ({ service with serviceConfig := some serviceConfig }, some .notRegistered) := by
  rw [← ObservedConfig.dealloc_eq_none_iff] at unregistered
  simp only [superSetServiceConfig, current, unregistered]

/-- Otherwise only the old configuration changes. -/
theorem superSetServiceConfig_stores {service : ConfiguredService Delegate}
    {releasesLast : Bool}
    (clean : ∀ old, service.serviceConfig = some old → releasesLast = true →
      ¬ (service.system.configs.read old).Unregistered)
    (serviceConfig : Ref (ObservedConfig Delegate)) :
    ∃ after, service.superSetServiceConfig serviceConfig releasesLast = (after, none) ∧
      after.serviceConfig = some serviceConfig ∧
      ∀ other, (service.serviceConfig = some other → releasesLast = false) →
        after.system.configs.read other = service.system.configs.read other := by
  cases current : service.serviceConfig with
  | none =>
      refine ⟨{ service with serviceConfig := some serviceConfig }, ?_, rfl,
        fun _ _ => rfl⟩
      simp only [superSetServiceConfig, current]
  | some old =>
      cases releasesLast with
      | false =>
          refine ⟨{ service with serviceConfig := some serviceConfig }, ?_, rfl,
            fun _ _ => rfl⟩
          simp only [superSetServiceConfig, current]
      | true =>
          have deallocates := clean old current rfl
          rw [← ObservedConfig.dealloc_eq_none_iff] at deallocates
          rcases Option.ne_none_iff_exists'.mp deallocates with ⟨gone, deallocated⟩
          refine ⟨{ serviceConfig := some serviceConfig
                    system := service.system.write old gone }, ?_, rfl, ?_⟩
          · simp only [superSetServiceConfig, current, deallocated]
          · intro other kept
            have different : other ≠ old := by
              intro same
              cases kept (congrArg some same.symm)
            exact Heap.read_modify_of_ne different fun _ => gone

theorem superSetServiceConfig_current (service : ConfiguredService Delegate)
    (serviceConfig : Ref (ObservedConfig Delegate)) (releasesLast : Bool) :
    (service.superSetServiceConfig serviceConfig releasesLast).1.serviceConfig =
      some serviceConfig := by
  dsimp only [superSetServiceConfig]
  split
  · split <;> rfl
  · rfl

/-- What configurations say does not change. -/
theorem superSetServiceConfig_config (service : ConfiguredService Delegate)
    (serviceConfig other : Ref (ObservedConfig Delegate)) (releasesLast : Bool) :
    (service.superSetServiceConfig serviceConfig releasesLast).1.config other =
      service.config other := by
  dsimp only [superSetServiceConfig]
  split
  next old _ =>
    split
    next => rfl
    next gone deallocated =>
      by_cases same : other = old
      · subst same
        rw [config, ServiceConfigs.write, Heap.read_modify_self,
          ObservedConfig.dealloc_config deallocated, config]
      · rw [config, ServiceConfigs.write, Heap.read_modify_of_ne same, config]
  next => rfl

/-! ## Copying a configuration -/

theorem addObservers_config (observed : ObservedConfig Delegate) :
    observed.addObservers.config = observed.config ∧
      observed.addObservers.delegate = observed.delegate := by
  rw [ObservedConfig.addObservers, ObservedConfig.addSuperObservers]
  cases observed.hasObservers <;> exact ⟨rfl, rfl⟩

/-- A copy takes the delegate. -/
theorem copyOf_setDelegate (subclass : ServiceConfigClass) (source : ServiceConfig)
    (delegate : Option Delegate) :
    ∃ copy, (ObservedConfig.copyOf subclass source).setDelegate delegate = some copy ∧
      copy.config = { source with subclass := subclass.unset } ∧
      copy.delegate = delegate := by
  cases delegate with
  | none => exact ⟨_, rfl, rfl, rfl⟩
  | some delegate =>
      exact ⟨_, rfl, addObservers_config _⟩

/-- A configuration of the base class gives its delegate away without an exception. -/
theorem setDelegate_none_base {observed : ObservedConfig Delegate}
    (base : observed.config.subclass = .serviceConfig) :
    ∃ cleared, observed.setDelegate none = some cleared := by
  apply Option.ne_none_iff_exists'.mp
  intro raised
  have unregistered := (ObservedConfig.dealloc_eq_none_iff observed).mp
    (by rw [ObservedConfig.dealloc, raised, Option.map_none])
  rcases unregistered with ⟨_, keyPath, added, _⟩
  rw [base] at added
  cases added

/-- A copy of a configuration of the base class is a new object, and besides it only the
source changes. -/
theorem initWithServiceConfig_base (system : ServiceConfigs Delegate)
    (subclass : ServiceConfigClass) {source : Ref (ObservedConfig Delegate)}
    (base : (system.configs.read source).config.subclass = .serviceConfig) :
    ∃ after, system.initWithServiceConfig subclass source = some after ∧
      (after.configs.read system.configs.fresh).config =
        { (system.configs.read source).config with subclass := subclass.unset } ∧
      (after.configs.read system.configs.fresh).delegate =
        (system.configs.read source).delegate ∧
      ∀ other, system.configs.Allocated other → other ≠ source →
        after.configs.read other = system.configs.read other := by
  rcases copyOf_setDelegate subclass (system.configs.read source).config
    (system.configs.read source).delegate with ⟨copy, copied, content, delegate⟩
  rcases setDelegate_none_base base with ⟨cleared, taken⟩
  refine ⟨(system.write source cleared).allocate copy, ?_, ?_, ?_, ?_⟩
  · simp only [ServiceConfigs.initWithServiceConfig, copied, taken, Option.bind_some,
      Option.map_some]
  · rw [← content]
    exact congrArg ObservedConfig.config (Heap.read_allocate_fresh _ copy)
  · rw [← delegate]
    exact congrArg ObservedConfig.delegate (Heap.read_allocate_fresh _ copy)
  · intro other allocated different
    have written : (system.write source cleared).configs.Allocated other := allocated
    exact (written.read_allocate copy).trans
      (Heap.read_modify_of_ne different fun _ => cleared)

/-! ## Setting a configuration -/

theorem setServiceConfig_of_wouldLoseKey {platform : PlatformConfigs}
    {service : ConfiguredService Delegate} {serviceConfig : Ref (ObservedConfig Delegate)}
    (lose : service.WouldLoseKey platform serviceConfig) (onlyOwner : Bool) :
    service.setServiceConfig platform serviceConfig onlyOwner =
      (service, some (.internalInconsistency platform.reason)) := by
  simp only [setServiceConfig, lose.1, lose.2, Option.isSome_none, Bool.not_false,
    Bool.and_true, if_true, ite_self]

/-- A configuration of the platform's class is stored itself. -/
theorem setServiceConfig_kind {platform : PlatformConfigs}
    {service : ConfiguredService Delegate} {serviceConfig : Ref (ObservedConfig Delegate)}
    (keeps : ¬ service.WouldLoseKey platform serviceConfig)
    (kind : platform.isKindOfClass (service.config serviceConfig).subclass = true)
    (onlyOwner : Bool) :
    service.setServiceConfig platform serviceConfig onlyOwner =
      service.superSetServiceConfig serviceConfig
        (onlyOwner && decide (service.serviceConfig ≠ some serviceConfig)) := by
  rw [WouldLoseKey, not_and] at keeps
  have notLost : ((service.key platform).isSome &&
      !(platform.key (service.config serviceConfig)).isSome) = false := by
    cases held : (service.key platform).isSome with
    | false => rfl
    | true =>
        rw [Bool.true_and, Bool.not_eq_false', Option.isSome_iff_ne_none]
        exact keeps held
  simp only [setServiceConfig, kind, if_true, notLost, Bool.false_eq_true, if_false]

/-- Another configuration is copied. -/
theorem setServiceConfig_copies {platform : PlatformConfigs}
    {service : ConfiguredService Delegate} {serviceConfig : Ref (ObservedConfig Delegate)}
    (keeps : ¬ service.WouldLoseKey platform serviceConfig)
    (other : platform.isKindOfClass (service.config serviceConfig).subclass = false)
    {system : ServiceConfigs Delegate}
    (copied : service.system.initWithServiceConfig platform.subclass serviceConfig =
      some system) (onlyOwner : Bool) :
    service.setServiceConfig platform serviceConfig onlyOwner =
      { service with system }.superSetServiceConfig service.system.configs.fresh
        (onlyOwner && decide (service.serviceConfig ≠ some serviceConfig)) := by
  have none : (service.key platform).isSome = false := by
    rw [Bool.eq_false_iff]
    intro held
    exact keeps ⟨held, platform.key_other _ other⟩
  simp only [setServiceConfig, other, none, copied, Bool.false_eq_true, if_false]

/-- The replaced configuration is released for the last time only if it is another one
and the service its only owner. -/
theorem releasesLast_iff (service : ConfiguredService Delegate)
    {serviceConfig old : Ref (ObservedConfig Delegate)}
    (current : service.serviceConfig = some old) (onlyOwner : Bool) :
    (onlyOwner && decide (service.serviceConfig ≠ some serviceConfig)) = true ↔
      onlyOwner = true ∧ old ≠ serviceConfig := by
  rw [current]
  simp

theorem setServiceConfig_not_clean {platform : PlatformConfigs}
    {service : ConfiguredService Delegate} {serviceConfig : Ref (ObservedConfig Delegate)}
    {onlyOwner : Bool} (unclean : ¬ service.ReleasesCleanly serviceConfig onlyOwner)
    (allocated : ∀ old, service.serviceConfig = some old →
      service.system.configs.Allocated old)
    (domain : (service.config serviceConfig).subclass = .serviceConfig ∨
      platform.isKindOfClass (service.config serviceConfig).subclass = true) :
    (service.setServiceConfig platform serviceConfig onlyOwner).2.isSome = true := by
  by_cases lose : service.WouldLoseKey platform serviceConfig
  · rw [setServiceConfig_of_wouldLoseKey lose]
    rfl
  · simp only [ReleasesCleanly, not_forall, not_not] at unclean
    rcases unclean with ⟨only, old, current, different, unregistered⟩
    have last := (service.releasesLast_iff current onlyOwner).mpr ⟨only, different⟩
    cases kind : platform.isKindOfClass (service.config serviceConfig).subclass with
    | true =>
        rw [setServiceConfig_kind lose kind, last,
          superSetServiceConfig_unregistered current unregistered]
        rfl
    | false =>
        have base := domain.resolve_right (by rw [kind]; exact Bool.false_ne_true)
        rcases initWithServiceConfig_base service.system platform.subclass base with
          ⟨system, copied, _, _, others⟩
        rw [setServiceConfig_copies lose kind copied, last,
          @superSetServiceConfig_unregistered _ { service with system } old current
            (by rw [others old (allocated old current) different]; exact unregistered)]
        rfl

theorem setServiceConfig_clean {platform : PlatformConfigs}
    {service : ConfiguredService Delegate} {serviceConfig : Ref (ObservedConfig Delegate)}
    {onlyOwner : Bool} (keeps : ¬ service.WouldLoseKey platform serviceConfig)
    (clean : service.ReleasesCleanly serviceConfig onlyOwner)
    (allocated : ∀ old, service.serviceConfig = some old →
      service.system.configs.Allocated old)
    (domain : (service.config serviceConfig).subclass = .serviceConfig ∨
      platform.isKindOfClass (service.config serviceConfig).subclass = true) :
    ∃ after, service.setServiceConfig platform serviceConfig onlyOwner = (after, none) ∧
      service.Installs platform after serviceConfig := by
  have last : ∀ old, service.serviceConfig = some old →
      (onlyOwner && decide (service.serviceConfig ≠ some serviceConfig)) = true →
        old ≠ serviceConfig ∧ ¬ (service.system.configs.read old).Unregistered := by
    intro old current released
    rcases (service.releasesLast_iff current onlyOwner).mp released with ⟨only, different⟩
    exact ⟨different, clean only old current different⟩
  cases kind : platform.isKindOfClass (service.config serviceConfig).subclass with
  | true =>
      rw [setServiceConfig_kind keeps kind]
      rcases superSetServiceConfig_stores
        (fun old current released => (last old current released).2) serviceConfig with
        ⟨after, stores, current, others⟩
      have own := others serviceConfig (fun same => by simp [same])
      have content : after.config serviceConfig = service.config serviceConfig :=
        congrArg ObservedConfig.config own
      refine ⟨after, stores, serviceConfig, current, ?_⟩
      rw [content, own]
      exact ⟨kind, rfl, rfl, rfl, rfl, rfl, rfl⟩
  | false =>
      have base := domain.resolve_right (by rw [kind]; exact Bool.false_ne_true)
      rcases initWithServiceConfig_base service.system platform.subclass base with
        ⟨system, copied, content, delegate, others⟩
      rw [setServiceConfig_copies keeps kind copied]
      have lastCopied : ∀ old, service.serviceConfig = some old →
          (onlyOwner && decide (service.serviceConfig ≠ some serviceConfig)) = true →
            ¬ (system.configs.read old).Unregistered := by
        intro old current released
        rcases last old current released with ⟨different, registered⟩
        rw [others old (allocated old current) different]
        exact registered
      have other : ∀ old, service.serviceConfig = some old →
          old ≠ service.system.configs.fresh :=
        fun old current => (allocated old current).ne_fresh
      rcases @superSetServiceConfig_stores _ { service with system } _ lastCopied
        service.system.configs.fresh with ⟨after, stores, current, kept⟩
      have own := kept _ (fun same => absurd rfl (other _ same))
      have copy : after.config service.system.configs.fresh =
          { service.config serviceConfig with subclass := platform.subclass.unset } :=
        (congrArg ObservedConfig.config own).trans content
      refine ⟨after, stores, service.system.configs.fresh, current, ?_⟩
      rw [copy, own, platform.key_copy, platform.key_other _ kind]
      exact ⟨platform.isKindOfClass_subclass, rfl, rfl, rfl, rfl, rfl, delegate⟩

/-- The setter does what it is to do exactly if it refuses the configuration or releases
its old one cleanly. -/
theorem setsOrRefuses_iff {platform : PlatformConfigs}
    {service : ConfiguredService Delegate} {serviceConfig : Ref (ObservedConfig Delegate)}
    (allocated : ∀ old, service.serviceConfig = some old →
      service.system.configs.Allocated old)
    (domain : (service.config serviceConfig).subclass = .serviceConfig ∨
      platform.isKindOfClass (service.config serviceConfig).subclass = true)
    (onlyOwner : Bool) :
    service.SetsOrRefuses platform serviceConfig
        (service.setServiceConfig platform serviceConfig onlyOwner) ↔
      (¬ service.WouldLoseKey platform serviceConfig →
        service.ReleasesCleanly serviceConfig onlyOwner) := by
  constructor
  · intro sets keeps
    by_contra unclean
    exact keeps (sets.1.mp (setServiceConfig_not_clean unclean allocated domain))
  · intro clean
    by_cases lose : service.WouldLoseKey platform serviceConfig
    · rw [setServiceConfig_of_wouldLoseKey lose]
      exact ⟨iff_of_true rfl lose, fun _ => rfl, fun impossible => by cases impossible⟩
    · rcases setServiceConfig_clean lose (clean lose) allocated domain with
        ⟨after, set, installs⟩
      rw [set]
      refine ⟨iff_of_false Bool.false_ne_true lose, ?_, fun _ => installs⟩
      intro impossible
      cases impossible

/-! ## Keys -/

/-- Whatever the setter raises, a key is followed by a key. -/
theorem key_setServiceConfig (platform : PlatformConfigs)
    {service : ConfiguredService Delegate} (held : (service.key platform).isSome = true)
    (serviceConfig : Ref (ObservedConfig Delegate)) (onlyOwner : Bool) :
    ((service.setServiceConfig platform serviceConfig onlyOwner).1.key
      platform).isSome = true := by
  by_cases lose : service.WouldLoseKey platform serviceConfig
  · rw [setServiceConfig_of_wouldLoseKey lose]
    exact held
  · have keyed : platform.key (service.config serviceConfig) ≠ none :=
      fun none => lose ⟨held, none⟩
    have kind : platform.isKindOfClass (service.config serviceConfig).subclass = true := by
      by_contra other
      exact keyed (platform.key_other _ (Bool.not_eq_true _ ▸ other))
    rw [setServiceConfig_kind lose kind, key, superSetServiceConfig_current,
      Option.map_some, Option.bind_some, superSetServiceConfig_config]
    exact Option.isSome_iff_ne_none.mpr keyed

theorem key_setServiceConfigs (kind : KeyedService) :
    ∀ {service : ConfiguredService Delegate}
      (calls : List (Ref (ObservedConfig Delegate) × Bool)),
      (service.key kind.platform).isSome = true →
        ((service.setServiceConfigs kind calls).key kind.platform).isSome = true
  | _, [], held => held
  | service, call :: calls, held => by
      have next := key_setServiceConfig kind.platform held call.1 call.2
      rw [← kind.setServiceConfig_eq] at next
      exact key_setServiceConfigs kind calls next

/-- A setter does what it is to do exactly if it refuses the configuration or releases
its old one cleanly; and in no case is a key lost, over any sequence of calls. -/
theorem keyedService_setServiceConfig_iff (kind : KeyedService)
    {service : ConfiguredService Delegate} {serviceConfig : Ref (ObservedConfig Delegate)}
    (allocated : ∀ old, service.serviceConfig = some old →
      service.system.configs.Allocated old)
    (domain : (service.config serviceConfig).subclass = .serviceConfig ∨
      kind.platform.isKindOfClass (service.config serviceConfig).subclass = true)
    (onlyOwner : Bool) :
    (service.SetsOrRefuses kind.platform serviceConfig
        (kind.setServiceConfig service serviceConfig onlyOwner) ↔
      (¬ service.WouldLoseKey kind.platform serviceConfig →
        service.ReleasesCleanly serviceConfig onlyOwner)) ∧
      ∀ calls, (service.key kind.platform).isSome = true →
        ((service.setServiceConfigs kind calls).key kind.platform).isSome = true := by
  rw [kind.setServiceConfig_eq]
  exact ⟨setsOrRefuses_iff allocated domain onlyOwner, key_setServiceConfigs kind⟩

/-- A paired service that only it holds a configuration of takes a new key. -/
theorem keyedService_setServiceConfig_paired :
    let paired : ServiceConfig := { subclass := .webOSTVServiceConfig (some "key") none }
    let service : ConfiguredService String :=
      { serviceConfig := some ⟨0⟩
        system := (({} : ServiceConfigs String).allocate { config := paired }).allocate
          { config := { paired with uuid := some "66be8e5d" }, delegate := some "manager" } }
    service.SetsOrRefuses webOSTVServiceConfigs ⟨1⟩
      (WebOSTVService.setServiceConfig service ⟨1⟩ true) := by
  intro paired service
  refine (keyedService_setServiceConfig_iff .webOSTVService ?_ (Or.inr rfl) true).1.mpr ?_
  · intro old current
    cases current
    decide
  · intro _ _ old current _ unregistered
    cases current
    cases unregistered.1

/-- A configuration that lost its delegate raises an exception when it is replaced. -/
theorem setServiceConfig_stale_delegate :
    ∃ system, runFrom ServiceConfigs.step ({} : ServiceConfigs String)
        [.create { subclass := .webOSTVServiceConfig none none },
          .setDelegate ⟨0⟩ (some "manager"), .setDelegate ⟨0⟩ none, .create {}] =
        some system ∧
      ¬ ({ serviceConfig := some ⟨0⟩, system } : ConfiguredService String).SetsOrRefuses
        webOSTVServiceConfigs ⟨1⟩
        (WebOSTVService.setServiceConfig { serviceConfig := some ⟨0⟩, system } ⟨1⟩ true) := by
  refine ⟨_, rfl, ?_⟩
  intro sets
  have lose := (sets.1.mp rfl).1
  cases lose

end ConfiguredService

end ConnectSDK
