import ConnectSDK.Discovery.ZeroConfDiscoveryProvider

/-! # Services that resolve

A service should be announced only while the browser still has it and the provider runs.
The end of a resolve asks neither: it announces whatever has an address.
-/

namespace ConnectSDK

/-- The provider, and whether the last the browser said of a name was that it found it. -/
structure ZeroConfWatch where
  provider : ZeroConfDiscoveryProvider
  present : String → Bool := fun _ => false

namespace ZeroConfWatch

/-- What the browser has said after an event. -/
def browsed (watch : ZeroConfWatch) : ZeroConfEvent → String → Bool
  | .didFindService service => fun name =>
      if name = service.name then true else watch.present name
  | .didRemoveService service => fun name =>
      if name = service.name then false else watch.present name
  | _ => watch.present

theorem browsed_didFindService (watch : ZeroConfWatch) (service : NSNetService)
    (name : String) : watch.browsed (.didFindService service) name =
      if name = service.name then true else watch.present name := rfl

theorem browsed_didRemoveService (watch : ZeroConfWatch) (service : NSNetService)
    (name : String) : watch.browsed (.didRemoveService service) name =
      if name = service.name then false else watch.present name := rfl

def step (watch : ZeroConfWatch) (event : ZeroConfEvent) : Option ZeroConfWatch :=
  (watch.provider.step event).map fun next =>
    { provider := next, present := watch.browsed event }

/-- Whatever comes next announces as found only what the browser has, and that only while
discovery runs. -/
def AnnouncesPresent (watch : ZeroConfWatch) : Prop :=
  ∀ event next, watch.step event = some next → ∀ service,
    .didFindService service ∈
        next.provider.announcements.drop watch.provider.announcements.length →
      watch.provider.isRunning = true ∧
        ∃ name, service.friendlyName = some name ∧ watch.present name = true

/-- Every resolve is of a service the browser has, and discovery runs. -/
def ResolvesPresent (watch : ZeroConfWatch) : Prop :=
  ∀ service ∈ watch.provider.resolves,
    watch.provider.isRunning = true ∧ watch.present service.name = true

/-- Discovery does not stop, and no service leaves, before its resolve is over; and
resolves start only while discovery runs. -/
def AwaitsResolves (watch : ZeroConfWatch) : ZeroConfEvent → Prop
  | .stopDiscovery => watch.provider.isRunning = true → watch.provider.resolves = []
  | .didFindService service =>
      watch.provider.knows service.name = false → watch.provider.isRunning = true
  | .didRemoveService service =>
      ∀ resolving ∈ watch.provider.resolves, resolving.name ≠ service.name
  | _ => True

instance (watch : ZeroConfWatch) (event : ZeroConfEvent) :
    Decidable (watch.AwaitsResolves event) := by
  cases event <;> unfold AwaitsResolves <;> infer_instance

end ZeroConfWatch

/-! ## What the steps do -/

namespace ZeroConfDiscoveryProvider

theorem startDiscovery_effects (provider : ZeroConfDiscoveryProvider) :
    provider.startDiscovery.isRunning = true ∧
      provider.startDiscovery.resolves = provider.resolves ∧
      provider.startDiscovery.announcements = provider.announcements := by
  cases running : provider.isRunning <;> simp [startDiscovery, running]

theorem stopDiscovery_effects (provider : ZeroConfDiscoveryProvider) :
    provider.stopDiscovery.isRunning = false ∧
      provider.stopDiscovery.resolves = provider.resolves ∧
      provider.stopDiscovery.announcements = provider.announcements := by
  cases running : provider.isRunning <;> simp [stopDiscovery, running]

theorem didFindService_effects (provider : ZeroConfDiscoveryProvider)
    (service : NSNetService) :
    (provider.didFindService service).isRunning = provider.isRunning ∧
      (provider.didFindService service).resolves =
        (if provider.knows service.name then provider.resolves
        else provider.resolves ++ [service]) ∧
      (provider.didFindService service).announcements = provider.announcements := by
  cases known : provider.knows service.name <;> simp [didFindService, known]

theorem didRemoveService_effects (provider : ZeroConfDiscoveryProvider)
    (service : NSNetService) :
    (provider.didRemoveService service).isRunning = provider.isRunning ∧
      (provider.didRemoveService service).resolves = provider.resolves ∧
      ((provider.didRemoveService service).announcements = provider.announcements ∨
        ∃ description, (provider.didRemoveService service).announcements =
          provider.announcements ++ [.didLoseService description]) := by
  cases held : objectForKey provider.discoveredDevices service.name <;>
    simp [didRemoveService, held]

/-- A resolve ends with an announcement exactly when it has an address of IPv4. -/
theorem netServiceDidResolveAddress_effects {provider next : ZeroConfDiscoveryProvider}
    {sender : NSNetService} {addresses : List (Option (String × Nat))}
    {txtRecord : Option String}
    (taken : provider.netServiceDidResolveAddress sender addresses txtRecord = some next) :
    next.isRunning = provider.isRunning ∧ next.resolves = provider.resolves ∧
      (next.announcements = provider.announcements ∨
        ∃ service, service.friendlyName = some sender.name ∧
          next.announcements = provider.announcements ++ [.didFindService service]) := by
  unfold netServiceDidResolveAddress at taken
  cases found : addresses.findSome? id with
  | none =>
      rw [found] at taken
      cases taken
      exact ⟨rfl, rfl, .inl rfl⟩
  | some location =>
      rw [found] at taken
      rcases Option.map_eq_some_iff.mp taken with ⟨uuid, read, same⟩
      cases same
      exact ⟨rfl, rfl, .inr ⟨_, rfl, rfl⟩⟩

/-- The resolve that an event ends. -/
def endedResolve : ZeroConfEvent → Option Nat
  | .netServiceDidResolveAddress index _ _ => some index
  | .didNotResolve index => some index
  | _ => none

theorem step_unpending {provider : ZeroConfDiscoveryProvider} {event : ZeroConfEvent}
    {index : Nat} (ended : endedResolve event = some index)
    (pending : provider.resolves[index]? = none) : provider.step event = some provider := by
  cases event with
  | netServiceDidResolveAddress index addresses txtRecord =>
      cases ended
      simp only [step, pending]
  | didNotResolve index =>
      cases ended
      simp only [step, pending]
  | _ => cases ended

/-- The end of a resolve takes it off the list, if it is there. -/
theorem step_ended {provider next : ZeroConfDiscoveryProvider} {event : ZeroConfEvent}
    {index : Nat} (ended : endedResolve event = some index)
    (taken : provider.step event = some next) :
    next.isRunning = provider.isRunning ∧
      next.resolves = provider.resolves.eraseIdx index ∧
      (next.announcements = provider.announcements ∨
        ∃ service, ∃ sender ∈ provider.resolves,
          service.friendlyName = some sender.name ∧
          next.announcements = provider.announcements ++ [.didFindService service]) := by
  cases pending : provider.resolves[index]? with
  | none =>
      have short := List.getElem?_eq_none_iff.mp pending
      rw [step_unpending ended pending] at taken
      cases taken
      rw [List.eraseIdx_of_length_le short]
      exact ⟨rfl, rfl, .inl rfl⟩
  | some sender =>
      cases event with
      | netServiceDidResolveAddress index addresses txtRecord =>
          cases ended
          simp only [step, pending] at taken
          rcases netServiceDidResolveAddress_effects taken with ⟨running, resolves, log⟩
          refine ⟨running, resolves, log.imp_right ?_⟩
          intro found
          rcases found with ⟨service, name, log⟩
          exact ⟨service, sender, List.mem_of_getElem? pending, name, log⟩
      | didNotResolve index =>
          cases ended
          simp only [step, pending, Option.some.injEq] at taken
          cases taken
          exact ⟨rfl, rfl, .inl rfl⟩
      | _ => cases ended

/-- Whatever a step announces as found was resolving before it. -/
theorem found_of_step {provider next : ZeroConfDiscoveryProvider} {event : ZeroConfEvent}
    (taken : provider.step event = some next) {service : ServiceDescription}
    (announced : .didFindService service ∈
      next.announcements.drop provider.announcements.length) :
    ∃ sender ∈ provider.resolves, service.friendlyName = some sender.name := by
  have silent : next.announcements = provider.announcements →
      ∃ sender ∈ provider.resolves, service.friendlyName = some sender.name := by
    intro log
    rw [log, List.drop_length] at announced
    cases announced
  cases ended : endedResolve event with
  | some index =>
      rcases (step_ended ended taken).2.2 with log | ⟨found, sender, member, name, log⟩
      · exact silent log
      · rw [log, List.drop_left, List.mem_singleton] at announced
        cases announced
        exact ⟨sender, member, name⟩
  | none =>
      cases event with
      | startDiscovery =>
          cases taken
          exact silent provider.startDiscovery_effects.2.2
      | stopDiscovery =>
          cases taken
          exact silent provider.stopDiscovery_effects.2.2
      | didFindService found =>
          cases taken
          exact silent (provider.didFindService_effects found).2.2
      | didRemoveService removed =>
          cases taken
          rcases (provider.didRemoveService_effects removed).2.2 with log | ⟨lost, log⟩
          · exact silent log
          · rw [log, List.drop_left, List.mem_singleton] at announced
            cases announced
      | netServiceDidResolveAddress index addresses txtRecord => cases ended
      | didNotResolve index => cases ended

/-- A resolve in flight is announced when it ends with an address. -/
theorem step_resolved {provider : ZeroConfDiscoveryProvider} {index : Nat}
    {sender : NSNetService} (pending : provider.resolves[index]? = some sender)
    (address : String) (port : Nat) :
    ∃ next service,
      provider.step (.netServiceDidResolveAddress index [some (address, port)] none) =
        some next ∧
      service.friendlyName = some sender.name ∧
      next.announcements = provider.announcements ++ [.didFindService service] := by
  simp only [step, pending]
  exact ⟨_, _, rfl, rfl, rfl⟩

end ZeroConfDiscoveryProvider

/-! ## Which runs announce only what is there -/

namespace ZeroConfWatch

theorem step_eq_some {watch next : ZeroConfWatch} {event : ZeroConfEvent}
    (taken : watch.step event = some next) :
    watch.provider.step event = some next.provider ∧
      next.present = watch.browsed event := by
  rcases Option.map_eq_some_iff.mp taken with ⟨provider, reacted, same⟩
  cases same
  exact ⟨reacted, rfl⟩

theorem announcesPresent_iff (watch : ZeroConfWatch) :
    watch.AnnouncesPresent ↔ watch.ResolvesPresent := by
  constructor
  · intro announces sender member
    rcases List.mem_iff_getElem?.mp member with ⟨index, pending⟩
    rcases ZeroConfDiscoveryProvider.step_resolved pending "10.0.0.1" 80 with
      ⟨provider, service, reacted, named, log⟩
    have taken := congrArg (Option.map fun next : ZeroConfDiscoveryProvider =>
      ({ provider := next, present := watch.present } : ZeroConfWatch)) reacted
    have announced : .didFindService service ∈
        provider.announcements.drop watch.provider.announcements.length := by
      rw [log, List.drop_left]
      exact List.mem_singleton.mpr rfl
    rcases announces _ _ taken service announced with ⟨running, name, same, present⟩
    cases Option.some.inj (named.symm.trans same)
    exact ⟨running, present⟩
  · intro resolves event next taken service announced
    rcases ZeroConfDiscoveryProvider.found_of_step (step_eq_some taken).1 announced with
      ⟨sender, member, named⟩
    rcases resolves sender member with ⟨running, present⟩
    exact ⟨running, sender.name, named, present⟩

/-- From a state whose resolves are all of present services, a step leads to another one
exactly when it awaits the resolves. -/
theorem awaitsResolves_iff {watch next : ZeroConfWatch} {event : ZeroConfEvent}
    (resolves : watch.ResolvesPresent) (taken : watch.step event = some next) :
    watch.AwaitsResolves event ↔ next.ResolvesPresent := by
  rcases step_eq_some taken with ⟨reacted, browsed⟩
  have shrinks : ∀ {index}, ZeroConfDiscoveryProvider.endedResolve event = some index →
      next.present = watch.present → next.ResolvesPresent := by
    intro index ended present sender member
    rcases ZeroConfDiscoveryProvider.step_ended ended reacted with ⟨running, rest, _⟩
    rw [rest] at member
    rw [running, present]
    exact resolves sender (List.mem_of_mem_eraseIdx member)
  cases event with
  | startDiscovery =>
      have effects := watch.provider.startDiscovery_effects
      rw [Option.some.inj reacted] at effects
      refine iff_of_true trivial fun sender member => ?_
      rw [effects.2.1] at member
      rw [browsed]
      exact ⟨effects.1, (resolves sender member).2⟩
  | stopDiscovery =>
      have effects := watch.provider.stopDiscovery_effects
      rw [Option.some.inj reacted] at effects
      constructor
      · intro awaits sender member
        rw [effects.2.1] at member
        rw [awaits (resolves sender member).1] at member
        cases member
      · intro present running
        apply List.eq_nil_iff_forall_not_mem.mpr
        intro sender member
        have still := (present sender (effects.2.1 ▸ member)).1
        rw [effects.1] at still
        cases still
  | didFindService service =>
      have effects := watch.provider.didFindService_effects service
      rw [Option.some.inj reacted] at effects
      have kept : ∀ sender ∈ watch.provider.resolves,
          next.provider.isRunning = true ∧ next.present sender.name = true := by
        intro sender member
        rcases resolves sender member with ⟨running, present⟩
        rw [effects.1, browsed, browsed_didFindService, present]
        exact ⟨running, ite_self _⟩
      cases known : watch.provider.knows service.name with
      | true =>
          rw [known, if_pos rfl] at effects
          refine iff_of_true (fun unknown => ?_) fun sender member => ?_
          · cases known.symm.trans unknown
          · rw [effects.2.1] at member
            exact kept sender member
      | false =>
          rw [known, if_neg Bool.false_ne_true] at effects
          constructor
          · intro awaits sender member
            rw [effects.2.1] at member
            rcases List.mem_append.mp member with old | new
            · exact kept sender old
            · cases List.mem_singleton.mp new
              rw [effects.1, browsed, browsed_didFindService]
              exact ⟨awaits known, if_pos rfl⟩
          · intro present _
            rw [← effects.1]
            exact (present service (by simp [effects.2.1])).1
  | didRemoveService service =>
      have effects := watch.provider.didRemoveService_effects service
      rw [Option.some.inj reacted] at effects
      constructor
      · intro awaits sender member
        rw [effects.2.1] at member
        rw [effects.1, browsed, browsed_didRemoveService, if_neg (awaits sender member)]
        exact resolves sender member
      · intro present sender member same
        have still := (present sender (effects.2.1 ▸ member)).2
        rw [browsed, browsed_didRemoveService, if_pos same] at still
        cases still
  | netServiceDidResolveAddress index addresses txtRecord =>
      exact iff_of_true trivial (shrinks rfl browsed)
  | didNotResolve index => exact iff_of_true trivial (shrinks rfl browsed)

/-- In every state a run reaches only what the browser has will be announced, and only
while discovery runs, exactly as long as the run awaits its resolves. -/
theorem run_announcesPresent_iff {serviceFilters : List ZeroConfServiceFilter}
    {events : List ZeroConfEvent} {final : ZeroConfWatch}
    (reached : runFrom step { provider := { serviceFilters } } events = some final) :
    EveryStep step AwaitsResolves { provider := { serviceFilters } } events ↔
      Throughout step AnnouncesPresent { provider := { serviceFilters } } events := by
  have always : ∀ watch event next, True → step watch event = some next → True :=
    fun _ _ _ _ _ => trivial
  refine everyStep_iff_throughout always ?_ trivial ?_ reached
  · intro watch event next _ announces taken
    have resolves := watch.announcesPresent_iff.mp announces
    exact (awaitsResolves_iff resolves taken).trans next.announcesPresent_iff.symm
  · apply (announcesPresent_iff _).mpr
    intro sender member
    cases member

/-- A service that is found, resolved and removed is never announced while it is away. -/
theorem run_announcesPresent_removed :
    Throughout step AnnouncesPresent
      { provider := { serviceFilters := [⟨some "AirPlay", "_airplay._tcp"⟩] } }
      [.startDiscovery, .didFindService ⟨"TV", "_airplay._tcp."⟩,
        .netServiceDidResolveAddress 0 [none, some ("10.0.0.2", 7000)] (some ""),
        .didRemoveService ⟨"TV", "_airplay._tcp."⟩, .stopDiscovery] := by
  have completes : (runFrom step
      { provider := { serviceFilters := [⟨some "AirPlay", "_airplay._tcp"⟩] } }
      [.startDiscovery, .didFindService ⟨"TV", "_airplay._tcp."⟩,
        .netServiceDidResolveAddress 0 [none, some ("10.0.0.2", 7000)] (some ""),
        .didRemoveService ⟨"TV", "_airplay._tcp."⟩, .stopDiscovery]).isSome := by
    decide +kernel
  rcases Option.isSome_iff_exists.mp completes with ⟨final, reached⟩
  exact (run_announcesPresent_iff reached).mp (by decide +kernel)

/-- A service that is removed while it resolves is announced all the same. -/
theorem removed_service_announced : ∃ removed announced : ZeroConfWatch, ∃ service,
    runFrom step
        { provider := { serviceFilters := [⟨some "AirPlay", "_airplay._tcp"⟩] } }
        [.startDiscovery, .didFindService ⟨"TV", "_airplay._tcp."⟩,
          .didRemoveService ⟨"TV", "_airplay._tcp."⟩] = some removed ∧
      removed.present "TV" = false ∧
      removed.step (.netServiceDidResolveAddress 0 [some ("10.0.0.2", 7000)] (some "")) =
        some announced ∧
      announced.provider.announcements = [.didFindService service] ∧
      service.friendlyName = some "TV" ∧ ¬ removed.AnnouncesPresent := by
  refine ⟨_, _, _, rfl, rfl, rfl, rfl, rfl, fun announces => ?_⟩
  have resolves := (announcesPresent_iff _).mp announces
  have present := (resolves ⟨"TV", "_airplay._tcp."⟩ (by decide +kernel)).2
  cases present

end ZeroConfWatch

end ConnectSDK
