import ConnectSDK.Discovery.SSDPAnnouncements

/-! # Devices that leave

A device that said goodbye should not be found afterwards. The goodbye looks for it in
`_foundServices` only: a description that is still loading goes on.
-/

namespace ConnectSDK

/-- The provider, and for each UUID that said goodbye and has not been heard of since how
much had been announced by then. -/
structure SSDPWatch where
  provider : SSDPDiscoveryProvider
  departed : Dictionary String Nat := ∅

namespace SSDPWatch

/-- The UUIDs that are gone after an event. -/
def departs (watch : SSDPWatch) (next : SSDPDiscoveryProvider) :
    SSDPEvent → Dictionary String Nat
  | .didReceiveData message _ _ =>
      match watch.provider.hears message with
      | none => watch.departed
      | some (uuid, _) =>
          if message.isByebye then
            watch.departed.insert uuid next.announcements.length
          else watch.departed.erase uuid
  | _ => watch.departed

def step (watch : SSDPWatch) (event : SSDPEvent) : Option SSDPWatch :=
  (watch.provider.step event).map fun next =>
    { provider := next, departed := watch.departs next event }

/-- What is gone is not found, and was not announced as found since. -/
def StaysGone (watch : SSDPWatch) : Prop :=
  ∀ uuid count, watch.departed.lookup uuid = some count →
    watch.provider.foundServices.lookup uuid = none ∧
      ∀ announcement ∈ watch.provider.announcements.drop count,
        ¬ announcement.Finds uuid

/-- No description is completed of a device that said goodbye while it was loading. -/
def Cancels (watch : SSDPWatch) : SSDPEvent → Prop
  | .locationLoaded index response _ => ∀ load,
      watch.provider.locationLoads[index]? = some load →
      (watch.provider.fittingDevice load.type response).isSome = true →
      (watch.provider.helloDevices.lookup load.uuid).isSome = true →
        watch.departed.lookup load.uuid = none
  | _ => True

instance (watch : SSDPWatch) (event : SSDPEvent) : Decidable (watch.Cancels event) :=
  match event with
  | .didReceiveData .. => isTrue trivial
  | .locationLoaded index response _ =>
      match pending : watch.provider.locationLoads[index]? with
      | none => isTrue fun _ same => by cases pending.symm.trans same
      | some load =>
          decidable_of_iff
            ((watch.provider.fittingDevice load.type response).isSome = true →
              (watch.provider.helloDevices.lookup load.uuid).isSome = true →
                watch.departed.lookup load.uuid = none)
            ⟨fun cancels _ same => by cases pending.symm.trans same; exact cancels,
              fun cancels => cancels load pending⟩
  | .startDiscovery => isTrue trivial
  | .stopDiscovery => isTrue trivial

/-- The announcements of a goodbye are still there. -/
def Counted (watch : SSDPWatch) : Prop :=
  ∀ uuid count, watch.departed.lookup uuid = some count →
    count ≤ watch.provider.announcements.length

theorem StaysGone.of_sent {watch next : SSDPWatch} (gone : watch.StaysGone)
    (counted : watch.Counted) {sent : List SSDPAnnouncement}
    (log : next.provider.announcements = watch.provider.announcements ++ sent)
    (kept : ∀ uuid count, next.departed.lookup uuid = some count →
      watch.departed.lookup uuid = some count ∧
        (watch.provider.foundServices.lookup uuid = none →
          next.provider.foundServices.lookup uuid = none) ∧
        ∀ announcement ∈ sent, ¬ announcement.Finds uuid) : next.StaysGone := by
  intro uuid count left
  rcases kept uuid count left with ⟨before, absent, unfound⟩
  rcases gone uuid count before with ⟨missing, since⟩
  refine ⟨absent missing, ?_⟩
  rw [log, List.drop_append_of_le_length (counted uuid count before)]
  intro announcement member
  rcases List.mem_append.mp member with old | new
  · exact since announcement old
  · exact unfound announcement new

theorem departs_byebye {watch : SSDPWatch} {next : SSDPDiscoveryProvider}
    {message : SSDPMessage} {uuid type : String}
    (heard : watch.provider.hears message = some (uuid, type))
    (leaves : message.isByebye = true) (address : String) (now : TimeInterval) :
    watch.departs next (.didReceiveData message address now) =
      watch.departed.insert uuid next.announcements.length := by
  rw [departs, heard]
  exact if_pos leaves

theorem departs_alive {watch : SSDPWatch} {next : SSDPDiscoveryProvider}
    {message : SSDPMessage} {uuid type : String}
    (heard : watch.provider.hears message = some (uuid, type))
    (stays : message.isByebye = false) (address : String) (now : TimeInterval) :
    watch.departs next (.didReceiveData message address now) = watch.departed.erase uuid := by
  rw [departs, heard]
  exact if_neg (Bool.eq_false_iff.mp stays)

/-- A goodbye takes the device out of the found ones. -/
theorem StaysGone.left {watch : SSDPWatch} (gone : watch.StaysGone)
    (counted : watch.Counted) {next : SSDPDiscoveryProvider} {uuid : String}
    {sent : List SSDPAnnouncement}
    (log : next.announcements = watch.provider.announcements ++ sent)
    (unfound : ∀ announcement ∈ sent, ∀ other, ¬ announcement.Finds other)
    (absent : next.foundServices.lookup uuid = none)
    (others : ∀ other, other ≠ uuid →
      next.foundServices.lookup other = watch.provider.foundServices.lookup other) :
    StaysGone { provider := next
                departed := watch.departed.insert uuid next.announcements.length } := by
  intro other count left
  dsimp only at left ⊢
  rw [Dictionary.lookup_insert_eq] at left
  by_cases own : other = uuid
  · rw [if_pos own] at left
    cases left
    rw [own, List.drop_length]
    exact ⟨absent, fun announcement impossible => by cases impossible⟩
  · rw [if_neg own] at left
    rcases gone other count left with ⟨missing, since⟩
    rw [others other own, log, List.drop_append_of_le_length (counted other count left)]
    refine ⟨missing, fun announcement member => ?_⟩
    rcases List.mem_append.mp member with old | new
    · exact since announcement old
    · exact unfound announcement new other

/-- A device that is heard of is not gone, and no other device is found by it. -/
theorem StaysGone.heard {watch : SSDPWatch} (gone : watch.StaysGone)
    {next : SSDPDiscoveryProvider} {uuid : String}
    (log : next.announcements = watch.provider.announcements)
    (others : ∀ other, other ≠ uuid →
      next.foundServices.lookup other = watch.provider.foundServices.lookup other) :
    StaysGone { provider := next, departed := watch.departed.erase uuid } := by
  intro other count left
  dsimp only at left ⊢
  rw [Dictionary.lookup_erase_eq] at left
  by_cases own : other = uuid
  · rw [if_pos own] at left
    cases left
  · rw [if_neg own] at left
    rw [others other own, log]
    exact gone other count left

theorem StaysGone.receives {watch : SSDPWatch} (gone : watch.StaysGone)
    (counted : watch.Counted) {message : SSDPMessage} {address : String}
    {now : TimeInterval} {next : SSDPDiscoveryProvider}
    (receives : watch.provider.Receives message address now next) :
    StaysGone { provider := next
                departed := watch.departs next (.didReceiveData message address now) } := by
  cases receives with
  | ignored unheard =>
      rw [departs, unheard]
      exact gone
  | unknown heard leaves absent =>
      rw [departs_byebye heard leaves]
      apply gone.left counted (List.append_nil _).symm _ absent fun _ _ => rfl
      exact fun announcement impossible => by cases impossible
  | @lost uuid type service services heard leaves held answer =>
      rw [departs_byebye heard leaves]
      apply gone.left counted rfl
      · intro announcement member other finds
        rw [List.mem_singleton.mp member] at finds
        exact finds
      · rw [Dictionary.lookup_erase_eq, if_pos rfl]
      · intro other different
        rw [Dictionary.lookup_erase_eq, if_neg different]
  | nowhere heard stays missing =>
      rw [departs_alive heard stays]
      exact gone.heard rfl fun _ _ => rfl
  | refreshed heard stays located given held =>
      rw [departs_alive heard stays]
      refine gone.heard ?_ ?_
      · rfl
      · intro other different
        rw [Dictionary.lookup_insert_eq, if_neg different]
  | awaited heard stays located given absent held =>
      rw [departs_alive heard stays]
      exact gone.heard rfl fun _ _ => rfl
  | greeted heard stays located given absent fresh =>
      rw [departs_alive heard stays]
      exact gone.heard rfl fun _ _ => rfl

theorem staysGone_loads {watch : SSDPWatch} (gone : watch.StaysGone)
    (counted : watch.Counted) {load : LocationLoad} {response : Option LocationResponse}
    {now : TimeInterval} {loads : List LocationLoad} {next : SSDPDiscoveryProvider}
    (answered : SSDPDiscoveryProvider.Loads { watch.provider with locationLoads := loads }
      load response now next) :
    ((watch.provider.fittingDevice load.type response).isSome = true →
      (watch.provider.helloDevices.lookup load.uuid).isSome = true →
        watch.departed.lookup load.uuid = none) ↔
      StaysGone { provider := next, departed := watch.departed } := by
  cases answered with
  | dismissed unfit =>
      apply iff_of_true
      · intro fits hello
        rcases unfit with unfit | absent
        · have none : watch.provider.fittingDevice load.type response = none := unfit
          rw [none] at fits
          cases fits
        · rw [absent] at hello
          cases hello
      · exact gone.of_sent counted (List.append_nil _).symm fun uuid count left =>
          ⟨left, id, fun announcement impossible => by cases impossible⟩
  | @found answer device hello services fits held copies =>
      have fitting : watch.provider.fittingDevice load.type response =
        some (answer, device) := fits
      rw [fitting, held]
      constructor
      · intro cancels
        refine gone.of_sent counted rfl fun uuid count left => ⟨left, ?_⟩
        have other : uuid ≠ load.uuid := by
          intro own
          dsimp only at left
          rw [own, cancels rfl rfl] at left
          cases left
        constructor
        · intro missing
          dsimp only
          rw [Dictionary.lookup_insert_eq, if_neg other]
          exact missing
        · intro announcement member finds
          rw [List.mem_singleton.mp member] at finds
          exact other (Eq.symm finds)
      · intro stays _ _
        cases left : watch.departed.lookup load.uuid with
        | none => rfl
        | some count =>
            have missing := (stays load.uuid count left).1
            dsimp only at missing
            rw [Dictionary.lookup_insert_eq, if_pos rfl] at missing
            cases missing

theorem announcements_grow {provider next : SSDPDiscoveryProvider} {event : SSDPEvent}
    (stepped : provider.step event = some next) :
    ∃ sent, next.announcements = provider.announcements ++ sent := by
  have silent : ∃ sent, provider.announcements = provider.announcements ++ sent :=
    ⟨[], (List.append_nil _).symm⟩
  cases SSDPDiscoveryProvider.step_reacts stepped with
  | received receives =>
      cases receives with
      | lost heard leaves held answer => exact ⟨_, rfl⟩
      | _ => exact silent
  | unanswered absent => exact silent
  | answered pending loads =>
      cases loads with
      | dismissed unfit => exact silent
      | found fits held copies => exact ⟨_, rfl⟩
  | started => exact silent
  | stopped => exact ⟨_, rfl⟩

theorem Counted.step {watch next : SSDPWatch} {event : SSDPEvent}
    (counted : watch.Counted) (stepped : watch.step event = some next) : next.Counted := by
  rcases Option.map_eq_some_iff.mp stepped with ⟨provider, taken, rfl⟩
  rcases announcements_grow taken with ⟨sent, log⟩
  have grown : ∀ uuid count, watch.departed.lookup uuid = some count →
      count ≤ provider.announcements.length := by
    intro uuid count left
    have before := counted uuid count left
    rw [log, List.length_append]
    omega
  intro uuid count left
  dsimp only at left ⊢
  cases event with
  | didReceiveData message address now =>
      rw [departs] at left
      split at left
      · exact grown uuid count left
      · split at left
        · rw [Dictionary.lookup_insert_eq] at left
          split at left
          · cases left
            exact Nat.le_refl _
          · exact grown uuid count left
        · rw [Dictionary.lookup_erase_eq] at left
          split at left
          · cases left
          · exact grown uuid count left
  | locationLoaded index response now => exact grown uuid count left
  | startDiscovery => exact grown uuid count left
  | stopDiscovery => exact grown uuid count left

theorem cancels_iff {watch next : SSDPWatch} {event : SSDPEvent} (counted : watch.Counted)
    (gone : watch.StaysGone) (stepped : watch.step event = some next) :
    watch.Cancels event ↔ next.StaysGone := by
  rcases Option.map_eq_some_iff.mp stepped with ⟨provider, taken, rfl⟩
  cases SSDPDiscoveryProvider.step_reacts taken with
  | received receives => exact iff_of_true trivial (gone.receives counted receives)
  | unanswered absent =>
      apply iff_of_true _ gone
      intro load pending
      cases absent.symm.trans pending
  | @answered index response now load _ pending loads =>
      refine Iff.trans ?_ (staysGone_loads gone counted loads)
      constructor
      · exact fun cancels => cancels load pending
      · intro cancels other same
        cases pending.symm.trans same
        exact cancels
  | started => exact iff_of_true trivial gone
  | stopped =>
      apply iff_of_true trivial
      refine gone.of_sent counted rfl fun uuid count left => ⟨left, fun _ => rfl, ?_⟩
      intro announcement member finds
      rw [List.mem_singleton.mp member] at finds
      exact finds

/-- What said goodbye stays gone as long as no load of it is completed afterwards. -/
theorem run_staysGone_iff {serviceFilters : List SSDPServiceFilter}
    {events : List SSDPEvent} {final : SSDPWatch}
    (reached : runFrom SSDPWatch.step { provider := { serviceFilters } } events =
      some final) :
    EveryStep SSDPWatch.step Cancels { provider := { serviceFilters } } events ↔
      Throughout SSDPWatch.step StaysGone { provider := { serviceFilters } } events := by
  have preserved : ∀ watch event next, Counted watch → SSDPWatch.step watch event = some next →
      Counted next := fun _ _ _ counted stepped => counted.step stepped
  have initially : Counted { provider := { serviceFilters } } := by
    intro uuid count left
    cases left
  have absent : StaysGone { provider := { serviceFilters } } := by
    intro uuid count left
    cases left
  exact everyStep_iff_throughout preserved
    (fun _ _ _ counted gone stepped => cancels_iff counted gone stepped) initially absent
    reached

open SSDPDiscoveryProvider

def dialGoodbye : SSDPMessage where
  requestMethod := some "NOTIFY"
  nt := some "dial"
  usn := some "uuid:1::dial"
  nts := some "ssdp:byebye"

/-- A device is found and leaves. -/
theorem run_staysGone_found :
    Throughout SSDPWatch.step StaysGone { provider := { serviceFilters := [dialFilter] } }
      [.didReceiveData dialAnswer "tv" 1, .locationLoaded 0 (some plainDescription),
        .didReceiveData dialGoodbye "tv" 2] := by
  have completes : (runFrom SSDPWatch.step { provider := { serviceFilters := [dialFilter] } }
      [.didReceiveData dialAnswer "tv" 1, .locationLoaded 0 (some plainDescription),
        .didReceiveData dialGoodbye "tv" 2]).isSome = true := by decide +kernel
  rcases Option.isSome_iff_exists.mp completes with ⟨final, reached⟩
  apply (run_staysGone_iff reached).mp
  decide +kernel

/-- A device leaves while its description is loading, and is found. -/
theorem departed_device_found :
    ∃ final, runFrom SSDPWatch.step { provider := { serviceFilters := [dialFilter] } }
        [.didReceiveData dialAnswer "tv" 1, .didReceiveData dialGoodbye "tv" 2,
          .locationLoaded 0 (some plainDescription)] = some final ∧ ¬ final.StaysGone := by
  have found : ((runFrom SSDPWatch.step { provider := { serviceFilters := [dialFilter] } }
      [.didReceiveData dialAnswer "tv" 1, .didReceiveData dialGoodbye "tv" 2,
        .locationLoaded 0 (some plainDescription)]).any fun final =>
          (final.departed.lookup "1").isSome &&
            (final.provider.foundServices.lookup "1").isSome) = true := by decide +kernel
  rcases (Option.any_eq_true _ _).mp found with ⟨final, reached, both⟩
  rcases Bool.and_eq_true_iff.mp both with ⟨left, kept⟩
  refine ⟨final, reached, fun stays => ?_⟩
  rcases Option.isSome_iff_exists.mp left with ⟨count, departed⟩
  rw [(stays "1" count departed).1] at kept
  cases kept

end SSDPWatch

end ConnectSDK
