import ConnectSDK.Discovery.SSDPSteps

/-! # What SSDP discovery announces

A UUID is announced as found when it moves to `_foundServices` and as lost when it leaves
it, and it is never in both tables. So its announcements alternate until discovery stops.
-/

namespace ConnectSDK

namespace SSDPAnnouncement

def Finds (uuid : String) : SSDPAnnouncement → Prop
  | .didFindServices other _ => other = uuid
  | _ => False

def Loses (uuid : String) : SSDPAnnouncement → Prop
  | .didLoseServices other _ => other = uuid
  | _ => False

def Stops : SSDPAnnouncement → Prop
  | .stopDiscovery => True
  | _ => False

/-- The same announcements for one UUID: it is found again only after it was lost, and lost
only after it was found, unless discovery stopped in between. -/
structure Alternates (uuid : String) (log : List SSDPAnnouncement) : Prop where
  found : ∀ front first middle second back,
    log = front ++ first :: (middle ++ second :: back) →
    first.Finds uuid → second.Finds uuid →
      ∃ between ∈ middle, between.Loses uuid ∨ between.Stops
  lost : ∀ front announcement back, log = front ++ announcement :: back →
    announcement.Loses uuid →
      ∃ earlier first later, front = earlier ++ first :: later ∧ first.Finds uuid ∧
        ∀ between ∈ later, ¬ between.Loses uuid ∧ ¬ between.Stops

/-! ## Following one UUID -/

/-- Whether the UUID is outstanding after an announcement that fits. -/
def advance (uuid : String) (outstanding : Bool) : SSDPAnnouncement → Option Bool
  | .didFindServices other _ =>
      if other = uuid then if outstanding then none else some true else some outstanding
  | .didLoseServices other _ =>
      if other = uuid then if outstanding then some false else none else some outstanding
  | .stopDiscovery => some false

def track (uuid : String) (log : List SSDPAnnouncement) : Option Bool :=
  log.foldlM (advance uuid) false

theorem track_append (uuid : String) (log more : List SSDPAnnouncement) :
    track uuid (log ++ more) = (track uuid log).bind fun outstanding =>
      more.foldlM (advance uuid) outstanding :=
  List.foldlM_append ..

theorem advance_of_finds {uuid : String} {outstanding after : Bool}
    {announcement : SSDPAnnouncement} (finds : announcement.Finds uuid)
    (taken : advance uuid outstanding announcement = some after) :
    outstanding = false ∧ after = true := by
  cases announcement with
  | didFindServices other services =>
      have own : other = uuid := finds
      rw [advance, if_pos own] at taken
      cases outstanding with
      | true => cases taken
      | false =>
          cases taken
          exact ⟨rfl, rfl⟩
  | didLoseServices other services => cases finds
  | stopDiscovery => cases finds

theorem advance_of_loses {uuid : String} {outstanding after : Bool}
    {announcement : SSDPAnnouncement} (loses : announcement.Loses uuid)
    (taken : advance uuid outstanding announcement = some after) :
    outstanding = true ∧ after = false := by
  cases announcement with
  | didFindServices other services => cases loses
  | didLoseServices other services =>
      have own : other = uuid := loses
      rw [advance, if_pos own] at taken
      cases outstanding with
      | true =>
          cases taken
          exact ⟨rfl, rfl⟩
      | false => cases taken
  | stopDiscovery => cases loses

/-- Only being lost or a stop ends that a UUID is outstanding. -/
theorem advance_true {uuid : String} {announcement : SSDPAnnouncement}
    (taken : advance uuid true announcement = some false) :
    announcement.Loses uuid ∨ announcement.Stops := by
  cases announcement with
  | didFindServices other services =>
      rw [advance] at taken
      split at taken <;> cases taken
  | didLoseServices other services =>
      rw [advance] at taken
      split at taken
      · rename_i own
        exact Or.inl own
      · cases taken
  | stopDiscovery => exact Or.inr trivial

/-- Only being found makes a UUID outstanding. -/
theorem advance_false {uuid : String} {announcement : SSDPAnnouncement}
    (taken : advance uuid false announcement = some true) : announcement.Finds uuid := by
  cases announcement with
  | didFindServices other services =>
      rw [advance] at taken
      split at taken
      · assumption
      · cases taken
  | didLoseServices other services =>
      rw [advance] at taken
      split at taken <;> cases taken
  | stopDiscovery => cases taken

/-- What stays outstanding was neither lost nor stopped. -/
theorem advance_kept {uuid : String} {announcement : SSDPAnnouncement}
    (taken : advance uuid true announcement = some true) :
    ¬ announcement.Loses uuid ∧ ¬ announcement.Stops := by
  constructor
  · intro loses
    cases (advance_of_loses loses taken).2
  · intro stops
    cases announcement with
    | didFindServices other services => cases stops
    | didLoseServices other services => cases stops
    | stopDiscovery => cases taken

theorem ended_of_foldlM {uuid : String} {middle : List SSDPAnnouncement}
    (taken : middle.foldlM (advance uuid) true = some false) :
    ∃ between ∈ middle, between.Loses uuid ∨ between.Stops := by
  induction middle with
  | nil => cases taken
  | cons head tail induction =>
      rw [List.foldlM_cons] at taken
      rcases Option.bind_eq_some_iff.mp taken with ⟨outstanding, first, rest⟩
      cases outstanding with
      | true =>
          rcases induction rest with ⟨between, member, ends⟩
          exact ⟨between, List.mem_cons_of_mem head member, ends⟩
      | false => exact ⟨head, List.mem_cons_self, advance_true first⟩

/-- The announcement that made a UUID outstanding. -/
theorem found_of_foldlM {uuid : String} {front : List SSDPAnnouncement} {outstanding : Bool}
    (taken : front.foldlM (advance uuid) outstanding = some true) :
    (outstanding = true ∧ ∀ between ∈ front, ¬ between.Loses uuid ∧ ¬ between.Stops) ∨
      ∃ earlier first later, front = earlier ++ first :: later ∧ first.Finds uuid ∧
        ∀ between ∈ later, ¬ between.Loses uuid ∧ ¬ between.Stops := by
  induction front generalizing outstanding with
  | nil =>
      cases taken
      exact Or.inl ⟨rfl, fun between impossible => by cases impossible⟩
  | cons head tail induction =>
      rw [List.foldlM_cons] at taken
      rcases Option.bind_eq_some_iff.mp taken with ⟨after, first, rest⟩
      rcases induction rest with ⟨same, kept⟩ | ⟨earlier, found, later, split, rest⟩
      · rw [same] at first
        cases outstanding with
        | true =>
            refine Or.inl ⟨rfl, fun between member => ?_⟩
            rcases List.mem_cons.mp member with equal | inTail
            · rw [equal]
              exact advance_kept first
            · exact kept between inTail
        | false => exact Or.inr ⟨[], head, tail, rfl, advance_false first, kept⟩
      · exact Or.inr ⟨head :: earlier, found, later, by rw [split]; rfl, rest⟩

theorem alternates_of_track {uuid : String} {log : List SSDPAnnouncement} {outstanding : Bool}
    (tracked : track uuid log = some outstanding) : Alternates uuid log := by
  constructor
  · intro front first middle second back split finds again
    rw [split, track_append] at tracked
    rcases Option.bind_eq_some_iff.mp tracked with ⟨before, _, rest⟩
    rw [List.foldlM_cons] at rest
    rcases Option.bind_eq_some_iff.mp rest with ⟨after, taken, rest⟩
    rw [(advance_of_finds finds taken).2, List.foldlM_append] at rest
    rcases Option.bind_eq_some_iff.mp rest with ⟨later, through, rest⟩
    rw [List.foldlM_cons] at rest
    rcases Option.bind_eq_some_iff.mp rest with ⟨_, taken, _⟩
    rw [(advance_of_finds again taken).1] at through
    exact ended_of_foldlM through
  · intro front announcement back split loses
    rw [split, track_append] at tracked
    rcases Option.bind_eq_some_iff.mp tracked with ⟨before, through, rest⟩
    rw [List.foldlM_cons] at rest
    rcases Option.bind_eq_some_iff.mp rest with ⟨_, taken, _⟩
    rw [(advance_of_loses loses taken).1] at through
    exact (found_of_foldlM through).resolve_left fun impossible => by cases impossible.1

end SSDPAnnouncement

namespace SSDPDiscoveryProvider

open SSDPAnnouncement

/-- The tables know what was announced, and a UUID is in one of them at most. -/
structure Announced (uuid : String) (provider : SSDPDiscoveryProvider) : Prop where
  tracked : track uuid provider.announcements =
    some (provider.foundServices.lookup uuid).isSome
  apart : (provider.helloDevices.lookup uuid).isSome = true →
    provider.foundServices.lookup uuid = none

theorem Announced.receives {uuid : String} {provider next : SSDPDiscoveryProvider}
    (announced : provider.Announced uuid) {message : SSDPMessage} {address : String}
    {now : TimeInterval} (receives : Receives provider message address now next) :
    next.Announced uuid := by
  cases receives with
  | ignored unheard => exact announced
  | unknown heard leaves absent => exact announced
  | nowhere heard stays missing => exact announced
  | @lost other type service services heard leaves held answer =>
      constructor
      · rw [track_append, announced.tracked, Option.bind_some, Dictionary.lookup_erase_eq]
        by_cases own : uuid = other
        · rw [if_pos own, own, held]
          simp [advance]
        · rw [if_neg own]
          simp [advance, Ne.symm own]
      · intro hello
        rw [Dictionary.lookup_erase_eq, announced.apart hello, ite_self]
  | awaited heard stays located given absent held => exact announced
  | @refreshed other type location service heard stays located given held =>
      constructor
      · rw [announced.tracked, Dictionary.lookup_insert_eq]
        by_cases own : uuid = other
        · rw [if_pos own, own, held]
          rfl
        · rw [if_neg own]
      · intro hello
        have absent := announced.apart hello
        rw [Dictionary.lookup_insert_eq, if_neg, absent]
        rintro rfl
        cases held.symm.trans absent
  | @greeted other type location heard stays located given absent fresh =>
      constructor
      · exact announced.tracked
      · intro hello
        dsimp only at hello ⊢
        rw [Dictionary.lookup_insert_eq] at hello
        by_cases own : uuid = other
        · rw [own]
          exact absent
        · rw [if_neg own] at hello
          exact announced.apart hello

theorem Announced.loads {uuid : String} {provider next : SSDPDiscoveryProvider}
    (announced : provider.Announced uuid) {load : LocationLoad}
    {response : Option LocationResponse} {now : TimeInterval}
    (loads : Loads provider load response now next) : next.Announced uuid := by
  have erased : (AList.lookup uuid (provider.helloDevices.erase load.uuid)).isSome = true →
      uuid ≠ load.uuid ∧ provider.foundServices.lookup uuid = none := by
    intro hello
    rw [Dictionary.lookup_erase_eq] at hello
    by_cases own : uuid = load.uuid
    · rw [if_pos own] at hello
      cases hello
    · rw [if_neg own] at hello
      exact ⟨own, announced.apart hello⟩
  cases loads with
  | dismissed unfit => exact ⟨announced.tracked, fun hello => (erased hello).2⟩
  | @found answer device hello services fits held copies =>
      constructor
      · rw [track_append, announced.tracked, Option.bind_some, Dictionary.lookup_insert_eq]
        by_cases own : uuid = load.uuid
        · have absent : provider.foundServices.lookup uuid = none := by
            apply announced.apart
            rw [own, held]
            rfl
          rw [if_pos own, absent]
          simp [advance, own]
        · rw [if_neg own]
          simp [advance, Ne.symm own]
      · intro hello
        rcases erased hello with ⟨other, absent⟩
        rw [Dictionary.lookup_insert_eq, if_neg other, absent]

theorem Announced.step {uuid : String} {provider next : SSDPDiscoveryProvider}
    {event : SSDPEvent} (announced : provider.Announced uuid)
    (stepped : provider.step event = some next) : next.Announced uuid := by
  cases step_reacts stepped with
  | received receives => exact announced.receives receives
  | unanswered absent => exact announced
  | @answered index response now load _ pending loads =>
      have forgotten : Announced uuid { provider with
          locationLoads := provider.locationLoads.eraseIdx index } :=
        ⟨announced.tracked, announced.apart⟩
      exact forgotten.loads loads
  | started => exact ⟨announced.tracked, announced.apart⟩
  | stopped =>
      constructor
      · rw [stopDiscovery, track_append, announced.tracked]
        rfl
      · exact fun _ => rfl

/-- Until discovery stops, a UUID is found once before it is lost, and lost only after it
was found, whatever the order of packets and answers. -/
theorem run_alternates {serviceFilters : List SSDPServiceFilter} {events : List SSDPEvent}
    {final : SSDPDiscoveryProvider}
    (reached : runFrom SSDPDiscoveryProvider.step { serviceFilters } events = some final)
    (uuid : String) : Alternates uuid final.announcements := by
  have initially : Announced uuid { serviceFilters } :=
    ⟨rfl, fun hello => by cases hello⟩
  have announced : final.Announced uuid :=
    runFrom_invariant (fun _ _ _ announced _ stepped => announced.step stepped) initially
      (everyStep_of_forall (fun _ _ => trivial) _ _) reached
  exact alternates_of_track announced.tracked

/-- The answer of a device with the UUID 1 to a search for DIAL. -/
def dialAnswer : SSDPMessage where
  st := some "dial"
  usn := some "uuid:1::dial"
  location := some { text := "http://tv/", host := some "tv" }

/-- A description without services fits a filter that requires none. -/
def plainDescription : LocationResponse where
  device := some (.mk {} [] [])

def dialFilter : SSDPServiceFilter where
  serviceId := some "DIAL"
  filter := "dial"

/-- A device answers in two sessions, and both loads are answered in the second one. -/
def restartedSearch : List SSDPEvent :=
  [.startDiscovery, .didReceiveData dialAnswer "tv" 1, .stopDiscovery,
    .startDiscovery, .didReceiveData dialAnswer "tv" 2,
    .locationLoaded 0 (some plainDescription), .locationLoaded 0 (some plainDescription)]

theorem run_alternates_restarted : ∃ final,
    runFrom SSDPDiscoveryProvider.step { serviceFilters := [dialFilter] } restartedSearch =
        some final ∧ Alternates "1" final.announcements := by
  have completes : (runFrom SSDPDiscoveryProvider.step { serviceFilters := [dialFilter] }
      restartedSearch).isSome = true := by decide +kernel
  rcases Option.isSome_iff_exists.mp completes with ⟨final, reached⟩
  exact ⟨final, reached, run_alternates reached "1"⟩

end SSDPDiscoveryProvider

end ConnectSDK
