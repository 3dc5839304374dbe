import ConnectSDK.Discovery.Soundness

/-! # What the delegate hears about a device

The delegate is to hear `found updated* lost`, again and again, about each
device. It does as long as the devices it has heard of last are the ones on the
list of compatible devices.
-/

namespace ConnectSDK

/-! ## The pattern -/

/-- Whether a device is outstanding after a notification. `none` if the
notification may not be sent. -/
def DeviceNotification.advance (device : Ref ConnectableDevice)
    (outstanding : Bool) : DeviceNotification → Option Bool
  | .didFindDevice found =>
      if found = device then if outstanding then none else some true
      else some outstanding
  | .didUpdateDevice updated =>
      if updated = device then if outstanding then some true else none
      else some outstanding
  | .didLoseDevice lost =>
      if lost = device then if outstanding then some false else none
      else some outstanding

/-- Whether a device is outstanding after a log that follows the pattern
`(found updated* lost)*`, the last round perhaps unfinished. -/
def track (device : Ref ConnectableDevice) (log : List DeviceNotification) :
    Option Bool :=
  log.foldlM (DeviceNotification.advance device) false

def FollowsPattern (device : Ref ConnectableDevice)
    (log : List DeviceNotification) : Prop := (track device log).isSome = true

theorem track_append (device : Ref ConnectableDevice)
    (log more : List DeviceNotification) :
    track device (log ++ more) =
      (track device log).bind fun outstanding =>
        more.foldlM (DeviceNotification.advance device) outstanding := by
  rw [track, List.foldlM_append]
  rfl

/-- Devices that are each lost once, of those that are outstanding. -/
theorem foldlM_didLoseDevice (device : Ref ConnectableDevice)
    {devices : List (Ref ConnectableDevice)} (distinct : devices.Nodup) :
    (devices.map DeviceNotification.didLoseDevice).foldlM
        (DeviceNotification.advance device) (decide (device ∈ devices)) =
      some false := by
  induction devices with
  | nil => rfl
  | cons head tail induction =>
      rcases List.nodup_cons.mp distinct with ⟨once, rest⟩
      rw [List.map_cons, List.foldlM_cons]
      by_cases own : head = device
      · subst own
        have gone := induction rest
        rw [decide_eq_false once] at gone
        simpa [DeviceNotification.advance] using gone
      · have elsewhere : (device ∈ head :: tail) ↔ device ∈ tail := by
          rw [List.mem_cons]
          exact or_iff_right fun same => own same.symm
        simpa [DeviceNotification.advance, own, elsewhere] using induction rest

/-- Devices that are each found once, of those that are not outstanding. -/
theorem foldlM_didFindDevice (device : Ref ConnectableDevice)
    {devices : List (Ref ConnectableDevice)} (distinct : devices.Nodup)
    {outstanding : Bool} (new : outstanding = true → device ∉ devices) :
    (devices.map DeviceNotification.didFindDevice).foldlM
        (DeviceNotification.advance device) outstanding =
      some (outstanding || decide (device ∈ devices)) := by
  induction devices generalizing outstanding with
  | nil => simp
  | cons head tail induction =>
      rcases List.nodup_cons.mp distinct with ⟨once, rest⟩
      rw [List.map_cons, List.foldlM_cons]
      by_cases own : head = device
      · subst own
        have absent : outstanding = false := by
          rw [Bool.eq_false_iff]
          exact fun before => new before (List.mem_cons_self ..)
        have found := @induction rest true fun _ => once
        simpa [DeviceNotification.advance, absent] using found
      · have elsewhere : (device ∈ head :: tail) ↔ device ∈ tail := by
          rw [List.mem_cons]
          exact or_iff_right fun same => own same.symm
        have found := @induction rest outstanding fun before member =>
          new before (List.mem_cons_of_mem head member)
        simpa [DeviceNotification.advance, own, elsewhere] using found

/-! ## The devices the delegate knows of -/

/-- No two keys have one device. -/
def OneKeyEach (dictionary : Dictionary String (Ref ConnectableDevice)) : Prop :=
  ∀ key other device, dictionary.lookup key = some device →
    dictionary.lookup other = some device → key = other

theorem OneKeyEach.values_nodup
    {dictionary : Dictionary String (Ref ConnectableDevice)}
    (oneKey : OneKeyEach dictionary) : dictionary.values.Nodup := by
  apply List.Nodup.map_on
  · rintro ⟨key, device⟩ member ⟨other, _⟩ otherMember rfl
    have same := oneKey key other device
      (Dictionary.lookup_eq_some_iff.mpr member)
      (Dictionary.lookup_eq_some_iff.mpr otherMember)
    rw [same]
  · exact dictionary.nodupKeys.nodup

/-- A log, and the dictionary of the devices that are outstanding after it. -/
structure Announced (log : List DeviceNotification)
    (dictionary : Dictionary String (Ref ConnectableDevice)) : Prop where
  oneKey : OneKeyEach dictionary
  tracked : ∀ device,
    track device log = some (decide (device ∈ dictionary.values))

theorem Announced.tracked_of_iff {log : List DeviceNotification}
    {dictionary : Dictionary String (Ref ConnectableDevice)}
    (announced : Announced log dictionary) {device : Ref ConnectableDevice}
    {outstanding : Bool}
    (same : device ∈ dictionary.values ↔ outstanding = true) :
    track device log = some outstanding := by
  rw [announced.tracked]
  cases outstanding <;> simpa using same

/-- A notification that is about one device leaves the others alone. -/
theorem track_other {device other : Ref ConnectableDevice}
    (different : other ≠ device) (log : List DeviceNotification)
    {notification : DeviceNotification}
    (about : notification = .didFindDevice device ∨
      notification = .didUpdateDevice device ∨
      notification = .didLoseDevice device) :
    track other (log ++ [notification]) = track other log := by
  have apart : device ≠ other := fun same => different same.symm
  rw [track_append]
  cases track other log with
  | none => rfl
  | some outstanding =>
      rcases about with rfl | rfl | rfl <;>
        simp [DeviceNotification.advance, apart]

theorem Announced.found {log : List DeviceNotification}
    {dictionary : Dictionary String (Ref ConnectableDevice)}
    (announced : Announced log dictionary) {key : String}
    {device : Ref ConnectableDevice} (free : dictionary.lookup key = none)
    (new : device ∉ dictionary.values) :
    Announced (log ++ [.didFindDevice device]) (dictionary.insert key device) where
  oneKey := by
    intro first second other firstHeld secondHeld
    rw [Dictionary.lookup_insert_eq] at firstHeld secondHeld
    have absent : ∀ place, dictionary.lookup place ≠ some device :=
      fun place held => new (Dictionary.mem_values_iff.mpr ⟨place, held⟩)
    by_cases firstIs : first = key <;> by_cases secondIs : second = key
    · rw [firstIs, secondIs]
    · rw [if_pos firstIs, Option.some.injEq] at firstHeld
      rw [if_neg secondIs, ← firstHeld] at secondHeld
      exact absurd secondHeld (absent second)
    · rw [if_pos secondIs, Option.some.injEq] at secondHeld
      rw [if_neg firstIs, ← secondHeld] at firstHeld
      exact absurd firstHeld (absent first)
    · rw [if_neg firstIs] at firstHeld
      rw [if_neg secondIs] at secondHeld
      exact announced.oneKey first second other firstHeld secondHeld
  tracked := by
    intro other
    by_cases own : other = device
    · subst own
      have before : track other log = some false :=
        announced.tracked_of_iff (by simpa using new)
      have member : other ∈ Dictionary.values (dictionary.insert key other) :=
        (Dictionary.mem_values_insert_of_free free).mpr (.inl rfl)
      simp [track_append, before, DeviceNotification.advance, member]
    · rw [track_other own log (.inl rfl)]
      apply announced.tracked_of_iff
      rw [decide_eq_true_iff, Dictionary.mem_values_insert_of_free free, or_iff_right own]

theorem Announced.updated {log : List DeviceNotification}
    {dictionary : Dictionary String (Ref ConnectableDevice)}
    (announced : Announced log dictionary) {device : Ref ConnectableDevice}
    (known : device ∈ dictionary.values) :
    Announced (log ++ [.didUpdateDevice device]) dictionary where
  oneKey := announced.oneKey
  tracked := by
    intro other
    by_cases own : other = device
    · subst own
      have before : track other log = some true :=
        announced.tracked_of_iff (by simpa using known)
      simp [track_append, before, DeviceNotification.advance, known]
    · rw [track_other own log (.inr (.inl rfl))]
      exact announced.tracked other

theorem Announced.lost {log : List DeviceNotification}
    {dictionary : Dictionary String (Ref ConnectableDevice)}
    (announced : Announced log dictionary) {key : String}
    {device : Ref ConnectableDevice}
    (held : dictionary.lookup key = some device) :
    Announced (log ++ [.didLoseDevice device]) (dictionary.erase key) where
  oneKey := by
    intro first second other firstHeld secondHeld
    rw [Dictionary.lookup_erase_eq] at firstHeld secondHeld
    by_cases firstIs : first = key
    · rw [if_pos firstIs] at firstHeld
      cases firstHeld
    · by_cases secondIs : second = key
      · rw [if_pos secondIs] at secondHeld
        cases secondHeld
      · rw [if_neg firstIs] at firstHeld
        rw [if_neg secondIs] at secondHeld
        exact announced.oneKey first second other firstHeld secondHeld
  tracked := by
    intro other
    have kept : other ∈ Dictionary.values (dictionary.erase key) ↔
        other ≠ device ∧ other ∈ dictionary.values :=
      Dictionary.mem_values_erase_of_oneKey held fun place same =>
        announced.oneKey place key device same held
    by_cases own : other = device
    · subst own
      have before : track other log = some true :=
        announced.tracked_of_iff
          (by simpa using Dictionary.mem_values_iff.mpr ⟨key, held⟩)
      have gone : other ∉ Dictionary.values (dictionary.erase key) :=
        fun member => (kept.mp member).1 rfl
      simp [track_append, before, DeviceNotification.advance, gone]
    · rw [track_other own log (.inr (.inr rfl))]
      apply announced.tracked_of_iff
      rw [decide_eq_true_iff, kept, and_iff_right own]

/-! ## Reports and filters -/

/-- What is reported fits what the delegate knows: a device that is found is
not outstanding, one that is updated or lost is, and no other device stands
where the report writes. -/
def Reporting.Announces (reporting : Reporting) : Prop :=
  match reporting.report with
  | .add _ => reporting.manager.deviceIsCompatible reporting.device = true →
      reporting.device ∉ reporting.manager.compatibleDevices.values ∧
        ∀ key, reporting.manager.memory.address reporting.device = some key →
          reporting.manager.compatibleDevices.lookup key = none
  | .update _ => ∀ key,
      reporting.manager.memory.address reporting.device = some key →
        if reporting.manager.deviceIsCompatible reporting.device then
          reporting.manager.compatibleDevices.lookup key = none ↔
            reporting.device ∉ reporting.manager.compatibleDevices.values
        else
          reporting.manager.compatibleDevices.lookup key = some reporting.device
  | .withdraw _ => True
  | .lose address =>
      reporting.manager.compatibleDevices.lookup address = some reporting.device

namespace DiscoveryManager

theorem outcome_announced {reporting : Reporting}
    {log : List DeviceNotification}
    (announced : Announced log reporting.manager.compatibleDevices)
    (announces : reporting.Announces)
    {allDevices compatibleDevices : Dictionary String (Ref ConnectableDevice)}
    {sent : List DeviceNotification}
    (outcome : Outcome reporting allDevices compatibleDevices sent) :
    Announced (log ++ sent) compatibleDevices := by
  cases outcome with
  | ignored report incompatible =>
      rw [List.append_nil]
      exact announced
  | found report compatible located =>
      simp only [Reporting.Announces, report] at announces
      rcases announces compatible with ⟨new, free⟩
      exact announced.found (free _ located) new
  | updated report compatible located held =>
      simp only [Reporting.Announces, report, compatible, if_true] at announces
      apply announced.updated
      by_contra new
      cases ((announces _ located).mpr new).symm.trans held
  | admitted report compatible located absent =>
      simp only [Reporting.Announces, report, compatible, if_true] at announces
      exact announced.found absent ((announces _ located).mp absent)
  | dropped report incompatible located =>
      simp only [Reporting.Announces, report, incompatible, Bool.false_eq_true,
        if_false] at announces
      exact announced.lost (announces _ located)
  | withdrawn report =>
      rw [List.append_nil]
      exact announced
  | lost report =>
      simp only [Reporting.Announces, report] at announces
      exact announced.lost announces

/-- Losing every device that is outstanding. -/
theorem tracked_lost {log : List DeviceNotification}
    {dictionary : Dictionary String (Ref ConnectableDevice)}
    (announced : Announced log dictionary) (device : Ref ConnectableDevice) :
    track device (log ++ dictionary.values.map .didLoseDevice) = some false := by
  rw [track_append, announced.tracked, Option.bind_some]
  exact foldlM_didLoseDevice device announced.oneKey.values_nodup

/-- The report of an event fits what the delegate knows, and new filters do not
let one device pass twice or two devices with one address. -/
structure KeepsPattern (manager : DiscoveryManager) (event : DiscoveryEvent) :
    Prop where
  announces : ∀ reporting, manager.reporting event = some reporting →
    reporting.Announces
  filtered : ∀ capabilityFilters,
    event = .setCapabilityFilters capabilityFilters →
    ∀ key other device second,
      manager.allDevices.lookup key = some device →
      manager.allDevices.lookup other = some second →
      { manager with capabilityFilters }.deviceIsCompatible device = true →
      { manager with capabilityFilters }.deviceIsCompatible second = true →
      manager.memory.address device = manager.memory.address second →
        key = other

/-- What new filters announce, once every device was lost. -/
theorem announced_filtered {manager : DiscoveryManager}
    (apart : ∀ key other device second,
      manager.allDevices.lookup key = some device →
      manager.allDevices.lookup other = some second →
      manager.deviceIsCompatible device = true →
      manager.deviceIsCompatible second = true →
      manager.memory.address device = manager.memory.address second →
        key = other)
    {entries : List (String × Ref ConnectableDevice)}
    (filtered : entries.map Prod.snd =
      manager.allDevices.values.filter manager.deviceIsCompatible)
    (located : ∀ entry ∈ entries, manager.memory.address entry.2 = some entry.1)
    {log : List DeviceNotification}
    (lost : ∀ device, track device log = some false) :
    Announced (log ++ entries.map fun entry => .didFindDevice entry.2)
      (Dictionary.insertAll entries ∅) := by
  have listed : ∀ key device, (key, device) ∈ entries →
      ∃ address, manager.allDevices.lookup address = some device ∧
        manager.deviceIsCompatible device = true := by
    intro key device member
    have mapped := List.mem_map_of_mem (f := Prod.snd) member
    rw [filtered] at mapped
    rcases List.mem_filter.mp mapped with ⟨value, compatible⟩
    rcases Dictionary.mem_values_iff.mp value with ⟨address, held⟩
    exact ⟨address, held, compatible⟩
  have filed : ∀ key device,
      (Dictionary.insertAll entries ∅).lookup key = some device ↔
        (key, device) ∈ entries := by
    intro key device
    constructor
    · intro held
      exact (Dictionary.lookup_insertAll held).resolve_right (by simp)
    · intro member
      apply Dictionary.lookup_insertAll_of_mem member
      intro other otherMember
      rcases listed key device member with ⟨first, held, compatible⟩
      rcases listed key other otherMember with ⟨second, otherHeld, otherCompatible⟩
      have same := apart first second device other held otherHeld compatible
        otherCompatible ((located _ member).trans (located _ otherMember).symm)
      rw [← same, held] at otherHeld
      exact (Option.some.inj otherHeld).symm
  have distinct : (entries.map Prod.snd).Nodup := by
    rw [filtered, Dictionary.values, List.filter_map]
    apply List.Nodup.map_on
    · rintro ⟨key, device⟩ member ⟨other, second⟩ otherMember same
      rcases List.mem_filter.mp member with ⟨held, compatible⟩
      rcases List.mem_filter.mp otherMember with ⟨otherHeld, otherCompatible⟩
      cases (same : device = second)
      have here := apart key other device device
        (Dictionary.lookup_eq_some_iff.mpr held)
        (Dictionary.lookup_eq_some_iff.mpr otherHeld) compatible otherCompatible
        rfl
      rw [here]
    · exact manager.allDevices.nodupKeys.nodup.filter _
  have found : ∀ device, device ∈ entries.map Prod.snd ↔
      device ∈ Dictionary.values (Dictionary.insertAll entries ∅) := by
    intro device
    rw [Dictionary.mem_values_iff, List.mem_map]
    constructor
    · rintro ⟨⟨key, _⟩, member, rfl⟩
      exact ⟨key, (filed key _).mpr member⟩
    · rintro ⟨key, held⟩
      exact ⟨(key, device), (filed key device).mp held, rfl⟩
  constructor
  · intro key other device held otherHeld
    have first := located _ ((filed key device).mp held)
    have second := located _ ((filed other device).mp otherHeld)
    exact Option.some.inj (first.symm.trans second)
  · intro device
    have sent := @foldlM_didFindDevice device _ distinct false (by simp)
    rw [List.map_map, Bool.false_or, decide_eq_decide.mpr (found device)] at sent
    rw [track_append, lost device, Option.bind_some]
    exact sent

/-- The delegate is there, and knows of the devices on the compatible list. -/
def Informed (manager : DiscoveryManager) : Prop :=
  manager.delegate = true ∧
    Announced manager.delegateReceived manager.compatibleDevices

theorem informed_of_effect {before after : DiscoveryManager}
    {allDevices compatibleDevices : Dictionary String (Ref ConnectableDevice)}
    {sent : List DeviceNotification}
    (effect : Effect before after allDevices compatibleDevices sent)
    (delegate : before.delegate = true)
    (announced : Announced (before.delegateReceived ++ sent) compatibleDevices) :
    after.Informed := by
  refine ⟨effect.delegate.trans delegate, ?_⟩
  rw [effect.delegateReceived delegate, effect.compatibleDevices]
  exact announced

theorem announced_none {log : List DeviceNotification}
    (tracked : ∀ device, track device log = some false) : Announced log ∅ where
  oneKey := fun key other device held => by simp at held
  tracked := by
    intro device
    rw [tracked device]
    rfl

/-- An event changes the log and the compatible list through its report only. -/
theorem reporting_unannounced {manager : DiscoveryManager} {event : DiscoveryEvent}
    {reporting : Reporting} (reports : manager.reporting event = some reporting) :
    reporting.manager.compatibleDevices = manager.compatibleDevices ∧
      reporting.manager.delegate = manager.delegate ∧
      reporting.manager.delegateReceived = manager.delegateReceived := by
  rw [reporting_rest reports]
  exact ⟨rfl, rfl, rfl⟩

theorem Informed.step {manager next : DiscoveryManager} {event : DiscoveryEvent}
    (informed : manager.Informed) (permitted : manager.KeepsPattern event)
    (stepped : manager.step event = some next) : next.Informed := by
  rcases informed with ⟨delegate, announced⟩
  cases step_reaction stepped with
  | @reported _ reporting reports performed =>
      rcases reporting_unannounced reports with ⟨compatible, same, log⟩
      rcases reporting.perform_outcome performed with
        ⟨_, allDevices, compatibleDevices, sent, outcome, effect⟩
      rw [← compatible, ← log] at announced
      exact informed_of_effect effect (same.trans delegate)
        (outcome_announced announced (permitted.announces reporting reports)
          outcome)
  | @filtered capabilityFilters set =>
      rcases setCapabilityFilters_cases set with
        ⟨_, entries, filtered, located, effect⟩
      apply informed_of_effect effect delegate
      rw [← List.append_assoc]
      exact announced_filtered (permitted.filtered capabilityFilters rfl) filtered
        located (tracked_lost announced)
  | purged effect _ =>
      exact informed_of_effect effect delegate
        (announced_none (tracked_lost announced))
  | quiet effect _ =>
      apply informed_of_effect effect delegate
      rw [List.append_nil]
      exact announced

/-- What the delegate hears about any device follows the pattern. -/
theorem run_followsPattern {manager final : DiscoveryManager}
    {events : List DiscoveryEvent} (initial : manager.Initial)
    (permitted : EveryStep DiscoveryManager.step KeepsPattern manager events)
    (reached : runFrom DiscoveryManager.step manager events = some final)
    (device : Ref ConnectableDevice) :
    FollowsPattern device final.delegateReceived := by
  have initially : manager.Informed := by
    refine ⟨initial.delegate, ?_⟩
    rw [initial.delegateReceived, initial.compatibleDevices]
    exact announced_none fun _ => rfl
  have informed : final.Informed :=
    runFrom_invariant (fun _ _ _ informed => informed.step) initially permitted
      reached
  rw [FollowsPattern, informed.2.tracked]
  rfl

/-- A device that is found twice and lost is found, updated and lost. -/
theorem found_updated_lost :
    ∃ final, runFrom DiscoveryManager.step (start rokuClasses .missing 1)
        [.didFindService (rokuAt "10.0.0.1") rokuCapabilities 1 "guid",
          .didFindService (rokuAt "10.0.0.1") rokuCapabilities 2 "guid",
          .didLoseService (rokuAt "10.0.0.1") 3] = some final ∧
      FollowsPattern ⟨0⟩ final.delegateReceived := by
  refine ⟨_, rfl, @run_followsPattern (start rokuClasses .missing 1) _
    [.didFindService (rokuAt "10.0.0.1") rokuCapabilities 1 "guid",
      .didFindService (rokuAt "10.0.0.1") rokuCapabilities 2 "guid",
      .didLoseService (rokuAt "10.0.0.1") 3]
    (start_initial rokuClasses .missing 1)
    ⟨⟨?_, fun _ impossible => by cases impossible⟩,
      ⟨?_, fun _ impossible => by cases impossible⟩,
      ⟨?_, fun _ impossible => by cases impossible⟩, trivial⟩ rfl ⟨0⟩⟩
  · intro reporting reports
    have same := Option.some.inj reports
    subst same
    intro _
    refine ⟨fun impossible => ?_, fun key _ => rfl⟩
    cases impossible
  · intro reporting reports
    have same := Option.some.inj reports
    subst same
    intro key located
    cases located
    constructor
    · intro impossible
      cases impossible
    · exact fun absent => absurd (List.mem_singleton.mpr rfl) absent
  · intro reporting reports
    have same := Option.some.inj reports
    subst same
    rfl

/-- A device that no filter admits is lost without having been found. -/
theorem incompatible_device_lost :
    ∃ final, runFrom DiscoveryManager.step (start rokuClasses .missing 1)
        [.setCapabilityFilters [["VolumeControl.Set"]],
          .didFindService (rokuAt "10.0.0.1") rokuCapabilities 1 "guid",
          .didLoseService (rokuAt "10.0.0.1") 2] = some final ∧
      ¬ FollowsPattern ⟨0⟩ final.delegateReceived := by
  refine ⟨_, rfl, fun follows => ?_⟩
  cases follows

end DiscoveryManager

end ConnectSDK
