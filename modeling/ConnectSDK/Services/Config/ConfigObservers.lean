import Mathlib.Data.List.Nodup
import ConnectSDK.Services.Config.ObservedConfig

/-! # The observers of a configuration

A configuration should be registered for its key paths exactly while it has a delegate.
Taking the delegate away removes the observers and keeps `_delegate`, which decides what
the next assignment does.
-/

namespace ConnectSDK

variable {Delegate : Type}

/-- The configurations, and the delegate that each was given last. -/
structure ServiceConfigWatch (Delegate : Type) where
  system : ServiceConfigs Delegate := {}
  assigned : Ref (ObservedConfig Delegate) → Option Delegate := fun _ => none

/-- The configuration that an event is sent to. -/
def ServiceConfigEvent.receiver :
    ServiceConfigEvent Delegate → Option (Ref (ObservedConfig Delegate))
  | .create _ => none
  | .initWithServiceConfig _ source => some source
  | .setDelegate config _ => some config
  | .setProperty config _ => some config
  | .dealloc config => some config

namespace ObservedConfig

/-- The key paths are registered exactly if there is a delegate. -/
def RegisteredFor (observed : ObservedConfig Delegate) (assigned : Option Delegate) : Prop :=
  ∀ keyPath ∈ observed.keyPaths,
    keyPath ∈ observed.observers ↔ assigned.isSome = true

/-- A configuration that was left without a delegate but kept `_delegate` is given no
other; and that of a subclass is not even left without one again. -/
def Settable (observed : ObservedConfig Delegate) (assigned delegate : Option Delegate) :
    Prop :=
  assigned = none → observed.delegate.isSome = true →
    delegate = none ∧ observed.config.subclass = .serviceConfig

end ObservedConfig

namespace ServiceConfigWatch

/-- The delegates after an event. A copy takes the delegate that its source returns. -/
def assignedAfter (watch : ServiceConfigWatch Delegate) (event : ServiceConfigEvent Delegate) :
    Ref (ObservedConfig Delegate) → Option Delegate :=
  match event with
  | .create _ => Function.update watch.assigned watch.system.configs.fresh none
  | .initWithServiceConfig _ source =>
      if watch.system.live source then
        Function.update (Function.update watch.assigned source none)
          watch.system.configs.fresh (watch.system.configs.read source).delegate
      else watch.assigned
  | .setDelegate config delegate =>
      if watch.system.live config then Function.update watch.assigned config delegate
      else watch.assigned
  | .setProperty _ _ => watch.assigned
  | .dealloc config =>
      if watch.system.live config then Function.update watch.assigned config none
      else watch.assigned

def step (watch : ServiceConfigWatch Delegate) (event : ServiceConfigEvent Delegate) :
    Option (ServiceConfigWatch Delegate) :=
  (watch.system.step event).map fun next =>
    { system := next, assigned := watch.assignedAfter event }

def RegistersExactly (watch : ServiceConfigWatch Delegate) : Prop :=
  ∀ config, (watch.system.configs.read config).RegisteredFor (watch.assigned config)

/-- Whoever has a delegate tells it once of a change. -/
def Notifies (watch next : ServiceConfigWatch Delegate) : ServiceConfigEvent Delegate → Prop
  | .setProperty config change => ∀ delegate, watch.system.live config = true →
      watch.assigned config = some delegate →
      change.keyPath ∈ (watch.system.configs.read config).keyPaths →
        next.system.updates = watch.system.updates ++ [(config, delegate)]
  | _ => True

def Meets (watch : ServiceConfigWatch Delegate) (event : ServiceConfigEvent Delegate)
    (next : ServiceConfigWatch Delegate) : Prop :=
  next.RegistersExactly ∧ watch.Notifies next event

/-- The configuration can take the delegate that it is given. -/
def SettableAt (watch : ServiceConfigWatch Delegate) (config : Ref (ObservedConfig Delegate))
    (delegate : Option Delegate) : Prop :=
  watch.system.live config = true →
    (watch.system.configs.read config).Settable (watch.assigned config) delegate

/-- Delegates are set only where they can be. Both a copy and the end take the delegate
away. -/
def SetsDelegates (watch : ServiceConfigWatch Delegate) : ServiceConfigEvent Delegate → Prop
  | .create _ => True
  | .initWithServiceConfig _ source => watch.SettableAt source none
  | .setDelegate config delegate => watch.SettableAt config delegate
  | .setProperty _ _ => True
  | .dealloc config => watch.SettableAt config none

end ServiceConfigWatch

namespace ObservedConfig

/-! ## One configuration -/

/-- What a configuration is like as long as its delegates were set where they can be. -/
structure Consistent (observed : ObservedConfig Delegate) (assigned : Option Delegate) :
    Prop where
  observers : observed.observers = if assigned.isSome then observed.keyPaths else []
  hasObservers : observed.hasObservers = assigned.isSome
  delegate : ∀ delegate, assigned = some delegate → observed.delegate = some delegate

theorem Consistent.registered {observed : ObservedConfig Delegate}
    {assigned : Option Delegate} (consistent : observed.Consistent assigned) :
    observed.RegisteredFor assigned := by
  intro keyPath member
  rw [consistent.observers]
  cases assigned with
  | none => exact iff_of_false List.not_mem_nil Bool.false_ne_true
  | some delegate => exact iff_of_true member rfl

theorem removeObservers_of_all {observed : ObservedConfig Delegate}
    (hasObservers : observed.hasObservers = true)
    (observers : observed.observers = observed.keyPaths) :
    observed.removeObservers = some { observed with hasObservers := false, observers := [] } := by
  rcases observed with ⟨⟨_, _, _, _, subclass⟩, _, _, _, _⟩
  dsimp only [keyPaths] at hasObservers observers
  subst hasObservers observers
  cases subclass <;> rfl

theorem removeObservers_of_none {observed : ObservedConfig Delegate}
    (hasObservers : observed.hasObservers = false) (observers : observed.observers = []) :
    observed.removeObservers =
      if observed.config.subclass.subclassKeyPaths = [] then some observed else none := by
  rcases observed with ⟨⟨_, _, _, _, subclass⟩, _, _, _, _⟩
  subst hasObservers observers
  cases subclass <;> rfl

theorem addObservers_of_none {observed : ObservedConfig Delegate}
    (hasObservers : observed.hasObservers = false) (observers : observed.observers = []) :
    observed.addObservers =
      { observed with hasObservers := true, observers := observed.keyPaths } := by
  simp only [addObservers, addSuperObservers, hasObservers, observers, keyPaths,
    Bool.false_eq_true, if_false, List.nil_append]

/-- Setting a delegate where it can be set goes well. -/
theorem Consistent.setDelegate {observed : ObservedConfig Delegate}
    {assigned : Option Delegate} (consistent : observed.Consistent assigned)
    {delegate : Option Delegate} (settable : observed.Settable assigned delegate) :
    ∃ next, observed.setDelegate delegate = some next ∧ next.Consistent delegate := by
  cases assigned with
  | some current =>
      have held := consistent.delegate current rfl
      cases delegate with
      | none =>
          simp only [ObservedConfig.setDelegate, held]
          rw [removeObservers_of_all consistent.hasObservers consistent.observers]
          exact ⟨_, rfl, rfl, rfl, fun _ impossible => by cases impossible⟩
      | some delegate =>
          simp only [ObservedConfig.setDelegate, held]
          exact ⟨_, rfl, consistent.observers, consistent.hasObservers, fun _ same => same⟩
  | none =>
      cases held : observed.delegate with
      | none =>
          cases delegate with
          | none =>
              simp only [ObservedConfig.setDelegate, held]
              exact ⟨_, rfl, consistent.observers, consistent.hasObservers,
                fun _ impossible => by cases impossible⟩
          | some delegate =>
              simp only [ObservedConfig.setDelegate, held]
              rw [@addObservers_of_none _ { observed with delegate := some delegate }
                consistent.hasObservers consistent.observers]
              exact ⟨_, rfl, rfl, rfl, fun _ same => same⟩
      | some stale =>
          rcases settable rfl (by rw [held]; rfl) with ⟨same, base⟩
          subst same
          simp only [ObservedConfig.setDelegate, held]
          rw [removeObservers_of_none consistent.hasObservers consistent.observers, base]
          exact ⟨_, rfl, consistent.observers, consistent.hasObservers,
            fun _ impossible => by cases impossible⟩

/-- Where it goes well a delegate can be set. -/
theorem Consistent.settable {observed next : ObservedConfig Delegate}
    {assigned delegate : Option Delegate} (consistent : observed.Consistent assigned)
    (taken : observed.setDelegate delegate = some next)
    (registered : next.RegisteredFor delegate) : observed.Settable assigned delegate := by
  intro unassigned stale
  subst unassigned
  rcases Option.isSome_iff_exists.mp stale with ⟨stored, held⟩
  cases delegate with
  | none =>
      simp only [ObservedConfig.setDelegate, held] at taken
      rw [removeObservers_of_none consistent.hasObservers consistent.observers] at taken
      refine ⟨rfl, ?_⟩
      cases subclass : observed.config.subclass with
      | serviceConfig => rfl
      | webOSTVServiceConfig clientKey sslCertificates => simp [subclass,
          ServiceConfigClass.subclassKeyPaths] at taken
      | netcastTVServiceConfig pairingCode => simp [subclass,
          ServiceConfigClass.subclassKeyPaths] at taken
  | some delegate =>
      simp only [ObservedConfig.setDelegate, held, Option.some.injEq] at taken
      have member : KeyPath.uuid ∈ next.keyPaths := List.mem_append_left _ List.mem_cons_self
      have listed := (registered KeyPath.uuid member).mpr rfl
      rw [← taken, consistent.observers] at listed
      cases listed

/-- A setter does not change the class. -/
theorem apply_subclassKeyPaths (change : PropertyChange) (config : ServiceConfig) :
    (change.apply config).subclass.subclassKeyPaths = config.subclass.subclassKeyPaths := by
  rcases config with ⟨_, _, _, _, subclass⟩
  cases change <;> cases subclass <;> rfl

theorem Consistent.changed {observed : ObservedConfig Delegate} {assigned : Option Delegate}
    (consistent : observed.Consistent assigned) (change : PropertyChange) :
    Consistent { observed with config := change.apply observed.config } assigned where
  observers := by
    rw [keyPaths, apply_subclassKeyPaths]
    exact consistent.observers
  hasObservers := consistent.hasObservers
  delegate := consistent.delegate

/-- A change is told once. -/
theorem Consistent.notified {observed : ObservedConfig Delegate} {delegate : Delegate}
    (consistent : observed.Consistent (some delegate)) {change : PropertyChange}
    (observes : change.keyPath ∈ observed.keyPaths) :
    observed.notified change = [delegate] := by
  have once : observed.keyPaths.Nodup := by
    rw [keyPaths]
    cases observed.config.subclass <;>
      simp [KeyPath.superKeyPaths, ServiceConfigClass.subclassKeyPaths]
  have count := List.nodup_iff_count_eq_one.mp once change.keyPath observes
  rw [ObservedConfig.notified, consistent.observers, Option.isSome_some, if_pos rfl, count,
    consistent.delegate delegate rfl]
  rfl

end ObservedConfig

namespace ServiceConfigWatch

/-! ## All configurations -/

def Consistent (watch : ServiceConfigWatch Delegate) : Prop :=
  ∀ config, (watch.system.configs.read config).Consistent (watch.assigned config)

theorem Consistent.registersExactly {watch : ServiceConfigWatch Delegate}
    (consistent : watch.Consistent) : watch.RegistersExactly :=
  fun config => (consistent config).registered

theorem consistent_unset (config : ServiceConfig) :
    ObservedConfig.Consistent ({ config } : ObservedConfig Delegate) none where
  observers := rfl
  hasObservers := rfl
  delegate := fun _ impossible => by cases impossible

/-- A copy can take any delegate. -/
theorem copyOf_setDelegate (subclass : ServiceConfigClass) (source : ServiceConfig)
    (delegate : Option Delegate) :
    ∃ copy, (ObservedConfig.copyOf subclass source).setDelegate delegate = some copy ∧
      copy.Consistent delegate := by
  apply (consistent_unset _).setDelegate
  intro _ impossible
  cases impossible

theorem Consistent.update {watch : ServiceConfigWatch Delegate} (consistent : watch.Consistent)
    (config : Ref (ObservedConfig Delegate)) {observed : ObservedConfig Delegate}
    {delegate : Option Delegate} (written : observed.Consistent delegate)
    (other : Ref (ObservedConfig Delegate)) :
    (Function.update watch.system.configs.read config observed other).Consistent
      (Function.update watch.assigned config delegate other) := by
  by_cases own : other = config
  · rw [own, Function.update_self, Function.update_self]
    exact written
  · rw [Function.update_of_ne own, Function.update_of_ne own]
    exact consistent other

theorem Consistent.write {watch : ServiceConfigWatch Delegate} (consistent : watch.Consistent)
    (config : Ref (ObservedConfig Delegate)) {observed : ObservedConfig Delegate}
    {delegate : Option Delegate} (written : observed.Consistent delegate) :
    Consistent
      { system := watch.system.write config observed
        assigned := Function.update watch.assigned config delegate } :=
  consistent.update config written

theorem Consistent.allocate {watch : ServiceConfigWatch Delegate}
    (consistent : watch.Consistent) {observed : ObservedConfig Delegate}
    {delegate : Option Delegate} (created : observed.Consistent delegate) :
    Consistent
      { system := watch.system.allocate observed
        assigned :=
          Function.update watch.assigned watch.system.configs.fresh delegate } :=
  consistent.update watch.system.configs.fresh created

/-! ## Steps -/

/-- Nothing happens to a configuration that does not exist. -/
theorem step_dead {watch : ServiceConfigWatch Delegate}
    {config : Ref (ObservedConfig Delegate)} (dead : watch.system.live config = false)
    {event : ServiceConfigEvent Delegate} (receives : event.receiver = some config) :
    watch.step event = some watch := by
  cases event with
  | create config => cases receives
  | _ => cases receives; simp [step, ServiceConfigs.step, assignedAfter, dead]

theorem live_ne_fresh {system : ServiceConfigs Delegate}
    {config : Ref (ObservedConfig Delegate)} (live : system.live config = true) :
    config ≠ system.configs.fresh := by
  rw [ServiceConfigs.live, Bool.and_eq_true, decide_eq_true_iff] at live
  exact live.1.ne_fresh

theorem step_setDelegate {watch : ServiceConfigWatch Delegate}
    {config : Ref (ObservedConfig Delegate)} (live : watch.system.live config = true)
    (delegate : Option Delegate) :
    watch.step (.setDelegate config delegate) =
      ((watch.system.configs.read config).setDelegate delegate).map fun observed =>
        { system := watch.system.write config observed
          assigned := Function.update watch.assigned config delegate } := by
  simp only [step, ServiceConfigs.step, assignedAfter, live, if_true, Option.map_map]
  rfl

theorem step_dealloc {watch : ServiceConfigWatch Delegate}
    {config : Ref (ObservedConfig Delegate)} (live : watch.system.live config = true) :
    watch.step (.dealloc config) =
      ((watch.system.configs.read config).setDelegate none).map fun observed =>
        { system := watch.system.write config { observed with deallocated := true }
          assigned := Function.update watch.assigned config none } := by
  simp only [step, ServiceConfigs.step, assignedAfter, live, if_true,
    ObservedConfig.dealloc, Option.map_map]
  rfl

theorem step_initWithServiceConfig {watch : ServiceConfigWatch Delegate}
    {source : Ref (ObservedConfig Delegate)} (live : watch.system.live source = true)
    (subclass : ServiceConfigClass) :
    watch.step (.initWithServiceConfig subclass source) =
      ((ObservedConfig.copyOf subclass (watch.system.configs.read source).config).setDelegate
        (watch.system.configs.read source).delegate).bind fun copy =>
          ((watch.system.configs.read source).setDelegate none).map fun observed =>
            { system := (watch.system.write source observed).allocate copy
              assigned := Function.update (Function.update watch.assigned source none)
                watch.system.configs.fresh (watch.system.configs.read source).delegate } := by
  simp only [step, ServiceConfigs.step, assignedAfter, live, if_true,
    ServiceConfigs.initWithServiceConfig, Option.map_bind]
  congr 1
  funext copy
  simp only [Function.comp_apply, Option.map_map]
  rfl

theorem step_setProperty {watch : ServiceConfigWatch Delegate}
    {config : Ref (ObservedConfig Delegate)} (live : watch.system.live config = true)
    (change : PropertyChange) :
    watch.step (.setProperty config change) =
      some { watch with system := watch.system.setProperty config change } := by
  simp only [step, ServiceConfigs.step, assignedAfter, live, if_true, Option.map_some]

/-- A step that sets delegates where they can be goes well. -/
theorem Consistent.step {watch : ServiceConfigWatch Delegate} (consistent : watch.Consistent)
    {event : ServiceConfigEvent Delegate} (sets : watch.SetsDelegates event) :
    ∃ next, watch.step event = some next ∧ next.Consistent ∧ watch.Notifies next event := by
  cases event with
  | create config =>
      exact ⟨_, rfl, consistent.allocate (consistent_unset config), trivial⟩
  | initWithServiceConfig subclass source =>
      cases live : watch.system.live source with
      | false => exact ⟨watch, step_dead live rfl, consistent, trivial⟩
      | true =>
          rcases copyOf_setDelegate subclass (watch.system.configs.read source).config
            (watch.system.configs.read source).delegate with ⟨copy, copied, own⟩
          rcases (consistent source).setDelegate (sets live) with ⟨observed, taken, written⟩
          have cleared : Consistent
              { system := watch.system.write source observed
                assigned := Function.update watch.assigned source none } :=
            consistent.write source written
          refine ⟨_, ?_, cleared.allocate own, trivial⟩
          rw [step_initWithServiceConfig live, copied, taken]
          rfl
  | setDelegate config delegate =>
      cases live : watch.system.live config with
      | false => exact ⟨watch, step_dead live rfl, consistent, trivial⟩
      | true =>
          rcases (consistent config).setDelegate (sets live) with ⟨observed, taken, written⟩
          refine ⟨_, ?_, consistent.write config written, trivial⟩
          rw [step_setDelegate live, taken]
          rfl
  | setProperty config change =>
      cases live : watch.system.live config with
      | false =>
          refine ⟨watch, step_dead live rfl, consistent, ?_⟩
          intro delegate alive
          cases live.symm.trans alive
      | true =>
          have kept := (consistent config).changed change
          have unassigned := Function.update_eq_self config watch.assigned
          refine ⟨_, step_setProperty live change, ?_, ?_⟩
          · rw [← unassigned]
            exact consistent.update config kept
          · intro delegate _ assigned observes
            have told := consistent config
            rw [assigned] at told
            dsimp only [ServiceConfigs.setProperty]
            rw [told.notified observes]
            rfl
  | dealloc config =>
      cases live : watch.system.live config with
      | false => exact ⟨watch, step_dead live rfl, consistent, trivial⟩
      | true =>
          rcases (consistent config).setDelegate (sets live) with ⟨observed, taken, written⟩
          have kept : ObservedConfig.Consistent { observed with deallocated := true } none :=
            ⟨written.observers, written.hasObservers, written.delegate⟩
          refine ⟨_, ?_, consistent.write config kept, trivial⟩
          rw [step_dealloc live, taken]
          rfl

/-- Where a step goes well its delegates can be set. -/
theorem Consistent.setsDelegates {watch next : ServiceConfigWatch Delegate}
    (consistent : watch.Consistent) {event : ServiceConfigEvent Delegate}
    (taken : watch.step event = some next) (registered : next.RegistersExactly) :
    watch.SetsDelegates event := by
  cases event with
  | create config => trivial
  | initWithServiceConfig subclass source =>
      intro live
      rw [step_initWithServiceConfig live] at taken
      rcases Option.bind_eq_some_iff.mp taken with ⟨copy, _, mapped⟩
      rcases Option.map_eq_some_iff.mp mapped with ⟨observed, set, same⟩
      have registers := registered source
      rw [← same] at registers
      have older := live_ne_fresh live
      have still : source ≠ (watch.system.write source observed).configs.fresh := older
      dsimp only [ServiceConfigs.allocate] at registers
      rw [Heap.read_allocate_of_ne still, ServiceConfigs.write, Heap.read_modify_self,
        Function.update_of_ne older, Function.update_self] at registers
      exact (consistent source).settable set registers
  | setDelegate config delegate =>
      intro live
      rw [step_setDelegate live] at taken
      rcases Option.map_eq_some_iff.mp taken with ⟨observed, set, same⟩
      have registers := registered config
      rw [← same] at registers
      dsimp only [ServiceConfigs.write] at registers
      rw [Heap.read_modify_self, Function.update_self] at registers
      exact (consistent config).settable set registers
  | setProperty config change => trivial
  | dealloc config =>
      intro live
      rw [step_dealloc live] at taken
      rcases Option.map_eq_some_iff.mp taken with ⟨observed, set, same⟩
      have registers := registered config
      rw [← same] at registers
      dsimp only [ServiceConfigs.write] at registers
      rw [Heap.read_modify_self, Function.update_self] at registers
      exact (consistent config).settable set registers

theorem Consistent.sets_iff {watch : ServiceConfigWatch Delegate}
    (consistent : watch.Consistent) (event : ServiceConfigEvent Delegate) :
    watch.SetsDelegates event ↔
      ∃ next, watch.step event = some next ∧ watch.Meets event next := by
  constructor
  · intro sets
    rcases consistent.step sets with ⟨next, taken, kept, told⟩
    exact ⟨next, taken, kept.registersExactly, told⟩
  · intro meets
    rcases meets with ⟨next, taken, registers, _⟩
    exact consistent.setsDelegates taken registers

/-- In every run, nothing raises, observers are registered exactly where there is a
delegate and every change is told once, exactly as long as delegates are set only where
they can be. -/
theorem run_registersExactly_iff (events : List (ServiceConfigEvent Delegate)) :
    EveryStep step SetsDelegates {} events ↔ Completes step Meets {} events := by
  have initially : Consistent ({} : ServiceConfigWatch Delegate) :=
    fun _ => consistent_unset {}
  refine everyStep_iff_completes ?_ (fun _ event consistent => consistent.sets_iff event)
    initially
  intro watch event next consistent taken meets
  rcases consistent.step (consistent.setsDelegates taken meets.1) with
    ⟨other, same, kept, _⟩
  cases taken.symm.trans same
  exact kept

/-- A configuration that loses its delegate and gets another one observes nothing; and a
subclass that has lost its delegate raises an exception when it is deallocated. -/
theorem delegate_taken_away :
    (¬ Completes step Meets ({} : ServiceConfigWatch String)
      [.create {}, .setDelegate ⟨0⟩ (some "manager"), .setDelegate ⟨0⟩ none,
        .setDelegate ⟨0⟩ (some "manager")]) ∧
      (runFrom step ({} : ServiceConfigWatch String)
        [.create { subclass := .webOSTVServiceConfig none none },
          .setDelegate ⟨0⟩ (some "manager"), .setDelegate ⟨0⟩ none]).isSome = true ∧
      runFrom step ({} : ServiceConfigWatch String)
        [.create { subclass := .webOSTVServiceConfig none none },
          .setDelegate ⟨0⟩ (some "manager"), .setDelegate ⟨0⟩ none,
          .dealloc ⟨0⟩] = none := by
  refine ⟨?_, by decide +kernel, ?_⟩
  · intro completes
    rcases completes with ⟨_, same, _, _, sameTwo, _, _, sameThree, _, _, sameFour, ⟨registers, _⟩, _⟩
    cases same
    cases sameTwo
    cases sameThree
    cases sameFour
    have listed := (registers ⟨0⟩ .uuid (by decide +kernel)).mpr rfl
    revert listed
    decide +kernel
  · rfl

end ServiceConfigWatch

end ConnectSDK
