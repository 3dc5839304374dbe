import ConnectSDK.Services.DLNAService

/-! # Registered subscriptions of the DLNA service

Starting the server empties its table, whatever is subscribed.
-/

namespace ConnectSDK

namespace DLNAService

def isSubscribed (service : DLNAService) (subscription : Ref ServiceCommand) : Bool :=
  (service.commands.read subscription).isSubscribed

def target (service : DLNAService) (subscription : Ref ServiceCommand) : Option String :=
  (service.commands.read subscription).target

def isServerRunning (service : DLNAService) : Bool :=
  service.httpServer.any DLNAHTTPServer.isRunning

/-- The server has the subscription under the key of its target. -/
def IsRegistered (service : DLNAService) (subscription : Ref ServiceCommand) : Prop :=
  ∃ server, service.httpServer = some server ∧
    server.Registers (service.target subscription) subscription

/-- While the server runs, a request for the path of the subscription's target notifies
it. -/
def IsReached (service : DLNAService) (subscription : Ref ServiceCommand) : Prop :=
  ∀ url requested eventInfo after,
    serviceSubscriptionKeyForURL url = some requested →
    (service.target subscription).bind serviceSubscriptionKeyForURL =
      some (trimmingWhitespace requested) →
    service.isServerRunning = true →
    service.processRequest url (.event eventInfo) = some after →
    ∃ notification ∈ after.notified.drop service.notified.length,
      notification.subscription = subscription ∧
        notification.successCalls = service.successCalls subscription ∧
        notification.eventInfo = eventInfo

/-- Every subscription that counts as subscribed is registered, and requests reach it. -/
def AllRegistered (service : DLNAService) : Prop :=
  ∀ subscription, service.isSubscribed subscription = true →
    service.IsRegistered subscription ∧ service.IsReached subscription

def hasSubscribed (service : DLNAService) : Bool :=
  (List.range service.commands.size).any fun index => service.isSubscribed ⟨index⟩

/-- The server is started only while nothing is subscribed: a subscription finds it
running. -/
def startsEmpty (service : DLNAService) : DLNAEvent → Bool
  | .subscribe subscription _ =>
      !decide (service.commands.Allocated subscription) || service.isServerRunning
  | .connect _ => !service.hasSubscribed
  | _ => true

/-! ## Requests -/

theorem IsRegistered.isReached {service : DLNAService} {subscription : Ref ServiceCommand}
    (registered : service.IsRegistered subscription) : service.IsReached subscription := by
  rcases registered with ⟨server, running, url, key, target, is, values, found, member⟩
  intro requestURL requested eventInfo after requestKey sameKey isRunning processed
  have keys : some key = some (trimmingWhitespace requested) := by
    rw [← sameKey, target, Option.bind_some, is]
  cases keys
  have runs : server.isRunning = true := by
    rw [isServerRunning, running] at isRunning
    exact isRunning
  have subscriptions : server.subscriptionsFor requestURL = some values := by
    rw [DLNAHTTPServer.subscriptionsFor, requestKey, Option.map_some, found, Option.getD_some]
  simp only [processRequest, running, runs, if_true, subscriptions, Option.map_some] at processed
  cases processed
  rw [List.drop_left]
  exact ⟨_, List.mem_map_of_mem member, rfl, rfl, rfl⟩

/-- Reaching follows from registering. -/
theorem allRegistered_iff (service : DLNAService) :
    service.AllRegistered ↔ ∀ subscription, service.isSubscribed subscription = true →
      service.IsRegistered subscription := by
  constructor
  · intro all subscription subscribed
    exact (all subscription subscribed).1
  · intro all subscription subscribed
    exact ⟨all subscription subscribed, (all subscription subscribed).isReached⟩

/-! ## What keeps subscriptions registered -/

/-- Only objects that were created are subscriptions, and all of these are. -/
def AllSubscriptions (service : DLNAService) : Prop :=
  ∀ subscription, (service.commands.read subscription).isSubscription = true ↔
    service.commands.Allocated subscription

/-- The other subscriptions are as before, and stay registered. -/
structure KeepsOthers (service after : DLNAService) (subscription : Ref ServiceCommand) :
    Prop where
  commands : ∀ other, other ≠ subscription →
    after.commands.read other = service.commands.read other
  servers : ∀ server, service.httpServer = some server →
    ∃ kept, after.httpServer = some kept ∧ ∀ target other, other ≠ subscription →
      server.Registers target other → kept.Registers target other

theorem KeepsOthers.isRegistered {service after : DLNAService}
    {subscription other : Ref ServiceCommand}
    (keeps : KeepsOthers service after subscription) (different : other ≠ subscription)
    (registered : service.IsRegistered other) : after.IsRegistered other := by
  rcases registered with ⟨server, running, registers⟩
  rcases keeps.servers server running with ⟨kept, runs, stays⟩
  refine ⟨kept, runs, ?_⟩
  rw [target, keeps.commands other different]
  exact stays _ other different registers

/-- All but one subscription stay registered, so it is that one that matters. -/
theorem KeepsOthers.allRegistered {service after : DLNAService}
    {subscription : Ref ServiceCommand} (keeps : KeepsOthers service after subscription)
    (all : service.AllRegistered)
    (here : after.isSubscribed subscription = true → after.IsRegistered subscription) :
    after.AllRegistered := by
  apply (allRegistered_iff after).mpr
  intro other subscribed
  by_cases same : other = subscription
  · subst same
    exact here subscribed
  · rw [isSubscribed, keeps.commands other same] at subscribed
    exact keeps.isRegistered same (all other subscribed).1

theorem setSubscribed_isSubscription (isSubscribed : Bool) (command : ServiceCommand) :
    (command.setSubscribed isSubscribed).isSubscription = command.isSubscription := by
  simp [ServiceCommand.setSubscribed, ServiceCommand.modifySubscription,
    ServiceCommand.isSubscription]

theorem didSubscribe_isSubscribed (callId : Option Nat) (command : ServiceCommand) :
    (command.didSubscribe callId).isSubscribed = command.isSubscription := by
  cases held : command.subscription <;>
    simp [ServiceCommand.didSubscribe, ServiceCommand.modifySubscription,
      ServiceCommand.isSubscription, ServiceCommand.isSubscribed, held]

theorem didUnsubscribe_isSubscribed (callId : Option Nat) (command : ServiceCommand) :
    (command.didUnsubscribe callId).isSubscribed = false := by
  cases held : command.subscription <;>
    simp [ServiceCommand.didUnsubscribe, ServiceCommand.modifySubscription,
      ServiceCommand.isSubscribed, held]

/-! ## Subscribing -/

/-- What subscribing leaves of the objects and the server. -/
theorem subscribe_cases {service after : DLNAService} {subscription : Ref ServiceCommand}
    {starts : Bool} (taken : service.subscribe subscription starts = some after) :
    (service.httpServer = none ∧ after.httpServer = none ∧
        after.commands = service.commands.modify subscription
          (ServiceCommand.didSubscribe none)) ∨
      ∃ server added, service.httpServer = some server ∧
        server.isRunning = added.isRunning ∧
        added.Registers (service.target subscription) subscription ∧
        (∀ target other, server.Registers target other → added.Registers target other) ∧
        after.httpServer = some (if added.isRunning then added else added.start starts) ∧
        after.commands =
          (service.commands.modify subscription (ServiceCommand.setSubscribed true)).modify
            subscription (ServiceCommand.didSubscribe none) := by
  rcases Option.map_eq_some_iff.mp taken with ⟨sent, sending, equal⟩
  subst equal
  unfold sendSubscribe at sending
  cases held : service.httpServer with
  | none =>
      rw [held] at sending
      cases sending
      exact Or.inl ⟨rfl, held, rfl⟩
  | some server =>
      rw [held] at sending
      rcases Option.map_eq_some_iff.mp sending with ⟨⟨added, commands⟩, adding, equal⟩
      subst equal
      rcases DLNAHTTPServer.addSubscription_spec adding with ⟨modified, running, here, others⟩
      subst modified
      exact Or.inr ⟨server, added, rfl, running.symm, here, others, rfl, rfl⟩

/-- A subscription ends up subscribed, and registered exactly when the server was
running. -/
theorem subscribe_iff {service after : DLNAService} {subscription : Ref ServiceCommand}
    {starts : Bool} (objects : service.AllSubscriptions) (all : service.AllRegistered)
    (allocated : service.commands.Allocated subscription)
    (taken : service.subscribe subscription starts = some after) :
    service.isServerRunning = true ↔ after.AllRegistered := by
  have created := (objects subscription).mpr allocated
  rcases subscribe_cases taken with ⟨stopped, none, commands⟩ |
    ⟨server, added, held, same, here, others, running, commands⟩
  · have subscribed : after.isSubscribed subscription = true := by
      rw [isSubscribed, commands, Heap.read_modify_self, didSubscribe_isSubscribed, created]
    rw [isServerRunning, stopped]
    constructor
    · intro runs
      cases runs
    · intro registered
      rcases (registered subscription subscribed).1 with ⟨server, is, _⟩
      rw [none] at is
      cases is
  · have subscribed : after.isSubscribed subscription = true := by
      rw [isSubscribed, commands, Heap.read_modify_self, didSubscribe_isSubscribed,
        Heap.read_modify_self, setSubscribed_isSubscription, created]
    have runs : service.isServerRunning = added.isRunning := by
      rw [isServerRunning, held, ← same]
      rfl
    rw [runs]
    cases isRunning : added.isRunning with
    | false =>
        rw [isRunning] at running
        constructor
        · intro runs
          cases runs
        · intro registered
          rcases (registered subscription subscribed).1 with ⟨started, is, registers⟩
          rw [running] at is
          cases is
          exact absurd registers (DLNAHTTPServer.not_registers_start added starts _ _)
    | true =>
        rw [isRunning] at running
        refine iff_of_true rfl ?_
        have keeps : KeepsOthers service after subscription := by
          constructor
          · intro other different
            rw [commands, Heap.read_modify_of_ne different, Heap.read_modify_of_ne different]
          · intro known is
            rw [held] at is
            cases is
            exact ⟨added, running, fun target other _ registers => others target other registers⟩
        apply keeps.allRegistered all
        intro _
        refine ⟨added, running, ?_⟩
        have sameTarget : after.target subscription = service.target subscription := by
          rw [target, commands, Heap.read_modify_self, Heap.read_modify_self]
          rfl
        rw [sameTarget]
        exact here

/-! ## The other events -/

theorem keepsOthers_modify (service : DLNAService) (subscription : Ref ServiceCommand)
    (change : ServiceCommand → ServiceCommand) :
    KeepsOthers service (service.modifyCommand subscription change) subscription := by
  constructor
  · intro other different
    exact Heap.read_modify_of_ne different change
  · intro server held
    exact ⟨server, held, fun _ _ _ registers => registers⟩

theorem allRegistered_unsubscribe {service after : DLNAService}
    {subscription : Ref ServiceCommand} (all : service.AllRegistered)
    (taken : service.unsubscribe subscription = some after) : after.AllRegistered := by
  rcases Option.map_eq_some_iff.mp taken with ⟨sent, sending, equal⟩
  subst equal
  have keeps : KeepsOthers service sent subscription := by
    unfold sendUnsubscribe at sending
    cases held : service.httpServer with
    | none =>
        rw [held] at sending
        cases sending
        exact ⟨fun _ _ => rfl, fun server is => ⟨server, is, fun _ _ _ registers => registers⟩⟩
    | some server =>
        rw [held] at sending
        rcases Option.map_eq_some_iff.mp sending with ⟨⟨removed, commands⟩, removing, equal⟩
        subst equal
        rcases DLNAHTTPServer.removeSubscription_spec removing with ⟨modified, others⟩
        constructor
        · intro other different
          rcases modified with same | modified
          · subst same
            rfl
          · subst modified
            exact Heap.read_modify_of_ne different _
        · intro known is
          rw [held] at is
          cases is
          refine ⟨_, rfl, fun target other different registers => ?_⟩
          split
          · exact others target other different registers
          · exact others target other different registers
  have ended : KeepsOthers service
      (sent.modifyCommand subscription (ServiceCommand.didUnsubscribe none)) subscription := by
    constructor
    · intro other different
      exact (Heap.read_modify_of_ne different _).trans (keeps.commands other different)
    · exact keeps.servers
  apply ended.allRegistered all
  intro subscribed
  rw [isSubscribed, modifyCommand, Heap.read_modify_self, didUnsubscribe_isSubscribed]
    at subscribed
  cases subscribed

/-- A change of the object that neither subscribes it nor moves its target. -/
theorem allRegistered_modify {service : DLNAService} (all : service.AllRegistered)
    (subscription : Ref ServiceCommand) (change : ServiceCommand → ServiceCommand)
    (isSubscribed : ∀ command : ServiceCommand,
      (change command).isSubscribed = command.isSubscribed)
    (target : ∀ command : ServiceCommand, (change command).target = command.target) :
    (service.modifyCommand subscription change).AllRegistered := by
  apply (keepsOthers_modify service subscription change).allRegistered all
  intro subscribed
  have before : service.isSubscribed subscription = true := by
    rw [DLNAService.isSubscribed, modifyCommand, Heap.read_modify_self, isSubscribed]
      at subscribed
    exact subscribed
  rcases (all subscription before).1 with ⟨server, held, registers⟩
  refine ⟨server, held, ?_⟩
  rw [DLNAService.target, modifyCommand, Heap.read_modify_self, target]
  exact registers

theorem allRegistered_allocate {service : DLNAService} (all : service.AllRegistered)
    {command : ServiceCommand} (idle : command.isSubscribed = false) :
    AllRegistered { service with commands := service.commands.allocate command } := by
  have keeps : KeepsOthers service
      { service with commands := service.commands.allocate command } service.commands.fresh := by
    constructor
    · intro other different
      exact Heap.read_allocate_of_ne different command
    · intro server held
      exact ⟨server, held, fun _ _ _ registers => registers⟩
  apply keeps.allRegistered all
  intro subscribed
  rw [isSubscribed, Heap.read_allocate_fresh, idle] at subscribed
  cases subscribed

/-- The same objects, and a server with the same table. -/
theorem allRegistered_servers {service after : DLNAService} (all : service.AllRegistered)
    (commands : after.commands = service.commands)
    (servers : ∀ server, service.httpServer = some server →
      ∃ kept, after.httpServer = some kept ∧
        kept.allSubscriptions = server.allSubscriptions) : after.AllRegistered := by
  apply (allRegistered_iff after).mpr
  intro subscription subscribed
  rw [isSubscribed, commands] at subscribed
  rcases (all subscription subscribed).1 with ⟨server, held, registers⟩
  rcases servers server held with ⟨kept, is, same⟩
  refine ⟨kept, is, ?_⟩
  rw [target, commands]
  unfold DLNAHTTPServer.Registers at registers ⊢
  rw [same]
  exact registers

theorem hasSubscribed_iff {service : DLNAService} (objects : service.AllSubscriptions) :
    service.hasSubscribed = true ↔ ∃ subscription, service.isSubscribed subscription = true := by
  unfold hasSubscribed
  rw [List.any_eq_true]
  constructor
  · rintro ⟨index, _, subscribed⟩
    exact ⟨⟨index⟩, subscribed⟩
  · rintro ⟨⟨index⟩, subscribed⟩
    refine ⟨index, List.mem_range.mpr ?_, subscribed⟩
    apply (objects ⟨index⟩).mp
    cases held : (service.commands.read ⟨index⟩).subscription with
    | none =>
        rw [isSubscribed, ServiceCommand.isSubscribed, held] at subscribed
        cases subscribed
    | some _ =>
        rw [ServiceCommand.isSubscription, held]
        rfl

theorem connect_iff {service : DLNAService} (objects : service.AllSubscriptions)
    (starts : Bool) :
    (!service.hasSubscribed) = true ↔ (service.connect starts).AllRegistered := by
  constructor
  · intro none subscription subscribed
    have some : service.hasSubscribed = true :=
      (hasSubscribed_iff objects).mpr ⟨subscription, subscribed⟩
    rw [some] at none
    cases none
  · intro registered
    cases has : service.hasSubscribed with
    | false => rfl
    | true =>
        rcases (hasSubscribed_iff objects).mp has with ⟨subscription, subscribed⟩
        rcases (registered subscription subscribed).1 with ⟨server, held, registers⟩
        rcases Option.map_eq_some_iff.mp held with ⟨before, _, equal⟩
        subst equal
        exact absurd registers (DLNAHTTPServer.not_registers_start before starts _ _)

/-! ## Steps -/

theorem toSubscription_cases {service after : DLNAService}
    {subscription : Ref ServiceCommand} {act : DLNAService → Option DLNAService}
    (taken : service.toSubscription subscription act = some after) :
    (¬service.commands.Allocated subscription ∧ after = service) ∨
      service.commands.Allocated subscription ∧ act service = some after := by
  unfold toSubscription at taken
  split at taken
  · rename_i allocated
    exact Or.inr ⟨allocated, taken⟩
  · rename_i absent
    cases taken
    exact Or.inl ⟨absent, rfl⟩

theorem processRequest_frame {service after : DLNAService} {url : String}
    {data : NotifyData} (taken : service.processRequest url data = some after) :
    ∃ notified, after = { service with notified } := by
  unfold processRequest at taken
  split at taken
  · cases taken
    exact ⟨service.notified, rfl⟩
  · cases taken
    exact ⟨service.notified, rfl⟩
  · split at taken
    · rcases Option.map_eq_some_iff.mp taken with ⟨subscriptions, _, equal⟩
      exact ⟨_, equal.symm⟩
    · cases taken
      exact ⟨service.notified, rfl⟩

theorem AllSubscriptions.modify {service : DLNAService} (objects : service.AllSubscriptions)
    (subscription : Ref ServiceCommand) (change : ServiceCommand → ServiceCommand)
    (same : ∀ command : ServiceCommand,
      (change command).isSubscription = command.isSubscription) :
    (service.modifyCommand subscription change).AllSubscriptions := by
  intro other
  by_cases equal : other = subscription
  · subst equal
    rw [modifyCommand, Heap.read_modify_self, same]
    exact objects other
  · rw [modifyCommand, Heap.read_modify_of_ne equal]
    exact objects other

theorem AllSubscriptions.allocate {service : DLNAService}
    (objects : service.AllSubscriptions) {command : ServiceCommand}
    (isSubscription : command.isSubscription = true) :
    AllSubscriptions { service with commands := service.commands.allocate command } := by
  intro other
  rw [Heap.allocated_allocate_iff]
  by_cases equal : other = service.commands.fresh
  · subst equal
    rw [Heap.read_allocate_fresh, isSubscription]
    exact iff_of_true rfl (Or.inr rfl)
  · rw [Heap.read_allocate_of_ne equal, objects other]
    exact ⟨Or.inl, fun either => either.resolve_right equal⟩

theorem AllSubscriptions.subscribe {service after : DLNAService}
    {subscription : Ref ServiceCommand} {starts : Bool} (objects : service.AllSubscriptions)
    (taken : service.subscribe subscription starts = some after) :
    after.AllSubscriptions := by
  rcases subscribe_cases taken with ⟨_, _, commands⟩ | ⟨_, _, _, _, _, _, _, commands⟩
  · have modified := objects.modify subscription (ServiceCommand.didSubscribe none)
      (ServiceCommand.didSubscribe_isSubscription none)
    intro other
    rw [commands]
    exact modified other
  · have modified := (objects.modify subscription (ServiceCommand.setSubscribed true)
      (setSubscribed_isSubscription true)).modify subscription
      (ServiceCommand.didSubscribe none) (ServiceCommand.didSubscribe_isSubscription none)
    intro other
    rw [commands]
    exact modified other

theorem AllSubscriptions.unsubscribe {service after : DLNAService}
    {subscription : Ref ServiceCommand} (objects : service.AllSubscriptions)
    (taken : service.unsubscribe subscription = some after) : after.AllSubscriptions := by
  rcases Option.map_eq_some_iff.mp taken with ⟨sent, sending, equal⟩
  subst equal
  have sentObjects : sent.AllSubscriptions := by
    unfold sendUnsubscribe at sending
    split at sending
    · cases sending
      exact objects
    · rcases Option.map_eq_some_iff.mp sending with ⟨⟨removed, commands⟩, removing, equal⟩
      subst equal
      rcases (DLNAHTTPServer.removeSubscription_spec removing).1 with same | modified
      · subst same
        exact objects
      · subst modified
        exact objects.modify subscription _ (setSubscribed_isSubscription false)
  exact sentObjects.modify subscription _ (ServiceCommand.didUnsubscribe_isSubscription none)

theorem AllSubscriptions.step {service after : DLNAService} {event : DLNAEvent}
    (objects : service.AllSubscriptions) (taken : service.step event = some after) :
    after.AllSubscriptions := by
  cases event with
  | setServiceDescription hasLocationXML =>
      cases taken
      unfold setServiceDescription
      split
      · exact objects
      · exact objects
  | createSubscription target =>
      cases taken
      exact objects.allocate rfl
  | clone subscription =>
      simp only [DLNAService.step] at taken
      rcases toSubscription_cases taken with ⟨_, equal⟩ | ⟨_, cloned⟩
      · exact equal ▸ objects
      · cases cloned
        exact objects.allocate rfl
  | addSuccess subscription success =>
      simp only [DLNAService.step] at taken
      rcases toSubscription_cases taken with ⟨_, equal⟩ | ⟨_, added⟩
      · exact equal ▸ objects
      · cases added
        exact objects.modify subscription _ fun command =>
          ServiceCommand.addSuccess_isSubscription command success
  | addFailure subscription failure =>
      simp only [DLNAService.step] at taken
      rcases toSubscription_cases taken with ⟨_, equal⟩ | ⟨_, added⟩
      · exact equal ▸ objects
      · cases added
        exact objects.modify subscription _ fun command =>
          ServiceCommand.addFailure_isSubscription command failure
  | subscribe subscription starts =>
      simp only [DLNAService.step] at taken
      rcases toSubscription_cases taken with ⟨_, equal⟩ | ⟨_, subscribed⟩
      · exact equal ▸ objects
      · exact objects.subscribe subscribed
  | unsubscribe subscription =>
      simp only [DLNAService.step] at taken
      rcases toSubscription_cases taken with ⟨_, equal⟩ | ⟨_, unsubscribed⟩
      · exact equal ▸ objects
      · exact objects.unsubscribe unsubscribed
  | connect starts =>
      cases taken
      exact objects
  | disconnect =>
      cases taken
      exact objects
  | didLoseReachability =>
      cases taken
      split
      · exact objects
      · exact objects
  | processRequest url data =>
      rcases processRequest_frame taken with ⟨notified, equal⟩
      subst equal
      exact objects

theorem addSuccess_target (command : ServiceCommand) (success : UserBlock) :
    (command.addSuccess success).target = command.target := by
  cases held : command.subscription <;> simp [ServiceCommand.addSuccess, held]

theorem addFailure_target (command : ServiceCommand) (failure : UserBlock) :
    (command.addFailure failure).target = command.target := by
  cases held : command.subscription <;> simp [ServiceCommand.addFailure, held]

theorem allRegistered_disconnect {service : DLNAService} (all : service.AllRegistered) :
    service.disconnect.AllRegistered := by
  apply allRegistered_servers all
  · rfl
  · intro server held
    refine ⟨server.stop, ?_, rfl⟩
    rw [disconnect, held]
    rfl

theorem startsEmpty_iff {service after : DLNAService} {event : DLNAEvent}
    (objects : service.AllSubscriptions) (all : service.AllRegistered)
    (taken : service.step event = some after) :
    service.startsEmpty event = true ↔ after.AllRegistered := by
  cases event with
  | setServiceDescription hasLocationXML =>
      cases taken
      refine iff_of_true rfl ?_
      unfold setServiceDescription
      split
      · rename_i creates
        apply allRegistered_servers all
        · rfl
        · intro server held
          rw [held, Option.isNone_some, Bool.and_false] at creates
          cases creates
      · exact all
  | createSubscription target =>
      cases taken
      exact iff_of_true rfl (allRegistered_allocate all rfl)
  | clone subscription =>
      simp only [DLNAService.step] at taken
      rcases toSubscription_cases taken with ⟨_, equal⟩ | ⟨_, cloned⟩
      · exact iff_of_true rfl (equal ▸ all)
      · cases cloned
        exact iff_of_true rfl (allRegistered_allocate all rfl)
  | addSuccess subscription success =>
      simp only [DLNAService.step] at taken
      rcases toSubscription_cases taken with ⟨_, equal⟩ | ⟨_, added⟩
      · exact iff_of_true rfl (equal ▸ all)
      · cases added
        refine iff_of_true rfl (allRegistered_modify all subscription _ ?_ ?_)
        · exact fun command => ServiceCommand.addSuccess_isSubscribed command success
        · exact fun command => addSuccess_target command success
  | addFailure subscription failure =>
      simp only [DLNAService.step] at taken
      rcases toSubscription_cases taken with ⟨_, equal⟩ | ⟨_, added⟩
      · exact iff_of_true rfl (equal ▸ all)
      · cases added
        refine iff_of_true rfl (allRegistered_modify all subscription _ ?_ ?_)
        · exact fun command => ServiceCommand.addFailure_isSubscribed command failure
        · exact fun command => addFailure_target command failure
  | subscribe subscription starts =>
      simp only [DLNAService.step] at taken
      rcases toSubscription_cases taken with ⟨absent, equal⟩ | ⟨allocated, subscribed⟩
      · refine iff_of_true ?_ (equal ▸ all)
        simp [startsEmpty, absent]
      · have running := subscribe_iff objects all allocated subscribed
        simpa [startsEmpty, allocated] using running
  | unsubscribe subscription =>
      simp only [DLNAService.step] at taken
      rcases toSubscription_cases taken with ⟨_, equal⟩ | ⟨_, unsubscribed⟩
      · exact iff_of_true rfl (equal ▸ all)
      · exact iff_of_true rfl (allRegistered_unsubscribe all unsubscribed)
  | connect starts =>
      cases taken
      exact connect_iff objects starts
  | disconnect =>
      cases taken
      exact iff_of_true rfl (allRegistered_disconnect all)
  | didLoseReachability =>
      cases taken
      refine iff_of_true rfl ?_
      split
      · exact allRegistered_disconnect all
      · exact all
  | processRequest url data =>
      rcases processRequest_frame taken with ⟨notified, equal⟩
      subst equal
      exact iff_of_true rfl (allRegistered_servers all rfl fun server held =>
        ⟨server, held, rfl⟩)

/-! ## Runs -/

theorem allSubscriptions_initially : AllSubscriptions {} := by
  intro subscription
  constructor
  · intro isSubscription
    cases isSubscription
  · intro allocated
    exact absurd allocated (Nat.not_lt_zero _)

theorem allRegistered_initially : AllRegistered {} := by
  intro subscription subscribed
  cases subscribed

/-- In every run what is subscribed is registered, exactly as long as the server is
started only while nothing is subscribed. -/
theorem run_allRegistered_iff {events : List DLNAEvent} {final : DLNAService}
    (reached : runFrom step {} events = some final) :
    EveryStep step (fun service event => service.startsEmpty event = true) {} events ↔
      Throughout step AllRegistered {} events := by
  refine everyStep_iff_throughout ?_ ?_ allSubscriptions_initially allRegistered_initially
    reached
  · intro service event next objects taken
    exact objects.step taken
  · intro service event next objects all taken
    exact startsEmpty_iff objects all taken

theorem run_allRegistered_iff_connected :
    Throughout step AllRegistered {}
      [.setServiceDescription true, .connect true,
        .createSubscription (some "http://10.0.0.2:80/event"), .subscribe ⟨0⟩ true,
        .disconnect] :=
  (run_allRegistered_iff rfl).mp (by decide)

/-- The table is emptied right after the subscription was put there. -/
theorem subscribed_but_not_registered :
    ∃ final, runFrom step {}
        [.setServiceDescription true,
          .createSubscription (some "http://10.0.0.2:80/event"), .subscribe ⟨0⟩ true] =
          some final ∧
      final.isSubscribed ⟨0⟩ = true ∧ final.isServerRunning = true ∧
      final.httpServer.map (fun server => server.subscriptionsFor "http://10.0.0.2:80/event") =
        some (some []) ∧ ¬final.AllRegistered := by
  refine ⟨_, rfl, rfl, rfl, by decide, ?_⟩
  intro all
  rcases (all ⟨0⟩ rfl).1 with ⟨server, is, _, key, _, _, values, found, _⟩
  cases is
  cases found

end DLNAService

end ConnectSDK
