import ConnectSDK.Devices.DeviceConnection
import Mathlib.Algebra.GroupWithZero.Nat
import Mathlib.Data.List.Basic

/-! # Disconnected messages

A device tells its delegate that it is disconnected once for the call, and once more for
each service that calls back while no service counts as connected. A service that is not
connectable always counts.
-/

namespace ConnectSDK

namespace DisconnectBlock

def message : DisconnectBlock → DisconnectMessage
  | .serviceDisconnected message => message
  | .deviceDisconnected message => message

/-- Whether a block gives a message to the delegate, for one call. -/
def isOwed (none : Bool) : DisconnectBlock → Bool
  | .serviceDisconnected message => none && message.fromCall
  | .deviceDisconnected message => message.fromCall

/-- The blocks that come of a block, and it itself. -/
def weight : DisconnectBlock → Nat
  | .serviceDisconnected _ => 2
  | .deviceDisconnected _ => 1

end DisconnectBlock

namespace DeviceConnection

/-- How often the delegate was told because of the call. -/
def told (device : DeviceConnection) : Nat :=
  device.messages.countP DisconnectMessage.fromCall

def isIdle (device : DeviceConnection) : Bool :=
  decide (device.connectedServiceCount = 0)

/-- How often it was told, and will be. -/
def due (device : DeviceConnection) : Nat :=
  device.told + device.mainQueue.countP (DisconnectBlock.isOwed device.isIdle)

/-- Whatever order the blocks run in and the web sockets close in, the delegate is told once
because of the call. -/
def TellsOnce (device : DeviceConnection) : Prop :=
  ∀ events, (device.run events).mainQueue = [] → (device.run events).told = 1

/-! ## The main queue -/

theorem serviceDisconnected_eq (device : DeviceConnection) (message : DisconnectMessage) :
    device.serviceDisconnected message =
      if device.isIdle then device.dispatchOnMain [.deviceDisconnected message]
      else device := by
  have counted : device.connectedServiceCount ≤ device.services.length :=
    List.countP_le_length
  unfold serviceDisconnected isIdle
  by_cases idle : device.connectedServiceCount = 0
  · rw [if_pos (.inl idle), decide_eq_true idle, if_pos rfl]
  · rw [if_neg (by omega), decide_eq_false idle, if_neg Bool.false_ne_true]

theorem due_dispatchOnMain (device : DeviceConnection) (blocks : List DisconnectBlock) :
    (device.dispatchOnMain blocks).due =
      device.due + blocks.countP (DisconnectBlock.isOwed device.isIdle) := by
  have same : (device.dispatchOnMain blocks).isIdle = device.isIdle := rfl
  unfold due
  rw [same, dispatchOnMain, List.countP_append, ← Nat.add_assoc]
  rfl

theorem runBlock_services (device : DeviceConnection) (block : DisconnectBlock) :
    (device.runBlock block).services = device.services := by
  cases block with
  | serviceDisconnected message =>
      dsimp only [runBlock]
      rw [serviceDisconnected_eq]
      split_ifs <;> rfl
  | deviceDisconnected message => rfl

theorem due_runBlock (device : DeviceConnection) (block : DisconnectBlock) :
    (device.runBlock block).due =
      device.due + [block].countP (DisconnectBlock.isOwed device.isIdle) := by
  cases block with
  | serviceDisconnected message =>
      dsimp only [runBlock]
      rw [serviceDisconnected_eq]
      cases idle : device.isIdle with
      | true =>
          rw [if_pos rfl, due_dispatchOnMain, idle]
          rfl
      | false =>
          rw [if_neg Bool.false_ne_true]
          rfl
  | deviceDisconnected message =>
      have same : DeviceConnection.isIdle { device with
          messages := device.messages ++ [message] } = device.isIdle := rfl
      have owed : ∀ idle, [DisconnectBlock.deviceDisconnected message].countP
          (DisconnectBlock.isOwed idle) = [message].countP DisconnectMessage.fromCall :=
        fun _ => rfl
      simp only [runBlock, due, told, List.countP_append, same, owed]
      omega

/-- Running a block makes no message due that was not. -/
theorem due_runNext (device : DeviceConnection) : device.runNext.due = device.due := by
  unfold runNext
  cases queued : device.mainQueue with
  | nil => rfl
  | cons block rest =>
      have same : DeviceConnection.isIdle { device with mainQueue := rest } =
          device.isIdle := rfl
      have sameTold : DeviceConnection.told { device with mainQueue := rest } =
          device.told := rfl
      have popped : (block :: rest).countP (DisconnectBlock.isOwed device.isIdle) =
          [block].countP (DisconnectBlock.isOwed device.isIdle) +
            rest.countP (DisconnectBlock.isOwed device.isIdle) := by
        rw [← List.countP_append, List.singleton_append]
      rw [due_runBlock, due, due, queued, same, sameTold, popped]
      dsimp only
      omega

theorem runNext_services (device : DeviceConnection) :
    device.runNext.services = device.services := by
  unfold runNext
  cases device.mainQueue with
  | nil => rfl
  | cons block rest => exact runBlock_services _ block

/-- Whether a service counts as connected. -/
def counts (service : ServiceConnection) : Bool :=
  if service.isConnectable then service.connected else true

theorem isIdle_congr {device other : DeviceConnection}
    (same : other.services.map counts = device.services.map counts) :
    other.isIdle = device.isIdle := by
  have counted : ∀ device : DeviceConnection,
      device.connectedServiceCount = (device.services.map counts).countP id := by
    intro device
    rw [List.countP_map]
    rfl
  unfold isIdle
  rw [counted, counted, same]

theorem map_set_of_eq {services : List ServiceConnection} {index : Nat}
    {service changed : ServiceConnection} (found : services[index]? = some service)
    (same : counts changed = counts service) :
    (services.set index changed).map counts = services.map counts := by
  apply List.ext_getElem?
  intro other
  rw [List.getElem?_map, List.getElem?_map]
  by_cases equal : index = other
  · subst equal
    have inside := (List.getElem?_eq_some_iff.mp found).1
    rw [List.getElem?_set_self inside, found]
    exact congrArg some same
  · rw [List.getElem?_set_ne equal]

/-! ## Closing web sockets -/

/-- No web socket that closes because of the call calls the device back. -/
def ClosesSilently (device : DeviceConnection) : Prop :=
  ∀ service ∈ device.services, service.closing = some true → service.delegate = false

theorem due_callBack (device : DeviceConnection) (service : ServiceConnection)
    (message : DisconnectMessage) :
    (device.callBack service message).due =
      device.due + (service.delegate && device.isIdle && message.fromCall).toNat := by
  unfold callBack
  cases service.delegate with
  | true =>
      rw [if_pos rfl, due_dispatchOnMain]
      cases idle : device.isIdle <;> cases called : message.fromCall <;>
        simp [DisconnectBlock.isOwed, called]
  | false => rfl

theorem callBack_services (device : DeviceConnection) (service : ServiceConnection)
    (message : DisconnectMessage) :
    (device.callBack service message).services = device.services := by
  unfold callBack
  split_ifs <;> rfl

theorem webSocketClosed_cases (device : DeviceConnection) (index : Nat)
    (error : Option NSError) :
    device.webSocketClosed index error = device ∨
      ∃ service fromCall, device.services[index]? = some service ∧
        service.closing = some fromCall ∧ device.webSocketClosed index error =
          (device.setService index { service with closing := none }).callBack service
            ⟨error, fromCall⟩ := by
  unfold webSocketClosed
  cases found : device.services[index]? with
  | none => exact .inl rfl
  | some service =>
      cases closing : service.closing with
      | none => exact .inl (by simp only [closing])
      | some fromCall => exact .inr ⟨service, fromCall, rfl, closing, by simp only [closing]⟩

theorem webSocketClosed_isIdle (device : DeviceConnection) (index : Nat)
    (error : Option NSError) :
    (device.webSocketClosed index error).isIdle = device.isIdle := by
  rcases device.webSocketClosed_cases index error with
    same | ⟨service, fromCall, found, closing, same⟩
  · rw [same]
  · rw [same]
    apply isIdle_congr
    rw [callBack_services]
    exact map_set_of_eq found rfl

theorem ClosesSilently.webSocketClosed {device : DeviceConnection}
    (silent : device.ClosesSilently) (index : Nat) (error : Option NSError) :
    (device.webSocketClosed index error).ClosesSilently := by
  rcases device.webSocketClosed_cases index error with
    same | ⟨service, fromCall, found, closing, same⟩
  · rw [same]
    exact silent
  · rw [same]
    intro other member asked
    rw [callBack_services] at member
    rcases List.mem_or_eq_of_mem_set member with before | changed
    · exact silent other before asked
    · subst changed
      cases asked

theorem due_webSocketClosed {device : DeviceConnection}
    (stays : device.ClosesSilently ∨ device.isIdle = false) (index : Nat)
    (error : Option NSError) : (device.webSocketClosed index error).due = device.due := by
  rcases device.webSocketClosed_cases index error with
    same | ⟨service, fromCall, found, closing, same⟩
  · rw [same]
  · have idle : (device.setService index { service with closing := none }).isIdle =
        device.isIdle := isIdle_congr (map_set_of_eq found rfl)
    have sameDue : (device.setService index { service with closing := none }).due =
        device.due := by
      unfold due
      rw [idle]
      rfl
    have undue : (service.delegate && device.isIdle && fromCall) = false := by
      rcases stays with silent | counted
      · cases fromCall with
        | true =>
            rw [silent service (List.mem_of_getElem? found) closing]
            rfl
        | false => rw [Bool.and_false]
      · rw [counted, Bool.and_false, Bool.false_and]
    rw [same, due_callBack, idle, sameDue]
    dsimp only
    rw [undue]
    rfl

/-! ## Running dry -/

theorem run_runNext_due (device : DeviceConnection) (count : Nat) :
    (device.run (List.replicate count .runNext)).due = device.due := by
  induction count generalizing device with
  | zero => rfl
  | succ count induction =>
      rw [List.replicate_succ]
      exact (induction device.runNext).trans device.due_runNext

theorem due_of_dry {device : DeviceConnection} (dry : device.mainQueue = []) :
    device.due = device.told := by
  rw [due, dry]
  rfl

theorem runBlock_weight (device : DeviceConnection) (block : DisconnectBlock) :
    ((device.runBlock block).mainQueue.map DisconnectBlock.weight).sum + 1 ≤
      (device.mainQueue.map DisconnectBlock.weight).sum + block.weight := by
  cases block with
  | serviceDisconnected message =>
      dsimp only [runBlock]
      rw [serviceDisconnected_eq]
      split_ifs
      · simp [dispatchOnMain, DisconnectBlock.weight]
      · simp [DisconnectBlock.weight]
  | deviceDisconnected message => exact Nat.le_refl _

theorem exists_run_dry (device : DeviceConnection) :
    ∃ count, (device.run (List.replicate count .runNext)).mainQueue = [] := by
  have bounded : ∀ (bound : Nat) (device : DeviceConnection),
      (device.mainQueue.map DisconnectBlock.weight).sum ≤ bound →
        ∃ count, (device.run (List.replicate count .runNext)).mainQueue = [] := by
    intro bound
    induction bound with
    | zero =>
        intro device small
        refine ⟨0, ?_⟩
        cases queued : device.mainQueue with
        | nil => exact queued
        | cons block rest =>
            rw [queued, List.map_cons, List.sum_cons] at small
            cases block <;> simp only [DisconnectBlock.weight] at small <;> omega
    | succ bound induction =>
        intro device small
        cases queued : device.mainQueue with
        | nil => exact ⟨0, queued⟩
        | cons block rest =>
            have lighter := runBlock_weight { device with mainQueue := rest } block
            have ran : device.runNext = runBlock { device with mainQueue := rest } block := by
              rw [runNext, queued]
            rw [queued, List.map_cons, List.sum_cons] at small
            dsimp only at lighter
            rw [← ran] at lighter
            rcases induction device.runNext (by omega) with ⟨count, dry⟩
            refine ⟨count + 1, ?_⟩
            rw [List.replicate_succ]
            exact dry
  exact bounded _ device (Nat.le_refl _)

/-- What is due just after the call is what the delegate is told. -/
theorem TellsOnce.due {device : DeviceConnection} (tells : device.TellsOnce) :
    device.due = 1 := by
  rcases device.exists_run_dry with ⟨count, dry⟩
  rw [← device.run_runNext_due count, due_of_dry dry]
  exact tells _ dry

/-- Without web sockets that call back late, or with a service that still counts, what is
due stays. -/
theorem run_due {device : DeviceConnection} (events : List DisconnectEvent)
    (stays : device.ClosesSilently ∨ device.isIdle = false) :
    (device.run events).due = device.due := by
  induction events generalizing device with
  | nil => rfl
  | cons event events induction =>
      have step : (device.step event).due = device.due ∧
          ((device.step event).ClosesSilently ∨ (device.step event).isIdle = false) := by
        cases event with
        | runNext =>
            have same := device.runNext_services
            refine ⟨device.due_runNext, stays.imp (fun silent => ?_) fun counted => ?_⟩
            · unfold ClosesSilently
              rw [step, same]
              exact silent
            · exact (isIdle_congr (by rw [step, same])).trans counted
        | webSocketClosed index error =>
            refine ⟨due_webSocketClosed stays index error,
              stays.imp (fun silent => ?_) fun counted => ?_⟩
            · exact silent.webSocketClosed index error
            · exact (device.webSocketClosed_isIdle index error).trans counted
      exact (induction step.2).trans step.1

theorem tellsOnce_iff {device : DeviceConnection}
    (stays : device.due = 1 → device.ClosesSilently ∨ device.isIdle = false) :
    device.TellsOnce ↔ device.due = 1 := by
  constructor
  · exact TellsOnce.due
  · intro once events dry
    rw [← due_of_dry dry, run_due events (stays once), once]

/-! ## The services that the call disconnects -/

/-- A service after the call. -/
def disconnected (service : ServiceConnection) : ServiceConnection :=
  if service.connected && service.isConnectable then
    { service with
      connected := false
      closing := if service.serviceClass = .webOSTVService then some true
        else service.closing }
  else service

/-- Whether a service calls the device back when the call disconnects it. -/
def callsBack (service : ServiceConnection) : Bool :=
  service.connected && service.isConnectable && service.delegate

/-- What a call puts on the main queue: callbacks of services, and messages for those that
call back at once when no service counts as connected any more. -/
structure Schedules (device after : DeviceConnection) (blocks : List DisconnectBlock) :
    Prop where
  mainQueue : after.mainQueue = device.mainQueue ++ blocks
  messages : after.messages = device.messages
  fromCall : ∀ block ∈ blocks, block.message.fromCall = true
  callbacks : after.isIdle = false → ∀ block ∈ blocks, ∀ message,
    block ≠ .deviceDisconnected message

theorem schedules_none (device : DeviceConnection) (services : List ServiceConnection) :
    Schedules device { device with services } [] where
  mainQueue := (List.append_nil _).symm
  messages := rfl
  fromCall block member := by cases member
  callbacks _ block member := by cases member

theorem Schedules.callBack {device after : DeviceConnection} {blocks : List DisconnectBlock}
    (schedules : Schedules device after blocks) {service : ServiceConnection}
    (delegate : service.delegate = true) (error : Option NSError) :
    Schedules device (after.callBack service ⟨error, true⟩)
      (blocks ++ [.serviceDisconnected ⟨error, true⟩]) := by
  rw [DeviceConnection.callBack, if_pos delegate]
  refine ⟨?_, schedules.messages, ?_, ?_⟩
  · rw [dispatchOnMain, schedules.mainQueue, List.append_assoc]
  · intro block member
    rcases List.mem_append.mp member with before | own
    · exact schedules.fromCall block before
    · rw [List.mem_singleton.mp own]
      rfl
  · intro counted block member
    rcases List.mem_append.mp member with before | own
    · exact schedules.callbacks counted block before
    · rw [List.mem_singleton.mp own]
      intro message impossible
      cases impossible

theorem serviceDisconnected_isIdle (device : DeviceConnection) (message : DisconnectMessage) :
    (device.serviceDisconnected message).isIdle = device.isIdle := by
  rw [serviceDisconnected_eq]
  split_ifs <;> rfl

/-- A mirrored AirPlay connection calls back at once. -/
theorem schedules_serviceDisconnected (device : DeviceConnection)
    (services : List ServiceConnection) (error : Option NSError) :
    ∃ blocks, Schedules device
      (serviceDisconnected { device with services } ⟨error, true⟩) blocks ∧
        blocks.length = (DeviceConnection.isIdle { device with services }).toNat := by
  rw [serviceDisconnected_eq]
  cases idle : DeviceConnection.isIdle { device with services } with
  | false => exact ⟨[], schedules_none device services, rfl⟩
  | true =>
      refine ⟨_, ⟨rfl, rfl, ?_, ?_⟩, rfl⟩
      · intro block member
        rw [List.mem_singleton.mp member]
        rfl
      · intro counted
        cases idle.symm.trans counted

theorem disconnectMirrored_services (device : DeviceConnection) (index : Nat)
    (service : ServiceConnection) :
    (device.disconnectMirrored index service).services =
      device.services.set index { service with connected := false } := by
  unfold disconnectMirrored
  cases service.delegate with
  | true =>
      rw [if_pos rfl, serviceDisconnected_eq]
      split_ifs <;> rfl
  | false => rfl

theorem disconnectService_services (device : DeviceConnection) {index : Nat}
    {service : ServiceConnection} (found : device.services[index]? = some service)
    (connected : service.connected = true) :
    (device.disconnectService index service).services =
      device.services.set index (disconnected service) := by
  rcases service with ⟨serviceClass, online, delegate, closing⟩
  cases connected
  cases serviceClass with
  | deviceService =>
      rcases List.getElem?_eq_some_iff.mp found with ⟨inside, equal⟩
      have unchanged := List.set_getElem_self inside
      rw [equal] at unchanged
      exact unchanged.symm
  | reachable serviceClass => exact callBack_services _ _ _
  | webOSTVService => exact callBack_services _ _ _
  | airPlayServiceHTTP => exact callBack_services _ _ _
  | airPlayServiceMirrored =>
      exact (callBack_services _ _ _).trans (device.disconnectMirrored_services index _)

theorem schedules_callBack (device : DeviceConnection) (services : List ServiceConnection)
    (service : ServiceConnection) (error : Option NSError) :
    ∃ blocks, Schedules device
      (DeviceConnection.callBack { device with services } service ⟨error, true⟩) blocks ∧
        blocks.length = service.delegate.toNat := by
  cases delegate : service.delegate with
  | true => exact ⟨_, (schedules_none device services).callBack delegate error, rfl⟩
  | false =>
      refine ⟨[], ?_, rfl⟩
      rw [DeviceConnection.callBack, if_neg (by rw [delegate]; exact Bool.false_ne_true)]
      exact schedules_none device services

theorem schedules_disconnectService (device : DeviceConnection) (index : Nat)
    (service : ServiceConnection) (connected : service.connected = true) :
    ∃ blocks, Schedules device (device.disconnectService index service) blocks ∧
      (blocks = [] ↔ callsBack service = false) := by
  have calls : ∀ services, ∃ blocks, Schedules device
      (DeviceConnection.callBack { device with services } service ⟨none, true⟩) blocks ∧
        (blocks = [] ↔ service.delegate = false) := by
    intro services
    rcases schedules_callBack device services service none with ⟨blocks, schedules, length⟩
    refine ⟨blocks, schedules, ?_⟩
    rw [← List.length_eq_zero_iff, length]
    cases service.delegate <;> decide
  unfold disconnectService callsBack ServiceConnection.isConnectable
  rw [connected]
  cases service.serviceClass with
  | deviceService => exact ⟨[], schedules_none device device.services, iff_of_true rfl rfl⟩
  | reachable serviceClass => exact calls _
  | webOSTVService => exact calls _
  | airPlayServiceHTTP => exact calls _
  | airPlayServiceMirrored =>
      dsimp only [disconnectMirrored]
      cases delegate : service.delegate with
      | true =>
          rw [if_pos rfl]
          rcases schedules_serviceDisconnected device
            (device.services.set index { service with connected := false }) none with
            ⟨blocks, schedules, _⟩
          rw [delegate] at schedules
          refine ⟨_, schedules.callBack delegate none, ?_⟩
          exact iff_of_false (List.append_ne_nil_of_right_ne_nil _ (List.cons_ne_nil _ _))
            Bool.true_eq_false.mp
      | false =>
          rw [if_neg Bool.false_ne_true, DeviceConnection.callBack,
            if_neg (by rw [delegate]; exact Bool.false_ne_true)]
          exact ⟨[], schedules_none device _, iff_of_true rfl rfl⟩

/-! ## The enumeration -/

theorem isIdle_iff (device : DeviceConnection) :
    device.isIdle = true ↔ ∀ service ∈ device.services, counts service = false := by
  unfold isIdle connectedServiceCount
  rw [decide_eq_true_iff, List.countP_eq_zero]
  refine forall₂_congr fun service _ => ?_
  exact Bool.eq_false_iff.symm

/-- Only a service that is not connectable counts after the call. -/
theorem counts_disconnected (service : ServiceConnection) :
    counts (disconnected service) = !service.isConnectable := by
  cases connectable : service.isConnectable with
  | false =>
      rw [disconnected, connectable, Bool.and_false, if_neg Bool.false_ne_true, counts,
        connectable]
      rfl
  | true =>
      cases connected : service.connected with
      | true =>
          rw [disconnected, connectable, connected, Bool.and_true, if_pos rfl, counts]
          have same : ServiceConnection.isConnectable { service with
              connected := false
              closing := if service.serviceClass = .webOSTVService then some true
                else service.closing } = true := connectable
          rw [if_pos same]
          rfl
      | false =>
          rw [disconnected, connected, Bool.false_and, if_neg Bool.false_ne_true, counts,
            connectable, if_pos rfl, connected]
          rfl

theorem counts_of_disconnected {service : ServiceConnection}
    (counted : counts (disconnected service) = true) : counts service = true := by
  rw [counts_disconnected, Bool.not_eq_true'] at counted
  rw [counts, counted, if_neg Bool.false_ne_true]

theorem set_eq_modify {services : List ServiceConnection} {index : Nat}
    {service : ServiceConnection} (found : services[index]? = some service)
    (change : ServiceConnection → ServiceConnection) :
    services.set index (change service) = services.modify index change := by
  apply List.ext_getElem?
  intro other
  by_cases equal : index = other
  · subst equal
    have inside := (List.getElem?_eq_some_iff.mp found).1
    rw [List.getElem?_set_self inside, List.getElem?_modify_eq, found]
    rfl
  · rw [List.getElem?_set_ne equal, List.getElem?_modify_ne change services equal]

theorem disconnectAt_services (device : DeviceConnection) (index : Nat) :
    (device.disconnectAt index).services = device.services.modify index disconnected := by
  unfold disconnectAt
  cases found : device.services[index]? with
  | none => exact (List.modify_eq_self (List.getElem?_eq_none_iff.mp found)).symm
  | some service =>
      cases connected : service.connected with
      | true =>
          simp only [connected, if_true]
          rw [disconnectService_services device found connected]
          exact set_eq_modify found disconnected
      | false =>
          have same : disconnected service = service := by
            rw [disconnected, connected, Bool.false_and, if_neg Bool.false_ne_true]
          have unchanged := set_eq_modify found disconnected
          rcases List.getElem?_eq_some_iff.mp found with ⟨inside, equal⟩
          rw [same, ← equal, List.set_getElem_self] at unchanged
          simp only [connected, Bool.false_eq_true, if_false]
          exact unchanged

theorem schedules_disconnectAt (device : DeviceConnection) (index : Nat) :
    ∃ blocks, Schedules device (device.disconnectAt index) blocks ∧
      (blocks = [] ↔ ∀ service, device.services[index]? = some service →
        callsBack service = false) := by
  unfold disconnectAt
  cases found : device.services[index]? with
  | none =>
      refine ⟨[], schedules_none device device.services, iff_of_true rfl ?_⟩
      intro service impossible
      cases impossible
  | some service =>
      simp only [Option.some.injEq, forall_eq']
      cases connected : service.connected with
      | true =>
          rw [if_pos rfl]
          exact schedules_disconnectService device index service connected
      | false =>
          rw [if_neg Bool.false_ne_true]
          refine ⟨[], schedules_none device device.services, iff_of_true rfl ?_⟩
          rw [callsBack, connected]
          rfl

theorem isIdle_disconnectAt {device : DeviceConnection} {index : Nat}
    (idle : device.isIdle = true) : (device.disconnectAt index).isIdle = true := by
  rw [isIdle_iff, disconnectAt_services]
  intro service member
  rcases List.mem_iff_getElem?.mp member with ⟨position, found⟩
  rw [List.getElem?_modify] at found
  rcases Option.map_eq_some_iff.mp found with ⟨before, held, changed⟩
  have uncounted := (isIdle_iff device).mp idle before (List.mem_of_getElem? held)
  split_ifs at changed
  · rw [← changed, Bool.eq_false_iff]
    intro counted
    cases uncounted.symm.trans (counts_of_disconnected counted)
  · rw [← changed]
    exact uncounted

theorem Schedules.trans {device middle after : DeviceConnection}
    {first second : List DisconnectBlock} (before : Schedules device middle first)
    (later : Schedules middle after second)
    (idles : middle.isIdle = true → after.isIdle = true) :
    Schedules device after (first ++ second) := by
  refine ⟨?_, later.messages.trans before.messages, ?_, ?_⟩
  · rw [later.mainQueue, before.mainQueue, List.append_assoc]
  · intro block member
    rcases List.mem_append.mp member with old | new
    · exact before.fromCall block old
    · exact later.fromCall block new
  · intro counted block member
    rcases List.mem_append.mp member with old | new
    · refine before.callbacks ?_ block old
      rw [Bool.eq_false_iff]
      intro idle
      cases counted.symm.trans (idles idle)
    · exact later.callbacks counted block new

/-- The device after the first services of the enumeration. -/
def enumerated (device : DeviceConnection) (count : Nat) : DeviceConnection :=
  (List.range count).foldl disconnectAt device

theorem enumerated_succ (device : DeviceConnection) (count : Nat) :
    device.enumerated (count + 1) = (device.enumerated count).disconnectAt count := by
  rw [enumerated, List.range_succ, List.foldl_append]
  rfl

theorem getElem?_enumerated (device : DeviceConnection) (count index : Nat) :
    (device.enumerated count).services[index]? =
      device.services[index]?.map fun service =>
        if index < count then disconnected service else service := by
  induction count with
  | zero =>
      simp only [Nat.not_lt_zero, if_false]
      exact Option.map_id'.symm
  | succ count induction =>
      rw [enumerated_succ, disconnectAt_services, List.getElem?_modify, induction]
      cases device.services[index]? with
      | none => rfl
      | some service =>
          simp only [Option.map_some, Option.map_eq_map, Option.some.injEq]
          rcases Nat.lt_trichotomy index count with less | equal | more
          · rw [if_neg (by omega), if_pos less, if_pos (by omega)]
          · rw [if_pos equal.symm, if_neg (by omega), if_pos (by omega)]
          · rw [if_neg (by omega), if_neg (by omega), if_neg (by omega)]

theorem schedules_enumerated (device : DeviceConnection) (count : Nat) :
    ∃ blocks, Schedules device (device.enumerated count) blocks ∧
      (blocks = [] ↔ ∀ index < count, ∀ service, device.services[index]? = some service →
        callsBack service = false) := by
  induction count with
  | zero =>
      refine ⟨[], schedules_none device device.services, iff_of_true rfl ?_⟩
      intro index impossible
      cases impossible
  | succ count induction =>
      rcases induction with ⟨blocks, schedules, silent⟩
      rcases schedules_disconnectAt (device.enumerated count) count with ⟨next, later, quiet⟩
      have own : (device.enumerated count).services[count]? = device.services[count]? := by
        rw [getElem?_enumerated]
        simp only [Nat.lt_irrefl, if_false]
        exact Option.map_id'
      rw [own] at quiet
      rw [enumerated_succ]
      refine ⟨blocks ++ next, schedules.trans later isIdle_disconnectAt, ?_⟩
      rw [List.append_eq_nil_iff, silent, quiet]
      constructor
      · rintro ⟨before, last⟩ index inside service found
        rcases Nat.lt_succ_iff_lt_or_eq.mp inside with less | equal
        · exact before index less service found
        · subst equal
          exact last service found
      · intro every
        exact ⟨fun index less => every index (Nat.lt_succ_of_lt less),
          every count (Nat.lt_succ_self count)⟩

theorem enumerated_services (device : DeviceConnection) :
    (device.enumerated device.services.length).services =
      device.services.map disconnected := by
  apply List.ext_getElem?
  intro index
  rw [getElem?_enumerated, List.getElem?_map]
  cases found : device.services[index]? with
  | none => rfl
  | some service =>
      have inside := (List.getElem?_eq_some_iff.mp found).1
      rw [Option.map_some, if_pos inside]
      rfl

/-! ## What is due after a call -/

/-- Nothing is marked as a consequence of the call yet. -/
structure Earlier (device : DeviceConnection) : Prop where
  mainQueue : ∀ block ∈ device.mainQueue, block.message.fromCall = false
  messages : ∀ message ∈ device.messages, message.fromCall = false
  closing : ∀ service ∈ device.services, service.closing ≠ some true

theorem isOwed_of_earlier {block : DisconnectBlock} (earlier : block.message.fromCall = false)
    (idle : Bool) : block.isOwed idle = false := by
  cases block with
  | serviceDisconnected message =>
      have before : message.fromCall = false := earlier
      rw [DisconnectBlock.isOwed, before, Bool.and_false]
  | deviceDisconnected message => exact earlier

theorem Schedules.due_eq {device after : DeviceConnection} {blocks : List DisconnectBlock}
    (schedules : Schedules device after blocks) (earlier : device.Earlier) :
    after.due = if after.isIdle then blocks.length else 0 := by
  have untold : after.told = 0 := by
    rw [told, schedules.messages, List.countP_eq_zero]
    intro message member
    rw [earlier.messages message member]
    exact Bool.false_ne_true
  have unowed : ∀ idle, device.mainQueue.countP (DisconnectBlock.isOwed idle) = 0 := by
    intro idle
    rw [List.countP_eq_zero]
    intro block member
    rw [isOwed_of_earlier (earlier.mainQueue block member)]
    exact Bool.false_ne_true
  rw [due, untold, schedules.mainQueue, List.countP_append, unowed, Nat.zero_add, Nat.zero_add]
  cases idle : after.isIdle with
  | true =>
      rw [if_pos rfl, List.countP_eq_length]
      intro block member
      have own := schedules.fromCall block member
      cases block <;> exact own
  | false =>
      rw [if_neg Bool.false_ne_true, List.countP_eq_zero]
      intro block member
      cases block with
      | serviceDisconnected message => exact Bool.false_ne_true
      | deviceDisconnected message =>
          exact absurd rfl (schedules.callbacks idle _ member message)

theorem isIdle_enumerated_iff (device : DeviceConnection) :
    (device.enumerated device.services.length).isIdle = true ↔
      ∀ service ∈ device.services, service.isConnectable = true := by
  rw [isIdle_iff, enumerated_services, List.forall_mem_map]
  refine forall₂_congr fun service _ => ?_
  rw [counts_disconnected, Bool.not_eq_false']

/-- A disconnected device tells its delegate once only if no service calls back, or one is
not connectable. -/
theorem disconnect_tellsOnce_iff {device : DeviceConnection} (earlier : device.Earlier) :
    device.disconnect.TellsOnce ↔
      (∃ service ∈ device.services, service.isConnectable = false) ∨
        ∀ service ∈ device.services, service.connected = true → service.delegate = false := by
  rcases device.schedules_enumerated device.services.length with ⟨blocks, schedules, silent⟩
  have idles := device.isIdle_enumerated_iff
  have due : device.disconnect.due =
      (if (device.enumerated device.services.length).isIdle then blocks.length else 0) + 1 := by
    rw [← schedules.due_eq earlier]
    exact due_dispatchOnMain _ _
  have sameIdle : device.disconnect.isIdle =
      (device.enumerated device.services.length).isIdle := rfl
  cases idle : (device.enumerated device.services.length).isIdle with
  | false =>
      rw [tellsOnce_iff fun _ => .inr (sameIdle.trans idle), due, idle]
      refine iff_of_true rfl (.inl ?_)
      by_contra connectable
      have every : ∀ service ∈ device.services, service.isConnectable = true := by
        intro service member
        by_contra other
        exact connectable ⟨service, member, Bool.eq_false_iff.mpr other⟩
      cases idle.symm.trans (idles.mpr every)
  | true =>
      have connectable := idles.mp idle
      have quiet : blocks = [] ↔
          ∀ service ∈ device.services, service.connected = true → service.delegate = false := by
        rw [silent]
        constructor
        · intro every service member connected
          rcases List.mem_iff_getElem?.mp member with ⟨index, found⟩
          have inside := (List.getElem?_eq_some_iff.mp found).1
          have calls := every index inside service found
          rw [callsBack, connected, connectable service member] at calls
          exact calls
        · intro every index _ service found
          have member := List.mem_of_getElem? found
          cases connected : service.connected with
          | true => rw [callsBack, every service member connected, Bool.and_false]
          | false => rw [callsBack, connected, Bool.false_and, Bool.false_and]
      have stays : device.disconnect.due = 1 → device.disconnect.ClosesSilently := by
        intro once after member asked
        rw [due, idle, if_pos rfl, Nat.add_eq_right, List.length_eq_zero_iff, quiet] at once
        have services : device.disconnect.services = device.services.map disconnected :=
          device.enumerated_services
        rw [services] at member
        rcases List.mem_map.mp member with ⟨service, before, equal⟩
        subst equal
        cases calls : service.connected && service.isConnectable with
        | true =>
            rw [disconnected, if_pos calls]
            exact once service before (Bool.and_eq_true_iff.mp calls).1
        | false =>
            rw [disconnected, if_neg (Bool.eq_false_iff.mp calls)] at asked
            exact absurd asked (earlier.closing service before)
      rw [tellsOnce_iff fun once => .inl (stays once), due, idle, if_pos rfl, Nat.add_eq_right,
        List.length_eq_zero_iff, quiet]
      refine (or_iff_right ?_).symm
      rintro ⟨service, member, other⟩
      cases other.symm.trans (connectable service member)

/-! ## Losing the last connection -/

/-- Of the connectable services only one is connected. -/
structure LastConnected (device : DeviceConnection) (index : Nat)
    (service : ServiceConnection) : Prop where
  found : device.services[index]? = some service
  connected : service.connected = true
  connectable : service.isConnectable = true
  last : ∀ other otherService, other ≠ index →
    device.services[other]? = some otherService → otherService.isConnectable = true →
      otherService.connected = false

/-- Whether losing a service calls the device back. -/
def reportsLoss (service : ServiceConnection) (certificateChanged : Bool) : Bool :=
  service.delegate && !(decide (service.serviceClass = .webOSTVService) && certificateChanged)

theorem LastConnected.lose_eq {device : DeviceConnection} {index : Nat}
    {service : ServiceConnection} (last : device.LastConnected index service)
    (error : Option NSError) (certificateChanged : Bool) :
    device.lose index error certificateChanged =
      match service.serviceClass with
      | .webOSTVService =>
          if certificateChanged then
            device.setService index { service with connected := false, closing := none }
          else
            (device.setService index
              { service with connected := false, closing := none }).callBack service
                ⟨error, true⟩
      | .airPlayServiceMirrored => device.disconnectMirrored index service
      | _ => device.disconnectService index service := by
  rw [lose, last.found]
  exact if_pos last.connected

/-- The lost service is not connected any more, whatever else becomes of it. -/
theorem LastConnected.lose_services {device : DeviceConnection} {index : Nat}
    {service : ServiceConnection} (last : device.LastConnected index service)
    (error : Option NSError) (certificateChanged : Bool) :
    ∃ closing, (closing = some true → service.closing = some true) ∧
      (device.lose index error certificateChanged).services =
        device.services.set index { service with connected := false, closing } := by
  rw [last.lose_eq]
  have connectable := last.connectable
  rcases service with ⟨serviceClass, online, delegate, closing⟩
  cases serviceClass with
  | deviceService => cases connectable
  | reachable serviceClass => exact ⟨closing, id, callBack_services _ _ _⟩
  | airPlayServiceHTTP => exact ⟨closing, id, callBack_services _ _ _⟩
  | webOSTVService =>
      refine ⟨none, (fun asked => by cases asked), ?_⟩
      cases certificateChanged with
      | true => rfl
      | false => exact callBack_services _ _ _
  | airPlayServiceMirrored => exact ⟨closing, id, device.disconnectMirrored_services _ _⟩

theorem LastConnected.isIdle_lose_iff {device : DeviceConnection} {index : Nat}
    {service : ServiceConnection} (last : device.LastConnected index service)
    (error : Option NSError) (certificateChanged : Bool) :
    (device.lose index error certificateChanged).isIdle = true ↔
      ∀ service ∈ device.services, service.isConnectable = true := by
  rcases last.lose_services error certificateChanged with ⟨closing, _, services⟩
  have inside := (List.getElem?_eq_some_iff.mp last.found).1
  rw [isIdle_iff, services]
  constructor
  · intro idle other member
    rcases List.mem_iff_getElem?.mp member with ⟨position, found⟩
    by_cases own : index = position
    · subst own
      rw [last.found] at found
      cases found
      exact last.connectable
    · have kept : (device.services.set index { service with connected := false, closing })[
          position]? = some other := (List.getElem?_set_ne own).trans found
      have uncounted := idle other (List.mem_of_getElem? kept)
      by_contra notConnectable
      rw [counts, if_neg notConnectable] at uncounted
      cases uncounted
  · intro connectable other member
    rcases List.mem_iff_getElem?.mp member with ⟨position, found⟩
    by_cases own : index = position
    · subst own
      rw [List.getElem?_set_self inside] at found
      cases found
      have same : ServiceConnection.isConnectable
          { service with connected := false, closing } = true := last.connectable
      rw [counts, if_pos same]
    · rw [List.getElem?_set_ne own] at found
      have isConnectable := connectable other (List.mem_of_getElem? found)
      rw [counts, if_pos isConnectable]
      exact last.last position other (Ne.symm own) found isConnectable

theorem schedules_disconnectMirrored (device : DeviceConnection) (index : Nat)
    (service : ServiceConnection) :
    ∃ blocks, Schedules device (device.disconnectMirrored index service) blocks ∧
      ((device.disconnectMirrored index service).isIdle = true →
        blocks.length = service.delegate.toNat) := by
  unfold disconnectMirrored
  cases delegate : service.delegate with
  | false => exact ⟨[], schedules_none device _, fun _ => rfl⟩
  | true =>
      rw [if_pos rfl]
      rcases schedules_serviceDisconnected device
        (device.services.set index { service with connected := false }) none with
        ⟨blocks, schedules, length⟩
      rw [delegate] at schedules length
      refine ⟨blocks, schedules, fun idle => ?_⟩
      rw [serviceDisconnected_isIdle] at idle
      rw [length]
      exact congrArg Bool.toNat idle

theorem LastConnected.schedules_lose {device : DeviceConnection} {index : Nat}
    {service : ServiceConnection} (last : device.LastConnected index service)
    (error : Option NSError) (certificateChanged : Bool) :
    ∃ blocks, Schedules device (device.lose index error certificateChanged) blocks ∧
      ((device.lose index error certificateChanged).isIdle = true →
        blocks.length = (reportsLoss service certificateChanged).toNat) := by
  have called : ∀ services error, ∃ blocks, Schedules device
      (DeviceConnection.callBack { device with services } service ⟨error, true⟩) blocks ∧
        ((DeviceConnection.callBack { device with services } service
            ⟨error, true⟩).isIdle = true → blocks.length = service.delegate.toNat) := by
    intro services error
    rcases schedules_callBack device services service error with ⟨blocks, schedules, length⟩
    exact ⟨blocks, schedules, fun _ => length⟩
  rw [last.lose_eq, reportsLoss]
  cases held : service.serviceClass with
  | deviceService =>
      have connectable := last.connectable
      rw [ServiceConnection.isConnectable, held] at connectable
      cases connectable
  | reachable serviceClass =>
      simp only [disconnectService, held, reduceCtorEq, decide_false, Bool.false_and,
        Bool.not_false, Bool.and_true]
      exact called _ none
  | airPlayServiceHTTP =>
      simp only [disconnectService, held, reduceCtorEq, decide_false, Bool.false_and,
        Bool.not_false, Bool.and_true]
      exact called _ none
  | webOSTVService =>
      cases certificateChanged with
      | true => exact ⟨[], schedules_none device _, fun _ => by simp⟩
      | false =>
          simp only [decide_true, Bool.and_false, Bool.not_false, Bool.and_true,
            Bool.false_eq_true, if_false]
          exact called _ error
  | airPlayServiceMirrored =>
      simp only [reduceCtorEq, decide_false, Bool.false_and, Bool.not_false, Bool.and_true]
      exact schedules_disconnectMirrored device index service

/-- The loss of the last connected service is told once only if every service is
connectable, the lost one has the device as its delegate and no certificate has changed. -/
theorem LastConnected.lose_tellsOnce_iff {device : DeviceConnection} {index : Nat}
    {service : ServiceConnection} (last : device.LastConnected index service)
    (earlier : device.Earlier) (error : Option NSError) (certificateChanged : Bool) :
    (device.lose index error certificateChanged).TellsOnce ↔
      (∀ service ∈ device.services, service.isConnectable = true) ∧
        reportsLoss service certificateChanged = true := by
  rcases last.schedules_lose error certificateChanged with ⟨blocks, schedules, length⟩
  rcases last.lose_services error certificateChanged with ⟨closing, asked, services⟩
  have silent : (device.lose index error certificateChanged).ClosesSilently := by
    intro other member closes
    rw [services] at member
    rcases List.mem_or_eq_of_mem_set member with before | own
    · exact absurd closes (earlier.closing other before)
    · subst own
      exact absurd (asked closes) (earlier.closing service (List.mem_of_getElem? last.found))
  have idles := last.isIdle_lose_iff error certificateChanged
  rw [tellsOnce_iff fun _ => .inl silent, schedules.due_eq earlier, ← idles]
  cases idle : (device.lose index error certificateChanged).isIdle with
  | false =>
      rw [if_neg Bool.false_ne_true]
      exact iff_of_false Nat.zero_ne_one fun both => Bool.false_ne_true both.1
  | true =>
      rw [if_pos rfl, length idle]
      cases reportsLoss service certificateChanged <;> decide

/-- When one call of `disconnect`, and when the loss of the last connected service, gives the
delegate one message. -/
theorem disconnected_tellsOnce_iff (device : DeviceConnection) (earlier : device.Earlier) :
    (device.disconnect.TellsOnce ↔
      (∃ service ∈ device.services, service.isConnectable = false) ∨
        ∀ service ∈ device.services, service.connected = true → service.delegate = false) ∧
      ∀ index service, device.LastConnected index service → ∀ error certificateChanged,
        ((device.lose index error certificateChanged).TellsOnce ↔
          (∀ service ∈ device.services, service.isConnectable = true) ∧
            reportsLoss service certificateChanged = true) :=
  ⟨disconnect_tellsOnce_iff earlier, fun _ _ last error certificateChanged =>
    last.lose_tellsOnce_iff earlier error certificateChanged⟩

/-- A device with a DLNA service and one that is not connectable. -/
def mediaServer : DeviceConnection where
  services := [{ serviceClass := .reachable .dlnaService, connected := true },
    { serviceClass := .deviceService, connected := false }]

theorem mediaServer_tellsOnce :
    mediaServer.disconnect.TellsOnce ∧ ¬(mediaServer.lose 0 none false).TellsOnce := by
  have earlier : mediaServer.Earlier := by
    refine ⟨(fun _ member => by cases member), (fun _ member => by cases member), ?_⟩
    decide
  have last : mediaServer.LastConnected 0
      { serviceClass := .reachable .dlnaService, connected := true } := by
    refine ⟨rfl, rfl, rfl, ?_⟩
    intro other service different found connectable
    rcases other with _ | _ | other
    · exact absurd rfl different
    · cases found
      cases connectable
    · cases found
  rcases disconnected_tellsOnce_iff mediaServer earlier with ⟨called, lost⟩
  constructor
  · exact called.mpr (.inl ⟨_, List.mem_cons_of_mem _ List.mem_cons_self, rfl⟩)
  · intro tells
    have connectable := ((lost 0 _ last none false).mp tells).1
    cases connectable _ (List.mem_cons_of_mem _ List.mem_cons_self)

/-- A device whose only service is connected tells its delegate twice. -/
theorem disconnect_told_twice :
    (DeviceConnection.run
      (disconnect { services := [{ serviceClass := .reachable .dlnaService, connected := true }] })
      [.runNext, .runNext, .runNext]).messages = [⟨none, true⟩, ⟨none, true⟩] ∧
    ¬(disconnect { services :=
      [{ serviceClass := .reachable .dlnaService, connected := true }] }).TellsOnce := by
  refine ⟨by decide, fun tells => ?_⟩
  have once := tells [.runNext, .runNext, .runNext] (by decide)
  revert once
  decide

end DeviceConnection

end ConnectSDK
