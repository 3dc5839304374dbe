import ConnectSDK.Foundation.Heap
import ConnectSDK.Foundation.JSON

/-! # Service commands and subscriptions

The objects of `ServiceCommand` and of its subclass `ServiceSubscription`.
-/

namespace ConnectSDK

/-- A block that the user of the SDK passes in. -/
abbrev UserBlock := Nat

/-- What a callback property holds: the user's blocks, or a block of the socket
client for its own `hello` or `register` message. -/
inductive Callback where
  | user (blocks : List UserBlock)
  | hello
  | register
deriving DecidableEq

/-- What `ServiceSubscription` adds. An unset call id is `none`, for `-1`. -/
structure ServiceSubscription where
  callId : Option Nat
  isSubscribed : Bool := false
  successCalls : List UserBlock := []
  failureCalls : List UserBlock := []

structure ServiceCommand where
  target : Option String := none
  payload : Option JSON.Fields := none
  callbackComplete : Option Callback := none
  callbackError : Option Callback := none
  subscription : Option ServiceSubscription := none

namespace ServiceCommand

/-- `[command isKindOfClass:[ServiceSubscription class]]`. -/
def isSubscription (command : ServiceCommand) : Bool :=
  command.subscription.isSome

def callId (command : ServiceCommand) : Option Nat :=
  command.subscription.bind ServiceSubscription.callId

def isSubscribed (command : ServiceCommand) : Bool :=
  command.subscription.any ServiceSubscription.isSubscribed

def subscriptionWithDelegate (target : Option String)
    (payload : Option JSON.Fields) (callId : Option Nat) : ServiceCommand where
  target
  payload
  subscription := some { callId }

def modifySubscription (command : ServiceCommand)
    (change : ServiceSubscription → ServiceSubscription) : ServiceCommand :=
  { command with subscription := command.subscription.map change }

def appendNew (blocks : List UserBlock) (block : UserBlock) : List UserBlock :=
  if block ∈ blocks then blocks else blocks ++ [block]

def addSuccess (command : ServiceCommand) (success : UserBlock) : ServiceCommand :=
  match command.subscription with
  | none => command
  | some subscription =>
      let successCalls := appendNew subscription.successCalls success
      { command with
        callbackComplete := some (.user successCalls)
        subscription := some { subscription with successCalls } }

def addFailure (command : ServiceCommand) (failure : UserBlock) : ServiceCommand :=
  match command.subscription with
  | none => command
  | some subscription =>
      let failureCalls := appendNew subscription.failureCalls failure
      { command with
        callbackError := some (.user failureCalls)
        subscription := some { subscription with failureCalls } }

/-- `if (success) [subscription addSuccess:success]`, and the same with the
failure block. -/
def addBlocks (command : ServiceCommand) (success failure : Option UserBlock) :
    ServiceCommand :=
  let command := success.elim command command.addSuccess
  failure.elim command command.addFailure

/-- The end of `-[ServiceSubscription subscribe]`, with the call id that the
delegate returned. -/
def didSubscribe (callId : Option Nat) (command : ServiceCommand) :
    ServiceCommand :=
  command.modifySubscription fun subscription =>
    { subscription with callId, isSubscribed := true }

/-- The end of `-[ServiceSubscription unsubscribe]`. -/
def didUnsubscribe (callId : Option Nat) (command : ServiceCommand) :
    ServiceCommand :=
  command.modifySubscription fun subscription =>
    { subscription with
      callId
      isSubscribed := false
      successCalls := []
      failureCalls := [] }

@[simp] theorem addSuccess_callId (command : ServiceCommand) (success : UserBlock) :
    (command.addSuccess success).callId = command.callId := by
  cases held : command.subscription <;> simp [addSuccess, callId, held]

@[simp] theorem addFailure_callId (command : ServiceCommand) (failure : UserBlock) :
    (command.addFailure failure).callId = command.callId := by
  cases held : command.subscription <;> simp [addFailure, callId, held]

@[simp] theorem addSuccess_isSubscription (command : ServiceCommand)
    (success : UserBlock) :
    (command.addSuccess success).isSubscription = command.isSubscription := by
  cases held : command.subscription <;> simp [addSuccess, isSubscription, held]

@[simp] theorem addFailure_isSubscription (command : ServiceCommand)
    (failure : UserBlock) :
    (command.addFailure failure).isSubscription = command.isSubscription := by
  cases held : command.subscription <;> simp [addFailure, isSubscription, held]

@[simp] theorem addSuccess_isSubscribed (command : ServiceCommand)
    (success : UserBlock) :
    (command.addSuccess success).isSubscribed = command.isSubscribed := by
  cases held : command.subscription <;> simp [addSuccess, isSubscribed, held]

@[simp] theorem addFailure_isSubscribed (command : ServiceCommand)
    (failure : UserBlock) :
    (command.addFailure failure).isSubscribed = command.isSubscribed := by
  cases held : command.subscription <;> simp [addFailure, isSubscribed, held]

theorem addBlocks_callId (command : ServiceCommand) (success failure : Option UserBlock) :
    (command.addBlocks success failure).callId = command.callId := by
  cases success <;> cases failure <;> simp [addBlocks]

theorem addBlocks_isSubscription (command : ServiceCommand)
    (success failure : Option UserBlock) :
    (command.addBlocks success failure).isSubscription = command.isSubscription := by
  cases success <;> cases failure <;> simp [addBlocks]

theorem addBlocks_isSubscribed (command : ServiceCommand)
    (success failure : Option UserBlock) :
    (command.addBlocks success failure).isSubscribed = command.isSubscribed := by
  cases success <;> cases failure <;> simp [addBlocks]

theorem didSubscribe_isSubscription (callId : Option Nat) (command : ServiceCommand) :
    (command.didSubscribe callId).isSubscription = command.isSubscription := by
  simp [didSubscribe, modifySubscription, isSubscription]

theorem didUnsubscribe_isSubscription (callId : Option Nat) (command : ServiceCommand) :
    (command.didUnsubscribe callId).isSubscription = command.isSubscription := by
  simp [didUnsubscribe, modifySubscription, isSubscription]

theorem didSubscribe_callId (command : ServiceCommand) (callId : Option Nat) :
    (command.didSubscribe callId).callId =
      if command.isSubscription then callId else none := by
  cases held : command.subscription <;>
    simp [didSubscribe, modifySubscription, ServiceCommand.callId, isSubscription, held]

theorem didUnsubscribe_callId (command : ServiceCommand) (callId : Option Nat) :
    (command.didUnsubscribe callId).callId =
      if command.isSubscription then callId else none := by
  cases held : command.subscription <;>
    simp [didUnsubscribe, modifySubscription, ServiceCommand.callId, isSubscription,
      held]

end ServiceCommand

end ConnectSDK
