import ConnectSDK.Helpers.ConnectError

/-! # Calls of a command's callbacks

A command has a callback for its result and one for an error, and either may be unset.
-/

namespace ConnectSDK

/-- An invocation of a callback. -/
inductive CommandCall (Response : Type) where
  | callbackComplete (response : Response)
  | callbackError (error : NSError)

/-- Which callbacks are set. -/
structure SetCallbacks where
  callbackComplete : Bool := true
  callbackError : Bool := true

variable {Response : Type}

namespace CommandCall

def isError : CommandCall Response → Bool
  | .callbackComplete _ => false
  | .callbackError _ => true

end CommandCall

namespace SetCallbacks

/-- A callback is invoked if it is set. -/
def invoke (callbacks : SetCallbacks) (call : CommandCall Response) :
    List (CommandCall Response) :=
  match call with
  | .callbackComplete _ => if callbacks.callbackComplete then [call] else []
  | .callbackError _ => if callbacks.callbackError then [call] else []

@[simp] theorem invoke_all (call : CommandCall Response) :
    ({} : SetCallbacks).invoke call = [call] := by
  cases call <;> rfl

end SetCallbacks

/-- One and the same callback is invoked, once, whichever are set. -/
def InvokesOne (calls : SetCallbacks → List (CommandCall Response)) : Prop :=
  ∃ call, ∀ callbacks, calls callbacks = callbacks.invoke call

theorem not_invokesOne_of_nil {calls : SetCallbacks → List (CommandCall Response)}
    (nothing : calls {} = []) : ¬ InvokesOne calls := by
  intro invokes
  rcases invokes with ⟨call, invoked⟩
  have all := invoked {}
  rw [nothing, SetCallbacks.invoke_all] at all
  cases all

end ConnectSDK
