import Mathlib.Data.List.Perm.Basic
import ConnectSDK.Services.TextInputControl

/-! # Callbacks of sent texts

A call of `sendText:` is called back as often as it sends requests with its blocks: never by
the webOS TV, once by the Netcast TV, and once for each composed character by Roku.
-/

namespace ConnectSDK

def TextInputBlock.call : TextInputBlock → Nat
  | .success call => call
  | .failure call => call

/-- The request calls back the blocks of a call. -/
def TextRequest.IsFor (request : TextRequest) (call : Nat) : Prop :=
  request.callbackComplete = some (.success call) ∧
    request.callbackError = some (.failure call)

/-- How many requests an input makes that have the blocks it came with. -/
def TextInputService.requestsFor (composedCharacters : String → List String)
    (service : TextInputService) (input : String) : Nat :=
  match service with
  | .webOSTVService _ => 0
  | .netcastTVService _ => 1
  | .rokuService => (composedCharacters input).length

/-- The service calls a text back once. -/
def TextInputService.CallsBackOnce (composedCharacters : String → List String)
    (service : TextInputService) (input : String) : Prop :=
  match service with
  | .webOSTVService _ => False
  | .netcastTVService _ => True
  | .rokuService => (composedCharacters input).length = 1

namespace TextInputControl

variable {composedCharacters : String → List String}

/-- How often blocks of a call were called. -/
def timesCalled (control : TextInputControl) (call : Nat) : Nat :=
  control.called.countP fun block => block.call == call

/-- How many requests with the blocks of a call have no answer. -/
def awaiting (control : TextInputControl) (call : Nat) : Nat :=
  control.requests.countP fun request => request.callbackComplete == some (.success call)

/-- No request with the blocks of a call is left without an answer. -/
def Answered (control : TextInputControl) (call : Nat) : Prop :=
  ∀ request ∈ control.requests, ¬request.IsFor call

/-- Every call has as many calls of its blocks made or to come as it made requests. -/
structure Counted (composedCharacters : String → List String) (service : TextInputService)
    (control : TextInputControl) : Prop where
  requestsFor : control.service.requestsFor composedCharacters =
    service.requestsFor composedCharacters
  paired : ∀ request ∈ control.requests, ∃ call, request.IsFor call
  counts : ∀ call, control.timesCalled call + control.awaiting call =
    (control.inputs[call]?.map (service.requestsFor composedCharacters)).getD 0

/-! ## Sending -/

theorem foldl_send (body : String → TextRequestBody) (success failure : TextInputBlock)
    (texts : List String) (control : TextInputControl) :
    texts.foldl (fun control text => control.send
        { body := body text
          callbackComplete := some success
          callbackError := some failure }) control =
      { control with
        requests := control.requests ++ texts.map fun text =>
          { body := body text
            callbackComplete := some success
            callbackError := some failure } } := by
  induction texts generalizing control with
  | nil => simp
  | cons text rest induction =>
      rw [List.foldl_cons, induction]
      simp [send]

/-- A text makes so many requests, all with its own blocks. -/
theorem sendText_effects (composedCharacters : String → List String)
    (control : TextInputControl) (input : String) :
    ∃ sent service, sendText composedCharacters control input =
        { control with
          service
          inputs := control.inputs ++ [input]
          requests := control.requests ++ sent } ∧
      service.requestsFor composedCharacters =
        control.service.requestsFor composedCharacters ∧
      sent.length = control.service.requestsFor composedCharacters input ∧
      ∀ request ∈ sent, request.IsFor control.inputs.length := by
  unfold sendText
  cases same : control.service with
  | webOSTVService keyboard =>
      refine ⟨[], .webOSTVService (keyboard.sendText input), ?_, rfl, rfl, ?_⟩
      · simp
      · intro request member
        cases member
  | netcastTVService keyboardString =>
      refine ⟨[_], _, rfl, rfl, rfl, ?_⟩
      intro request member
      cases List.mem_singleton.mp member
      exact ⟨rfl, rfl⟩
  | rokuService =>
      refine ⟨(composedCharacters input).map fun charToSend =>
        { body := .keyPress ("Lit_" ++ ConnectUtil.urlEncode charToSend)
          callbackComplete := some (.success control.inputs.length)
          callbackError := some (.failure control.inputs.length) }, control.service, ?_, ?_, ?_,
        ?_⟩
      · dsimp only
        rw [foldl_send fun charToSend =>
          .keyPress ("Lit_" ++ ConnectUtil.urlEncode charToSend), same]
      · rw [same]
      · exact List.length_map _
      · intro request member
        rcases List.mem_map.mp member with ⟨_, _, equal⟩
        subst equal
        exact ⟨rfl, rfl⟩

/-- Requests that are all for one call. -/
theorem countP_isFor {sent : List TextRequest} {own : Nat}
    (isFor : ∀ request ∈ sent, request.IsFor own) (call : Nat) :
    sent.countP (fun request => request.callbackComplete == some (.success call)) =
      if call = own then sent.length else 0 := by
  by_cases same : call = own
  · rw [if_pos same, List.countP_eq_length]
    intro request member
    rw [(isFor request member).1, same]
    exact beq_self_eq_true _
  · rw [if_neg same, List.countP_eq_zero]
    intro request member
    rw [(isFor request member).1]
    simpa using Ne.symm same

theorem Counted.sendText {service : TextInputService} {control : TextInputControl}
    (counted : Counted composedCharacters service control) (input : String) :
    Counted composedCharacters service (sendText composedCharacters control input) := by
  rcases sendText_effects composedCharacters control input with
    ⟨sent, next, effect, same, many, isFor⟩
  rw [effect]
  refine ⟨same.trans counted.requestsFor, ?_, ?_⟩
  · intro request member
    rcases List.mem_append.mp member with old | new
    · exact counted.paired request old
    · exact ⟨_, isFor request new⟩
  · intro call
    have before := counted.counts call
    have here : (control.requests ++ sent).countP (fun request =>
        request.callbackComplete == some (.success call)) =
        control.awaiting call + if call = control.inputs.length then sent.length else 0 := by
      rw [List.countP_append, countP_isFor isFor]
      rfl
    change control.timesCalled call + List.countP _ (control.requests ++ sent) = _
    rw [here, ← Nat.add_assoc, before, many, counted.requestsFor]
    by_cases own : call = control.inputs.length
    · rw [if_pos own, own]
      simp
    · rw [if_neg own, Nat.add_zero]
      by_cases made : call < control.inputs.length
      · rw [List.getElem?_append_left made]
      · have past : control.inputs.length + 1 ≤ call := by omega
        rw [List.getElem?_eq_none (by omega), List.getElem?_eq_none (by simpa using past)]

/-! ## Answers -/

theorem Counted.onKeyboard {service : TextInputService} {control : TextInputControl}
    (counted : Counted composedCharacters service control)
    (act : WebOSTVKeyboard → WebOSTVKeyboard) :
    Counted composedCharacters service (control.onKeyboard act) := by
  unfold TextInputControl.onKeyboard
  split
  · rename_i keyboard same
    refine ⟨?_, counted.paired, counted.counts⟩
    rw [← counted.requestsFor, same]
    rfl
  · exact counted

/-- The request answered is one less of those that wait. -/
theorem countP_eraseIdx {requests : List TextRequest} {index : Nat} {request : TextRequest}
    (found : requests[index]? = some request) (waits : TextRequest → Bool) :
    requests.countP waits =
      (requests.eraseIdx index).countP waits + if waits request then 1 else 0 := by
  rcases List.getElem?_eq_some_iff.mp found with ⟨bound, same⟩
  rw [← (List.getElem_cons_eraseIdx_perm bound).countP_eq, same, List.countP_cons]

theorem Counted.answered {service : TextInputService} {control : TextInputControl}
    (counted : Counted composedCharacters service control) (index : Nat) (succeeds : Bool) :
    Counted composedCharacters service (control.answered index succeeds) := by
  unfold TextInputControl.answered
  cases found : control.requests[index]? with
  | none => exact counted.onKeyboard _
  | some request =>
      rcases counted.paired request (List.mem_of_getElem? found) with ⟨own, complete, error⟩
      have called : ∃ block, (if succeeds then request.callbackComplete
          else request.callbackError) = some block ∧ block.call = own := by
        cases succeeds with
        | true => exact ⟨_, complete, rfl⟩
        | false => exact ⟨_, error, rfl⟩
      rcases called with ⟨block, equal, blockCall⟩
      refine ⟨counted.requestsFor, ?_, ?_⟩
      · intro other held
        exact counted.paired other (List.mem_of_mem_eraseIdx held)
      · intro call
        have before := counted.counts call
        have waits : control.awaiting call = _ :=
          countP_eraseIdx found fun request => request.callbackComplete == some (.success call)
        rw [waits, complete] at before
        rw [← before]
        simp only [equal, timesCalled, awaiting, Option.toList_some, List.countP_append,
          List.countP_singleton, blockCall]
        by_cases same : own = call
        · subst same
          simp
          omega
        · simp [same]

theorem Counted.step {service : TextInputService} {control : TextInputControl}
    (counted : Counted composedCharacters service control) (event : TextInputEvent) :
    Counted composedCharacters service (control.step composedCharacters event) := by
  cases event with
  | sendText input => exact counted.sendText input
  | sendEnter => exact counted.onKeyboard _
  | sendDelete => exact counted.onKeyboard _
  | subscribeTextInputStatus => exact counted.onKeyboard _
  | answered index succeeds => exact counted.answered index succeeds
  | keyboardStringChanged text =>
      unfold TextInputControl.step
      dsimp only
      split
      · rename_i keyboardString same
        refine ⟨?_, counted.paired, counted.counts⟩
        rw [← counted.requestsFor, same]
        rfl
      · exact counted

/-! ## Runs -/

theorem Counted.run {service : TextInputService} {final : TextInputControl}
    {events : List TextInputEvent}
    (reached : TextInputControl.run composedCharacters service events = some final) :
    Counted composedCharacters service final := by
  have start : Counted composedCharacters service { service } :=
    ⟨rfl, (fun _ member => by cases member), fun _ => rfl⟩
  refine runFrom_invariant ?_ start (everyStep_of_forall (fun _ _ => trivial) _ _) reached
  intro control event next before _ taken
  cases taken
  exact before.step event

/-- Once every request of a call of `sendText:` is answered, one of its blocks has been called
and only once, exactly if the service makes one request of the text. -/
theorem run_callsBackOnce_iff {service : TextInputService} {final : TextInputControl}
    {events : List TextInputEvent} {call : Nat} {input : String}
    (reached : TextInputControl.run composedCharacters service events = some final)
    (made : final.inputs[call]? = some input) (answered : final.Answered call) :
    final.timesCalled call = 1 ↔ service.CallsBackOnce composedCharacters input := by
  have counted := Counted.run reached
  have times := counted.counts call
  have none : final.awaiting call = 0 := by
    refine List.countP_eq_zero.mpr fun request member waits => answered request member ?_
    rcases counted.paired request member with ⟨own, complete, error⟩
    rw [complete] at waits
    cases (by simpa using waits : own = call)
    exact ⟨complete, error⟩
  rw [none, made, Nat.add_zero] at times
  rw [times]
  cases service <;> simp [TextInputService.requestsFor, TextInputService.CallsBackOnce]

/-- The composed characters of a plain text. -/
def plainCharacters (text : String) : List String :=
  text.toList.map String.singleton

/-- Two texts that are sent to a Netcast TV before the first has its answer. -/
theorem run_callsBackOnce_overlapping :
    ∃ final, TextInputControl.run plainCharacters (.netcastTVService none)
        [.sendText "a", .sendText "b", .answered 1 false, .answered 0 true] = some final ∧
      final.timesCalled 1 = 1 := by
  refine ⟨_, rfl, ?_⟩
  refine (@run_callsBackOnce_iff plainCharacters (.netcastTVService none) _
    [.sendText "a", .sendText "b", .answered 1 false, .answered 0 true] 1 "b"
    rfl rfl ?_).mpr trivial
  intro request member
  cases member

/-- The keyboard of the webOS TV has sent the text and nobody is called back. Roku calls back
for each of two characters. -/
theorem sent_text_called_never_and_twice :
    (∃ final keyboard, TextInputControl.run plainCharacters (.webOSTVService {})
        [.subscribeTextInputStatus, .sendText "a", .answered 0 true] = some final ∧
      final.Answered 0 ∧ final.service = .webOSTVService keyboard ∧
      keyboard.sent.length = 1 ∧ keyboard.outstanding = [] ∧ final.timesCalled 0 = 0) ∧
    ∃ final, TextInputControl.run plainCharacters .rokuService
        [.sendText "ab", .answered 0 true, .answered 0 true] = some final ∧
      final.Answered 0 ∧ final.called = [.success 0, .success 0] := by
  refine ⟨⟨_, _, rfl, ?_, rfl, rfl, rfl, rfl⟩, _, rfl, ?_, rfl⟩
  · intro request member
    cases member
  · intro request member
    cases member

end TextInputControl

end ConnectSDK
