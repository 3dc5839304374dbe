import ConnectSDK.Foundation.Run
import ConnectSDK.Helpers.ConnectUtil
import ConnectSDK.Services.WebOSTVKeyboard

/-! # Sending text

`sendText:success:failure:` of the three services that have it, and how the answers to its
requests call the blocks it was given. Of the other methods only what they share with it is
modelled: the keyboard of the webOS TV, and the text that the Netcast TV has.
-/

namespace ConnectSDK

/-- The blocks that a call of `sendText:success:failure:` was given, by the number of the
call. -/
inductive TextInputBlock where
  | success (call : Nat)
  | failure (call : Nat)
deriving DecidableEq

/-- What a request asks of the TV. -/
inductive TextRequestBody where
  | textEdited (state text : String)
  | keyPress (keyCode : String)

structure TextRequest where
  body : TextRequestBody
  callbackComplete : Option TextInputBlock
  callbackError : Option TextInputBlock

inductive TextInputService where
  | webOSTVService (keyboard : WebOSTVKeyboard)
  | netcastTVService (keyboardString : Option String)
  | rokuService

/-- `inputs` has what each call of `sendText:` was given, `requests` what has no answer yet
and `called` the blocks called so far. -/
structure TextInputControl where
  service : TextInputService
  inputs : List String := []
  requests : List TextRequest := []
  called : List TextInputBlock := []

inductive TextInputEvent where
  | sendText (input : String)
  | sendEnter
  | sendDelete
  | subscribeTextInputStatus
  | keyboardStringChanged (text : Option String)
  | answered (index : Nat) (succeeds : Bool)

namespace TextInputControl

/-- A command sends its request with the callbacks it was given. -/
def send (control : TextInputControl) (request : TextRequest) : TextInputControl :=
  { control with requests := control.requests ++ [request] }

/-- The text that the Netcast TV has after an input. -/
def appended (keyboardString : Option String) (input : String) : String :=
  match keyboardString with
  | none => input
  | some text => if 0 < text.length then text ++ input else input

/-- `composedCharacters` splits a string as
`NSStringEnumerationByComposedCharacterSequences` does. -/
def sendText (composedCharacters : String → List String) (control : TextInputControl)
    (input : String) : TextInputControl :=
  let success := TextInputBlock.success control.inputs.length
  let failure := TextInputBlock.failure control.inputs.length
  let control := { control with inputs := control.inputs ++ [input] }
  match control.service with
  | .webOSTVService keyboard =>
      { control with service := .webOSTVService (keyboard.sendText input) }
  | .netcastTVService keyboardString =>
      let text := appended keyboardString input
      { control with service := .netcastTVService (some text) }.send
        { body := .textEdited "Editing" text
          callbackComplete := some success
          callbackError := some failure }
  | .rokuService =>
      (composedCharacters input).foldl (fun control charToSend => control.send
        { body := .keyPress ("Lit_" ++ ConnectUtil.urlEncode charToSend)
          callbackComplete := some success
          callbackError := some failure }) control

/-- What a message does to the keyboard of a webOS TV. Other services have none. -/
def onKeyboard (control : TextInputControl) (act : WebOSTVKeyboard → WebOSTVKeyboard) :
    TextInputControl :=
  match control.service with
  | .webOSTVService keyboard =>
      { control with service := .webOSTVService (act keyboard) }
  | _ => control

/-- The answer to the request at an index calls one of its callbacks. -/
def answered (control : TextInputControl) (index : Nat) (succeeds : Bool) :
    TextInputControl :=
  match control.requests[index]? with
  | none => control.onKeyboard fun keyboard => keyboard.step (.replied index succeeds)
  | some request =>
      let callback :=
        if succeeds then request.callbackComplete else request.callbackError
      { control with
        requests := control.requests.eraseIdx index
        called := control.called ++ callback.toList }

def step (composedCharacters : String → List String) (control : TextInputControl) :
    TextInputEvent → TextInputControl
  | .sendText input => sendText composedCharacters control input
  | .sendEnter => control.onKeyboard WebOSTVKeyboard.sendEnter
  | .sendDelete => control.onKeyboard WebOSTVKeyboard.sendDelete
  | .subscribeTextInputStatus =>
      control.onKeyboard WebOSTVKeyboard.subscribeTextInputStatus
  | .keyboardStringChanged text =>
      match control.service with
      | .netcastTVService _ => { control with service := .netcastTVService text }
      | _ => control
  | .answered index succeeds => control.answered index succeeds

/-- A run from a fresh service. -/
def run (composedCharacters : String → List String) (service : TextInputService)
    (events : List TextInputEvent) : Option TextInputControl :=
  runFrom (fun control event => some (control.step composedCharacters event)) { service } events

end TextInputControl

end ConnectSDK
