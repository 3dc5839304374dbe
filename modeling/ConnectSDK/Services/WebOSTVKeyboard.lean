import ConnectSDK.Foundation.JSON

/-! # The keyboard of a webOS TV

What the webOS service keeps for its text input. Only one command is to be on its way, and
what is typed meanwhile waits in a queue that does not exist before the first call of
`subscribeTextInputStatus`. None of the methods calls the blocks that it is given.
-/

namespace ConnectSDK

/-- A command to the input method editor. Both of its callbacks send the next keys. -/
structure KeyboardCommand where
  target : String
  payload : JSON.Fields := []

/-- `outstanding` has the commands without a reply, `sent` all commands. -/
structure WebOSTVKeyboard where
  keyboardQueue : Option (List String) := none
  keyboardQueueProcessing : Bool := false
  outstanding : List KeyboardCommand := []
  sent : List KeyboardCommand := []

inductive KeyboardEvent where
  | sendText (input : String)
  | sendEnter
  | sendDelete
  | replied (index : Nat) (success : Bool)

def kKeyboardEnter : String := "\x1b ENTER \x1b"

def kKeyboardDelete : String := "\x1b DELETE \x1b"

namespace WebOSTVKeyboard

/-- How many deletes the queue begins with. -/
def leadingDeletes : List String → Nat
  | [] => 0
  | text :: rest => if text = kKeyboardDelete then leadingDeletes rest + 1 else 0

/-- The texts that the queue begins with, in one, and how many they are. -/
def leadingTexts : List String → String × Nat
  | [] => ("", 0)
  | text :: rest =>
      if text ≠ kKeyboardEnter ∧ text ≠ kKeyboardDelete then
        (text ++ (leadingTexts rest).1, (leadingTexts rest).2 + 1)
      else ("", 0)

/-- The command for the keys at the head of the queue, and how many of them it takes. -/
def nextCommand (queue : List String) : KeyboardCommand × Nat :=
  let key := queue.head?
  if key = some kKeyboardEnter then
    ({ target := "ssap://com.webos.service.ime/sendEnterKey" }, 1)
  else if key = some kKeyboardDelete then
    let count := leadingDeletes queue
    ({ target := "ssap://com.webos.service.ime/deleteCharacters"
       payload := [("count", .number count)] }, count)
  else
    let (stringToSend, count) := leadingTexts queue
    ({ target := "ssap://com.webos.service.ime/insertText"
       payload := [("text", .string stringToSend), ("replace", .bool false)] }, count)

def sendKeys (keyboard : WebOSTVKeyboard) : WebOSTVKeyboard :=
  let (command, count) := nextCommand (keyboard.keyboardQueue.getD [])
  { keyboardQueue := keyboard.keyboardQueue.map (List.drop count)
    keyboardQueueProcessing := true
    outstanding := keyboard.outstanding ++ [command]
    sent := keyboard.sent ++ [command] }

/-- `[_keyboardQueue addObject:key]`, and what all three methods do then. -/
def addKey (keyboard : WebOSTVKeyboard) (key : String) : WebOSTVKeyboard :=
  let keyboard :=
    { keyboard with keyboardQueue := keyboard.keyboardQueue.map (· ++ [key]) }
  if keyboard.keyboardQueueProcessing then keyboard else keyboard.sendKeys

def sendText (keyboard : WebOSTVKeyboard) (input : String) : WebOSTVKeyboard :=
  keyboard.addKey input

def sendEnter (keyboard : WebOSTVKeyboard) : WebOSTVKeyboard :=
  keyboard.addKey kKeyboardEnter

def sendDelete (keyboard : WebOSTVKeyboard) : WebOSTVKeyboard :=
  keyboard.addKey kKeyboardDelete

/-- Either callback of a command. -/
def commandReplied (keyboard : WebOSTVKeyboard) : WebOSTVKeyboard :=
  let keyboard := { keyboard with keyboardQueueProcessing := false }
  if 0 < (keyboard.keyboardQueue.getD []).length then keyboard.sendKeys else keyboard

def subscribeTextInputStatus (keyboard : WebOSTVKeyboard) : WebOSTVKeyboard :=
  { keyboard with
    keyboardQueue := some []
    keyboardQueueProcessing := false }

/-- A reply comes for a command that has none. -/
def step (keyboard : WebOSTVKeyboard) : KeyboardEvent → WebOSTVKeyboard
  | .sendText input => keyboard.sendText input
  | .sendEnter => keyboard.sendEnter
  | .sendDelete => keyboard.sendDelete
  | .replied index _ =>
      if index < keyboard.outstanding.length then
        { keyboard with
          outstanding := keyboard.outstanding.eraseIdx index }.commandReplied
      else keyboard

end WebOSTVKeyboard

end ConnectSDK
