import Mathlib.Data.List.Perm.Subperm
import Mathlib.Data.List.Perm.Basic
import ConnectSDK.Foundation.RequestBook
import ConnectSDK.Foundation.Run

/-! # The mouse of a webOS TV

How `WebOSTVService` hands keys and clicks to the mouse, whose socket it first asks the TV
for, and how `WebOSTVServiceMouse` sends them. Moving and scrolling are left out, and so is
what failure blocks are told.
-/

namespace ConnectSDK

inductive WebOSTVMouseButton where
  | home
  | back
  | up
  | down
  | left
  | right

def WebOSTVMouseButton.keyString : WebOSTVMouseButton → String
  | .home => "HOME"
  | .back => "BACK"
  | .up => "UP"
  | .down => "DOWN"
  | .left => "LEFT"
  | .right => "RIGHT"

inductive MouseInput where
  | button (keyName : WebOSTVMouseButton)
  | click

def MouseInput.package : MouseInput → String
  | .button keyName => "type:button\nname:" ++ keyName.keyString ++ "\n\n"
  | .click => "type:click\n\n"

/-- The block of a call that runs. -/
inductive InputBlock where
  | success
  | failure
deriving DecidableEq

/-- The blocks that connect the mouse: those of a client, who is not told here, or those
made for the input of a call. -/
inductive MouseBlocks where
  | client
  | input (call : Nat) (input : MouseInput)

/-- The call that the blocks are for. -/
def MouseBlocks.call : MouseBlocks → Option Nat
  | .client => none
  | .input call _ => some call

/-- `_success` and `_failure` come and go together, as `blocks`. `isOpen` is whether the
`readyState` of the web socket is `LGSR_OPEN`. -/
structure WebOSTVServiceMouse where
  blocks : Option MouseBlocks
  isOpen : Bool := false

/-- `commands` are the blocks of the commands `getPointerInputSocket` without an answer,
`requested` the input of each call, `sent` the packages that an open socket was handed, with
the call they are for. `calls` are the calls and the blocks that ran. -/
structure WebOSMouse where
  mouseSocket : Option WebOSTVServiceMouse := none
  mouseInit : Bool := false
  commands : List MouseBlocks := []
  requested : List (Nat × MouseInput) := []
  sent : List (Nat × String) := []
  calls : RequestBook InputBlock := {}

/-- Only the mouse that the service has hears of its web socket. A command is forgotten when
the socket client that sends it is closed or was not there. -/
inductive WebOSMouseEvent where
  | sendMouseButton (button : WebOSTVMouseButton)
  | ok
  | sendKeyCode
  | connectMouse
  | disconnectMouse
  | commandCompleted (index : Nat)
  | commandFailed (index : Nat)
  | commandForgotten (index : Nat)
  | readyStateChanged (isOpen : Bool)
  | webSocketDidOpen
  | webSocketDidFail
  | webSocketDidClose (wasClean : Bool)

namespace WebOSMouse

def answer (mouse : WebOSMouse) (call : Nat) (block : InputBlock) : WebOSMouse :=
  { mouse with calls := mouse.calls.record (some { request := call, reply := block }) }

/-- The failure block of a connect. -/
def fail (mouse : WebOSMouse) (blocks : MouseBlocks) : WebOSMouse :=
  match blocks.call with
  | some call => mouse.answer call .failure
  | none => mouse

/-- `[self.mouseSocket button:]` and `[self.mouseSocket click]`, which end in
`sendPackage:`. -/
def sendPackage (mouse : WebOSMouse) (call : Nat) (input : MouseInput) : WebOSMouse :=
  if mouse.mouseSocket.any WebOSTVServiceMouse.isOpen then
    { mouse with sent := mouse.sent ++ [(call, input.package)] }
  else mouse

/-- `connectMouseWithSuccess:failure:`. -/
def connectMouse (mouse : WebOSMouse) (blocks : MouseBlocks) : WebOSMouse :=
  if mouse.mouseSocket.isSome || mouse.mouseInit then mouse
  else { mouse with mouseInit := true, commands := mouse.commands ++ [blocks] }

/-- A call is made. -/
def request (mouse : WebOSMouse) (input : MouseInput) : WebOSMouse :=
  { mouse with
    calls := mouse.calls.issue
    requested := mouse.requested ++ [(mouse.calls.issued + 1, input)] }

/-- What keys and clicks have in common. -/
def send (mouse : WebOSMouse) (input : MouseInput) : WebOSMouse :=
  let mouse := mouse.request input
  let call := mouse.calls.issued
  if mouse.mouseSocket.isSome then (mouse.sendPackage call input).answer call .success
  else mouse.connectMouse (.input call input)

def sendMouseButton (mouse : WebOSMouse) (button : WebOSTVMouseButton) : WebOSMouse :=
  mouse.send (.button button)

/-- `okWithSuccess:failure:`, and `clickWithSuccess:failure:`, which calls it. -/
def ok (mouse : WebOSMouse) : WebOSMouse :=
  mouse.send .click

/-- Key codes are not supported. -/
def sendKeyCode (mouse : WebOSMouse) : WebOSMouse :=
  let mouse := { mouse with calls := mouse.calls.issue }
  mouse.answer mouse.calls.issued .failure

/-- The blocks of the mouse are dropped with it, those of a command are not. -/
def disconnectMouse (mouse : WebOSMouse) : WebOSMouse :=
  { mouse with mouseSocket := none, mouseInit := false }

/-- A command's reply makes a new mouse, in place of one that is there. -/
def commandCompleted (mouse : WebOSMouse) (index : Nat) : WebOSMouse :=
  match mouse.commands[index]? with
  | none => mouse
  | some blocks =>
      { mouse with
        mouseSocket := some { blocks := some blocks }
        commands := mouse.commands.eraseIdx index }

def commandFailed (mouse : WebOSMouse) (index : Nat) : WebOSMouse :=
  match mouse.commands[index]? with
  | none => mouse
  | some blocks =>
      fail
        { mouse with
          mouseSocket := none
          mouseInit := false
          commands := mouse.commands.eraseIdx index } blocks

def commandForgotten (mouse : WebOSMouse) (index : Nat) : WebOSMouse :=
  { mouse with commands := mouse.commands.eraseIdx index }

/-- The blocks of the mouse that is there. -/
def mouseBlocks (mouse : WebOSMouse) : Option MouseBlocks :=
  mouse.mouseSocket.bind WebOSTVServiceMouse.blocks

/-- The success block of an input sends it to the mouse that is there. -/
def webSocketDidOpen (mouse : WebOSMouse) : WebOSMouse :=
  match mouse.mouseBlocks with
  | some (.input call input) => (mouse.sendPackage call input).answer call .success
  | _ => mouse

def webSocketDidFail (mouse : WebOSMouse) : WebOSMouse :=
  match mouse.mouseBlocks with
  | some blocks => mouse.fail blocks
  | none => mouse

def webSocketDidClose (mouse : WebOSMouse) (wasClean : Bool) : WebOSMouse :=
  if wasClean then
    { mouse with
      mouseSocket := mouse.mouseSocket.map fun socket => { socket with blocks := none } }
  else mouse.webSocketDidFail

def step (mouse : WebOSMouse) : WebOSMouseEvent → WebOSMouse
  | .sendMouseButton button => mouse.sendMouseButton button
  | .ok => mouse.ok
  | .sendKeyCode => mouse.sendKeyCode
  | .connectMouse => mouse.connectMouse .client
  | .disconnectMouse => mouse.disconnectMouse
  | .commandCompleted index => mouse.commandCompleted index
  | .commandFailed index => mouse.commandFailed index
  | .commandForgotten index => mouse.commandForgotten index
  | .readyStateChanged isOpen =>
      { mouse with
        mouseSocket := mouse.mouseSocket.map fun socket => { socket with isOpen } }
  | .webSocketDidOpen => mouse.webSocketDidOpen
  | .webSocketDidFail => mouse.webSocketDidFail
  | .webSocketDidClose wasClean => mouse.webSocketDidClose wasClean

/-- Nothing raises an exception. -/
def stepped (mouse : WebOSMouse) (event : WebOSMouseEvent) : Option WebOSMouse :=
  some (mouse.step event)

end WebOSMouse

end ConnectSDK
