import ConnectSDK.Foundation.Run
import ConnectSDK.Services.WebOSTVKeyboard

/-! # Strokes of the keyboard

A text stands for its characters. However the keys are put together into commands, the
strokes that were sent, followed by those in the queue, are the strokes that were typed, if
no command was on its way when the queue was made.
-/

namespace ConnectSDK

inductive Stroke where
  | character (character : Char)
  | enter
  | delete
deriving DecidableEq

def Stroke.ofText (text : String) : List Stroke :=
  text.toList.map .character

@[simp] theorem Stroke.ofText_empty : Stroke.ofText "" = [] := rfl

@[simp] theorem Stroke.ofText_append (left right : String) :
    Stroke.ofText (left ++ right) = Stroke.ofText left ++ Stroke.ofText right := by
  simp [Stroke.ofText]

/-- What the TV types for a command. -/
def KeyboardCommand.strokes (command : KeyboardCommand) : List Stroke :=
  if command.target = "ssap://com.webos.service.ime/sendEnterKey" then [.enter]
  else if command.target = "ssap://com.webos.service.ime/deleteCharacters" then
    match command.payload.value? "count" with
    | some (.number count) => List.replicate count.toNat .delete
    | _ => []
  else
    match command.payload.value? "text" with
    | some (.string text) => Stroke.ofText text
    | _ => []

namespace KeyboardEvent

def strokes : KeyboardEvent → List Stroke
  | .sendText input => Stroke.ofText input
  | .sendEnter => [.enter]
  | .sendDelete => [.delete]
  | .replied .. => []

/-- The key that an event adds to the queue. -/
def keys : KeyboardEvent → List String
  | .sendText input => [input]
  | .sendEnter => [kKeyboardEnter]
  | .sendDelete => [kKeyboardDelete]
  | .replied .. => []

/-- No text is one of the two that stand for keys. -/
def Plain : KeyboardEvent → Prop
  | .sendText input => input ≠ kKeyboardEnter ∧ input ≠ kKeyboardDelete
  | _ => True

end KeyboardEvent

namespace WebOSTVKeyboard

def keyStrokes (key : String) : List Stroke :=
  if key = kKeyboardEnter then [.enter]
  else if key = kKeyboardDelete then [.delete]
  else Stroke.ofText key

theorem keyStrokes_text {key : String}
    (text : key ≠ kKeyboardEnter ∧ key ≠ kKeyboardDelete) :
    keyStrokes key = Stroke.ofText key := by
  rw [keyStrokes, if_neg text.1, if_neg text.2]

@[simp] theorem keyStrokes_enter : keyStrokes kKeyboardEnter = [.enter] := rfl

@[simp] theorem keyStrokes_delete : keyStrokes kKeyboardDelete = [.delete] := by
  rw [keyStrokes, if_neg (by decide), if_pos rfl]

/-! ## One command -/

theorem leadingDeletes_strokes (queue : List String) :
    List.replicate (leadingDeletes queue) .delete ++
        (queue.drop (leadingDeletes queue)).flatMap keyStrokes =
      queue.flatMap keyStrokes := by
  induction queue with
  | nil => rfl
  | cons key rest induction =>
      rw [leadingDeletes]
      split
      · rename_i delete
        subst delete
        simp [List.replicate_succ, induction]
      · simp

theorem leadingTexts_strokes (queue : List String) :
    Stroke.ofText (leadingTexts queue).1 ++
        (queue.drop (leadingTexts queue).2).flatMap keyStrokes =
      queue.flatMap keyStrokes := by
  induction queue with
  | nil => rfl
  | cons key rest induction =>
      rw [leadingTexts]
      split
      · rename_i text
        simp [keyStrokes_text text, ← induction]
      · simp

theorem nextCommand_cases (queue : List String) :
    (queue.head? = some kKeyboardEnter ∧ nextCommand queue =
        ({ target := "ssap://com.webos.service.ime/sendEnterKey" }, 1)) ∨
      (queue.head? = some kKeyboardDelete ∧ nextCommand queue =
        ({ target := "ssap://com.webos.service.ime/deleteCharacters"
           payload := [("count", .number (leadingDeletes queue))] },
          leadingDeletes queue)) ∨
      (queue.head? ≠ some kKeyboardEnter ∧ queue.head? ≠ some kKeyboardDelete ∧
        nextCommand queue =
          ({ target := "ssap://com.webos.service.ime/insertText"
             payload := [("text", .string (leadingTexts queue).1),
               ("replace", .bool false)] },
            (leadingTexts queue).2)) := by
  by_cases enter : queue.head? = some kKeyboardEnter
  · exact .inl ⟨enter, if_pos enter⟩
  · by_cases delete : queue.head? = some kKeyboardDelete
    · exact .inr (.inl ⟨delete, (if_neg enter).trans (if_pos delete)⟩)
    · exact .inr (.inr ⟨enter, delete, (if_neg enter).trans (if_neg delete)⟩)

/-- A command types the keys that it takes off the queue. -/
theorem nextCommand_strokes (queue : List String) :
    (nextCommand queue).1.strokes ++
        (queue.drop (nextCommand queue).2).flatMap keyStrokes =
      queue.flatMap keyStrokes := by
  rcases nextCommand_cases queue with ⟨enter, next⟩ | ⟨_, next⟩ | ⟨_, _, next⟩
  · rw [next]
    cases queue with
    | nil => cases enter
    | cons key rest =>
        cases enter
        rfl
  · rw [next]
    exact leadingDeletes_strokes queue
  · rw [next]
    exact leadingTexts_strokes queue

theorem leadingDeletes_pos {queue : List String}
    (delete : queue.head? = some kKeyboardDelete) : 0 < leadingDeletes queue := by
  cases queue with
  | nil => cases delete
  | cons key rest =>
      cases delete
      simp [leadingDeletes]

theorem leadingTexts_pos {queue : List String} (waits : queue ≠ [])
    (text : queue.head? ≠ some kKeyboardEnter ∧ queue.head? ≠ some kKeyboardDelete) :
    0 < (leadingTexts queue).2 := by
  cases queue with
  | nil => exact absurd rfl waits
  | cons key rest =>
      have plain : key ≠ kKeyboardEnter ∧ key ≠ kKeyboardDelete := by simpa using text
      rw [leadingTexts, if_pos plain]
      exact Nat.succ_pos _

/-- A command takes at least one key off a queue that has one. -/
theorem nextCommand_pos {queue : List String} (waits : queue ≠ []) :
    0 < (nextCommand queue).2 := by
  rcases nextCommand_cases queue with ⟨_, next⟩ | ⟨delete, next⟩ | ⟨enter, delete, next⟩
  · rw [next]
    exact Nat.one_pos
  · rw [next]
    exact leadingDeletes_pos delete
  · rw [next]
    exact leadingTexts_pos waits ⟨enter, delete⟩

theorem nextCommand_shrinks {queue : List String} (waits : queue ≠ []) :
    (queue.drop (nextCommand queue).2).length < queue.length := by
  have some := List.length_pos_iff.mpr waits
  have taken := nextCommand_pos waits
  rw [List.length_drop]
  omega

/-! ## Steps -/

/-- The keys in the queue. -/
def keys (keyboard : WebOSTVKeyboard) : List String :=
  keyboard.keyboardQueue.getD []

/-- Once the queue is there, all that was typed since is in the commands after `before` and
in the queue, and keys wait only for the reply to a command. -/
structure InOrder (typed : List Stroke) (before : List KeyboardCommand)
    (keyboard : WebOSTVKeyboard) : Prop where
  subscribed : keyboard.keyboardQueue = some keyboard.keys
  strokes : ∃ after, keyboard.sent = before ++ after ∧
    after.flatMap KeyboardCommand.strokes ++ keyboard.keys.flatMap keyStrokes = typed
  busy : keyboard.keyboardQueueProcessing = true → keyboard.outstanding.length = 1
  idle : keyboard.keyboardQueueProcessing = false →
    keyboard.outstanding = [] ∧ keyboard.keys = []

/-- At most one command is sent, and takes more off the queue than the event put there. -/
def Shrinks (keyboard : WebOSTVKeyboard) (event : KeyboardEvent) : Prop :=
  (keyboard.step event).sent = keyboard.sent ∨
    ∃ command, (keyboard.step event).sent = keyboard.sent ++ [command] ∧
      (keyboard.step event).keys.length < (keyboard.keys ++ event.keys).length

/-- Sending keys of a queue that has some, while no command is on its way. -/
theorem inOrder_sendKeys {typed : List Stroke} {before : List KeyboardCommand}
    {keyboard : WebOSTVKeyboard} (subscribed : keyboard.keyboardQueue = some keyboard.keys)
    (strokes : ∃ after, keyboard.sent = before ++ after ∧
      after.flatMap KeyboardCommand.strokes ++ keyboard.keys.flatMap keyStrokes = typed)
    (free : keyboard.outstanding = []) : InOrder typed before keyboard.sendKeys := by
  rcases strokes with ⟨after, sent, strokes⟩
  have left : keyboard.sendKeys.keys =
      keyboard.keys.drop (nextCommand keyboard.keys).2 := by
    rw [keys, sendKeys, subscribed]
    rfl
  refine ⟨?_, ⟨after ++ [(nextCommand keyboard.keys).1], ?_, ?_⟩, fun _ => ?_, ?_⟩
  · rw [left, sendKeys, subscribed]
    rfl
  · rw [sendKeys, sent, ← List.append_assoc]
    rfl
  · rw [left, List.flatMap_append, List.append_assoc, ← strokes,
      ← nextCommand_strokes keyboard.keys]
    simp
  · rw [sendKeys, free]
    rfl
  · intro free
    cases free

theorem sendKeys_shrinks {keyboard : WebOSTVKeyboard}
    (subscribed : keyboard.keyboardQueue = some keyboard.keys) (waits : keyboard.keys ≠ []) :
    ∃ command, keyboard.sendKeys.sent = keyboard.sent ++ [command] ∧
      keyboard.sendKeys.keys.length < keyboard.keys.length := by
  refine ⟨_, rfl, ?_⟩
  have left : keyboard.sendKeys.keys =
      keyboard.keys.drop (nextCommand keyboard.keys).2 := by
    rw [keys, sendKeys, subscribed]
    rfl
  rw [left]
  exact nextCommand_shrinks waits

/-- A key is put into the queue, and at once sent if no command is on its way. -/
theorem InOrder.addKey {typed : List Stroke} {before : List KeyboardCommand}
    {keyboard : WebOSTVKeyboard} (inOrder : InOrder typed before keyboard) (key : String) :
    InOrder (typed ++ keyStrokes key) before (keyboard.addKey key) ∧
      ((keyboard.addKey key).sent = keyboard.sent ∨
        ∃ command, (keyboard.addKey key).sent = keyboard.sent ++ [command] ∧
          (keyboard.addKey key).keys.length < (keyboard.keys ++ [key]).length) := by
  rcases inOrder.strokes with ⟨after, sent, strokes⟩
  let added : WebOSTVKeyboard :=
    { keyboard with keyboardQueue := keyboard.keyboardQueue.map (· ++ [key]) }
  have queue : added.keyboardQueue = some (keyboard.keys ++ [key]) :=
    congrArg (Option.map (· ++ [key])) inOrder.subscribed
  have keys : added.keys = keyboard.keys ++ [key] := by
    rw [WebOSTVKeyboard.keys, queue]
    rfl
  have subscribed : added.keyboardQueue = some added.keys := by
    rw [keys, queue]
  have typed : ∃ after, added.sent = before ++ after ∧
      after.flatMap KeyboardCommand.strokes ++ added.keys.flatMap keyStrokes =
        typed ++ keyStrokes key := by
    refine ⟨after, sent, ?_⟩
    rw [keys, ← strokes]
    simp
  cases processing : keyboard.keyboardQueueProcessing with
  | true =>
      have waits : keyboard.addKey key = added := if_pos processing
      rw [waits]
      refine ⟨⟨subscribed, typed, inOrder.busy, fun free => ?_⟩, .inl rfl⟩
      exact absurd (processing.symm.trans free) (by decide)
  | false =>
      have sends : keyboard.addKey key = added.sendKeys := by
        rw [WebOSTVKeyboard.addKey, processing]
        rfl
      have waits : added.keys ≠ [] := by simp [keys]
      rw [sends]
      refine ⟨inOrder_sendKeys subscribed typed (inOrder.idle processing).1, .inr ?_⟩
      rw [← keys]
      exact sendKeys_shrinks subscribed waits

/-- A reply sends the next keys. -/
theorem InOrder.replied {typed : List Stroke} {before : List KeyboardCommand}
    {keyboard : WebOSTVKeyboard} (inOrder : InOrder typed before keyboard) (index : Nat)
    (success : Bool) : InOrder typed before (keyboard.step (.replied index success)) ∧
      keyboard.Shrinks (.replied index success) := by
  by_cases awaited : index < keyboard.outstanding.length
  · let freed : WebOSTVKeyboard :=
      { keyboard with
        outstanding := keyboard.outstanding.eraseIdx index
        keyboardQueueProcessing := false }
    have none : freed.outstanding = [] := by
      have one : keyboard.outstanding.length = 1 := by
        cases processing : keyboard.keyboardQueueProcessing with
        | true => exact inOrder.busy processing
        | false =>
            rw [(inOrder.idle processing).1] at awaited
            exact absurd awaited (Nat.not_lt_zero index)
      have left := List.length_eraseIdx_of_lt awaited
      rw [one] at left
      exact List.length_eq_zero_iff.mp left
    have next : keyboard.step (.replied index success) =
        if 0 < freed.keys.length then freed.sendKeys else freed := by
      rw [step, if_pos awaited]
      rfl
    rw [Shrinks, next]
    by_cases waits : 0 < freed.keys.length
    · rw [if_pos waits]
      have some : freed.keys ≠ [] := List.length_pos_iff.mp waits
      refine ⟨inOrder_sendKeys inOrder.subscribed inOrder.strokes none, .inr ?_⟩
      rw [KeyboardEvent.keys, List.append_nil]
      exact sendKeys_shrinks inOrder.subscribed some
    · rw [if_neg waits]
      have empty : freed.keys = [] := List.length_eq_zero_iff.mp (by omega)
      exact ⟨⟨inOrder.subscribed, inOrder.strokes, (fun busy => by cases busy),
        fun _ => ⟨none, empty⟩⟩, .inl rfl⟩
  · have same : keyboard.step (.replied index success) = keyboard := by
      rw [step, if_neg awaited]
    rw [Shrinks, same]
    exact ⟨inOrder, .inl rfl⟩

theorem InOrder.step {typed : List Stroke} {before : List KeyboardCommand}
    {keyboard : WebOSTVKeyboard} (inOrder : InOrder typed before keyboard)
    {event : KeyboardEvent} (plain : event.Plain) :
    InOrder (typed ++ event.strokes) before (keyboard.step event) ∧
      keyboard.Shrinks event := by
  cases event with
  | sendText input =>
      have added := inOrder.addKey input
      rw [keyStrokes_text plain] at added
      exact added
  | sendEnter => exact inOrder.addKey kKeyboardEnter
  | sendDelete =>
      have added := inOrder.addKey kKeyboardDelete
      rw [keyStrokes_delete] at added
      exact added
  | replied index success =>
      rw [KeyboardEvent.strokes, List.append_nil]
      exact inOrder.replied index success

/-! ## Runs -/

theorem InOrder.runFrom {before : List KeyboardCommand} {final : WebOSTVKeyboard} :
    ∀ {typed : List Stroke} {keyboard : WebOSTVKeyboard} {events : List KeyboardEvent},
      InOrder typed before keyboard → (∀ event ∈ events, event.Plain) →
      ConnectSDK.runFrom (fun keyboard event => some (keyboard.step event)) keyboard events =
        some final →
      InOrder (typed ++ events.flatMap KeyboardEvent.strokes) before final ∧
        EveryStep (fun keyboard event => some (keyboard.step event)) Shrinks keyboard events
  | typed, keyboard, [], inOrder, _, reached => by
      cases reached
      rw [List.flatMap_nil, List.append_nil]
      exact ⟨inOrder, trivial⟩
  | typed, keyboard, event :: events, inOrder, plain, reached => by
      rcases inOrder.step (plain event List.mem_cons_self) with ⟨kept, shrinks⟩
      rcases kept.runFrom (fun later member => plain later (List.mem_cons_of_mem event member))
        reached with ⟨final, rest⟩
      rw [List.flatMap_cons, ← List.append_assoc]
      exact ⟨final, shrinks, rest⟩

/-- What is promised of a run after `subscribeTextInputStatus`: what was sent since and what
waits is what was typed, at most one command is on its way, and every command makes the
queue shorter. -/
structure TypesInOrder (keyboard : WebOSTVKeyboard) (events : List KeyboardEvent)
    (final : WebOSTVKeyboard) : Prop where
  strokes : ∃ after, final.sent = keyboard.sent ++ after ∧
    after.flatMap KeyboardCommand.strokes ++ final.keys.flatMap keyStrokes =
      events.flatMap KeyboardEvent.strokes
  one : final.outstanding.length ≤ 1
  shrinks : EveryStep (fun keyboard event => some (keyboard.step event)) Shrinks
    keyboard.subscribeTextInputStatus events

theorem run_typesInOrder {keyboard final : WebOSTVKeyboard} {events : List KeyboardEvent}
    (replied : keyboard.outstanding = []) (plain : ∀ event ∈ events, event.Plain)
    (reached : ConnectSDK.runFrom (fun keyboard event => some (keyboard.step event))
      keyboard.subscribeTextInputStatus events = some final) :
    TypesInOrder keyboard events final := by
  have start : InOrder [] keyboard.sent keyboard.subscribeTextInputStatus :=
    ⟨rfl, ⟨[], (List.append_nil _).symm, rfl⟩, (fun busy => by cases busy),
      fun _ => ⟨replied, rfl⟩⟩
  rcases start.runFrom plain reached with ⟨inOrder, shrinks⟩
  refine ⟨inOrder.strokes, ?_, shrinks⟩
  cases processing : final.keyboardQueueProcessing with
  | true => exact Nat.le_of_eq (inOrder.busy processing)
  | false =>
      rw [(inOrder.idle processing).1]
      exact Nat.zero_le 1

/-- After the subscription a key is sent at once, whatever is still on its way. -/
theorem sendText_outstanding (keyboard : WebOSTVKeyboard) (input : String) :
    (keyboard.subscribeTextInputStatus.sendText input).outstanding.length =
      keyboard.outstanding.length + 1 :=
  List.length_append

/-- Every run after the subscription types in order, whenever the replies come, exactly if
no command from before the subscription still waits for its reply. -/
theorem run_typesInOrder_iff (keyboard : WebOSTVKeyboard) :
    (∀ events final, (∀ event ∈ events, KeyboardEvent.Plain event) →
      ConnectSDK.runFrom (fun keyboard event => some (keyboard.step event))
        keyboard.subscribeTextInputStatus events = some final →
      TypesInOrder keyboard events final) ↔
      keyboard.outstanding = [] := by
  constructor
  · intro typesInOrder
    have plain : ∀ event ∈ [KeyboardEvent.sendText "a"], event.Plain := by
      simp [KeyboardEvent.Plain, kKeyboardEnter, kKeyboardDelete]
    have one := (typesInOrder [.sendText "a"] _ plain rfl).one
    have two := keyboard.sendText_outstanding "a"
    rw [step, two] at one
    exact List.length_eq_zero_iff.mp (by omega)
  · intro replied events final plain reached
    exact run_typesInOrder replied plain reached

/-- Two deletes and a text wait for the reply to the first text. -/
theorem run_typesInOrder_batched :
    ∃ final, ConnectSDK.runFrom (fun keyboard event => some (keyboard.step event))
        (subscribeTextInputStatus {})
        [.sendText "ab", .sendDelete, .sendDelete, .sendText "c", .replied 0 true] =
          some final ∧
      final.sent.flatMap KeyboardCommand.strokes ++ final.keys.flatMap keyStrokes =
        [.character 'a', .character 'b', .delete, .delete, .character 'c'] ∧
      final.outstanding.length ≤ 1 := by
  refine ⟨_, rfl, ?_⟩
  rcases (run_typesInOrder_iff {}).mpr rfl
    [.sendText "ab", .sendDelete, .sendDelete, .sendText "c", .replied 0 true] _
    (by simp [KeyboardEvent.Plain, kKeyboardEnter, kKeyboardDelete]) rfl with
    ⟨⟨after, sent, strokes⟩, one, _⟩
  rw [sent]
  exact ⟨strokes, one⟩

/-- A text that is sent before the first subscription is a command that the subscription
forgets, so that the next text makes it two. -/
theorem earlier_text_outstanding :
    ¬ ∀ (earlier events : List KeyboardEvent) (keyboard final : WebOSTVKeyboard),
      ConnectSDK.runFrom (fun keyboard event => some (keyboard.step event)) {} earlier =
        some keyboard →
      (∀ event ∈ events, event.Plain) →
      ConnectSDK.runFrom (fun keyboard event => some (keyboard.step event))
        keyboard.subscribeTextInputStatus events = some final →
      TypesInOrder keyboard events final := by
  intro typesInOrder
  have types := typesInOrder [.sendText "a"] [.sendText "b"] _ _ rfl
    (by simp [KeyboardEvent.Plain, kKeyboardEnter, kKeyboardDelete]) rfl
  exact absurd types.one (by decide)

end WebOSTVKeyboard

end ConnectSDK
