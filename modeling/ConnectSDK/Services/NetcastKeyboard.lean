import Mathlib.Logic.Basic
import ConnectSDK.Foundation.Run
import ConnectSDK.Foundation.UTF16
import ConnectSDK.Helpers.ConnectError

/-! # The keyboard of a Netcast TV

What `NetcastTVService` keeps of the text that is typed and sends to the TV. Deleting takes
away one UTF-16 unit.
-/

namespace ConnectSDK

/-- A well-formed string, in UTF-16 units. -/
structure UnicodeText where
  units : List UInt16
  wellFormed : UTF16.WellFormed units

/-- An event `TextEdited`. -/
structure TextEdited where
  state : String
  value : List UInt16

structure NetcastKeyboard where
  /-- `_keyboardString`. -/
  keyboardString : Option (List UInt16) := none
  sent : List TextEdited := []
  /-- The errors that failure blocks were called with. -/
  failures : List NSError := []

/-- The methods of the text input, the answer to the key that ends it, and what the TV says
of the text and of its keyboard. -/
inductive NetcastKeyboardEvent where
  | sendText (input : UnicodeText)
  | sendDelete
  | sendEnter
  | enterAnswered
  | textEdited (text : Option UnicodeText)
  | keyboardVisible

namespace NetcastKeyboard

/-- `sendText:state:success:failure:`. -/
def sendTextState (keyboard : NetcastKeyboard) (value : List UInt16) (state : String) :
    NetcastKeyboard :=
  { keyboard with sent := keyboard.sent ++ [{ state, value }] }

def fail (keyboard : NetcastKeyboard) (details : String) : NetcastKeyboard :=
  { keyboard with
    failures := keyboard.failures ++
      [ConnectError.generateErrorWithCode (fun _ => "") .argumentError
        (some (.string details))] }

def sendText (keyboard : NetcastKeyboard) (input : List UInt16) : NetcastKeyboard :=
  let keyboardString :=
    match keyboard.keyboardString with
    | none => input
    | some text => if 0 < text.length then text ++ input else input
  { keyboard with keyboardString := some keyboardString }.sendTextState keyboardString "Editing"

def sendEnter (keyboard : NetcastKeyboard) : NetcastKeyboard :=
  match keyboard.keyboardString with
  | none => keyboard.fail "You have not inputted any text to send."
  | some text =>
      if 0 < text.length then keyboard.sendTextState text "EditEnd"
      else keyboard.fail "You have not inputted any text to send."

def sendDelete (keyboard : NetcastKeyboard) : NetcastKeyboard :=
  match keyboard.keyboardString with
  | none => keyboard.fail "There are no characters to delete."
  | some text =>
      if 0 < text.length then
        { keyboard with keyboardString := some text.dropLast }.sendTextState text.dropLast
          "Editing"
      else keyboard.fail "There are no characters to delete."

def step (keyboard : NetcastKeyboard) : NetcastKeyboardEvent → NetcastKeyboard
  | .sendText input => keyboard.sendText input.units
  | .sendDelete => keyboard.sendDelete
  | .sendEnter => keyboard.sendEnter
  | .enterAnswered => { keyboard with keyboardString := some [] }
  | .textEdited text => { keyboard with keyboardString := text.map UnicodeText.units }
  | .keyboardVisible => keyboard.sendTextState [] "EditStart"

/-- Nothing raises an exception. -/
def stepped (keyboard : NetcastKeyboard) (event : NetcastKeyboardEvent) :
    Option NetcastKeyboard :=
  some (keyboard.step event)

/-- Every text sent so far is well-formed. -/
def SentWellFormed (keyboard : NetcastKeyboard) : Prop :=
  ∀ event ∈ keyboard.sent, UTF16.WellFormed event.value

/-- No half of a surrogate pair is deleted. -/
def DeletesWhole (keyboard : NetcastKeyboard) : NetcastKeyboardEvent → Prop
  | .sendDelete => ∀ text, keyboard.keyboardString = some text → ¬ UTF16.EndsInPair text
  | _ => True

/-- As long as only well-formed texts were sent, the text is well-formed. -/
def KeepsText (keyboard : NetcastKeyboard) : Prop :=
  keyboard.SentWellFormed → ∀ text, keyboard.keyboardString = some text →
    UTF16.WellFormed text

theorem sentWellFormed_sendTextState_iff (keyboard : NetcastKeyboard) (value : List UInt16)
    (state : String) :
    (keyboard.sendTextState value state).SentWellFormed ↔
      keyboard.SentWellFormed ∧ UTF16.WellFormed value := by
  simp only [SentWellFormed, sendTextState, List.mem_append, List.mem_singleton, or_imp,
    forall_and, forall_eq]

/-- What was just sent is the text. -/
theorem keepsText_sendTextState (keyboard : NetcastKeyboard) (value : List UInt16)
    (state : String) :
    ({ keyboard with keyboardString := some value }.sendTextState value state).KeepsText := by
  intro sent text same
  cases same
  exact ((sentWellFormed_sendTextState_iff _ value state).mp sent).2

theorem KeepsText.step {keyboard : NetcastKeyboard} (keeps : keyboard.KeepsText)
    (event : NetcastKeyboardEvent) : (keyboard.step event).KeepsText := by
  cases event with
  | sendText input =>
      exact keepsText_sendTextState _ _ _
  | sendDelete =>
      cases held : keyboard.keyboardString with
      | none =>
          simp only [NetcastKeyboard.step, sendDelete, held]
          exact keeps
      | some text =>
          simp only [NetcastKeyboard.step, sendDelete, held]
          split
          · exact keepsText_sendTextState _ _ _
          · exact keeps
  | sendEnter =>
      cases held : keyboard.keyboardString with
      | none =>
          simp only [NetcastKeyboard.step, sendEnter, held]
          exact keeps
      | some text =>
          simp only [NetcastKeyboard.step, sendEnter, held]
          split
          · intro sent
            exact keeps ((sentWellFormed_sendTextState_iff _ _ _).mp sent).1
          · exact keeps
  | enterAnswered =>
      intro _ text same
      cases same
      exact .nil
  | textEdited text =>
      intro _ units same
      rcases Option.map_eq_some_iff.mp same with ⟨edited, _, units⟩
      rw [← units]
      exact edited.wellFormed
  | keyboardVisible =>
      intro sent
      exact keeps ((sentWellFormed_sendTextState_iff _ _ _).mp sent).1

/-- From texts that are well-formed a step goes on sending such texts exactly if it deletes
no half of a pair. -/
theorem deletesWhole_iff {keyboard : NetcastKeyboard} (keeps : keyboard.KeepsText)
    (good : keyboard.SentWellFormed) (event : NetcastKeyboardEvent) :
    keyboard.DeletesWhole event ↔ (keyboard.step event).SentWellFormed := by
  have formed := keeps good
  cases event with
  | sendText input =>
      refine iff_of_true trivial ((sentWellFormed_sendTextState_iff _ _ _).mpr ⟨good, ?_⟩)
      cases held : keyboard.keyboardString with
      | none => exact input.wellFormed
      | some text =>
          dsimp only
          split
          · exact (formed text held).append input.wellFormed
          · exact input.wellFormed
  | sendDelete =>
      rw [DeletesWhole]
      cases held : keyboard.keyboardString with
      | none =>
          simp only [NetcastKeyboard.step, sendDelete, held]
          exact iff_of_true (fun _ impossible => by cases impossible) good
      | some text =>
          simp only [NetcastKeyboard.step, sendDelete, held, Option.some.injEq, forall_eq']
          split
          · rw [sentWellFormed_sendTextState_iff, (formed text held).dropLast_iff]
            exact (and_iff_right good).symm
          next empty =>
            have nothing : text = [] := List.eq_nil_of_length_eq_zero (by omega)
            rw [nothing]
            exact iff_of_true (fun ends => by cases ends.choose_spec.1) good
  | sendEnter =>
      refine iff_of_true trivial ?_
      cases held : keyboard.keyboardString with
      | none =>
          simp only [NetcastKeyboard.step, sendEnter, held]
          exact good
      | some text =>
          simp only [NetcastKeyboard.step, sendEnter, held]
          split
          · exact (sentWellFormed_sendTextState_iff _ _ _).mpr ⟨good, formed text held⟩
          · exact good
  | enterAnswered =>
      exact iff_of_true trivial good
  | textEdited text =>
      exact iff_of_true trivial good
  | keyboardVisible =>
      exact iff_of_true trivial ((sentWellFormed_sendTextState_iff _ _ _).mpr ⟨good, .nil⟩)

end NetcastKeyboard

end ConnectSDK
