import ConnectSDK.Foundation.Run
import ConnectSDK.Services.NetcastLists

/-! # The toggles of a Netcast TV

`setMute:success:failure:` and `set3DEnabled:success:failure:` ask for the state of the TV
and, if it is another one, send a key that toggles it. Several calls with the same value
may be under way.
-/

namespace ConnectSDK

/-- `boolValue` of a string: after blanks, a sign and zeros comes a letter or a digit that
means yes. -/
def textBoolValue (text : String) : Bool :=
  let characters := text.toList.dropWhile Char.isWhitespace
  let unsigned :=
    match characters with
    | '-' :: rest => rest
    | '+' :: rest => rest
    | all => all
  match unsigned.dropWhile (· = '0') with
  | [] => false
  | first :: _ => "YyTt123456789".toList.contains first

inductive NetcastTVRequest where
  | get (target : String)
  | cursorVisible (visible : Bool)
  | handleKeyInput (keyCode : Nat)

/-- What the two setters differ in, and what the TV answers. -/
structure ToggleSetter where
  target : String
  keyCode : Nat
  /-- What the getter reads; `none` is an exception. -/
  status : JSON → Option Bool
  response : Bool → JSON
  status_response : ∀ state, status (response state) = some state

namespace NetcastTVService

/-- What the text of an element of the data says. -/
def statusOf (key : String) (holds : Option String → Bool) (responseDic : JSON) :
    Option Bool :=
  (responseData responseDic).bind fun data => (textForKey data key).map holds

def statusResponse (key : String) (state : Bool) : JSON :=
  dataReply (some (.object
    [(key, .object [("text", .string (if state then "true" else "false"))])]))

theorem statusOf_statusResponse {key : String} {holds : Option String → Bool}
    (yes : holds (some "true") = true) (no : holds (some "false") = false) (state : Bool) :
    statusOf key holds (statusResponse key state) = some state := by
  cases state <;>
    simp [statusOf, statusResponse, textForKey, objectForKey, JSON.Fields.value?_cons, yes, no]

def setMute : ToggleSetter where
  target := "?target=volume_info"
  keyCode := 26
  status := statusOf "mute" fun text => (text.map textBoolValue).getD false
  response := statusResponse "mute"
  status_response := statusOf_statusResponse (by decide) (by decide)

def set3DEnabled : ToggleSetter where
  target := "?target=is_3d"
  keyCode := 400
  status := statusOf "is3D" fun text => decide (text = some "true")
  response := statusResponse "is3D"
  status_response := statusOf_statusResponse (by decide) (by decide)

end NetcastTVService

/-- How far a call has come. -/
inductive TogglePhase where
  | statusAsked
  /-- The answer is on its way. -/
  | statusAnswered (response : JSON)
  | mouseHiding
  | keySent
  /-- The TV has toggled its state. -/
  | keyApplied
  | succeeded
  | failed

/-- The state of the TV, and the calls. -/
structure NetcastToggle where
  tvState : Bool
  mouseVisible : Bool
  calls : List TogglePhase := []
  requests : List NetcastTVRequest := []
  /-- How often the TV toggled its state. -/
  presses : Nat := 0

inductive ToggleEvent where
  | call
  | reaches (call : Nat)
  | replied (call : Nat)
  | fails (call : Nat)
  | showsMouse

namespace NetcastToggle

def send (toggle : NetcastToggle) (call : Nat) (phase : TogglePhase)
    (request : NetcastTVRequest) : NetcastToggle :=
  { toggle with
    calls := toggle.calls.set call phase
    requests := toggle.requests ++ [request] }

/-- `sendKeyCode:`, up to its first request. -/
def sendKeyCode (setter : ToggleSetter) (toggle : NetcastToggle) (call : Nat) :
    NetcastToggle :=
  if toggle.mouseVisible then toggle.send call .mouseHiding (.cursorVisible false)
  else toggle.send call .keySent (.handleKeyInput setter.keyCode)

/-- The request of a call reaches the TV. -/
def reaches (setter : ToggleSetter) (toggle : NetcastToggle) (call : Nat) : NetcastToggle :=
  match toggle.calls[call]? with
  | some .statusAsked =>
      { toggle with
        calls := toggle.calls.set call (.statusAnswered (setter.response toggle.tvState)) }
  | some .keySent =>
      { toggle with
        calls := toggle.calls.set call .keyApplied
        tvState := !toggle.tvState
        presses := toggle.presses + 1 }
  | _ => toggle

/-- The answer of the TV reaches the service. -/
def replied (setter : ToggleSetter) (value : Bool) (toggle : NetcastToggle) (call : Nat) :
    Option NetcastToggle :=
  match toggle.calls[call]? with
  | some (.statusAnswered response) =>
      (setter.status response).map fun current =>
        if current = value then { toggle with calls := toggle.calls.set call .succeeded }
        else toggle.sendKeyCode setter call
  | some .mouseHiding =>
      some ({ toggle with mouseVisible := false }.send call .keySent
        (.handleKeyInput setter.keyCode))
  | some .keyApplied => some { toggle with calls := toggle.calls.set call .succeeded }
  | _ => some toggle

/-- A request of a call fails, before or after the TV acted on it. -/
def fails (toggle : NetcastToggle) (call : Nat) : NetcastToggle :=
  match toggle.calls[call]? with
  | none | some .succeeded => toggle
  | some _ => { toggle with calls := toggle.calls.set call .failed }

def step (setter : ToggleSetter) (value : Bool) (toggle : NetcastToggle) :
    ToggleEvent → Option NetcastToggle
  | .call =>
      some
        { toggle with
          calls := toggle.calls ++ [.statusAsked]
          requests := toggle.requests ++ [.get setter.target] }
  | .reaches call => some (toggle.reaches setter call)
  | .replied call => toggle.replied setter value call
  | .fails call => some (toggle.fails call)
  | .showsMouse => some { toggle with mouseVisible := true }

/-- All calls have completed successfully. -/
def Completed (toggle : NetcastToggle) : Prop :=
  toggle.calls ≠ [] ∧ ∀ phase ∈ toggle.calls, phase = .succeeded

/-- Once all calls have completed successfully, the TV is in the state they were for. -/
def Settled (value : Bool) (toggle : NetcastToggle) : Prop :=
  toggle.Completed → toggle.tvState = value

/-- The call has seen another state, and its key press is not applied yet. -/
def pressing (setter : ToggleSetter) (value : Bool) : TogglePhase → Bool
  | .statusAnswered response => setter.status response != some value
  | .mouseHiding => true
  | .keySent => true
  | _ => false

/-- The TV tells its state to a call only while no other is about to change it. -/
def ReadsSettled (setter : ToggleSetter) (value : Bool) (toggle : NetcastToggle) :
    ToggleEvent → Prop
  | .reaches call => toggle.calls[call]? = some .statusAsked →
      ∀ phase ∈ toggle.calls, pressing setter value phase = false
  | _ => True

/-! ## Steps -/

/-- The call has been told the state of the TV. -/
def seen : TogglePhase → Bool
  | .statusAsked => false
  | .failed => false
  | _ => true

/-- What a step does. -/
inductive StepOutcome (setter : ToggleSetter) (value : Bool) (toggle next : NetcastToggle)
    (event : ToggleEvent) : Prop where
  | unchanged (calls : next.calls = toggle.calls) (tvState : next.tvState = toggle.tvState)
      (presses : next.presses = toggle.presses)
  | asked (calls : next.calls = toggle.calls ++ [.statusAsked])
      (tvState : next.tvState = toggle.tvState) (presses : next.presses = toggle.presses)
  | told (call : Nat) (reaches : event = .reaches call)
      (asked : toggle.calls[call]? = some .statusAsked)
      (calls : next.calls =
        toggle.calls.set call (.statusAnswered (setter.response toggle.tvState)))
      (tvState : next.tvState = toggle.tvState) (presses : next.presses = toggle.presses)
  | moved (call : Nat) (before after : TogglePhase)
      (held : toggle.calls[call]? = some before)
      (calls : next.calls = toggle.calls.set call after)
      (seenBefore : seen before = true) (seenAfter : seen after = true)
      (pressing : pressing setter value after = pressing setter value before)
      (tvState : next.tvState = toggle.tvState) (presses : next.presses = toggle.presses)
  | pressed (call : Nat) (sent : toggle.calls[call]? = some .keySent)
      (calls : next.calls = toggle.calls.set call .keyApplied)
      (tvState : next.tvState = !toggle.tvState) (presses : next.presses = toggle.presses + 1)
  | failed (call : Nat) (inside : call < toggle.calls.length)
      (calls : next.calls = toggle.calls.set call .failed)
      (tvState : next.tvState = toggle.tvState) (presses : next.presses = toggle.presses)

theorem sendKeyCode_outcome (setter : ToggleSetter) (value : Bool) {toggle : NetcastToggle}
    {call : Nat} {response : JSON}
    (answered : toggle.calls[call]? = some (.statusAnswered response))
    (other : setter.status response ≠ some value) :
    StepOutcome setter value toggle (toggle.sendKeyCode setter call) (.replied call) := by
  have pending : pressing setter value (.statusAnswered response) = true := by
    rw [pressing, bne_iff_ne]
    exact other
  rw [sendKeyCode]
  split
  · exact .moved call (.statusAnswered response) .mouseHiding answered rfl rfl rfl
      pending.symm rfl rfl
  · exact .moved call (.statusAnswered response) .keySent answered rfl rfl rfl
      pending.symm rfl rfl

theorem replied_outcome {setter : ToggleSetter} {value : Bool} {toggle next : NetcastToggle}
    {call : Nat} (taken : toggle.replied setter value call = some next) :
    StepOutcome setter value toggle next (.replied call) := by
  rw [replied] at taken
  split at taken
  next response held =>
    rcases Option.map_eq_some_iff.mp taken with ⟨current, read, reached⟩
    split at reached
    next same =>
      rw [← reached]
      have idle : pressing setter value (.statusAnswered response) = false := by
        rw [pressing, read, same, bne_self_eq_false]
      exact .moved call (.statusAnswered response) .succeeded held rfl rfl rfl idle.symm rfl rfl
    next other =>
      rw [← reached]
      refine sendKeyCode_outcome setter value held ?_
      rw [read]
      exact fun same => other (Option.some.inj same)
  next held =>
    cases taken
    exact .moved call .mouseHiding .keySent held rfl rfl rfl rfl rfl rfl
  next held =>
    cases taken
    exact .moved call .keyApplied .succeeded held rfl rfl rfl rfl rfl rfl
  next =>
    cases taken
    exact .unchanged rfl rfl rfl

theorem reaches_outcome (setter : ToggleSetter) (value : Bool) (toggle : NetcastToggle)
    (call : Nat) :
    StepOutcome setter value toggle (toggle.reaches setter call) (.reaches call) := by
  rw [reaches]
  split
  next held => exact .told call rfl held rfl rfl rfl
  next held => exact .pressed call held rfl rfl rfl
  next => exact .unchanged rfl rfl rfl

theorem fails_outcome (setter : ToggleSetter) (value : Bool) (toggle : NetcastToggle)
    (call : Nat) : StepOutcome setter value toggle (toggle.fails call) (.fails call) := by
  rw [fails]
  split
  next => exact .unchanged rfl rfl rfl
  next => exact .unchanged rfl rfl rfl
  next phase _ held =>
    exact .failed call (List.getElem?_eq_some_iff.mp held).1 rfl rfl rfl

theorem step_outcome {setter : ToggleSetter} {value : Bool} {toggle next : NetcastToggle}
    {event : ToggleEvent} (taken : toggle.step setter value event = some next) :
    StepOutcome setter value toggle next event := by
  cases event with
  | call =>
      cases taken
      exact .asked rfl rfl rfl
  | reaches call =>
      cases taken
      exact reaches_outcome setter value toggle call
  | replied call => exact replied_outcome taken
  | fails call =>
      cases taken
      exact fails_outcome setter value toggle call
  | showsMouse =>
      cases taken
      exact .unchanged rfl rfl rfl

/-! ## Runs -/

/-- A call has failed; or no key press is still to come and the TV is as any call that was
told its state wants it; or one key press is still to come and the TV is in the other
state. -/
def Steady (setter : ToggleSetter) (value : Bool) (toggle : NetcastToggle) : Prop :=
  .failed ∈ toggle.calls ∨
    (toggle.calls.countP (pressing setter value) = 0 ∧
      ((∃ phase ∈ toggle.calls, seen phase = true) → toggle.tvState = value)) ∨
    (toggle.calls.countP (pressing setter value) = 1 ∧ toggle.tvState = !value)

theorem countP_set_of_getElem? {Item : Type} (accepts : Item → Bool) {items : List Item}
    {index : Nat} {before : Item} (held : items[index]? = some before) (after : Item) :
    (items.set index after).countP accepts + (if accepts before then 1 else 0) =
      items.countP accepts + (if accepts after then 1 else 0) := by
  rcases List.getElem?_eq_some_iff.mp held with ⟨inside, same⟩
  have counted : (if accepts before then 1 else 0) ≤ items.countP accepts := by
    split
    next accepted =>
      exact List.countP_pos_iff.mpr ⟨before, List.mem_of_getElem? held, accepted⟩
    next => exact Nat.zero_le _
  rw [List.countP_set inside, same]
  omega

theorem mem_set_of_ne {Item : Type} {items : List Item} {index : Nat} {before kept : Item}
    (held : items[index]? = some before) (different : kept ≠ before) (after : Item)
    (member : kept ∈ items) : kept ∈ items.set index after := by
  rcases List.mem_iff_getElem?.mp member with ⟨other, found⟩
  have apart : index ≠ other := by
    intro same
    rw [same, found] at held
    exact different (Option.some.inj held)
  exact List.mem_iff_getElem?.mpr ⟨other, by rw [List.getElem?_set_ne apart]; exact found⟩

theorem Steady.settled {setter : ToggleSetter} {value : Bool} {toggle : NetcastToggle}
    (steady : toggle.Steady setter value) : toggle.Settled value := by
  intro completed
  rcases completed with ⟨some, succeeded⟩
  rcases steady with failed | ⟨_, told⟩ | ⟨one, _⟩
  · cases succeeded _ failed
  · rcases List.exists_mem_of_ne_nil _ some with ⟨phase, member⟩
    exact told ⟨phase, member, by rw [succeeded phase member]; rfl⟩
  · have positive : 0 < toggle.calls.countP (pressing setter value) := by omega
    rcases List.countP_pos_iff.mp positive with ⟨phase, member, pending⟩
    rw [succeeded phase member] at pending
    cases pending

theorem Steady.step {setter : ToggleSetter} {value : Bool} {toggle next : NetcastToggle}
    {event : ToggleEvent} (steady : toggle.Steady setter value)
    (settled : toggle.ReadsSettled setter value event)
    (taken : toggle.step setter value event = some next) : next.Steady setter value := by
  cases step_outcome taken with
  | unchanged calls tvState presses =>
      rw [Steady, calls, tvState]
      exact steady
  | asked calls tvState presses =>
      rw [Steady, calls, tvState, List.countP_append]
      rcases steady with failed | ⟨none, told⟩ | one
      · exact Or.inl (List.mem_append_left _ failed)
      · refine Or.inr (Or.inl ⟨none, ?_⟩)
        intro someone
        rcases someone with ⟨phase, member, hasSeen⟩
        rcases List.mem_append.mp member with old | new
        · exact told ⟨phase, old, hasSeen⟩
        · rw [List.mem_singleton.mp new] at hasSeen
          cases hasSeen
      · exact Or.inr (Or.inr one)
  | told call reaches held calls tvState presses =>
      have idle : toggle.calls.countP (pressing setter value) = 0 := by
        rw [reaches] at settled
        rw [List.countP_eq_zero]
        intro phase member pending
        rw [settled held phase member] at pending
        cases pending
      have count := countP_set_of_getElem? (pressing setter value) held
        (.statusAnswered (setter.response toggle.tvState))
      rw [Steady, calls, tvState]
      by_cases wanted : toggle.tvState = value
      · have quiet : pressing setter value
            (.statusAnswered (setter.response toggle.tvState)) = false := by
          rw [pressing, setter.status_response, wanted, bne_self_eq_false]
        rw [quiet, idle] at count
        exact Or.inr (Or.inl ⟨count, fun _ => wanted⟩)
      · have pending : pressing setter value
            (.statusAnswered (setter.response toggle.tvState)) = true := by
          rw [pressing, setter.status_response, bne_iff_ne]
          exact fun same => wanted (Option.some.inj same)
        rw [pending, idle] at count
        exact Or.inr (Or.inr ⟨count, Bool.eq_not_of_ne wanted⟩)
  | moved call before after held calls seenBefore seenAfter same tvState presses =>
      have count := countP_set_of_getElem? (pressing setter value) held after
      rw [same] at count
      have kept := Nat.add_right_cancel count
      rw [Steady, calls, tvState, kept]
      rcases steady with failed | ⟨none, told⟩ | one
      · refine Or.inl (mem_set_of_ne held ?_ after failed)
        intro ended
        rw [← ended] at seenBefore
        cases seenBefore
      · exact Or.inr (Or.inl ⟨none, fun _ =>
          told ⟨before, List.mem_of_getElem? held, seenBefore⟩⟩)
      · exact Or.inr (Or.inr one)
  | pressed call held calls tvState presses =>
      have count := countP_set_of_getElem? (pressing setter value) held .keyApplied
      have pending : pressing setter value .keySent = true := rfl
      have applied : pressing setter value .keyApplied = false := rfl
      rw [pending, applied, if_pos rfl, if_neg Bool.false_ne_true, Nat.add_zero] at count
      rw [Steady, calls, tvState]
      rcases steady with failed | ⟨none, _⟩ | ⟨one, other⟩
      · exact Or.inl (mem_set_of_ne held (by intro same; cases same) _ failed)
      · omega
      · refine Or.inr (Or.inl ⟨by omega, fun _ => ?_⟩)
        rw [other, Bool.not_not]
  | failed call inside calls tvState presses =>
      rw [Steady, calls]
      exact Or.inl (List.mem_set inside _)

/-- A TV that is asked about by nobody yet. -/
theorem steady_initially (setter : ToggleSetter) (value tvState mouseVisible : Bool) :
    Steady setter value { tvState, mouseVisible } := by
  refine Or.inr (Or.inl ⟨rfl, ?_⟩)
  intro someone
  rcases someone with ⟨phase, member, _⟩
  cases member

/-! ## Key presses -/

/-- The state of the TV is told by the number of key presses, and in the wanted state no
key is pressed. -/
def Counted (setter : ToggleSetter) (value initially : Bool) (toggle : NetcastToggle) : Prop :=
  (toggle.tvState = (initially ^^ decide (toggle.presses % 2 = 1))) ∧
    (initially = value → toggle.presses = 0 ∧
      toggle.calls.countP (pressing setter value) = 0)

theorem Counted.step {setter : ToggleSetter} {value initially : Bool}
    {toggle next : NetcastToggle} {event : ToggleEvent}
    (counted : toggle.Counted setter value initially)
    (taken : toggle.step setter value event = some next) :
    next.Counted setter value initially := by
  cases step_outcome taken with
  | unchanged calls tvState presses =>
      rw [Counted, calls, tvState, presses]
      exact counted
  | asked calls tvState presses =>
      rw [Counted, calls, tvState, presses, List.countP_append]
      exact counted
  | told call reaches held calls tvState presses =>
      have count := countP_set_of_getElem? (pressing setter value) held
        (.statusAnswered (setter.response toggle.tvState))
      rw [Counted, calls, tvState, presses]
      refine ⟨counted.1, fun wanted => ?_⟩
      rcases counted.2 wanted with ⟨none, idle⟩
      have state : toggle.tvState = value := by
        rw [counted.1, none, wanted]
        simp
      have quiet : pressing setter value
          (.statusAnswered (setter.response toggle.tvState)) = false := by
        rw [pressing, setter.status_response, state, bne_self_eq_false]
      rw [quiet, idle] at count
      exact ⟨none, count⟩
  | moved call before after held calls seenBefore seenAfter same tvState presses =>
      have count := countP_set_of_getElem? (pressing setter value) held after
      rw [same] at count
      rw [Counted, calls, tvState, presses, Nat.add_right_cancel count]
      exact counted
  | pressed call held calls tvState presses =>
      rw [Counted, calls, tvState, presses]
      refine ⟨?_, fun wanted => ?_⟩
      · rw [counted.1, ← Bool.xor_not]
        congr 1
        rw [← decide_not]
        exact decide_eq_decide.mpr (by omega)
      · have pending : 0 < toggle.calls.countP (pressing setter value) :=
          List.countP_pos_iff.mpr ⟨.keySent, List.mem_of_getElem? held, rfl⟩
        have idle := (counted.2 wanted).2
        omega
  | failed call inside calls tvState presses =>
      rw [Counted, calls, tvState, presses]
      refine ⟨counted.1, fun wanted => ⟨(counted.2 wanted).1, ?_⟩⟩
      have count := countP_set_of_getElem? (pressing setter value)
        (List.getElem?_eq_getElem inside) .failed
      have idle := (counted.2 wanted).2
      have ended : pressing setter value .failed = false := rfl
      rw [ended, if_neg Bool.false_ne_true, idle] at count
      omega

/-- In every run in which the TV is asked for its state only while no key press is still to
come, the TV is in the wanted state once all calls have completed successfully. And in any
run it is in that state exactly if it was from the start or the number of key presses that
it applied is odd. -/
theorem run_settled (setter : ToggleSetter) (value tvState mouseVisible : Bool)
    (events : List ToggleEvent) :
    (EveryStep (step setter value) (ReadsSettled setter value) { tvState, mouseVisible } events →
      Throughout (step setter value) (Settled value) { tvState, mouseVisible } events) ∧
    ∀ final, runFrom (step setter value) { tvState, mouseVisible } events = some final →
      (final.tvState = value ↔ tvState = value ∨ final.presses % 2 = 1) := by
  constructor
  · exact EveryStep.throughout (fun _ _ _ steady settled taken => steady.step settled taken)
      (fun _ steady => steady.settled) (steady_initially setter value tvState mouseVisible)
  · intro final reached
    have initially : Counted setter value tvState { tvState, mouseVisible } :=
      ⟨by simp, fun _ => ⟨rfl, rfl⟩⟩
    have counted : final.Counted setter value tvState :=
      runFrom_invariant (fun _ _ _ counted _ taken => Counted.step counted taken) initially
        (everyStep_of_forall (fun _ _ => trivial) _ events) reached
    rw [counted.1]
    by_cases wanted : tvState = value
    · have none := (counted.2 wanted).1
      simp [none, wanted]
    · cases tvState <;> cases value <;> simp_all

/-- Two calls under way together: the second asks for the state once the key of the first
has muted the TV. -/
def secondAsksLater : List ToggleEvent :=
  [.call, .call, .reaches 0, .replied 0, .reaches 0, .reaches 1, .replied 0, .replied 1]

theorem run_settled_secondAsksLater :
    Throughout (step NetcastTVService.setMute true) (Settled true)
        { tvState := false, mouseVisible := false } secondAsksLater ∧
      ∃ final, runFrom (step NetcastTVService.setMute true)
          { tvState := false, mouseVisible := false } secondAsksLater = some final ∧
        final.Completed ∧ final.presses = 1 ∧ final.tvState = true := by
  have settled := run_settled NetcastTVService.setMute true false false secondAsksLater
  constructor
  · refine settled.1 ⟨trivial, trivial, fun _ => ?_, trivial, ?_, fun _ => ?_, trivial, trivial,
      trivial⟩
    · intro phase member
      rcases List.mem_pair.mp member with rfl | rfl <;> rfl
    · intro asked
      cases asked
    · intro phase member
      rcases List.mem_pair.mp member with rfl | rfl <;> rfl
  · refine ⟨_, rfl, ⟨List.cons_ne_nil _ _, ?_⟩, rfl, (settled.2 _ rfl).mpr (.inr rfl)⟩
    intro phase member
    rcases List.mem_pair.mp member with rfl | rfl <;> rfl

/-- Two calls that both see the TV with its sound on. -/
theorem overlapping_calls_not_settled :
    ¬ Throughout (step NetcastTVService.setMute true) (Settled true)
      { tvState := false, mouseVisible := false }
      [.call, .call, .reaches 0, .reaches 1, .replied 0, .replied 1, .reaches 0, .reaches 1,
        .replied 0, .replied 1] := by
  intro throughout
  rcases throughout with ⟨_, _, _, _, _, _, _, _, _, _, settled⟩
  have both : ∀ phase ∈ [TogglePhase.succeeded, .succeeded], phase = .succeeded := by simp
  cases settled ⟨List.cons_ne_nil _ _, both⟩

end NetcastToggle

end ConnectSDK
