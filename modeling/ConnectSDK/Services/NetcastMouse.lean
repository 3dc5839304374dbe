import Mathlib.Algebra.BigOperators.Group.List.Basic
import Mathlib.Algebra.Order.Ring.Rat
import Mathlib.Tactic.Linarith
import Mathlib.Tactic.Ring
import Mathlib.Tactic.NormNum
import ConnectSDK.Foundation.Run

/-! # The mouse of a Netcast TV

How `NetcastTVService` moves the mouse: while a command is not answered, distances are
added up, and what is sent is rounded. Distances are exact. The blocks of the callers are
left out.
-/

namespace ConnectSDK

inductive Axis where
  | dx
  | dy
deriving DecidableEq

abbrev CGVector := Axis → Rat

/-- The function `round` of C, which rounds halves away from zero. -/
def roundAway (value : Rat) : Int :=
  if 0 ≤ value then (value + 1 / 2).floor else -(-value + 1 / 2).floor

/-- A command `HandleTouchMove`. -/
structure HandleTouchMove where
  distance : Axis → Int

/-- Beside the instance variables, `outstanding` has the commands without an answer, and
`requested`, `coalesced` and `sent` what was asked for, added up and sent since the mouse
was connected. -/
structure NetcastMouse where
  mouseDistance : CGVector := 0
  mouseIsMoving : Bool := false
  outstanding : List HandleTouchMove := []
  requested : List CGVector := []
  coalesced : List CGVector := []
  sent : List HandleTouchMove := []

inductive NetcastMouseEvent where
  | connectMouse
  | move (distance : CGVector)
  | answered (index : Nat) (succeeds : Bool)

namespace NetcastMouse

variable (toInt : Int → Int)

/-- `(int) round(distance)`. What a conversion to `int` makes of a number that is none is
left to `toInt`. -/
def rounded (distance : CGVector) : Axis → Int :=
  fun axis => toInt (roundAway (distance axis))

def connectMouse (mouse : NetcastMouse) : NetcastMouse :=
  { mouse with
    mouseDistance := 0
    mouseIsMoving := false
    requested := []
    coalesced := []
    sent := [] }

/-- `moveMouseWithSuccess:failure:`. -/
def moveMouse (mouse : NetcastMouse) : NetcastMouse :=
  let command : HandleTouchMove := { distance := rounded toInt mouse.mouseDistance }
  { mouse with
    mouseDistance := 0
    outstanding := mouse.outstanding ++ [command]
    coalesced := mouse.coalesced ++ [mouse.mouseDistance]
    sent := mouse.sent ++ [command] }

def move (mouse : NetcastMouse) (distance : CGVector) : NetcastMouse :=
  let mouse :=
    { mouse with
      mouseDistance := mouse.mouseDistance + distance
      requested := mouse.requested ++ [distance] }
  if mouse.mouseIsMoving then mouse
  else moveMouse toInt { mouse with mouseIsMoving := true }

/-- `_mouseDistance.dx != 0 || _mouseDistance.dy != 0`. -/
def isPending (mouse : NetcastMouse) : Bool :=
  decide (mouse.mouseDistance .dx ≠ 0) || decide (mouse.mouseDistance .dy ≠ 0)

/-- The callbacks of the command at an index. -/
def answered (mouse : NetcastMouse) (index : Nat) (succeeds : Bool) : NetcastMouse :=
  if index < mouse.outstanding.length then
    let mouse := { mouse with outstanding := mouse.outstanding.eraseIdx index }
    if succeeds && mouse.isPending then moveMouse toInt mouse
    else { mouse with mouseIsMoving := false }
  else mouse

def step (mouse : NetcastMouse) : NetcastMouseEvent → NetcastMouse
  | .connectMouse => mouse.connectMouse
  | .move distance => mouse.move toInt distance
  | .answered index succeeds => mouse.answered toInt index succeeds

/-- Nothing raises an exception. -/
def stepped (mouse : NetcastMouse) (event : NetcastMouseEvent) : Option NetcastMouse :=
  some (mouse.step toInt event)

/-! ## Distances -/

/-- The sum of the integers sent. -/
def sentDistance (mouse : NetcastMouse) (axis : Axis) : Rat :=
  (mouse.sent.map fun command => (command.distance axis : Rat)).sum

def requestedDistance (mouse : NetcastMouse) (axis : Axis) : Rat :=
  (mouse.requested.map fun distance => distance axis).sum

/-- What is lost when a distance is rounded. -/
def remainder (distance : CGVector) (axis : Axis) : Rat :=
  distance axis - rounded toInt distance axis

/-- What was lost since the mouse was connected. -/
def lostDistance (mouse : NetcastMouse) (axis : Axis) : Rat :=
  (mouse.coalesced.map fun distance => remainder toInt distance axis).sum

/-- At most one command has no answer, and in each axis what was sent and what is still to
be sent differ by less than one from what was asked for. -/
def Accurate (mouse : NetcastMouse) : Prop :=
  mouse.outstanding.length ≤ 1 ∧
    ∀ axis, |mouse.sentDistance axis + mouse.mouseDistance axis -
      mouse.requestedDistance axis| < 1

/-- The distance that an event makes the service send. -/
def sends (mouse : NetcastMouse) : NetcastMouseEvent → Option CGVector
  | .connectMouse => none
  | .move distance =>
      if mouse.mouseIsMoving then none else some (mouse.mouseDistance + distance)
  | .answered index succeeds =>
      if index < mouse.outstanding.length && (succeeds && mouse.isPending) then
        some mouse.mouseDistance
      else none

/-- The commands that are then still without an answer. -/
def unanswered (mouse : NetcastMouse) : NetcastMouseEvent → List HandleTouchMove
  | .answered index _ => mouse.outstanding.eraseIdx index
  | _ => mouse.outstanding

/-- A distance is sent only when every command has been answered, and if the remainders,
with its own, do not add up to one. -/
def SendsAccurately (mouse : NetcastMouse) (event : NetcastMouseEvent) : Prop :=
  ∀ distance, mouse.sends event = some distance → mouse.unanswered event = [] ∧
    ∀ axis, |mouse.lostDistance toInt axis + remainder toInt distance axis| < 1

/-- What was asked for has been sent, is still to be sent or was lost. -/
def Conserves (mouse : NetcastMouse) : Prop :=
  ∀ axis, mouse.requestedDistance axis =
    mouse.sentDistance axis + mouse.mouseDistance axis + mouse.lostDistance toInt axis

variable {toInt}

theorem Conserves.accurate_iff {mouse : NetcastMouse} (conserves : mouse.Conserves toInt) :
    mouse.Accurate ↔
      mouse.outstanding.length ≤ 1 ∧ ∀ axis, |mouse.lostDistance toInt axis| < 1 := by
  have difference : ∀ axis, mouse.sentDistance axis + mouse.mouseDistance axis -
      mouse.requestedDistance axis = -mouse.lostDistance toInt axis := by
    intro axis
    rw [conserves axis]
    ring
  simp only [Accurate, difference, abs_neg]

/-! ## Steps -/

/-- What an event that sends a distance does. -/
structure SendsStep (toInt : Int → Int) (mouse next : NetcastMouse)
    (event : NetcastMouseEvent) (distance : CGVector) : Prop where
  outstanding : next.outstanding =
    mouse.unanswered event ++ [{ distance := rounded toInt distance }]
  mouseDistance : next.mouseDistance = 0
  coalesced : next.coalesced = mouse.coalesced ++ [distance]
  sent : next.sent = mouse.sent ++ [{ distance := rounded toInt distance }]
  requested : ∀ axis, next.requestedDistance axis =
    mouse.requestedDistance axis - mouse.mouseDistance axis + distance axis

/-- What an event that sends nothing does, apart from connecting the mouse. -/
structure WaitsStep (mouse next : NetcastMouse) : Prop where
  outstanding : next.outstanding.length ≤ mouse.outstanding.length
  coalesced : next.coalesced = mouse.coalesced
  sent : next.sent = mouse.sent
  requested : ∀ axis, next.requestedDistance axis - next.mouseDistance axis =
    mouse.requestedDistance axis - mouse.mouseDistance axis

theorem requestedDistance_append (mouse : NetcastMouse) {next : NetcastMouse}
    (distance : CGVector) (requested : next.requested = mouse.requested ++ [distance]) (axis : Axis) :
    next.requestedDistance axis = mouse.requestedDistance axis + distance axis := by
  rw [requestedDistance, requested, List.map_append, List.sum_append, requestedDistance]
  simp

theorem sendsStep {mouse : NetcastMouse} {event : NetcastMouseEvent} {distance : CGVector}
    (sends : mouse.sends event = some distance) :
    SendsStep toInt mouse (mouse.step toInt event) event distance := by
  cases event with
  | connectMouse => cases sends
  | move added =>
      rw [NetcastMouse.sends] at sends
      cases moving : mouse.mouseIsMoving with
      | true =>
          rw [moving] at sends
          cases sends
      | false =>
          rw [moving] at sends
          cases sends
          have moved : mouse.step toInt (.move added) = moveMouse toInt
              { mouse with
                mouseDistance := mouse.mouseDistance + added
                requested := mouse.requested ++ [added]
                mouseIsMoving := true } := by
            simp only [step, move, moving, Bool.false_eq_true, if_false]
          rw [moved]
          refine ⟨rfl, rfl, rfl, rfl, ?_⟩
          intro axis
          rw [requestedDistance_append mouse added rfl axis, Pi.add_apply]
          ring
  | answered index succeeds =>
      rw [NetcastMouse.sends] at sends
      split at sends
      next sending =>
        cases sends
        rw [Bool.and_eq_true, decide_eq_true_iff] at sending
        have answered : mouse.step toInt (.answered index succeeds) = moveMouse toInt
            { mouse with outstanding := mouse.outstanding.eraseIdx index } := by
          have pending : (succeeds && isPending
              { mouse with outstanding := mouse.outstanding.eraseIdx index }) = true :=
            sending.2
          simp only [step, NetcastMouse.answered, sending.1, if_true, pending]
        rw [answered]
        refine ⟨rfl, rfl, rfl, rfl, ?_⟩
        intro axis
        exact (sub_add_cancel _ _).symm
      next => cases sends

theorem waitsStep {mouse : NetcastMouse} {event : NetcastMouseEvent}
    (connected : event ≠ .connectMouse) (waits : mouse.sends event = none) :
    WaitsStep mouse (mouse.step toInt event) := by
  cases event with
  | connectMouse => exact absurd rfl connected
  | move added =>
      rw [NetcastMouse.sends] at waits
      cases moving : mouse.mouseIsMoving with
      | false =>
          rw [moving] at waits
          cases waits
      | true =>
          have moved : mouse.step toInt (.move added) =
              { mouse with
                mouseDistance := mouse.mouseDistance + added
                requested := mouse.requested ++ [added] } := by
            simp only [step, move, moving, if_true]
          rw [moved]
          refine ⟨Nat.le_refl _, rfl, rfl, ?_⟩
          intro axis
          rw [requestedDistance_append mouse added rfl axis]
          dsimp only
          rw [Pi.add_apply]
          ring
  | answered index succeeds =>
      rw [NetcastMouse.sends] at waits
      split at waits
      next => cases waits
      next idle =>
        by_cases inside : index < mouse.outstanding.length
        · have nothing : (succeeds && isPending
              { mouse with outstanding := mouse.outstanding.eraseIdx index }) = false := by
            rw [Bool.and_eq_true, decide_eq_true_iff, not_and, Bool.not_eq_true] at idle
            exact idle inside
          have answered : mouse.step toInt (.answered index succeeds) =
              { mouse with
                outstanding := mouse.outstanding.eraseIdx index
                mouseIsMoving := false } := by
            simp only [step, NetcastMouse.answered, inside, if_true, nothing,
              Bool.false_eq_true, if_false]
          rw [answered]
          exact ⟨List.length_eraseIdx_le _ _, rfl, rfl, fun _ => rfl⟩
        · have answered : mouse.step toInt (.answered index succeeds) = mouse := by
            simp only [step, NetcastMouse.answered, inside, if_false]
          rw [answered]
          exact ⟨Nat.le_refl _, rfl, rfl, fun _ => rfl⟩

/-! ## Conservation -/

theorem sentDistance_append (mouse : NetcastMouse) {next : NetcastMouse}
    (command : HandleTouchMove) (sent : next.sent = mouse.sent ++ [command]) (axis : Axis) :
    next.sentDistance axis = mouse.sentDistance axis + command.distance axis := by
  rw [sentDistance, sent, List.map_append, List.sum_append, sentDistance]
  simp

theorem lostDistance_append (mouse : NetcastMouse) {next : NetcastMouse}
    (distance : CGVector) (coalesced : next.coalesced = mouse.coalesced ++ [distance])
    (axis : Axis) :
    next.lostDistance toInt axis =
      mouse.lostDistance toInt axis + remainder toInt distance axis := by
  rw [lostDistance, coalesced, List.map_append, List.sum_append, lostDistance]
  simp

theorem conserves_connectMouse (mouse : NetcastMouse) :
    mouse.connectMouse.Conserves toInt := fun _ => by
  simp [connectMouse, requestedDistance, sentDistance, lostDistance]

theorem Conserves.step {mouse : NetcastMouse} (conserves : mouse.Conserves toInt)
    (event : NetcastMouseEvent) : (mouse.step toInt event).Conserves toInt := by
  by_cases connects : event = .connectMouse
  · rw [connects]
    exact conserves_connectMouse mouse
  · intro axis
    have before := conserves axis
    cases sends : mouse.sends event with
    | none =>
        have waits : WaitsStep mouse (mouse.step toInt event) := waitsStep connects sends
        have asked := waits.requested axis
        rw [sentDistance, waits.sent, lostDistance, waits.coalesced, ← sentDistance,
          ← lostDistance]
        linarith
    | some distance =>
        have taken : SendsStep toInt mouse (mouse.step toInt event) event distance :=
          sendsStep sends
        rw [taken.requested axis, sentDistance_append mouse _ taken.sent axis,
          lostDistance_append mouse distance taken.coalesced axis, taken.mouseDistance,
          Pi.zero_apply, before, remainder]
        ring

/-- From an accurate state a step leads to one exactly if it sends accurately. -/
theorem Conserves.sendsAccurately_iff {mouse : NetcastMouse}
    (conserves : mouse.Conserves toInt) (accurate : mouse.Accurate)
    (event : NetcastMouseEvent) :
    mouse.SendsAccurately toInt event ↔ (mouse.step toInt event).Accurate := by
  rw [conserves.accurate_iff] at accurate
  rw [(conserves.step event).accurate_iff]
  cases sends : mouse.sends event with
  | none =>
      apply iff_of_true
      · intro distance sent
        cases sends.symm.trans sent
      · by_cases connects : event = .connectMouse
        · rw [connects]
          refine ⟨accurate.1, ?_⟩
          intro axis
          simp [NetcastMouse.step, connectMouse, lostDistance]
        · have waits : WaitsStep mouse (mouse.step toInt event) := waitsStep connects sends
          refine ⟨Nat.le_trans waits.outstanding accurate.1, ?_⟩
          intro axis
          rw [lostDistance, waits.coalesced]
          exact accurate.2 axis
  | some distance =>
      have taken : SendsStep toInt mouse (mouse.step toInt event) event distance :=
        sendsStep sends
      have lost : ∀ axis, lostDistance toInt (mouse.step toInt event) axis =
          mouse.lostDistance toInt axis + remainder toInt distance axis :=
        lostDistance_append mouse distance taken.coalesced
      have alone : (mouse.step toInt event).outstanding.length ≤ 1 ↔
          mouse.unanswered event = [] := by
        rw [taken.outstanding, List.length_append, List.length_singleton,
          ← List.length_eq_zero_iff]
        omega
      simp only [SendsAccurately, sends, Option.some.injEq, forall_eq', lost, alone]

/-- In every run, at most one command is unanswered and what was asked for has been sent or
is still to be sent, up to less than one in each axis, exactly as long as distances are
sent accurately. -/
theorem run_distances_iff (toInt : Int → Int) (events : List NetcastMouseEvent) :
    EveryStep (stepped toInt) (SendsAccurately toInt) {} events ↔
      Throughout (stepped toInt) Accurate {} events := by
  have conserved : ∀ mouse event next, Conserves toInt mouse →
      stepped toInt mouse event = some next → next.Conserves toInt := by
    intro mouse event next conserves taken
    cases taken
    exact conserves.step event
  have agree : ∀ mouse event next, Conserves toInt mouse → mouse.Accurate →
      stepped toInt mouse event = some next →
        (mouse.SendsAccurately toInt event ↔ next.Accurate) := by
    intro mouse event next conserves accurate taken
    cases taken
    exact conserves.sendsAccurately_iff accurate event
  rcases exists_runFrom (step toInt) {} events with ⟨final, reached⟩
  have initially : Conserves toInt {} := conserves_connectMouse {}
  refine everyStep_iff_throughout conserved agree initially ?_ reached
  rw [initially.accurate_iff]
  exact ⟨Nat.zero_le _, fun _ => by simp [lostDistance]⟩

/-- Three distances of less than a half are each rounded to zero. -/
theorem small_moves_lost :
    ¬ Throughout (stepped id) Accurate {}
      [.connectMouse, .move fun _ => 2 / 5, .answered 0 true, .move fun _ => 2 / 5,
        .answered 0 true, .move fun _ => 2 / 5] := by
  intro throughout
  rcases throughout with ⟨_, _, _, _, _, _, accurate⟩
  have close := accurate.2 .dx
  revert close
  decide +kernel

/-! ## One command at a time -/

/-- A command is unanswered exactly while the mouse is moving. -/
def Alone (mouse : NetcastMouse) : Prop :=
  mouse.outstanding.length = if mouse.mouseIsMoving then 1 else 0

/-- The mouse is connected when every command has been answered. -/
def ConnectsIdle (mouse : NetcastMouse) (event : NetcastMouseEvent) : Prop :=
  event = .connectMouse → mouse.outstanding = []

theorem Alone.step {mouse : NetcastMouse} (alone : mouse.Alone) {event : NetcastMouseEvent}
    (idle : mouse.ConnectsIdle event) : (mouse.step toInt event).Alone := by
  cases event with
  | connectMouse =>
      rw [Alone, NetcastMouse.step, connectMouse, idle rfl]
      rfl
  | move distance =>
      rw [Alone] at alone
      cases moving : mouse.mouseIsMoving with
      | true =>
          rw [moving] at alone
          simp only [NetcastMouse.step, move, moving, if_true, Alone]
          exact alone
      | false =>
          rw [moving] at alone
          simp only [NetcastMouse.step, move, moving, Bool.false_eq_true, if_false, Alone,
            moveMouse, List.length_append, alone, List.length_singleton, if_true]
  | answered index succeeds =>
      rw [Alone] at alone
      simp only [NetcastMouse.step, NetcastMouse.answered]
      split
      next inside =>
        have moving : mouse.mouseIsMoving = true := by
          by_contra still
          rw [if_neg still] at alone
          omega
        rw [moving, if_pos rfl] at alone
        have erased : (mouse.outstanding.eraseIdx index).length = 0 := by
          rw [List.length_eraseIdx_of_lt inside, alone]
        split
        · simp only [Alone, moveMouse, List.length_append, erased, List.length_singleton,
            moving, if_true, Nat.zero_add]
        · simp only [Alone, erased, Bool.false_eq_true, if_false]
      next => exact alone

/-- If the mouse is connected only when every command has been answered, never more than
one command is unanswered. -/
theorem run_single {events : List NetcastMouseEvent}
    (idle : EveryStep (stepped toInt) ConnectsIdle {} events) :
    Throughout (stepped toInt) (fun mouse => mouse.outstanding.length ≤ 1) {} events := by
  have preserved : ∀ mouse event next, Alone mouse → mouse.ConnectsIdle event →
      stepped toInt mouse event = some next → next.Alone := by
    intro mouse event next alone idle taken
    cases taken
    exact alone.step idle
  have single : ∀ mouse, Alone mouse → mouse.outstanding.length ≤ 1 := by
    intro mouse alone
    rw [Alone] at alone
    rw [alone]
    split <;> omega
  exact EveryStep.throughout preserved single rfl idle

end NetcastMouse

end ConnectSDK
