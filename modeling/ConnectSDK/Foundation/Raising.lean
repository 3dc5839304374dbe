/-! # Steps that raise

A step that raises an exception gives no state. What is proved of the steps of a procedure
is put together by the rules below, which follow its text.
-/

namespace ConnectSDK

variable {State Item : Type}

/-- From a state of the first kind the step raises nothing and reaches the second. -/
def Completing (before : State → Prop) (step : State → Option State)
    (after : State → Prop) : Prop :=
  ∀ state, before state → ∃ next, step state = some next ∧ after next

/-- The step for a value, if there is one. -/
def whenSome (value : Option Item) (step : Item → State → Option State) (state : State) :
    Option State :=
  match value with
  | none => some state
  | some item => step item state

namespace Completing

variable {before between after : State → Prop}

theorem skip : Completing before some before :=
  fun state holds => ⟨state, rfl, holds⟩

theorem update {change : State → State} (keeps : ∀ state, before state → after (change state)) :
    Completing before (fun state => some (change state)) after :=
  fun state holds => ⟨change state, rfl, keeps state holds⟩

theorem bind {step rest : State → Option State} (first : Completing before step between)
    (second : Completing between rest after) :
    Completing before (fun state => step state >>= rest) after := by
  intro state holds
  rcases first state holds with ⟨next, taken, reached⟩
  rcases second next reached with ⟨last, finished, done⟩
  exact ⟨last, Option.bind_eq_some_iff.mpr ⟨next, taken, finished⟩, done⟩

theorem of_stronger {stronger : State → Prop} {step : State → Option State}
    (complete : Completing before step after)
    (enough : ∀ state, stronger state → before state) : Completing stronger step after :=
  fun state holds => complete state (enough state holds)

theorem to_weaker {weaker : State → Prop} {step : State → Option State}
    (complete : Completing before step after)
    (implied : ∀ state, after state → weaker state) : Completing before step weaker := by
  intro state holds
  rcases complete state holds with ⟨next, taken, reached⟩
  exact ⟨next, taken, implied next reached⟩

theorem whenSome {value : Option Item} {step : Item → State → Option State}
    (each : ∀ item, value = some item → Completing before (step item) before) :
    Completing before (whenSome value step) before := by
  cases value with
  | none => exact skip
  | some item => exact each item rfl

/-- A loop whose rounds keep an invariant. -/
theorem foldlM {step : State → Item → Option State} {items : List Item}
    (round : ∀ item ∈ items, Completing before (fun state => step state item) before) :
    Completing before (fun state => items.foldlM step state) before := by
  induction items with
  | nil => exact skip
  | cons item items induction =>
      simp only [List.foldlM_cons]
      exact bind (round item List.mem_cons_self)
        (induction fun other member => round other (List.mem_cons_of_mem item member))

end Completing

end ConnectSDK
