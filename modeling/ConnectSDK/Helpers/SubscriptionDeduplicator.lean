import Mathlib.Data.List.Basic

/-! # Subscription deduplicator

States are equal when `isEqual:` says so, which is an equivalence. All that a
block can change is the world it runs in.
-/

namespace ConnectSDK

/-- `savedState` is nil until a state has been seen. -/
structure SubscriptionDeduplicator (State : Type u) where
  savedState : Option State := none

/-- What one call of `runBlock:ifStateDidChangeTo:` is given. -/
structure StateCall (World : Type u) (State : Type v) where
  block : World → World
  state : State

namespace SubscriptionDeduplicator

variable {World : Type u} {State : Type v}

def initWithState (state : State) : SubscriptionDeduplicator State where
  savedState := some state

variable [Setoid State] [∀ left right : State, Decidable (left ≈ right)]

def stateDidChange (deduplicator : SubscriptionDeduplicator State) (state : State) : Bool :=
  match deduplicator.savedState with
  | some savedState => !decide (state ≈ savedState)
  | none => true

/-- `runBlock:ifStateDidChangeTo:`. -/
def runBlock (deduplicator : SubscriptionDeduplicator State) (call : StateCall World State)
    (world : World) : SubscriptionDeduplicator State × World :=
  if deduplicator.stateDidChange call.state then
    (initWithState call.state, call.block world)
  else (deduplicator, world)

/-- Each call is made on the instance returned by the one before. -/
def runBlocks (calls : List (StateCall World State))
    (deduplicator : SubscriptionDeduplicator State) (world : World) :
    SubscriptionDeduplicator State × World :=
  calls.foldl (fun reached call => reached.1.runBlock call reached.2) (deduplicator, world)

/-! ## Where a chain of calls runs its blocks -/

theorem runBlock_fresh (call : StateCall World State) (world : World) :
    runBlock {} call world = (initWithState call.state, call.block world) := rfl

theorem stateDidChange_initWithState (savedState state : State) :
    (initWithState savedState).stateDidChange state = !decide (state ≈ savedState) := rfl

theorem runBlock_of_equiv {savedState : State} {call : StateCall World State}
    (same : call.state ≈ savedState) (world : World) :
    (initWithState savedState).runBlock call world = (initWithState savedState, world) := by
  rw [runBlock, stateDidChange_initWithState, decide_eq_true same]
  rfl

theorem runBlock_of_not_equiv {savedState : State} {call : StateCall World State}
    (different : ¬ call.state ≈ savedState) (world : World) :
    (initWithState savedState).runBlock call world =
      (initWithState call.state, call.block world) := by
  rw [runBlock, stateDidChange_initWithState, decide_eq_false different]
  rfl

/-- The state at this position differs from the one before, which is that of `previous` at
the first position. -/
def DiffersAt (previous : StateCall World State) (calls : List (StateCall World State))
    (index : Fin calls.length) : Prop :=
  ¬ (calls.get index).state ≈ ((previous :: calls).get index.castSucc).state

/-- The position is the first one, or its state differs from the one before. -/
def ChangesAt (calls : List (StateCall World State)) (index : Fin calls.length) : Prop :=
  index.val = 0 ∨
    ¬ (calls.get index).state ≈
      (calls.get ⟨index.val - 1, Nat.lt_of_le_of_lt (Nat.sub_le _ _) index.isLt⟩).state

instance (previous : StateCall World State) (calls : List (StateCall World State)) :
    DecidablePred (DiffersAt previous calls) :=
  fun _ => inferInstanceAs (Decidable (¬ _))

instance (calls : List (StateCall World State)) : DecidablePred (ChangesAt calls) :=
  fun _ => inferInstanceAs (Decidable (_ ∨ _))

/-- Run the blocks at some positions. -/
def runAt (calls : List (StateCall World State)) (positions : List (Fin calls.length))
    (world : World) : World :=
  positions.foldl (fun reached index => (calls.get index).block reached) world

omit [Setoid State] [∀ left right : State, Decidable (left ≈ right)] in
theorem runAt_filter_cons (call : StateCall World State) (calls : List (StateCall World State))
    (wanted : Fin (calls.length + 1) → Bool) (world : World) :
    runAt (call :: calls) ((List.finRange (calls.length + 1)).filter wanted) world =
      runAt calls ((List.finRange calls.length).filter (wanted ∘ Fin.succ))
        (if wanted 0 then call.block world else world) := by
  rw [List.finRange_succ, List.filter_cons, List.filter_map]
  split <;> exact List.foldl_map ..

/-- The saved state may be older than the previous one, but it is equal to it. -/
theorem runBlocks_initWithState (calls : List (StateCall World State))
    (previous : StateCall World State) {savedState : State}
    (saved : previous.state ≈ savedState) (world : World) :
    (runBlocks calls (initWithState savedState) world).2 =
      runAt calls ((List.finRange calls.length).filter (DiffersAt previous calls)) world := by
  induction calls generalizing previous savedState world with
  | nil => rfl
  | cons call calls induction =>
      refine Eq.trans ?_ (runAt_filter_cons call calls _ world).symm
      rw [runBlocks, List.foldl_cons]
      by_cases differs : DiffersAt previous (call :: calls) 0
      · have unsaved : ¬ call.state ≈ savedState :=
          fun same => differs (Setoid.trans same (Setoid.symm saved))
        rw [runBlock_of_not_equiv unsaved, if_pos (decide_eq_true differs)]
        exact induction call (Setoid.refl _) (call.block world)
      · have equal : call.state ≈ previous.state := not_not.mp differs
        have latest := Setoid.trans equal saved
        rw [runBlock_of_equiv latest, if_neg (mt of_decide_eq_true differs)]
        exact induction call latest world

omit [∀ left right : State, Decidable (left ≈ right)] in
theorem changesAt_succ (call : StateCall World State) (calls : List (StateCall World State))
    (index : Fin calls.length) :
    ChangesAt (call :: calls) index.succ ↔ DiffersAt call calls index :=
  or_iff_right (Nat.succ_ne_zero _)

/-- Chained from a fresh instance, the calls run their blocks, in order, at the first
position and wherever the state differs from the one before. -/
theorem runs_exactly_at_changes (calls : List (StateCall World State)) (world : World) :
    (runBlocks calls {} world).2 =
      runAt calls ((List.finRange calls.length).filter (ChangesAt calls)) world := by
  cases calls with
  | nil => rfl
  | cons call calls =>
      refine Eq.trans ?_ (runAt_filter_cons call calls _ world).symm
      rw [runBlocks, List.foldl_cons, runBlock_fresh, if_pos (decide_eq_true (.inl rfl))]
      refine (runBlocks_initWithState calls call (Setoid.refl _) (call.block world)).trans ?_
      congr 2
      funext index
      exact decide_eq_decide.mpr (changesAt_succ call calls index).symm

end SubscriptionDeduplicator

end ConnectSDK
