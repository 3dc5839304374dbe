import Mathlib.Data.List.Forall2

/-! # Maps and folds that may fail

A map over a list fails if it fails at an item, and so does a fold whose steps fail by their
items alone.
-/

namespace ConnectSDK

variable {Item Read State : Type}

theorem forall₂_of_mapM_eq_some {reads : Item → Option Read} {items : List Item}
    {results : List Read} (read : items.mapM reads = some results) :
    List.Forall₂ (fun item result => reads item = some result) items results := by
  induction items generalizing results with
  | nil =>
      cases read
      exact .nil
  | cons item items induction =>
      rw [List.mapM_cons] at read
      rcases Option.bind_eq_some_iff.mp read with ⟨result, first, rest⟩
      rcases Option.bind_eq_some_iff.mp rest with ⟨others, others_read, same⟩
      cases same
      exact .cons first (induction others_read)

theorem isSome_mapM_iff {reads : Item → Option Read} {items : List Item} :
    (items.mapM reads).isSome = true ↔ ∀ item ∈ items, (reads item).isSome = true := by
  induction items with
  | nil => exact iff_of_true rfl fun item member => absurd member List.not_mem_nil
  | cons item items induction =>
      rw [List.mapM_cons, List.forall_mem_cons, ← induction]
      cases reads item <;> cases items.mapM reads <;> simp

theorem isSome_foldlM_iff {step : State → Item → Option State} {accepts : Item → Prop}
    (agree : ∀ state item, (step state item).isSome = true ↔ accepts item) {items : List Item}
    {state : State} :
    (items.foldlM step state).isSome = true ↔ ∀ item ∈ items, accepts item := by
  induction items generalizing state with
  | nil => exact iff_of_true rfl fun item member => absurd member List.not_mem_nil
  | cons item items induction =>
      have here := agree state item
      rw [List.foldlM_cons, List.forall_mem_cons, ← here]
      cases step state item with
      | none => exact iff_of_false Bool.false_ne_true fun all => Bool.false_ne_true all.1
      | some next => exact induction.trans (and_iff_right rfl).symm

end ConnectSDK
