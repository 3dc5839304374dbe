import Mathlib.Data.Finset.SDiff

/-! # Changes of a finite set

What to remove from a set and then to add to it. A change that is computed between two
sets leads from the one to the other; a change that is reported by somebody else may not.
-/

namespace ConnectSDK

structure SetDelta (Item : Type u) where
  added : Finset Item
  removed : Finset Item

namespace SetDelta

variable [DecidableEq Item]

def apply (delta : SetDelta Item) (before : Finset Item) : Finset Item :=
  before \ delta.removed ∪ delta.added

def between (before after : Finset Item) : SetDelta Item where
  added := after \ before
  removed := before \ after

theorem mem_apply {delta : SetDelta Item} {before : Finset Item} {item : Item} :
    item ∈ delta.apply before ↔
      (item ∈ before ∧ item ∉ delta.removed) ∨ item ∈ delta.added := by
  rw [apply, Finset.mem_union, Finset.mem_sdiff]

/-- What a change computed between two sets does to a third. -/
theorem mem_apply_between {before after known : Finset Item} {item : Item} :
    item ∈ (between before after).apply known ↔
      (item ∈ known ∧ (item ∈ before → item ∈ after)) ∨ item ∈ after ∧ item ∉ before := by
  rw [mem_apply, between, Finset.mem_sdiff, Finset.mem_sdiff, not_and, not_not]

end SetDelta

end ConnectSDK
