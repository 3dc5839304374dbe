import Mathlib.Data.List.Infix

/-! # First occurrences

Where a pattern first occurs in data, and how that reads when only a part of the data is there.
-/

namespace ConnectSDK

namespace FirstOccurrence

variable {α : Type u} [DecidableEq α]

/-- `[data rangeOfData:pattern options:0 range:…].location` of a pattern that is not empty. -/
def firstIndex? (pattern : List α) : List α → Option Nat
  | [] => none
  | first :: rest =>
      if pattern.isPrefixOf (first :: rest) then some 0
      else (firstIndex? pattern rest).map (· + 1)

/-- The data goes up to the end of the first occurrence of the pattern. -/
structure Ends (pattern data : List α) : Prop where
  occurs : pattern <:+ data
  first : ¬pattern <:+: data.dropLast

theorem firstIndex?_eq_none_iff {pattern : List α} (nonempty : pattern ≠ []) (data : List α) :
    firstIndex? pattern data = none ↔ ¬pattern <:+: data := by
  induction data with
  | nil =>
      have absent : ¬pattern <:+: [] := fun occurs => nonempty (List.infix_nil.mp occurs)
      simp [firstIndex?, absent]
  | cons first rest induction =>
      rw [firstIndex?, List.infix_cons_iff, not_or, ← induction]
      by_cases here : pattern.isPrefixOf (first :: rest) = true
      · simp [here, List.isPrefixOf_iff_prefix.mp here]
      · have absent : ¬pattern <+: first :: rest := fun starts =>
          here (List.isPrefixOf_iff_prefix.mpr starts)
        simp [here, absent]

/-- What is found in the data is found there whatever follows. -/
theorem Ends.firstIndex? {pattern data : List α} (nonempty : pattern ≠ [])
    (ends : Ends pattern data) (rest : List α) :
    firstIndex? pattern (data ++ rest) = some (data.length - pattern.length) := by
  induction data with
  | nil => exact absurd (List.suffix_nil.mp ends.occurs) nonempty
  | cons first data induction =>
      rcases List.suffix_cons_iff.mp ends.occurs with whole | later
      · have starts : pattern.isPrefixOf (first :: (data ++ rest)) = true := by
          rw [List.isPrefixOf_iff_prefix, whole]
          exact List.prefix_append (first :: data) rest
        rw [List.cons_append, FirstOccurrence.firstIndex?, if_pos starts, whole, Nat.sub_self]
      · have long : pattern.length ≤ data.length := later.length_le
        have dataNonempty : data ≠ [] := by
          rintro rfl
          exact nonempty (List.suffix_nil.mp later)
        have dropLast : (first :: data).dropLast = first :: data.dropLast :=
          List.dropLast_cons_of_ne_nil dataNonempty
        have notHere : ¬pattern.isPrefixOf (first :: (data ++ rest)) = true := by
          intro here
          have starts : pattern <+: first :: (data ++ rest) := List.isPrefixOf_iff_prefix.mp here
          have inside : pattern <+: first :: data.dropLast := by
            refine List.prefix_of_prefix_length_le starts ?_ ?_
            · exact (List.prefix_cons_inj first).mpr
                ((List.dropLast_prefix data).trans (List.prefix_append data rest))
            · simp
              have positive := List.length_pos_iff.mpr dataNonempty
              omega
          exact ends.first (dropLast ▸ inside.isInfix)
        have ends : Ends pattern data := by
          refine ⟨later, fun occurs => ends.first ?_⟩
          rw [dropLast]
          exact occurs.trans (List.infix_cons List.infix_rfl)
        rw [List.cons_append, FirstOccurrence.firstIndex?, if_neg notHere, induction ends]
        simp
        omega

omit [DecidableEq α] in
/-- A part of the data that ends before the pattern does shows nothing of it. -/
theorem Ends.not_infix {pattern data part rest more : List α} (ends : Ends pattern data)
    (split : part ++ more = data ++ rest) (short : part.length < data.length) :
    ¬pattern <:+: part := by
  intro occurs
  have inside : part <+: data.dropLast := by
    refine List.prefix_of_prefix_length_le (List.prefix_append part more) ?_ ?_
    · rw [split]
      exact (List.dropLast_prefix data).trans (List.prefix_append data rest)
    · simp
      omega
  exact ends.first (occurs.trans inside.isInfix)

omit [DecidableEq α] in
theorem ends_singleton {data : List α} {mark : α} (unmarked : mark ∉ data) :
    Ends [mark] (data ++ [mark]) where
  occurs := List.suffix_append data [mark]
  first := by
    rw [List.dropLast_concat]
    exact fun occurs => unmarked (occurs.subset List.mem_cons_self)

omit [DecidableEq α] in
/-- A part that is long enough shows the data and some of what follows. -/
theorem exists_of_split {data part rest more : List α} (split : part ++ more = data ++ rest)
    (long : data.length ≤ part.length) :
    ∃ shown, part = data ++ shown ∧ shown ++ more = rest := by
  have starts : data <+: part :=
    List.prefix_of_prefix_length_le ⟨rest, split.symm⟩ (List.prefix_append part more) long
  rcases starts with ⟨shown, rfl⟩
  rw [List.append_assoc] at split
  exact ⟨shown, rfl, List.append_cancel_left split⟩

end FirstOccurrence

end ConnectSDK
