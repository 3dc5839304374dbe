import Mathlib.Data.List.Infix

/-! # Replacing text

Every occurrence of a text is replaced by another one. Occurrences are taken from the
left and do not overlap, and what replaces one is not searched again.
-/

namespace ConnectSDK

variable {Item : Type u} [DecidableEq Item]

/-- The next `skipped` items belong to an occurrence that was replaced. -/
def replaceFrom (target replacement : List Item) : Nat → List Item → List Item
  | _, [] => []
  | skipped + 1, _ :: rest => replaceFrom target replacement skipped rest
  | 0, item :: rest =>
      if target.isPrefixOf (item :: rest) then
        replacement ++ replaceFrom target replacement (target.length - 1) rest
      else
        item :: replaceFrom target replacement 0 rest

/-- `stringByReplacingOccurrencesOfString:withString:`. The empty text occurs nowhere. The search is
literal, item by item, as it is where nothing in the text combines with what precedes it. -/
def replacingOccurrences (target replacement text : List Item) : List Item :=
  if target.isEmpty then text else replaceFrom target replacement 0 text

section Occurrences

variable {target : List Item} (nonempty : target ≠ []) (replacement : List Item)

theorem replaceFrom_skipped (skipped rest : List Item) :
    replaceFrom target replacement skipped.length (skipped ++ rest) =
      replaceFrom target replacement 0 rest := by
  induction skipped with
  | nil => rfl
  | cons item skipped induction => exact induction

@[simp] theorem replacingOccurrences_nil : replacingOccurrences target replacement [] = [] := by
  rw [replacingOccurrences]
  split <;> rfl

include nonempty

theorem replacingOccurrences_eq (text : List Item) :
    replacingOccurrences target replacement text = replaceFrom target replacement 0 text := by
  rw [replacingOccurrences, if_neg (by simpa using nonempty)]

theorem replacingOccurrences_append (rest : List Item) :
    replacingOccurrences target replacement (target ++ rest) =
      replacement ++ replacingOccurrences target replacement rest := by
  rw [replacingOccurrences_eq nonempty, replacingOccurrences_eq nonempty]
  cases target with
  | nil => exact absurd rfl nonempty
  | cons first more =>
      have here : (first :: more).isPrefixOf (first :: (more ++ rest)) = true :=
        List.isPrefixOf_iff_prefix.mpr (List.prefix_append (first :: more) rest)
      rw [List.cons_append, replaceFrom, if_pos here]
      congr 1
      exact replaceFrom_skipped replacement more rest

theorem replacingOccurrences_cons {item : Item} {rest : List Item}
    (absent : ¬ target <+: item :: rest) :
    replacingOccurrences target replacement (item :: rest) =
      item :: replacingOccurrences target replacement rest := by
  rw [replacingOccurrences_eq nonempty, replacingOccurrences_eq nonempty, replaceFrom,
    if_neg fun here => absent (List.isPrefixOf_iff_prefix.mp here)]

/-- A text is empty, or begins with an occurrence, or with an item that begins none. -/
theorem occurrences_induction {motive : List Item → Prop} (nil : motive [])
    (occurs : ∀ rest, motive rest → motive (target ++ rest))
    (skips : ∀ item rest, ¬ target <+: item :: rest → motive rest → motive (item :: rest))
    (text : List Item) : motive text := by
  induction size : text.length using Nat.strong_induction_on generalizing text with
  | _ size induction =>
      subst size
      cases text with
      | nil => exact nil
      | cons item rest =>
          by_cases here : target <+: item :: rest
          · rcases here with ⟨after, same⟩
            rw [← same]
            apply occurs
            apply induction _ ?_ after rfl
            rw [← same, List.length_append]
            have positive := List.length_pos_of_ne_nil nonempty
            omega
          · exact skips item rest here (induction _ (Nat.lt_succ_self _) rest rfl)

theorem replacingOccurrences_of_not_infix {text : List Item} (absent : ¬ target <:+: text) :
    replacingOccurrences target replacement text = text := by
  induction text with
  | nil => exact replacingOccurrences_nil replacement
  | cons item rest induction =>
      rw [replacingOccurrences_cons nonempty replacement
          fun here => absent here.isInfix,
        induction fun inside => absent (inside.trans (List.suffix_cons item rest).isInfix)]

omit nonempty in
/-- Where occurrences are replaced by something shorter, the text gets no longer. -/
theorem length_replacingOccurrences_le {replacement : List Item}
    (shorter : replacement.length < target.length) (text : List Item) :
    (replacingOccurrences target replacement text).length ≤ text.length := by
  have nonempty := List.ne_nil_of_length_pos (Nat.zero_lt_of_lt shorter)
  induction text using occurrences_induction nonempty with
  | nil => simp
  | occurs rest induction =>
      rw [replacingOccurrences_append nonempty, List.length_append, List.length_append]
      omega
  | skips item rest absent induction =>
      rw [replacingOccurrences_cons nonempty replacement absent, List.length_cons,
        List.length_cons]
      omega

omit nonempty in
theorem length_replacingOccurrences_lt {replacement : List Item}
    (shorter : replacement.length < target.length) {text : List Item}
    (present : target <:+: text) :
    (replacingOccurrences target replacement text).length < text.length := by
  have nonempty := List.ne_nil_of_length_pos (Nat.zero_lt_of_lt shorter)
  induction text using occurrences_induction nonempty with
  | nil => exact absurd (List.infix_nil.mp present) nonempty
  | occurs rest _ =>
      have kept := length_replacingOccurrences_le shorter rest
      rw [replacingOccurrences_append nonempty, List.length_append, List.length_append]
      omega
  | skips item rest absent induction =>
      have later := (List.infix_cons_iff.mp present).resolve_left absent
      rw [replacingOccurrences_cons nonempty replacement absent, List.length_cons,
        List.length_cons]
      exact Nat.succ_lt_succ (induction later)

end Occurrences

/-- No occurrence begins in a part without its first item. -/
theorem replacingOccurrences_append_of_not_mem {first : Item} (more replacement : List Item)
    {part : List Item} (absent : first ∉ part) (rest : List Item) :
    replacingOccurrences (first :: more) replacement (part ++ rest) =
      part ++ replacingOccurrences (first :: more) replacement rest := by
  induction part with
  | nil => rfl
  | cons item part induction =>
      have here : ¬ first :: more <+: item :: (part ++ rest) := by
        rintro ⟨after, equal⟩
        exact List.ne_of_not_mem_cons absent (List.cons.inj equal).1
      rw [List.cons_append, replacingOccurrences_cons (List.cons_ne_nil first more) _ here,
        induction (List.not_mem_of_not_mem_cons absent), List.cons_append]

/-- A single item that is replaced stands by itself. -/
theorem replacingOccurrences_singleton (item : Item) (replacement text : List Item) :
    replacingOccurrences [item] replacement text =
      text.flatMap fun other => if other = item then replacement else [other] := by
  induction text with
  | nil => simp
  | cons other rest induction =>
      rw [List.flatMap_cons, ← induction]
      by_cases same : other = item
      · subst same
        rw [if_pos rfl]
        exact replacingOccurrences_append (List.cons_ne_nil other []) replacement rest
      · rw [if_neg same]
        apply replacingOccurrences_cons (List.cons_ne_nil item [])
        rintro ⟨after, equal⟩
        exact same (List.cons.inj equal).1.symm

end ConnectSDK
