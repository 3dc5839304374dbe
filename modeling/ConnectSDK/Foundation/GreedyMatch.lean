/-! # Greedy matches

The first match of a regular expression that is a fixed text, then as many characters as
possible that end no line, then another fixed text.
-/

namespace ConnectSDK

namespace GreedyMatch

variable {Character : Type} [DecidableEq Character]

/-- The length of the longest match of `.*` and a text that follows it. -/
def lengthToLast (endsLine : Character → Bool) (finish : List Character) :
    List Character → Option Nat
  | [] => none
  | character :: rest =>
      match if endsLine character then none else lengthToLast endsLine finish rest with
      | some length => some (length + 1)
      | none => if finish.isPrefixOf (character :: rest) then some finish.length else none

/-- The location and the length of the first match. -/
def firstMatch (endsLine : Character → Bool) (start finish : List Character) :
    List Character → Option (Nat × Nat)
  | [] => none
  | character :: rest =>
      match if start.isPrefixOf (character :: rest) then
          lengthToLast endsLine finish ((character :: rest).drop start.length)
        else none with
      | some length => some (0, start.length + length)
      | none => (firstMatch endsLine start finish rest).map fun found =>
          (found.1 + 1, found.2)

variable {endsLine : Character → Bool} {start finish : List Character}

/-! ## Bounds -/

theorem lengthToLast_bounds : ∀ {text : List Character} {length : Nat},
    lengthToLast endsLine finish text = some length →
      finish.length ≤ length ∧ length ≤ text.length
  | [], _, found => by cases found
  | character :: rest, length, found => by
      unfold lengthToLast at found
      split at found
      · rename_i shorter later
        cases found
        split at later
        · cases later
        · have bounds := lengthToLast_bounds later
          rw [List.length_cons]
          omega
      · split at found
        · rename_i here
          cases found
          exact ⟨Nat.le_refl _, (List.isPrefixOf_iff_prefix.mp here).length_le⟩
        · cases found

theorem firstMatch_bounds : ∀ {text : List Character} {location length : Nat},
    firstMatch endsLine start finish text = some (location, length) →
      start.length + finish.length ≤ length ∧ location + length ≤ text.length
  | [], _, _, found => by cases found
  | character :: rest, location, length, found => by
      unfold firstMatch at found
      split at found
      · rename_i afterStart here
        cases found
        split at here
        · rename_i starts
          have long := (List.isPrefixOf_iff_prefix.mp starts).length_le
          have bounds := lengthToLast_bounds here
          rw [List.length_drop] at bounds
          omega
        · cases here
      · rcases Option.map_eq_some_iff.mp found with ⟨⟨before, same⟩, later, equal⟩
        cases equal
        have bounds := firstMatch_bounds later
        rw [List.length_cons]
        omega

/-! ## Texts that match and texts that do not -/

theorem lengthToLast_eq_none : ∀ {text : List Character}, ¬finish <:+: text →
    lengthToLast endsLine finish text = none
  | [], _ => rfl
  | character :: rest, absent => by
      have later : (if endsLine character then none
          else lengthToLast endsLine finish rest) = none := by
        split
        · rfl
        · exact lengthToLast_eq_none fun inside =>
            absent (inside.trans (List.suffix_cons character rest).isInfix)
      unfold lengthToLast
      rw [later]
      exact if_neg fun here => absent (List.isPrefixOf_iff_prefix.mp here).isInfix

/-- The match goes on to the last occurrence of the text that ends it. -/
theorem lengthToLast_append (finish : List Character) {between after : List Character}
    (nonempty : finish ≠ []) (sameLine : ∀ character ∈ between, endsLine character = false)
    (last : ¬finish <:+: (finish ++ after).tail) :
    lengthToLast endsLine finish (between ++ (finish ++ after)) =
      some (between.length + finish.length) := by
  induction between with
  | nil =>
      cases finish with
      | nil => exact absurd rfl nonempty
      | cons first others =>
          have later : (if endsLine first then none else
              lengthToLast endsLine (first :: others) (others ++ after)) = none := by
            split
            · rfl
            · exact lengthToLast_eq_none last
          rw [List.nil_append, List.cons_append, lengthToLast, later]
          rw [List.length_nil, Nat.zero_add]
          exact if_pos (List.isPrefixOf_iff_prefix.mpr (List.prefix_append _ _))
  | cons character rest induction =>
      have goesOn := sameLine character List.mem_cons_self
      have later := induction fun other member =>
        sameLine other (List.mem_cons_of_mem character member)
      rw [List.cons_append, lengthToLast, goesOn]
      simp only [Bool.false_eq_true, if_false, later, List.length_cons]
      congr 1
      omega

theorem firstMatch_eq_none : ∀ {text : List Character}, ¬finish <:+: text.drop start.length →
    firstMatch endsLine start finish text = none
  | [], _ => rfl
  | character :: rest, absent => by
      have later : firstMatch endsLine start finish rest = none :=
        firstMatch_eq_none fun inside => absent (inside.trans
          (List.drop_suffix_drop_left (character :: rest) (Nat.le_succ start.length)).isInfix)
      unfold firstMatch
      rw [later, lengthToLast_eq_none absent, ite_self]
      rfl

/-- A text that begins with a match has its first match there. -/
theorem firstMatch_append (start : List Character) {rest : List Character} {length : Nat}
    (nonempty : start ≠ [])
    (matched : lengthToLast endsLine finish rest = some length) :
    firstMatch endsLine start finish (start ++ rest) = some (0, start.length + length) := by
  cases start with
  | nil => exact absurd rfl nonempty
  | cons first others =>
      have starts : (first :: others).isPrefixOf (first :: (others ++ rest)) = true :=
        List.isPrefixOf_iff_prefix.mpr (List.prefix_append (first :: others) rest)
      rw [List.cons_append, firstMatch, if_pos starts, ← List.cons_append, List.drop_left,
        matched]

/-! ## Texts of one line -/

/-- Without ends of lines a text has no match only if the text that ends one is absent. -/
theorem not_isInfix_of_lengthToLast (endsLine : Character → Bool) :
    ∀ {text : List Character}, finish ≠ [] →
    (∀ character ∈ text, endsLine character = false) →
    lengthToLast endsLine finish text = none → ¬finish <:+: text
  | [], nonempty, _, _, inside => nonempty (List.eq_nil_of_infix_nil inside)
  | character :: rest, nonempty, sameLine, absent, inside => by
      rw [lengthToLast, sameLine character List.mem_cons_self] at absent
      simp only [Bool.false_eq_true, if_false] at absent
      split at absent
      · cases absent
      · rename_i later
        rcases List.infix_cons_iff.mp inside with here | further
        · rw [if_pos (List.isPrefixOf_iff_prefix.mpr here)] at absent
          cases absent
        · exact not_isInfix_of_lengthToLast endsLine nonempty (fun other member =>
            sameLine other (List.mem_cons_of_mem character member)) later further

/-- Characters may be encoded, if those that are looked for stay apart from the others. -/
theorem isPrefixOf_map {Code : Type} [DecidableEq Code] {encode : Character → Code} :
    ∀ (searched text : List Character),
      (∀ wanted ∈ searched, ∀ found ∈ text, encode wanted = encode found → wanted = found) →
      (searched.map encode).isPrefixOf (text.map encode) = searched.isPrefixOf text
  | [], _, _ => rfl
  | _ :: _, [], _ => rfl
  | wanted :: searched, found :: text, apart => by
      have rest := isPrefixOf_map searched text
        fun one oneIn other otherIn => apart one (List.mem_cons_of_mem wanted oneIn) other
          (List.mem_cons_of_mem found otherIn)
      have same : (encode wanted == encode found) = (wanted == found) := by
        rw [Bool.eq_iff_iff, beq_iff_eq, beq_iff_eq]
        exact ⟨apart wanted List.mem_cons_self found List.mem_cons_self, congrArg encode⟩
      rw [List.map_cons, List.map_cons, List.isPrefixOf, List.isPrefixOf, same, rest]

end GreedyMatch

end ConnectSDK
