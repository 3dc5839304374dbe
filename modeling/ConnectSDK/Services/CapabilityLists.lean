import ConnectSDK.Services.DeviceService

/-! # Lists of capabilities

What `addCapabilities:` and `removeCapabilities:` make of the list of a service, one
capability at a time.
-/

namespace ConnectSDK

namespace DeviceService

/-- The capabilities that `addCapabilities:` passes over although they are not there: an
empty one, and an `.Any` that something there matches. -/
def refused (present : List String) : List String → List String
  | [] => []
  | capability :: rest =>
      if capability.isEmpty || hasCapability present capability then
        if capability ∈ present then refused present rest
        else capability :: refused present rest
      else refused (present ++ [capability]) rest

/-- A capability that `removeCapabilities:` finds where it is. -/
def removable (capability : String) : Bool :=
  !capability.isEmpty && !".Any".toList.isPrefixOf capability.toList

theorem rangeOfString_of_begins {searched text : List Char} (nonempty : searched ≠ [])
    (begins : searched.isPrefixOf text = true) : rangeOfString searched text = some 0 := by
  cases text with
  | nil =>
      cases searched with
      | nil => exact absurd rfl nonempty
      | cons _ _ => cases begins
  | cons head tail =>
      rw [rangeOfString, if_pos begins, if_neg]
      simpa using nonempty

theorem not_begins {searched text : List Char} (nonempty : searched ≠ [])
    (elsewhere : rangeOfString searched text ≠ some 0) :
    searched.isPrefixOf text = false := by
  cases begins : searched.isPrefixOf text with
  | false => rfl
  | true => exact absurd (rangeOfString_of_begins nonempty begins) elsewhere

theorem rangeOfString_eq_zero {searched text : List Char}
    (found : rangeOfString searched text = some 0) : searched.isPrefixOf text = true := by
  cases text with
  | nil => cases found
  | cons head tail =>
      rw [rangeOfString] at found
      split at found
      · assumption
      · cases rest : rangeOfString searched tail with
        | none => simp [rest] at found
        | some location => simp [rest] at found

theorem rangeOfString_nil (text : List Char) : rangeOfString [] text = none := by
  cases text <;> rfl

/-- Whether a list has one of its own capabilities depends on the capability alone. -/
theorem hasCapability_of_mem {present : List String} {capability : String}
    (member : capability ∈ present) :
    hasCapability present capability = !".Any".toList.isPrefixOf capability.toList := by
  unfold hasCapability
  cases found : rangeOfString ".Any".toList capability.toList with
  | none =>
      have absent : ".Any".toList.isPrefixOf capability.toList = false :=
        not_begins (by decide) (by rw [found]; simp)
      rw [absent]
      simpa using member
  | some location =>
      cases location with
      | zero =>
          rw [rangeOfString_eq_zero found]
          simp [rangeOfString_nil]
      | succ location =>
          have absent : ".Any".toList.isPrefixOf capability.toList = false :=
            not_begins (by decide) (by rw [found]; simp)
          rw [absent]
          refine List.any_eq_true.mpr ⟨capability, member, ?_⟩
          rw [rangeOfString_of_begins]
          · rfl
          · intro nothing
            rcases List.take_eq_nil_iff.mp nothing with impossible | empty
            · cases impossible
            · rw [empty] at found
              cases found
          · exact List.isPrefixOf_iff_prefix.mpr (List.take_prefix _ _)

theorem hasCapability_append {present : List String} {capability : String}
    (has : hasCapability present capability = true) (more : List String) :
    hasCapability (present ++ more) capability = true := by
  unfold hasCapability at has ⊢
  split at has
  · rw [List.any_append, has, Bool.true_or]
  · simp only [List.contains_iff_mem] at has ⊢
    exact List.mem_append_left more has

theorem mem_addCapabilities_of_mem {present added : List String} {capability : String}
    (member : capability ∈ present) : capability ∈ addCapabilities added present := by
  induction added generalizing present with
  | nil => exact member
  | cons head tail induction =>
      rw [addCapabilities, List.foldl_cons]
      split
      · exact induction member
      · exact induction (List.mem_append_left _ member)

theorem mem_or_mem_of_mem_addCapabilities {present added : List String}
    {capability : String} (member : capability ∈ addCapabilities added present) :
    capability ∈ present ∨ capability ∈ added := by
  induction added generalizing present with
  | nil => exact Or.inl member
  | cons head tail induction =>
      rw [addCapabilities, List.foldl_cons] at member
      split at member
      · rcases induction member with before | later
        · exact Or.inl before
        · exact Or.inr (List.mem_cons_of_mem head later)
      · rcases induction member with before | later
        · rcases List.mem_append.mp before with old | new
          · exact Or.inl old
          · rw [List.mem_singleton.mp new]
            exact Or.inr List.mem_cons_self
        · exact Or.inr (List.mem_cons_of_mem head later)

/-- What is passed over once is passed over again. -/
theorem not_mem_addCapabilities {present added : List String} {capability : String}
    (passed : (capability.isEmpty || hasCapability present capability) = true)
    (absent : capability ∉ present) : capability ∉ addCapabilities added present := by
  induction added generalizing present with
  | nil => exact absent
  | cons head tail induction =>
      rw [addCapabilities, List.foldl_cons]
      split
      · exact induction passed absent
      · rename_i taken
        apply induction
        · rcases Bool.or_eq_true_iff.mp passed with empty | has
          · rw [empty, Bool.true_or]
          · rw [hasCapability_append has, Bool.or_true]
        · intro member
          rcases List.mem_append.mp member with before | new
          · exact absent before
          · rw [List.mem_singleton.mp new] at passed
            exact taken passed

theorem not_mem_refused_of_mem {present added : List String} {capability : String}
    (member : capability ∈ present) : capability ∉ refused present added := by
  induction added generalizing present with
  | nil => exact List.not_mem_nil
  | cons head tail induction =>
      rw [refused]
      split
      · split
        · exact induction member
        · rename_i absent
          intro listed
          rcases List.mem_cons.mp listed with equal | later
          · rw [equal] at member
            exact absent member
          · exact induction member later
      · exact induction (List.mem_append_left _ member)

/-- A capability that is passed in is there in the end, or it is refused. -/
theorem mem_addCapabilities_iff {present added : List String} {capability : String}
    (passed : capability ∈ added) :
    capability ∈ addCapabilities added present ↔ capability ∉ refused present added := by
  induction added generalizing present with
  | nil => cases passed
  | cons head tail induction =>
      by_cases member : capability ∈ present
      · exact iff_of_true (mem_addCapabilities_of_mem member) (not_mem_refused_of_mem member)
      · rw [addCapabilities, List.foldl_cons, refused]
        split
        · rename_i skipped
          rcases List.mem_cons.mp passed with equal | later
          · rw [equal] at member ⊢
            rw [if_neg member]
            apply iff_of_false (not_mem_addCapabilities skipped member)
            exact not_not_intro List.mem_cons_self
          · by_cases same : capability = head
            · rw [same] at member ⊢
              rw [if_neg member]
              apply iff_of_false (not_mem_addCapabilities skipped member)
              exact not_not_intro List.mem_cons_self
            · have here : capability ∈ addCapabilities tail present ↔
                  capability ∉ refused present tail := induction later
              split
              · exact here
              · rw [List.mem_cons, or_iff_right same]
                exact here
        · rcases List.mem_cons.mp passed with equal | later
          · have here : capability ∈ present ++ [head] := by simp [equal]
            exact iff_of_true (mem_addCapabilities_of_mem here) (not_mem_refused_of_mem here)
          · exact induction later

theorem mem_removeCapabilities_iff {present removed : List String} {capability : String} :
    capability ∈ removeCapabilities removed present ↔
      capability ∈ present ∧ (capability ∈ removed → removable capability = false) := by
  induction removed generalizing present with
  | nil => simp [removeCapabilities]
  | cons head tail induction =>
      rw [removeCapabilities, List.foldl_cons]
      split
      · rename_i skipped
        refine induction.trans (and_congr_right fun member => ?_)
        constructor
        · intro kept listed
          rcases List.mem_cons.mp listed with equal | later
          · rw [← equal, hasCapability_of_mem member] at skipped
            rw [removable]
            revert skipped
            cases capability.isEmpty <;>
              cases ".Any".toList.isPrefixOf capability.toList <;> simp
          · exact kept later
        · exact fun kept later => kept (List.mem_cons_of_mem head later)
      · rename_i taken
        refine induction.trans ?_
        rw [List.mem_filter, and_assoc]
        refine and_congr_right fun member => ?_
        constructor
        · rintro ⟨different, kept⟩ listed
          rcases List.mem_cons.mp listed with equal | later
          · simp [equal] at different
          · exact kept later
        · intro kept
          refine ⟨?_, fun later => kept (List.mem_cons_of_mem head later)⟩
          rw [bne_iff_ne]
          intro equal
          have stays := kept (by simp [equal])
          rw [← equal, hasCapability_of_mem member] at taken
          rw [removable] at stays
          revert taken stays
          cases capability.isEmpty <;>
            cases ".Any".toList.isPrefixOf capability.toList <;> simp

end DeviceService

end ConnectSDK
