import ConnectSDK.Foundation.Dictionary

/-! # Dictionaries of lists

Several values under one key. A key is kept only while it has values.
-/

namespace ConnectSDK

namespace Dictionary

variable [DecidableEq Key]

def addValue (dictionary : Dictionary Key (List Value)) (key : Key) (value : Value) :
    Dictionary Key (List Value) :=
  dictionary.insert key ((dictionary.lookup key).getD [] ++ [value])

/-- All occurrences of the value under the key are removed. -/
def removeValue [DecidableEq Value] (dictionary : Dictionary Key (List Value)) (key : Key)
    (value : Value) : Dictionary Key (List Value) :=
  match dictionary.lookup key with
  | none => dictionary
  | some values =>
      let rest := values.filter fun other => other != value
      if rest.isEmpty then dictionary.erase key else dictionary.insert key rest

def HasValue (dictionary : Dictionary Key (List Value)) (key : Key) (value : Value) : Prop :=
  ∃ values, dictionary.lookup key = some values ∧ value ∈ values

theorem not_hasValue_empty (key : Key) (value : Value) :
    ¬HasValue (∅ : Dictionary Key (List Value)) key value := by
  rintro ⟨values, found, _⟩
  rw [AList.lookup_empty] at found
  cases found

theorem hasValue_addValue_self (dictionary : Dictionary Key (List Value)) (key : Key)
    (value : Value) : HasValue (dictionary.addValue key value) key value := by
  refine ⟨(dictionary.lookup key).getD [] ++ [value], ?_, ?_⟩
  · exact AList.lookup_insert dictionary
  · exact List.mem_append_right _ List.mem_cons_self

theorem HasValue.addValue {dictionary : Dictionary Key (List Value)} {key : Key}
    {value : Value} (has : HasValue dictionary key value) (other : Key) (added : Value) :
    HasValue (dictionary.addValue other added) key value := by
  rcases has with ⟨values, found, member⟩
  by_cases same : key = other
  · subst same
    refine ⟨values ++ [added], ?_, List.mem_append_left _ member⟩
    rw [Dictionary.addValue, found]
    exact AList.lookup_insert dictionary
  · exact ⟨values, (AList.lookup_insert_ne same).trans found, member⟩

theorem HasValue.removeValue [DecidableEq Value] {dictionary : Dictionary Key (List Value)}
    {key : Key} {value : Value} (has : HasValue dictionary key value) (other : Key)
    {removed : Value} (kept : value ≠ removed) :
    HasValue (dictionary.removeValue other removed) key value := by
  rcases has with ⟨values, found, member⟩
  unfold Dictionary.removeValue
  cases held : dictionary.lookup other with
  | none => exact ⟨values, found, member⟩
  | some others =>
      dsimp only
      by_cases same : key = other
      · subst same
        rw [held] at found
        cases found
        have remains : value ∈ values.filter fun other => other != removed :=
          List.mem_filter.mpr ⟨member, bne_iff_ne.mpr kept⟩
        rw [if_neg fun empty => by
          rw [List.isEmpty_iff.mp empty] at remains
          cases remains]
        exact ⟨_, AList.lookup_insert dictionary, remains⟩
      · split
        · exact ⟨values, (AList.lookup_erase_ne same).trans found, member⟩
        · exact ⟨values, (AList.lookup_insert_ne same).trans found, member⟩

end Dictionary

end ConnectSDK
