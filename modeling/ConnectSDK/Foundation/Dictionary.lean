import Mathlib.Data.List.AList
import Mathlib.Data.List.Find

/-! # Dictionaries

A mutable dictionary is a duplicate-free association list. The order of its
entries is the order in which it is enumerated; nothing but enumeration depends
on it.
-/

namespace ConnectSDK

abbrev Dictionary (Key : Type u) (Value : Type v) := AList fun _ : Key => Value

namespace Dictionary

def values (dictionary : Dictionary Key Value) : List Value :=
  dictionary.entries.map Sigma.snd

/-- The first entry, in enumeration order, that is accepted. -/
def firstWhere (accepts : Key → Value → Bool)
    (dictionary : Dictionary Key Value) : Option (Key × Value) :=
  (dictionary.entries.find? fun entry => accepts entry.1 entry.2).map
    fun entry => (entry.1, entry.2)

def keysWhere (accepts : Key → Value → Bool)
    (dictionary : Dictionary Key Value) : List Key :=
  (dictionary.entries.filter fun entry => accepts entry.1 entry.2).map Sigma.fst

variable [DecidableEq Key]

def eraseAll (keys : List Key) (dictionary : Dictionary Key Value) :
    Dictionary Key Value :=
  keys.foldl (fun remaining key => remaining.erase key) dictionary

def insertAll (entries : List (Key × Value)) (dictionary : Dictionary Key Value) :
    Dictionary Key Value :=
  entries.foldl (fun filled entry => filled.insert entry.1 entry.2) dictionary

/-- Two dictionaries that differ at most in the order of enumeration. -/
def SameEntries (left right : Dictionary Key Value) : Prop :=
  ∀ key, left.lookup key = right.lookup key

theorem lookup_eq_some_iff {dictionary : Dictionary Key Value} {key : Key}
    {value : Value} :
    dictionary.lookup key = some value ↔ ⟨key, value⟩ ∈ dictionary.entries :=
  AList.mem_lookup_iff

theorem mem_values_iff {dictionary : Dictionary Key Value} {value : Value} :
    value ∈ dictionary.values ↔ ∃ key, dictionary.lookup key = some value := by
  simp only [values, List.mem_map, lookup_eq_some_iff]
  constructor
  · rintro ⟨⟨key, _⟩, member, rfl⟩
    exact ⟨key, member⟩
  · rintro ⟨key, member⟩
    exact ⟨⟨key, value⟩, member, rfl⟩

theorem firstWhere_some {accepts : Key → Value → Bool}
    {dictionary : Dictionary Key Value} {key : Key} {value : Value}
    (found : dictionary.firstWhere accepts = some (key, value)) :
    dictionary.lookup key = some value ∧ accepts key value = true := by
  rcases Option.map_eq_some_iff.mp found with ⟨entry, first, equal⟩
  cases equal
  have accepted : accepts entry.1 entry.2 = true := by
    simpa using List.find?_some first
  exact ⟨lookup_eq_some_iff.mpr (List.mem_of_find?_eq_some first), accepted⟩

theorem firstWhere_eq_none_iff {accepts : Key → Value → Bool}
    {dictionary : Dictionary Key Value} :
    dictionary.firstWhere accepts = none ↔
      ∀ key value, dictionary.lookup key = some value →
        accepts key value = false := by
  simp only [firstWhere, Option.map_eq_none_iff, List.find?_eq_none,
    lookup_eq_some_iff, Bool.not_eq_true]
  exact ⟨fun none key value member => none ⟨key, value⟩ member,
    fun none entry member => none entry.1 entry.2 member⟩

theorem firstWhere_congr {accepts other : Key → Value → Bool}
    {dictionary : Dictionary Key Value}
    (same : ∀ key value, dictionary.lookup key = some value →
      accepts key value = other key value) :
    dictionary.firstWhere accepts = dictionary.firstWhere other := by
  rw [firstWhere, firstWhere]
  congr 1
  apply List.find?_congr
  intro entry member
  exact same entry.1 entry.2 (lookup_eq_some_iff.mpr member)

theorem mem_keysWhere_iff {accepts : Key → Value → Bool}
    {dictionary : Dictionary Key Value} {key : Key} :
    key ∈ dictionary.keysWhere accepts ↔
      ∃ value, dictionary.lookup key = some value ∧ accepts key value = true := by
  simp only [keysWhere, List.mem_map, List.mem_filter, lookup_eq_some_iff]
  constructor
  · rintro ⟨⟨_, value⟩, member, rfl⟩
    exact ⟨value, member⟩
  · rintro ⟨value, member⟩
    exact ⟨⟨key, value⟩, member, rfl⟩

theorem lookup_eraseAll (keys : List Key) (dictionary : Dictionary Key Value)
    (key : Key) :
    (dictionary.eraseAll keys).lookup key =
      if key ∈ keys then none else dictionary.lookup key := by
  induction keys generalizing dictionary with
  | nil => simp [eraseAll]
  | cons head tail induction =>
      change (eraseAll tail (dictionary.erase head)).lookup key = _
      rw [induction]
      by_cases equal : key = head
      · subst equal
        simp
      · simp [equal, AList.lookup_erase_ne equal]

theorem lookup_insert_eq (dictionary : Dictionary Key Value) (key other : Key)
    (value : Value) :
    (dictionary.insert key value).lookup other =
      if other = key then some value else dictionary.lookup other := by
  by_cases equal : other = key
  · subst equal
    simp
  · simp [equal, AList.lookup_insert_ne equal]

theorem lookup_erase_eq (dictionary : Dictionary Key Value) (key other : Key) :
    (dictionary.erase key).lookup other =
      if other = key then none else dictionary.lookup other := by
  by_cases equal : other = key
  · subst equal
    simp
  · simp [equal, AList.lookup_erase_ne equal]

/-- Under a key that was free, a value joins the others. -/
theorem mem_values_insert_of_free {dictionary : Dictionary Key Value} {key : Key}
    {value other : Value} (free : dictionary.lookup key = none) :
    other ∈ values (dictionary.insert key value) ↔
      other = value ∨ other ∈ dictionary.values := by
  rw [mem_values_iff, mem_values_iff]
  constructor
  · rintro ⟨place, held⟩
    rw [lookup_insert_eq] at held
    split_ifs at held
    · exact .inl (Option.some.inj held).symm
    · exact .inr ⟨place, held⟩
  · rintro (rfl | ⟨place, held⟩)
    · exact ⟨key, by rw [lookup_insert_eq, if_pos rfl]⟩
    · have apart : place ≠ key := by
        rintro rfl
        cases free.symm.trans held
      exact ⟨place, by rw [lookup_insert_eq, if_neg apart, held]⟩

/-- A value that has one key leaves with it. -/
theorem mem_values_erase_of_oneKey {dictionary : Dictionary Key Value} {key : Key}
    {value other : Value} (held : dictionary.lookup key = some value)
    (oneKey : ∀ place, dictionary.lookup place = some value → place = key) :
    other ∈ values (dictionary.erase key) ↔
      other ≠ value ∧ other ∈ dictionary.values := by
  rw [mem_values_iff, mem_values_iff]
  constructor
  · rintro ⟨place, kept⟩
    rw [lookup_erase_eq] at kept
    split_ifs at kept with here
    refine ⟨?_, place, kept⟩
    rintro rfl
    exact here (oneKey place kept)
  · rintro ⟨different, place, kept⟩
    have apart : place ≠ key := by
      rintro rfl
      exact different (Option.some.inj (kept.symm.trans held))
    exact ⟨place, by rw [lookup_erase_eq, if_neg apart, kept]⟩

/-- A value that tells its own key is the only one that tells it. -/
theorem filter_values_keyed {key : Value → Option Key} {dictionary : Dictionary Key Value}
    (keyed : ∀ name value, dictionary.lookup name = some value → key value = some name)
    (name : Key) :
    dictionary.values.filter (fun value => decide (key value = some name)) =
      (dictionary.lookup name).toList := by
  have listed : ∀ entry ∈ dictionary.entries, key entry.2 = some entry.1 :=
    fun entry member => keyed entry.1 entry.2 (lookup_eq_some_iff.mpr member)
  have all : ∀ entries : List (Sigma fun _ : Key => Value),
      (∀ entry ∈ entries, key entry.2 = some entry.1) →
      (entries.map Sigma.snd).filter (fun value => decide (key value = some name)) =
        List.lookupAll name entries := by
    intro entries
    induction entries with
    | nil => exact fun _ => rfl
    | cons entry rest induction =>
        rcases entry with ⟨head, value⟩
        intro told
        have own : key value = some head := told ⟨head, value⟩ List.mem_cons_self
        have others := induction fun other member =>
          told other (List.mem_cons_of_mem _ member)
        by_cases same : head = name
        · subst same
          rw [List.lookupAll_cons_eq, ← others]
          simp [own]
        · rw [List.lookupAll_cons_ne rest ⟨head, value⟩ (Ne.symm same), ← others]
          simp [own, same]
  rw [values, all _ listed]
  exact List.lookupAll_eq_dlookup name dictionary.nodupKeys

/-- Every value of the dictionary is good. -/
def AllValues (good : Value → Prop) (dictionary : Dictionary Key Value) : Prop :=
  ∀ key value, dictionary.lookup key = some value → good value

theorem allValues_empty (good : Value → Prop) :
    AllValues good (∅ : Dictionary Key Value) := by
  intro key value held
  cases held

theorem AllValues.insert {good : Value → Prop} {dictionary : Dictionary Key Value}
    (all : AllValues good dictionary) {key : Key} {value : Value} (fits : good value) :
    AllValues good (AList.insert key value dictionary) := by
  intro other held found
  rw [lookup_insert_eq] at found
  split at found
  · cases found
    exact fits
  · exact all other held found

theorem AllValues.erase {good : Value → Prop} {dictionary : Dictionary Key Value}
    (all : AllValues good dictionary) (key : Key) :
    AllValues good (AList.erase key dictionary) := by
  intro other held found
  rw [lookup_erase_eq] at found
  split at found
  · cases found
  · exact all other held found

theorem SameEntries.insert {left right : Dictionary Key Value}
    (same : SameEntries left right) (key : Key) (value : Value) :
    SameEntries (AList.insert key value left) (AList.insert key value right) := by
  intro other
  rw [lookup_insert_eq, lookup_insert_eq, same other]

theorem SameEntries.erase {left right : Dictionary Key Value}
    (same : SameEntries left right) (key : Key) :
    SameEntries (AList.erase key left) (AList.erase key right) := by
  intro other
  rw [lookup_erase_eq, lookup_erase_eq, same other]

theorem SameEntries.mem_values_iff {left right : Dictionary Key Value}
    (same : SameEntries left right) (value : Value) :
    value ∈ left.values ↔ value ∈ right.values := by
  rw [Dictionary.mem_values_iff, Dictionary.mem_values_iff]
  apply exists_congr
  intro key
  rw [same key]

/-- Nothing changes by inserting what is there, or erasing what is not. -/
theorem sameEntries_insert_of_held {dictionary : Dictionary Key Value} {key : Key}
    {value : Value} (held : dictionary.lookup key = some value) :
    SameEntries dictionary (dictionary.insert key value) := by
  intro other
  rw [lookup_insert_eq]
  by_cases equal : other = key
  · rw [if_pos equal, equal, held]
  · rw [if_neg equal]

theorem sameEntries_erase_of_absent {dictionary : Dictionary Key Value} {key : Key}
    (absent : dictionary.lookup key = none) :
    SameEntries dictionary (dictionary.erase key) := by
  intro other
  rw [lookup_erase_eq]
  by_cases equal : other = key
  · rw [if_pos equal, equal, absent]
  · rw [if_neg equal]

/-- Entries under keys of their own add their values. -/
theorem values_insertAll_perm :
    ∀ (entries : List (Key × Value)) (dictionary : Dictionary Key Value),
      (entries.map Prod.fst).Nodup → (∀ entry ∈ entries, entry.1 ∉ dictionary) →
        (dictionary.insertAll entries).values.Perm
          (entries.map Prod.snd ++ dictionary.values)
  | [], dictionary, _, _ => List.Perm.refl _
  | entry :: entries, dictionary, distinct, absent => by
      rw [List.map_cons, List.nodup_cons] at distinct
      have new : entry.1 ∉ dictionary := absent entry List.mem_cons_self
      have later : ∀ other ∈ entries, other.1 ∉ dictionary.insert entry.1 entry.2 := by
        intro other member held
        rcases (AList.mem_insert _).mp held with same | old
        · exact distinct.1 (same ▸ List.mem_map_of_mem member)
        · exact absent other (List.mem_cons_of_mem entry member) old
      have added : values (dictionary.insert entry.1 entry.2) =
          entry.2 :: dictionary.values := by
        rw [values, AList.entries_insert_of_notMem new]
        rfl
      have rest := values_insertAll_perm entries (dictionary.insert entry.1 entry.2)
        distinct.2 later
      rw [added] at rest
      exact rest.trans List.perm_middle

/-- So do items that tell keys of their own. -/
theorem values_insertAll_items_perm {Item : Type} (key : Item → Key) (value : Item → Value)
    {items : List Item} (distinct : (items.map key).Nodup) :
    (insertAll (items.map fun item => (key item, value item)) ∅).values.Perm
      (items.map value) := by
  have keys : ((items.map fun item => (key item, value item)).map Prod.fst).Nodup := by
    rw [List.map_map]
    exact distinct
  have filled := values_insertAll_perm _ ∅ keys fun _ _ => AList.notMem_empty _
  rw [List.map_map] at filled
  exact filled.trans (List.Perm.of_eq (List.append_nil _))

theorem lookup_insertAll {entries : List (Key × Value)}
    {dictionary : Dictionary Key Value} {key : Key} {value : Value}
    (held : (dictionary.insertAll entries).lookup key = some value) :
    (key, value) ∈ entries ∨ dictionary.lookup key = some value := by
  induction entries generalizing dictionary with
  | nil => exact .inr held
  | cons head tail induction =>
      rcases induction held with member | before
      · exact .inl (List.mem_cons_of_mem head member)
      · rw [lookup_insert_eq] at before
        by_cases same : key = head.1
        · rw [if_pos same, Option.some.injEq] at before
          rw [same, ← before]
          exact .inl (List.mem_cons_self ..)
        · rw [if_neg same] at before
          exact .inr before

theorem lookup_insertAll_of_absent {entries : List (Key × Value)}
    {dictionary : Dictionary Key Value} {key : Key}
    (absent : ∀ value, (key, value) ∉ entries) :
    (dictionary.insertAll entries).lookup key = dictionary.lookup key := by
  induction entries generalizing dictionary with
  | nil => rfl
  | cons head tail induction =>
      have different : key ≠ head.1 := by
        rintro rfl
        exact absent head.2 (List.mem_cons_self ..)
      change (insertAll tail (dictionary.insert head.1 head.2)).lookup key = _
      rw [induction fun value inTail =>
          absent value (List.mem_cons_of_mem head inTail),
        lookup_insert_eq, if_neg different]

/-- What was inserted under a key, if nothing else was. -/
theorem lookup_insertAll_of_mem {entries : List (Key × Value)}
    {dictionary : Dictionary Key Value} {key : Key} {value : Value}
    (member : (key, value) ∈ entries)
    (only : ∀ other, (key, other) ∈ entries → other = value) :
    (dictionary.insertAll entries).lookup key = some value := by
  induction entries generalizing dictionary with
  | nil => cases member
  | cons head tail induction =>
      by_cases later : (key, value) ∈ tail
      · exact induction later fun other inTail =>
          only other (List.mem_cons_of_mem head inTail)
      · have first : (key, value) = head :=
          (List.mem_cons.mp member).resolve_right later
        have absent : ∀ other, (key, other) ∉ tail := by
          intro other inTail
          cases only other (List.mem_cons_of_mem head inTail)
          exact later inTail
        subst first
        change (insertAll tail (dictionary.insert key value)).lookup key = _
        rw [lookup_insertAll_of_absent absent, lookup_insert_eq, if_pos rfl]

/-- The entries of a dictionary, inserted into an empty one. -/
theorem sameEntries_insertAll_entries (dictionary : Dictionary Key Value) :
    (insertAll (dictionary.entries.map fun entry => (entry.1, entry.2)) ∅).SameEntries
      dictionary := by
  intro key
  have held {key : Key} {value : Value}
      (member : (key, value) ∈ dictionary.entries.map fun entry => (entry.1, entry.2)) :
      dictionary.lookup key = some value := by
    rcases List.mem_map.mp member with ⟨entry, inside, same⟩
    cases same
    exact lookup_eq_some_iff.mpr inside
  cases found : dictionary.lookup key with
  | none =>
      apply lookup_insertAll_of_absent
      intro value member
      rw [held member] at found
      cases found
  | some value =>
      apply lookup_insertAll_of_mem
      · exact List.mem_map.mpr ⟨⟨key, value⟩, lookup_eq_some_iff.mp found, rfl⟩
      · intro other member
        exact Option.some.inj ((held member).symm.trans found)

/-- The last insertion under a key counts. -/
theorem lookup_insertAll_eq (entries : List (Key × Value))
    (dictionary : Dictionary Key Value) (key : Key) :
    (dictionary.insertAll entries).lookup key =
      ((entries.filter fun entry => decide (entry.1 = key)).getLast?.map Prod.snd).or
        (dictionary.lookup key) := by
  induction entries generalizing dictionary with
  | nil => rfl
  | cons head tail induction =>
      change (insertAll tail (dictionary.insert head.1 head.2)).lookup key = _
      rw [induction, lookup_insert_eq]
      by_cases same : head.1 = key
      · rw [if_pos same.symm, List.filter_cons_of_pos (by simp [same]), List.getLast?_cons]
        cases (tail.filter fun entry => decide (entry.1 = key)).getLast? <;> rfl
      · rw [if_neg (Ne.symm same), List.filter_cons_of_neg (by simp [same])]

/-! ## Counting values -/

theorem mem_entries_iff {dictionary : Dictionary Key Value}
    {entry : Sigma fun _ : Key => Value} :
    entry ∈ dictionary.entries ↔ dictionary.lookup entry.1 = some entry.2 :=
  lookup_eq_some_iff.symm

omit [DecidableEq Key] in
theorem entries_nodup (dictionary : Dictionary Key Value) : dictionary.entries.Nodup :=
  dictionary.nodupKeys.nodup

/-- An entry and the dictionary without it. -/
theorem entries_perm_erase {dictionary : Dictionary Key Value} {key : Key}
    {value : Value} (held : dictionary.lookup key = some value) :
    dictionary.entries.Perm (⟨key, value⟩ :: AList.entries (dictionary.erase key)) := by
  have fresh : (⟨key, value⟩ : Sigma fun _ : Key => Value) ∉
      AList.entries (dictionary.erase key) := by
    rw [mem_entries_iff, lookup_erase_eq, if_pos rfl]
    exact Option.some_ne_none value ∘ Eq.symm
  refine (List.perm_ext_iff_of_nodup dictionary.entries_nodup
    (List.nodup_cons.mpr ⟨fresh, entries_nodup _⟩)).mpr fun entry => ?_
  rw [List.mem_cons, mem_entries_iff, mem_entries_iff, lookup_erase_eq]
  by_cases same : entry.1 = key
  · rw [if_pos same, same, held]
    constructor
    · intro equal
      left
      rcases entry with ⟨_, _⟩
      cases same
      cases equal
      rfl
    · rintro (equal | absent)
      · rw [equal]
      · cases absent
  · rw [if_neg same]
    constructor
    · exact .inr
    · rintro (equal | kept)
      · exact absurd (congrArg Sigma.fst equal) same
      · exact kept

variable [DecidableEq Value]

omit [DecidableEq Key] in
theorem count_values_le {kept : List (Sigma fun _ : Key => Value)}
    {dictionary : Dictionary Key Value} (distinct : kept.Nodup)
    (subset : kept ⊆ dictionary.entries) (counted : Value) :
    (kept.map Sigma.snd).count counted ≤ dictionary.values.count counted := by
  rcases List.subperm_of_subset distinct subset with ⟨ordered, permuted, within⟩
  rw [← (permuted.map Sigma.snd).count_eq counted]
  exact (within.map Sigma.snd).count_le counted

theorem count_erase {dictionary : Dictionary Key Value} {key : Key} {value : Value}
    (held : dictionary.lookup key = some value) (counted : Value) :
    dictionary.values.count counted =
      (Dictionary.values (dictionary.erase key)).count counted +
        if value = counted then 1 else 0 := by
  have permuted := ((entries_perm_erase held).map Sigma.snd).count_eq counted
  rw [List.map_cons, List.count_cons] at permuted
  simpa [values] using permuted

theorem count_erase_le (dictionary : Dictionary Key Value) (key : Key)
    (counted : Value) :
    (Dictionary.values (dictionary.erase key)).count counted ≤
      dictionary.values.count counted := by
  cases held : dictionary.lookup key with
  | some value =>
      rw [count_erase held counted]
      exact Nat.le_add_right _ _
  | none =>
      have subset : (AList.entries (dictionary.erase key)) ⊆ dictionary.entries := by
        intro entry member
        rw [mem_entries_iff, lookup_erase_eq] at member
        split_ifs at member
        exact mem_entries_iff.mpr member
      exact count_values_le (entries_nodup _) subset counted

/-- The entries of a dictionary that another one does not have. -/
def newEntries (before after : Dictionary Key Value) : List (Key × Value) :=
  (after.entries.filter fun entry => decide (before.lookup entry.1 ≠ some entry.2)).map
    fun entry => (entry.1, entry.2)

theorem mem_newEntries {before after : Dictionary Key Value} {key : Key}
    {value : Value} :
    (key, value) ∈ newEntries before after ↔
      after.lookup key = some value ∧ before.lookup key ≠ some value := by
  simp only [newEntries, List.mem_map, List.mem_filter, decide_eq_true_eq,
    lookup_eq_some_iff]
  constructor
  · rintro ⟨⟨_, _⟩, ⟨member, absent⟩, equal⟩
    cases equal
    exact ⟨member, absent⟩
  · rintro ⟨member, absent⟩
    exact ⟨⟨key, value⟩, ⟨member, absent⟩, rfl⟩

theorem count_le_newEntries (before after : Dictionary Key Value) (counted : Value) :
    after.values.count counted ≤
      before.values.count counted +
        ((newEntries before after).map Prod.snd).count counted := by
  let isNew := fun entry : Sigma fun _ : Key => Value =>
    decide (before.lookup entry.1 ≠ some entry.2)
  have split : after.entries.Perm
      (after.entries.filter isNew ++ after.entries.filter fun entry => !isNew entry) :=
    (List.filter_append_perm isNew after.entries).symm
  have old : (after.entries.filter fun entry => !isNew entry) ⊆ before.entries := by
    intro entry member
    have kept := (List.mem_filter.mp member).2
    exact mem_entries_iff.mpr (by simpa [isNew] using kept)
  have counts := (split.map Sigma.snd).count_eq counted
  have bounded := count_values_le (after.entries_nodup.filter _) old counted
  rw [List.map_append, List.count_append] at counts
  have same : (newEntries before after).map Prod.snd =
      (after.entries.filter isNew).map Sigma.snd := by
    simp [newEntries, isNew, Function.comp_def]
  have total : after.values.count counted = _ := counts
  rw [same, total]
  omega

end Dictionary

end ConnectSDK
