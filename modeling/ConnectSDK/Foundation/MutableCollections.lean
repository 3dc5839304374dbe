import Mathlib.Data.List.Nodup
import ConnectSDK.Foundation.Heap
import ConnectSDK.Foundation.JSON

/-! # Mutable dictionaries and arrays

Dictionaries and arrays that are held by reference, and the property list that such an object
stands for. What stands for a property list owns the cells it is kept in, so that a change of one
cell shows at one place only.
-/

namespace ConnectSDK

namespace Collections

/-- `[dictionary setObject:value forKey:key]`, at the place of the key where it has one. -/
def setObject (key : String) (value : α) : List (String × α) → List (String × α)
  | [] => [(key, value)]
  | (other, held) :: rest =>
      if other = key then (key, value) :: rest else (other, held) :: setObject key value rest

theorem lookup_setObject (key other : String) (value : α) (entries : List (String × α)) :
    (setObject key value entries).lookup other =
      if other = key then some value else entries.lookup other := by
  induction entries with
  | nil =>
      by_cases same : other = key
      · rw [if_pos same, same, setObject, List.lookup_cons_self]
      · rw [if_neg same, setObject, List.lookup_cons, beq_false_of_ne same]
  | cons entry rest induction =>
      rcases entry with ⟨head, held⟩
      by_cases here : head = key
      · rw [setObject, if_pos here]
        by_cases same : other = key
        · rw [if_pos same, same, List.lookup_cons_self]
        · rw [if_neg same, List.lookup_cons, List.lookup_cons, beq_false_of_ne same,
            beq_false_of_ne fun equal => same (equal.trans here)]
      · rw [setObject, if_neg here, List.lookup_cons, List.lookup_cons, induction]
        by_cases same : other = key
        · rw [if_pos same, if_pos same, beq_false_of_ne fun equal => here (equal.symm.trans same)]
        · rw [if_neg same, if_neg same]

theorem setObject_of_lookup {key : String} {value : α} :
    ∀ {entries : List (String × α)}, entries.lookup key = some value →
      setObject key value entries = entries
  | [], held => nomatch held
  | (other, value') :: rest, held => by
      by_cases here : other = key
      · subst here
        rw [List.lookup_cons_self] at held
        rw [setObject, if_pos rfl, Option.some.inj held]
      · have further : rest.lookup key = some value := by
          rw [List.lookup_cons, beq_false_of_ne (Ne.symm here)] at held
          exact held
        rw [setObject, if_neg here, setObject_of_lookup further]

/-- What a dictionary or an array holds. -/
inductive Value where
  | string (text : String)
  | dictionary (ref : Ref (List (String × Value)))
  | array (ref : Ref (List Value))

abbrev Entries := List (String × Value)

end Collections

/-- The dictionaries and arrays there are. -/
structure Collections where
  dictionaries : Heap Collections.Entries
  arrays : Heap (List Collections.Value)

namespace Collections

def empty : Collections where
  dictionaries := .empty []
  arrays := .empty []

def Allocated (collections : Collections) : Value → Prop
  | .string _ => True
  | .dictionary ref => collections.dictionaries.Allocated ref
  | .array ref => collections.arrays.Allocated ref

mutual
/-- An object stands for a property list, which is kept in the cells. -/
inductive Holds (collections : Collections) : Value → JSON → List Value → Prop where
  | string (text : String) : Holds collections (.string text) (.string text) []
  | dictionary {ref : Ref Entries} {fields : JSON.Fields} {cells : List Value}
      (entries : HoldsEntries collections (collections.dictionaries.read ref) fields cells) :
      Holds collections (.dictionary ref) (.object fields) (.dictionary ref :: cells)
  | array {ref : Ref (List Value)} {elements : List JSON} {cells : List Value}
      (held : HoldsElements collections (collections.arrays.read ref) elements cells) :
      Holds collections (.array ref) (.array elements) (.array ref :: cells)

inductive HoldsEntries (collections : Collections) :
    Entries → JSON.Fields → List Value → Prop where
  | nil : HoldsEntries collections [] [] []
  | cons {key : String} {value : Value} {json : JSON} {entries : Entries}
      {fields : JSON.Fields} {cells more : List Value} (head : Holds collections value json cells)
      (tail : HoldsEntries collections entries fields more) :
      HoldsEntries collections ((key, value) :: entries) ((key, json) :: fields) (cells ++ more)

inductive HoldsElements (collections : Collections) :
    List Value → List JSON → List Value → Prop where
  | nil : HoldsElements collections [] [] []
  | cons {value : Value} {json : JSON} {values : List Value} {elements : List JSON}
      {cells more : List Value} (head : Holds collections value json cells)
      (tail : HoldsElements collections values elements more) :
      HoldsElements collections (value :: values) (json :: elements) (cells ++ more)
end

/-- The cells hold the same before and after. -/
structure SameOn (before after : Collections) (cells : List Value) : Prop where
  dictionaries : ∀ ref, Value.dictionary ref ∈ cells →
    after.dictionaries.read ref = before.dictionaries.read ref
  arrays : ∀ ref, Value.array ref ∈ cells → after.arrays.read ref = before.arrays.read ref

theorem SameOn.mono {before after : Collections} {cells fewer : List Value}
    (same : SameOn before after cells) (subset : ∀ cell ∈ fewer, cell ∈ cells) :
    SameOn before after fewer where
  dictionaries := fun ref member => same.dictionaries ref (subset _ member)
  arrays := fun ref member => same.arrays ref (subset _ member)

theorem SameOn.left {before after : Collections} {cells more : List Value}
    (same : SameOn before after (cells ++ more)) : SameOn before after cells :=
  same.mono fun _ member => List.mem_append_left more member

theorem SameOn.right {before after : Collections} {cells more : List Value}
    (same : SameOn before after (cells ++ more)) : SameOn before after more :=
  same.mono fun _ member => List.mem_append_right cells member

theorem SameOn.tail {before after : Collections} {cell : Value} {cells : List Value}
    (same : SameOn before after (cell :: cells)) : SameOn before after cells :=
  same.mono fun _ member => List.mem_cons_of_mem cell member

mutual
/-- What an object stands for depends on its own cells only. -/
theorem Holds.congr {before after : Collections} {value : Value} {json : JSON}
    {cells : List Value} : Holds before value json cells → SameOn before after cells →
      Holds after value json cells
  | .string text, _ => .string text
  | .dictionary entries, same =>
      .dictionary ((same.dictionaries _ List.mem_cons_self).symm ▸ entries.congr same.tail)
  | .array held, same =>
      .array ((same.arrays _ List.mem_cons_self).symm ▸ held.congr same.tail)

theorem HoldsEntries.congr {before after : Collections} {entries : Entries}
    {fields : JSON.Fields} {cells : List Value} : HoldsEntries before entries fields cells →
      SameOn before after cells → HoldsEntries after entries fields cells
  | .nil, _ => .nil
  | .cons head tail, same => .cons (head.congr same.left) (tail.congr same.right)

theorem HoldsElements.congr {before after : Collections} {values : List Value}
    {elements : List JSON} {cells : List Value} : HoldsElements before values elements cells →
      SameOn before after cells → HoldsElements after values elements cells
  | .nil, _ => .nil
  | .cons head tail, same => .cons (head.congr same.left) (tail.congr same.right)
end

theorem HoldsElements.append {collections : Collections} {value : Value} {json : JSON}
    {inner : List Value} (last : Holds collections value json inner) :
    ∀ {values : List Value} {elements : List JSON} {cells : List Value},
      HoldsElements collections values elements cells →
        HoldsElements collections (values ++ [value]) (elements ++ [json]) (cells ++ inner)
  | _, _, _, .nil => by
      rw [List.nil_append, List.nil_append, List.nil_append, ← List.append_nil inner]
      exact .cons last .nil
  | _, _, _, .cons head tail => by
      rw [List.append_assoc]
      exact .cons head (tail.append last)

/-- What is held under a key, if anything is. -/
inductive HoldsOption (collections : Collections) :
    Option Value → Option JSON → List Value → Prop where
  | none : HoldsOption collections none none []
  | some {value : Value} {json : JSON} {cells : List Value}
      (holds : Holds collections value json cells) :
      HoldsOption collections (some value) (some json) cells

/-- The entry of a key is kept apart from the others, and can be set without them. -/
theorem HoldsEntries.split {before : Collections} (key : String) :
    ∀ {entries : Entries} {fields : JSON.Fields} {cells : List Value},
      HoldsEntries before entries fields cells →
        ∃ mine others, cells.Perm (mine ++ others) ∧
          HoldsOption before (entries.lookup key) (fields.lookup key) mine ∧
          ∀ {after : Collections} {value : Value} {json : JSON} {inner : List Value},
            SameOn before after others → Holds after value json inner →
              ∃ all, all.Perm (inner ++ others) ∧
                HoldsEntries after (setObject key value entries) (setObject key json fields) all
  | _, _, _, .nil =>
      ⟨[], [], .nil, .none, fun _ holds => ⟨_, .refl _, .cons holds .nil⟩⟩
  | _, _, _, @HoldsEntries.cons _ other _ _ _ _ cells more head tail => by
      by_cases here : other = key
      · subst here
        refine ⟨cells, more, .refl _, ?_, ?_⟩
        · rw [List.lookup_cons_self, List.lookup_cons_self]
          exact .some head
        · intro after value json inner same holds
          rw [setObject, if_pos rfl, setObject, if_pos rfl]
          exact ⟨_, .refl _, .cons holds (tail.congr same)⟩
      · rcases tail.split key with ⟨mine, others, split, held, set⟩
        refine ⟨mine, cells ++ others, ?_, ?_, ?_⟩
        · exact (split.append_left cells).trans (List.perm_append_comm_assoc cells mine others)
        · rw [List.lookup_cons, List.lookup_cons, beq_false_of_ne (Ne.symm here)]
          exact held
        · intro after value json inner same holds
          rcases set same.right holds with ⟨all, permuted, entries⟩
          rw [setObject, if_neg here, setObject, if_neg here]
          exact ⟨_, (permuted.append_left cells).trans
            (List.perm_append_comm_assoc cells inner others),
            .cons (head.congr same.left) entries⟩

/-- The dictionary stands for the fields, and these are the cells below it. -/
structure Owns (collections : Collections) (ref : Ref Entries) (fields : JSON.Fields)
    (cells : List Value) : Prop where
  entries : HoldsEntries collections (collections.dictionaries.read ref) fields cells
  nodup : (Value.dictionary ref :: cells).Nodup
  allocated : ∀ cell ∈ Value.dictionary ref :: cells, collections.Allocated cell

theorem Owns.holds {collections : Collections} {ref : Ref Entries} {fields : JSON.Fields}
    {cells : List Value} (owns : Owns collections ref fields cells) :
    Holds collections (.dictionary ref) (.object fields) (.dictionary ref :: cells) :=
  .dictionary owns.entries

/-- What was there stays, and holds what it held outside the cells. -/
structure Keeps (before after : Collections) (cells : List Value) : Prop where
  allocated : ∀ cell, before.Allocated cell → after.Allocated cell
  same : ∀ others : List Value, (∀ cell ∈ others, before.Allocated cell ∧ cell ∉ cells) →
    SameOn before after others

theorem keeps_refl (collections : Collections) (cells : List Value) :
    Keeps collections collections cells where
  allocated := fun _ allocated => allocated
  same := fun _ _ => ⟨fun _ _ => rfl, fun _ _ => rfl⟩

theorem Keeps.mono {before after : Collections} {cells more : List Value}
    (keeps : Keeps before after cells) (subset : cells ⊆ more) : Keeps before after more where
  allocated := keeps.allocated
  same := fun others apart => keeps.same others fun cell member =>
    ⟨(apart cell member).1, fun changed => (apart cell member).2 (subset changed)⟩

theorem keeps_allocate_dictionary (collections : Collections) (entries : Entries)
    (cells : List Value) :
    Keeps collections
      { collections with dictionaries := collections.dictionaries.allocate entries } cells where
  allocated := by
    intro cell allocated
    cases cell with
    | string text => trivial
    | dictionary ref => exact Heap.Allocated.allocate allocated entries
    | array ref => exact allocated
  same := fun _ apart =>
    { dictionaries := fun _ member => Heap.Allocated.read_allocate (apart _ member).1 entries
      arrays := fun _ _ => rfl }

theorem keeps_allocate_array (collections : Collections) (elements : List Value)
    (cells : List Value) :
    Keeps collections { collections with arrays := collections.arrays.allocate elements }
      cells where
  allocated := by
    intro cell allocated
    cases cell with
    | string text => trivial
    | dictionary ref => exact allocated
    | array ref => exact Heap.Allocated.allocate allocated elements
  same := fun _ apart =>
    { dictionaries := fun _ _ => rfl
      arrays := fun _ member => Heap.Allocated.read_allocate (apart _ member).1 elements }

theorem keeps_modify_dictionary (collections : Collections) (change : Entries → Entries)
    {ref : Ref Entries} {cells : List Value} (among : Value.dictionary ref ∈ cells) :
    Keeps collections
      { collections with dictionaries := collections.dictionaries.modify ref change } cells where
  allocated := by
    intro cell allocated
    cases cell with
    | string text => trivial
    | dictionary other => exact allocated
    | array other => exact allocated
  same := fun _ apart =>
    { dictionaries := by
        intro other member
        have different : other ≠ ref := by
          rintro rfl
          exact (apart _ member).2 among
        exact Heap.read_modify_of_ne different change
      arrays := fun _ _ => rfl }

theorem keeps_modify_array (collections : Collections) (change : List Value → List Value)
    {ref : Ref (List Value)} {cells : List Value} (among : Value.array ref ∈ cells) :
    Keeps collections
      { collections with arrays := collections.arrays.modify ref change } cells where
  allocated := by
    intro cell allocated
    cases cell with
    | string text => trivial
    | dictionary other => exact allocated
    | array other => exact allocated
  same := fun _ apart =>
    { dictionaries := fun _ _ => rfl
      arrays := by
        intro other member
        have different : other ≠ ref := by
          rintro rfl
          exact (apart _ member).2 among
        exact Heap.read_modify_of_ne different change }

/-- What changes later are cells that could change before, or new ones. -/
theorem Keeps.trans {first second third : Collections} {cells more : List Value}
    (before : Keeps first second cells) (after : Keeps second third more)
    (new : ∀ cell ∈ more, cell ∈ cells ∨ ¬first.Allocated cell) : Keeps first third cells where
  allocated := fun cell allocated => after.allocated cell (before.allocated cell allocated)
  same := by
    intro others apart
    have early := before.same others apart
    have late := after.same others fun cell member =>
      ⟨before.allocated cell (apart cell member).1, fun changed =>
        (new cell changed).elim (apart cell member).2 (absurd (apart cell member).1)⟩
    exact ⟨fun ref member => (late.dictionaries ref member).trans (early.dictionaries ref member),
      fun ref member => (late.arrays ref member).trans (early.arrays ref member)⟩

/-- What is put under the key may be kept in the cells `mine` of what it held, and in new ones. -/
def Replaceable (before : Collections) (ref : Ref Entries) (key : String) (fields : JSON.Fields)
    (cells mine : List Value) : Prop :=
  ∀ {after : Collections} {value : Value} {json : JSON} {inner : List Value},
    after.dictionaries.read ref = setObject key value (before.dictionaries.read ref) →
    Keeps before after (.dictionary ref :: mine) → Holds after value json inner →
    inner.Nodup → (∀ cell ∈ inner, after.Allocated cell ∧ (cell ∈ mine ∨ ¬before.Allocated cell)) →
      ∃ all, Owns after ref (setObject key json fields) all ∧
        ∀ cell ∈ all, cell ∈ cells ∨ ¬before.Allocated cell

theorem Owns.replaceable {before : Collections} {ref : Ref Entries} {fields : JSON.Fields}
    {cells : List Value} (owns : Owns before ref fields cells) (key : String) :
    ∃ mine, mine ⊆ cells ∧ (Value.dictionary ref :: mine).Nodup ∧
      HoldsOption before ((before.dictionaries.read ref).lookup key) (fields.lookup key) mine ∧
      Replaceable before ref key fields cells mine := by
  rcases owns.entries.split key with ⟨mine, others, split, held, set⟩
  have nodup : (mine ++ others).Nodup := split.nodup_iff.mp owns.nodup.of_cons
  have apart : ∀ cell ∈ others, before.Allocated cell ∧ cell ∉ Value.dictionary ref :: mine := by
    intro cell member
    have present : cell ∈ cells := split.mem_iff.mpr (List.mem_append_right mine member)
    refine ⟨owns.allocated cell (List.mem_cons_of_mem _ present), fun changed => ?_⟩
    rcases List.mem_cons.mp changed with rfl | changed
    · exact owns.nodup.notMem present
    · exact List.disjoint_of_nodup_append nodup changed member
  have among : mine ⊆ cells := fun cell member =>
    split.mem_iff.mpr (List.mem_append_left others member)
  refine ⟨mine, among, ?_, held, ?_⟩
  · exact List.nodup_cons.mpr ⟨fun member => owns.nodup.notMem (among member),
      nodup.of_append_left⟩
  intro after value json inner written keeps holds distinct own
  rcases set (keeps.same others apart) holds with ⟨all, permuted, entries⟩
  have known : ∀ cell ∈ all, cell ∈ cells ∨ ¬before.Allocated cell := by
    intro cell member
    rcases List.mem_append.mp (permuted.mem_iff.mp member) with inside | outside
    · exact (own cell inside).2.imp_left fun member => among member
    · exact .inl (split.mem_iff.mpr (List.mem_append_right mine outside))
  have root : before.Allocated (.dictionary ref) := owns.allocated _ List.mem_cons_self
  refine ⟨all, ⟨written ▸ entries, List.nodup_cons.mpr ⟨?_, ?_⟩, ?_⟩, known⟩
  · intro member
    exact (known _ member).elim owns.nodup.notMem (absurd root)
  · refine permuted.nodup_iff.mpr (List.nodup_append.mpr ⟨distinct, nodup.of_append_right, ?_⟩)
    rintro cell inside other outside rfl
    rcases (own cell inside).2 with here | new
    · exact List.disjoint_of_nodup_append nodup here outside
    · exact new (apart cell outside).1
  · intro cell member
    rcases List.mem_cons.mp member with rfl | member
    · exact keeps.allocated _ root
    · rcases List.mem_append.mp (permuted.mem_iff.mp member) with inside | outside
      · exact (own cell inside).1
      · exact keeps.allocated cell (apart cell outside).1

end Collections

end ConnectSDK
