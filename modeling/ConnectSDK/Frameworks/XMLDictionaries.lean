import ConnectSDK.Frameworks.CTXMLReader

/-! # The dictionary of a document

The dictionaries that the reader shares between its stack and their parents stand for the value
that a recursion over the document gives.
-/

namespace ConnectSDK

open Collections

namespace CTXMLReader

/-! ## Changes of the collections -/

section Changes

variable {collections : Collections} {fields : JSON.Fields} {cells : List Value}

theorem holdsEntries_attributeEntries (collections : Collections) :
    ∀ attributes : List (List Char × List Char),
      HoldsEntries collections (attributeEntries (attributeDictOf attributes))
        (attributeFields attributes) []
  | [] => .nil
  | _ :: attributes => .cons (.string _) (holdsEntries_attributeEntries collections attributes)

theorem owns_setText {ref : Ref Entries} (owns : Owns collections ref fields cells)
    (text : String) :
    ∃ all, Owns (setText ref text collections) ref
        (setObject kCTXMLReaderTextNodeKey (.string (trimmedString text)) fields) all ∧
      ∀ cell ∈ all, cell ∈ cells ∨ ¬collections.Allocated cell := by
  rcases owns.replaceable kCTXMLReaderTextNodeKey with ⟨mine, _, _, _, set⟩
  exact set (Heap.read_modify_self ..) (keeps_modify_dictionary _ _ List.mem_cons_self)
    (.string _) .nil nofun

end Changes

/-! ## A new element -/

section Element

variable {before after : Collections} {parentDict : Ref Entries} {fields childFields : JSON.Fields}
  {cells childCells : List Value} {elementName : String} {attributeDict : List (String × String)}

/-- The collections with the dictionary of a new element. -/
def startedElement (parentDict : Ref Entries) (elementName : String)
    (attributeDict : List (String × String)) (collections : Collections) : Collections :=
  addChild parentDict collections.dictionaries.fresh elementName
    (withChildDict attributeDict collections)

theorem startedElement_first (allocated : before.Allocated (.dictionary parentDict))
    (free : (before.dictionaries.read parentDict).lookup elementName = none) :
    startedElement parentDict elementName attributeDict before =
      { before with
        dictionaries := (withChildDict attributeDict before).dictionaries.modify parentDict
          (setObject elementName (.dictionary before.dictionaries.fresh)) } := by
  have read : (withChildDict attributeDict before).dictionaries.read parentDict =
      before.dictionaries.read parentDict := Heap.Allocated.read_allocate allocated _
  rw [startedElement, addChild, read, free]
  rfl

theorem startedElement_second (allocated : before.Allocated (.dictionary parentDict))
    {existing : Value} (notArray : ∀ ref, existing ≠ .array ref)
    (held : (before.dictionaries.read parentDict).lookup elementName = some existing) :
    startedElement parentDict elementName attributeDict before =
      { dictionaries := (withChildDict attributeDict before).dictionaries.modify parentDict
          (setObject elementName (.array before.arrays.fresh))
        arrays := before.arrays.allocate [existing, .dictionary before.dictionaries.fresh] } := by
  have read : (withChildDict attributeDict before).dictionaries.read parentDict =
      before.dictionaries.read parentDict := Heap.Allocated.read_allocate allocated _
  rw [startedElement, addChild, read, held]
  cases existing with
  | string text => rfl
  | dictionary ref => rfl
  | array ref => exact absurd rfl (notArray ref)

theorem startedElement_later (allocated : before.Allocated (.dictionary parentDict))
    {array : Ref (List Value)}
    (held : (before.dictionaries.read parentDict).lookup elementName = some (.array array)) :
    startedElement parentDict elementName attributeDict before =
      { withChildDict attributeDict before with
        arrays := before.arrays.modify array fun elements =>
          elements ++ [.dictionary before.dictionaries.fresh] } := by
  have read : (withChildDict attributeDict before).dictionaries.read parentDict =
      before.dictionaries.read parentDict := Heap.Allocated.read_allocate allocated _
  rw [startedElement, addChild, read, held]
  rfl

theorem nodup_append_new {mine new : List Value} (old : mine.Nodup) (distinct : new.Nodup)
    (present : ∀ cell ∈ mine, before.Allocated cell)
    (absent : ∀ cell ∈ new, ¬before.Allocated cell) : (mine ++ new).Nodup := by
  refine List.nodup_append.mpr ⟨old, distinct, ?_⟩
  rintro cell member _ other rfl
  exact absent cell other (present cell member)

/-- What the dictionary of a new element stands for once its element ends, and where. -/
structure ChildEnds (before : Collections) (parentDict : Ref Entries) (elementName : String)
    (attributeDict : List (String × String)) (after : Collections) (childFields : JSON.Fields)
    (childCells : List Value) : Prop where
  keeps : Keeps (startedElement parentDict elementName attributeDict before) after
    [.dictionary before.dictionaries.fresh]
  child : Owns after before.dictionaries.fresh childFields childCells
  new : ∀ cell ∈ childCells,
    ¬(startedElement parentDict elementName attributeDict before).Allocated cell

theorem not_allocated_fresh (collections : Collections) :
    ¬collections.Allocated (.dictionary collections.dictionaries.fresh) :=
  Nat.lt_irrefl _

theorem addChild_dictionaries (parentDict childDict : Ref Entries) (elementName : String)
    (collections : Collections) :
    (addChild parentDict childDict elementName collections).dictionaries.size =
        collections.dictionaries.size ∧
      ∀ other, other ≠ parentDict →
        (addChild parentDict childDict elementName collections).dictionaries.read other =
          collections.dictionaries.read other := by
  unfold addChild
  split
  · exact ⟨rfl, fun _ _ => rfl⟩
  · exact ⟨rfl, fun _ different => Heap.read_modify_of_ne different _⟩
  · exact ⟨rfl, fun _ different => Heap.read_modify_of_ne different _⟩

/-- The dictionary of a new element holds its attributes. -/
theorem owns_startedElement (allocated : before.Allocated (.dictionary parentDict))
    (attributes : List (List Char × List Char)) :
    Owns (startedElement parentDict elementName (attributeDictOf attributes) before)
      before.dictionaries.fresh (attributeFields attributes) [] := by
  have kept := addChild_dictionaries parentDict before.dictionaries.fresh elementName
    (withChildDict (attributeDictOf attributes) before)
  have different : before.dictionaries.fresh ≠ parentDict :=
    (Heap.Allocated.ne_fresh allocated).symm
  refine ⟨?_, List.nodup_singleton _, ?_⟩
  · rw [startedElement, kept.2 _ different, withChildDict, Heap.read_allocate_fresh]
    exact holdsEntries_attributeEntries _ attributes
  · intro cell member
    rw [List.mem_singleton.mp member]
    show before.dictionaries.size < _
    rw [startedElement, kept.1]
    exact Nat.lt_succ_self _

theorem ne_fresh {ref : Ref Entries} (allocated : before.Allocated (.dictionary ref)) :
    Value.dictionary ref ∉ [Value.dictionary before.dictionaries.fresh] := by
  intro member
  rw [List.mem_singleton.mp member] at allocated
  exact not_allocated_fresh before allocated

/-- Between the tags of an element only what is new changes. -/
theorem ChildEnds.kept
    (ends : ChildEnds before parentDict elementName attributeDict after childFields childCells)
    {changed : List Value}
    (starts : Keeps before (startedElement parentDict elementName attributeDict before) changed) :
    Keeps before after changed := by
  refine starts.trans ends.keeps fun cell member => .inr ?_
  rw [List.mem_singleton.mp member]
  exact not_allocated_fresh before

theorem ChildEnds.own
    (ends : ChildEnds before parentDict elementName attributeDict after childFields childCells)
    {changed : List Value}
    (starts : Keeps before (startedElement parentDict elementName attributeDict before) changed) :
    ∀ cell ∈ Value.dictionary before.dictionaries.fresh :: childCells,
      after.Allocated cell ∧ ¬before.Allocated cell := by
  intro cell member
  refine ⟨ends.child.allocated cell member, ?_⟩
  rcases List.mem_cons.mp member with rfl | member
  · exact not_allocated_fresh before
  · exact fun allocated => ends.new cell member (starts.allocated cell allocated)

/-- The dictionary of the element around holds the new one as it did at the start. -/
theorem ChildEnds.read_parent
    (ends : ChildEnds before parentDict elementName attributeDict after childFields childCells)
    {changed : List Value}
    (starts : Keeps before (startedElement parentDict elementName attributeDict before) changed)
    (allocated : before.Allocated (.dictionary parentDict)) :
    after.dictionaries.read parentDict =
      (startedElement parentDict elementName attributeDict before).dictionaries.read
        parentDict := by
  refine (ends.keeps.same [.dictionary parentDict] ?_).dictionaries _ List.mem_cons_self
  intro cell member
  rw [List.mem_singleton.mp member]
  exact ⟨starts.allocated _ allocated, ne_fresh allocated⟩

theorem ChildEnds.first
    (ends : ChildEnds before parentDict elementName attributeDict after childFields childCells)
    (root : before.Allocated (.dictionary parentDict)) {mine : List Value}
    (free : (before.dictionaries.read parentDict).lookup elementName = none)
    (set : Replaceable before parentDict elementName fields cells mine) :
    (∃ all, Owns after parentDict (setObject elementName (.object childFields) fields) all ∧
      ∀ cell ∈ all, cell ∈ cells ∨ ¬before.Allocated cell) ∧
      Keeps before after (.dictionary parentDict :: mine) := by
  have started : startedElement parentDict elementName attributeDict before = _ :=
    startedElement_first root free
  have starts : Keeps before (startedElement parentDict elementName attributeDict before)
      (.dictionary parentDict :: mine) := by
    rw [started]
    exact (keeps_allocate_dictionary before (attributeEntries attributeDict) _).trans
      (keeps_modify_dictionary _ _ List.mem_cons_self) fun _ member => .inl member
  have read : after.dictionaries.read parentDict =
      setObject elementName (.dictionary before.dictionaries.fresh)
        (before.dictionaries.read parentDict) := by
    rw [ends.read_parent starts root, started]
    refine (Heap.read_modify_self ..).trans ?_
    rw [withChildDict, Heap.Allocated.read_allocate root]
  have own := ends.own starts
  exact ⟨set read (ends.kept starts) ends.child.holds ends.child.nodup fun cell member =>
    ⟨(own cell member).1, .inr (own cell member).2⟩, ends.kept starts⟩

theorem ChildEnds.second
    (ends : ChildEnds before parentDict elementName attributeDict after childFields childCells)
    (owns : Owns before parentDict fields cells) {mine : List Value} {existing : Value}
    {json : JSON} (notArray : ∀ ref, existing ≠ .array ref)
    (held : (before.dictionaries.read parentDict).lookup elementName = some existing)
    (holds : Holds before existing json mine) (among : mine ⊆ cells)
    (distinct : (Value.dictionary parentDict :: mine).Nodup)
    (set : Replaceable before parentDict elementName fields cells mine) :
    (∃ all, Owns after parentDict
        (setObject elementName (.array [json, .object childFields]) fields) all ∧
      ∀ cell ∈ all, cell ∈ cells ∨ ¬before.Allocated cell) ∧
      Keeps before after (.dictionary parentDict :: mine) := by
  have root : before.Allocated (.dictionary parentDict) := owns.allocated _ List.mem_cons_self
  have present : ∀ cell ∈ mine, before.Allocated cell := fun cell member =>
    owns.allocated cell (List.mem_cons_of_mem _ (among member))
  have started : startedElement parentDict elementName attributeDict before = _ :=
    startedElement_second root notArray held
  have starts : Keeps before (startedElement parentDict elementName attributeDict before)
      [.dictionary parentDict] := by
    rw [started]
    exact ((keeps_allocate_dictionary before (attributeEntries attributeDict) _).trans
      (keeps_modify_dictionary _ _ List.mem_cons_self) fun _ member => .inl member).trans
      (keeps_allocate_array _ _ []) nofun
  have read : after.dictionaries.read parentDict =
      setObject elementName (.array before.arrays.fresh)
        (before.dictionaries.read parentDict) := by
    rw [ends.read_parent starts root, started]
    refine (Heap.read_modify_self ..).trans ?_
    rw [withChildDict, Heap.Allocated.read_allocate root]
  have newArray : (startedElement parentDict elementName attributeDict before).Allocated
      (.array before.arrays.fresh) := by
    rw [started]
    exact Heap.allocated_fresh ..
  have elements : after.arrays.read before.arrays.fresh =
      [existing, .dictionary before.dictionaries.fresh] := by
    have same := ends.keeps.same [.array before.arrays.fresh] fun cell member => by
      rw [List.mem_singleton.mp member]
      exact ⟨newArray, nofun⟩
    rw [same.arrays _ List.mem_cons_self, started]
    exact Heap.read_allocate_fresh ..
  have kept := (ends.kept starts).same mine fun cell member =>
    ⟨present cell member, fun changed => distinct.notMem (List.mem_singleton.mp changed ▸ member)⟩
  have own := ends.own starts
  have stays := (ends.kept starts).mono (List.cons_subset_cons _ (List.nil_subset mine))
  have distinctCells : (Value.array before.arrays.fresh ::
      (mine ++ (.dictionary before.dictionaries.fresh :: childCells))).Nodup := by
    refine List.nodup_cons.mpr ⟨fun member => ?_,
      nodup_append_new distinct.of_cons ends.child.nodup present fun cell member =>
        (own cell member).2⟩
    rcases List.mem_append.mp member with old | new
    · exact Nat.lt_irrefl _ (present _ old)
    · rcases List.mem_cons.mp new with equal | below
      · cases equal
      · exact ends.new _ below newArray
  have ownCells : ∀ cell ∈ Value.array before.arrays.fresh ::
      (mine ++ (.dictionary before.dictionaries.fresh :: childCells)),
      after.Allocated cell ∧ (cell ∈ mine ∨ ¬before.Allocated cell) := by
    intro cell member
    rcases List.mem_cons.mp member with rfl | member
    · exact ⟨ends.keeps.allocated _ newArray, .inr (Nat.lt_irrefl _)⟩
    · rcases List.mem_append.mp member with old | new
      · exact ⟨stays.allocated cell (present cell old), .inl old⟩
      · exact ⟨(own cell new).1, .inr (own cell new).2⟩
  have pair : HoldsElements after (after.arrays.read before.arrays.fresh)
      [json, .object childFields] (mine ++ (.dictionary before.dictionaries.fresh :: childCells)) := by
    rw [elements, ← List.append_nil (Value.dictionary _ :: childCells)]
    exact .cons (holds.congr kept) (.cons ends.child.holds .nil)
  exact ⟨set read stays (.array pair) distinctCells ownCells, stays⟩

theorem ChildEnds.later
    (ends : ChildEnds before parentDict elementName attributeDict after childFields childCells)
    (owns : Owns before parentDict fields cells) {mine : List Value} {array : Ref (List Value)}
    {elements : List JSON}
    (held : (before.dictionaries.read parentDict).lookup elementName = some (.array array))
    (holds : HoldsElements before (before.arrays.read array) elements mine)
    (among : Value.array array :: mine ⊆ cells)
    (distinct : (Value.dictionary parentDict :: .array array :: mine).Nodup)
    (set : Replaceable before parentDict elementName fields cells (.array array :: mine)) :
    (∃ all, Owns after parentDict
        (setObject elementName (.array (elements ++ [.object childFields])) fields) all ∧
      ∀ cell ∈ all, cell ∈ cells ∨ ¬before.Allocated cell) ∧
      Keeps before after (.dictionary parentDict :: .array array :: mine) := by
  have root : before.Allocated (.dictionary parentDict) := owns.allocated _ List.mem_cons_self
  have present : ∀ cell ∈ Value.array array :: mine, before.Allocated cell := fun cell member =>
    owns.allocated cell (List.mem_cons_of_mem _ (among member))
  have started : startedElement parentDict elementName attributeDict before = _ :=
    startedElement_later root held
  have starts : Keeps before (startedElement parentDict elementName attributeDict before)
      [.array array] := by
    rw [started]
    exact (keeps_allocate_dictionary before (attributeEntries attributeDict) _).trans
      (keeps_modify_array _ _ List.mem_cons_self) fun _ member => .inl member
  have read : after.dictionaries.read parentDict =
      setObject elementName (.array array) (before.dictionaries.read parentDict) := by
    rw [ends.read_parent starts root, started, setObject_of_lookup held]
    exact Heap.Allocated.read_allocate root _
  have appended : after.arrays.read array =
      before.arrays.read array ++ [.dictionary before.dictionaries.fresh] := by
    have same := ends.keeps.same [.array array] fun cell member => by
      rw [List.mem_singleton.mp member]
      exact ⟨starts.allocated _ (present _ List.mem_cons_self), nofun⟩
    rw [same.arrays _ List.mem_cons_self, started]
    exact Heap.read_modify_self before.arrays array fun elements =>
      elements ++ [.dictionary before.dictionaries.fresh]
  have kept := (ends.kept starts).same mine fun cell member =>
    ⟨present cell (List.mem_cons_of_mem _ member), fun changed =>
      distinct.of_cons.notMem (List.mem_singleton.mp changed ▸ member)⟩
  have own := ends.own starts
  have stays : Keeps before after (.dictionary parentDict :: .array array :: mine) :=
    (ends.kept starts).mono fun _ member =>
      List.mem_cons_of_mem _ (List.mem_cons.mpr (.inl (List.mem_singleton.mp member)))
  have distinctCells : ((Value.array array :: mine) ++
      (.dictionary before.dictionaries.fresh :: childCells)).Nodup :=
    nodup_append_new distinct.of_cons ends.child.nodup present fun cell member =>
      (own cell member).2
  have ownCells : ∀ cell ∈ (Value.array array :: mine) ++
      (.dictionary before.dictionaries.fresh :: childCells),
      after.Allocated cell ∧ (cell ∈ Value.array array :: mine ∨ ¬before.Allocated cell) := by
    intro cell member
    rcases List.mem_append.mp member with old | new
    · exact ⟨stays.allocated cell (present cell old), .inl old⟩
    · exact ⟨(own cell new).1, .inr (own cell new).2⟩
  have longer : HoldsElements after (after.arrays.read array)
      (elements ++ [.object childFields])
      (mine ++ (.dictionary before.dictionaries.fresh :: childCells)) := by
    rw [appended]
    exact (holds.congr kept).append ends.child.holds
  exact ⟨set read stays (.array longer) distinctCells ownCells, stays⟩

/-- Once an element ends, the dictionary around it stands for the fields with the new one. -/
theorem ChildEnds.owns
    (ends : ChildEnds before parentDict elementName attributeDict after childFields childCells)
    (owns : Owns before parentDict fields cells) :
    ∃ all, Owns after parentDict (addElement elementName (.object childFields) fields) all ∧
      (∀ cell ∈ all, cell ∈ cells ∨ ¬before.Allocated cell) ∧
      Keeps before after (.dictionary parentDict :: cells) := by
  rcases owns.replaceable elementName with ⟨mine, among, distinct, held, set⟩
  have done : ∀ {fields' : JSON.Fields}, (∃ all, Owns after parentDict fields' all ∧
      ∀ cell ∈ all, cell ∈ cells ∨ ¬before.Allocated cell) ∧
        Keeps before after (.dictionary parentDict :: mine) →
      ∃ all, Owns after parentDict fields' all ∧
        (∀ cell ∈ all, cell ∈ cells ∨ ¬before.Allocated cell) ∧
        Keeps before after (.dictionary parentDict :: cells) :=
    fun ⟨⟨all, owned, known⟩, keeps⟩ =>
      ⟨all, owned, known, keeps.mono (List.cons_subset_cons _ among)⟩
  generalize entryIs : (before.dictionaries.read parentDict).lookup elementName = entry at held
  generalize fieldIs : fields.lookup elementName = field at held
  unfold addElement
  rw [fieldIs]
  cases held with
  | none => exact done (ends.first (owns.allocated _ List.mem_cons_self) entryIs set)
  | some holds =>
      cases holds with
      | string text =>
          exact done (ends.second owns (by simp) entryIs (.string text) among distinct set)
      | dictionary entries =>
          exact done (ends.second owns (by simp) entryIs (.dictionary entries) among distinct set)
      | array elements => exact done (ends.later owns entryIs elements among distinct set)

end Element

/-! ## A run of the parser -/

/-- Between two states of the reader the open dictionary was filled, and nothing else. -/
structure Filled (reader after : CTXMLReader) (top : Ref Entries) (cells all : List Value)
    (result : JSON.Fields × String) : Prop where
  dictionaryStack : after.dictionaryStack = reader.dictionaryStack
  errorPointer : after.errorPointer = reader.errorPointer
  textInProgress : after.textInProgress = result.2
  keeps : Keeps reader.collections after.collections (.dictionary top :: cells)
  owns : Owns after.collections top result.1 all
  known : ∀ cell ∈ all, cell ∈ cells ∨ ¬reader.collections.Allocated cell

theorem Filled.trans {first second third : CTXMLReader} {top : Ref Entries}
    {cells more all : List Value} {middle result : JSON.Fields × String}
    (before : Filled first second top cells more middle)
    (after : Filled second third top more all result) : Filled first third top cells all result where
  dictionaryStack := after.dictionaryStack.trans before.dictionaryStack
  errorPointer := after.errorPointer.trans before.errorPointer
  textInProgress := after.textInProgress
  keeps := by
    refine before.keeps.trans after.keeps fun cell member => ?_
    rcases List.mem_cons.mp member with rfl | member
    · exact .inl List.mem_cons_self
    · exact (before.known cell member).imp_left (List.mem_cons_of_mem _)
  owns := after.owns
  known := by
    intro cell member
    rcases after.known cell member with old | new
    · exact before.known cell old
    · exact .inr fun allocated => new (before.keeps.allocated cell allocated)

theorem addItems_characters (items : List XML.Item) (fields : JSON.Fields) :
    ∀ (text : List Char) (waiting : String),
      addItems (text.map XML.Item.character ++ items) (fields, waiting) =
        addItems items (fields, waiting ++ String.ofList text)
  | [], waiting => by simp
  | c :: text, waiting => by
      have pushed : waiting.push c ++ String.ofList text = waiting ++ String.ofList (c :: text) := by
        apply String.toList_injective
        simp
      rw [List.map_cons, List.cons_append, addItems, addItem, addItems_characters items fields text,
        pushed]

theorem didEndElement_eq (reader : CTXMLReader) {child : Ref Entries} {below : List (Ref Entries)}
    (stack : reader.dictionaryStack = child :: below) :
    reader.didEndElement =
      { reader with
        collections :=
          if reader.textInProgress = "" then reader.collections
          else setText child reader.textInProgress reader.collections
        dictionaryStack := below
        textInProgress := "" } := by
  rcases reader with ⟨collections, dictionaryStack, text, error⟩
  cases stack
  unfold didEndElement
  by_cases empty : text = ""
  · subst empty
    rfl
  · dsimp only
    rw [if_neg empty, if_neg empty]
    rfl

/-- The text before an end tag goes to the element that ends. -/
theorem owns_withText {collections : Collections} {child : Ref Entries} {fields : JSON.Fields}
    {cells : List Value} (owns : Owns collections child fields cells) (text : String) :
    Keeps collections (if text = "" then collections else setText child text collections)
        [.dictionary child] ∧
      ∃ all, Owns (if text = "" then collections else setText child text collections) child
          (withText fields text) all ∧
        ∀ cell ∈ all, cell ∈ cells ∨ ¬collections.Allocated cell := by
  unfold withText
  split
  · exact ⟨keeps_refl .., cells, owns, fun _ member => .inl member⟩
  · exact ⟨keeps_modify_dictionary _ _ List.mem_cons_self, owns_setText owns text⟩

theorem didStartElement_collections {reader : CTXMLReader} {top : Ref Entries}
    {below : List (Ref Entries)} (stack : reader.dictionaryStack = top :: below)
    (elementName : String) (attributeDict : List (String × String)) :
    (reader.didStartElement elementName attributeDict).collections =
      startedElement top elementName attributeDict reader.collections := by
  rw [didStartElement, stack]
  rfl

/-- From its start tag to its end tag, an element fills the dictionary around it. -/
theorem filled_element {reader inside : CTXMLReader} {top : Ref Entries}
    {below : List (Ref Entries)} {fields : JSON.Fields} {cells childCells : List Value}
    {elementName : String} {attributes : List (List Char × List Char)}
    {inner : JSON.Fields × String} (stack : reader.dictionaryStack = top :: below)
    (owns : Owns reader.collections top fields cells)
    (content : Filled (reader.didStartElement elementName (attributeDictOf attributes)) inside
      reader.collections.dictionaries.fresh [] childCells inner) :
    ∃ all, Filled reader inside.didEndElement top cells all
      (addElement elementName (.object (withText inner.1 inner.2)) fields, "") := by
  have started := didStartElement_collections stack elementName (attributeDictOf attributes)
  have stackInside : inside.dictionaryStack =
      reader.collections.dictionaries.fresh :: reader.dictionaryStack := content.dictionaryStack
  have ended := didEndElement_eq inside stackInside
  rcases owns_withText content.owns inside.textInProgress with ⟨stays, last, owned, known⟩
  have new : ∀ cell ∈ childCells, ¬(startedElement top elementName (attributeDictOf attributes)
      reader.collections).Allocated cell := by
    intro cell member
    rw [← started]
    exact (content.known cell member).resolve_left List.not_mem_nil
  have ends : ChildEnds reader.collections top elementName (attributeDictOf attributes)
      inside.didEndElement.collections (withText inner.1 inside.textInProgress) last := by
    rw [ended]
    refine ⟨?_, owned, fun cell member => ?_⟩
    · exact (started ▸ content.keeps).trans stays fun cell member => .inl member
    · rcases known cell member with old | fresh
      · exact new cell old
      · rw [← started]
        exact fun allocated => fresh (content.keeps.allocated cell allocated)
  rcases ends.owns owns with ⟨all, filled, inCells, keeps⟩
  rw [content.textInProgress] at filled
  refine ⟨all, ?_, ?_, ?_, keeps, filled, inCells⟩
  · rw [ended]
  · rw [ended]
    exact content.errorPointer
  · rw [ended]

/-- What the parser tells of the content of an element fills the dictionary of it. -/
theorem Tells.filled {items : List XML.Item} {events : List ParserEvent}
    (tells : Tells items events) :
    ∀ {reader : CTXMLReader} {top : Ref Entries} {below : List (Ref Entries)}
      {fields : JSON.Fields} {cells : List Value}, reader.dictionaryStack = top :: below →
      Owns reader.collections top fields cells →
        ∃ all, Filled reader (events.foldl handle reader) top cells all
          (addItems items (fields, reader.textInProgress)) := by
  induction tells with
  | nil =>
      intro reader top below fields cells stack owns
      exact ⟨cells, rfl, rfl, rfl, keeps_refl .., owns, fun _ member => .inl member⟩
  | characters text more induction =>
      intro reader top below fields cells stack owns
      rw [List.foldl_cons, addItems_characters]
      have heard : (reader.foundCharacters (String.ofList text)).dictionaryStack = top :: below :=
        stack
      rcases induction heard owns with ⟨all, filled⟩
      exact ⟨all, { filled with }⟩
  | @element name attributes _ _ _ _ _ _ content rest =>
      intro reader top below fields cells stack owns
      rw [List.foldl_cons, List.foldl_append, List.foldl_cons, addItems, addItem]
      have root := owns.allocated _ List.mem_cons_self
      have child : Owns (reader.didStartElement (String.ofList name)
          (attributeDictOf attributes)).collections reader.collections.dictionaries.fresh
          (attributeFields attributes) [] := by
        rw [didStartElement_collections stack]
        exact owns_startedElement root attributes
      rcases content rfl child with ⟨childCells, inside⟩
      rcases filled_element stack owns inside with ⟨middle, whole⟩
      rcases rest (whole.dictionaryStack.trans stack) whole.owns with ⟨all, later⟩
      rw [whole.textInProgress] at later
      exact ⟨all, whole.trans later⟩

theorem owns_start (error : Option NSError) :
    Owns (start error).collections Collections.empty.dictionaries.fresh [] [] := by
  refine ⟨?_, List.nodup_singleton _, ?_⟩
  · rw [start, Heap.read_allocate_fresh]
    exact .nil
  · intro cell member
    rw [List.mem_singleton.mp member]
    exact Nat.lt_succ_self _

/-- The dictionary at the bottom of the stack is the first one that was made. -/
theorem Tells.rootDictionary {root : XML.Item} {events : List ParserEvent}
    (tells : Tells [root] events) (error : Option NSError) :
    (dictionaryForXMLData error events true).rootDictionary =
      some (.dictionary Collections.empty.dictionaries.fresh) := by
  rcases tells.filled rfl (owns_start error) with ⟨_, filled⟩
  have stack : (events.foldl handle (start error)).dictionaryStack =
      [Collections.empty.dictionaries.fresh] := filled.dictionaryStack
  show (events.foldl handle (start error)).dictionaryStack.getLast?.map Value.dictionary = _
  rw [stack]
  rfl

theorem Tells.holds {root : XML.Item} {events : List ParserEvent}
    (tells : Tells [root] events) (error : Option NSError) :
    ∃ cells, Holds (dictionaryForXMLData error events true).collections
        (.dictionary Collections.empty.dictionaries.fresh) (.object (dictionaryOf root)) cells ∧
      cells.Nodup := by
  rcases tells.filled rfl (owns_start error) with ⟨all, filled⟩
  exact ⟨_, filled.owns.holds, filled.owns.nodup⟩

/-- However the parser splits the texts of a document, the root dictionary stands for what the
document does, and no dictionary or array is in two places of it. -/
theorem dictionaryForXMLData_holds (error : Option NSError) {root : XML.Item}
    {events : List ParserEvent} (tells : Tells [root] events) :
    ∃ dictionary cells,
      (dictionaryForXMLData error events true).rootDictionary = some dictionary ∧
        (dictionaryForXMLData error events true).error = error ∧
        Holds (dictionaryForXMLData error events true).collections dictionary
          (.object (dictionaryOf root)) cells ∧ cells.Nodup := by
  have found := tells.rootDictionary error
  rcases tells.holds error with ⟨cells, holds, apart⟩
  refine ⟨_, cells, found, ?_, holds, apart⟩
  show (if (dictionaryForXMLData error events true).rootDictionary.isNone then _ else _) = _
  rw [found]
  rfl

/-- A document with an attribute, two elements of one name and spaces between them. -/
def sampleRoot : XML.Item :=
  .element ['r'] [(['i'], ['1'])]
    [.character ' ', .element ['a'] [] [.character 'x'], .element ['a'] [] [.character 'y']]

def sampleEvents : List ParserEvent :=
  [.didStartElement "r" [("i", "1")], .foundCharacters " ", .didStartElement "a" [],
    .foundCharacters "x", .didEndElement "a", .didStartElement "a" [], .foundCharacters "y",
    .didEndElement "a", .didEndElement "r"]

theorem sampleEvents_tells : Tells [sampleRoot] sampleEvents :=
  .element (.characters [' '] (.element (.characters ['x'] .nil)
    (.element (.characters ['y'] .nil) .nil))) .nil

theorem dictionaryForXMLData_holds_sampleEvents :
    ∃ dictionary cells,
      (dictionaryForXMLData none sampleEvents true).rootDictionary = some dictionary ∧
        (dictionaryForXMLData none sampleEvents true).error = none ∧
        Holds (dictionaryForXMLData none sampleEvents true).collections dictionary
          (.object (dictionaryOf sampleRoot)) cells ∧ cells.Nodup :=
  dictionaryForXMLData_holds none sampleEvents_tells

end CTXMLReader

end ConnectSDK
