import Mathlib.Data.List.Induction
import ConnectSDK.Foundation.Raising
import ConnectSDK.Frameworks.XMLWriter

/-! # Scopes of a writer

An element is written to its end if its namespace is in scope and its contents raise nothing.
Then the scope is what it was before.
-/

namespace ConnectSDK

section Lookup

variable {dictionary : Dictionary String String} {related : String → String → Prop}
  (agree : ∀ key value, dictionary.lookup key = some value ↔ related key value)

include agree

theorem lookup_insert_iff {key : String} (fresh : ∀ value, ¬ related key value)
    (value other otherValue : String) :
    (dictionary.insert key value).lookup other = some otherValue ↔
      related other otherValue ∨ other = key ∧ otherValue = value := by
  rw [Dictionary.lookup_insert_eq]
  by_cases same : other = key
  · subst same
    rw [if_pos rfl, Option.some_inj, eq_comm]
    simp only [fresh, true_and, false_or]
  · rw [if_neg same, agree]
    simp only [same, false_and, or_false]

theorem lookup_erase_iff (key other otherValue : String) :
    (dictionary.erase key).lookup other = some otherValue ↔
      other ≠ key ∧ related other otherValue := by
  rw [Dictionary.lookup_erase_eq]
  by_cases same : other = key
  · rw [if_pos same]
    exact iff_of_false nofun fun kept => kept.1 same
  · rw [if_neg same, agree]
    exact (and_iff_right same).symm

end Lookup

namespace XMLWriter

/-- A prefix and its namespace. -/
abbrev Binding := String × String

def xmlnsBinding : Binding := (xmlnsNamespaceURIPrefix, xmlnsNamespaceURI)

/-- The maps and the arrays of the writer stand for the bindings, the oldest first. -/
structure Binds (bindings : List Binding) (writer : XMLWriter) : Prop where
  uris : writer.namespaceURIs = bindings.map Prod.snd
  written : writer.namespaceWritten.length = bindings.length
  prefixOf (namespacePrefix namespaceURI : String) :
    writer.namespaceURIPrefixMap.lookup namespaceURI = some namespacePrefix ↔
      (namespacePrefix, namespaceURI) ∈ bindings
  uriOf (namespacePrefix namespaceURI : String) :
    writer.prefixNamespaceURIMap.lookup namespacePrefix = some namespaceURI ↔
      (namespacePrefix, namespaceURI) ∈ bindings
  distinct : bindings.Nodup

/-- What a writer is in the midst of: its level, its elements, the counts of its namespaces, and the
bindings in scope, among them the one that declares others. -/
structure Within (isOpen : Bool) (level : Nat) (elements : List StackedElement)
    (counts : List Nat) (bindings : List Binding) (writer : XMLWriter) : Prop where
  openElement : writer.openElement = isOpen
  level : writer.level = level
  elements : writer.elements = elements
  counts : writer.namespaceCounts = counts
  binds : writer.Binds bindings
  declares : xmlnsBinding ∈ bindings

/-- The start tag of the innermost element is open, or is closed and has counted the
bindings. -/
def Inside (level : Nat) (elements : List StackedElement) (counts : List Nat)
    (bindings : List Binding) (writer : XMLWriter) : Prop :=
  writer.Within true level elements counts bindings ∨
    writer.Within false level elements (bindings.length :: counts) bindings

theorem Within.inside {level : Nat} {elements : List StackedElement} {counts : List Nat}
    {bindings : List Binding} {writer : XMLWriter}
    (within : writer.Within true level elements counts bindings) :
    writer.Inside level elements counts bindings :=
  .inl within

/-! ## Text -/

variable {isOpen : Bool} {level : Nat} {elements : List StackedElement} {counts : List Nat}
  {bindings : List Binding} {writer : XMLWriter}

theorem Binds.of_same (binds : writer.Binds bindings) {other : XMLWriter}
    (uris : other.namespaceURIs = writer.namespaceURIs)
    (written : other.namespaceWritten.length = writer.namespaceWritten.length)
    (prefixes : other.namespaceURIPrefixMap = writer.namespaceURIPrefixMap)
    (namespaces : other.prefixNamespaceURIMap = writer.prefixNamespaceURIMap) :
    other.Binds bindings where
  uris := uris.trans binds.uris
  written := written.trans binds.written
  prefixOf namespacePrefix namespaceURI := by
    rw [prefixes]
    exact binds.prefixOf namespacePrefix namespaceURI
  uriOf namespacePrefix namespaceURI := by
    rw [namespaces]
    exact binds.uriOf namespacePrefix namespaceURI
  distinct := binds.distinct

/-- What only adds text stays within the same scope. -/
theorem Within.of_text (within : writer.Within isOpen level elements counts bindings)
    (text : String) :
    { writer with writer := text }.Within isOpen level elements counts bindings where
  openElement := within.openElement
  level := within.level
  elements := within.elements
  counts := within.counts
  binds := within.binds.of_same rfl rfl rfl rfl
  declares := within.declares

theorem Within.indented (within : writer.Within isOpen level elements counts bindings) :
    writer.writeLinebreak.writeIndentation.Within isOpen level elements counts bindings := by
  have broken : writer.writeLinebreak.Within isOpen level elements counts bindings := by
    unfold writeLinebreak
    split
    · exact within
    · exact within.of_text _
  unfold writeIndentation
  split
  · exact broken
  · exact broken.of_text _

theorem writePrefix_text {namespaceURI : Option String}
    (known : ∀ uri ∈ namespaceURI, (writer.namespaceURIPrefixMap.lookup uri).isSome = true) :
    ∃ text, writer.writePrefix namespaceURI = some { writer with writer := text } := by
  cases namespaceURI with
  | none => exact ⟨writer.writer, rfl⟩
  | some uri =>
      rcases Option.isSome_iff_exists.mp (known uri rfl) with ⟨namespacePrefix, found⟩
      rw [writePrefix, found]
      by_cases default : namespacePrefix = ""
      · exact ⟨writer.writer, congrArg some (if_pos default)⟩
      · exact ⟨_, congrArg some (if_neg default)⟩

theorem writeNamespaceToStream_text (opened : writer.openElement = true)
    (declares : (writer.namespaceURIPrefixMap.lookup xmlnsNamespaceURI).isSome = true)
    (namespacePrefix : Option String) (namespaceURI : String) :
    ∃ text, writer.writeNamespaceToStream namespacePrefix namespaceURI =
      some { writer with writer := text } := by
  rcases Option.isSome_iff_exists.mp declares with ⟨xmlnsPrefix, found⟩
  rw [writeNamespaceToStream, if_pos opened, found, Option.bind_eq_bind, Option.bind_some]
  dsimp only
  cases namespacePrefix with
  | none => exact ⟨_, rfl⟩
  | some namespacePrefix =>
      dsimp only
      split <;> exact ⟨_, rfl⟩

/-! ## Namespaces -/

theorem Binds.length_eq (binds : writer.Binds bindings) :
    writer.namespaceURIs.length = bindings.length := by
  rw [binds.uris, List.length_map]

theorem Binds.isSome_lookup_iff (binds : writer.Binds bindings) (namespaceURI : String) :
    (writer.namespaceURIPrefixMap.lookup namespaceURI).isSome = true ↔
      namespaceURI ∈ bindings.map Prod.snd := by
  rw [Option.isSome_iff_exists, List.mem_map]
  constructor
  · rintro ⟨namespacePrefix, found⟩
    exact ⟨_, (binds.prefixOf _ _).mp found, rfl⟩
  · rintro ⟨binding, member, rfl⟩
    exact ⟨binding.1, (binds.prefixOf _ _).mpr member⟩

theorem Binds.isSome_lookup_prefix_iff (binds : writer.Binds bindings)
    (namespacePrefix : String) :
    (writer.prefixNamespaceURIMap.lookup namespacePrefix).isSome = true ↔
      namespacePrefix ∈ bindings.map Prod.fst := by
  rw [Option.isSome_iff_exists, List.mem_map]
  constructor
  · rintro ⟨namespaceURI, found⟩
    exact ⟨_, (binds.uriOf _ _).mp found, rfl⟩
  · rintro ⟨binding, member, rfl⟩
    exact ⟨binding.2, (binds.uriOf _ _).mpr member⟩

theorem Within.isSome_lookup_xmlns (within : writer.Within isOpen level elements counts bindings) :
    (writer.namespaceURIPrefixMap.lookup xmlnsNamespaceURI).isSome = true :=
  (within.binds.isSome_lookup_iff _).mpr (List.mem_map_of_mem within.declares)

theorem mem_append_binding {other : Binding} {namespacePrefix namespaceURI : String} :
    other ∈ bindings ++ [(namespacePrefix, namespaceURI)] ↔
      other ∈ bindings ∨ other.1 = namespacePrefix ∧ other.2 = namespaceURI := by
  rw [List.mem_append, List.mem_singleton, Prod.ext_iff]

theorem Binds.append (binds : writer.Binds bindings) {namespacePrefix namespaceURI : String}
    (freshPrefix : namespacePrefix ∉ bindings.map Prod.fst)
    (freshURI : namespaceURI ∉ bindings.map Prod.snd) (written : Bool) :
    { writer.addPrefixMapping namespacePrefix namespaceURI with
      namespaceWritten := writer.namespaceWritten ++ [written] }.Binds
      (bindings ++ [(namespacePrefix, namespaceURI)]) where
  uris := by
    rw [addPrefixMapping, binds.uris, List.map_append]
    rfl
  written := by
    rw [List.length_append, List.length_append, binds.written]
    rfl
  prefixOf otherPrefix otherURI := by
    have fresh (value : String) : (value, namespaceURI) ∉ bindings :=
      fun member => freshURI (List.mem_map_of_mem member)
    rw [mem_append_binding, and_comm]
    exact lookup_insert_iff (fun uri value => binds.prefixOf value uri) fresh _ _ _
  uriOf otherPrefix otherURI := by
    have fresh (value : String) : (namespacePrefix, value) ∉ bindings :=
      fun member => freshPrefix (List.mem_map_of_mem member)
    rw [mem_append_binding]
    exact lookup_insert_iff binds.uriOf fresh _ _ _
  distinct := by
    apply List.Nodup.append binds.distinct (List.nodup_singleton _)
    rw [List.disjoint_singleton]
    exact fun member => freshURI (List.mem_map_of_mem member)

theorem completing_setPrefix {namespacePrefix namespaceURI : String}
    (freshPrefix : namespacePrefix ∉ bindings.map Prod.fst)
    (freshURI : namespaceURI ∉ bindings.map Prod.snd) :
    Completing (Within isOpen level elements counts bindings)
      (fun writer => writer.setPrefix namespacePrefix namespaceURI)
      (Within isOpen level elements counts (bindings ++ [(namespacePrefix, namespaceURI)])) := by
  intro writer within
  have unknownURI := mt (within.binds.isSome_lookup_iff namespaceURI).mp freshURI
  have unknownPrefix := mt (within.binds.isSome_lookup_prefix_iff namespacePrefix).mp freshPrefix
  have bound :
      { writer.addPrefixMapping namespacePrefix namespaceURI with
        namespaceWritten := writer.namespaceWritten ++ [writer.openElement] }.Within
        isOpen level elements counts (bindings ++ [(namespacePrefix, namespaceURI)]) :=
    { openElement := within.openElement
      level := within.level
      elements := within.elements
      counts := within.counts
      binds := within.binds.append freshPrefix freshURI writer.openElement
      declares := List.mem_append_left _ within.declares }
  dsimp only
  rw [setPrefix, if_neg unknownURI, if_neg unknownPrefix]
  dsimp only
  by_cases opened : (writer.addPrefixMapping namespacePrefix namespaceURI).openElement = true
  · rw [if_pos opened]
    have wrote :
        ∃ text, (writer.addPrefixMapping namespacePrefix namespaceURI).writeNamespaceToStream
            (some namespacePrefix) namespaceURI =
          some { writer.addPrefixMapping namespacePrefix namespaceURI with writer := text } :=
      writeNamespaceToStream_text opened bound.isSome_lookup_xmlns _ _
    rcases wrote with ⟨text, wrote⟩
    rw [wrote]
    exact ⟨_, rfl, bound.of_text text⟩
  · rw [if_neg opened]
    exact ⟨_, rfl, bound⟩

theorem completing_writeNamespaceAttribute {index : Nat} (inside : index < bindings.length) :
    Completing (Within true level elements counts bindings)
      (fun writer => writer.writeNamespaceAttribute index)
      (Within true level elements counts bindings) := by
  intro writer within
  have writtenBound : index < writer.namespaceWritten.length := by
    rw [within.binds.written]
    exact inside
  have uriBound : index < writer.namespaceURIs.length := by
    rw [within.binds.length_eq]
    exact inside
  dsimp only
  rw [writeNamespaceAttribute, List.getElem?_eq_getElem writtenBound,
    List.getElem?_eq_getElem uriBound, Option.bind_eq_bind, Option.bind_some]
  by_cases written : writer.namespaceWritten[index] = true
  · exact ⟨writer, if_pos written, within⟩
  · rcases writeNamespaceToStream_text within.openElement within.isSome_lookup_xmlns
      (writer.namespaceURIPrefixMap.lookup writer.namespaceURIs[index])
      writer.namespaceURIs[index] with ⟨text, wrote⟩
    rw [if_neg written, Option.bind_eq_bind, Option.bind_some, wrote]
    refine ⟨_, rfl, ?_⟩
    exact
      { openElement := within.openElement
        level := within.level
        elements := within.elements
        counts := within.counts
        binds := within.binds.of_same rfl List.length_set rfl rfl
        declares := within.declares }

theorem completing_writeNamespaceAttributes :
    Completing (Within true level elements counts bindings) writeNamespaceAttributes
      (Within true level elements counts bindings) := by
  intro writer within
  rw [writeNamespaceAttributes, if_pos within.openElement]
  refine Completing.foldlM (fun index member => ?_) writer within
  apply completing_writeNamespaceAttribute
  rcases List.mem_range'_1.mp member with ⟨_, less⟩
  rw [within.binds.length_eq] at less
  omega

theorem Binds.eq_of_uri (binds : writer.Binds bindings) {one other : Binding}
    (member : one ∈ bindings) (otherMember : other ∈ bindings) (same : one.2 = other.2) :
    one = other := by
  have found := (binds.prefixOf one.1 one.2).mpr member
  rw [same, (binds.prefixOf other.1 other.2).mpr otherMember] at found
  exact Prod.ext (Option.some.inj found).symm same

theorem Binds.eq_of_prefix (binds : writer.Binds bindings) {one other : Binding}
    (member : one ∈ bindings) (otherMember : other ∈ bindings) (same : one.1 = other.1) :
    one = other := by
  have found := (binds.uriOf one.1 one.2).mpr member
  rw [same, (binds.uriOf other.1 other.2).mpr otherMember] at found
  exact Prod.ext same (Option.some.inj found).symm

theorem Binds.last_not_mem {kept : List Binding} {last : Binding}
    (binds : writer.Binds (kept ++ [last])) : last ∉ kept :=
  List.disjoint_singleton.mp (List.disjoint_of_nodup_append binds.distinct)

theorem mem_kept_iff {kept : List Binding} {last other : Binding} {apart : Prop}
    (removed : other = last → ¬ apart) (stays : other ∈ kept → apart) :
    apart ∧ other ∈ kept ++ [last] ↔ other ∈ kept := by
  rw [List.mem_append, List.mem_singleton]
  constructor
  · rintro ⟨holds, member | same⟩
    · exact member
    · exact absurd holds (removed same)
  · exact fun member => ⟨stays member, .inl member⟩

theorem Binds.removed {kept : List Binding} {last : Binding}
    (binds : writer.Binds (kept ++ [last])) :
    { writer with
      namespaceURIs := writer.namespaceURIs.dropLast
      namespaceWritten := writer.namespaceWritten.dropLast
      namespaceURIPrefixMap := writer.namespaceURIPrefixMap.erase last.2
      prefixNamespaceURIMap := writer.prefixNamespaceURIMap.erase last.1 }.Binds kept where
  uris := by
    rw [binds.uris, List.map_append]
    exact List.dropLast_concat
  written := by
    rw [List.length_dropLast, binds.written, List.length_append]
    rfl
  prefixOf otherPrefix otherURI := by
    rw [lookup_erase_iff (fun uri value => binds.prefixOf value uri)]
    apply mem_kept_iff
    · exact fun same apart => apart (congrArg Prod.snd same)
    · exact fun member same => binds.last_not_mem (binds.eq_of_uri
        (List.mem_append_left _ member) (List.mem_append_right _ List.mem_cons_self) same ▸ member)
  uriOf otherPrefix otherURI := by
    rw [lookup_erase_iff binds.uriOf]
    apply mem_kept_iff
    · exact fun same apart => apart (congrArg Prod.fst same)
    · exact fun member same => binds.last_not_mem (binds.eq_of_prefix
        (List.mem_append_left _ member) (List.mem_append_right _ List.mem_cons_self) same ▸ member)
  distinct := binds.distinct.of_append_left

/-- The round removes the newest binding. -/
theorem completing_removeNamespace {kept : List Binding} {last : Binding}
    (declared : xmlnsBinding ∈ kept) :
    Completing (Within isOpen level elements counts (kept ++ [last]))
      (fun writer => writer.removeNamespace kept.length)
      (Within isOpen level elements counts kept) := by
  intro writer within
  have newest : writer.namespaceURIs[kept.length]? = some last.2 := by
    rw [within.binds.uris, List.map_append]
    simp
  have found : writer.namespaceURIPrefixMap.lookup last.2 = some last.1 :=
    (within.binds.prefixOf last.1 last.2).mpr (List.mem_append_right _ List.mem_cons_self)
  dsimp only
  rw [removeNamespace, newest, Option.bind_eq_bind, Option.bind_some, found]
  exact ⟨_, rfl,
    { openElement := within.openElement
      level := within.level
      elements := within.elements
      counts := within.counts
      binds := within.binds.removed
      declares := declared }⟩

theorem completing_removeNamespaces {kept : List Binding} (declared : xmlnsBinding ∈ kept)
    (extra : List Binding) :
    Completing (Within isOpen level elements counts (kept ++ extra))
      (fun writer => (List.range' kept.length extra.length).reverse.foldlM removeNamespace writer)
      (Within isOpen level elements counts kept) := by
  induction extra using List.reverseRecOn with
  | nil =>
      rw [List.append_nil]
      exact Completing.skip
  | append_singleton extra last induction =>
      have rounds : (List.range' kept.length (extra ++ [last]).length).reverse =
          (kept ++ extra).length :: (List.range' kept.length extra.length).reverse := by
        rw [List.length_append, List.length_append, List.length_singleton,
          List.range'_1_concat, List.reverse_append]
        rfl
      rw [rounds, ← List.append_assoc]
      simp only [List.foldlM_cons]
      exact Completing.bind (completing_removeNamespace (List.mem_append_left _ declared))
        induction

theorem completing_popNamespaceStack {kept : List Binding} (declared : xmlnsBinding ∈ kept)
    (extra : List Binding) :
    Completing
      (Within isOpen level elements ((kept ++ extra).length :: kept.length :: counts) (kept ++ extra))
      popNamespaceStack (Within isOpen level elements (kept.length :: counts) kept) := by
  intro writer within
  have count : (kept ++ extra).length - kept.length = extra.length := by
    rw [List.length_append]
    omega
  rcases completing_removeNamespaces declared extra writer within with ⟨next, removed, left⟩
  rw [popNamespaceStack, within.counts]
  dsimp only at removed ⊢
  rw [count, removed]
  exact ⟨_, rfl,
    { openElement := left.openElement
      level := left.level
      elements := left.elements
      counts := rfl
      binds := left.binds.of_same rfl rfl rfl rfl
      declares := left.declares }⟩

/-! ## Elements -/

theorem completing_writeCloseElement (empty : Bool) :
    Completing (Within true level elements counts bindings)
      (fun writer => writer.writeCloseElement empty)
      (Within false level elements (bindings.length :: counts) bindings) := by
  refine Completing.bind completing_writeNamespaceAttributes (Completing.update ?_)
  intro writer within
  exact
    { openElement := rfl
      level := within.level
      elements := within.elements
      counts := congrArg₂ List.cons within.binds.length_eq within.counts
      binds := within.binds.of_same rfl rfl rfl rfl
      declares := within.declares }

theorem completing_closeOpenElement :
    Completing (Inside level elements counts bindings) closeOpenElement
      (Within false level elements (bindings.length :: counts) bindings) := by
  rintro writer (opened | closed)
  · rw [closeOpenElement, if_pos opened.openElement]
    exact completing_writeCloseElement false writer opened
  · rw [closeOpenElement, if_neg (by rw [closed.openElement]; exact Bool.false_ne_true)]
    exact ⟨writer, rfl, closed⟩

theorem completing_closeOpenElement_closed :
    Completing (Within false level elements counts bindings) closeOpenElement
      (Within false level elements counts bindings) := by
  intro writer within
  rw [closeOpenElement, if_neg (by rw [within.openElement]; exact Bool.false_ne_true)]
  exact ⟨writer, rfl, within⟩

/-- The namespace, if there is one, is in scope. -/
def Knows (bindings : List Binding) (namespaceURI : Option String) : Prop :=
  ∀ uri ∈ namespaceURI, uri ∈ bindings.map Prod.snd

theorem knows_none : Knows bindings none := by
  intro uri member
  cases member

theorem knows_some {namespaceURI : String} (member : namespaceURI ∈ bindings.map Prod.snd) :
    Knows bindings (some namespaceURI) := by
  intro uri same
  cases same
  exact member

theorem completing_writePrefix {namespaceURI : Option String}
    (known : Knows bindings namespaceURI) :
    Completing (Within isOpen level elements counts bindings)
      (fun writer => writer.writePrefix namespaceURI)
      (Within isOpen level elements counts bindings) := by
  intro writer within
  rcases writePrefix_text fun uri member =>
    (within.binds.isSome_lookup_iff uri).mpr (known uri member) with ⟨text, wrote⟩
  exact ⟨_, wrote, within.of_text text⟩

theorem completing_writeStartElement {before : XMLWriter → Prop} {namespaceURI : Option String}
    (closes : Completing before closeOpenElement
      (Within false level elements counts bindings))
    (known : Knows bindings namespaceURI) (localName : String) :
    Completing before
      (fun writer => writer.writeStartElementWithNamespace namespaceURI localName)
      (Within true (level + 1) ({ namespaceURI, localName } :: elements) counts bindings) := by
  refine Completing.bind closes fun writer within => ?_
  refine Completing.bind (completing_writePrefix known) (Completing.update ?_) _
    (within.indented.of_text _)
  intro writer within
  exact
    { openElement := rfl
      level := congrArg Nat.succ within.level
      elements := congrArg (List.cons _) within.elements
      counts := within.counts
      binds := within.binds.of_same rfl rfl rfl rfl
      declares := within.declares }

theorem completing_endContents :
    Completing (Inside level elements counts bindings) endContents
      (Within false level elements (bindings.length :: counts) bindings) := by
  rintro writer (opened | closed)
  · rw [endContents, if_pos opened.openElement]
    exact completing_writeCloseElement false writer opened
  · rw [endContents, if_neg (by rw [closed.openElement]; exact Bool.false_ne_true)]
    by_cases empty : writer.emptyElement = true
    · exact ⟨_, if_pos empty, closed.indented⟩
    · exact ⟨_, if_neg empty, closed⟩

theorem Inside.of_level (inside : writer.Inside (level + 1) elements counts bindings) :
    { writer with level := writer.level - 1 }.Inside level elements counts bindings := by
  have lower {isOpen : Bool} {counts : List Nat}
      (within : writer.Within isOpen (level + 1) elements counts bindings) :
      { writer with level := writer.level - 1 }.Within isOpen level elements counts bindings :=
    { openElement := within.openElement
      level := congrArg Nat.pred within.level
      elements := within.elements
      counts := within.counts
      binds := within.binds.of_same rfl rfl rfl rfl
      declares := within.declares }
  exact inside.imp lower lower

theorem completing_writeEndElementWithNamespace {element : StackedElement}
    {kept extra : List Binding} (declared : xmlnsBinding ∈ kept)
    (known : Knows (kept ++ extra) element.namespaceURI) :
    Completing (Inside (level + 1) (element :: elements) (kept.length :: counts) (kept ++ extra))
      (fun writer =>
        writer.writeEndElementWithNamespace element.namespaceURI element.localName)
      (Within false level elements (kept.length :: counts) kept) := by
  intro writer inside
  have atLevel : writer.level = level + 1 := inside.elim Within.level Within.level
  dsimp only
  rw [writeEndElementWithNamespace, if_neg (by rw [atLevel]; exact Nat.succ_ne_zero level)]
  refine Completing.bind completing_endContents ?_ _ inside.of_level
  intro writer within
  refine Completing.bind (completing_writePrefix known) ?_ _ (within.of_text _)
  intro writer within
  refine Completing.bind (completing_popNamespaceStack declared extra) (Completing.update ?_) _
    ((within.of_text _).of_text _)
  intro writer within
  exact
    { openElement := rfl
      level := within.level
      elements := congrArg List.tail within.elements
      counts := within.counts
      binds := within.binds.of_same rfl rfl rfl rfl
      declares := within.declares }

theorem completing_writeEndElement {element : StackedElement} {kept extra : List Binding}
    (declared : xmlnsBinding ∈ kept) (known : Knows (kept ++ extra) element.namespaceURI) :
    Completing (Inside (level + 1) (element :: elements) (kept.length :: counts) (kept ++ extra))
      writeEndElement (Within false level elements (kept.length :: counts) kept) := by
  intro writer inside
  have stacked : writer.elements = element :: elements :=
    inside.elim Within.elements Within.elements
  rw [writeEndElement, stacked]
  dsimp only
  by_cases empties : (writer.openElement && writer.automaticEmptyElements) = true
  · rw [if_pos empties]
    rw [Bool.and_eq_true] at empties
    rcases inside with opened | closed
    · refine Completing.bind (completing_writeCloseElement true)
        (Completing.bind (completing_popNamespaceStack declared extra)
          (Completing.update ?_)) writer opened
      intro writer within
      exact
        { openElement := rfl
          level := congrArg Nat.pred within.level
          elements := rfl
          counts := within.counts
          binds := within.binds.of_same rfl rfl rfl rfl
          declares := within.declares }
    · rw [closed.openElement] at empties
      cases empties.1
  · rw [if_neg empties]
    exact completing_writeEndElementWithNamespace declared known writer inside

/-- An element around contents that may bind more. Its end leaves the bindings that were
counted when its start was written: for the root those that were set before a document. -/
theorem completing_element {kept final : List Binding} {before : XMLWriter → Prop}
    {namespaceURI : Option String} {elementName : String}
    {writerBlock : XMLWriter → Option XMLWriter}
    (closes : Completing before closeOpenElement
      (Within false level elements (kept.length :: counts) bindings))
    (known : Knows bindings namespaceURI) (declared : xmlnsBinding ∈ kept)
    (keeps : kept <+: bindings) (more : bindings <+: final)
    (contents : Completing
      (Within true (level + 1) ({ namespaceURI, localName := elementName } :: elements)
        (kept.length :: counts) bindings) writerBlock
      (Inside (level + 1) ({ namespaceURI, localName := elementName } :: elements)
        (kept.length :: counts) final)) :
    Completing before
      (fun writer => writer.writeElementWithBlock elementName namespaceURI writerBlock)
      (Within false level elements (kept.length :: counts) kept) := by
  have stillKnown : Knows final namespaceURI :=
    fun uri member => List.map_subset Prod.snd more.subset (known uri member)
  rcases keeps.trans more with ⟨extra, rfl⟩
  exact Completing.bind (completing_writeStartElement closes known elementName)
    (Completing.bind contents (completing_writeEndElement declared stillKnown))

theorem completing_writeElementWithBlock {final : List Binding} {namespaceURI : Option String}
    {elementName : String} {writerBlock : XMLWriter → Option XMLWriter}
    (known : Knows bindings namespaceURI) (more : bindings <+: final)
    (contents : Completing
      (Within true (level + 1) ({ namespaceURI, localName := elementName } :: elements)
        (bindings.length :: counts) bindings) writerBlock
      (Inside (level + 1) ({ namespaceURI, localName := elementName } :: elements)
        (bindings.length :: counts) final)) :
    Completing (Inside level elements counts bindings)
      (fun writer => writer.writeElementWithBlock elementName namespaceURI writerBlock)
      (Inside level elements counts bindings) := by
  intro writer inside
  have declared : xmlnsBinding ∈ bindings := inside.elim Within.declares Within.declares
  exact (completing_element completing_closeOpenElement known declared List.prefix_rfl more
    contents).to_weaker (fun _ => Or.inr) writer inside

/-! ## Contents -/

theorem completing_writeAttributeWithNamespace {namespaceURI : Option String}
    (known : Knows bindings namespaceURI) (localName value : String) :
    Completing (Within true level elements counts bindings)
      (fun writer => writer.writeAttributeWithNamespace namespaceURI localName value)
      (Within true level elements counts bindings) := by
  intro writer within
  dsimp only
  rw [writeAttributeWithNamespace, if_pos within.openElement]
  refine Completing.bind (completing_writePrefix known) (Completing.update ?_) _
    (within.of_text _)
  exact fun writer within => (((within.of_text _).of_text _).of_text _).of_text _

theorem completing_writeAttribute (localName value : String) :
    Completing (Within true level elements counts bindings)
      (fun writer => writer.writeAttribute localName value)
      (Within true level elements counts bindings) :=
  completing_writeAttributeWithNamespace knows_none localName value

theorem completing_writeAttributes (attributes : Dictionary String String) :
    Completing (Within true level elements counts bindings)
      (fun writer => writer.writeAttributes attributes)
      (Within true level elements counts bindings) :=
  Completing.foldlM fun entry _ => completing_writeAttribute entry.1 entry.2

theorem completing_writeCharacters (text : String) :
    Completing (Inside level elements counts bindings)
      (fun writer => writer.writeCharacters text)
      (Inside level elements counts bindings) := by
  refine Completing.bind completing_closeOpenElement (Completing.update ?_)
  intro writer within
  exact .inr
    { openElement := within.openElement
      level := within.level
      elements := within.elements
      counts := within.counts
      binds := within.binds.of_same rfl rfl rfl rfl
      declares := within.declares }

theorem completing_writeElement {namespaceURI : Option String}
    (known : Knows bindings namespaceURI) (elementName contents : String) :
    Completing (Inside level elements counts bindings)
      (fun writer => writer.writeElement elementName namespaceURI contents)
      (Inside level elements counts bindings) :=
  completing_writeElementWithBlock known List.prefix_rfl
    ((completing_writeCharacters contents).of_stronger fun _ => Within.inside)

/-! ## Documents -/

def initialBindings : List Binding := [(xmlNamespaceURIPrefix, xmlNamespaceURI), xmlnsBinding]

theorem binds_empty : ({ namespaceCounts := [2] } : XMLWriter).Binds [] where
  uris := rfl
  written := rfl
  prefixOf _ _ := iff_of_false nofun List.not_mem_nil
  uriOf _ _ := iff_of_false nofun List.not_mem_nil
  distinct := List.nodup_nil

theorem init_within :
    ∃ writer, init = some writer ∧ writer.writer = "" ∧
      writer.Within false 0 [] [initialBindings.length] initialBindings := by
  have xmlns :
      xmlnsNamespaceURIPrefix ∉ [(xmlNamespaceURIPrefix, xmlNamespaceURI)].map Prod.fst ∧
        xmlnsNamespaceURI ∉ [(xmlNamespaceURIPrefix, xmlNamespaceURI)].map Prod.snd := by
    decide
  exact ⟨_, rfl, rfl,
    { openElement := rfl
      level := rfl
      elements := rfl
      counts := rfl
      binds := (binds_empty.append List.not_mem_nil List.not_mem_nil false).append
        xmlns.1 xmlns.2 false
      declares := List.mem_cons_of_mem _ List.mem_cons_self }⟩

theorem completing_writeStartDocument {encoding version : Option String} :
    Completing
      (fun writer => writer.writer = "" ∧ writer.Within isOpen level elements counts bindings)
      (fun writer => writer.writeStartDocumentWithEncodingAndVersion encoding version)
      (Within isOpen level elements counts bindings) := by
  rintro writer ⟨empty, within⟩
  dsimp only
  rw [writeStartDocumentWithEncodingAndVersion, if_neg (not_not.mpr empty)]
  cases encoding with
  | none => exact ⟨_, rfl, within.of_text _⟩
  | some encoding => exact ⟨_, rfl, within.of_text _⟩

end XMLWriter

end ConnectSDK
