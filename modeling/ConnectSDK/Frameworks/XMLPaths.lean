import Mathlib.Data.List.Forall2
import ConnectSDK.Frameworks.XMLDictionaries

/-! # Texts of a document by their paths

The documents that devices send keep their texts in elements that hold nothing else. The
dictionary of such a document gives the text of every element under its path.
-/

namespace ConnectSDK

open Collections

namespace CTXMLReader

/-! ## Elements and their texts -/

def isNamed (name : String) : XML.Item → Bool
  | .character _ => false
  | .element other _ _ => decide (String.ofList other = name)

def contentOf : XML.Item → List XML.Item
  | .character _ => []
  | .element _ _ content => content

/-- The elements below an item under the names of a path, in the order of the document. -/
def elementsAt : List String → XML.Item → List XML.Item
  | [], item => [item]
  | name :: path, item => ((contentOf item).filter (isNamed name)).flatMap (elementsAt path)

def character? : XML.Item → Option Char
  | .character c => some c
  | .element _ _ _ => none

/-- The text right below an item, without the white space around it. -/
def textBelow (item : XML.Item) : String :=
  String.ofList (trimmed ((contentOf item).filterMap character?))

/-- Every element holds either a text or elements, with nothing but white space between them.
The key that texts are put under names no element or attribute. -/
inductive IsData : XML.Item → Prop where
  | text {name : List Char} {attributes : List (List Char × List Char)} (characters : List Char)
      (free : (attributeFields attributes).lookup kCTXMLReaderTextNodeKey = none) :
      IsData (.element name attributes (characters.map XML.Item.character))
  | elements {name : List Char} {attributes : List (List Char × List Char)}
      {content : List XML.Item}
      (free : (attributeFields attributes).lookup kCTXMLReaderTextNodeKey = none)
      (spaces : ∀ c, XML.Item.character c ∈ content → XML.isSpace c = true)
      (named : ∀ item ∈ content, isNamed kCTXMLReaderTextNodeKey item = false)
      (data : ∀ name attributes inner, XML.Item.element name attributes inner ∈ content →
        IsData (.element name attributes inner)) :
      IsData (.element name attributes content)

/-! ## Dictionaries and their texts -/

def isDictionary : JSON → Bool
  | .object _ => true
  | _ => false

/-- The dictionaries under a key, which are one or those of an array. -/
def dictionariesNamed (name : String) (json : JSON) : List JSON :=
  match json.value? name with
  | some (.array elements) => elements.filter isDictionary
  | some value => [value].filter isDictionary
  | none => []

def dictionariesAt : List String → JSON → List JSON
  | [], json => [json]
  | name :: path, json => (dictionariesNamed name json).flatMap (dictionariesAt path)

/-- The text of a dictionary, which is left out where it is empty. -/
def textOf (json : JSON) : String :=
  ((json.value? kCTXMLReaderTextNodeKey).bind JSON.string?).getD ""

/-! ## Elements and dictionaries -/

/-- The dictionary of an element before whose start tag the text waits. -/
def elementDictionary (waiting : String) : XML.Item → JSON
  | .character _ => .null
  | .element _ attributes content =>
      let inner := addItems content (attributeFields attributes, waiting)
      .object (withText inner.1 inner.2)

def IsBlank (text : String) : Prop :=
  ∀ c ∈ text.toList, isWhitespaceOrNewline c = true

theorem isBlank_empty : IsBlank "" :=
  nofun

theorem IsBlank.push {text : String} (blank : IsBlank text) {c : Char}
    (space : isWhitespaceOrNewline c = true) : IsBlank (text.push c) := by
  intro other member
  rw [String.toList_push, List.mem_append, List.mem_singleton] at member
  rcases member with before | rfl
  · exact blank other before
  · exact space

theorem isWhitespaceOrNewline_of_isSpace {c : Char} (space : XML.isSpace c = true) :
    isWhitespaceOrNewline c = true := by
  unfold XML.isSpace at space
  simp only [Bool.or_eq_true, beq_iff_eq] at space
  rcases space with ((rfl | rfl) | rfl) | rfl <;> rfl

theorem lookup_addElement {name other : String} (child : JSON) (fields : JSON.Fields)
    (different : other ≠ name) :
    (addElement name child fields).lookup other = fields.lookup other := by
  unfold addElement
  split <;> rw [lookup_setObject, if_neg different]

/-- A new element is the last of its name. -/
theorem dictionariesNamed_addElement (name other : String) (child fields : JSON.Fields) :
    dictionariesNamed other (.object (addElement name (.object child) fields)) =
      dictionariesNamed other (.object fields) ++ if other = name then [.object child] else [] := by
  unfold dictionariesNamed
  rw [JSON.value?_object, JSON.value?_object, JSON.Fields.value?, JSON.Fields.value?]
  by_cases same : other = name
  · subst same
    rw [if_pos rfl]
    unfold addElement
    cases held : fields.lookup other with
    | none =>
        dsimp only
        rw [lookup_setObject, if_pos rfl]
        rfl
    | some existing =>
        cases existing with
        | array elements =>
            dsimp only
            rw [lookup_setObject, if_pos rfl]
            exact List.filter_append elements [.object child]
        | null => dsimp only; rw [lookup_setObject, if_pos rfl]; rfl
        | bool value => dsimp only; rw [lookup_setObject, if_pos rfl]; rfl
        | number value => dsimp only; rw [lookup_setObject, if_pos rfl]; rfl
        | string value => dsimp only; rw [lookup_setObject, if_pos rfl]; rfl
        | object value => dsimp only; rw [lookup_setObject, if_pos rfl]; rfl
  · rw [lookup_addElement _ _ same, if_neg same, List.append_nil]

/-- What the content of an element that holds elements adds to its dictionary. -/
structure Adds (content : List XML.Item) (before after : JSON.Fields × String) : Prop where
  blank : IsBlank after.2
  text : after.1.lookup kCTXMLReaderTextNodeKey = before.1.lookup kCTXMLReaderTextNodeKey
  dictionaries : ∀ name, ∃ values,
    dictionariesNamed name (.object after.1) = dictionariesNamed name (.object before.1) ++ values ∧
      List.Forall₂ (fun value item => ∃ waiting, IsBlank waiting ∧
        value = elementDictionary waiting item) values (content.filter (isNamed name))

theorem adds_addItems : ∀ {content : List XML.Item} {fields : JSON.Fields} {waiting : String},
    (∀ c, XML.Item.character c ∈ content → XML.isSpace c = true) →
    (∀ item ∈ content, isNamed kCTXMLReaderTextNodeKey item = false) → IsBlank waiting →
      Adds content (fields, waiting) (addItems content (fields, waiting))
  | [], _, _, _, _, blank =>
      { blank, text := rfl, dictionaries := fun _ => ⟨[], (List.append_nil _).symm, .nil⟩ }
  | .character c :: content, fields, waiting, spaces, named, blank => by
      have space := isWhitespaceOrNewline_of_isSpace (spaces c List.mem_cons_self)
      have rest : Adds content (fields, waiting.push c)
          (addItems content (fields, waiting.push c)) := adds_addItems
        (fun other member => spaces other (List.mem_cons_of_mem _ member))
        (fun item member => named item (List.mem_cons_of_mem _ member)) (blank.push space)
      rw [addItems, addItem]
      exact { rest with }
  | .element name attributes inner :: content, fields, waiting, spaces, named, blank => by
      have rest : Adds content
          (addElement (String.ofList name)
            (elementDictionary waiting (.element name attributes inner)) fields, "")
          (addItems content (addElement (String.ofList name)
            (elementDictionary waiting (.element name attributes inner)) fields, "")) :=
        adds_addItems (fun other member => spaces other (List.mem_cons_of_mem _ member))
        (fun item member => named item (List.mem_cons_of_mem _ member)) isBlank_empty
      have other : kCTXMLReaderTextNodeKey ≠ String.ofList name := by
        intro equal
        exact of_decide_eq_false (named _ List.mem_cons_self) equal.symm
      rw [addItems, addItem]
      refine ⟨rest.blank, rest.text.trans (lookup_addElement _ _ other), fun key => ?_⟩
      rcases rest.dictionaries key with ⟨values, all, each⟩
      have before := dictionariesNamed_addElement (String.ofList name) key
        (withText (addItems inner (attributeFields attributes, waiting)).1
          (addItems inner (attributeFields attributes, waiting)).2) fields
      by_cases same : key = String.ofList name
      · rw [if_pos same] at before
        refine ⟨elementDictionary waiting (.element name attributes inner) :: values, ?_, ?_⟩
        · exact all.trans ((congrArg (· ++ values) before).trans (List.append_assoc ..))
        · have isNamed : isNamed key (.element name attributes inner) = true :=
            decide_eq_true same.symm
          rw [List.filter_cons_of_pos isNamed]
          exact .cons ⟨waiting, blank, rfl⟩ each
      · rw [if_neg same, List.append_nil] at before
        refine ⟨values, before ▸ all, ?_⟩
        have notNamed : isNamed key (.element name attributes inner) = false :=
          decide_eq_false (Ne.symm same)
        rw [List.filter_cons_of_neg (ne_true_of_eq_false notNamed)]
        exact each

/-! ## Texts -/

theorem trimmed_of_blank {text : List Char} (blank : ∀ c ∈ text, isWhitespaceOrNewline c = true) :
    trimmed text = [] := by
  rw [trimmed, List.dropWhile_eq_nil_iff.mpr blank]
  rfl

/-- White space before a text does not show. -/
theorem trimmed_append {waiting : List Char}
    (blank : ∀ c ∈ waiting, isWhitespaceOrNewline c = true) (text : List Char) :
    trimmed (waiting ++ text) = trimmed text := by
  rw [trimmed, List.dropWhile_append_of_pos blank, trimmed]

theorem textOf_withText {fields : JSON.Fields}
    (free : fields.lookup kCTXMLReaderTextNodeKey = none) (text : String) :
    textOf (.object (withText fields text)) = trimmedString text := by
  rw [textOf, JSON.value?_object, JSON.Fields.value?, withText]
  split
  · rename_i empty
    rw [free, empty]
    rfl
  · rw [lookup_setObject, if_pos rfl]
    rfl

theorem filterMap_characters (text : List Char) :
    (text.map XML.Item.character).filterMap character? = text := by
  rw [List.filterMap_map]
  exact List.filterMap_some

/-- The text of an element with data is that of its dictionary. -/
theorem IsData.textOf_eq {item : XML.Item} (data : IsData item) {waiting : String}
    (blank : IsBlank waiting) : textOf (elementDictionary waiting item) = textBelow item := by
  cases data with
  | @text name attributes characters free =>
      have read : addItems (characters.map XML.Item.character)
          (attributeFields attributes, waiting) =
            (attributeFields attributes, waiting ++ String.ofList characters) := by
        have all := addItems_characters [] (attributeFields attributes) characters waiting
        rwa [List.append_nil] at all
      rw [elementDictionary, read, textOf_withText free, textBelow, contentOf,
        filterMap_characters, trimmedString, String.toList_append, String.toList_ofList,
        trimmed_append blank]
  | @elements name attributes content free spaces named data =>
      have adds : Adds content (attributeFields attributes, waiting)
          (addItems content (attributeFields attributes, waiting)) :=
        adds_addItems spaces named blank
      have blanks : ∀ c ∈ content.filterMap character?, isWhitespaceOrNewline c = true := by
        intro c member
        rcases List.mem_filterMap.mp member with ⟨⟨c'⟩ | _, present, same⟩
        · cases same
          exact isWhitespaceOrNewline_of_isSpace (spaces _ present)
        · cases same
      rw [elementDictionary, textOf_withText (adds.text.trans free), textBelow, contentOf,
        trimmedString, trimmed_of_blank adds.blank, trimmed_of_blank blanks]

theorem dictionariesNamed_attributeFields (name : String) :
    ∀ attributes : List (List Char × List Char),
      dictionariesNamed name (.object (attributeFields attributes)) = []
  | [] => rfl
  | entry :: attributes => by
      have further := dictionariesNamed_attributeFields name attributes
      unfold dictionariesNamed at further ⊢
      rw [JSON.value?_object, attributeFields, List.map_cons, JSON.Fields.value?_cons]
      by_cases same : name = String.ofList entry.1
      · rw [if_pos same]
        rfl
      · rw [if_neg same]
        exact further

/-- The text of a dictionary is not taken for an element. -/
theorem dictionariesNamed_withText {fields : JSON.Fields}
    (free : fields.lookup kCTXMLReaderTextNodeKey = none) (text name : String) :
    dictionariesNamed name (.object (withText fields text)) =
      dictionariesNamed name (.object fields) := by
  unfold withText
  split
  · rfl
  · unfold dictionariesNamed
    rw [JSON.value?_object, JSON.value?_object, JSON.Fields.value?, JSON.Fields.value?,
      lookup_setObject]
    by_cases same : name = kCTXMLReaderTextNodeKey
    · rw [if_pos same, same, free]
      rfl
    · rw [if_neg same]

theorem flatMap_eq_of_forall₂ {R : α → β → Prop} {f : α → List γ} {g : β → List γ}
    {left : List α} {right : List β} (each : List.Forall₂ R left right)
    (same : ∀ a, ∀ b ∈ right, R a b → f a = g b) : left.flatMap f = right.flatMap g := by
  induction each with
  | nil => rfl
  | cons head _ induction =>
      rw [List.flatMap_cons, List.flatMap_cons, same _ _ List.mem_cons_self head,
        induction fun a b member => same a b (List.mem_cons_of_mem _ member)]

/-- The texts under a path are those of the dictionaries under it, in the same order. -/
theorem IsData.texts_eq {item : XML.Item} (data : IsData item) :
    ∀ {waiting : String}, IsBlank waiting → ∀ path,
      (dictionariesAt path (elementDictionary waiting item)).map textOf =
        (elementsAt path item).map textBelow := by
  induction data with
  | @text name attributes characters free =>
      intro waiting blank path
      cases path with
      | nil => exact congrArg (fun text => [text]) ((IsData.text characters free).textOf_eq blank)
      | cons key path =>
          have read := addItems_characters [] (attributeFields attributes) characters waiting
          rw [List.append_nil] at read
          have noElements :
              (characters.map XML.Item.character).filter (isNamed key) = [] := by
            rw [List.filter_eq_nil_iff]
            intro item member
            rcases List.mem_map.mp member with ⟨c, _, rfl⟩
            exact nofun
          rw [dictionariesAt, elementDictionary, read, addItems, dictionariesNamed_withText free,
            dictionariesNamed_attributeFields, elementsAt, contentOf, noElements]
          rfl
  | @elements name attributes content free spaces named data induction =>
      intro waiting blank path
      cases path with
      | nil =>
          exact congrArg (fun text => [text])
            ((IsData.elements free spaces named data).textOf_eq blank)
      | cons key path =>
          have adds : Adds content (attributeFields attributes, waiting)
              (addItems content (attributeFields attributes, waiting)) :=
            adds_addItems spaces named blank
          rcases adds.dictionaries key with ⟨values, all, each⟩
          rw [dictionariesNamed_attributeFields, List.nil_append] at all
          rw [dictionariesAt, elementDictionary,
            dictionariesNamed_withText (adds.text.trans free), all, elementsAt, contentOf,
            List.map_flatMap, List.map_flatMap]
          refine flatMap_eq_of_forall₂ each ?_
          rintro value item member ⟨before, isBlank, rfl⟩
          rcases List.mem_filter.mp member with ⟨present, isNamed⟩
          cases item with
          | character c => cases isNamed
          | element name attributes inner =>
              exact induction name attributes inner present isBlank path

/-- A document as an item whose only content is the root element. -/
def documentOf (name : List Char) (attributes : List (List Char × List Char))
    (content : List XML.Item) : XML.Item :=
  .element [] [] [.element name attributes content]

/-- However the parser splits the texts of a document with data, the dictionaries under a path of
names give the texts of the elements under it, in the order of the document. -/
theorem dictionaryForXMLData_texts (error : Option NSError) {name : List Char}
    {attributes : List (List Char × List Char)} {content : List XML.Item}
    (data : IsData (documentOf name attributes content)) {events : List ParserEvent}
    (tells : Tells [.element name attributes content] events) :
    ∃ dictionary json cells,
      (dictionaryForXMLData error events true).rootDictionary = some dictionary ∧
        Holds (dictionaryForXMLData error events true).collections dictionary json cells ∧
        ∀ path, (dictionariesAt path json).map textOf =
          (elementsAt path (documentOf name attributes content)).map textBelow := by
  rcases tells.holds error with ⟨cells, holds, _⟩
  exact ⟨_, _, cells, tells.rootDictionary error, holds, data.texts_eq isBlank_empty⟩

theorem sampleRoot_isData :
    IsData (documentOf ['r'] [(['i'], ['1'])]
      [.character ' ', .element ['a'] [] [.character 'x'], .element ['a'] [] [.character 'y']]) := by
  have leaf : ∀ c, IsData (.element ['a'] [] [.character c]) := fun c => .text [c] rfl
  have root : IsData (.element ['r'] [(['i'], ['1'])]
      [.character ' ', .element ['a'] [] [.character 'x'],
        .element ['a'] [] [.character 'y']]) := by
    refine .elements (by decide) ?_ (by decide) ?_
    · intro c member
      simp only [List.mem_cons, XML.Item.character.injEq, reduceCtorEq, List.not_mem_nil,
        or_false] at member
      subst member
      rfl
    · intro name attributes inner member
      simp only [List.mem_cons, reduceCtorEq, false_or, List.not_mem_nil, or_false] at member
      rcases member with equal | equal
      · exact equal ▸ leaf 'x'
      · exact equal ▸ leaf 'y'
  refine .elements rfl ?_ (by decide) ?_
  · intro c member
    simp only [List.mem_singleton, reduceCtorEq] at member
  · intro name attributes inner member
    exact List.mem_singleton.mp member ▸ root

theorem dictionaryForXMLData_texts_sampleEvents :
    ∃ dictionary json cells,
      (dictionaryForXMLData none sampleEvents true).rootDictionary = some dictionary ∧
        Holds (dictionaryForXMLData none sampleEvents true).collections dictionary json cells ∧
        ∀ path, (dictionariesAt path json).map textOf =
          (elementsAt path (documentOf ['r'] [(['i'], ['1'])]
            [.character ' ', .element ['a'] [] [.character 'x'],
              .element ['a'] [] [.character 'y']])).map textBelow :=
  dictionaryForXMLData_texts none sampleRoot_isData sampleEvents_tells

end CTXMLReader

end ConnectSDK
