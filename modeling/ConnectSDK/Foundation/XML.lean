import Mathlib.Data.List.Basic

/-! # XML documents

Which texts are well-formed documents of XML 1.0, and the elements, attributes and characters
they stand for. Declarations before the root element are left out, as are entities that a
document declares.
-/

namespace ConnectSDK

namespace XML

/-! ## Characters and names -/

def isChar (c : Char) : Bool :=
  c == '\t' || c == '\n' || c == '\r' ||
    (decide (0x20 ≤ c.toNat) && c.toNat != 0xFFFE && c.toNat != 0xFFFF)

def isSpace (c : Char) : Bool :=
  c == ' ' || c == '\t' || c == '\n' || c == '\r'

/-- The ranges of characters that names start with. -/
def nameStartRanges : List (Nat × Nat) :=
  [(0x3A, 0x3A), (0x41, 0x5A), (0x5F, 0x5F), (0x61, 0x7A), (0xC0, 0xD6), (0xD8, 0xF6),
    (0xF8, 0x2FF), (0x370, 0x37D), (0x37F, 0x1FFF), (0x200C, 0x200D), (0x2070, 0x218F),
    (0x2C00, 0x2FEF), (0x3001, 0xD7FF), (0xF900, 0xFDCF), (0xFDF0, 0xFFFD),
    (0x10000, 0xEFFFF)]

/-- The ranges of those that names go on with only. -/
def nameRanges : List (Nat × Nat) :=
  [(0x2D, 0x2E), (0x30, 0x39), (0xB7, 0xB7), (0x300, 0x36F), (0x203F, 0x2040)]

def isWithin (ranges : List (Nat × Nat)) (c : Char) : Bool :=
  ranges.any fun range => decide (range.1 ≤ c.toNat) && decide (c.toNat ≤ range.2)

def isNameChar (c : Char) : Bool :=
  isWithin nameStartRanges c || isWithin nameRanges c

structure IsName (name : List Char) : Prop where
  start : ∃ first rest, name = first :: rest ∧ isWithin nameStartRanges first = true
  all : ∀ c ∈ name, isNameChar c = true

/-- What a processor does first: each line ends with a single line feed. -/
def normalizeLineEnds : List Char → List Char
  | [] => []
  | '\r' :: '\n' :: rest => '\n' :: normalizeLineEnds rest
  | '\r' :: rest => '\n' :: normalizeLineEnds rest
  | c :: rest => c :: normalizeLineEnds rest

/-! ## Markup -/

def quotationMark : Char := Char.ofNat 0x22

def apostrophe : Char := Char.ofNat 0x27

def predefinedEntities : List (List Char × Char) :=
  [("lt".toList, '<'), ("gt".toList, '>'), ("amp".toList, '&'), ("apos".toList, apostrophe),
    ("quot".toList, quotationMark)]

def digitValue (c : Char) : Nat :=
  if c.isDigit then c.toNat - 48
  else if c.isLower then c.toNat - 87
  else c.toNat - 55

def numberOf (base : Nat) (digits : List Char) : Nat :=
  digits.foldl (fun number digit => base * number + digitValue digit) 0

def isHexDigit (c : Char) : Bool :=
  c.isDigit || (decide ('a' ≤ c) && decide (c ≤ 'f')) || (decide ('A' ≤ c) && decide (c ≤ 'F'))

/-- What stands between the ampersand and the semicolon of a reference. -/
inductive Reference : List Char → Char → Prop where
  | entity {name : List Char} {c : Char} (known : (name, c) ∈ predefinedEntities) :
      Reference name c
  | decimal {digits : List Char} {c : Char} (present : digits ≠ [])
      (all : ∀ digit ∈ digits, digit.isDigit = true) (value : numberOf 10 digits = c.toNat)
      (legal : isChar c = true) : Reference ('#' :: digits) c
  | hexadecimal {digits : List Char} {c : Char} (present : digits ≠ [])
      (all : ∀ digit ∈ digits, isHexDigit digit = true)
      (value : numberOf 16 digits = c.toNat) (legal : isChar c = true) :
      Reference ('#' :: 'x' :: digits) c

/-- What stands between the quotes of an attribute. -/
inductive AttributeValue (quote : Char) : List Char → List Char → Prop where
  | nil : AttributeValue quote [] []
  | space {c : Char} {rest value : List Char} (spaces : isSpace c = true)
      (more : AttributeValue quote rest value) : AttributeValue quote (c :: rest) (' ' :: value)
  | character {c : Char} {rest value : List Char} (legal : isChar c = true)
      (noSpace : isSpace c = false) (noMarkup : c ≠ '<' ∧ c ≠ '&') (noQuote : c ≠ quote)
      (more : AttributeValue quote rest value) : AttributeValue quote (c :: rest) (c :: value)
  | reference {name rest value : List Char} {c : Char} (known : Reference name c)
      (more : AttributeValue quote rest value) :
      AttributeValue quote ('&' :: name ++ ';' :: rest) (c :: value)

def IsSpaces (text : List Char) : Prop :=
  ∀ c ∈ text, isSpace c = true

/-- The attributes of a tag, and the spaces after them. -/
inductive Attributes : List Char → List (List Char × List Char) → Prop where
  | nil {spaces : List Char} (areSpaces : IsSpaces spaces) : Attributes spaces []
  | cons {space quote : Char} {spaces name before after source value rest : List Char}
      {attributes : List (List Char × List Char)} (areSpaces : IsSpaces (space :: spaces))
      (isName : IsName name) (spacesBefore : IsSpaces before) (spacesAfter : IsSpaces after)
      (isQuote : quote = quotationMark ∨ quote = apostrophe)
      (isValue : AttributeValue quote source value)
      (fresh : name ∉ attributes.map Prod.fst) (more : Attributes rest attributes) :
      Attributes
        (space :: spaces ++
          (name ++ (before ++ '=' :: (after ++ quote :: (source ++ quote :: rest)))))
        ((name, value) :: attributes)

/-- A tag up to its end, of which `closing` is `>` or `/>`. -/
structure Tag (closing tag name : List Char) (attributes : List (List Char × List Char)) :
    Prop where
  isName : IsName name
  attributes : ∃ text, Attributes text attributes ∧ tag = '<' :: (name ++ (text ++ closing))

abbrev StartTag := Tag ['>']

abbrev EmptyTag := Tag ['/', '>']

structure EndTag (tag name : List Char) : Prop where
  isName : IsName name
  spaces : ∃ spaces, IsSpaces spaces ∧ tag = '<' :: '/' :: (name ++ (spaces ++ ['>']))

def IsComment (markup : List Char) : Prop :=
  ∃ text, (∀ c ∈ text, isChar c = true) ∧ ¬['-', '-'] <:+: text ∧ ¬['-'] <:+ text ∧
    markup = "<!--".toList ++ text ++ "-->".toList

def IsInstruction (markup : List Char) : Prop :=
  ∃ target data, IsName target ∧ target.map Char.toLower ≠ "xml".toList ∧
    (data = [] ∨ ∃ c rest, data = c :: rest ∧ isSpace c = true) ∧
      (∀ c ∈ data, isChar c = true) ∧ ¬['?', '>'] <:+: data ∧
        markup = "<?".toList ++ (target ++ data) ++ "?>".toList

/-- A section of character data. -/
def IsCDATA (markup text : List Char) : Prop :=
  (∀ c ∈ text, isChar c = true) ∧ ¬[']', ']', '>'] <:+: text ∧
    markup = "<![CDATA[".toList ++ text ++ "]]>".toList

/-! ## Content -/

inductive Item where
  | character (c : Char)
  | element (name : List Char) (attributes : List (List Char × List Char))
      (content : List Item)

/-- What text in an element, whose lines end as they should, stands for. -/
inductive Content : List Char → List Item → Prop where
  | nil : Content [] []
  | character {c : Char} {rest : List Char} {items : List Item} (legal : isChar c = true)
      (noMarkup : c ≠ '<' ∧ c ≠ '&') (noEnd : ¬[']', ']', '>'] <+: c :: rest)
      (more : Content rest items) : Content (c :: rest) (.character c :: items)
  | reference {name rest : List Char} {c : Char} {items : List Item}
      (known : Reference name c) (more : Content rest items) :
      Content ('&' :: name ++ ';' :: rest) (.character c :: items)
  | cdata {markup text rest : List Char} {items : List Item} (isCDATA : IsCDATA markup text)
      (more : Content rest items) :
      Content (markup ++ rest) (text.map Item.character ++ items)
  | comment {markup rest : List Char} {items : List Item} (isComment : IsComment markup)
      (more : Content rest items) : Content (markup ++ rest) items
  | instruction {markup rest : List Char} {items : List Item}
      (isInstruction : IsInstruction markup) (more : Content rest items) :
      Content (markup ++ rest) items
  | empty {tag name rest : List Char} {attributes : List (List Char × List Char)}
      {items : List Item} (emptyTag : EmptyTag tag name attributes)
      (more : Content rest items) :
      Content (tag ++ rest) (.element name attributes [] :: items)
  | element {tag name body close rest : List Char}
      {attributes : List (List Char × List Char)} {content items : List Item}
      (startTag : StartTag tag name attributes) (inner : Content body content)
      (endTag : EndTag close name) (more : Content rest items) :
      Content (tag ++ (body ++ (close ++ rest))) (.element name attributes content :: items)

/-- What may stand before and after the root element. -/
inductive Misc : List Char → Prop where
  | nil : Misc []
  | space {c : Char} {rest : List Char} (spaces : isSpace c = true) (more : Misc rest) :
      Misc (c :: rest)
  | comment {markup rest : List Char} (isComment : IsComment markup) (more : Misc rest) :
      Misc (markup ++ rest)
  | instruction {markup rest : List Char} (isInstruction : IsInstruction markup)
      (more : Misc rest) : Misc (markup ++ rest)

/-- An element as it is written, with a pair of tags or an empty one. -/
inductive Element : List Char → Item → Prop where
  | empty {tag name : List Char} {attributes : List (List Char × List Char)}
      (emptyTag : EmptyTag tag name attributes) : Element tag (.element name attributes [])
  | full {tag name body close : List Char} {attributes : List (List Char × List Char)}
      {content : List Item} (startTag : StartTag tag name attributes)
      (inner : Content body content) (endTag : EndTag close name) :
      Element (tag ++ (body ++ close)) (.element name attributes content)

/-- The text is a well-formed document with this root element. -/
def Document (text : List Char) (root : Item) : Prop :=
  ∃ before markup after, normalizeLineEnds text = before ++ (markup ++ after) ∧
    Misc before ∧ Element markup root ∧ Misc after

/-! ## Reading markup -/

/-- Two texts that go on after characters of a kind with one that is not agree. -/
theorem span_unique {kind : Char → Bool} {x y : Char} {a b : List Char} :
    ∀ {left right : List Char}, (∀ c ∈ left, kind c = true) → (∀ c ∈ right, kind c = true) →
      kind x = false → kind y = false → left ++ x :: a = right ++ y :: b →
      left = right ∧ x = y ∧ a = b
  | [], [], _, _, _, _, same => ⟨rfl, (List.cons.inj same).1, (List.cons.inj same).2⟩
  | [], c :: right, _, all, other, _, same => by
      have first : x = c := (List.cons.inj same).1
      rw [first, all c List.mem_cons_self] at other
      cases other
  | c :: left, [], all, _, _, other, same => by
      have first : c = y := (List.cons.inj same).1
      rw [← first, all c List.mem_cons_self] at other
      cases other
  | c :: left, d :: right, allLeft, allRight, noX, noY, same => by
      rcases List.cons.inj same with ⟨first, rest⟩
      rcases span_unique (fun c member => allLeft c (List.mem_cons_of_mem _ member))
        (fun c member => allRight c (List.mem_cons_of_mem _ member)) noX noY rest with
        ⟨tails, ends⟩
      exact ⟨by rw [first, tails], ends⟩

/-- What ends a tag. -/
def IsClosing (c : Char) : Prop :=
  c = '>' ∨ c = '/'

theorem IsClosing.not_space {c : Char} (closing : IsClosing c) : isSpace c = false := by
  rcases closing with closed | slashed
  · rw [closed]
    rfl
  · rw [slashed]
    rfl

theorem IsClosing.not_nameChar {c : Char} (closing : IsClosing c) : isNameChar c = false := by
  rcases closing with closed | slashed
  · rw [closed]
    rfl
  · rw [slashed]
    rfl

theorem not_space_of_nameChar {c : Char} (name : isNameChar c = true) : isSpace c = false := by
  cases space : isSpace c with
  | false => rfl
  | true =>
      simp only [isSpace, Bool.or_eq_true, beq_iff_eq] at space
      rcases space with ((same | same) | same) | same <;>
        · rw [same] at name
          revert name
          decide

theorem not_nameChar_of_space {c : Char} (space : isSpace c = true) : isNameChar c = false := by
  cases name : isNameChar c with
  | false => rfl
  | true =>
      rw [not_space_of_nameChar name] at space
      cases space

/-- Names do not start with what markup goes on with after `<`. -/
theorem IsName.start_ne {name : List Char} (isName : IsName name) :
    ∃ first rest, name = first :: rest ∧ isNameChar first = true := by
  rcases isName.start with ⟨first, rest, same, start⟩
  exact ⟨first, rest, same, isName.all first (same ▸ List.mem_cons_self)⟩

theorem Reference.not_quote {name : List Char} {c : Char} (reference : Reference name c) :
    ∀ d ∈ name, d ≠ quotationMark ∧ d ≠ apostrophe := by
  have digits : ∀ d : Char, isHexDigit d = true → d ≠ quotationMark ∧ d ≠ apostrophe := by
    intro d digit
    constructor <;>
      · intro same
        rw [same] at digit
        revert digit
        decide
  cases reference with
  | entity known =>
      intro d member
      have all : predefinedEntities.all (fun entity => entity.1.all fun d =>
          d != quotationMark && d != apostrophe) = true := by decide
      have here := List.all_eq_true.mp (List.all_eq_true.mp all _ known) d member
      simpa using here
  | decimal _ all _ _ =>
      intro d member
      rcases List.mem_cons.mp member with same | member
      · rw [same]
        decide
      · refine digits d ?_
        rw [isHexDigit, all d member]
        rfl
  | hexadecimal _ all _ _ =>
      intro d member
      rcases List.mem_cons.mp member with same | member
      · rw [same]
        decide
      · rcases List.mem_cons.mp member with same | member
        · rw [same]
          decide
        · exact digits d (all d member)

theorem AttributeValue.no_quote {quote : Char} (isQuote : quote = quotationMark ∨ quote = apostrophe)
    {source value : List Char} (read : AttributeValue quote source value) :
    ∀ c ∈ source, (c != quote) = true := by
  have known : ∀ c, c ≠ quotationMark → c ≠ apostrophe → (c != quote) = true := by
    intro c noMark noApostrophe
    rw [bne_iff_ne]
    rcases isQuote with same | same
    · rw [same]
      exact noMark
    · rw [same]
      exact noApostrophe
  induction read with
  | nil => exact fun _ member => by cases member
  | @space d rest value spaces _ induction =>
      intro c member
      rcases List.mem_cons.mp member with same | member
      · subst same
        apply known
        all_goals
          intro same
          rw [same] at spaces
          revert spaces
          decide
      · exact induction c member
  | character _ _ _ noQuote _ induction =>
      intro c member
      rcases List.mem_cons.mp member with same | member
      · rw [same]
        exact bne_iff_ne.mpr noQuote
      · exact induction c member
  | reference reference _ induction =>
      intro c member
      rcases List.mem_cons.mp member with same | member
      · rw [same]
        exact known _ (by decide) (by decide)
      · rcases List.mem_append.mp member with inName | member
        · exact known c (reference.not_quote c inName).1 (reference.not_quote c inName).2
        · rcases List.mem_cons.mp member with same | member
          · rw [same]
            exact known _ (by decide) (by decide)
          · exact induction c member

theorem isSpace_eq : isSpace '=' = false := by decide

/-- Quotes are neither spaces nor part of a name. -/
theorem quote_not_space {quote : Char} (isQuote : quote = quotationMark ∨ quote = apostrophe) :
    isSpace quote = false := by
  rcases isQuote with same | same <;>
    · rw [same]
      decide

/-- Names before an equals sign. -/
theorem name_unique {name name' before before' a b : List Char} (isName : IsName name)
    (isName' : IsName name') (spaces : IsSpaces before) (spaces' : IsSpaces before')
    (same : name ++ (before ++ '=' :: a) = name' ++ (before' ++ '=' :: b)) :
    name = name' ∧ before ++ '=' :: a = before' ++ '=' :: b := by
  have next : ∀ {spaces a : List Char}, IsSpaces spaces →
      ∃ z more, spaces ++ '=' :: a = z :: more ∧ isNameChar z = false := by
    intro spaces a all
    cases spaces with
    | nil => exact ⟨'=', a, rfl, by decide⟩
    | cons z spaces =>
        exact ⟨z, spaces ++ '=' :: a, rfl,
          not_nameChar_of_space (all z List.mem_cons_self)⟩
  rcases @next before a spaces with ⟨x, left, onLeft, endLeft⟩
  rcases @next before' b spaces' with ⟨y, right, onRight, endRight⟩
  rw [onLeft, onRight] at same ⊢
  rcases span_unique isName.all isName'.all endLeft endRight same with ⟨names, heads, tails⟩
  exact ⟨names, by rw [heads, tails]⟩

/-- Spaces before a name. -/
theorem spaces_unique {spaces spaces' name name' a b : List Char} (areSpaces : IsSpaces spaces)
    (areSpaces' : IsSpaces spaces') (isName : IsName name) (isName' : IsName name')
    (same : spaces ++ (name ++ a) = spaces' ++ (name' ++ b)) :
    spaces = spaces' ∧ name ++ a = name' ++ b := by
  rcases isName.start_ne with ⟨first, letters, named, start⟩
  rcases isName'.start_ne with ⟨first', letters', named', start'⟩
  rw [named, named'] at same ⊢
  rcases span_unique areSpaces areSpaces' (not_space_of_nameChar start)
    (not_space_of_nameChar start') same with ⟨sameSpaces, heads, tails⟩
  refine ⟨sameSpaces, ?_⟩
  rw [heads]
  exact congrArg (List.cons first') tails

/-- The attributes of a tag end where the tag does. -/
theorem Attributes.unique {x y : Char} {a b : List Char} (endX : IsClosing x) (endY : IsClosing y)
    {left : List Char} {attributes : List (List Char × List Char)}
    (read : Attributes left attributes) :
    ∀ {right : List Char} {others : List (List Char × List Char)}, Attributes right others →
      left ++ x :: a = right ++ y :: b → left = right ∧ x = y ∧ a = b := by
  induction read with
  | nil areSpaces =>
      intro right others other same
      cases other with
      | nil otherSpaces =>
          exact span_unique areSpaces otherSpaces endX.not_space endY.not_space same
      | @cons space quote spaces name before after source value rest _ otherSpaces isName =>
          rcases isName.start_ne with ⟨first, letters, named, start⟩
          rw [named, List.append_assoc] at same
          have split := span_unique areSpaces otherSpaces endX.not_space
            (not_space_of_nameChar start) same
          rw [← split.2.1, endX.not_nameChar] at start
          cases start
  | @cons space quote spaces name before after source value rest _ areSpaces isName
      spacesBefore spacesAfter isQuote isValue _ _ induction =>
      intro right others other same
      cases other with
      | nil otherSpaces =>
          rcases isName.start_ne with ⟨first, letters, named, start⟩
          rw [named, List.append_assoc] at same
          have split := span_unique areSpaces otherSpaces (not_space_of_nameChar start)
            endY.not_space same
          rw [split.2.1, endY.not_nameChar] at start
          cases start
      | @cons space' quote' spaces' name' before' after' source' value' rest' _ areSpaces'
          isName' spacesBefore' spacesAfter' isQuote' isValue' _ more' =>
          have parts : (space :: spaces) ++ (name ++ (before ++ '=' :: (after ++ quote ::
                (source ++ quote :: (rest ++ x :: a))))) =
              (space' :: spaces') ++ (name' ++ (before' ++ '=' :: (after' ++ quote' ::
                (source' ++ quote' :: (rest' ++ y :: b))))) := by
            simpa only [List.append_assoc, List.cons_append] using same
          rcases spaces_unique areSpaces areSpaces' isName isName' parts with ⟨sameSpaces, named⟩
          rcases name_unique isName isName' spacesBefore spacesBefore' named with
            ⟨sameName, equals⟩
          rcases span_unique spacesBefore spacesBefore' isSpace_eq isSpace_eq equals with
            ⟨sameBefore, _, quoted⟩
          rcases span_unique spacesAfter spacesAfter' (quote_not_space isQuote)
            (quote_not_space isQuote') quoted with ⟨sameAfter, sameQuote, valued⟩
          subst sameQuote
          rcases span_unique (isValue.no_quote isQuote) (isValue'.no_quote isQuote)
            (bne_self_eq_false quote) (bne_self_eq_false quote) valued with
            ⟨sameSource, _, remaining⟩
          rcases induction more' remaining with ⟨sameRest, ends⟩
          exact ⟨by rw [sameSpaces, sameName, sameBefore, sameAfter, sameSource, sameRest], ends⟩

/-- What follows a name in a tag is not part of it. -/
theorem Attributes.next {text : List Char} {attributes : List (List Char × List Char)}
    (read : Attributes text attributes) {x : Char} (closing : IsClosing x) (a : List Char) :
    ∃ z more, text ++ x :: a = z :: more ∧ isNameChar z = false := by
  cases read with
  | nil areSpaces =>
      cases text with
      | nil => exact ⟨x, a, rfl, closing.not_nameChar⟩
      | cons z spaces =>
          exact ⟨z, spaces ++ x :: a, rfl,
            not_nameChar_of_space (areSpaces z List.mem_cons_self)⟩
  | cons areSpaces =>
      exact ⟨_, _, rfl, not_nameChar_of_space (areSpaces _ List.mem_cons_self)⟩

/-- How a tag may end. -/
def Closes (closing : List Char) : Prop :=
  closing = ['>'] ∨ closing = ['/', '>']

theorem Closes.eq_cons {closing : List Char} (closes : Closes closing) :
    ∃ x more, closing = x :: more ∧ IsClosing x := by
  rcases closes with closed | slashed
  · exact ⟨'>', [], closed, .inl rfl⟩
  · exact ⟨'/', ['>'], slashed, .inr rfl⟩

/-- Its first character tells how a tag ends. -/
theorem Closes.unique {closing closing' more more' : List Char} {x : Char}
    (closes : Closes closing) (closes' : Closes closing') (starts : closing = x :: more)
    (starts' : closing' = x :: more') : closing = closing' := by
  rcases closes with closed | slashed
  · rcases closes' with closed' | slashed'
    · rw [closed, closed']
    · rw [closed] at starts
      rw [slashed'] at starts'
      cases starts
      cases starts'
  · rcases closes' with closed' | slashed'
    · rw [slashed] at starts
      rw [closed'] at starts'
      cases starts
      cases starts'
    · rw [slashed, slashed']

/-- A tag ends where it does, and in one way. -/
theorem Tag.unique {closing closing' tag tag' name name' a b : List Char}
    {attributes attributes' : List (List Char × List Char)} (closes : Closes closing)
    (closes' : Closes closing') (read : Tag closing tag name attributes)
    (read' : Tag closing' tag' name' attributes') (same : tag ++ a = tag' ++ b) :
    closing = closing' ∧ tag = tag' ∧ a = b := by
  rcases read.attributes with ⟨text, written, isTag⟩
  rcases read'.attributes with ⟨text', written', isTag'⟩
  rcases closes.eq_cons with ⟨x, more, isClosing, endX⟩
  rcases closes'.eq_cons with ⟨y, more', isClosing', endY⟩
  have parts : name ++ (text ++ x :: (more ++ a)) = name' ++ (text' ++ y :: (more' ++ b)) := by
    rw [isTag, isTag', isClosing, isClosing'] at same
    simpa only [List.append_assoc, List.cons_append, List.cons.injEq, true_and] using same
  have names : name = name' ∧ text ++ x :: (more ++ a) = text' ++ y :: (more' ++ b) := by
    rcases written.next endX (more ++ a) with ⟨z, left, onLeft, endLeft⟩
    rcases written'.next endY (more' ++ b) with ⟨z', right, onRight, endRight⟩
    rw [onLeft, onRight] at parts ⊢
    rcases span_unique read.isName.all read'.isName.all endLeft endRight parts with
      ⟨sameName, heads, tails⟩
    exact ⟨sameName, by rw [heads, tails]⟩
  rcases written.unique endX endY written' names.2 with ⟨sameText, sameEnd, rests⟩
  rw [← sameEnd] at isClosing'
  have sameClosing := closes.unique closes' isClosing isClosing'
  refine ⟨sameClosing, ?_, ?_⟩
  · rw [isTag, isTag', names.1, sameText, sameClosing]
  · rw [sameClosing, isClosing'] at isClosing
    cases isClosing
    exact List.append_cancel_left rests

theorem EndTag.next {close name : List Char} (read : EndTag close name) (a : List Char) :
    ∃ z more, close ++ a = '<' :: '/' :: (name ++ z :: more) ∧ isNameChar z = false := by
  rcases read.spaces with ⟨spaces, areSpaces, isTag⟩
  rw [isTag]
  cases spaces with
  | nil => exact ⟨'>', a, by simp, by decide⟩
  | cons z spaces =>
      exact ⟨z, spaces ++ '>' :: a, by simp,
        not_nameChar_of_space (areSpaces z List.mem_cons_self)⟩

/-! ## Character data -/

/-- The text stands for itself, character by character. -/
def IsPlain : List Char → Prop
  | [] => True
  | c :: rest =>
      isChar c = true ∧ (c ≠ '<' ∧ c ≠ '&') ∧ ¬[']', ']', '>'] <+: c :: rest ∧ IsPlain rest

def decidableIsPlain : ∀ text, Decidable (IsPlain text)
  | [] => isTrue trivial
  | c :: rest =>
      have : Decidable (IsPlain rest) := decidableIsPlain rest
      inferInstanceAs (Decidable (isChar c = true ∧ (c ≠ '<' ∧ c ≠ '&') ∧
        ¬[']', ']', '>'] <+: c :: rest ∧ IsPlain rest))

instance (text : List Char) : Decidable (IsPlain text) :=
  decidableIsPlain text

theorem IsPlain.content : ∀ {text : List Char}, IsPlain text →
    Content text (text.map Item.character)
  | [], _ => .nil
  | _ :: _, ⟨legal, noMarkup, noEnd, more⟩ =>
      .character legal noMarkup noEnd (IsPlain.content more)

theorem IsCDATA.length_lt {markup text : List Char} (isCDATA : IsCDATA markup text) :
    text.length < markup.length := by
  have opening : "<![CDATA[".toList.length = 9 := rfl
  rw [isCDATA.2.2]
  simp only [List.length_append]
  omega

theorem IsComment.opens {markup : List Char} (isComment : IsComment markup) :
    ∃ rest, markup = '<' :: '!' :: rest := by
  rcases isComment with ⟨inner, _, _, _, written⟩
  exact ⟨_, written⟩

theorem IsInstruction.opens {markup : List Char} (isInstruction : IsInstruction markup) :
    ∃ rest, markup = '<' :: '?' :: rest := by
  rcases isInstruction with ⟨target, data, _, _, _, _, _, written⟩
  exact ⟨_, written⟩

theorem characters_ne_element {name : List Char} {attributes : List (List Char × List Char)}
    {content items : List Item} (text : List Char) :
    .element name attributes content :: items ≠ text.map Item.character := by
  intro same
  cases text with
  | nil => cases same
  | cons c text => cases same

/-- Only characters that stand for themselves take no more room than what they stand for. -/
theorem Content.characters {source : List Char} {items : List Item}
    (read : Content source items) :
    ∀ {text : List Char}, items = text.map Item.character →
      text.length ≤ source.length ∧
        (source.length ≤ text.length → source = text ∧ IsPlain text) := by
  -- All that is not a character makes the source longer.
  have longer : ∀ {source text : List Char}, text.length < source.length →
      text.length ≤ source.length ∧
        (source.length ≤ text.length → source = text ∧ IsPlain text) := fun less =>
    ⟨Nat.le_of_lt less, fun short => absurd (Nat.lt_of_lt_of_le less short) (Nat.lt_irrefl _)⟩
  induction read with
  | nil =>
      intro text same
      cases List.map_eq_nil_iff.mp same.symm
      exact ⟨Nat.le_refl _, fun _ => ⟨rfl, trivial⟩⟩
  | @character c rest items legal noMarkup noEnd _ induction =>
      intro text same
      cases text with
      | nil => cases same
      | cons d text =>
          cases same
          rcases induction rfl with ⟨shorter, plain⟩
          refine ⟨Nat.succ_le_succ shorter, ?_⟩
          intro short
          rcases plain (Nat.le_of_succ_le_succ short) with ⟨equal, isPlain⟩
          rw [equal] at noEnd ⊢
          exact ⟨rfl, legal, noMarkup, noEnd, isPlain⟩
  | @reference name rest c items _ _ induction =>
      intro text same
      cases text with
      | nil => cases same
      | cons d text =>
          cases same
          have shorter := (induction rfl).1
          apply longer
          simp only [List.length_append, List.length_cons]
          omega
  | @cdata markup inner rest items isCDATA _ induction =>
      intro text same
      rcases List.map_eq_append_iff.mp same.symm with ⟨own, others, split, first, second⟩
      have sameLength : own.length = inner.length := by
        have lengths := congrArg List.length first
        rwa [List.length_map, List.length_map] at lengths
      have shorter := (induction second.symm).1
      have within := isCDATA.length_lt
      apply longer
      rw [split]
      simp only [List.length_append]
      omega
  | comment isComment _ induction =>
      intro text same
      rcases isComment.opens with ⟨more, written⟩
      have shorter := (induction same).1
      apply longer
      rw [written]
      simp only [List.length_append, List.length_cons]
      omega
  | instruction isInstruction _ induction =>
      intro text same
      rcases isInstruction.opens with ⟨more, written⟩
      have shorter := (induction same).1
      apply longer
      rw [written]
      simp only [List.length_append, List.length_cons]
      omega
  | empty => exact fun same => absurd same (characters_ne_element _)
  | element => exact fun same => absurd same (characters_ne_element _)

/-- What stands before an element and for nothing: nothing, or markup that is no tag. -/
def IsSkipped (skipped : List Char) : Prop :=
  skipped = [] ∨ ∃ c rest, skipped = '<' :: c :: rest ∧ (c = '!' ∨ c = '?')

theorem IsSkipped.append {markup : List Char} {opening : Char} (isMark : opening = '!' ∨ opening = '?')
    {rest : List Char} (opens : markup = '<' :: opening :: rest) (more : List Char) :
    IsSkipped (markup ++ more) :=
  .inr ⟨opening, rest ++ more, by rw [opens]; rfl, isMark⟩

/-- An element is next in the source, but for what is skipped. -/
def IsNext (source name : List Char) (attributes : List (List Char × List Char))
    (content more : List Item) : Prop :=
  ∃ skipped tag rest, source = skipped ++ (tag ++ rest) ∧ IsSkipped skipped ∧
    ((content = [] ∧ EmptyTag tag name attributes ∧ Content rest more) ∨
      (StartTag tag name attributes ∧ ∃ body close after,
        rest = body ++ (close ++ after) ∧ Content body content ∧ EndTag close name ∧
          Content after more))

theorem IsNext.skip {source name : List Char} {attributes : List (List Char × List Char)}
    {content more : List Item} (next : IsNext source name attributes content more)
    {markup : List Char} {opening : Char} (isMark : opening = '!' ∨ opening = '?')
    (opens : ∃ rest, markup = '<' :: opening :: rest) :
    IsNext (markup ++ source) name attributes content more := by
  rcases next with ⟨skipped, tag, rest, split, _, outcome⟩
  rcases opens with ⟨inner, opens⟩
  refine ⟨markup ++ skipped, tag, rest, ?_, IsSkipped.append isMark opens skipped, outcome⟩
  rw [split, List.append_assoc]

theorem Content.next {source : List Char} {items : List Item} (read : Content source items) :
    ∀ {name : List Char} {attributes : List (List Char × List Char)}
      {content more : List Item}, items = .element name attributes content :: more →
      IsNext source name attributes content more := by
  induction read with
  | nil => exact fun same => by cases same
  | character => exact fun same => by cases same
  | reference => exact fun same => by cases same
  | @cdata markup inner rest items isCDATA _ induction =>
      intro name attributes content more same
      cases inner with
      | cons c inner => cases same
      | nil => exact (induction same).skip (.inl rfl) ⟨_, isCDATA.2.2⟩
  | comment isComment _ induction =>
      exact fun same => (induction same).skip (.inl rfl) isComment.opens
  | instruction isInstruction _ induction =>
      exact fun same => (induction same).skip (.inr rfl) isInstruction.opens
  | empty emptyTag more' _ =>
      intro name attributes content more same
      cases same
      exact ⟨[], _, _, rfl, .inl rfl, .inl ⟨rfl, emptyTag, more'⟩⟩
  | element startTag inner endTag more' _ _ =>
      intro name attributes content more same
      cases same
      exact ⟨[], _, _, rfl, .inl rfl, .inr ⟨startTag, _, _, _, rfl, inner, endTag, more'⟩⟩

end XML

end ConnectSDK
