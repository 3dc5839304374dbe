import ConnectSDK.Foundation.XML

/-! # Texts spliced into markup

What a reader makes of texts that were put between tags as they are: the very texts, exactly
if each stands for itself.
-/

namespace ConnectSDK

namespace XML

/-! ## Line ends -/

theorem normalizeLineEnds_length_le (text : List Char) :
    (normalizeLineEnds text).length ≤ text.length := by
  fun_induction normalizeLineEnds text <;> simp only [List.length_cons, List.length_nil] <;> omega

theorem normalizeLineEnds_return {rest : List Char}
    (noFeed : ∀ more, rest = '\n' :: more → False) :
    normalizeLineEnds ('\r' :: rest) = '\n' :: normalizeLineEnds rest := by
  rw [normalizeLineEnds]
  exact noFeed

theorem normalizeLineEnds_other {c : Char} (other : c ≠ '\r') (rest : List Char) :
    normalizeLineEnds (c :: rest) = c :: normalizeLineEnds rest := by
  rw [normalizeLineEnds]
  · exact fun _ same _ => other same
  · exact other

theorem not_mem_normalizeLineEnds (text : List Char) : '\r' ∉ normalizeLineEnds text := by
  fun_induction normalizeLineEnds text with
  | case1 => exact List.not_mem_nil
  | case2 rest induction =>
      exact List.not_mem_cons_of_ne_of_not_mem (by decide) induction
  | case3 rest _ induction =>
      exact List.not_mem_cons_of_ne_of_not_mem (by decide) induction
  | case4 c rest _ other induction =>
      exact List.not_mem_cons_of_ne_of_not_mem (fun same => other same.symm) induction

/-- A text without carriage returns stays as it is. -/
theorem normalizeLineEnds_append_left :
    ∀ {left : List Char}, '\r' ∉ left → ∀ right,
      normalizeLineEnds (left ++ right) = left ++ normalizeLineEnds right
  | [], _, _ => rfl
  | c :: left, absent, right => by
      have other : c ≠ '\r' := fun same => absent (same ▸ List.mem_cons_self)
      rw [List.cons_append, normalizeLineEnds_other other, normalizeLineEnds_append_left
        (fun member => absent (List.mem_cons_of_mem c member)) right, List.cons_append]

theorem normalizeLineEnds_of_not_mem {text : List Char} (absent : '\r' ∉ text) :
    normalizeLineEnds text = text := by
  have whole := normalizeLineEnds_append_left absent []
  rwa [List.append_nil, normalizeLineEnds, List.append_nil] at whole

/-- Line ends of texts are normalized apart from each other, if the second does not start in
the middle of one. -/
theorem normalizeLineEnds_append (left : List Char) {first : Char} (apart : first ≠ '\n')
    (rest : List Char) :
    normalizeLineEnds (left ++ first :: rest) =
      normalizeLineEnds left ++ normalizeLineEnds (first :: rest) := by
  fun_induction normalizeLineEnds left with
  | case1 => rfl
  | case2 left induction =>
      rw [List.cons_append, List.cons_append, normalizeLineEnds, induction, List.cons_append]
  | case3 left noFeed induction =>
      rw [List.cons_append, normalizeLineEnds_return, induction, List.cons_append]
      intro more same
      cases left with
      | nil => exact apart (List.cons.inj same).1
      | cons c left => exact noFeed left (by rw [(List.cons.inj same).1])
  | case4 c left _ other induction =>
      rw [List.cons_append, normalizeLineEnds_other other, induction, List.cons_append]

/-! ## Fields -/

/-- An element of text only, which is written with a pair of tags. -/
structure Field where
  name : List Char
  text : List Char

namespace Field

def startTag (field : Field) : List Char :=
  '<' :: (field.name ++ ['>'])

def endTag (field : Field) : List Char :=
  '<' :: '/' :: (field.name ++ ['>'])

/-- The text as a reader first takes it. -/
def source (field : Field) : List Char :=
  normalizeLineEnds field.text

def item (field : Field) : Item :=
  .element field.name [] (field.text.map Item.character)

/-- The text stands for itself. -/
def IsPlain (field : Field) : Prop :=
  XML.IsPlain field.text ∧ '\r' ∉ field.text

instance (field : Field) : Decidable field.IsPlain :=
  inferInstanceAs (Decidable (XML.IsPlain field.text ∧ '\r' ∉ field.text))

end Field

/-- The fields with their texts as they are. -/
def spliced (fields : List Field) : List Char :=
  fields.flatMap fun field => field.startTag ++ (field.text ++ field.endTag)

/-- The fields as a reader first takes them. -/
def normalized (fields : List Field) : List Char :=
  fields.flatMap fun field => field.startTag ++ (field.source ++ field.endTag)

theorem normalized_cons (field : Field) (fields : List Field) (after : List Char) :
    normalized (field :: fields) ++ after =
      field.startTag ++ (field.source ++ (field.endTag ++ (normalized fields ++ after))) := by
  simp only [normalized, List.flatMap_cons, List.append_assoc]

theorem spliced_cons (field : Field) (fields : List Field) (after : List Char) :
    spliced (field :: fields) ++ after =
      field.startTag ++ (field.text ++ (field.endTag ++ (spliced fields ++ after))) := by
  simp only [spliced, List.flatMap_cons, List.append_assoc]

/-- Names have no line ends. -/
theorem IsName.not_mem {name : List Char} (isName : IsName name) : '\r' ∉ name := by
  intro member
  have nameChar := isName.all _ member
  revert nameChar
  decide

theorem Field.startTag_not_mem {field : Field} (isName : IsName field.name) :
    '\r' ∉ field.startTag := by
  simp only [Field.startTag, List.mem_cons, List.mem_append, List.not_mem_nil, or_false, not_or]
  exact ⟨by decide, isName.not_mem, by decide⟩

theorem Field.endTag_not_mem {field : Field} (isName : IsName field.name) :
    '\r' ∉ field.endTag := by
  simp only [Field.endTag, List.mem_cons, List.mem_append, List.not_mem_nil, or_false, not_or]
  exact ⟨by decide, by decide, isName.not_mem, by decide⟩

theorem normalize_spliced (after : List Char) :
    ∀ {fields : List Field}, (∀ field ∈ fields, IsName field.name) →
      normalizeLineEnds (spliced fields ++ after) = normalized fields ++ normalizeLineEnds after
  | [], _ => rfl
  | field :: fields, isName => by
      have named := isName field List.mem_cons_self
      rw [spliced_cons, normalized_cons,
        normalizeLineEnds_append_left (Field.startTag_not_mem named), Field.endTag,
        List.cons_append, normalizeLineEnds_append field.text (by decide), ← List.cons_append,
        ← Field.endTag, normalizeLineEnds_append_left (Field.endTag_not_mem named),
        normalize_spliced after fun other member => isName other (List.mem_cons_of_mem _ member)]
      rfl

/-! ## Reading the fields -/

theorem suffix_append_cases {text left right : List Char} (ends : text <:+ left ++ right) :
    text <:+ right ∨ ∃ rest, rest ≠ [] ∧ rest <:+ left ∧ text = rest ++ right := by
  rcases ends with ⟨before, whole⟩
  rcases List.append_eq_append_iff.mp whole with ⟨rest, isLeft, isText⟩ | ⟨rest, isBefore, isRight⟩
  · cases rest with
    | nil => exact .inl (isText ▸ List.suffix_refl _)
    | cons c rest => exact .inr ⟨c :: rest, List.cons_ne_nil _ _, ⟨before, isLeft.symm⟩, isText⟩
  · exact .inl ⟨rest, isRight.symm⟩

/-- What starts with `<` ends a tag only as the whole tag. -/
theorem suffix_tag {inside rest right : List Char} (noMarkup : '<' ∉ inside) {text : List Char}
    (opens : ∃ more, text = '<' :: more) (present : rest ≠ []) (ends : rest <:+ '<' :: inside)
    (split : text = rest ++ right) : rest = '<' :: inside := by
  rcases List.suffix_cons_iff.mp ends with whole | proper
  · exact whole
  · rcases opens with ⟨more, opens⟩
    cases rest with
    | nil => exact absurd rfl present
    | cons c rest =>
        rw [opens] at split
        cases (List.cons.inj split).1
        exact absurd (proper.subset List.mem_cons_self) noMarkup

theorem IsName.no_markup {name : List Char} (isName : IsName name) : '<' ∉ name := by
  intro member
  have nameChar := isName.all _ member
  revert nameChar
  decide

theorem IsName.tag_no_markup {name : List Char} (isName : IsName name) : '<' ∉ name ++ ['>'] := by
  intro member
  rcases List.mem_append.mp member with inName | closing
  · exact isName.no_markup inName
  · cases List.mem_singleton.mp closing

/-- The text starts with an end tag of that name. -/
def Ends (name text : List Char) : Prop :=
  ∃ z more, text = '<' :: '/' :: (name ++ z :: more) ∧ isNameChar z = false

theorem Ends.unique {name other text a : List Char} (isName : IsName name) (isOther : IsName other)
    (ends : Ends name text) (same : text = '<' :: '/' :: (other ++ '>' :: a)) : name = other := by
  rcases ends with ⟨z, more, written, stops⟩
  rw [written] at same
  exact (span_unique isName.all isOther.all stops (by decide)
    (List.cons.inj (List.cons.inj same).2).2).1

/-- Behind the end of a field, its end tag stands only in the text of another. -/
theorem exists_within {name text after : List Char} (isName : IsName name) (ends : Ends name text)
    (outside : ¬text <:+ after) :
    ∀ {fields : List Field}, (∀ field ∈ fields, IsName field.name ∧ field.name ≠ name) →
      text <:+ normalized fields ++ after →
      ∃ before field others inside, fields = before ++ field :: others ∧ inside ≠ [] ∧
        inside <:+ field.source ∧
          text = inside ++ (field.endTag ++ (normalized others ++ after))
  | [], _, behind => absurd behind outside
  | field :: fields, named, behind => by
      rcases named field List.mem_cons_self with ⟨isField, other⟩
      have opens : ∃ more, text = '<' :: more := by
        rcases ends with ⟨z, more, written, _⟩
        exact ⟨_, written⟩
      rw [normalized_cons] at behind
      rcases suffix_append_cases behind with behind | ⟨tag, present, inTag, split⟩
      · rcases suffix_append_cases behind with behind | ⟨inside, present, inText, split⟩
        · rcases suffix_append_cases behind with behind | ⟨tag, present, inTag, split⟩
          · rcases exists_within isName ends outside
              (fun other member => named other (List.mem_cons_of_mem _ member)) behind with
              ⟨before, found, others, inside, parts, present, inText, split⟩
            exact ⟨field :: before, found, others, inside, by rw [parts]; rfl, present, inText,
              split⟩
          · have noMarkup : '<' ∉ '/' :: (field.name ++ ['>']) :=
              List.not_mem_cons_of_ne_of_not_mem (by decide) isField.tag_no_markup
            rw [suffix_tag noMarkup opens present inTag split, List.cons_append, List.cons_append,
              List.append_assoc] at split
            exact absurd (ends.unique isName isField split).symm other
        · exact ⟨[], field, fields, inside, rfl, present, inText, split⟩
      · rw [suffix_tag isField.tag_no_markup opens present inTag split] at split
        rcases ends with ⟨z, more, written, _⟩
        rcases isField.start_ne with ⟨first, letters, spelled, start⟩
        rw [written, spelled] at split
        cases (List.cons.inj (List.cons.inj split).2).1
        exact absurd start (by decide)

/-- Among end tags, only one with its name starts with an end tag. -/
theorem Ends.mem_of_suffix {name text : List Char} (isName : IsName name)
    (ends : Ends name text) :
    ∀ {fields : List Field}, (∀ field ∈ fields, IsName field.name) →
      text <:+ fields.flatMap Field.endTag → ∃ field ∈ fields, field.name = name
  | [], _, behind => by
      rcases ends with ⟨z, more, written, _⟩
      rw [written] at behind
      cases List.suffix_nil.mp behind
  | field :: fields, named, behind => by
      have isField := named field List.mem_cons_self
      have opens : ∃ more, text = '<' :: more := by
        rcases ends with ⟨z, more, written, _⟩
        exact ⟨_, written⟩
      rcases suffix_append_cases behind with behind | ⟨tag, present, inTag, split⟩
      · rcases Ends.mem_of_suffix isName ends
          (fun other member => named other (List.mem_cons_of_mem _ member)) behind with
          ⟨found, member, same⟩
        exact ⟨found, List.mem_cons_of_mem _ member, same⟩
      · have noMarkup : '<' ∉ '/' :: (field.name ++ ['>']) :=
          List.not_mem_cons_of_ne_of_not_mem (by decide) isField.tag_no_markup
        rw [suffix_tag noMarkup opens present inTag split, List.cons_append, List.cons_append,
          List.append_assoc] at split
        exact ⟨field, List.mem_cons_self, (ends.unique isName isField split).symm⟩

theorem EndTag.ends {close name : List Char} (read : EndTag close name) (a : List Char) :
    Ends name (close ++ a) := by
  rcases read.next a with ⟨z, more, written, stops⟩
  exact ⟨z, more, written, stops⟩

theorem EndTag.length_pos {close name : List Char} (read : EndTag close name) :
    0 < close.length := by
  rcases read.spaces with ⟨spaces, _, written⟩
  rw [written]
  exact Nat.succ_pos _

/-- Of the elements of a content, all that stand behind some are read behind them. -/
theorem Content.drop {more : List Item} :
    ∀ {fields : List Field} {source : List Char},
      Content source (fields.map Field.item ++ more) →
      ∃ rest, rest <:+ source ∧ Content rest more
  | [], source, read => ⟨source, List.suffix_refl _, read⟩
  | field :: fields, source, read => by
      rcases read.next rfl with ⟨skipped, tag, rest, written, _, outcome⟩
      have behind : rest <:+ source := by
        rw [written, ← List.append_assoc]
        exact List.suffix_append _ _
      rcases outcome with ⟨_, _, others⟩ | ⟨_, body, close, after, split, _, _, others⟩
      · rcases Content.drop others with ⟨last, ends, found⟩
        exact ⟨last, ends.trans behind, found⟩
      · rcases Content.drop others with ⟨last, ends, found⟩
        refine ⟨last, ends.trans (List.IsSuffix.trans ?_ behind), found⟩
        rw [split, ← List.append_assoc]
        exact List.suffix_append _ _

/-- Fields that can be told apart from each other and from what follows them. -/
structure Distinct (fields : List Field) (after : List Char) : Prop where
  isName : ∀ field ∈ fields, IsName field.name
  nodup : (fields.map Field.name).Nodup
  outside : ∀ field ∈ fields, ∀ text, Ends field.name text → ¬text <:+ after

theorem Distinct.sublist {fields others : List Field} {after : List Char}
    (distinct : Distinct fields after) (sublist : others.Sublist fields) :
    Distinct others after :=
  ⟨fun field member => distinct.isName field (sublist.subset member),
    distinct.nodup.sublist (sublist.map _),
    fun field member => distinct.outside field (sublist.subset member)⟩

/-- No field is read past its end: its own end tag would then stand in the text of a later
field, and so that field, too, would be read past its end. -/
theorem read_to_end (after : List Char) :
    ∀ {field : Field} {fields : List Field} {close inner tail : List Char},
      Distinct (field :: fields) after → EndTag close field.name →
      Content inner (fields.map Field.item) →
      close ++ (inner ++ tail) <:+ field.endTag ++ (normalized fields ++ after) →
      close ++ (inner ++ tail) = field.endTag ++ (normalized fields ++ after)
  | field, fields, close, inner, tail, distinct, endTag, content, behind => by
      have isName := distinct.isName field List.mem_cons_self
      have ends := endTag.ends (inner ++ tail)
      rcases suffix_append_cases behind with behind | ⟨tag, present, inTag, split⟩
      · have others : ∀ other ∈ fields, IsName other.name ∧ other.name ≠ field.name := by
          intro other member
          refine ⟨distinct.isName other (List.mem_cons_of_mem _ member), ?_⟩
          intro same
          exact (List.nodup_cons.mp distinct.nodup).1 (List.mem_map.mpr ⟨other, member, same⟩)
        rcases exists_within isName ends (distinct.outside field List.mem_cons_self _ ends) others
          behind with ⟨before, found, rest, inside, parts, present, inText, split⟩
        rw [parts, List.map_append] at content
        rcases Content.drop content with ⟨last, inInner, foundContent⟩
        rcases foundContent.next rfl with ⟨skipped, tag, following, written, _, outcome⟩
        rcases outcome with ⟨empty, _, _⟩ | ⟨_, body, foundClose, more, cut, foundText, foundEnd, rests⟩
        · have noText : found.text = [] := List.map_eq_nil_iff.mp empty
          rw [Field.source, noText] at inText
          exact absurd (List.suffix_nil.mp inText) present
        · have fewer : rest.length < fields.length := by
            rw [parts, List.length_append, List.length_cons]
            omega
          rcases inInner with ⟨start, whole⟩
          have readOn : close ++ (start ++ (skipped ++ (tag ++ body))) ++
              (foundClose ++ (more ++ tail)) = close ++ (inner ++ tail) := by
            rw [← whole, written, cut]
            simp only [List.append_assoc]
          have shorter : (foundClose ++ (more ++ tail)).length <
              (found.endTag ++ (normalized rest ++ after)).length := by
            have inSource := inText.length_le
            have inFound := normalizeLineEnds_length_le found.text
            have inBody := (foundText.characters rfl).1
            have nonempty := endTag.length_pos
            have lengths := congrArg List.length (readOn.trans split)
            rw [Field.source] at inSource
            simp only [List.length_append] at lengths ⊢
            omega
          have behindFound := List.suffix_of_suffix_length_le ⟨_, readOn⟩ ⟨_, split.symm⟩
            (Nat.le_of_lt shorter)
          have distinctFound : Distinct (found :: rest) after := by
            apply distinct.sublist
            rw [parts]
            exact (List.sublist_append_right _ _).cons _
          rw [read_to_end after distinctFound foundEnd rests behindFound] at shorter
          exact absurd shorter (Nat.lt_irrefl _)
      · have noMarkup : '<' ∉ '/' :: (field.name ++ ['>']) :=
          List.not_mem_cons_of_ne_of_not_mem (by decide) isName.tag_no_markup
        have opens : ∃ more, close ++ (inner ++ tail) = '<' :: more := by
          rcases ends with ⟨z, more, written, _⟩
          exact ⟨_, written⟩
        rw [split, suffix_tag noMarkup opens present inTag split, Field.endTag]
termination_by _ fields => fields.length

theorem Field.isStartTag {field : Field} (isName : IsName field.name) :
    StartTag field.startTag field.name [] :=
  ⟨isName, [], .nil (fun _ member => by cases member), rfl⟩

theorem Field.isEndTag {field : Field} (isName : IsName field.name) :
    EndTag field.endTag field.name :=
  ⟨isName, [], (fun _ member => by cases member), rfl⟩

/-- Nothing is skipped where a start tag stands. -/
theorem IsSkipped.eq_nil {skipped name a b : List Char} (isSkipped : IsSkipped skipped)
    (isName : IsName name) (same : skipped ++ a = '<' :: (name ++ b)) : skipped = [] := by
  rcases isSkipped with nothing | ⟨c, rest, written, mark⟩
  · exact nothing
  · rcases isName.start_ne with ⟨first, letters, spelled, start⟩
    rw [written, spelled] at same
    cases (List.cons.inj (List.cons.inj same).2).1
    rcases mark with mark | mark
    · exact absurd start (by rw [mark]; decide)
    · exact absurd start (by rw [mark]; decide)

/-- Where a start tag stands, an element with that name and no attributes starts with it. -/
theorem Content.next_full {source tail name rest : List Char}
    {attributes : List (List Char × List Char)} {tag : List Char} {content more : List Item}
    (read : Content source (.element name attributes content :: more))
    (startTag : StartTag tag name attributes) (same : source ++ tail = tag ++ rest) :
    ∃ body close after, rest = body ++ (close ++ (after ++ tail)) ∧ Content body content ∧
      EndTag close name ∧ Content after more := by
  rcases read.next rfl with ⟨skipped, found, following, written, isSkipped, outcome⟩
  rw [written, List.append_assoc, List.append_assoc] at same
  have nothing : skipped = [] := by
    rcases startTag.attributes with ⟨text, _, isTag⟩
    rw [isTag, List.cons_append, List.append_assoc] at same
    exact isSkipped.eq_nil startTag.isName same
  rw [nothing, List.nil_append] at same
  rcases outcome with ⟨_, emptyTag, _⟩ | ⟨foundTag, body, close, after, cut, inner, endTag, others⟩
  · cases (emptyTag.unique (.inr rfl) (.inl rfl) startTag same).1
  · have tags := foundTag.unique (.inl rfl) (.inl rfl) startTag same
    refine ⟨body, close, after, ?_, inner, endTag, others⟩
    rw [← tags.2.2, cut, List.append_assoc, List.append_assoc]

/-- An end tag that is written out has no spaces. -/
theorem EndTag.eq_endTag {field : Field} {close a b : List Char}
    (read : EndTag close field.name) (same : close ++ a = field.endTag ++ b) :
    close = field.endTag ∧ a = b := by
  rcases read.spaces with ⟨spaces, areSpaces, written⟩
  have rest : spaces ++ '>' :: a = [] ++ '>' :: b := by
    rw [written, Field.endTag] at same
    have cut : field.name ++ (spaces ++ ['>']) ++ a = field.name ++ ['>'] ++ b :=
      (List.cons.inj (List.cons.inj same).2).2
    simp only [List.append_assoc, List.singleton_append] at cut
    exact List.append_cancel_left cut
  rcases span_unique areSpaces (fun _ member => by cases member) (by decide) (by decide) rest with
    ⟨nothing, _, tails⟩
  exact ⟨by rw [written, nothing, List.nil_append, Field.endTag], tails⟩

/-- Fields that are read as what was spliced had only texts that stand for themselves. -/
theorem plain_of_content {after : List Char} :
    ∀ {fields : List Field} {inner tail : List Char}, Distinct fields after →
      Content inner (fields.map Field.item) → inner ++ tail = normalized fields ++ after →
      ∀ field ∈ fields, field.IsPlain
  | [], _, _, _, _, _ => fun _ member => by cases member
  | field :: fields, inner, tail, distinct, read, same => by
      have isName := distinct.isName field List.mem_cons_self
      rw [normalized_cons] at same
      rcases read.next_full (Field.isStartTag isName) same with
        ⟨body, close, following, written, content, endTag, others⟩
      have reading := content.characters rfl
      have inSource := normalizeLineEnds_length_le field.text
      have behind : close ++ (following ++ tail) <:+
          field.endTag ++ (normalized fields ++ after) := by
        refine List.suffix_of_suffix_length_le ⟨body, written.symm⟩ (List.suffix_append _ _) ?_
        have lengths := congrArg List.length written
        rw [Field.source] at lengths
        simp only [List.length_append] at lengths reading ⊢
        omega
      have closes := read_to_end after distinct endTag others behind
      rw [closes] at written
      have sameBody : field.source = body := List.append_cancel_right written
      have whole := reading.2 (sameBody ▸ inSource)
      have plain : field.IsPlain := by
        refine ⟨whole.2, ?_⟩
        rw [← whole.1, ← sameBody]
        exact not_mem_normalizeLineEnds field.text
      intro other member
      rcases List.mem_cons.mp member with isField | member
      · rw [isField]
        exact plain
      · exact plain_of_content (distinct.sublist (List.sublist_cons_self _ _)) others
          (EndTag.eq_endTag endTag closes).2 other member

theorem content_of_plain :
    ∀ {fields : List Field}, (∀ field ∈ fields, IsName field.name) →
      (∀ field ∈ fields, field.IsPlain) →
      Content (normalized fields) (fields.map Field.item)
  | [], _, _ => .nil
  | field :: fields, isName, plain => by
      rcases plain field List.mem_cons_self with ⟨isPlain, absent⟩
      have named := isName field List.mem_cons_self
      have others := content_of_plain
        (fun other member => isName other (List.mem_cons_of_mem _ member))
        fun other member => plain other (List.mem_cons_of_mem _ member)
      have text : Content field.source (field.text.map Item.character) := by
        rw [Field.source, normalizeLineEnds_of_not_mem absent]
        exact isPlain.content
      have whole := Content.element (Field.isStartTag named) text (Field.isEndTag named) others
      have written := normalized_cons field fields []
      rw [List.append_nil, List.append_nil] at written
      rw [written]
      exact whole

/-! ## Documents -/

theorem Misc.eq_nil {before name a b : List Char} (misc : Misc before) (isName : IsName name)
    (same : before ++ a = '<' :: (name ++ b)) : before = [] := by
  cases misc with
  | nil => rfl
  | space spaces =>
      cases (List.cons.inj same).1
      exact absurd spaces (by decide)
  | comment isComment _ =>
      rcases isComment.opens with ⟨_, written⟩
      exact (IsSkipped.append (.inl rfl) written _).eq_nil isName same
  | instruction isInstruction _ =>
      rcases isInstruction.opens with ⟨_, written⟩
      exact (IsSkipped.append (.inr rfl) written _).eq_nil isName same

theorem Element.content {markup : List Char} {item : Item} (element : Element markup item) :
    Content markup [item] := by
  cases element with
  | empty emptyTag =>
      have whole := Content.empty emptyTag .nil
      rwa [List.append_nil] at whole
  | full startTag inner endTag =>
      have whole := Content.element startTag inner endTag .nil
      rwa [List.append_nil] at whole

section

variable {outerTag outer outerClose innerTag inner innerClose : List Char}
  {outerAttributes innerAttributes : List (List Char × List Char)} {fields : List Field}

/-- Fields spliced into two elements are a document of the texts exactly if each text stands
for itself. -/
theorem document_spliced_iff (outerStart : StartTag outerTag outer outerAttributes)
    (outerEnd : EndTag outerClose outer) (innerStart : StartTag innerTag inner innerAttributes)
    (innerEnd : EndTag innerClose inner) (absentOuter : '\r' ∉ outerTag)
    (absentInner : '\r' ∉ innerTag) (absentClose : '\r' ∉ innerClose ++ outerClose)
    (distinct : Distinct fields (innerClose ++ outerClose)) :
    Document (outerTag ++ (innerTag ++ (spliced fields ++ (innerClose ++ outerClose))))
        (.element outer outerAttributes
          [.element inner innerAttributes (fields.map Field.item)]) ↔
      ∀ field ∈ fields, field.IsPlain := by
  have written : normalizeLineEnds
      (outerTag ++ (innerTag ++ (spliced fields ++ (innerClose ++ outerClose)))) =
        outerTag ++ (innerTag ++ (normalized fields ++ (innerClose ++ outerClose))) := by
    rw [normalizeLineEnds_append_left absentOuter, normalizeLineEnds_append_left absentInner,
      normalize_spliced _ distinct.isName, normalizeLineEnds_of_not_mem absentClose]
  constructor
  · rintro ⟨before, markup, after, parts, misc, element, _⟩
    rw [written] at parts
    have nothing : before = [] := by
      rcases outerStart.attributes with ⟨text, _, isTag⟩
      rw [isTag, List.cons_append, List.append_assoc] at parts
      exact misc.eq_nil outerStart.isName parts.symm
    rw [nothing, List.nil_append] at parts
    rcases element.content.next_full outerStart parts.symm with
      ⟨body, close, rest, inside, content, _, _⟩
    rcases content.next_full innerStart inside.symm with
      ⟨innerBody, _, _, within, innerContent, _, _⟩
    exact plain_of_content distinct innerContent within.symm
  · intro plain
    have content := content_of_plain distinct.isName plain
    have element := Element.full outerStart (Content.element innerStart content innerEnd .nil)
      outerEnd
    refine ⟨[], _, [], ?_, .nil, element, .nil⟩
    rw [written]
    simp only [List.nil_append, List.append_nil, List.append_assoc]

end

end XML

end ConnectSDK
