import ConnectSDK.Helpers.ConnectUtil

/-! # Round trips of entities

`entityEncode` writes four characters as entities. `entityDecode` reads `&amp;` first, and
then takes what it has read for entities again.
-/

namespace ConnectSDK

namespace ConnectUtil

/-! ## Entities -/

/-- Characters that are written as entities, with what follows the ampersand. -/
abbrev Entities := List (Char × List Char)

/-- An entity, or the character itself. -/
def escaped (entities : Entities) (character : Char) : List Char :=
  match entities.lookup character with
  | some name => '&' :: name
  | none => [character]

/-- The text is written as it is, and holds no ampersand. -/
def Plain (entities : Entities) (text : List Char) : Prop :=
  ∀ character ∈ text, entities.lookup character = none ∧ character ≠ '&'

/-- No entity begins like the one with this name, and none holds a further ampersand. -/
def Apart (name : List Char) (entities : Entities) : Prop :=
  ∀ entry ∈ entities, '&' ∉ entry.2 ∧ entry.2 ≠ [] ∧ ¬ name.take 1 <+: entry.2

instance (entities : Entities) (text : List Char) : Decidable (Plain entities text) :=
  List.decidableBAll (fun character => entities.lookup character = none ∧ character ≠ '&') text

instance (name : List Char) (entities : Entities) : Decidable (Apart name entities) :=
  inferInstanceAs (Decidable (∀ entry ∈ entities, _))

theorem escaped_cons (character other : Char) (name : List Char) (entities : Entities) :
    escaped ((character, name) :: entities) other =
      if other = character then '&' :: name else escaped entities other := by
  rw [escaped, escaped, List.lookup_cons]
  by_cases same : other = character
  · rw [if_pos same, same, beq_self_eq_true]
  · rw [if_neg same, beq_false_of_ne same]

theorem escaped_of_lookup_none {entities : Entities} {character : Char}
    (plain : entities.lookup character = none) : escaped entities character = [character] := by
  rw [escaped, plain]

theorem Plain.flatMap_escaped {entities : Entities} {text : List Char}
    (plain : Plain entities text) : text.flatMap (escaped entities) = text := by
  induction text with
  | nil => rfl
  | cons character rest induction =>
      have parts := List.forall_mem_cons.mp plain
      rw [List.flatMap_cons, escaped_of_lookup_none parts.1.1, induction parts.2]
      rfl

/-- Where a plain text begins, it began before anything was escaped. -/
theorem Plain.prefix_flatMap_iff {entities : Entities} {searched : List Char}
    (plain : Plain entities searched) (text : List Char) :
    searched <+: text.flatMap (escaped entities) ↔ searched <+: text := by
  induction searched generalizing text with
  | nil => exact iff_of_true List.nil_prefix List.nil_prefix
  | cons character rest induction =>
      have parts := List.forall_mem_cons.mp plain
      cases text with
      | nil => exact Iff.rfl
      | cons other text =>
          cases special : entities.lookup other with
          | none =>
              rw [List.flatMap_cons, escaped_of_lookup_none special, List.singleton_append,
                List.cons_prefix_cons, List.cons_prefix_cons, induction parts.2]
          | some name =>
              have written : escaped entities other = '&' :: name := by
                rw [escaped, special]
              rw [List.flatMap_cons, written, List.cons_append, List.cons_prefix_cons,
                List.cons_prefix_cons]
              refine iff_of_false (fun begins => parts.1.2 begins.1) fun begins => ?_
              rw [← begins.1, parts.1.1] at special
              cases special

/-! ## Reading one entity -/

theorem mem_of_lookup {entities : Entities} {character : Char} {name : List Char}
    (special : entities.lookup character = some name) : (character, name) ∈ entities := by
  rcases List.lookup_eq_some_iff.mp special with ⟨before, after, rfl, _⟩
  exact List.mem_append_right before List.mem_cons_self

/-- Another entity is left as it is. -/
theorem replacing_entity_apart {name other : List Char} (replacement : List Char)
    {entities : Entities} (apart : Apart name entities) {character : Char}
    (special : entities.lookup character = some other) (rest : List Char) :
    replacingOccurrences ('&' :: name) replacement ('&' :: other ++ rest) =
      '&' :: other ++ replacingOccurrences ('&' :: name) replacement rest := by
  rcases apart _ (mem_of_lookup special) with ⟨single, nonempty, different⟩
  have here : ¬ '&' :: name <+: '&' :: (other ++ rest) := by
    intro begins
    have begun := (List.take_prefix 1 name).trans (List.cons_prefix_cons.mp begins).2
    refine different (List.prefix_of_prefix_length_le begun (List.prefix_append other rest) ?_)
    exact (List.length_take_le 1 name).trans (List.length_pos_of_ne_nil nonempty)
  rw [List.cons_append, replacingOccurrences_cons (List.cons_ne_nil _ _) _ here,
    replacingOccurrences_append_of_not_mem name replacement single, List.cons_append]

/-- Reading one entity undoes its escape, and reads it where the text held it before. -/
theorem replacing_entity {character : Char} {name : List Char} {entities : Entities}
    (plain : Plain ((character, name) :: entities) name)
    (ampersand : List.lookup '&' ((character, name) :: entities) = none)
    (apart : Apart name entities) (single : entities.lookup character = none)
    (text : List Char) :
    replacingOccurrences ('&' :: name) [character]
        (text.flatMap (escaped ((character, name) :: entities))) =
      (replacingOccurrences ('&' :: name) [character] text).flatMap (escaped entities) := by
  have nonempty : '&' :: name ≠ [] := List.cons_ne_nil '&' name
  induction text using occurrences_induction nonempty with
  | nil => simp
  | occurs rest induction =>
      rw [List.flatMap_append, List.flatMap_cons, escaped_of_lookup_none ampersand,
        plain.flatMap_escaped, List.singleton_append,
        replacingOccurrences_append nonempty, replacingOccurrences_append nonempty,
        List.flatMap_append, induction]
      congr 1
      rw [List.flatMap_singleton, escaped_of_lookup_none single]
  | skips other rest absent induction =>
      rw [replacingOccurrences_cons nonempty _ absent, List.flatMap_cons, List.flatMap_cons,
        ← induction, escaped_cons]
      split_ifs with same
      · rw [same, escaped_of_lookup_none single]
        exact replacingOccurrences_append nonempty _ _
      · cases special : entities.lookup other with
        | some written =>
            have entity : escaped entities other = '&' :: written := by
              rw [escaped, special]
            rw [entity]
            exact replacing_entity_apart [character] apart special _
        | none =>
            rw [escaped_of_lookup_none special, List.singleton_append]
            apply replacingOccurrences_cons nonempty
            intro begins
            have parts := List.cons_prefix_cons.mp begins
            refine absent (List.cons_prefix_cons.mpr ⟨parts.1, ?_⟩)
            exact (plain.prefix_flatMap_iff rest).mp parts.2

/-- The entity of the ampersand leaves no ampersand of the text outside of entities. -/
theorem replacing_ampersand {name : List Char} {entities : Entities}
    (apart : Apart name entities) (single : entities.lookup '&' = none) (text : List Char) :
    replacingOccurrences ('&' :: name) ['&']
        (text.flatMap (escaped (('&', name) :: entities))) =
      text.flatMap (escaped entities) := by
  have nonempty : '&' :: name ≠ [] := List.cons_ne_nil '&' name
  induction text with
  | nil => simp
  | cons other rest induction =>
      rw [List.flatMap_cons, List.flatMap_cons, ← induction, escaped_cons]
      split_ifs with same
      · rw [same, escaped_of_lookup_none single]
        exact replacingOccurrences_append nonempty _ _
      · cases special : entities.lookup other with
        | some written =>
            have entity : escaped entities other = '&' :: written := by
              rw [escaped, special]
            rw [entity]
            exact replacing_entity_apart ['&'] apart special _
        | none =>
            rw [escaped_of_lookup_none special, List.singleton_append]
            apply replacingOccurrences_cons nonempty
            intro begins
            exact same (List.cons_prefix_cons.mp begins).1.symm

/-! ## Writing one entity -/

theorem flatMap_escaped_nil (text : List Char) : text.flatMap (escaped []) = text :=
  List.flatMap_singleton' text

/-- Writing one more entity leaves those that are written before it. -/
theorem replacing_escaped {entities : Entities} {character : Char} (name : List Char)
    (absent : ∀ entry ∈ entities, character ∉ '&' :: entry.2) (text : List Char) :
    replacingOccurrences [character] ('&' :: name) (text.flatMap (escaped entities)) =
      text.flatMap (escaped (entities ++ [(character, name)])) := by
  rw [replacingOccurrences_singleton, List.flatMap_assoc]
  congr 1
  funext other
  rw [escaped, escaped, List.lookup_append]
  cases special : entities.lookup other with
  | some written =>
      have kept : ∀ item ∈ '&' :: written, item ≠ character := by
        intro item member same
        exact absent _ (mem_of_lookup special) (same ▸ member)
      rw [Option.some_or]
      exact (List.flatMap_congr fun item member => if_neg (kept item member)).trans
        (List.flatMap_singleton' _)
  | none =>
      rw [Option.none_or, List.flatMap_singleton, List.lookup_cons]
      by_cases same : other = character
      · rw [if_pos same, same, beq_self_eq_true]
      · rw [if_neg same, beq_false_of_ne same]
        rfl

/-- A character that has an entity, and stands in none, is not written. -/
theorem not_mem_flatMap_escaped {entities : Entities} {character : Char}
    (special : (entities.lookup character).isSome = true)
    (absent : ∀ entry ∈ entities, character ∉ '&' :: entry.2) (text : List Char) :
    character ∉ text.flatMap (escaped entities) := by
  intro member
  rcases List.mem_flatMap.mp member with ⟨other, _, inside⟩
  rw [escaped] at inside
  split at inside
  · next name found => exact absent _ (mem_of_lookup found) inside
  · next plain =>
      rw [List.mem_singleton.mp inside, plain] at special
      cases special

/-- Each ampersand that is written begins an entity. -/
theorem begins_entity {entities : Entities}
    (special : (entities.lookup '&').isSome = true)
    (single : ∀ entry ∈ entities, '&' ∉ entry.2) {text before after : List Char}
    (split : text.flatMap (escaped entities) = before ++ '&' :: after) :
    ∃ entry ∈ entities, entry.2 <+: after := by
  induction text generalizing before with
  | nil => exact absurd split (by simp)
  | cons other rest induction =>
      rw [List.flatMap_cons] at split
      rcases List.append_eq_append_iff.mp split with ⟨more, _, later⟩ | ⟨part, block, here⟩
      · exact induction later
      · cases part with
        | nil => exact @induction [] here.symm
        | cons item part =>
            rcases List.cons.inj here with ⟨rfl, rfl⟩
            rw [escaped] at block
            split at block
            · next name found =>
                have entry := mem_of_lookup found
                refine ⟨_, entry, ?_⟩
                cases before with
                | nil =>
                    rw [(List.cons.inj block).2]
                    exact List.prefix_append part _
                | cons item before =>
                    refine absurd ?_ (single _ entry)
                    rw [(List.cons.inj block).2]
                    exact List.mem_append_right before List.mem_cons_self
            · next plain =>
                have same : '&' ∈ [other] := block ▸ List.mem_append_right before
                  List.mem_cons_self
                rw [← List.mem_singleton.mp same] at plain
                rw [plain] at special
                cases special

/-! ## The four entities -/

def lessThan : Char × List Char := ('<', ['l', 't', ';'])

def greaterThan : Char × List Char := ('>', ['g', 't', ';'])

def quotation : Char × List Char := ('"', ['q', 'u', 'o', 't', ';'])

def ampersand : Char × List Char := ('&', ['a', 'm', 'p', ';'])

/-- The replacement of one entity by `entityDecode`. -/
def readsEntity (entity : Char × List Char) (text : List Char) : List Char :=
  replacingOccurrences ('&' :: entity.2) [entity.1] text

theorem toList_entityEncode (input : String) :
    (entityEncode input).toList =
      input.toList.flatMap (escaped [ampersand, quotation, greaterThan, lessThan]) := by
  have written : (entityEncode input).toList =
      replacingOccurrences ['<'] ('&' :: lessThan.2)
        (replacingOccurrences ['>'] ('&' :: greaterThan.2)
          (replacingOccurrences ['"'] ('&' :: quotation.2)
            (replacingOccurrences ['&'] ('&' :: ampersand.2)
              (input.toList.flatMap (escaped []))))) := by
    rw [entityEncode, String.toList_ofList, flatMap_escaped_nil]
    rfl
  rw [written, replacing_escaped _ (by decide), replacing_escaped _ (by decide),
    replacing_escaped _ (by decide), replacing_escaped _ (by decide)]
  rfl

theorem toList_entityDecode (input : String) :
    (entityDecode input).toList =
      readsEntity lessThan (readsEntity greaterThan (readsEntity quotation
        (readsEntity ampersand input.toList))) := by
  rw [entityDecode, String.toList_ofList]
  rfl

/-- All entities are read that the text was written with, and all but the ampersand's that
the text held before. -/
theorem toList_entityDecode_entityEncode (input : String) :
    (entityDecode (entityEncode input)).toList =
      readsEntity lessThan (readsEntity greaterThan (readsEntity quotation
        input.toList)) := by
  rw [toList_entityDecode, toList_entityEncode]
  have first : readsEntity ampersand (input.toList.flatMap
      (escaped [ampersand, quotation, greaterThan, lessThan])) =
      input.toList.flatMap (escaped [quotation, greaterThan, lessThan]) :=
    replacing_ampersand (by decide) (by decide) input.toList
  have second (text : List Char) : readsEntity quotation (text.flatMap
      (escaped [quotation, greaterThan, lessThan])) =
      (readsEntity quotation text).flatMap (escaped [greaterThan, lessThan]) :=
    replacing_entity (by decide) (by decide) (by decide) (by decide) text
  have third (text : List Char) : readsEntity greaterThan (text.flatMap
      (escaped [greaterThan, lessThan])) =
      (readsEntity greaterThan text).flatMap (escaped [lessThan]) :=
    replacing_entity (by decide) (by decide) (by decide) (by decide) text
  have fourth (text : List Char) : readsEntity lessThan (text.flatMap
      (escaped [lessThan])) = (readsEntity lessThan text).flatMap (escaped []) :=
    replacing_entity (by decide) (by decide) (by decide) (by decide) text
  rw [first, second, third, fourth, flatMap_escaped_nil]

/-! ## Round trips -/

theorem readsEntity_le {entity : Char × List Char} (long : entity.2 ≠ [])
    (text : List Char) : (readsEntity entity text).length ≤ text.length := by
  apply length_replacingOccurrences_le
  exact Nat.succ_lt_succ (List.length_pos_of_ne_nil long)

theorem readsEntity_lt {entity : Char × List Char} (long : entity.2 ≠ [])
    {text : List Char} (present : '&' :: entity.2 <:+: text) :
    (readsEntity entity text).length < text.length := by
  refine length_replacingOccurrences_lt ?_ present
  exact Nat.succ_lt_succ (List.length_pos_of_ne_nil long)

theorem readsEntity_of_absent {entity : Char × List Char} {text : List Char}
    (absent : ¬ '&' :: entity.2 <:+: text) : readsEntity entity text = text :=
  replacingOccurrences_of_not_infix (List.cons_ne_nil _ _) [entity.1] absent

/-- The text already holds an entity, other than the one of the ampersand. -/
def HoldsEntity (input : String) : Prop :=
  ∃ entity ∈ [quotation, greaterThan, lessThan], '&' :: entity.2 <:+: input.toList

instance (input : String) : Decidable (HoldsEntity input) :=
  inferInstanceAs (Decidable (∃ entity ∈ [quotation, greaterThan, lessThan], _))

/-- Nothing that is written has to be escaped. -/
def Escaped (text : String) : Prop :=
  '<' ∉ text.toList ∧ '>' ∉ text.toList ∧ '"' ∉ text.toList ∧
    ∀ before after, text.toList = before ++ '&' :: after →
      ∃ entity ∈ [ampersand, quotation, greaterThan, lessThan], entity.2 <+: after

theorem escaped_entityEncode (input : String) : Escaped (entityEncode input) := by
  rw [Escaped, toList_entityEncode]
  refine ⟨?_, ?_, ?_, ?_⟩
  · exact not_mem_flatMap_escaped (by decide) (by decide) input.toList
  · exact not_mem_flatMap_escaped (by decide) (by decide) input.toList
  · exact not_mem_flatMap_escaped (by decide) (by decide) input.toList
  · intro before after split
    exact begins_entity (by decide) (by decide) split

theorem entityDecode_entityEncode_iff (input : String) :
    entityDecode (entityEncode input) = input ↔ ¬ HoldsEntity input := by
  rw [← String.toList_inj, toList_entityDecode_entityEncode]
  constructor
  · rintro same ⟨entity, member, present⟩
    have last := readsEntity_le (show lessThan.2 ≠ [] by decide)
      (readsEntity greaterThan (readsEntity quotation input.toList))
    have middle := readsEntity_le (show greaterThan.2 ≠ [] by decide)
      (readsEntity quotation input.toList)
    have first := readsEntity_le (show quotation.2 ≠ [] by decide) input.toList
    have length := congrArg List.length same
    by_cases quoted : '&' :: quotation.2 <:+: input.toList
    · have shorter := readsEntity_lt (by decide) quoted
      omega
    rw [readsEntity_of_absent quoted] at length last middle
    by_cases greater : '&' :: greaterThan.2 <:+: input.toList
    · have shorter := readsEntity_lt (by decide) greater
      omega
    rw [readsEntity_of_absent greater] at length last
    by_cases less : '&' :: lessThan.2 <:+: input.toList
    · have shorter := readsEntity_lt (by decide) less
      omega
    simp only [List.mem_cons, List.not_mem_nil, or_false] at member
    rcases member with rfl | rfl | rfl
    · exact quoted present
    · exact greater present
    · exact less present
  · intro free
    have absent (entity) (member : entity ∈ [quotation, greaterThan, lessThan]) :
        ¬ '&' :: entity.2 <:+: input.toList := fun present => free ⟨entity, member, present⟩
    rw [readsEntity_of_absent (absent quotation (by decide)),
      readsEntity_of_absent (absent greaterThan (by decide)),
      readsEntity_of_absent (absent lessThan (by decide))]

/-- `entityEncode` leaves nothing to escape, and is undone by `entityDecode`, exactly for
the texts that hold none of the entities of a quotation mark and of the two brackets. -/
theorem entity_round_trip_iff (input : String) :
    entityDecode (entityEncode input) = input ∧ Escaped (entityEncode input) ↔
      ¬ HoldsEntity input := by
  rw [entityDecode_entityEncode_iff]
  exact and_iff_left (escaped_entityEncode input)

/-- The ampersand is read first, and the entity that appears is read again. -/
theorem written_entity_read_twice :
    entityDecode (entityEncode "&lt;") = "<" ∧
      ¬ (entityDecode (entityEncode "&lt;") = "&lt;" ∧ Escaped (entityEncode "&lt;")) := by
  have read : entityDecode (entityEncode "&lt;") = "<" := by
    rw [← String.toList_inj, toList_entityDecode_entityEncode]
    decide
  refine ⟨read, fun kept => ?_⟩
  rw [read] at kept
  exact absurd kept.1 (by decide)

end ConnectUtil

end ConnectSDK
