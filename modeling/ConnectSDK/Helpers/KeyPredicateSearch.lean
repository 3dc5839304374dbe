import Mathlib.Data.List.Dedup
import ConnectSDK.Foundation.JSON

/-! # Searching dictionaries by key suffix

The category `NSDictionary (KeyPredicateSearch)`. The outer `none` of a search is an
exception, the inner one `nil`.
-/

namespace ConnectSDK

/-- `self ENDSWITH suffix`, which no string does for an empty suffix. -/
def endsWith (suffix key : String) : Bool :=
  !suffix.isEmpty && suffix.toList.isSuffixOf key.toList

namespace JSON

/-- `[json isKindOfClass:[NSDictionary class]]`. -/
def isDictionary : JSON → Bool
  | .object _ => true
  | _ => false

namespace Fields

def allKeys (fields : Fields) : List String :=
  (fields.map Prod.fst).dedup

/-- Several keys that match raise an exception. -/
def objectForKeyWithPredicate (fields : Fields) (predicate : String → Bool) :
    Option (Option JSON) :=
  let predicateKeys := fields.allKeys.filter predicate
  if predicateKeys.length > 1 then none
  else some (predicateKeys.head?.bind fields.value?)

/-- A key of a dictionary has a value. -/
theorem value?_of_mem_allKeys {fields : Fields} {key : String}
    (member : key ∈ allKeys fields) : ∃ value, fields.value? key = some value := by
  rw [allKeys, List.mem_dedup] at member
  induction fields with
  | nil => cases member
  | cons entry rest induction =>
      rw [value?_cons]
      by_cases same : key = entry.1
      · exact ⟨entry.2, if_pos same⟩
      · rw [if_neg same]
        exact induction ((List.mem_cons.mp member).resolve_left same)

end Fields

/-- Only dictionaries understand the message, and `nil` answers `nil`. -/
def objectForKeyEndingWithString (receiver : Option JSON) (suffix : String) :
    Option (Option JSON) :=
  match receiver with
  | none => some none
  | some (.object fields) => Fields.objectForKeyWithPredicate fields (endsWith suffix)
  | some _ => none

/-- One search after the other. -/
def objectForKeysEndingWith : List String → Option JSON → Option (Option JSON)
  | [], receiver => some receiver
  | suffix :: path, receiver =>
      (objectForKeyEndingWithString receiver suffix).bind (objectForKeysEndingWith path)

/-! ## Searches that raise nothing -/

/-- Nothing is searched, or a dictionary in which at most one key has the suffix. -/
def Searchable (suffix : String) (receiver : Option JSON) : Prop :=
  ∀ json, receiver = some json → ∃ fields, json = .object fields ∧
    ((Fields.allKeys fields).filter (endsWith suffix)).length ≤ 1

/-- Each search of the path is one that raises nothing. -/
def Unambiguous : List String → Option JSON → Prop
  | [], _ => True
  | suffix :: path, receiver => Searchable suffix receiver ∧
      ∀ found, objectForKeyEndingWithString receiver suffix = some found →
        Unambiguous path found

theorem searchable_object_iff (suffix : String) (fields : Fields) :
    Searchable suffix (some (.object fields)) ↔
      ((Fields.allKeys fields).filter (endsWith suffix)).length ≤ 1 := by
  constructor
  · intro searchable
    rcases searchable _ rfl with ⟨others, same, atMostOne⟩
    cases same
    exact atMostOne
  · intro atMostOne json same
    cases same
    exact ⟨fields, rfl, atMostOne⟩

theorem not_searchable {suffix : String} {json : JSON} (other : json.isDictionary = false) :
    ¬ Searchable suffix (some json) := by
  intro searchable
  rcases searchable json rfl with ⟨fields, rfl, _⟩
  cases other

theorem objectForKeyEndingWithString_isSome_iff (receiver : Option JSON) (suffix : String) :
    (objectForKeyEndingWithString receiver suffix).isSome = true ↔
      Searchable suffix receiver := by
  cases receiver with
  | none => exact iff_of_true rfl nofun
  | some json =>
      cases json with
      | object fields =>
          rw [searchable_object_iff, objectForKeyEndingWithString,
            Fields.objectForKeyWithPredicate]
          split
          next several => exact iff_of_false Bool.false_ne_true (Nat.not_le_of_lt several)
          next single => exact iff_of_true rfl (Nat.le_of_not_lt single)
      | _ => exact iff_of_false Bool.false_ne_true (not_searchable rfl)

theorem Searchable.dictionary {suffix : String} {json : JSON}
    (searchable : Searchable suffix (some json)) : json.isDictionary = true := by
  rcases searchable json rfl with ⟨fields, dictionary, _⟩
  rw [dictionary]
  rfl

/-- What a search finds, if it raises nothing, is all that there is. -/
theorem filter_allKeys_of_searchable {suffix : String} {fields : Fields}
    (searchable : Searchable suffix (some (.object fields))) :
    (∃ key value, (Fields.allKeys fields).filter (endsWith suffix) = [key] ∧
        fields.value? key = some value ∧
        objectForKeyEndingWithString (some (.object fields)) suffix = some (some value)) ∨
      (Fields.allKeys fields).filter (endsWith suffix) = [] ∧
        objectForKeyEndingWithString (some (.object fields)) suffix = some none := by
  rcases searchable _ rfl with ⟨same, dictionary, single⟩
  cases dictionary
  simp only [objectForKeyEndingWithString, Fields.objectForKeyWithPredicate]
  rw [if_neg (by omega)]
  cases found : (Fields.allKeys fields).filter (endsWith suffix) with
  | nil => exact Or.inr ⟨rfl, rfl⟩
  | cons key rest =>
      rw [found, List.length_cons] at single
      have alone : rest = [] := List.eq_nil_of_length_eq_zero (by omega)
      have member : key ∈ Fields.allKeys fields :=
        List.mem_of_mem_filter (by rw [found]; exact List.mem_cons_self)
      rcases Fields.value?_of_mem_allKeys member with ⟨value, held⟩
      refine Or.inl ⟨key, value, by rw [alone], held, ?_⟩
      rw [List.head?_cons, Option.bind_some, held]

theorem objectForKeysEndingWith_isSome_iff :
    ∀ (path : List String) (receiver : Option JSON),
      (objectForKeysEndingWith path receiver).isSome = true ↔ Unambiguous path receiver
  | [], receiver => by simp [objectForKeysEndingWith, Unambiguous]
  | suffix :: path, receiver => by
      rw [objectForKeysEndingWith, Unambiguous, ← objectForKeyEndingWithString_isSome_iff]
      cases searched : objectForKeyEndingWithString receiver suffix with
      | none => simp
      | some found =>
          rw [Option.bind_some, objectForKeysEndingWith_isSome_iff path found]
          simp

end JSON

end ConnectSDK
