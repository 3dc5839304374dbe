import ConnectSDK.Foundation.JSON

/-! # Key-value coding

What `valueForKey:` and `valueForKeyPath:` answer. The outer `none` is an exception, the
inner one `nil`.
-/

namespace ConnectSDK

namespace JSON

mutual

/-- An array collects the values of its elements. A number, a text and `NSNull` have no
such key. -/
def valueForKey (key : String) : JSON → Option (Option JSON)
  | .object fields => some (Fields.value? fields key)
  | .array elements => (valuesForKey key elements).map fun values => some (.array values)
  | _ => none

/-- `NSNull` stands for the value of an element without one. -/
def valuesForKey (key : String) : List JSON → Option (List JSON)
  | [] => some []
  | element :: rest =>
      (element.valueForKey key).bind fun value =>
        (valuesForKey key rest).map fun values => value.getD .null :: values

end

def valueForKeyPath : List String → Option JSON → Option (Option JSON)
  | [], receiver => some receiver
  | _ :: _, none => some none
  | key :: path, some receiver => (receiver.valueForKey key).bind (valueForKeyPath path)

theorem valuesForKey_objects (key : String) {elements : List JSON}
    (objects : ∀ element ∈ elements, ∃ fields, element = .object fields) :
    valuesForKey key elements =
      some (elements.map fun element => (element.value? key).getD .null) := by
  induction elements with
  | nil => rfl
  | cons element rest induction =>
      rcases objects element (List.mem_cons_self ..) with ⟨fields, rfl⟩
      rw [valuesForKey, valueForKey,
        induction fun other member => objects other (List.mem_cons_of_mem _ member)]
      rfl

theorem valuesForKey_null {key : String} {elements : List JSON}
    (missing : JSON.null ∈ elements) : valuesForKey key elements = none := by
  induction elements with
  | nil => cases missing
  | cons element rest induction =>
      rcases List.mem_cons.mp missing with rfl | later
      · rfl
      · rw [valuesForKey, induction later]
        cases element.valueForKey key <;> rfl

/-! ## Sizes -/

theorem sizeOf_value?_lt {fields : Fields} {key : String} {value : JSON}
    (held : fields.value? key = some value) : sizeOf value < sizeOf (JSON.object fields) := by
  have smaller : sizeOf value < sizeOf fields := by
    induction fields with
    | nil => cases held
    | cons entry rest induction =>
        rcases entry with ⟨head, first⟩
        rw [Fields.value?_cons] at held
        split at held
        · cases held
          simp only [List.cons.sizeOf_spec, Prod.mk.sizeOf_spec]
          omega
        · have below := induction held
          simp only [List.cons.sizeOf_spec]
          omega
  simp only [JSON.object.sizeOf_spec]
  omega

theorem sizeOf_lt_of_value? {json value : JSON} {key : String}
    (held : json.value? key = some value) : sizeOf value < sizeOf json := by
  cases json with
  | object fields => exact sizeOf_value?_lt held
  | _ => cases held

theorem sizeOf_null_le (json : JSON) : sizeOf JSON.null ≤ sizeOf json := by
  cases json <;>
    simp only [JSON.null.sizeOf_spec, JSON.bool.sizeOf_spec, JSON.number.sizeOf_spec,
      JSON.string.sizeOf_spec, JSON.array.sizeOf_spec, JSON.object.sizeOf_spec] <;>
    omega

theorem sizeOf_lt_array {elements : List JSON} {element : JSON}
    (member : element ∈ elements) : sizeOf element < sizeOf (JSON.array elements) := by
  have smaller := List.sizeOf_lt_of_mem member
  simp only [JSON.array.sizeOf_spec]
  omega

mutual

/-- What an element answers is smaller, unless both are arrays. -/
theorem sizeOf_valueForKey {key : String} : ∀ {receiver value : JSON},
    receiver.valueForKey key = some (some value) →
      sizeOf value < sizeOf receiver ∨
        value.array?.isSome = true ∧ sizeOf value ≤ sizeOf receiver
  | .object fields, value, answered => by
      rw [valueForKey, Option.some.injEq] at answered
      exact Or.inl (sizeOf_value?_lt answered)
  | .array elements, value, answered => by
      rw [valueForKey] at answered
      rcases Option.map_eq_some_iff.mp answered with ⟨values, collected, same⟩
      cases same
      have below := sizeOf_valuesForKey collected
      refine Or.inr ⟨rfl, ?_⟩
      simp only [JSON.array.sizeOf_spec]
      omega

theorem sizeOf_valuesForKey {key : String} : ∀ {elements values : List JSON},
    valuesForKey key elements = some values → sizeOf values ≤ sizeOf elements
  | [], _, collected => by cases collected; exact Nat.le_refl _
  | element :: rest, _, collected => by
      rw [valuesForKey] at collected
      rcases Option.bind_eq_some_iff.mp collected with ⟨value, answered, collected⟩
      rcases Option.map_eq_some_iff.mp collected with ⟨values, later, rfl⟩
      have below := sizeOf_valuesForKey later
      have here : sizeOf (value.getD JSON.null) ≤ sizeOf element := by
        cases value with
        | none => exact sizeOf_null_le element
        | some value =>
            rcases sizeOf_valueForKey answered with smaller | ⟨_, smaller⟩
            · exact Nat.le_of_lt smaller
            · exact smaller
      simp only [List.cons.sizeOf_spec]
      omega

end

theorem sizeOf_valueForKeyPath {path : List String} (nonempty : path ≠ [])
    {receiver value : JSON}
    (answered : valueForKeyPath path (some receiver) = some (some value)) :
    sizeOf value < sizeOf receiver ∨
      value.array?.isSome = true ∧ sizeOf value ≤ sizeOf receiver := by
  induction path generalizing receiver with
  | nil => exact absurd rfl nonempty
  | cons key rest induction =>
      rw [valueForKeyPath] at answered
      rcases Option.bind_eq_some_iff.mp answered with ⟨_ | inner, first, answered⟩
      · cases rest <;> cases answered
      · have outer := sizeOf_valueForKey first
        cases rest with
        | nil =>
            cases answered
            exact outer
        | cons next rest =>
            have below := induction (List.cons_ne_nil _ _) answered
            have smaller : sizeOf inner ≤ sizeOf receiver :=
              outer.elim Nat.le_of_lt And.right
            rcases below with below | ⟨array, below⟩
            · exact Or.inl (Nat.lt_of_lt_of_le below smaller)
            · exact Or.inr ⟨array, Nat.le_trans below smaller⟩

end JSON

end ConnectSDK
