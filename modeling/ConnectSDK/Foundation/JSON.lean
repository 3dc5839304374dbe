/-! # Property-list values

What a device-store file and an in-memory JSON dictionary hold. Numbers are
kept exact: every number written here is a time stamp or a port, and only their
order and their differences are ever looked at.
-/

namespace ConnectSDK

inductive JSON where
  | null
  | bool (value : Bool)
  | number (value : Int)
  | string (value : String)
  | array (elements : List JSON)
  | object (fields : List (String × JSON))

namespace JSON

abbrev Fields := List (String × JSON)

namespace Fields

/-- `dictionary[key]`, `none` standing for `nil`. -/
def value? (fields : Fields) (key : String) : Option JSON :=
  List.lookup key fields

def remove (fields : Fields) (key : String) : Fields :=
  fields.filter fun entry => entry.1 != key

/-- `[dictionary setObject:value forKey:key]`. -/
def set (fields : Fields) (key : String) (value : JSON) : Fields :=
  (key, value) :: fields.remove key

/-- `if (value) dictionary[key] = value`. -/
def setIfSome (fields : Fields) (key : String) : Option JSON → Fields
  | none => fields
  | some value => fields.set key value

/-- `dictionary[key] = value`, which removes the entry when the value is
`nil`. -/
def assign (fields : Fields) (key : String) : Option JSON → Fields
  | none => fields.remove key
  | some value => fields.set key value

@[simp] theorem value?_nil (key : String) : value? [] key = none := rfl

theorem value?_cons (fields : Fields) (key other : String) (value : JSON) :
    value? ((key, value) :: fields) other =
      if other = key then some value else fields.value? other := by
  by_cases equal : other = key
  · subst equal
    simp [value?]
  · have different : (other == key) = false := by simpa using equal
    simp [value?, List.lookup_cons, different, equal]

theorem value?_remove (fields : Fields) (key other : String) :
    (fields.remove key).value? other =
      if other = key then none else fields.value? other := by
  induction fields with
  | nil => simp [remove]
  | cons entry rest induction =>
      rcases entry with ⟨head, value⟩
      by_cases removed : head = key
      · subst removed
        have skipped : remove ((head, value) :: rest) head = remove rest head := by
          simp [remove]
        rw [skipped, induction, value?_cons]
        by_cases equal : other = head <;> simp [equal]
      · have kept : remove ((head, value) :: rest) key =
            (head, value) :: remove rest key := by
          simp [remove, removed]
        rw [kept, value?_cons, value?_cons, induction]
        by_cases equal : other = head
        · simp [equal, removed]
        · simp [equal]

@[simp] theorem value?_set (fields : Fields) (key other : String) (value : JSON) :
    (fields.set key value).value? other =
      if other = key then some value else fields.value? other := by
  rw [set, value?_cons, value?_remove]
  by_cases equal : other = key <;> simp [equal]

@[simp] theorem value?_setIfSome (fields : Fields) (key other : String)
    (value : Option JSON) :
    (fields.setIfSome key value).value? other =
      if other = key then value.or (fields.value? other)
      else fields.value? other := by
  cases value <;> simp [setIfSome]

@[simp] theorem value?_assign (fields : Fields) (key other : String)
    (value : Option JSON) :
    (fields.assign key value).value? other =
      if other = key then value else fields.value? other := by
  cases value <;> simp [assign, value?_remove]

end Fields

/-- `value[key]` on a dictionary. Other objects have no entries. -/
def value? (key : String) : JSON → Option JSON
  | .object fields => Fields.value? fields key
  | _ => none

/-- The entries of a dictionary. -/
def fields : JSON → Fields
  | .object fields => fields
  | _ => []

def string? : JSON → Option String
  | .string value => some value
  | _ => none

/-- `[value boolValue]` on a number. The encoders write no flag as a string,
which the method would parse; here one reads as false. -/
def boolValue : JSON → Bool
  | .bool value => value
  | .number value => value != 0
  | _ => false

/-- `[value doubleValue]` on a number. The encoders write no time as a string,
which the method would parse; here one reads as zero. -/
def doubleValue : JSON → Int
  | .number value => value
  | .bool value => value.toNat
  | _ => 0

def array? : JSON → Option (List JSON)
  | .array elements => some elements
  | _ => none

def isNull : JSON → Bool
  | .null => true
  | _ => false

def isNumber : JSON → Bool
  | .number _ => true
  | _ => false

def isObject : JSON → Bool
  | .object _ => true
  | _ => false

@[simp] theorem string?_string (text : String) : (JSON.string text).string? = some text :=
  rfl

@[simp] theorem string?_map_string (text : Option String) :
    (text.map JSON.string).bind JSON.string? = text := by
  cases text <;> rfl

@[simp] theorem value?_object (key : String) (fields : Fields) :
    (JSON.object fields).value? key = fields.value? key := rfl

@[simp] theorem value?_fields (key : String) (json : JSON) :
    json.fields.value? key = json.value? key := by
  cases json <;> rfl

end JSON

/-- `[receiver objectForKey:key]`, which only a dictionary or `nil`
understands. -/
def objectForKey (receiver : Option JSON) (key : String) : Option (Option JSON) :=
  match receiver with
  | none => some none
  | some (.object fields) => some (JSON.Fields.value? fields key)
  | some _ => none

end ConnectSDK
