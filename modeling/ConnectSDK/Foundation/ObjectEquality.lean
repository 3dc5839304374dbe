import Mathlib.Logic.Relation

/-! # Equality and hashes of objects

An object compares itself with another one through its own `isEqual:` and has a `hash`,
which equal objects share. Objects with several fields compare and hash them one by one.
-/

namespace ConnectSDK

/-- The `isEqual:` and the `hash` of a class that keeps the two consistent. -/
structure ObjectEquality (Object : Type u) where
  isEqual : Object → Object → Bool
  hash : Object → UInt64
  equivalence : Equivalence fun left right => isEqual left right = true
  hash_eq : ∀ left right, isEqual left right = true → hash left = hash right

namespace ObjectEquality

variable {Object : Type u} {Field : Type v}

/-- Objects that are equal only to themselves. -/
def ofHash [DecidableEq Object] (hash : Object → UInt64) : ObjectEquality Object where
  isEqual := fun left right => decide (left = right)
  hash := hash
  equivalence :=
    { refl := fun _ => decide_eq_true rfl
      symm := fun same => decide_eq_true (of_decide_eq_true same).symm
      trans := fun first second =>
        decide_eq_true ((of_decide_eq_true first).trans (of_decide_eq_true second)) }
  hash_eq := fun _ _ same => congrArg hash (of_decide_eq_true same)

/-- Strings, which are equal when they have the same text. -/
def strings : ObjectEquality String :=
  ofHash fun text => UInt64.ofNat text.length

/-- `[left isEqual:right]`, where either may be `nil`: a message to `nil` answers `NO`, and
no object is equal to `nil`. -/
def messageIsEqual (equality : ObjectEquality Field) : Option Field → Option Field → Bool
  | some left, some right => equality.isEqual left right
  | _, _ => false

/-- `(!left && !right) || [left isEqual:right]`. -/
def haveSame (equality : ObjectEquality Field) (left right : Option Field) : Bool :=
  (left.isNone && right.isNone) || equality.messageIsEqual left right

/-- `[object hash]`, which is zero on `nil`. -/
def messageHash (equality : ObjectEquality Field) (object : Option Field) : UInt64 :=
  (object.map equality.hash).getD 0

theorem messageIsEqual_self (equality : ObjectEquality Field) (object : Option Field) :
    equality.messageIsEqual object object = object.isSome := by
  cases object with
  | none => rfl
  | some value => exact equality.equivalence.refl value

theorem messageIsEqual_symm (equality : ObjectEquality Field) {left right : Option Field}
    (same : equality.messageIsEqual left right = true) :
    equality.messageIsEqual right left = true := by
  cases left <;> cases right <;> first | cases same | exact equality.equivalence.symm same

theorem messageIsEqual_trans (equality : ObjectEquality Field)
    {left middle right : Option Field}
    (first : equality.messageIsEqual left middle = true)
    (second : equality.messageIsEqual middle right = true) :
    equality.messageIsEqual left right = true := by
  cases left with
  | none => cases first
  | some left =>
      cases middle with
      | none => cases first
      | some middle =>
          cases right with
          | none => cases second
          | some right => exact equality.equivalence.trans first second

theorem haveSame_iff (equality : ObjectEquality Field) (left right : Option Field) :
    equality.haveSame left right = true ↔
      left = none ∧ right = none ∨ equality.messageIsEqual left right = true := by
  simp [haveSame]

@[simp] theorem haveSame_none (equality : ObjectEquality Field) (object : Option Field) :
    equality.haveSame none object = object.isNone := by
  cases object <;> rfl

/-- Objects that may be `nil`. -/
def optional (equality : ObjectEquality Field) : ObjectEquality (Option Field) where
  isEqual := equality.haveSame
  hash := equality.messageHash
  equivalence :=
    { refl := by
        intro object
        rw [haveSame_iff, messageIsEqual_self]
        cases object with
        | none => exact Or.inl ⟨rfl, rfl⟩
        | some value => exact Or.inr rfl
      symm := by
        intro left right same
        rw [haveSame_iff] at same ⊢
        exact same.imp And.symm equality.messageIsEqual_symm
      trans := by
        intro left middle right first second
        rw [haveSame_iff] at first second ⊢
        rcases first with ⟨rfl, rfl⟩ | first
        · exact second
        · rcases second with ⟨rfl, rfl⟩ | second
          · exact Or.inr first
          · exact Or.inr (equality.messageIsEqual_trans first second) }
  hash_eq := by
    intro left right same
    rw [haveSame_iff] at same
    rcases same with ⟨rfl, rfl⟩ | same
    · rfl
    · cases left with
      | none => cases same
      | some left =>
          cases right with
          | none => cases same
          | some right => exact equality.hash_eq left right same

@[simp] theorem haveSame_self (equality : ObjectEquality Field) (object : Option Field) :
    equality.haveSame object object = true :=
  equality.optional.equivalence.refl object

/-- Objects compared by one of their fields. -/
def comap (read : Object → Field) (equality : ObjectEquality Field) :
    ObjectEquality Object where
  isEqual := fun left right => equality.isEqual (read left) (read right)
  hash := fun object => equality.hash (read object)
  equivalence := equality.equivalence.comap read
  hash_eq := fun left right => equality.hash_eq (read left) (read right)

/-! ## Several fields -/

/-- The objects agree in each of the fields. -/
def agreeOn (fields : List (ObjectEquality Object)) (left right : Object) : Bool :=
  fields.all fun field => field.isEqual left right

/-- The exclusive or of the hashes of the fields. -/
def hashOf (fields : List (ObjectEquality Object)) (object : Object) : UInt64 :=
  fields.foldl (fun hash field => hash ^^^ field.hash object) 0

theorem agreeOn_iff (fields : List (ObjectEquality Object)) (left right : Object) :
    agreeOn fields left right = true ↔
      ∀ field ∈ fields, field.isEqual left right = true := by
  simp [agreeOn]

theorem agreeOn_equivalence (fields : List (ObjectEquality Object)) :
    Equivalence fun left right => agreeOn fields left right = true where
  refl := fun object =>
    (agreeOn_iff ..).mpr fun field _ => field.equivalence.refl object
  symm := fun same =>
    (agreeOn_iff ..).mpr fun field member =>
      field.equivalence.symm ((agreeOn_iff ..).mp same field member)
  trans := fun first second =>
    (agreeOn_iff ..).mpr fun field member =>
      field.equivalence.trans ((agreeOn_iff ..).mp first field member)
        ((agreeOn_iff ..).mp second field member)

theorem foldl_hash_congr {fields : List (ObjectEquality Object)} {left right : Object}
    (same : ∀ field ∈ fields, field.hash left = field.hash right) (start : UInt64) :
    fields.foldl (fun hash field => hash ^^^ field.hash left) start =
      fields.foldl (fun hash field => hash ^^^ field.hash right) start := by
  induction fields generalizing start with
  | nil => rfl
  | cons field rest induction =>
      rw [List.foldl_cons, List.foldl_cons, same field List.mem_cons_self]
      exact induction (fun other member => same other (List.mem_cons_of_mem _ member)) _

/-- A hash may leave out fields that are compared, but use no others. -/
theorem hashOf_eq {compared hashed : List (ObjectEquality Object)}
    (subset : hashed ⊆ compared) {left right : Object}
    (same : agreeOn compared left right = true) :
    hashOf hashed left = hashOf hashed right := by
  refine foldl_hash_congr (fun field member => ?_) 0
  exact field.hash_eq left right ((agreeOn_iff ..).mp same field (subset member))

end ObjectEquality

end ConnectSDK
