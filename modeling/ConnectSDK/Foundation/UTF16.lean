/-! # Well-formed UTF-16

A sequence of 16-bit units is well-formed if its surrogates come in pairs, a high one
before a low one.
-/

namespace ConnectSDK

namespace UTF16

def IsHigh (unit : UInt16) : Prop := 0xD800 ≤ unit ∧ unit ≤ 0xDBFF

def IsLow (unit : UInt16) : Prop := 0xDC00 ≤ unit ∧ unit ≤ 0xDFFF

instance (unit : UInt16) : Decidable (IsHigh unit) :=
  inferInstanceAs (Decidable (_ ∧ _))

instance (unit : UInt16) : Decidable (IsLow unit) :=
  inferInstanceAs (Decidable (_ ∧ _))

inductive WellFormed : List UInt16 → Prop where
  | nil : WellFormed []
  | unit {unit : UInt16} {rest : List UInt16} (high : ¬ IsHigh unit) (low : ¬ IsLow unit) :
      WellFormed rest → WellFormed (unit :: rest)
  | pair {high low : UInt16} {rest : List UInt16} (isHigh : IsHigh high)
      (isLow : IsLow low) : WellFormed rest → WellFormed (high :: low :: rest)

/-- The text ends in a low surrogate, which in a well-formed one is that of a pair. -/
def EndsInPair (text : List UInt16) : Prop :=
  ∃ unit, text.getLast? = some unit ∧ IsLow unit

theorem WellFormed.append {left right : List UInt16} (first : WellFormed left)
    (second : WellFormed right) : WellFormed (left ++ right) := by
  induction first with
  | nil => exact second
  | unit high low _ induction => exact .unit high low induction
  | pair isHigh isLow _ induction => exact .pair isHigh isLow induction

theorem wellFormed_unit_iff {unit : UInt16} (high : ¬ IsHigh unit) (low : ¬ IsLow unit)
    {rest : List UInt16} : WellFormed (unit :: rest) ↔ WellFormed rest := by
  constructor
  · intro formed
    cases formed with
    | unit _ _ tail => exact tail
    | pair isHigh _ _ => exact absurd isHigh high
  · exact .unit high low

theorem wellFormed_pair_iff {high low : UInt16} (isHigh : IsHigh high) (isLow : IsLow low)
    {rest : List UInt16} : WellFormed (high :: low :: rest) ↔ WellFormed rest := by
  constructor
  · intro formed
    cases formed with
    | unit notHigh _ _ => exact absurd isHigh notHigh
    | pair _ _ tail => exact tail
  · exact .pair isHigh isLow

theorem not_wellFormed_high {high : UInt16} (isHigh : IsHigh high) :
    ¬ WellFormed [high] := by
  intro formed
  cases formed with
  | unit notHigh _ _ => exact notHigh isHigh

theorem endsInPair_cons_iff (unit : UInt16) {rest : List UInt16} (more : rest ≠ []) :
    EndsInPair (unit :: rest) ↔ EndsInPair rest := by
  cases rest with
  | nil => exact absurd rfl more
  | cons next rest => rw [EndsInPair, EndsInPair, List.getLast?_cons_cons]

/-- Without its last unit a well-formed text stays one exactly if that unit stands for
itself. -/
theorem WellFormed.dropLast_iff {text : List UInt16} (formed : WellFormed text) :
    WellFormed text.dropLast ↔ ¬ EndsInPair text := by
  induction formed with
  | nil => exact iff_of_true .nil fun ends => by cases ends.choose_spec.1
  | @unit unit rest high low tail induction =>
      cases rest with
      | nil =>
          apply iff_of_true .nil
          intro ends
          rcases ends with ⟨last, same, isLow⟩
          cases same
          exact low isLow
      | cons next rest =>
          rw [List.dropLast_cons_cons, wellFormed_unit_iff high low, induction,
            endsInPair_cons_iff unit (List.cons_ne_nil next rest)]
  | @pair high low rest isHigh isLow tail induction =>
      cases rest with
      | nil =>
          apply iff_of_false (not_wellFormed_high isHigh)
          intro alone
          exact alone ⟨low, rfl, isLow⟩
      | cons next rest =>
          rw [List.dropLast_cons_cons, List.dropLast_cons_cons,
            wellFormed_pair_iff isHigh isLow, induction,
            endsInPair_cons_iff high (List.cons_ne_nil low (next :: rest)),
            endsInPair_cons_iff low (List.cons_ne_nil next rest)]

end UTF16

end ConnectSDK
