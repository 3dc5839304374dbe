import Mathlib.Data.List.TakeWhile

/-! # Numbers as decimal text

`-[NSString intValue]` skips blanks, reads a sign and digits, and ends at the bounds of a
32-bit integer.
-/

namespace ConnectSDK

def clampInt (value : Int) : Int :=
  max (-2147483648) (min 2147483647 value)

/-- Digits up to the first character that is none. -/
def leadingNumber (characters : List Char) : Nat :=
  Nat.ofDigitChars 10 (characters.takeWhile Char.isDigit) 0

def intValue (text : String) : Int :=
  match text.toList.dropWhile Char.isWhitespace with
  | '-' :: rest => clampInt (-leadingNumber rest)
  | '+' :: rest => clampInt (leadingNumber rest)
  | characters => clampInt (leadingNumber characters)

theorem leadingNumber_toDigits (number : Nat) :
    leadingNumber (Nat.toDigits 10 number) = number := by
  have all : (Nat.toDigits 10 number).takeWhile Char.isDigit = Nat.toDigits 10 number :=
    List.takeWhile_eq_self_iff.mpr fun _ member =>
      Nat.isDigit_of_mem_toDigits (by decide) (by decide) member
  rw [leadingNumber, all, Nat.ofDigitChars_ten_toDigits]

theorem intValue_repr (number : Nat) : intValue number.repr = clampInt number := by
  have digits : ∀ character ∈ Nat.toDigits 10 number, character.isDigit = true :=
    fun _ member => Nat.isDigit_of_mem_toDigits (by decide) (by decide) member
  have read := leadingNumber_toDigits number
  rw [intValue, Nat.toList_repr]
  cases written : Nat.toDigits 10 number with
  | nil => exact absurd written Nat.toDigits_ne_nil
  | cons first rest =>
      rw [written] at digits read
      have digit := digits first List.mem_cons_self
      have visible : first.isWhitespace = false := by
        simp only [Char.isWhitespace, Bool.or_eq_false_iff, decide_eq_false_iff_not]
        refine ⟨⟨⟨?_, ?_⟩, ?_⟩, ?_⟩ <;> intro same <;> subst same <;>
          exact absurd digit (by decide)
      rw [List.dropWhile_cons_of_neg (by rw [visible]; exact Bool.false_ne_true)]
      have unsigned : first ≠ '-' ∧ first ≠ '+' := by
        constructor <;> intro same <;> subst same <;> exact absurd digit (by decide)
      split
      next rest sign => exact absurd (List.cons.inj sign).1 unsigned.1
      next rest sign => exact absurd (List.cons.inj sign).1 unsigned.2
      next => rw [read]

/-- Only the number zero is read as zero. -/
theorem intValue_repr_eq_zero_iff (number : Nat) : intValue number.repr = 0 ↔ number = 0 := by
  rw [intValue_repr, clampInt]
  omega

end ConnectSDK
