import Mathlib.Data.Rat.Floor
import Mathlib.Tactic.NormNum
import ConnectSDK.Foundation.DecimalText

/-! # Transport times of a media renderer

A renderer tells positions and durations as texts of hours, minutes and seconds. An
`NSTimeInterval` is the rational number that its double stands for.
-/

namespace ConnectSDK

/-- `round` of C: halves are rounded away from zero. -/
def rounded (value : ℚ) : Int :=
  if 0 ≤ value then ⌊value + 1 / 2⌋ else ⌈value - 1 / 2⌉

theorem rounded_natCast (number : Nat) : rounded number = number := by
  rw [rounded, if_pos (Nat.cast_nonneg number), Int.floor_eq_iff]
  constructor <;> norm_num

def padded (number : Nat) : String :=
  if number < 10 then "0" ++ number.repr else number.repr

/-- The format `%02d`. A sign fills one of the two places. -/
def twoDigits : Int → String
  | .ofNat number => padded number
  | .negSucc number => "-" ++ (number + 1).repr

def clockText (hour minute second : Int) : String :=
  twoDigits hour ++ ":" ++ twoDigits minute ++ ":" ++ twoDigits second

/-- How `NSDateFormatter` reads such a text by the pattern `HH:m:ss`: as a time of the day
it was made on, and not at all when the hours pass 23. Dates are whole seconds. -/
structure ClockFormatter where
  dateFromString : String → Option Int
  midnight : Int
  accepts : ∀ hour minute second : Nat, hour < 24 → minute < 60 → second < 60 →
    dateFromString (clockText hour minute second) =
      some (midnight + (hour * 3600 + minute * 60 + second))
  rejects : ∀ hour minute second : Nat, 24 ≤ hour →
    dateFromString (clockText hour minute second) = none

/-- A message to nil gives zero. -/
def timeIntervalSinceDate (date other : Option Int) : ℚ :=
  match date, other with
  | some date, some other => date - other
  | _, _ => 0

namespace DLNAService

def timeForString (formatter : ClockFormatter) (timeString : Option String) : ℚ :=
  match timeString with
  | none => 0
  | some text =>
      if text = "" then 0
      else
        let time := formatter.dateFromString text
        let midnight := formatter.dateFromString "00:00:00"
        let timeInterval := timeIntervalSinceDate time midnight
        if timeInterval < 0 then 0 else timeInterval

def stringForTime (timeInterval : ℚ) : String :=
  -- C leaves the conversion undefined outside 32 bits; here it wraps around.
  let time := Int32.ofInt (rounded timeInterval)
  let second := time % 60
  let minute := (time / 60) % 60
  let hour := time / 3600
  clockText hour.toInt minute.toInt second.toInt

end DLNAService

/-! ## Writing a duration -/

theorem toInt_ofInt_natCast {number : Nat} (small : number < 2 ^ 31) :
    (Int32.ofInt number).toInt = number := by
  apply Int32.toInt_ofInt_of_le <;> omega

namespace DLNAService

theorem stringForTime_natCast {time : Nat} (small : time < 2 ^ 31) :
    stringForTime time =
      clockText (time / 3600 : Nat) (time / 60 % 60 : Nat) (time % 60 : Nat) := by
  have held := toInt_ofInt_natCast small
  have hours : (Int32.ofInt time / 3600).toInt = (time / 3600 : Nat) := by
    rw [Int32.toInt_div_of_ne_right _ _ (by decide), held]
    rfl
  have minutes : (Int32.ofInt time / 60 % 60).toInt = (time / 60 % 60 : Nat) := by
    rw [Int32.toInt_mod, Int32.toInt_div_of_ne_right _ _ (by decide), held]
    rfl
  have seconds : (Int32.ofInt time % 60).toInt = (time % 60 : Nat) := by
    rw [Int32.toInt_mod, held]
    rfl
  simp only [stringForTime, rounded_natCast, hours, minutes, seconds]

/-- For every duration a text of hours, minutes and seconds is written. -/
theorem stringForTime_denotes {time : Nat} (small : time < 2 ^ 31) :
    ∃ hour minute second : Nat,
      stringForTime time = clockText hour minute second ∧
        hour * 3600 + minute * 60 + second = time ∧ minute < 60 ∧ second < 60 := by
  refine ⟨time / 3600, time / 60 % 60, time % 60, stringForTime_natCast small, ?_,
    Nat.mod_lt _ (by decide), Nat.mod_lt _ (by decide)⟩
  omega

end DLNAService

/-! ## A formatter that splits the text -/

theorem toList_padded (number : Nat) :
    (padded number).toList = Nat.toDigits 10 number ∨
      (padded number).toList = '0' :: Nat.toDigits 10 number := by
  rw [padded]
  split
  · right
    rw [String.toList_append, Nat.toList_repr]
    rfl
  · left
    exact Nat.toList_repr ..

theorem leadingNumber_padded (number : Nat) : leadingNumber (padded number).toList = number := by
  rcases toList_padded number with written | written
  · rw [written, leadingNumber_toDigits]
  · rw [written, leadingNumber, List.takeWhile_cons_of_pos (by decide), Nat.ofDigitChars_cons]
    exact leadingNumber_toDigits number

theorem isDigit_of_mem_padded {number : Nat} {character : Char}
    (member : character ∈ (padded number).toList) : character.isDigit = true := by
  have digits {character : Char} (inside : character ∈ Nat.toDigits 10 number) :
      character.isDigit = true :=
    Nat.isDigit_of_mem_toDigits (by decide) (by decide) inside
  rcases toList_padded number with written | written
  · exact digits (written ▸ member)
  · rw [written, List.mem_cons] at member
    rcases member with rfl | inside
    · decide
    · exact digits inside

def readClock (text : String) : Option (Nat × Nat × Nat) :=
  match (text.toList.splitOnP (· == ':')).map leadingNumber with
  | [hour, minute, second] => some (hour, minute, second)
  | _ => none

theorem readClock_clockText (hour minute second : Nat) :
    readClock (clockText hour minute second) = some (hour, minute, second) := by
  have noColon (number : Nat) : ∀ character ∈ (padded number).toList,
      (character == ':') = false := by
    intro character member
    rw [beq_eq_false_iff_ne]
    rintro rfl
    exact absurd (isDigit_of_mem_padded member) (by decide)
  have characters : (clockText hour minute second).toList =
      (padded hour).toList ++ ':' :: ((padded minute).toList ++ ':' :: (padded second).toList) := by
    simp [clockText, twoDigits]
  rw [readClock, characters, List.splitOnP_append_cons _ _ (by decide),
    List.splitOnP_append_cons _ _ (by decide), List.splitOnP_eq_singleton (noColon hour),
    List.splitOnP_eq_singleton (noColon minute), List.splitOnP_eq_singleton (noColon second)]
  simp [leadingNumber_padded]

/-- Times of the day are read on this day. -/
def formatterAt (midnight : Int) : ClockFormatter where
  dateFromString text :=
    (readClock text).bind fun (hour, minute, second) =>
      if hour < 24 ∧ minute < 60 ∧ second < 60 then
        some (midnight + (hour * 3600 + minute * 60 + second))
      else none
  midnight := midnight
  accepts := by
    intro hour minute second hours minutes seconds
    rw [readClock_clockText]
    exact if_pos ⟨hours, minutes, seconds⟩
  rejects := by
    intro hour minute second late
    rw [readClock_clockText]
    exact if_neg fun inside => absurd inside.1 (Nat.not_lt.mpr late)

/-! ## Reading it back -/

namespace DLNAService

theorem dateFromString_midnight (formatter : ClockFormatter) :
    formatter.dateFromString "00:00:00" = some formatter.midnight := by
  have read := formatter.accepts 0 0 0 (by decide) (by decide) (by decide)
  rw [show clockText (0 : Nat) (0 : Nat) (0 : Nat) = "00:00:00" by decide] at read
  rw [read, Option.some.injEq]
  omega

theorem clockText_ne_empty (hour minute second : Int) : clockText hour minute second ≠ "" := by
  intro empty
  have length := congrArg String.length empty
  simp [clockText] at length

theorem timeForString_of_lt (formatter : ClockFormatter) {hour minute second : Nat}
    (hours : hour < 24) (minutes : minute < 60) (seconds : second < 60) :
    timeForString formatter (some (clockText hour minute second)) =
      (hour * 3600 + minute * 60 + second : Nat) := by
  have interval : timeIntervalSinceDate
      (formatter.dateFromString (clockText hour minute second))
      (formatter.dateFromString "00:00:00") = (hour * 3600 + minute * 60 + second : Nat) := by
    rw [formatter.accepts _ _ _ hours minutes seconds, dateFromString_midnight]
    simp only [timeIntervalSinceDate]
    push_cast
    ring
  simp only [timeForString, if_neg (clockText_ne_empty _ _ _), interval]
  exact if_neg (not_lt.mpr (Nat.cast_nonneg _))

/-- Without a date there is no interval. -/
theorem timeForString_of_le (formatter : ClockFormatter) {hour : Nat} (hours : 24 ≤ hour)
    (minute second : Nat) :
    timeForString formatter (some (clockText hour minute second)) = 0 := by
  simp only [timeForString, if_neg (clockText_ne_empty _ _ _),
    formatter.rejects hour minute second hours, timeIntervalSinceDate, if_neg (lt_irrefl _)]

theorem timeForString_stringForTime (formatter : ClockFormatter) {time : Nat}
    (small : time < 2 ^ 31) :
    timeForString formatter (some (stringForTime time)) =
      if time < 86400 then (time : ℚ) else 0 := by
  rw [stringForTime_natCast small]
  have minutes : time / 60 % 60 < 60 := Nat.mod_lt _ (by decide)
  have seconds : time % 60 < 60 := Nat.mod_lt _ (by decide)
  split
  · rename_i day
    rw [timeForString_of_lt formatter (by omega) minutes seconds]
    congr 1
    omega
  · rename_i later
    exact timeForString_of_le formatter (by omega) _ _

/-- The text denotes the duration always, and is read back within a day. -/
theorem time_read_back_iff (formatter : ClockFormatter) (time : Nat) (small : time < 2 ^ 31) :
    ((∃ hour minute second : Nat,
        stringForTime time = clockText hour minute second ∧
          hour * 3600 + minute * 60 + second = time ∧ minute < 60 ∧ second < 60) ∧
      timeForString formatter (some (stringForTime time)) = time) ↔ time < 86400 := by
  rw [and_iff_right (stringForTime_denotes small), timeForString_stringForTime formatter small]
  split
  · rename_i day
    exact iff_of_true rfl day
  · rename_i later
    refine iff_of_false ?_ later
    intro readAsZero
    have zero : time = 0 := Nat.cast_eq_zero.mp readAsZero.symm
    omega

/-- A formatter without a date reads times of the first day of 2000, which began 31622400
seconds before the reference date. -/
theorem last_second_read_back :
    (86399 : Nat) < 2 ^ 31 ∧
      (((∃ hour minute second : Nat,
          stringForTime (86399 : Nat) = clockText hour minute second ∧
            hour * 3600 + minute * 60 + second = 86399 ∧ minute < 60 ∧ second < 60) ∧
        timeForString (formatterAt (-31622400)) (some (stringForTime (86399 : Nat))) =
          (86399 : Nat)) ↔ 86399 < 86400) :=
  ⟨by decide, time_read_back_iff (formatterAt (-31622400)) 86399 (by decide)⟩

/-- A day is written as 24:00:00 and read as nothing. -/
theorem day_not_read_back :
    (86400 : Nat) < 2 ^ 31 ∧ stringForTime (86400 : Nat) = "24:00:00" ∧
      timeForString (formatterAt (-31622400)) (some (stringForTime (86400 : Nat))) = 0 ∧
      timeForString (formatterAt (-31622400)) (some (stringForTime (86400 : Nat))) ≠
        (86400 : Nat) := by
  have unread := @timeForString_stringForTime (formatterAt (-31622400)) 86400 (by decide)
  rw [if_neg (lt_irrefl _)] at unread
  refine ⟨by decide, ?_, unread, ?_⟩
  · rw [stringForTime_natCast (by decide)]
    decide
  · rw [unread]
    norm_num

end DLNAService

end ConnectSDK
