import Mathlib.Data.List.GetD
import ConnectSDK.Foundation.HexNumbers
import ConnectSDK.Helpers.ConnectUtil

/-! # Globally unique identifiers

The texts that identifiers are written as, and the texts that are read as identifiers.
-/

namespace ConnectSDK

structure CTGuidFormat where
  includeDashes : Bool
  includeBraces : Bool
  includeParenthesis : Bool
  upperCase : Bool
deriving DecidableEq

def CTGuidFormatCompact : CTGuidFormat := ⟨false, false, false, false⟩
def CTGuidFormatDashed : CTGuidFormat := ⟨true, false, false, false⟩
def CTGuidFormatBraces : CTGuidFormat := ⟨true, true, false, false⟩
def CTGuidFormatParenthesis : CTGuidFormat := ⟨true, false, true, false⟩

structure CTGuid where
  data : List UInt8
  length_data : data.length = 16

namespace CTGuid

/-! ## Writing -/

def convertToHexChar (upperCase : Bool) (x : UInt8) : UInt16 :=
  if x ≤ 9 then x.toUInt16 + 0x30
  else x.toUInt16 - 10 + if upperCase then 0x41 else 0x61

def hexChars (upperCase : Bool) (bytes : List UInt8) : List UInt16 :=
  bytes.flatMap fun c : UInt8 =>
    [convertToHexChar upperCase ((c &&& 0xf0) >>> 4), convertToHexChar upperCase (c &&& 0x0f)]

def openingBrace : UInt16 := 0x7B
def closingBrace : UInt16 := 0x7D
def openingParenthesis : UInt16 := 0x28
def closingParenthesis : UInt16 := 0x29
def dash : UInt16 := 0x2D

/-- The bytes between the brackets. -/
def body (format : CTGuidFormat) (guid : CTGuid) : List UInt16 :=
  let bytes := hexChars format.upperCase
  if format.includeDashes then
    bytes (guid.data.take 4) ++ dash :: bytes ((guid.data.drop 4).take 2) ++
      dash :: bytes ((guid.data.drop 6).take 2) ++ dash :: bytes ((guid.data.drop 8).take 2) ++
      dash :: bytes (guid.data.drop 10)
  else bytes guid.data

def stringValueWithFormat (format : CTGuidFormat) (guid : CTGuid) : List UInt16 :=
  (if format.includeBraces then [openingBrace]
    else if format.includeParenthesis then [openingParenthesis] else []) ++
  body format guid ++
  (if format.includeBraces then [closingBrace]
    else if format.includeParenthesis then [closingParenthesis] else [])

/-! ## Reading -/

/-- The first character is compared as a `char`. -/
def starts (opening : UInt16) (guidString : List UInt16) : Bool :=
  guidString.head?.any fun first => first.toUInt8 == opening.toUInt8

def endsEnclosed (closing : UInt16) (length : Int) (guidString : List UInt16) : Bool :=
  length == 0x26 && guidString[0x25]? == some closing ||
    length == 0x22 && guidString[0x21]? == some closing

def hasDashes (offset : Nat) (guidString : List UInt16) : Bool :=
  guidString[8 + offset]? == some dash && guidString[13 + offset]? == some dash &&
    guidString[0x12 + offset]? == some dash && guidString[0x17 + offset]? == some dash

/-- The brackets and the dashes of a text that has the length stand where they should. -/
def isLaidOut (length : Int) (guidString : List UInt16) : Bool :=
  if length == 0 then false
  else if starts openingBrace guidString then
    endsEnclosed closingBrace length guidString && (length != 0x26 || hasDashes 1 guidString)
  else if starts openingParenthesis guidString then
    endsEnclosed closingParenthesis length guidString && (length != 0x26 || hasDashes 1 guidString)
  else length == 0x24 && hasDashes 0 guidString || length == 0x20

def isSkipped (c : UInt16) : Bool :=
  c == openingBrace || c == closingBrace || c == dash

def digit? (c : UInt16) : Option UInt8 :=
  if 0x61 ≤ c && c ≤ 0x66 then some (c - 0x61 + 10).toUInt8
  else if 0x41 ≤ c && c ≤ 0x46 then some (c - 0x41 + 10).toUInt8
  else if 0x30 ≤ c && c ≤ 0x39 then some (c - 0x30).toUInt8
  else none

/-- Where the loop over the characters is. -/
structure Scan where
  bytes : List UInt8
  j : Nat
  x : Nat
deriving DecidableEq

def scan (state : Scan) (c : UInt16) : Option Scan :=
  if isSkipped c then some state
  else
    let x := state.j / 2
    if 16 ≤ x then none
    else
      (digit? c).map fun digit : UInt8 =>
        { bytes := state.bytes.modify x fun byte : UInt8 =>
            byte ||| (if state.j % 2 = 0 then (digit <<< 4) &&& 0xf0 else digit &&& 0x0f : UInt8)
          j := state.j + 1
          x }

/-- The bytes where `YES` is returned. The length is an `int`, and so is the index of the loop,
which is enough for texts whose length it can hold. -/
def guidBytesFromString (guidString : List UInt16) : Option (List UInt8) :=
  if isLaidOut (intOfSize guidString.length) guidString then
    (guidString.foldlM scan { bytes := List.replicate 16 0, j := 0, x := 0 }).bind fun state =>
      if state.x = 15 then some state.bytes else none
  else none

def guidFromString (guidString : List UInt16) : Option CTGuid :=
  (guidBytesFromString guidString).bind fun bytes =>
    if length : bytes.length = 16 then some ⟨bytes, length⟩ else none

/-! ## Digits -/

/-- The hexadecimal digits of a text that has nothing else but braces and dashes. -/
def digits? : List UInt16 → Option (List UInt8)
  | [] => some []
  | c :: rest =>
      if isSkipped c then digits? rest
      else (digit? c).bind fun digit => (digits? rest).map (digit :: ·)

def byteOf (high low : UInt8) : UInt8 :=
  (high <<< 4) &&& 0xf0 ||| low &&& 0x0f

/-- The bytes that digits are put into, of which any that are missing are zero. -/
def packed (digits : List UInt8) : List UInt8 :=
  (List.range 16).map fun i => byteOf (digits.getD (2 * i) 0) (digits.getD (2 * i + 1) 0)

def scanned (digits : List UInt8) : Scan where
  bytes := packed digits
  j := digits.length
  x := (digits.length - 1) / 2

theorem scanned_nil : scanned [] = { bytes := List.replicate 16 0, j := 0, x := 0 } := by
  decide

theorem getD_concat (digits : List UInt8) (digit : UInt8) (i : Nat) :
    (digits ++ [digit]).getD i 0 = if i = digits.length then digit else digits.getD i 0 := by
  rcases Nat.lt_trichotomy i digits.length with before | rfl | after
  · rw [if_neg (Nat.ne_of_lt before), List.getD_append _ _ _ _ before]
  · simp
  · rw [if_neg (Nat.ne_of_gt after), List.getD_eq_default _ _ (Nat.le_of_lt after),
      List.getD_eq_default]
    simp
    omega

theorem byteOf_zero_or (digit : UInt8) :
    byteOf 0 0 ||| ((digit <<< 4) &&& 0xf0) = byteOf digit 0 := by
  simp [byteOf]

theorem byteOf_or (high digit : UInt8) :
    byteOf high 0 ||| (digit &&& 0x0f) = byteOf high digit := by
  simp [byteOf]

theorem packed_append (digits : List UInt8) (digit : UInt8) :
    packed (digits ++ [digit]) = (packed digits).modify (digits.length / 2) fun byte : UInt8 =>
      byte ||| (if digits.length % 2 = 0 then (digit <<< 4) &&& 0xf0 else digit &&& 0x0f : UInt8) := by
  apply List.ext_getElem
  · simp [packed]
  · intro i here there
    simp only [packed, List.getElem_modify, List.getElem_map, List.getElem_range, getD_concat]
    by_cases at_i : digits.length / 2 = i
    · rw [if_pos at_i]
      by_cases even : digits.length % 2 = 0
      · have high : 2 * i = digits.length := by omega
        have low : 2 * i + 1 ≠ digits.length := by omega
        rw [if_pos even, if_pos high, if_neg low, List.getD_eq_default _ _ (by omega),
          List.getD_eq_default _ _ (by omega), byteOf_zero_or]
      · have high : 2 * i ≠ digits.length := by omega
        have low : 2 * i + 1 = digits.length := by omega
        rw [if_neg even, if_neg high, if_pos low, List.getD_eq_default (n := 2 * i + 1),
          byteOf_or]
        omega
    · rw [if_neg at_i, if_neg (by omega), if_neg (by omega)]

theorem scan_digit {digits : List UInt8} {c : UInt16} (counts : isSkipped c = false) :
    scan (scanned digits) c =
      if 32 ≤ digits.length then none
      else (digit? c).map fun digit => scanned (digits ++ [digit]) := by
  unfold scan
  rw [if_neg (ne_true_of_eq_false counts)]
  by_cases full : 32 ≤ digits.length
  · have beyond : 16 ≤ (scanned digits).j / 2 := by
      simp only [scanned]
      omega
    rw [if_pos full, if_pos beyond]
  · have inside : ¬16 ≤ (scanned digits).j / 2 := by
      simp only [scanned]
      omega
    rw [if_neg full, if_neg inside]
    congr 1
    funext digit
    simp [scanned, packed_append]
    rfl

/-- The loop over a text goes on where the digits before it ended. -/
theorem foldlM_scan (text : List UInt16) : ∀ {digits : List UInt8}, digits.length ≤ 32 →
    text.foldlM scan (scanned digits) = (digits? text).bind fun more =>
      if (digits ++ more).length ≤ 32 then some (scanned (digits ++ more)) else none := by
  induction text with
  | nil =>
      intro digits fits
      simp [digits?, fits]
  | cons c text induction =>
      intro digits fits
      rw [List.foldlM_cons, digits?]
      by_cases skips : isSkipped c = true
      · rw [if_pos skips, scan, if_pos skips]
        exact induction fits
      · rw [if_neg skips, scan_digit (Bool.not_eq_true _ ▸ skips)]
        by_cases full : 32 ≤ digits.length
        · rw [if_pos full]
          cases digit? c with
          | none => rfl
          | some digit =>
              cases digits? text with
              | none => rfl
              | some more =>
                  have beyond : ¬(digits ++ digit :: more).length ≤ 32 := by
                    simp
                    omega
                  exact (if_neg beyond).symm
        · rw [if_neg full]
          cases digit? c with
          | none => rfl
          | some digit =>
              have room : (digits ++ [digit]).length ≤ 32 := by
                simp
                omega
              refine (induction room).trans ?_
              cases digits? text with
              | none => rfl
              | some more => simp

theorem guidBytesFromString_spec {guidString : List UInt16} {bytes : List UInt8} :
    guidBytesFromString guidString = some bytes ↔
      isLaidOut (intOfSize guidString.length) guidString = true ∧
        ∃ digits, digits? guidString = some digits ∧
          (digits.length = 31 ∨ digits.length = 32) ∧ bytes = packed digits := by
  unfold guidBytesFromString
  by_cases layout : isLaidOut (intOfSize guidString.length) guidString = true
  · rw [if_pos layout, ← scanned_nil, @foldlM_scan guidString [] (Nat.zero_le 32)]
    cases read : digits? guidString with
    | none => simp
    | some digits =>
        by_cases fits : digits.length ≤ 32
        · by_cases last : (digits.length - 1) / 2 = 15
          · have count : digits.length = 31 ∨ digits.length = 32 := by omega
            simp [fits, scanned, last, layout, count, eq_comm]
          · have count : ¬(digits.length = 31 ∨ digits.length = 32) := by omega
            simp [fits, scanned, last, count]
        · have count : ¬(digits.length = 31 ∨ digits.length = 32) := by omega
          simp [fits, count]
  · simp [layout]

/-- The texts that are read as identifiers: a digit may be missing where a dash is too many. -/
theorem guidBytesFromString_eq_some_iff {guidString : List UInt16}
    (short : guidString.length < 2147483648) {bytes : List UInt8} :
    guidBytesFromString guidString = some bytes ↔
      isLaidOut guidString.length guidString = true ∧
        ∃ digits, digits? guidString = some digits ∧
          (digits.length = 31 ∨ digits.length = 32) ∧ bytes = packed digits := by
  rw [guidBytesFromString_spec, intOfSize_of_lt short]

/-- A digit of each case is among them, and a dash stands for one of the zeros. -/
def sampleGuidString : List UInt16 :=
  [0x61, 0x42] ++ List.replicate 6 0x30 ++ [dash] ++ List.replicate 4 0x30 ++ [dash] ++
    List.replicate 4 0x30 ++ [dash] ++ List.replicate 4 0x30 ++ [dash, dash] ++
    List.replicate 11 0x30

theorem guidBytesFromString_eq_some_iff_sampleGuidString :
    guidBytesFromString sampleGuidString = some (0xAB :: List.replicate 15 0) :=
  (guidBytesFromString_eq_some_iff (by decide)).mpr
    ⟨by decide, 10 :: 11 :: List.replicate 29 0, by decide, by decide, by decide⟩

/-! ## Reading what was written -/

theorem of_lt_sixteen {property : UInt8 → Bool}
    (all : ((List.range 16).all fun n => property (UInt8.ofNat n)) = true) {x : UInt8}
    (small : x.toNat < 16) : property x = true := by
  have known := List.all_eq_true.mp all x.toNat (List.mem_range.mpr small)
  rwa [UInt8.ofNat_toNat] at known

/-- A digit that was written is read as itself, and is no bracket and no dash. -/
def isRead (upperCase : Bool) (x : UInt8) : Bool :=
  !isSkipped (convertToHexChar upperCase x) &&
    digit? (convertToHexChar upperCase x) == some x &&
    (convertToHexChar upperCase x).toUInt8 != openingBrace.toUInt8 &&
    (convertToHexChar upperCase x).toUInt8 != openingParenthesis.toUInt8

theorem isRead_of_lt (upperCase : Bool) {x : UInt8} (small : x.toNat < 16) :
    isRead upperCase x = true := by
  cases upperCase
  · exact of_lt_sixteen (by decide) small
  · exact of_lt_sixteen (by decide) small

def high (c : UInt8) : UInt8 := (c &&& 0xf0) >>> 4

def low (c : UInt8) : UInt8 := c &&& 0x0f

theorem halves (c : UInt8) :
    (decide ((high c).toNat < 16) && decide ((low c).toNat < 16) &&
      byteOf (high c) (low c) == c) = true :=
  @HexNumbers.of_every_byte (fun c => decide ((high c).toNat < 16) && decide ((low c).toNat < 16) &&
    byteOf (high c) (low c) == c) (by decide +kernel) c

theorem high_lt (c : UInt8) : (high c).toNat < 16 := by
  have all := halves c
  simp only [Bool.and_eq_true, decide_eq_true_eq] at all
  exact all.1.1

theorem low_lt (c : UInt8) : (low c).toNat < 16 := by
  have all := halves c
  simp only [Bool.and_eq_true, decide_eq_true_eq] at all
  exact all.1.2

theorem byteOf_halves (c : UInt8) : byteOf (high c) (low c) = c := by
  have all := halves c
  simp only [Bool.and_eq_true, beq_iff_eq] at all
  exact all.2

theorem digits?_convertToHexChar (upperCase : Bool) {x : UInt8} (small : x.toNat < 16)
    (rest : List UInt16) :
    digits? (convertToHexChar upperCase x :: rest) = (digits? rest).map (x :: ·) := by
  have read := isRead_of_lt upperCase small
  simp only [isRead, Bool.and_eq_true, Bool.not_eq_true', beq_iff_eq] at read
  rw [digits?, read.1.1.1, if_neg Bool.false_ne_true, read.1.1.2, Option.bind_some]

def halvesOf (bytes : List UInt8) : List UInt8 :=
  bytes.flatMap fun c => [high c, low c]

theorem digits?_hexChars (upperCase : Bool) (bytes : List UInt8) (rest : List UInt16) :
    digits? (hexChars upperCase bytes ++ rest) = (digits? rest).map (halvesOf bytes ++ ·) := by
  induction bytes with
  | nil => simp [hexChars, halvesOf]
  | cons c bytes induction =>
      have split : hexChars upperCase (c :: bytes) ++ rest =
          convertToHexChar upperCase (high c) :: convertToHexChar upperCase (low c) ::
            (hexChars upperCase bytes ++ rest) := rfl
      rw [split, digits?_convertToHexChar upperCase (high_lt c),
        digits?_convertToHexChar upperCase (low_lt c), induction, Option.map_map, Option.map_map]
      rfl

theorem digits?_skipped {c : UInt16} (skips : isSkipped c = true) (rest : List UInt16) :
    digits? (c :: rest) = digits? rest := by
  rw [digits?, if_pos skips]

theorem groups_eq (guid : CTGuid) :
    guid.data.take 4 ++ ((guid.data.drop 4).take 2 ++ ((guid.data.drop 6).take 2 ++
      ((guid.data.drop 8).take 2 ++ guid.data.drop 10))) = guid.data := by
  have step : ∀ n m, (guid.data.drop n).take m ++ guid.data.drop (n + m) = guid.data.drop n := by
    intro n m
    rw [← List.drop_drop, List.take_append_drop]
  rw [step 8 2, step 6 2, step 4 2, List.take_append_drop]

theorem digits?_body (format : CTGuidFormat) (guid : CTGuid) (rest : List UInt16) :
    digits? (body format guid ++ rest) = (digits? rest).map (halvesOf guid.data ++ ·) := by
  unfold body
  cases format.includeDashes with
  | false => exact digits?_hexChars format.upperCase guid.data rest
  | true =>
      have skipped : isSkipped dash = true := by decide
      simp only [if_true, List.append_assoc, List.cons_append, digits?_hexChars,
        digits?_skipped skipped, Option.map_map]
      congr 1
      funext more
      conv => rhs; rw [← groups_eq guid]
      simp [halvesOf]

theorem stringValueWithFormat_eq (format : CTGuidFormat) (guid : CTGuid) :
    stringValueWithFormat format guid =
      if format.includeBraces then openingBrace :: (body format guid ++ [closingBrace])
      else if format.includeParenthesis then
        openingParenthesis :: (body format guid ++ [closingParenthesis])
      else body format guid := by
  unfold stringValueWithFormat
  cases format.includeBraces <;> cases format.includeParenthesis <;> simp

/-- The digits of an identifier as it is written are those of its bytes, if no parenthesis is
among them. -/
theorem digits?_stringValueWithFormat (format : CTGuidFormat) (guid : CTGuid) :
    digits? (stringValueWithFormat format guid) =
      if format.includeBraces || !format.includeParenthesis then some (halvesOf guid.data)
      else none := by
  have brace : isSkipped openingBrace = true := by decide
  have lastBrace : digits? [closingBrace] = some [] := by decide
  rw [stringValueWithFormat_eq]
  cases format.includeBraces with
  | true => simp [digits?_skipped brace, digits?_body, lastBrace]
  | false =>
      cases format.includeParenthesis with
      | true => rfl
      | false =>
          have plain := digits?_body format guid []
          rw [List.append_nil] at plain
          simp [plain, digits?]

theorem packed_halvesOf (guid : CTGuid) : packed (halvesOf guid.data) = guid.data := by
  rcases guid with ⟨data, length⟩
  match data, length with
  | [b0, b1, b2, b3, b4, b5, b6, b7, b8, b9, b10, b11, b12, b13, b14, b15], _ =>
      show [byteOf (high b0) (low b0), byteOf (high b1) (low b1), byteOf (high b2) (low b2),
        byteOf (high b3) (low b3), byteOf (high b4) (low b4), byteOf (high b5) (low b5),
        byteOf (high b6) (low b6), byteOf (high b7) (low b7), byteOf (high b8) (low b8),
        byteOf (high b9) (low b9), byteOf (high b10) (low b10), byteOf (high b11) (low b11),
        byteOf (high b12) (low b12), byteOf (high b13) (low b13), byteOf (high b14) (low b14),
        byteOf (high b15) (low b15)] = _
      simp only [byteOf_halves]

/-- What stands first without brackets is not taken for one. -/
theorem starts_convertToHexChar (upperCase : Bool) {x : UInt8} (small : x.toNat < 16)
    (rest : List UInt16) :
    starts openingBrace (convertToHexChar upperCase x :: rest) = false ∧
      starts openingParenthesis (convertToHexChar upperCase x :: rest) = false := by
  have read := isRead_of_lt upperCase small
  simp only [isRead, Bool.and_eq_true, bne_iff_ne] at read
  exact ⟨beq_false_of_ne read.1.2, beq_false_of_ne read.2⟩

theorem isLaidOut_of_starts {first : UInt16} {rest : List UInt16}
    (bracket : starts openingBrace (first :: rest) = false ∧
      starts openingParenthesis (first :: rest) = false) :
    isLaidOut (first :: rest).length (first :: rest) =
      (((first :: rest).length : Int) == 0x24 && hasDashes 0 (first :: rest) ||
        ((first :: rest).length : Int) == 0x20) := by
  have some : (((first :: rest).length : Int) == 0) = false :=
    beq_false_of_ne (Int.natCast_ne_zero.mpr (Nat.succ_ne_zero _))
  rw [isLaidOut, some, bracket.1, bracket.2]
  rfl

theorem isLaidOut_stringValueWithFormat (format : CTGuidFormat) (guid : CTGuid) :
    isLaidOut (stringValueWithFormat format guid).length (stringValueWithFormat format guid) =
      true := by
  rcases format with ⟨dashes, braces, parenthesis, upperCase⟩
  rcases guid with ⟨data, length⟩
  match data, length with
  | [b0, b1, b2, b3, b4, b5, b6, b7, b8, b9, b10, b11, b12, b13, b14, b15], _ =>
      cases braces with
      | true => cases dashes <;> rfl
      | false =>
          cases parenthesis with
          | true => cases dashes <;> rfl
          | false =>
              have first := starts_convertToHexChar upperCase (high_lt b0)
              cases dashes with
              | true => exact (isLaidOut_of_starts (first _)).trans rfl
              | false => exact (isLaidOut_of_starts (first _)).trans rfl

theorem length_stringValueWithFormat (format : CTGuidFormat) (guid : CTGuid) :
    (stringValueWithFormat format guid).length ≤ 32 + 4 + 2 := by
  rcases format with ⟨dashes, braces, parenthesis, upperCase⟩
  rcases guid with ⟨data, length⟩
  match data, length with
  | [_, _, _, _, _, _, _, _, _, _, _, _, _, _, _, _], _ =>
      cases dashes <;> cases braces <;> cases parenthesis <;>
        simp [stringValueWithFormat, body, hexChars]

/-- An identifier fits the buffer it is written to in every format, and is read again from it
unless it stands in parentheses. -/
theorem guidFromString_stringValueWithFormat (format : CTGuidFormat) (guid : CTGuid) :
    (stringValueWithFormat format guid).length ≤ 32 + 4 + 2 ∧
      guidFromString (stringValueWithFormat format guid) =
        if format.includeBraces || !format.includeParenthesis then some guid else none := by
  refine ⟨length_stringValueWithFormat format guid, ?_⟩
  have digits := digits?_stringValueWithFormat format guid
  by_cases read : (format.includeBraces || !format.includeParenthesis) = true
  · rw [if_pos read] at digits ⊢
    have count : (halvesOf guid.data).length = 32 := by
      have pairs : ∀ bytes : List UInt8, (halvesOf bytes).length = 2 * bytes.length := by
        intro bytes
        induction bytes with
        | nil => rfl
        | cons c bytes induction =>
            simp [halvesOf] at induction ⊢
            omega
      rw [pairs, guid.length_data]
    have layout := isLaidOut_stringValueWithFormat format guid
    rw [← intOfSize_of_lt (Nat.lt_of_le_of_lt (length_stringValueWithFormat format guid)
      (by decide))] at layout
    have bytes : guidBytesFromString (stringValueWithFormat format guid) = some guid.data :=
      guidBytesFromString_spec.mpr ⟨layout, _, digits, .inr count, (packed_halvesOf guid).symm⟩
    simp [guidFromString, bytes, guid.length_data]
  · rw [if_neg read] at digits ⊢
    have bytes : guidBytesFromString (stringValueWithFormat format guid) = none := by
      refine Option.eq_none_iff_forall_ne_some.mpr fun bytes read => ?_
      rcases (guidBytesFromString_spec.mp read).2 with ⟨_, some, _⟩
      rw [digits] at some
      cases some
    simp [guidFromString, bytes]

end CTGuid

end ConnectSDK
