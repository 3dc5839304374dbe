import ConnectSDK.Foundation.PercentEscapes

/-! # Texts that arrive in parts

How a web socket checks the bytes of a text that it has so far. They may end within a
character, which is left for the next time.
-/

namespace ConnectSDK

namespace SocketRocket

/-! ## Characters -/

def isSingle (byte : UInt8) : Bool :=
  decide (byte ≤ 0x7F)

def isLead (byte : UInt8) : Bool :=
  decide (0xC2 ≤ byte) && decide (byte ≤ 0xF4)

def isTrail (byte : UInt8) : Bool :=
  decide (0x80 ≤ byte) && decide (byte ≤ 0xBF)

def countTrailBytes (lead : UInt8) : Nat :=
  if isLead lead then 1 + (decide (0xE0 ≤ lead)).toNat + (decide (0xF0 ≤ lead)).toNat else 0

def decodeCharacter? (bytes : List UInt8) : Option Char :=
  bytes.toByteArray.utf8DecodeChar? 0

/-- Whether a character that starts with the first byte may go on with the second. -/
def goesOnWith (lead trail : UInt8) : Bool :=
  if lead = 0xE0 then decide (0xA0 ≤ trail) && decide (trail ≤ 0xBF)
  else if lead = 0xED then decide (0x80 ≤ trail) && decide (trail ≤ 0x9F)
  else if lead = 0xF0 then decide (0x90 ≤ trail) && decide (trail ≤ 0xBF)
  else if lead = 0xF4 then decide (0x80 ≤ trail) && decide (trail ≤ 0x8F)
  else isTrail trail

/-- How many bytes a character takes that is not well formed: as many as one could start with. -/
def illFormedLength : List UInt8 → Nat
  | lead :: trail :: rest =>
      if countTrailBytes lead ≠ 0 ∧ goesOnWith lead trail then
        2 + ((rest.take (countTrailBytes lead - 1)).takeWhile isTrail).length
      else 1
  | _ => 1

/-- `U8_NEXT`: the next code point, or -1, and the bytes it takes. -/
def nextCodePoint (bytes : List UInt8) : Int × Nat :=
  match decodeCharacter? bytes with
  | some character => (character.toNat, character.utf8Size)
  | none => (-1, illFormedLength bytes)

/-! ## The check -/

/-- The loop over the characters. A null character ends it, like one that is not well formed.
The result is the last code point and the offsets before and after it. -/
def scanCodePoints (data : List UInt8) : Nat → Int → Nat → Nat → Int × Nat × Nat
  | 0, codepoint, lastOffset, offset => (codepoint, lastOffset, offset)
  | rounds + 1, codepoint, lastOffset, offset =>
      if offset < data.length ∧ 0 < codepoint then
        scanCodePoints data rounds (nextCodePoint (data.drop offset)).1 offset
          (offset + (nextCodePoint (data.drop offset)).2)
      else (codepoint, lastOffset, offset)

/-- Where the last character starts that is not well formed, if it may be one that goes on. -/
def startOfPartial (data : List UInt8) (lastOffset offset : Nat) : Option Nat :=
  let lead := data.getD lastOffset 0
  if !isLead lead || decide (countTrailBytes lead + lastOffset < data.length) then none
  else
    let between := (data.drop (lastOffset + 1)).take (offset - (lastOffset + 1))
    if between.any fun byte => isSingle byte || isLead byte || !isTrail byte then none
    else some lastOffset

/-- `validate_dispatch_data_partial_string`, of which -1 is none. -/
def validatePartialString (data : List UInt8) : Option Nat := do
  if 0x7FFFFFFF < data.length then none
  else
    let scanned := scanCodePoints data data.length 1 0 0
    let size ←
      if scanned.1 = -1 then startOfPartial data scanned.2.1 scanned.2.2
      else some data.length
    if (utf8Text? (data.take size)).isSome then some size else none

/-! ## Bytes of a character -/

theorem toNat_ofNat {number : Nat} (small : number < 256) : (UInt8.ofNat number).toNat = number :=
  UInt8.toNat_ofNat_of_lt' small

theorem le_ofNat_iff {bound number : Nat} (boundSmall : bound < 256) (small : number < 256) :
    UInt8.ofNat bound ≤ UInt8.ofNat number ↔ bound ≤ number := by
  rw [UInt8.le_iff_toNat_le, toNat_ofNat boundSmall, toNat_ofNat small]

theorem isTrail_ofNat {number : Nat} (low : 0x80 ≤ number) (high : number ≤ 0xBF) :
    isTrail (UInt8.ofNat number) = true :=
  Bool.and_eq_true_iff.mpr
    ⟨decide_eq_true ((@le_ofNat_iff 0x80 number (by decide) (by omega)).mpr low),
      decide_eq_true ((le_ofNat_iff (by omega) (by decide)).mpr high)⟩

theorem not_single_of_trail {byte : UInt8} (trail : isTrail byte = true) :
    (isSingle byte || isLead byte || !isTrail byte) = false := by
  have bounds := Bool.and_eq_true_iff.mp trail
  have low := UInt8.le_iff_toNat_le.mp (of_decide_eq_true bounds.1)
  have high := UInt8.le_iff_toNat_le.mp (of_decide_eq_true bounds.2)
  have single : isSingle byte = false :=
    decide_eq_false fun small =>
      absurd (Nat.le_trans low (UInt8.le_iff_toNat_le.mp small)) (by decide)
  have lead : isLead byte = false :=
    Bool.and_eq_false_iff.mpr (.inl (decide_eq_false fun large =>
      absurd (Nat.le_trans (UInt8.le_iff_toNat_le.mp large) high) (by decide)))
  rw [single, lead, trail]
  rfl

theorem lead_ofNat {number : Nat} (low : 0xC2 ≤ number) (high : number ≤ 0xF4) :
    isLead (UInt8.ofNat number) = true ∧
      countTrailBytes (UInt8.ofNat number) =
        1 + (decide (0xE0 ≤ number)).toNat + (decide (0xF0 ≤ number)).toNat := by
  have isLeading : isLead (UInt8.ofNat number) = true :=
    Bool.and_eq_true_iff.mpr
      ⟨decide_eq_true ((@le_ofNat_iff 0xC2 number (by decide) (by omega)).mpr low),
        decide_eq_true ((le_ofNat_iff (by omega) (by decide)).mpr high)⟩
  refine ⟨isLeading, (if_pos isLeading).trans ?_⟩
  have three : decide ((0xE0 : UInt8) ≤ UInt8.ofNat number) = decide (0xE0 ≤ number) :=
    decide_eq_decide.mpr (@le_ofNat_iff 0xE0 number (by decide) (by omega))
  have four : decide ((0xF0 : UInt8) ≤ UInt8.ofNat number) = decide (0xF0 ≤ number) :=
    decide_eq_decide.mpr (@le_ofNat_iff 0xF0 number (by decide) (by omega))
  rw [three, four]

/-- A character is a single byte, or a lead and as many trail bytes as it announces. -/
theorem utf8EncodeChar_cases (character : Char) :
    (∃ byte, String.utf8EncodeChar character = [byte]) ∨
      ∃ lead trails, String.utf8EncodeChar character = lead :: trails ∧ isLead lead = true ∧
        countTrailBytes lead = trails.length ∧ ∀ byte ∈ trails, isTrail byte = true := by
  have bound : character.val.toNat < 0x110000 :=
    character.valid.elim (fun low => Nat.lt_trans low (by decide)) And.right
  unfold String.utf8EncodeChar
  dsimp only
  generalize character.val.toNat = code at bound
  split_ifs with one two three
  · exact .inl ⟨_, rfl⟩
  · rcases @lead_ofNat (code / 64 % 32 + 0xC0) (by omega) (by omega) with ⟨isLeading, count⟩
    refine .inr ⟨_, _, rfl, isLeading, ?_, ?_⟩
    · rw [count, decide_eq_false (by omega), decide_eq_false (by omega)]
      rfl
    · simp only [List.mem_cons, List.not_mem_nil, or_false, forall_eq]
      exact isTrail_ofNat (by omega) (by omega)
  · rcases @lead_ofNat (code / 4096 % 16 + 0xE0) (by omega) (by omega) with ⟨isLeading, count⟩
    refine .inr ⟨_, _, rfl, isLeading, ?_, ?_⟩
    · rw [count, decide_eq_true (by omega), decide_eq_false (by omega)]
      rfl
    · simp only [List.mem_cons, List.not_mem_nil, or_false, forall_eq_or_imp, forall_eq]
      exact ⟨isTrail_ofNat (by omega) (by omega), isTrail_ofNat (by omega) (by omega)⟩
  · rcases @lead_ofNat (code / 262144 % 8 + 0xF0) (by omega) (by omega) with ⟨isLeading, count⟩
    refine .inr ⟨_, _, rfl, isLeading, ?_, ?_⟩
    · rw [count, decide_eq_true (by omega), decide_eq_true (by omega)]
      rfl
    · simp only [List.mem_cons, List.not_mem_nil, or_false, forall_eq_or_imp, forall_eq]
      exact ⟨isTrail_ofNat (by omega) (by omega), isTrail_ofNat (by omega) (by omega),
        isTrail_ofNat (by omega) (by omega)⟩

/-! ## Decoding -/

theorem decodeCharacter?_append {bytes : List UInt8} {character : Char}
    (read : decodeCharacter? bytes = some character) (more : List UInt8) :
    decodeCharacter? (bytes ++ more) = some character := by
  rw [decodeCharacter?, List.toByteArray_append]
  exact ByteArray.utf8DecodeChar?_append_eq_some read _

theorem decodeCharacter?_utf8EncodeChar (character : Char) (rest : List UInt8) :
    decodeCharacter? (String.utf8EncodeChar character ++ rest) = some character := by
  rw [decodeCharacter?, List.toByteArray_append]
  exact ByteArray.utf8DecodeChar?_utf8EncodeChar_append

/-- The first bytes of a character are none. -/
theorem decodeCharacter?_of_short {bytes more : List UInt8} {character : Char}
    (parts : bytes ++ more = String.utf8EncodeChar character) (unfinished : more ≠ []) :
    decodeCharacter? bytes = none := by
  cases read : decodeCharacter? bytes with
  | none => rfl
  | some other =>
      exfalso
      have whole := decodeCharacter?_append read more
      rw [parts] at whole
      have same := decodeCharacter?_utf8EncodeChar character []
      rw [List.append_nil, whole] at same
      cases same
      rcases ByteArray.exists_of_utf8DecodeChar?_eq_some read with ⟨rest, split⟩
      have sizes := congrArg ByteArray.size split
      have lengths := congrArg List.length parts
      rw [List.size_toByteArray, ByteArray.size_append, List.size_toByteArray] at sizes
      rw [List.length_append] at lengths
      have positive := List.length_pos_iff.mpr unfinished
      omega

/-! ## Texts -/

def encodedCharacters (characters : List Char) : List UInt8 :=
  characters.flatMap String.utf8EncodeChar

theorem utf8Text?_encodedCharacters (characters : List Char) :
    utf8Text? (encodedCharacters characters) = some (String.ofList characters) := by
  rw [utf8Text?_eq_some_iff, utf8Bytes_eq_flatMap, String.toList_ofList]
  rfl

/-- The bytes are the first of a character's, and not all of them. -/
def IsPartial (bytes : List UInt8) : Prop :=
  bytes ≠ [] ∧ ∃ character more, more ≠ [] ∧ bytes ++ more = String.utf8EncodeChar character

theorem IsPartial.nextCodePoint {bytes : List UInt8} (isPartial : IsPartial bytes) :
    (nextCodePoint bytes).1 = -1 := by
  rcases isPartial.2 with ⟨character, more, unfinished, parts⟩
  rw [SocketRocket.nextCodePoint, decodeCharacter?_of_short parts unfinished]

theorem IsPartial.spec {bytes : List UInt8} (isPartial : IsPartial bytes) :
    ∃ lead trails, bytes = lead :: trails ∧ isLead lead = true ∧
      trails.length < countTrailBytes lead ∧ ∀ byte ∈ trails, isTrail byte = true := by
  rcases isPartial with ⟨present, character, more, unfinished, parts⟩
  rcases List.exists_cons_of_ne_nil present with ⟨lead, trails, rfl⟩
  have positive := List.length_pos_iff.mpr unfinished
  rcases utf8EncodeChar_cases character with ⟨byte, single⟩ | ⟨lead', trails', whole, isLeading,
    count, areTrails⟩
  · rw [single] at parts
    have lengths := congrArg List.length parts
    rw [List.length_append, List.length_cons, List.length_singleton] at lengths
    omega
  · rw [whole] at parts
    rcases List.cons.inj parts with ⟨rfl, rest⟩
    have same : trails ++ more = trails' := rest
    refine ⟨lead, trails, rfl, isLeading, ?_, ?_⟩
    · rw [count, ← same, List.length_append]
      omega
    · exact fun byte member => areTrails byte (same ▸ List.mem_append_left more member)

theorem nextCodePoint_encoded (character : Char) (rest : List UInt8) :
    nextCodePoint (String.utf8EncodeChar character ++ rest) =
      ((character.toNat : Int), (String.utf8EncodeChar character).length) := by
  unfold nextCodePoint
  rw [decodeCharacter?_utf8EncodeChar, String.length_utf8EncodeChar]

theorem scanCodePoints_stop {data : List UInt8} {codepoint : Int} {offset : Nat}
    (ends : ¬ (offset < data.length ∧ 0 < codepoint)) (rounds lastOffset : Nat) :
    scanCodePoints data rounds codepoint lastOffset offset = (codepoint, lastOffset, offset) := by
  cases rounds with
  | zero => rfl
  | succ rounds => exact if_neg ends

theorem scanCodePoints_step {data : List UInt8} {codepoint : Int} {offset : Nat}
    (goesOn : offset < data.length ∧ 0 < codepoint) (rounds lastOffset : Nat) :
    scanCodePoints data (rounds + 1) codepoint lastOffset offset =
      scanCodePoints data rounds (nextCodePoint (data.drop offset)).1 offset
        (offset + (nextCodePoint (data.drop offset)).2) :=
  if_pos goesOn

/-- The bytes are the text's first characters, and what is left of them. -/
def Splits (characters : List Char) (bytes : List UInt8) (whole : List Char)
    (left : List UInt8) : Prop :=
  whole <+: characters ∧ bytes = encodedCharacters whole ++ left

/-- The scan of a text's first bytes ends where they do, or before a character they end in. -/
theorem scanCodePoints_start {data : List UInt8} :
    ∀ {characters : List Char} {rest : List UInt8} {rounds : Nat} {codepoint : Int}
      {lastOffset offset : Nat}, rest <+: encodedCharacters characters →
      Char.ofNat 0 ∉ characters → data.drop offset = rest → rest.length ≤ rounds →
      0 < codepoint → ∃ whole left, Splits characters rest whole left ∧
        ((left = [] ∧ (scanCodePoints data rounds codepoint lastOffset offset).1 ≠ -1) ∨
          (IsPartial left ∧ ∃ next, scanCodePoints data rounds codepoint lastOffset offset =
            (-1, offset + (encodedCharacters whole).length, next))) := by
  have atEnd {rounds : Nat} {codepoint : Int} {lastOffset offset : Nat}
      (ends : data.drop offset = []) (positive : 0 < codepoint) :
      (scanCodePoints data rounds codepoint lastOffset offset).1 ≠ -1 := by
    rw [scanCodePoints_stop]
    · exact fun negative => absurd (negative ▸ positive : (0 : Int) < -1) (by decide)
    · exact fun goesOn => Nat.not_lt.mpr (List.drop_eq_nil_iff.mp ends) goesOn.1
  intro characters
  induction characters with
  | nil =>
      intro rest rounds codepoint lastOffset offset starts _ here _ positive
      cases List.prefix_nil.mp starts
      exact ⟨[], [], ⟨List.prefix_rfl, rfl⟩, .inl ⟨rfl, atEnd here positive⟩⟩
  | cons character characters induction =>
      intro rest rounds codepoint lastOffset offset starts noNull here enough positive
      cases rest with
      | nil => exact ⟨[], [], ⟨List.nil_prefix, rfl⟩, .inl ⟨rfl, atEnd here positive⟩⟩
      | cons byte bytes =>
          rcases Nat.exists_eq_add_of_lt (Nat.lt_of_lt_of_le (Nat.succ_pos _) enough) with
            ⟨more, counted⟩
          rw [Nat.zero_add] at counted
          subst counted
          have inside : offset < data.length := by
            by_contra outside
            rw [List.drop_eq_nil_iff.mpr (Nat.not_lt.mp outside)] at here
            cases here
          have first : String.utf8EncodeChar character <+:
              encodedCharacters (character :: characters) := List.prefix_append _ _
          by_cases finished : String.utf8EncodeChar character <+: byte :: bytes
          · rcases finished with ⟨after, parts⟩
            rw [← parts] at starts here enough ⊢
            have present : 0 < (String.utf8EncodeChar character).length := by
              rw [String.length_utf8EncodeChar]
              exact character.utf8Size_pos
            rw [List.length_append] at enough
            have code : (0 : Int) < character.toNat := by
              have nonzero : character.toNat ≠ 0 := fun zero =>
                noNull (List.mem_cons.mpr (.inl (by rw [← zero, Char.ofNat_toNat])))
              omega
            have later : data.drop (offset + (String.utf8EncodeChar character).length) = after := by
              rw [← List.drop_drop, here, List.drop_left]
            rw [scanCodePoints_step ⟨inside, positive⟩, here, nextCodePoint_encoded]
            rcases @induction after more character.toNat offset _
              ((List.prefix_append_right_inj _).mp starts)
              (fun member => noNull (List.mem_cons_of_mem _ member)) later (by omega) code with
              ⟨chars, left, ⟨isPrefix, split⟩, result⟩
            refine ⟨character :: chars, left, ⟨List.cons_prefix_cons.mpr ⟨rfl, isPrefix⟩, ?_⟩, ?_⟩
            · rw [split]
              exact (List.append_assoc _ _ _).symm
            · have total : offset + (encodedCharacters (character :: chars)).length =
                  offset + (String.utf8EncodeChar character).length +
                    (encodedCharacters chars).length := by
                rw [Nat.add_assoc, ← List.length_append]
                rfl
              rw [total]
              exact result
          · have isPartial : IsPartial (byte :: bytes) := by
              rcases (List.prefix_or_prefix_of_prefix first starts).resolve_left finished with
                ⟨missing, parts⟩
              refine ⟨List.cons_ne_nil _ _, character, missing, ?_, parts⟩
              rintro rfl
              rw [List.append_nil] at parts
              exact finished (parts ▸ List.prefix_rfl)
            refine ⟨[], byte :: bytes, ⟨List.nil_prefix, rfl⟩, .inr ⟨isPartial,
              offset + (nextCodePoint (byte :: bytes)).2, ?_⟩⟩
            rw [scanCodePoints_step ⟨inside, positive⟩, here, isPartial.nextCodePoint,
              scanCodePoints_stop fun goesOn => absurd goesOn.2 (by decide)]
            rfl

theorem startOfPartial_isPartial {front left : List UInt8} (isPartial : IsPartial left)
    (next : Nat) : startOfPartial (front ++ left) front.length next = some front.length := by
  rcases isPartial.spec with ⟨lead, trails, rfl, isLeading, few, areTrails⟩
  have first : (front ++ lead :: trails).getD front.length 0 = lead := by
    rw [List.getD_eq_getElem?_getD, List.getElem?_append_right (Nat.le_refl _), Nat.sub_self]
    rfl
  have after : (front ++ lead :: trails).drop (front.length + 1) = trails := by
    rw [← List.drop_drop, List.drop_left]
    rfl
  have enough : ¬ countTrailBytes lead + front.length < (front ++ lead :: trails).length := by
    rw [List.length_append, List.length_cons]
    omega
  have legal : ((trails.take (next - (front.length + 1))).any fun byte =>
      isSingle byte || isLead byte || !isTrail byte) = false :=
    List.any_eq_false.mpr fun byte member =>
      ne_true_of_eq_false (not_single_of_trail (areTrails byte (List.mem_of_mem_take member)))
  unfold startOfPartial
  dsimp only
  rw [first, after, isLeading, legal, decide_eq_false enough]
  rfl

/-- Of the first bytes of a text that has no null, the whole characters are valid. -/
theorem validatePartialString_start {data : List UInt8} {characters : List Char}
    (starts : data <+: encodedCharacters characters) (noNull : Char.ofNat 0 ∉ characters)
    (short : data.length ≤ 0x7FFFFFFF) :
    ∃ whole left, Splits characters data whole left ∧
      validatePartialString data = some (encodedCharacters whole).length := by
  rcases @scanCodePoints_start data characters data data.length 1 0 0 starts noNull List.drop_zero
    (Nat.le_refl _) Int.one_pos with ⟨whole, left, splits, result⟩
  refine ⟨whole, left, splits, ?_⟩
  have valid : (utf8Text? (data.take (encodedCharacters whole).length)).isSome = true := by
    rw [splits.2, List.take_left, utf8Text?_encodedCharacters]
    rfl
  unfold validatePartialString
  rw [if_neg (Nat.not_lt.mpr short)]
  dsimp only
  rcases result with ⟨rfl, notPartial⟩ | ⟨isPartial, next, scanned⟩
  · have whole' : (encodedCharacters whole).length = data.length := by
      rw [splits.2, List.append_nil]
    rw [if_neg notPartial, Option.bind_eq_bind, Option.bind_some, ← whole', if_pos valid]
  · have found : startOfPartial data (encodedCharacters whole).length next =
        some (encodedCharacters whole).length := by
      rw [splits.2]
      exact startOfPartial_isPartial isPartial next
    rw [Nat.zero_add] at scanned
    rw [scanned, if_pos rfl]
    dsimp only
    rw [found, Option.bind_eq_bind, Option.bind_some, if_pos valid]

end SocketRocket

end ConnectSDK
