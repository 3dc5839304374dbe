import Mathlib
import ConnectSDK.Foundation.PercentEscapes

/-! # Frames of web sockets

A frame is two bytes of flags, an opcode and a length, the rest of a length that takes more,
a key if its payload is masked, and the payload. Messages are put together from frames, with
control frames between them.
-/

namespace ConnectSDK

namespace WebSocket

/-! ## Numbers -/

/-- The lowest bytes of a number, the highest of them first. -/
def bigEndian : Nat → Nat → List UInt8
  | 0, _ => []
  | count + 1, number => bigEndian count (number / 256) ++ [UInt8.ofNat number]

def ofBigEndian (bytes : List UInt8) : Nat :=
  bytes.foldl (fun number byte => 256 * number + byte.toNat) 0

@[simp] theorem length_bigEndian (count : Nat) :
    ∀ number, (bigEndian count number).length = count := by
  induction count with
  | zero => exact fun _ => rfl
  | succ count induction =>
      intro number
      rw [bigEndian, List.length_append, induction]
      rfl

theorem ofBigEndian_append (bytes : List UInt8) (last : UInt8) :
    ofBigEndian (bytes ++ [last]) = 256 * ofBigEndian bytes + last.toNat := by
  rw [ofBigEndian, List.foldl_append]
  rfl

theorem ofBigEndian_bigEndian (count : Nat) :
    ∀ {number}, number < 256 ^ count → ofBigEndian (bigEndian count number) = number := by
  induction count with
  | zero =>
      intro number small
      exact (Nat.lt_one_iff.mp small).symm
  | succ count induction =>
      intro number small
      rw [Nat.pow_succ] at small
      rw [bigEndian, ofBigEndian_append, induction (Nat.div_lt_of_lt_mul (by omega)),
        UInt8.toNat_ofNat']
      omega

/-! ## Masks -/

abbrev Key := Fin 4 → UInt8

def Key.bytes (key : Key) : List UInt8 :=
  [key 0, key 1, key 2, key 3]

def keyOf (first second third fourth : UInt8) : Key
  | 0 => first
  | 1 => second
  | 2 => third
  | 3 => fourth

theorem keyOf_apply (key : Key) : keyOf (key 0) (key 1) (key 2) (key 3) = key := by
  funext index
  match index with
  | 0 => rfl
  | 1 => rfl
  | 2 => rfl
  | 3 => rfl

def masked (key : Key) (payload : List UInt8) : List UInt8 :=
  payload.mapIdx fun index byte => byte ^^^ key (Fin.ofNat 4 index)

@[simp] theorem length_masked (key : Key) (payload : List UInt8) :
    (masked key payload).length = payload.length :=
  List.length_mapIdx

/-- A mask is taken off as it is put on. -/
theorem masked_masked (key : Key) (payload : List UInt8) :
    masked key (masked key payload) = payload := by
  apply List.ext_getElem
  · rw [length_masked, length_masked]
  · intro index _ _
    simp only [masked, List.getElem_mapIdx, UInt8.xor_assoc, UInt8.xor_self, UInt8.xor_zero]

def maskedWith (key : Option Key) (payload : List UInt8) : List UInt8 :=
  match key with
  | none => payload
  | some key => masked key payload

@[simp] theorem length_maskedWith (key : Option Key) (payload : List UInt8) :
    (maskedWith key payload).length = payload.length := by
  cases key with
  | none => rfl
  | some key => exact length_masked key payload

theorem maskedWith_maskedWith (key : Option Key) (payload : List UInt8) :
    maskedWith key (maskedWith key payload) = payload := by
  cases key with
  | none => rfl
  | some key => exact masked_masked key payload

/-! ## Frames -/

structure Frame where
  fin : Bool
  opcode : Fin 16
  payload : List UInt8

/-- In how many bytes more a length is written. -/
inductive LengthForm where
  | none
  | two
  | eight
deriving DecidableEq

namespace LengthForm

def count : LengthForm → Nat
  | .none => 0
  | .two => 2
  | .eight => 8

/-- What stands in the second byte for the length. -/
def code (length : Nat) : LengthForm → Nat
  | .none => length
  | .two => 126
  | .eight => 127

def Fits (length : Nat) : LengthForm → Prop
  | .none => length < 126
  | .two => length < 256 ^ 2
  | .eight => length < 256 ^ 8

theorem Fits.code_lt {length : Nat} {form : LengthForm} (fits : form.Fits length) :
    form.code length < 128 := by
  cases form with
  | none => exact Nat.lt_of_lt_of_le fits (by decide)
  | two => exact (by decide : 126 < 128)
  | eight => exact (by decide : 127 < 128)

end LengthForm

/-- How a sender writes a frame. -/
structure Coding where
  key : Option Key
  form : LengthForm

def firstByte (frame : Frame) : UInt8 :=
  UInt8.ofNat (128 * frame.fin.toNat + frame.opcode)

def secondByte (isMasked : Bool) (code : Nat) : UInt8 :=
  UInt8.ofNat (128 * isMasked.toNat + code)

def Coding.keyBytes (coding : Coding) : List UInt8 :=
  (coding.key.map Key.bytes).getD []

/-- What follows the first two bytes, up to the payload. -/
def Coding.extra (coding : Coding) (length : Nat) : List UInt8 :=
  bigEndian coding.form.count length ++ coding.keyBytes

def encoded (coding : Coding) (frame : Frame) : List UInt8 :=
  firstByte frame :: secondByte coding.key.isSome (coding.form.code frame.payload.length) ::
    (coding.extra frame.payload.length ++ maskedWith coding.key frame.payload)

/-! ## Reading -/

def takeNumber (count : Nat) (bytes : List UInt8) : Option (Nat × List UInt8) :=
  if bytes.length < count then none
  else some (ofBigEndian (bytes.take count), bytes.drop count)

def takeLength (code : Nat) (bytes : List UInt8) : Option (Nat × List UInt8) :=
  if code < 126 then some (code, bytes)
  else if code = 126 then takeNumber 2 bytes
  else takeNumber 8 bytes

def takeKey (isMasked : Bool) (bytes : List UInt8) : Option (Option Key × List UInt8) :=
  if isMasked then
    match bytes with
    | first :: second :: third :: fourth :: rest =>
        some (some (keyOf first second third fourth), rest)
    | _ => none
  else some (none, bytes)

/-- The first frame of the bytes and what follows it. A frame may not use the reserved bits. -/
def decode? : List UInt8 → Option (Frame × List UInt8)
  | first :: second :: bytes => do
      let (length, bytes) ← takeLength (second.toNat % 128) bytes
      let (key, bytes) ← takeKey (decide (128 ≤ second.toNat)) bytes
      if first.toNat % 128 < 16 ∧ length ≤ bytes.length then
        some ({ fin := decide (128 ≤ first.toNat), opcode := Fin.ofNat 16 first.toNat,
                payload := maskedWith key (bytes.take length) }, bytes.drop length)
      else none
  | _ => none

/-- Whether the first frame of the bytes says that its payload is masked. -/
def masks : List UInt8 → Bool
  | _ :: second :: _ => decide (128 ≤ second.toNat)
  | _ => false

/-- The bytes are those of the frames, one after the other, which are all masked or none. -/
inductive Decodes (isMasked : Bool) : List UInt8 → List Frame → Prop where
  | nil : Decodes isMasked [] []
  | cons {bytes rest : List UInt8} {frame : Frame} {frames : List Frame}
      (mask : masks bytes = isMasked) (first : decode? bytes = some (frame, rest))
      (more : Decodes isMasked rest frames) : Decodes isMasked bytes (frame :: frames)

theorem takeNumber_bigEndian {count number : Nat} (small : number < 256 ^ count)
    (rest : List UInt8) : takeNumber count (bigEndian count number ++ rest) = some (number, rest) := by
  have whole := length_bigEndian count number
  have long : ¬ (bigEndian count number ++ rest).length < count := by
    rw [List.length_append, whole]
    omega
  rw [takeNumber, if_neg long, List.take_left' whole, List.drop_left' whole,
    ofBigEndian_bigEndian count small]

theorem takeLength_extra {form : LengthForm} {length : Nat} (fits : form.Fits length)
    (rest : List UInt8) :
    takeLength (form.code length) (bigEndian form.count length ++ rest) = some (length, rest) := by
  cases form with
  | none => exact if_pos fits
  | two => exact takeNumber_bigEndian fits rest
  | eight => exact takeNumber_bigEndian fits rest

theorem takeKey_keyBytes (coding : Coding) (rest : List UInt8) :
    takeKey coding.key.isSome (coding.keyBytes ++ rest) = some (coding.key, rest) := by
  rcases coding with ⟨_ | key, form⟩
  · rfl
  · exact congrArg (fun key => some (some key, rest)) (keyOf_apply key)

theorem firstByte_spec (frame : Frame) :
    (firstByte frame).toNat = 128 * frame.fin.toNat + frame.opcode := by
  rw [firstByte, UInt8.toNat_ofNat_of_lt']
  have small := frame.opcode.isLt
  have bit := frame.fin.toNat_le
  exact (by omega : 128 * frame.fin.toNat + frame.opcode < 256)

theorem secondByte_spec (isMasked : Bool) {code : Nat} (small : code < 128) :
    (secondByte isMasked code).toNat = 128 * isMasked.toNat + code := by
  rw [secondByte, UInt8.toNat_ofNat_of_lt']
  have bit := isMasked.toNat_le
  exact (by omega : 128 * isMasked.toNat + code < 256)

theorem decide_flag (flag : Bool) {code : Nat} (small : code < 128) :
    decide (128 ≤ 128 * flag.toNat + code) = flag := by
  cases flag with
  | false => exact decide_eq_false (by rw [Bool.toNat_false]; omega)
  | true => exact decide_eq_true (by rw [Bool.toNat_true]; omega)

theorem masks_encoded {coding : Coding} {frame : Frame}
    (fits : coding.form.Fits frame.payload.length) (rest : List UInt8) :
    masks (encoded coding frame ++ rest) = coding.key.isSome := by
  rw [encoded, List.cons_append, List.cons_append, masks, secondByte_spec _ fits.code_lt]
  exact decide_flag _ fits.code_lt

/-- What is read first from an encoded frame is the frame, whatever follows it. -/
theorem decode?_encoded {coding : Coding} {frame : Frame}
    (fits : coding.form.Fits frame.payload.length) (rest : List UInt8) :
    decode? (encoded coding frame ++ rest) = some (frame, rest) := by
  have small := fits.code_lt
  have opcode := frame.opcode.isLt
  have parts : encoded coding frame ++ rest =
      firstByte frame :: secondByte coding.key.isSome (coding.form.code frame.payload.length) ::
        (bigEndian coding.form.count frame.payload.length ++
          (coding.keyBytes ++ (maskedWith coding.key frame.payload ++ rest))) := by
    simp only [encoded, Coding.extra, List.cons_append, List.append_assoc]
  have whole := length_maskedWith coding.key frame.payload
  rw [parts, decode?, secondByte_spec _ small, firstByte_spec, Nat.mul_add_mod,
    Nat.mod_eq_of_lt small, takeLength_extra fits, decide_flag _ small, Option.bind_eq_bind,
    Option.bind_some]
  dsimp only
  rw [takeKey_keyBytes, Option.bind_eq_bind, Option.bind_some]
  dsimp only
  rw [if_pos ⟨by omega, by rw [List.length_append, whole]; omega⟩, List.take_left' whole,
    List.drop_left' whole, maskedWith_maskedWith, decide_flag _ (by omega)]
  have same : Fin.ofNat 16 (128 * frame.fin.toNat + frame.opcode) = frame.opcode := by
    apply Fin.ext
    rw [Fin.val_ofNat]
    omega
  rw [same]

/-- The bytes of frames that are sent one after the other. -/
def stream (sent : List (Coding × Frame)) : List UInt8 :=
  sent.flatMap fun part => encoded part.1 part.2

def AllFit (sent : List (Coding × Frame)) : Prop :=
  ∀ part ∈ sent, part.1.form.Fits part.2.payload.length

theorem decodes_stream {isMasked : Bool} {sent : List (Coding × Frame)} (fit : AllFit sent)
    (keys : ∀ part ∈ sent, part.1.key.isSome = isMasked) :
    Decodes isMasked (stream sent) (sent.map Prod.snd) := by
  induction sent with
  | nil => exact .nil
  | cons part sent induction =>
      have here := fit part List.mem_cons_self
      exact .cons ((masks_encoded here _).trans (keys part List.mem_cons_self))
        (decode?_encoded here _)
        (induction (fun other member => fit other (List.mem_cons_of_mem _ member))
          fun other member => keys other (List.mem_cons_of_mem _ member))

/-- The bytes tell which frames they are. -/
theorem Decodes.unique {isMasked : Bool} {bytes : List UInt8} {frames : List Frame}
    (read : Decodes isMasked bytes frames) :
    ∀ {others : List Frame}, Decodes isMasked bytes others → frames = others := by
  induction read with
  | nil =>
      intro others other
      cases other with
      | nil => rfl
      | cons _ first _ => cases first
  | cons _ first _ induction =>
      intro others other
      cases other with
      | nil => cases first
      | cons _ first' more' =>
          rw [first] at first'
          cases first'
          rw [induction more']

/-! ## Messages -/

namespace Opcode

def continuation : Fin 16 := 0
def text : Fin 16 := 1
def binary : Fin 16 := 2
def close : Fin 16 := 8
def ping : Fin 16 := 9
def pong : Fin 16 := 10

end Opcode

inductive Message where
  | text (text : String)
  | binary (data : List UInt8)

/-- The first fragments of a message. -/
structure Fragments where
  isText : Bool
  data : List UInt8

def Fragments.message? (fragments : Fragments) : Option Message :=
  if fragments.isText then (utf8Text? fragments.data).map Message.text
  else some (.binary fragments.data)

/-- The fragments with that of one more frame. The first names what the message is. -/
def joined? : Option Fragments → Frame → Option Fragments
  | none, frame =>
      if frame.opcode = Opcode.text then some { isText := true, data := frame.payload }
      else if frame.opcode = Opcode.binary then some { isText := false, data := frame.payload }
      else none
  | some fragments, frame =>
      if frame.opcode = Opcode.continuation then
        some { fragments with data := fragments.data ++ frame.payload }
      else none

/-- The message of a frame that is the only one of it. -/
def Frame.message? (frame : Frame) : Option Message :=
  if frame.fin then (joined? none frame).bind Fragments.message? else none

/-- A control frame that does not end the connection. -/
structure IsControl (frame : Frame) : Prop where
  opcode : frame.opcode = Opcode.ping ∨ frame.opcode = Opcode.pong
  whole : frame.fin = true
  short : frame.payload.length < 126

/-- The frames that follow the fragments carry the messages, to the end of the last one. -/
inductive Assembles : Option Fragments → List Frame → List Message → Prop where
  | done : Assembles none [] []
  | control {fragments : Option Fragments} {frame : Frame} {frames : List Frame}
      {messages : List Message} (isControl : IsControl frame)
      (more : Assembles fragments frames messages) :
      Assembles fragments (frame :: frames) messages
  | fragment {fragments : Option Fragments} {joined : Fragments} {frame : Frame}
      {frames : List Frame} {messages : List Message}
      (joins : joined? fragments frame = some joined) (unfinished : frame.fin = false)
      (more : Assembles (some joined) frames messages) :
      Assembles fragments (frame :: frames) messages
  | last {fragments : Option Fragments} {joined : Fragments} {frame : Frame}
      {frames : List Frame} {message : Message} {messages : List Message}
      (joins : joined? fragments frame = some joined) (finished : frame.fin = true)
      (read : joined.message? = some message) (more : Assembles none frames messages) :
      Assembles fragments (frame :: frames) (message :: messages)

end WebSocket

end ConnectSDK
