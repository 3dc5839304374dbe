import ConnectSDK.Frameworks.SentFrames

/-! # Where a web socket reads

What a server sends that keeps to the protocol, and where in it a socket is that has read some of
it: before the answer to its handshake or in it, between two frames, or within one.
-/

namespace ConnectSDK

namespace SocketRocket

open WebSocket (Frame Message Key Coding LengthForm Fragments Assembles IsControl)

/-! ## What a server sends -/

/-- Texts whose bytes the socket can check while they arrive: a null character ends its check, and
it counts the bytes in 32 bits. -/
def Readable (messages : List Message) : Prop :=
  ∀ text, Message.text text ∈ messages →
    Char.ofNat 0 ∉ text.toList ∧ (utf8Bytes text).length ≤ 0x7FFFFFFF

/-- What a ping frame carries, if anything. -/
def pingOf (frame : Frame) : List (Option (List UInt8)) :=
  if frame.opcode = WebSocket.Opcode.ping then
    [if frame.payload = [] then none else some frame.payload]
  else []

def pingsOf (frames : List Frame) : List (Option (List UInt8)) :=
  frames.flatMap pingOf

/-- The bytes of unmasked frames that follow the fragments and carry the messages and pings. -/
structure Carries (fragments : Option Fragments) (bytes : List UInt8) (messages : List Message)
    (pings : List (Option (List UInt8))) : Prop where
  readable : Readable messages
  frames : ∃ sent, bytes = WebSocket.stream sent ∧ WebSocket.AllFit sent ∧
    (∀ part ∈ sent, part.1.key = none) ∧ Assembles fragments (sent.map Prod.snd) messages ∧
    pings = pingsOf (sent.map Prod.snd)

/-- What is still to come once all of a frame of a message is read. -/
inductive Ends (fin : Bool) (joined : Fragments) (after : List UInt8) :
    List Message → List (Option (List UInt8)) → Prop where
  | unfinished {messages : List Message} {pings : List (Option (List UInt8))}
      (unfinished : fin = false) (carries : Carries (some joined) after messages pings) :
      Ends fin joined after messages pings
  | finished {message : Message} {messages : List Message} {pings : List (Option (List UInt8))}
      (finished : fin = true) (read : joined.message? = some message)
      (readable : Readable (message :: messages)) (carries : Carries none after messages pings) :
      Ends fin joined after (message :: messages) pings

/-- What the next frame may be, with the bytes after it. -/
inductive Next (fragments : Option Fragments) (frame : Frame) (after : List UInt8)
    (messages : List Message) : List (Option (List UInt8)) → Prop where
  | control {pings : List (Option (List UInt8))} (isControl : IsControl frame)
      (carries : Carries fragments after messages pings) :
      Next fragments frame after messages (pingOf frame ++ pings)
  | data {pings : List (Option (List UInt8))} {joined : Fragments}
      (joins : WebSocket.joined? fragments frame = some joined)
      (ends : Ends frame.fin joined after messages pings) :
      Next fragments frame after messages pings

theorem Readable.of_cons {message : Message} {messages : List Message}
    (readable : Readable (message :: messages)) : Readable messages :=
  fun text member => readable text (List.mem_cons_of_mem _ member)

/-- How a frame goes on from the fragments before it. -/
theorem joined?_cases {fragments : Option Fragments} {frame : Frame} {joined : Fragments}
    (joins : WebSocket.joined? fragments frame = some joined) :
    (fragments = none ∧ joined.data = frame.payload ∧
        ((frame.opcode = WebSocket.Opcode.text ∧ joined.isText = true) ∨
          (frame.opcode = WebSocket.Opcode.binary ∧ joined.isText = false))) ∨
      ∃ before, fragments = some before ∧ frame.opcode = WebSocket.Opcode.continuation ∧
        joined = { before with data := before.data ++ frame.payload } := by
  cases fragments with
  | none =>
      unfold WebSocket.joined? at joins
      dsimp only at joins
      split at joins
      · rename_i text
        cases joins
        exact .inl ⟨rfl, rfl, .inl ⟨text, rfl⟩⟩
      split at joins
      · rename_i binary
        cases joins
        exact .inl ⟨rfl, rfl, .inr ⟨binary, rfl⟩⟩
      · cases joins
  | some before =>
      unfold WebSocket.joined? at joins
      dsimp only at joins
      split at joins
      · rename_i continues
        cases joins
        exact .inr ⟨before, rfl, continues, rfl⟩
      · cases joins

theorem pingOf_of_ne {frame : Frame} (other : frame.opcode ≠ WebSocket.Opcode.ping) :
    pingOf frame = [] :=
  if_neg other

theorem pingOf_of_joins {fragments : Option Fragments} {frame : Frame} {joined : Fragments}
    (joins : WebSocket.joined? fragments frame = some joined) : pingOf frame = [] := by
  apply pingOf_of_ne
  rcases joined?_cases joins with ⟨_, _, ⟨same, _⟩ | ⟨same, _⟩⟩ | ⟨_, _, same, _⟩ <;>
    rw [same] <;> decide

/-- The bytes end, or a frame is first. -/
theorem Carries.next {fragments : Option Fragments} {bytes : List UInt8} {messages : List Message}
    {pings : List (Option (List UInt8))} (carries : Carries fragments bytes messages pings) :
    (bytes = [] ∧ messages = [] ∧ pings = []) ∨
      ∃ coding frame after, coding.key = none ∧ coding.form.Fits frame.payload.length ∧
        bytes = WebSocket.encoded coding frame ++ after ∧
        Next fragments frame after messages pings := by
  rcases carries.frames with ⟨sent, rfl, fit, unmasked, assembles, rfl⟩
  cases sent with
  | nil =>
      cases assembles
      exact .inl ⟨rfl, rfl, rfl⟩
  | cons part sent =>
      rcases part with ⟨coding, frame⟩
      refine .inr ⟨coding, frame, WebSocket.stream sent, unmasked _ List.mem_cons_self,
        fit _ List.mem_cons_self, rfl, ?_⟩
      have restFit : WebSocket.AllFit sent :=
        fun part member => fit part (List.mem_cons_of_mem _ member)
      have restUnmasked : ∀ part ∈ sent, part.1.key = none :=
        fun part member => unmasked part (List.mem_cons_of_mem _ member)
      have pings : pingsOf (((coding, frame) :: sent).map Prod.snd) =
          pingOf frame ++ pingsOf (sent.map Prod.snd) := rfl
      cases assembles with
      | control isControl more =>
          rw [pings]
          exact .control isControl ⟨carries.readable, sent, rfl, restFit, restUnmasked, more, rfl⟩
      | fragment joins unfinished more =>
          rw [pings, pingOf_of_joins joins]
          exact .data joins
            (.unfinished unfinished
              ⟨carries.readable, sent, rfl, restFit, restUnmasked, more, rfl⟩)
      | last joins finished read more =>
          rw [pings, pingOf_of_joins joins]
          exact .data joins
            (.finished finished read carries.readable
              ⟨carries.readable.of_cons, sent, rfl, restFit, restUnmasked, more, rfl⟩)

/-! ## Texts -/

theorem utf8Bytes_eq_encodedCharacters (text : String) :
    utf8Bytes text = encodedCharacters text.toList :=
  utf8Bytes_eq_flatMap text

/-- The fragments of a text are the first bytes of the next message. -/
theorem assembles_text {fragments : Option Fragments} {frames : List Frame}
    {messages : List Message} (assembles : Assembles fragments frames messages) :
    ∀ {before : Fragments}, fragments = some before → before.isText = true →
      ∃ text more, messages = .text text :: more ∧ before.data <+: utf8Bytes text := by
  induction assembles with
  | done => exact nofun
  | control _ _ induction => exact induction
  | fragment joins _ _ induction =>
      rintro before rfl isText
      rcases joined?_cases joins with ⟨none, _⟩ | ⟨_, same, _, rfl⟩
      · cases none
      · cases same
        rcases induction rfl isText with ⟨text, more, rfl, starts⟩
        exact ⟨text, more, rfl, (List.prefix_append _ _).trans starts⟩
  | last joins _ read _ _ =>
      rintro before rfl isText
      rcases joined?_cases joins with ⟨none, _⟩ | ⟨_, same, _, rfl⟩
      · cases none
      · cases same
        rw [Fragments.message?, if_pos isText] at read
        rcases Option.map_eq_some_iff.mp read with ⟨text, valid, rfl⟩
        refine ⟨text, _, rfl, ?_⟩
        rw [← utf8Text?_eq_some_iff.mp valid]
        exact List.prefix_append _ _

theorem Ends.text {fin : Bool} {joined : Fragments} {after : List UInt8} {messages : List Message}
    {pings : List (Option (List UInt8))} (ends : Ends fin joined after messages pings)
    (isText : joined.isText = true) :
    ∃ text more, messages = .text text :: more ∧ joined.data <+: utf8Bytes text ∧
      Readable messages := by
  cases ends with
  | unfinished _ carries =>
      rcases carries.frames with ⟨_, _, _, _, assembles, _⟩
      rcases assembles_text assembles rfl isText with ⟨text, more, rfl, starts⟩
      exact ⟨text, more, rfl, starts, carries.readable⟩
  | finished _ read readable _ =>
      rw [Fragments.message?, if_pos isText] at read
      rcases Option.map_eq_some_iff.mp read with ⟨text, valid, rfl⟩
      exact ⟨text, _, rfl, utf8Text?_eq_some_iff.mp valid ▸ List.prefix_rfl, readable⟩

/-- The position up to which the data of the next message is known to be valid. -/
def Scanned (position : Nat) (data : List UInt8) (messages : List Message) : Prop :=
  ∃ text more whole left, messages = .text text :: more ∧
    Splits text.toList data whole left ∧ position = (encodedCharacters whole).length

theorem encodedCharacters_append (front back : List Char) :
    encodedCharacters (front ++ back) = encodedCharacters front ++ encodedCharacters back :=
  List.flatMap_append

theorem scanned_nil (text : String) (more : List Message) :
    Scanned 0 [] (.text text :: more) :=
  ⟨text, more, [], [], rfl, ⟨List.nil_prefix, rfl⟩, rfl⟩

/-- More of a text is found valid up to a character that may go on. -/
theorem Scanned.more {position : Nat} {data slice : List UInt8} {messages : List Message}
    (scanned : Scanned position data messages) {text : String} {more : List Message}
    (next : messages = .text text :: more) (starts : data ++ slice <+: utf8Bytes text)
    (readable : Readable messages) :
    ∃ valid, validatePartialString ((data ++ slice).drop position) = some valid ∧
      Scanned (position + valid) (data ++ slice) messages := by
  rcases scanned with ⟨text', more', whole, left, same, ⟨⟨rest, isWhole⟩, parts⟩, rfl⟩
  rw [next] at same
  cases same
  have noNull := (readable text (next ▸ List.mem_cons_self)).1
  have short := (readable text (next ▸ List.mem_cons_self)).2
  have behind : (data ++ slice).drop (encodedCharacters whole).length = left ++ slice := by
    rw [parts, List.append_assoc, List.drop_left]
  have restStarts : left ++ slice <+: encodedCharacters rest := by
    rw [utf8Bytes_eq_encodedCharacters, ← isWhole, encodedCharacters_append, parts,
      List.append_assoc] at starts
    exact (List.prefix_append_right_inj _).mp starts
  have restShort : (left ++ slice).length ≤ 0x7FFFFFFF := by
    refine Nat.le_trans ?_ (Nat.le_trans starts.length_le short)
    rw [parts, List.length_append, List.length_append, List.length_append]
    omega
  have restNoNull : Char.ofNat 0 ∉ rest := fun member =>
    noNull (isWhole ▸ List.mem_append_right whole member)
  rcases validatePartialString_start restStarts restNoNull restShort with
    ⟨between, last, ⟨⟨final, isBetween⟩, splits⟩, valid⟩
  refine ⟨_, by rw [behind, valid], text, more, whole ++ between, last, next, ⟨⟨final, ?_⟩, ?_⟩, ?_⟩
  · rw [List.append_assoc, isBetween, isWhole]
  · rw [parts, List.append_assoc, splits, encodedCharacters_append, List.append_assoc]
  · rw [encodedCharacters_append, List.length_append]

/-! ## Positions -/

/-- What the socket has of the current message. -/
structure CurrentFrame where
  opcode : UInt8
  count : Nat
  data : List UInt8
  stringScanPosition : Nat

/-- The part of a socket that says where it reads. -/
structure Reading where
  readyState : LGSRReadyState
  consumers : List LGSRIOConsumer
  readers : List WorkBlock
  openings : Nat
  readBuffer : List UInt8
  arrived : List UInt8
  receivedHTTPHeaders : List UInt8
  currentFrame : CurrentFrame

def opcodeOf (isText : Bool) : UInt8 :=
  if isText then LGSROpCode.textFrame else LGSROpCode.binaryFrame

namespace CurrentFrame

/-- The socket has begun with the message. -/
structure Begun (fragments : Fragments) (messages : List Message) (current : CurrentFrame) :
    Prop where
  opcode : current.opcode = opcodeOf fragments.isText
  count : 0 < current.count
  scanned : fragments.isText = true → Scanned current.stringScanPosition current.data messages

/-- The socket holds the fragments of the next message. -/
def Holds (fragments : Option Fragments) (messages : List Message) (current : CurrentFrame) :
    Prop :=
  match fragments with
  | none => current.opcode = 0 ∧ current.count = 0 ∧ current.data = [] ∧
      current.stringScanPosition = 0
  | some fragments => current.Begun fragments messages ∧ current.data = fragments.data

end CurrentFrame

namespace Reading

def unread (unsent : List UInt8) (reading : Reading) : List UInt8 :=
  reading.readBuffer ++ (reading.arrived ++ unsent)

/-- What makes a socket read on: the opening of its stream, a consumer, or a block. -/
structure Awaits (budget : Nat) (readyState : LGSRReadyState) (openings : Nat)
    (consumers : List LGSRIOConsumer) (readers : List WorkBlock) (reading : Reading) : Prop where
  readyState : reading.readyState = readyState
  openings : budget + reading.openings = openings
  consumers : reading.consumers = consumers
  readers : reading.readers = readers

end Reading

def headerConsumer : LGSRIOConsumer :=
  { scanner := some (LGSRWebSocket.findBytes LGSRWebSocket.crlfcrlf 0 0), handler := .httpHeader,
    bytesNeeded := 0 }

def frameConsumer : LGSRIOConsumer :=
  { handler := .frameHeader, bytesNeeded := 2 }

def extraConsumer (header : FrameHeader) (bytesNeeded : Nat) : LGSRIOConsumer :=
  { handler := .extraBytes header, bytesNeeded }

def payloadConsumer (header : FrameHeader) (bytesNeeded : Nat) (readToCurrentFrame : Bool) :
    LGSRIOConsumer :=
  { handler := .payload header, bytesNeeded, readToCurrentFrame }

/-- The opcode of a frame, which of one that continues a message is that of the message. -/
def resolvedOpcode (current : UInt8) (frame : Frame) : UInt8 :=
  if frame.opcode = WebSocket.Opcode.continuation then current else UInt8.ofNat frame.opcode

/-- What the header says of the frame, except for how long it is. -/
structure Describes (header : FrameHeader) (current : UInt8) (frame : Frame) : Prop where
  fin : header.fin = frame.fin
  opcode : header.opcode = resolvedOpcode current frame
  unmasked : header.masked = false

/-- Where a socket reads, with what it will make of the bytes that it has not read. -/
inductive Position (answer : List UInt8) (budget : Nat) (unsent : List UInt8) (reading : Reading) :
    List Message → List (Option (List UInt8)) → Prop where
  | opening {bytes : List UInt8} {messages : List Message} {pings : List (Option (List UInt8))}
      (awaits : reading.Awaits budget .connecting 1 [] [])
      (noHeader : reading.receivedHTTPHeaders = [])
      (unread : reading.unread unsent = answer ++ bytes)
      (carries : Carries none bytes messages pings) :
      Position answer budget unsent reading messages pings
  | handshake {bytes : List UInt8} {messages : List Message} {pings : List (Option (List UInt8))}
      (awaits : reading.Awaits budget .connecting 0 [headerConsumer] [])
      (noHeader : reading.receivedHTTPHeaders = [])
      (unread : reading.unread unsent = answer ++ bytes)
      (carries : Carries none bytes messages pings) :
      Position answer budget unsent reading messages pings
  | new {messages : List Message} {pings : List (Option (List UInt8))}
      (awaits : reading.Awaits budget .open 0 [] [.readFrameNew])
      (carries : Carries none (reading.unread unsent) messages pings) :
      Position answer budget unsent reading messages pings
  | goesOn {fragments : Option Fragments} {messages : List Message}
      {pings : List (Option (List UInt8))}
      (awaits : reading.Awaits budget .open 0 [] [.readFrameContinue])
      (holds : reading.currentFrame.Holds fragments messages)
      (carries : Carries fragments (reading.unread unsent) messages pings) :
      Position answer budget unsent reading messages pings
  | frame {fragments : Option Fragments} {messages : List Message}
      {pings : List (Option (List UInt8))}
      (awaits : reading.Awaits budget .open 0 [frameConsumer] [])
      (holds : reading.currentFrame.Holds fragments messages)
      (carries : Carries fragments (reading.unread unsent) messages pings) :
      Position answer budget unsent reading messages pings
  | extra {fragments : Option Fragments} {header : FrameHeader} {coding : Coding} {frame : Frame}
      {after : List UInt8} {messages : List Message} {pings : List (Option (List UInt8))}
      (awaits : reading.Awaits budget .open 0 [extraConsumer header coding.form.count] [])
      (describes : Describes header reading.currentFrame.opcode frame)
      (code : header.payloadLength = coding.form.code frame.payload.length)
      (fits : coding.form.Fits frame.payload.length) (longer : coding.form.count ≠ 0)
      (holds : reading.currentFrame.Holds fragments messages)
      (unread : reading.unread unsent =
        WebSocket.bigEndian coding.form.count frame.payload.length ++ (frame.payload ++ after))
      (next : Next fragments frame after messages pings) :
      Position answer budget unsent reading messages pings
  | control {fragments : Option Fragments} {header : FrameHeader} {frame : Frame}
      {after : List UInt8} {messages : List Message} {pings : List (Option (List UInt8))}
      (awaits : reading.Awaits budget .open 0
        [payloadConsumer header frame.payload.length false] [])
      (describes : Describes header reading.currentFrame.opcode frame)
      (isControl : IsControl frame) (present : frame.payload ≠ [])
      (holds : reading.currentFrame.Holds fragments messages)
      (unread : reading.unread unsent = frame.payload ++ after)
      (carries : Carries fragments after messages pings) :
      Position answer budget unsent reading messages (pingOf frame ++ pings)
  | data {header : FrameHeader} {joined : Fragments} {left after : List UInt8}
      {messages : List Message} {pings : List (Option (List UInt8))}
      (awaits : reading.Awaits budget .open 0 [payloadConsumer header left.length true] [])
      (opcode : header.opcode = opcodeOf joined.isText) (present : left ≠ [])
      (begun : reading.currentFrame.Begun joined messages)
      (parts : reading.currentFrame.data ++ left = joined.data)
      (unread : reading.unread unsent = left ++ after)
      (ends : Ends header.fin joined after messages pings) :
      Position answer budget unsent reading messages pings

/-- Bytes that arrive, or come into the buffer, are where they were in the stream. -/
theorem Position.refill {answer unsent left : List UInt8} {budget : Nat} {reading : Reading}
    {messages : List Message} {pings : List (Option (List UInt8))}
    (position : Position answer budget unsent reading messages pings)
    {readBuffer arrived : List UInt8} (same : readBuffer ++ (arrived ++ left) = reading.unread unsent) :
    Position answer budget left { reading with readBuffer, arrived } messages pings := by
  cases position with
  | opening awaits noHeader unread carries =>
      exact .opening { awaits with } noHeader (same.trans unread) carries
  | handshake awaits noHeader unread carries =>
      exact .handshake { awaits with } noHeader (same.trans unread) carries
  | new awaits carries =>
      rw [← same] at carries
      exact .new { awaits with } carries
  | goesOn awaits holds carries =>
      rw [← same] at carries
      exact .goesOn { awaits with } holds carries
  | frame awaits holds carries =>
      rw [← same] at carries
      exact .frame { awaits with } holds carries
  | extra awaits describes code fits longer holds unread next =>
      exact .extra { awaits with } describes code fits longer holds (same.trans unread) next
  | control awaits describes isControl present holds unread carries =>
      exact .control { awaits with } describes isControl present holds (same.trans unread) carries
  | data awaits opcode present begun parts unread ends =>
      exact .data { awaits with } opcode present begun parts (same.trans unread) ends

/-- An opening that is still to come may wait on the queue. -/
theorem Position.recount {answer unsent : List UInt8} {budget smaller openings : Nat}
    {reading : Reading} {messages : List Message} {pings : List (Option (List UInt8))}
    (position : Position answer budget unsent reading messages pings)
    (same : smaller + openings = budget + reading.openings) :
    Position answer smaller unsent { reading with openings } messages pings := by
  have recounted {readyState : LGSRReadyState} {total : Nat} {consumers : List LGSRIOConsumer}
      {readers : List WorkBlock}
      (awaits : reading.Awaits budget readyState total consumers readers) :
      ({ reading with openings } : Reading).Awaits smaller readyState total consumers readers :=
    { awaits with openings := same.trans awaits.openings }
  cases position with
  | opening awaits noHeader unread carries =>
      exact .opening (recounted awaits) noHeader unread carries
  | handshake awaits noHeader unread carries =>
      exact .handshake (recounted awaits) noHeader unread carries
  | new awaits carries => exact .new (recounted awaits) carries
  | goesOn awaits holds carries => exact .goesOn (recounted awaits) holds carries
  | frame awaits holds carries => exact .frame (recounted awaits) holds carries
  | extra awaits describes code fits longer holds unread next =>
      exact .extra (recounted awaits) describes code fits longer holds unread next
  | control awaits describes isControl present holds unread carries =>
      exact .control (recounted awaits) describes isControl present holds unread carries
  | data awaits opcode present begun parts unread ends =>
      exact .data (recounted awaits) opcode present begun parts unread ends

end SocketRocket

end ConnectSDK
