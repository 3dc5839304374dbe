import ConnectSDK.Frameworks.DelegateCalls

/-! # What a web socket sends

The bytes it writes once its connection is open are those of frames, masked and whole, that carry
the messages it was given in their order.
-/

namespace ConnectSDK

namespace SocketRocket

open WebSocket (Frame Message Key Coding LengthForm)

/-! ## The bytes of a frame -/

def sentFrame (sent : UInt8 × List UInt8) : Frame where
  fin := true
  opcode := ⟨sent.1.toNat % 16, Nat.mod_lt _ (Nat.succ_pos _)⟩
  payload := sent.2

def shortestForm (length : Nat) : LengthForm :=
  if length < 126 then .none else if length ≤ 0xFFFF then .two else .eight

theorem shortestForm_fits {length : Nat} (small : length < 256 ^ 8) :
    (shortestForm length).Fits length := by
  unfold shortestForm
  split
  · assumption
  split
  · rename_i few
    exact (Nat.lt_succ_of_le few : length < 256 ^ 2)
  · exact small

theorem or_highBit {code : Nat} (small : code < 128) :
    (0x80 : UInt8) ||| UInt8.ofNat code = UInt8.ofNat (128 + code) := by
  apply UInt8.toNat_inj.mp
  have bits : 2 ^ 7 * 1 ||| code = 2 ^ 7 * 1 + code := (Nat.two_pow_add_eq_or_of_lt small 1).symm
  rw [UInt8.toNat_or, UInt8.toNat_ofNat_of_lt' (by omega : code < 256),
    UInt8.toNat_ofNat_of_lt' (by omega : 128 + code < 256)]
  exact bits

theorem lengthBytes_eq (length : Nat) :
    LGSRWebSocket.lengthBytes length =
      (UInt8.ofNat ((shortestForm length).code length),
        WebSocket.bigEndian (shortestForm length).count length) := by
  unfold LGSRWebSocket.lengthBytes shortestForm
  split
  · rfl
  split
  · rfl
  · rfl

theorem bytes_getD (key : Key) (index : Nat) :
    key.bytes.getD (index % 4) 0 = key (Fin.ofNat 4 index) := by
  have small : index % 4 < 4 := Nat.mod_lt _ (by decide)
  have same : Fin.ofNat 4 index = ⟨index % 4, small⟩ := rfl
  rw [same]
  generalize index % 4 = position at small
  match position, small with
  | 0, _ => rfl
  | 1, _ => rfl
  | 2, _ => rfl
  | 3, _ => rfl

theorem maskedPayload_bytes (key : Key) (payload : List UInt8) :
    LGSRWebSocket.maskedPayload key.bytes payload = WebSocket.masked key payload := by
  unfold LGSRWebSocket.maskedPayload WebSocket.masked
  congr 1
  funext index byte
  rw [bytes_getD]

/-- How the socket writes a frame. -/
def codingOf (key : Key) (payload : List UInt8) : Coding where
  key := some key
  form := shortestForm payload.length

theorem frameBytes_eq (key : Key) {opcode : UInt8} (small : opcode.toNat < 16)
    (payload : List UInt8) :
    LGSRWebSocket.frameBytes opcode key.bytes payload =
      WebSocket.encoded (codingOf key payload) (sentFrame (opcode, payload)) := by
  have number : ((sentFrame (opcode, payload)).opcode : Nat) = opcode.toNat :=
    Nat.mod_eq_of_lt small
  have first : LGSRWebSocket.finMask ||| opcode =
      WebSocket.firstByte (sentFrame (opcode, payload)) := by
    rw [WebSocket.firstByte, number, sentFrame, Bool.toNat_true, Nat.mul_one,
      ← or_highBit (by omega), UInt8.ofNat_toNat]
    rfl
  have code : (shortestForm payload.length).code payload.length < 128 := by
    unfold shortestForm
    split
    · rename_i few
      exact Nat.lt_trans few (by decide)
    split
    · exact (by decide : 126 < 128)
    · exact (by decide : 127 < 128)
  have second : LGSRWebSocket.maskMask |||
        UInt8.ofNat ((shortestForm payload.length).code payload.length) =
      WebSocket.secondByte true ((shortestForm payload.length).code payload.length) := by
    rw [WebSocket.secondByte, Bool.toNat_true, Nat.mul_one, ← or_highBit code]
    rfl
  rw [LGSRWebSocket.frameBytes, lengthBytes_eq, maskedPayload_bytes, first, second]
  simp only [WebSocket.encoded, codingOf, sentFrame, Coding.extra, Coding.keyBytes,
    WebSocket.maskedWith, Option.isSome_some, Option.map_some, Option.getD_some, List.cons_append,
    List.nil_append, List.append_assoc]

/-! ## What is written -/

def SentData.message : SentData → Message
  | .string text => .text text
  | .data bytes => .binary bytes

/-- Nothing is sent as an empty text. -/
def messageOf (data : Option SentData) : Message :=
  (data.map SentData.message).getD (.text "")

def WorkBlock.message? : WorkBlock → Option Message
  | .send data => some (messageOf data)
  | _ => none

def SocketEvent.message? : SocketEvent → Option Message
  | .send data => some (messageOf data)
  | _ => none

/-- The part of a socket that decides what it writes. -/
structure Output where
  written : List UInt8
  frames : List Frame
  closeWhenFinishedWriting : Bool
  pending : List Message
  openings : Nat

namespace LGSRWebSocket

variable {platform : Platform} {socket : LGSRWebSocket}

def written (socket : LGSRWebSocket) : List UInt8 :=
  socket.wire ++ socket.outputBuffer

/-- The frames that the socket was to send, whether or not it was closing by then. -/
def frames (socket : LGSRWebSocket) : List Frame :=
  socket.sentFrames.map sentFrame

/-- The messages it was given that wait on the work queue. -/
def pending (socket : LGSRWebSocket) : List Message :=
  socket.workQueue.filterMap WorkBlock.message?

def output (socket : LGSRWebSocket) : Output where
  written := socket.written
  frames := socket.frames
  closeWhenFinishedWriting := socket.closeWhenFinishedWriting
  pending := socket.pending
  openings := (socket.workQueue.map WorkBlock.openings).sum

/-! ### What reading leaves as it is -/

@[simp] theorem output_assert (holds : Bool) (assertion : Assertion) (socket : LGSRWebSocket) :
    (socket.assert holds assertion).output = socket.output := by
  unfold assert
  split <;> rfl

@[simp] theorem output_performDelegateBlock (block : DelegateBlock) (socket : LGSRWebSocket) :
    (socket.performDelegateBlock block).output = socket.output :=
  rfl

theorem output_dispatch {block : WorkBlock} (quiet : block.message? = none)
    (noOpening : block.openings = 0) (socket : LGSRWebSocket) :
    (socket.dispatch block).output = socket.output := by
  simp only [dispatch, output, written, frames, pending, List.filterMap_append,
    List.filterMap_cons, quiet, List.filterMap_nil, List.append_nil, List.map_append,
    List.sum_append, List.map_cons, noOpening, List.map_nil, List.sum_cons, List.sum_nil,
    Nat.add_zero]

@[simp] theorem output_setReadyState (readyState : LGSRReadyState) (socket : LGSRWebSocket) :
    (socket.setReadyState readyState).output = socket.output :=
  output_assert _ .readyStateIncreases socket

@[simp] theorem output_failWithError (error : NSError) (socket : LGSRWebSocket) :
    (socket.failWithError error).output = socket.output :=
  output_dispatch rfl rfl socket

@[simp] theorem output_closeWithCode (code : Int) (reason : Option String)
    (socket : LGSRWebSocket) : (socket.closeWithCode code reason).output = socket.output :=
  output_dispatch rfl rfl socket.scheduleCleanup

@[simp] theorem output_answerClose (socket : LGSRWebSocket) :
    socket.answerClose.output = socket.output := by
  unfold answerClose
  dsimp only
  rw [output_dispatch rfl rfl]
  split
  · exact output_closeWithCode _ _ _
  · rfl

theorem output_closeWithInvalidUTF8 (socket : LGSRWebSocket) :
    socket.closeWithInvalidUTF8.output = socket.output := by
  rw [closeWithInvalidUTF8, output_dispatch rfl rfl, output_closeWithCode]

theorem output_handleCloseWithData (data : List UInt8) (socket : LGSRWebSocket) :
    (socket.handleCloseWithData data).output = socket.output := by
  unfold handleCloseWithData
  split
  · exact output_answerClose _
  · rfl
  · dsimp only
    split
    · rfl
    split
    · exact output_answerClose _
    split
    · rfl
    · exact output_answerClose _

theorem output_handleFrameWithData (frameData : Option (List UInt8)) (opcode : UInt8)
    (socket : LGSRWebSocket) :
    (socket.handleFrameWithData frameData opcode).output = socket.output := by
  unfold handleFrameWithData
  dsimp only
  generalize next : (if isControlFrame opcode = true then socket.dispatch .readFrameContinue
    else socket.dispatch .readFrameNew) = going
  have kept : going.output = socket.output := by
    rw [← next]
    split
    · exact output_dispatch rfl rfl socket
    · exact output_dispatch rfl rfl socket
  split
  · split
    · rw [output_closeWithInvalidUTF8, kept]
    · exact kept
  split
  · exact kept
  split
  · rw [output_handleCloseWithData, kept]
  split
  · exact kept
  split
  · exact kept
  · exact kept

theorem output_addConsumerWithDataLength (dataLength : Nat) (handler : Handler)
    (readToCurrentFrame unmaskBytes : Bool) (socket : LGSRWebSocket) :
    (socket.addConsumerWithDataLength dataLength handler readToCurrentFrame unmaskBytes).output =
      socket.output :=
  output_assert _ .bytesNeeded socket

theorem output_readFrameContinue (socket : LGSRWebSocket) :
    socket.readFrameContinue.output = socket.output := by
  unfold readFrameContinue
  dsimp only
  rw [output_addConsumerWithDataLength, output_assert]

theorem output_finishFrame (header : FrameHeader) (newData : Option (List UInt8))
    (socket : LGSRWebSocket) : (socket.finishFrame header newData).output = socket.output := by
  unfold finishFrame
  split
  · exact output_handleFrameWithData _ _ _
  split
  · exact output_handleFrameWithData _ _ _
  · exact output_readFrameContinue _

theorem output_handleFrameHeader (header : FrameHeader) (socket : LGSRWebSocket) :
    (socket.handleFrameHeader header).output = socket.output := by
  have asserted := output_assert (header.opcode != 0) .frameOpcode socket
  unfold handleFrameHeader
  dsimp only
  generalize socket.assert (header.opcode != 0) .frameOpcode = socket at asserted
  split
  · exact asserted
  split
  · exact asserted
  split
  · exact asserted
  generalize next : (if isControlFrame header.opcode = true then socket
    else { socket with
      currentFrameOpcode := header.opcode
      currentFrameCount := socket.currentFrameCount + 1 }) = going
  have kept : going.output = socket.output := by
    rw [← next]
    split <;> rfl
  split
  · rw [output_finishFrame, kept, asserted]
  · rw [output_addConsumerWithDataLength, kept, asserted]

theorem output_readHeader (first second : UInt8) (socket : LGSRWebSocket) :
    (socket.readHeader first second).output = socket.output := by
  unfold readHeader
  dsimp only
  split
  · rfl
  split
  · rfl
  split
  · rfl
  generalize (if opCodeMask &&& first = 0 then socket.currentFrameOpcode
    else opCodeMask &&& first) = named
  generalize next : (if (maskMask &&& second != 0) = true then
    socket.closeWithProtocolError "Client must receive unmasked data" else socket) = going
  have kept : going.output = socket.output := by
    rw [← next]
    split <;> rfl
  split
  · rw [output_handleFrameHeader, kept]
  · rw [output_addConsumerWithDataLength, kept]

theorem output_readExtraBytes (header : FrameHeader) (data : List UInt8)
    (socket : LGSRWebSocket) : (socket.readExtraBytes header data).output = socket.output := by
  unfold readExtraBytes
  dsimp only
  rw [output_handleFrameHeader]
  split
  · rw [← output_assert (decide
      ((if header.payloadLength = 126 then 2 else if header.payloadLength = 127 then 8 else 0) ≤
        data.length)) .extraBytes socket]
    exact output_assert _ .maskKeyBytes _
  · exact output_assert _ .extraBytes socket

theorem output_finishHandshake (socket : LGSRWebSocket) :
    socket.finishHandshake.output = socket.output := by
  rw [finishHandshake, output_performDelegateBlock, output_dispatch rfl rfl, output_setReadyState]

theorem output_httpHeadersDidFinish (socket : LGSRWebSocket) :
    (socket.httpHeadersDidFinish platform).output = socket.output := by
  unfold httpHeadersDidFinish
  dsimp only
  split
  · exact output_failWithError _ _
  split
  · exact output_failWithError _ _
  split
  · exact output_finishHandshake socket
  split
  · exact output_finishHandshake _
  · exact output_failWithError _ _

theorem output_runHandler (data : List UInt8) (handler : Handler) (socket : LGSRWebSocket) :
    (socket.runHandler platform data handler).output = socket.output := by
  cases handler with
  | httpHeader =>
      unfold runHandler readHTTPHeaderBytes
      dsimp only
      split
      · rw [output_httpHeadersDidFinish]
        rfl
      · rfl
  | frameHeader =>
      unfold runHandler
      dsimp only
      split
      · exact output_readHeader _ _ socket
      · exact output_assert _ .headerBytes socket
  | extraBytes header => exact output_readExtraBytes header data socket
  | payload header => exact output_finishFrame header _ socket

theorem output_unmask (consumer : LGSRIOConsumer) (slice : List UInt8) (socket : LGSRWebSocket) :
    (socket.unmask consumer slice).2.output = socket.output := by
  unfold unmask
  split <;> rfl

theorem output_consumeToCurrentFrame (consumer : LGSRIOConsumer) (others : List LGSRIOConsumer)
    (slice : List UInt8) (socket : LGSRWebSocket) :
    (socket.consumeToCurrentFrame platform consumer others slice).1.output = socket.output := by
  unfold consumeToCurrentFrame
  dsimp only
  split
  · rw [output_closeWithInvalidUTF8]
    rfl
  split
  · rw [output_runHandler]
    rfl
  · rfl

theorem output_innerPumpScanner (socket : LGSRWebSocket) :
    (socket.innerPumpScanner platform).1.output = socket.output := by
  unfold innerPumpScanner
  split
  · exact output_dispatch rfl rfl socket
  split
  · rfl
  rename_i consumer others first
  split
  · rfl
  dsimp only
  split
  · have same := output_unmask consumer (socket.readBuffer.take (foundSize consumer socket.readBuffer))
      { socket with readBuffer := socket.readBuffer.drop (foundSize consumer socket.readBuffer) }
    split
    · rw [output_consumeToCurrentFrame, same]
      rfl
    · rw [output_runHandler]
      exact same
  · rfl

theorem output_pumpRounds (rounds : Nat) :
    ∀ socket : LGSRWebSocket, (pumpRounds platform rounds socket).output = socket.output := by
  induction rounds with
  | zero => exact fun _ => rfl
  | succ rounds induction =>
      intro socket
      have kept := @output_innerPumpScanner platform socket
      unfold pumpRounds
      split
      · rename_i worked
        rw [worked] at kept
        rw [induction, ← kept]
      · rename_i rested
        rw [rested] at kept
        exact kept

theorem output_pumpScanner (socket : LGSRWebSocket) :
    (socket.pumpScanner platform).output = socket.output :=
  output_pumpRounds _ socket

theorem output_readAvailable (socket : LGSRWebSocket) :
    socket.readAvailable.output = socket.output := by
  unfold readAvailable
  split
  · rfl
  split
  · exact output_failWithError _ socket
  · rfl

theorem output_runStreamEnd (error : Option NSError) (socket : LGSRWebSocket) :
    (socket.runStreamEnd platform error).output = socket.output := by
  have pumped := @output_pumpScanner platform socket
  unfold runStreamEnd
  dsimp only
  generalize socket.pumpScanner platform = going at pumped
  split
  · rw [output_failWithError, pumped]
  generalize ended : (if going.readyState = .closed then going
    else (going.setReadyState .closed).scheduleCleanup) = after
  have kept : after.output = socket.output := by
    rw [← ended, ← pumped]
    split
    · rfl
    · exact output_setReadyState .closed going
  split
  · exact kept
  · exact kept

/-! ### Writing -/

theorem output_finishWriting (socket : LGSRWebSocket) :
    socket.finishWriting.output = socket.output := by
  unfold finishWriting
  split
  · dsimp only
    split <;> rfl
  · rfl

/-- What is written stays what it was, whether it is still in the buffer or not. -/
theorem output_pumpWriting (socket : LGSRWebSocket) :
    socket.pumpWriting.output = socket.output := by
  unfold pumpWriting
  split
  · split
    · exact output_failWithError _ socket
    · rw [output_finishWriting]
      have same : socket.writeToStream.written = socket.written := by
        rw [written, writeToStream, List.append_assoc, List.take_append_drop]
        rfl
      exact congrArg (fun written => { socket.output with written }) same
  · exact output_finishWriting socket

theorem output_closeConnection (socket : LGSRWebSocket) :
    socket.closeConnection.output = { socket.output with closeWhenFinishedWriting := true } := by
  rw [closeConnection, output_pumpWriting]
  rfl

end LGSRWebSocket

/-! ## Runs -/

namespace Output

/-- A frame is written unless the connection is about to be closed. -/
def send (coding : Coding) (frame : Frame) (now : Output) : Output :=
  { now with
    written :=
      if now.closeWhenFinishedWriting then now.written
      else now.written ++ WebSocket.encoded coding frame
    frames := now.frames ++ [frame] }

/-- What a socket has written since the start are the frames it was to send, up to those that
came too late. Those that carry messages, and the messages that wait, are those it was given. -/
structure Follows (start : Output) (sends : List Message) (coded : List (Coding × Frame))
    (dropped : List Frame) (now : Output) : Prop where
  written : now.written = start.written ++ WebSocket.stream coded
  frames : now.frames = start.frames ++ coded.map Prod.snd ++ dropped
  forms : ∀ part ∈ coded, part.1.form = shortestForm part.2.payload.length
  keys : ∀ part ∈ coded, part.1.key.isSome = true
  dropped : now.closeWhenFinishedWriting = false → dropped = []
  messages : now.frames.filterMap Frame.message? ++ now.pending =
    start.frames.filterMap Frame.message? ++ start.pending ++ sends
  openings : now.openings = 0

variable {start now : Output} {sends : List Message} {coded : List (Coding × Frame)}
  {dropped : List Frame}

theorem Follows.close (follows : Follows start sends coded dropped now) :
    Follows start sends coded dropped { now with closeWhenFinishedWriting := true } :=
  { follows with dropped := nofun }

/-- The message of a frame is the first that waits. -/
theorem Follows.send (follows : Follows start sends coded dropped now) {coding : Coding}
    {frame : Frame} (form : coding.form = shortestForm frame.payload.length)
    (key : coding.key.isSome = true) {pending : List Message}
    (waits : now.pending = frame.message?.toList ++ pending) :
    ∃ coded dropped, Follows start sends coded dropped
      ({ now with pending }.send coding frame) := by
  have messages : (now.frames ++ [frame]).filterMap Frame.message? ++ pending =
      start.frames.filterMap Frame.message? ++ start.pending ++ sends := by
    rw [← follows.messages, waits, List.filterMap_append, List.append_assoc, List.filterMap_cons,
      List.filterMap_nil]
    cases frame.message? <;> rfl
  cases closes : now.closeWhenFinishedWriting with
  | true =>
      refine ⟨coded, dropped ++ [frame], ?_⟩
      exact
        { written := follows.written
          frames := by
            show now.frames ++ [frame] = _
            rw [follows.frames, List.append_assoc _ dropped]
          forms := follows.forms
          keys := follows.keys
          dropped := nofun
          messages
          openings := follows.openings }
  | false =>
      have none := follows.dropped closes
      refine ⟨coded ++ [(coding, frame)], [], ?_⟩
      exact
        { written := by
            show now.written ++ WebSocket.encoded coding frame = _
            rw [follows.written, WebSocket.stream, WebSocket.stream, List.flatMap_append,
              List.flatMap_singleton, List.append_assoc]
          frames := by
            show now.frames ++ [frame] = _
            rw [follows.frames, none, List.append_nil, List.append_nil, List.map_append,
              List.append_assoc]
            rfl
          forms := by
            intro part member
            rcases List.mem_append.mp member with before | this
            · exact follows.forms part before
            · cases List.mem_singleton.mp this
              exact form
          keys := by
            intro part member
            rcases List.mem_append.mp member with before | this
            · exact follows.keys part before
            · cases List.mem_singleton.mp this
              exact key
          dropped := fun _ => rfl
          messages
          openings := follows.openings }

end Output

namespace LGSRWebSocket

variable {platform : Platform} {socket : LGSRWebSocket}

def keyAt (platform : Platform) (drawn : Nat) : Key :=
  fun index => platform.randomByte (drawn + index)

theorem output_sendFrameWithOpcode {opcode : UInt8} (small : opcode.toNat < 16)
    (data : Option (List UInt8)) (socket : LGSRWebSocket) :
    ∃ coding : Coding, coding.form = shortestForm (data.getD []).length ∧
      coding.key.isSome = true ∧ (socket.sendFrameWithOpcode platform opcode data).output =
        socket.output.send coding (sentFrame (opcode, data.getD [])) := by
  have asserted := output_assert data.isSome .dataToSend socket
  unfold sendFrameWithOpcode
  dsimp only
  generalize socket.assert data.isSome .dataToSend = going at asserted
  have bytes : going.randomBytes platform 4 = (keyAt platform going.drawn).bytes := rfl
  refine ⟨codingOf (keyAt platform going.drawn) (data.getD []), rfl, rfl, ?_⟩
  rw [bytes, frameBytes_eq _ small, ← asserted]
  have frames : (going.sentFrames ++ [(opcode, data.getD [])]).map sentFrame =
      going.frames ++ [sentFrame (opcode, data.getD [])] := List.map_append
  unfold writeData
  split
  · rename_i closes
    have closes : going.closeWhenFinishedWriting = true := closes
    simp only [output, Output.send, written, LGSRWebSocket.frames, frames, closes, ↓reduceIte,
      pending]
  · rename_i goesOn
    have goesOn : going.closeWhenFinishedWriting = false := eq_false_of_ne_true goesOn
    rw [output_pumpWriting]
    simp only [output, Output.send, written, LGSRWebSocket.frames, frames, goesOn,
      Bool.false_eq_true, ↓reduceIte, pending, List.append_assoc]

theorem message?_textFrame (text : String) :
    (sentFrame (LGSROpCode.textFrame, utf8Bytes text)).message? = some (.text text) := by
  show (utf8Text? (utf8Bytes text)).map Message.text = some (.text text)
  rw [utf8Text?_utf8Bytes]
  rfl

theorem message?_sent (data : Option SentData) :
    (∃ bytes, (fun socket => runSend platform socket data) =
      (sendFrameWithOpcode platform LGSROpCode.textFrame bytes) ∧
        (sentFrame (LGSROpCode.textFrame, bytes.getD [])).message? = some (messageOf data)) ∨
    ∃ bytes, (fun socket => runSend platform socket data) =
      (sendFrameWithOpcode platform LGSROpCode.binaryFrame bytes) ∧
        (sentFrame (LGSROpCode.binaryFrame, bytes.getD [])).message? = some (messageOf data) := by
  match data with
  | none => exact .inl ⟨none, rfl, message?_textFrame ""⟩
  | some (.string text) => exact .inl ⟨some (utf8Bytes text), rfl, message?_textFrame text⟩
  | some (.data bytes) => exact .inr ⟨some bytes, rfl, rfl⟩

variable {start : Output} {sends : List Message} {coded : List (Coding × Frame)}
  {dropped : List Frame}

/-- Of the socket that is left when a block is taken from the queue. -/
theorem follows_sendFrameWithOpcode {now : Output}
    (follows : Output.Follows start sends coded dropped now)
    (same : socket.output = { now with pending := socket.pending }) {opcode : UInt8}
    (small : opcode.toNat < 16) {data : Option (List UInt8)}
    (waits : now.pending = (sentFrame (opcode, data.getD [])).message?.toList ++ socket.pending) :
    ∃ coded dropped, Output.Follows start sends coded dropped
      (socket.sendFrameWithOpcode platform opcode data).output := by
  rcases @output_sendFrameWithOpcode platform opcode small data socket with
    ⟨coding, form, key, sent⟩
  rw [sent, same]
  exact follows.send form key waits

theorem follows_runCloseWithCode (follows : Output.Follows start sends coded dropped socket.output)
    (code : Int) (reason : Option String) :
    ∃ coded dropped, Output.Follows start sends coded dropped
      (socket.runCloseWithCode platform code reason).output := by
  have same := output_setReadyState .closing socket
  unfold runCloseWithCode
  split
  · exact ⟨coded, dropped, follows⟩
  dsimp only
  generalize socket.setReadyState .closing = closing at same
  split
  · rw [output_closeConnection, same]
    exact ⟨coded, dropped, follows.close⟩
  · rw [← same] at follows
    exact follows_sendFrameWithOpcode follows rfl (by decide) rfl

theorem follows_runFailWithError
    (follows : Output.Follows start sends coded dropped socket.output) (error : NSError) :
    Output.Follows start sends coded dropped (socket.runFailWithError error).output := by
  unfold runFailWithError
  split
  · exact follows
  dsimp only
  have closes := output_closeConnection
    (({ socket with failed := true }.performDelegateBlock
      (.call (.didFailWithError error))).setReadyState .closed)
  rw [output_setReadyState] at closes
  show Output.Follows start sends coded dropped (LGSRWebSocket.output (closeConnection _))
  rw [closes]
  exact follows.close

theorem output_runSafeHandleEvent {event : StreamEvent}
    (opened : (WorkBlock.safeHandleEvent event).openings = 0) (socket : LGSRWebSocket) :
    (socket.runSafeHandleEvent platform event).output = socket.output := by
  cases event with
  | openCompleted isInput =>
      cases isInput with
      | true => cases opened
      | false =>
          unfold runSafeHandleEvent
          dsimp only
          split
          · rfl
          · rw [output_pumpScanner, output_pumpWriting, if_neg (fun both => nomatch both.2)]
  | hasBytesAvailable => exact (output_pumpScanner _).trans (output_readAvailable socket)
  | hasSpaceAvailable => exact output_pumpWriting socket
  | errorOccurred error => exact output_failWithError error socket
  | endEncountered error => exact output_runStreamEnd error socket
  | other => rfl

theorem follows_runWorkBlock {block : WorkBlock} {blocks : List WorkBlock}
    (follows : Output.Follows start sends coded dropped socket.output)
    (queue : socket.workQueue = block :: blocks) :
    ∃ coded dropped, Output.Follows start sends coded dropped
      ({ socket with workQueue := blocks }.runWorkBlock platform block).output := by
  have openings : block.openings + (blocks.map WorkBlock.openings).sum = 0 := by
    have total : (socket.workQueue.map WorkBlock.openings).sum = 0 := follows.openings
    rwa [queue, List.map_cons, List.sum_cons] at total
  rcases Nat.add_eq_zero_iff.mp openings with ⟨opened, rest⟩
  have waits : socket.output.pending =
      block.message?.toList ++ ({ socket with workQueue := blocks } : LGSRWebSocket).pending := by
    show socket.workQueue.filterMap WorkBlock.message? = _
    rw [queue, List.filterMap_cons]
    cases block.message? <;> rfl
  have popped : ({ socket with workQueue := blocks } : LGSRWebSocket).output =
      { socket.output with
        pending := ({ socket with workQueue := blocks } : LGSRWebSocket).pending } := by
    have total : (blocks.map WorkBlock.openings).sum =
        (socket.workQueue.map WorkBlock.openings).sum := rest.trans follows.openings.symm
    simp only [output, written, frames, total]
  generalize ({ socket with workQueue := blocks } : LGSRWebSocket) = going at waits popped
  have kept (quiet : block.message? = none) :
      Output.Follows start sends coded dropped going.output := by
    rw [quiet] at waits
    have same : going.output = socket.output := by
      rw [popped, ← show socket.output.pending = going.pending from waits]
    rw [same]
    exact follows
  cases block with
  | handleEvent event =>
      refine ⟨coded, dropped, ?_⟩
      rw [runWorkBlock, output_dispatch rfl]
      · exact kept rfl
      · rw [WorkBlock.openings_safeHandleEvent]
        exact opened
  | safeHandleEvent event =>
      refine ⟨coded, dropped, ?_⟩
      rw [runWorkBlock, output_runSafeHandleEvent opened]
      exact kept rfl
  | invalidCertificate =>
      refine ⟨coded, dropped, ?_⟩
      rw [runWorkBlock, output_failWithError]
      exact kept rfl
  | send data =>
      rcases @message?_sent platform data with ⟨bytes, sends, carries⟩ | ⟨bytes, sends, carries⟩
      · rw [runWorkBlock, congrFun sends going]
        refine follows_sendFrameWithOpcode follows popped (by decide) ?_
        rw [carries]
        exact waits
      · rw [runWorkBlock, congrFun sends going]
        refine follows_sendFrameWithOpcode follows popped (by decide) ?_
        rw [carries]
        exact waits
  | sendPong pingData => exact follows_sendFrameWithOpcode follows popped (by decide) waits
  | readFrameNew =>
      refine ⟨coded, dropped, ?_⟩
      rw [runWorkBlock, runReadFrameNew, output_pumpScanner, output_readFrameContinue]
      exact kept rfl
  | readFrameContinue =>
      refine ⟨coded, dropped, ?_⟩
      rw [runWorkBlock, output_pumpScanner, output_readFrameContinue]
      exact kept rfl
  | closeWithCode code reason => exact follows_runCloseWithCode (kept rfl) code reason
  | closeConnection =>
      refine ⟨coded, dropped, ?_⟩
      rw [runWorkBlock, output_closeConnection]
      exact (kept rfl).close
  | closeNormally =>
      refine ⟨coded, dropped, ?_⟩
      rw [runWorkBlock, output_closeConnection]
      exact (kept rfl).close
  | failWithError error => exact ⟨coded, dropped, follows_runFailWithError (kept rfl) error⟩

theorem output_runDelegateBlock (block : DelegateBlock) (socket : LGSRWebSocket) :
    (socket.runDelegateBlock block).output = socket.output := by
  cases block with
  | call made => rfl
  | didGetCertificates => rfl
  | didClose => rfl
  | closeWithProtocolError message =>
      rw [runDelegateBlock, output_dispatch rfl rfl, output_closeWithCode]
  | handlePing pingData => exact output_dispatch rfl rfl socket

theorem follows_step {event : SocketEvent}
    (follows : Output.Follows start sends coded dropped socket.output)
    (opened : event.openings = 0) :
    ∃ coded dropped, Output.Follows start (sends ++ event.message?.toList) coded dropped
      (socket.step platform event).output := by
  have quiet {next : LGSRWebSocket} (none : event.message? = none)
      (same : next.output = socket.output) :
      ∃ coded dropped, Output.Follows start (sends ++ event.message?.toList) coded dropped
        next.output := by
    rw [none, Option.toList_none, List.append_nil, same]
    exact ⟨coded, dropped, follows⟩
  cases event with
  | «open» =>
      have asserted := output_assert (decide (socket.readyState = .connecting))
        .openWhileConnecting socket
      refine quiet rfl ?_
      rw [step, ← asserted, openConnection]
      split <;> rfl
  | send data =>
      have asserted := output_assert (decide (socket.readyState ≠ .connecting))
        .sendAfterConnecting socket
      rw [step]
      generalize socket.assert (decide (socket.readyState ≠ .connecting))
        .sendAfterConnecting = going at asserted
      rw [← asserted] at follows
      refine ⟨coded, dropped, ?_⟩
      exact
        { follows with
          messages := by
            have waits : (going.dispatch (.send data)).pending =
                going.pending ++ [messageOf data] := List.filterMap_append
            show going.frames.filterMap Frame.message? ++ (going.dispatch (.send data)).pending =
              start.frames.filterMap Frame.message? ++ start.pending ++ (sends ++ [messageOf data])
            rw [waits, ← List.append_assoc, ← List.append_assoc _ sends]
            exact congrArg (· ++ [messageOf data]) follows.messages
          openings := by
            show ((going.workQueue ++ [WorkBlock.send data]).map WorkBlock.openings).sum = 0
            rw [List.map_append, List.sum_append]
            exact follows.openings }
  | closeWithCode code reason => exact quiet rfl (output_closeWithCode code reason socket)
  | bytesArrive bytes => exact quiet rfl rfl
  | inputFails error => exact quiet rfl rfl
  | spaceAppears count => exact quiet rfl rfl
  | outputFails => exact quiet rfl rfl
  | streamEvent event =>
      refine quiet rfl ?_
      unfold step
      dsimp only
      split
      · refine output_dispatch rfl ?_ socket
        rw [SocketEvent.openings_handleEvent]
        exact opened
      · rfl
  | secureStreamEvent hasBytes certificates accepted =>
      refine quiet rfl ?_
      unfold step
      dsimp only
      split
      · split
        · exact output_dispatch rfl (by cases hasBytes <;> rfl) _
        · exact output_dispatch rfl rfl _
      · rfl
  | runWorkBlock =>
      rw [show SocketEvent.runWorkBlock.message?.toList = [] from rfl, List.append_nil]
      unfold step
      dsimp only
      split
      · exact ⟨coded, dropped, follows⟩
      · rename_i queue
        exact follows_runWorkBlock follows queue
  | runDelegateBlock =>
      refine quiet rfl ?_
      unfold step
      dsimp only
      split
      · rfl
      · exact output_runDelegateBlock _ _
  | cleanup =>
      refine quiet rfl ?_
      unfold step
      dsimp only
      split <;> rfl

theorem follows_run (events : List SocketEvent) :
    ∀ {socket : LGSRWebSocket} {sends : List Message} {coded : List (Coding × Frame)}
      {dropped : List Frame}, Output.Follows start sends coded dropped socket.output →
      (∀ event ∈ events, event.openings = 0) →
      ∃ coded dropped, Output.Follows start (sends ++ events.filterMap SocketEvent.message?) coded
        dropped (socket.run platform events).output := by
  induction events with
  | nil =>
      intro socket sends coded dropped follows _
      exact ⟨coded, dropped, (List.append_nil sends).symm ▸ follows⟩
  | cons event events induction =>
      intro socket sends coded dropped follows opened
      rcases @follows_step platform _ _ _ _ _ event follows (opened event List.mem_cons_self) with
        ⟨coded, dropped, follows⟩
      rcases induction follows fun later member => opened later (List.mem_cons_of_mem _ member) with
        ⟨coded, dropped, follows⟩
      refine ⟨coded, dropped, ?_⟩
      have sent : (event :: events).filterMap SocketEvent.message? =
          event.message?.toList ++ events.filterMap SocketEvent.message? := by
        rw [List.filterMap_cons]
        cases event.message? <;> rfl
      rw [sent, ← List.append_assoc]
      exact follows

/-- What a socket writes once its input stream has opened reads as the frames it was to send, all
masked and in their order, up to those that came when it was about to close its streams. The frames
with messages carry what it was given to send, in that order, of which the rest waits on the work
queue. -/
theorem run_sentFrames (platform : Platform) (socket : LGSRWebSocket) (events : List SocketEvent)
    (opened : (socket.workQueue.map WorkBlock.openings).sum = 0)
    (staysOpen : ∀ event ∈ events, event.openings = 0) :
    ∃ bytes frames dropped,
      (run platform socket events).written = socket.written ++ bytes ∧
      (run platform socket events).frames = socket.frames ++ frames ++ dropped ∧
      ((run platform socket events).closeWhenFinishedWriting = false → dropped = []) ∧
      ((∀ frame ∈ frames, frame.payload.length < 256 ^ 8) → WebSocket.Decodes true bytes frames) ∧
      (frames ++ dropped).filterMap Frame.message? ++ (run platform socket events).pending =
        socket.pending ++ events.filterMap SocketEvent.message? := by
  have initially : Output.Follows socket.output [] [] [] socket.output :=
    { written := (List.append_nil _).symm
      frames := by rw [List.map_nil, List.append_nil, List.append_nil]
      forms := nofun
      keys := nofun
      dropped := fun _ => rfl
      messages := (List.append_nil _).symm
      openings := opened }
  rcases @follows_run platform _ events _ _ _ _ initially staysOpen with ⟨coded, dropped, follows⟩
  have frames : (run platform socket events).frames =
      socket.frames ++ coded.map Prod.snd ++ dropped := follows.frames
  refine ⟨WebSocket.stream coded, coded.map Prod.snd, dropped, follows.written, frames,
    follows.dropped, fun small => ?_, ?_⟩
  · refine WebSocket.decodes_stream (fun part member => ?_) follows.keys
    rw [follows.forms part member]
    exact shortestForm_fits (small part.2 (List.mem_map_of_mem member))
  · have messages : (run platform socket events).frames.filterMap Frame.message? ++
        (run platform socket events).pending =
        socket.frames.filterMap Frame.message? ++ socket.pending ++
          events.filterMap SocketEvent.message? := follows.messages
    rw [frames, List.append_assoc, List.filterMap_append, List.append_assoc,
      List.append_assoc] at messages
    exact List.append_cancel_left messages

def openSocket : LGSRWebSocket :=
  run samplePlatform { requestedProtocols := none } sampleEvents

/-- A text is given to it, and its queue goes on until that is written. -/
def sampleSending : List SocketEvent :=
  [.send (some (.string "on")), .runWorkBlock, .runWorkBlock, .runWorkBlock]

theorem run_sentFrames_openSocket :
    ∃ bytes, (run samplePlatform openSocket sampleSending).written = openSocket.written ++ bytes ∧
      WebSocket.Decodes true bytes [sentFrame (LGSROpCode.textFrame, utf8Bytes "on")] := by
  rcases run_sentFrames samplePlatform openSocket sampleSending (by decide +kernel) (by decide) with
    ⟨bytes, frames, dropped, written, sent, kept, decodes, _⟩
  have whole : dropped = [] := kept (by decide +kernel)
  have one : (run samplePlatform openSocket sampleSending).sentFrames =
      openSocket.sentFrames ++ [(LGSROpCode.textFrame, utf8Bytes "on")] := by decide +kernel
  have told : openSocket.frames ++ frames = openSocket.frames ++
      [sentFrame (LGSROpCode.textFrame, utf8Bytes "on")] := by
    rw [whole, List.append_nil] at sent
    rw [← sent, LGSRWebSocket.frames, one, List.map_append]
    rfl
  cases List.append_cancel_left told
  refine ⟨bytes, written, decodes fun frame member => ?_⟩
  cases List.mem_singleton.mp member
  decide +kernel

end LGSRWebSocket

end SocketRocket

end ConnectSDK
