import ConnectSDK.Frameworks.ReadingPositions
import Mathlib.Data.List.Forall2

/-! # What a web socket receives

Of a server that keeps to the protocol a socket hands its delegate every message, in order, and
answers every ping, in whatever pieces the bytes arrive and in whatever order its queues run.
-/

namespace ConnectSDK

namespace SocketRocket

open WebSocket (Frame Message Key Coding LengthForm Fragments Assembles IsControl)

/-! ## Quiet sockets -/

/-- Events of a stream that goes on. -/
def StreamEvent.isOrdinary : StreamEvent → Bool
  | .errorOccurred _ => false
  | .endEncountered _ => false
  | _ => true

namespace WorkBlock

def isOrdinary : WorkBlock → Bool
  | .handleEvent event => event.isOrdinary
  | .safeHandleEvent event => event.isOrdinary
  | .send _ => true
  | .sendPong _ => true
  | .readFrameNew => true
  | .readFrameContinue => true
  | _ => false

def sendsFrame : WorkBlock → Bool
  | .send _ => true
  | .sendPong _ => true
  | _ => false

def pong? : WorkBlock → Option (Option (List UInt8))
  | .sendPong pingData => some pingData
  | _ => none

end WorkBlock

def DelegateCall.message? : DelegateCall → Option Message
  | .didReceiveMessage message => some message
  | _ => none

namespace DelegateBlock

def isOrdinary : DelegateBlock → Bool
  | .call .webSocketDidOpen => true
  | .call (.didReceiveMessage _) => true
  | .didGetCertificates => true
  | .handlePing _ => true
  | _ => false

def message? : DelegateBlock → Option Message
  | .call made => made.message?
  | _ => none

def ping? : DelegateBlock → Option (Option (List UInt8))
  | .handlePing pingData => some pingData
  | _ => none

end DelegateBlock

namespace LGSRWebSocket

def reading (socket : LGSRWebSocket) : Reading where
  readyState := socket.readyState
  consumers := socket.consumers
  readers := socket.workQueue.filter WorkBlock.readsFrames
  openings := (socket.workQueue.map WorkBlock.openings).sum
  readBuffer := socket.readBuffer
  arrived := socket.arrived
  receivedHTTPHeaders := socket.receivedHTTPHeaders
  currentFrame :=
    { opcode := socket.currentFrameOpcode
      count := socket.currentFrameCount
      data := socket.currentFrameData
      stringScanPosition := socket.currentStringScanPosition }

/-- The messages that the delegate was told of, or is going to be. -/
def received (socket : LGSRWebSocket) : List Message :=
  socket.delegateCalls.filterMap DelegateCall.message? ++
    socket.delegateQueue.filterMap DelegateBlock.message?

def pongs (socket : LGSRWebSocket) : List (List UInt8) :=
  (socket.sentFrames.filter fun sent => sent.1 == LGSROpCode.pong).map Prod.snd

/-- The pings that are not answered yet. -/
def pendingPings (socket : LGSRWebSocket) : List (Option (List UInt8)) :=
  socket.workQueue.filterMap WorkBlock.pong? ++ socket.delegateQueue.filterMap DelegateBlock.ping?

end LGSRWebSocket

/-- A pong carries what its ping did. One that answers a ping without data carries whatever the
socket has of the current message. -/
def Answers (pong : List UInt8) (ping : Option (List UInt8)) : Prop :=
  ∀ data, ping = some data → pong = data

def firstKey (platform : Platform) : String :=
  platform.base64Encoded ((List.range 16).map fun index => platform.randomByte (0 + index))

/-- An answer to the handshake that the socket accepts. -/
structure Accepts (platform : Platform) (requestedProtocols : Option (List String))
    (answer : List UInt8) : Prop where
  present : answer ≠ []
  ends : LGSRWebSocket.findBytes LGSRWebSocket.crlfcrlf 0 0 answer = answer.length
  complete : platform.isHeaderComplete answer = true
  status : platform.responseStatusCode answer < 400
  accept : platform.headerFieldValue answer "Sec-WebSocket-Accept" =
    some (platform.stringBySHA1ThenBase64Encoding
      (firstKey platform ++ LGSRWebSocket.appendToSecKeyString))
  negotiated : ∀ protocol,
    platform.headerFieldValue answer "Sec-WebSocket-Protocol" = some protocol →
      (requestedProtocols.getD [protocol]).contains protocol = true

/-- All that a server sends. -/
structure Script where
  answer : List UInt8
  sent : List (Coding × Frame)
  messages : List Message

namespace Script

def bytes (script : Script) : List UInt8 :=
  script.answer ++ WebSocket.stream script.sent

def pings (script : Script) : List (Option (List UInt8)) :=
  pingsOf (script.sent.map Prod.snd)

/-- What a server sends that keeps to the protocol. Its texts are such as can be checked while they
arrive, and of control frames it sends pings and pongs only. -/
structure IsLegal (platform : Platform) (requestedProtocols : Option (List String))
    (script : Script) : Prop where
  accepts : Accepts platform requestedProtocols script.answer
  fit : WebSocket.AllFit script.sent
  unmasked : ∀ part ∈ script.sent, part.1.key = none
  assembles : Assembles none (script.sent.map Prod.snd) script.messages
  readable : Readable script.messages

end Script

/-! ## The invariant -/

namespace LGSRWebSocket

/-- Nothing has happened to the socket that would end its connection. -/
structure Calm (requestedProtocols : Option (List String)) (socket : LGSRWebSocket) : Prop where
  workQueue : ∀ block ∈ socket.workQueue, block.isOrdinary = true
  delegateQueue : ∀ block ∈ socket.delegateQueue, block.isOrdinary = true
  outputFails : socket.outputFails = false
  inputError : socket.inputError = none
  goesOn : socket.closeWhenFinishedWriting = false
  keeps : socket.cleanupScheduled = false
  attached : socket.hasStreamDelegate = true
  requestedProtocols : socket.requestedProtocols = requestedProtocols

/-- The messages of the script are those received and those to come, as the pings are those
answered, those waiting and those to come. -/
structure Accounts (script : Script) (messages : List Message)
    (pings : List (Option (List UInt8))) (socket : LGSRWebSocket) : Prop where
  messages : script.messages = socket.received ++ messages
  pings : ∃ answered, script.pings = answered ++ socket.pendingPings ++ pings ∧
    List.Forall₂ Answers socket.pongs answered

/-- Before the answer to its handshake, a socket has sent nothing but the request, and its delegate
is told of nothing but certificates. -/
structure Shakes (platform : Platform) (budget : Nat) (socket : LGSRWebSocket) : Prop where
  silent : ∀ block ∈ socket.workQueue, block.sendsFrame = false
  untold : ∀ block ∈ socket.delegateQueue, block = .didGetCertificates
  key : (budget + socket.reading.openings = 1 ∧ socket.drawn = 0) ∨
    (budget + socket.reading.openings = 0 ∧ socket.secKey = firstKey platform)

structure Receives (platform : Platform) (requestedProtocols : Option (List String))
    (script : Script) (budget : Nat) (unsent buffer : List UInt8) (socket : LGSRWebSocket) :
    Prop where
  buffer : socket.readBuffer = buffer
  calm : socket.Calm requestedProtocols
  shakes : socket.readyState = .connecting → socket.Shakes platform budget
  position : ∃ messages pings, socket.Accounts script messages pings ∧
    Position script.answer budget unsent socket.reading messages pings

/-- The scanner can do nothing more with what it has. -/
def Stalled (socket : LGSRWebSocket) : Prop :=
  ∀ consumer others, socket.consumers = consumer :: others → socket.readBuffer ≠ [] →
    consumer.readToCurrentFrame = false ∧ foundSize consumer socket.readBuffer = 0

variable {platform : Platform} {requestedProtocols : Option (List String)} {script : Script}
  {budget : Nat} {unsent buffer : List UInt8} {socket : LGSRWebSocket} {messages : List Message}
  {pings : List (Option (List UInt8))}

/-! ## Queues -/

theorem reading_dispatch {block : WorkBlock} (other : block.readsFrames = false)
    (noOpening : block.openings = 0) (socket : LGSRWebSocket) :
    (socket.dispatch block).reading = socket.reading := by
  simp only [dispatch, reading, List.filter_append, List.filter_cons, other, Bool.false_eq_true,
    ↓reduceIte, List.filter_nil, List.append_nil, List.map_append, List.sum_append, List.map_cons,
    noOpening, List.map_nil, List.sum_cons, List.sum_nil, Nat.add_zero]

/-- A block that reads on is the one thing that the socket waits for. -/
theorem awaits_dispatch {readyState : LGSRReadyState}
    (awaits : socket.reading.Awaits budget readyState 0 [] []) {block : WorkBlock}
    (reads : block.readsFrames = true) (noOpening : block.openings = 0) :
    (socket.dispatch block).reading.Awaits budget readyState 0 [] [block] where
  readyState := awaits.readyState
  openings := by
    have before : budget + (socket.workQueue.map WorkBlock.openings).sum = 0 := awaits.openings
    show budget + ((socket.workQueue ++ [block]).map WorkBlock.openings).sum = 0
    rw [List.map_append, List.sum_append, List.map_singleton, List.sum_singleton, noOpening]
    exact before
  consumers := awaits.consumers
  readers := by
    have none : socket.workQueue.filter WorkBlock.readsFrames = [] := awaits.readers
    show (socket.workQueue ++ [block]).filter WorkBlock.readsFrames = [block]
    rw [List.filter_append, none, List.nil_append, List.filter_singleton, reads]
    rfl

theorem Calm.dispatch (calm : socket.Calm requestedProtocols) {block : WorkBlock}
    (ordinary : block.isOrdinary = true) : (socket.dispatch block).Calm requestedProtocols :=
  { calm with
    workQueue := by
      intro other member
      rcases List.mem_append.mp member with before | now
      · exact calm.workQueue other before
      · exact List.mem_singleton.mp now ▸ ordinary }

theorem Calm.performDelegateBlock (calm : socket.Calm requestedProtocols) {block : DelegateBlock}
    (ordinary : block.isOrdinary = true) :
    (socket.performDelegateBlock block).Calm requestedProtocols :=
  { calm with
    delegateQueue := by
      intro other member
      rcases List.mem_append.mp member with before | now
      · exact calm.delegateQueue other before
      · exact List.mem_singleton.mp now ▸ ordinary }

theorem Accounts.dispatch (accounts : socket.Accounts script messages pings) {block : WorkBlock}
    (other : block.pong? = none) : (socket.dispatch block).Accounts script messages pings where
  messages := accounts.messages
  pings := by
    have same : (socket.dispatch block).pendingPings = socket.pendingPings := by
      simp only [pendingPings, LGSRWebSocket.dispatch, List.filterMap_append, List.filterMap_cons,
        other, List.filterMap_nil, List.append_nil]
    rw [same]
    exact accounts.pings

theorem Accounts.handleMessage {message : Message}
    (accounts : socket.Accounts script (message :: messages) pings) :
    (socket.handleMessage message).Accounts script messages pings where
  messages := by
    have received : (socket.handleMessage message).received = socket.received ++ [message] := by
      show _ ++ (socket.delegateQueue ++ [_]).filterMap DelegateBlock.message? = _
      rw [List.filterMap_append, ← List.append_assoc]
      rfl
    rw [received, List.append_assoc]
    exact accounts.messages
  pings := by
    have same : (socket.handleMessage message).pendingPings = socket.pendingPings := by
      show _ ++ (socket.delegateQueue ++ [_]).filterMap DelegateBlock.ping? = _
      rw [List.filterMap_append]
      show _ ++ (_ ++ []) = _
      rw [List.append_nil]
      rfl
    rw [same]
    exact accounts.pings

theorem Accounts.handlePing {pingData : Option (List UInt8)}
    (accounts : socket.Accounts script messages (pingData :: pings)) :
    (socket.handlePing pingData).Accounts script messages pings where
  messages := by
    have same : (socket.handlePing pingData).received = socket.received := by
      show _ ++ (socket.delegateQueue ++ [_]).filterMap DelegateBlock.message? = _
      rw [List.filterMap_append]
      show _ ++ (_ ++ []) = _
      rw [List.append_nil]
      rfl
    rw [same]
    exact accounts.messages
  pings := by
    have pending : (socket.handlePing pingData).pendingPings =
        socket.pendingPings ++ [pingData] := by
      show _ ++ (socket.delegateQueue ++ [_]).filterMap DelegateBlock.ping? = _
      rw [List.filterMap_append, ← List.append_assoc]
      rfl
    rcases accounts.pings with ⟨answered, all, answers⟩
    refine ⟨answered, ?_, answers⟩
    rw [pending, all, List.append_assoc, List.append_assoc, List.append_assoc]
    rfl

/-! ## Frames -/

/-- The socket is open and waits for nothing. -/
structure Resting (requestedProtocols : Option (List String)) (script : Script) (budget : Nat)
    (buffer : List UInt8) (messages : List Message) (pings : List (Option (List UInt8)))
    (socket : LGSRWebSocket) : Prop where
  buffer : socket.readBuffer = buffer
  calm : socket.Calm requestedProtocols
  awaits : socket.reading.Awaits budget .open 0 [] []
  accounts : socket.Accounts script messages pings

theorem Resting.opened (resting : socket.Resting requestedProtocols script budget buffer messages pings) :
    socket.readyState = .open :=
  resting.awaits.readyState

theorem shakes_of_open (opened : socket.readyState = .open) :
    socket.readyState = .connecting → socket.Shakes platform budget := by
  intro connecting
  rw [opened] at connecting
  cases connecting

/-- Of a socket that waits for a consumer. -/
theorem Resting.awaits_consumer
    (resting : socket.Resting requestedProtocols script budget buffer messages pings)
    (consumer : LGSRIOConsumer) :
    (socket.addConsumer consumer).reading.Awaits budget .open 0 [consumer] [] :=
  { resting.awaits with
    consumers := by
      have none : socket.consumers = [] := resting.awaits.consumers
      show socket.consumers ++ [consumer] = [consumer]
      rw [none]
      rfl }

theorem addConsumerWithDataLength_eq {dataLength : Nat} (positive : 0 < dataLength)
    (handler : Handler) (readToCurrentFrame unmaskBytes : Bool) (socket : LGSRWebSocket) :
    socket.addConsumerWithDataLength dataLength handler readToCurrentFrame unmaskBytes =
      socket.addConsumer { handler, bytesNeeded := dataLength, readToCurrentFrame, unmaskBytes } := by
  rw [addConsumerWithDataLength, assert_of_true (decide_eq_true positive)]

theorem opcodeOf_pos (isText : Bool) : 0 < opcodeOf isText := by
  cases isText <;> decide

theorem holds_synced {fragments : Option Fragments} {current : CurrentFrame}
    (holds : current.Holds fragments messages) :
    (current.count = 0 ∧ current.opcode = 0) ∨ (0 < current.count ∧ 0 < current.opcode) := by
  cases fragments with
  | none => exact .inl ⟨holds.2.1, holds.1⟩
  | some fragments =>
      refine .inr ⟨holds.1.count, ?_⟩
      rw [holds.1.opcode]
      exact opcodeOf_pos _

theorem receives_readFrameContinue
    (resting : socket.Resting requestedProtocols script budget buffer messages pings)
    {fragments : Option Fragments} (holds : socket.reading.currentFrame.Holds fragments messages)
    (carries : Carries fragments (socket.reading.unread unsent) messages pings) :
    socket.readFrameContinue.Receives platform requestedProtocols script budget unsent buffer := by
  have synced : (socket.currentFrameCount = 0 ∧ socket.currentFrameOpcode = 0) ∨
      (0 < socket.currentFrameCount ∧ 0 < socket.currentFrameOpcode) := holds_synced holds
  unfold readFrameContinue
  dsimp only
  rw [assert_of_true (decide_eq_true synced), addConsumerWithDataLength_eq (by decide)]
  exact
    { buffer := resting.buffer
      calm := { resting.calm with }
      shakes := shakes_of_open resting.opened
      position := ⟨messages, pings, { resting.accounts with },
        .frame (resting.awaits_consumer frameConsumer) holds carries⟩ }

theorem isControlFrame_opcodeOf (isText : Bool) :
    isControlFrame (opcodeOf isText) = false := by
  cases isText <;> decide

theorem handleFrameWithData_message {joined : Fragments}
    (whole : socket.currentFrameData = joined.data) {message : Message}
    (read : joined.message? = some message) :
    socket.handleFrameWithData none (opcodeOf joined.isText) =
      (socket.dispatch .readFrameNew).handleMessage message := by
  have data : (none : Option (List UInt8)).getD (socket.dispatch .readFrameNew).currentFrameData =
      joined.data := whole
  have next : (if isControlFrame (opcodeOf joined.isText) = true then
      socket.dispatch .readFrameContinue else socket.dispatch .readFrameNew) =
      socket.dispatch .readFrameNew := by
    rw [isControlFrame_opcodeOf, if_neg (by decide)]
  unfold handleFrameWithData
  dsimp only
  rw [next, data]
  unfold Fragments.message? at read
  cases isText : joined.isText with
  | true =>
      rw [isText, if_pos rfl] at read
      rcases Option.map_eq_some_iff.mp read with ⟨text, valid, rfl⟩
      rw [opcodeOf, if_pos rfl, if_pos rfl, valid]
  | false =>
      rw [isText, if_neg (by decide)] at read
      cases read
      rfl

/-- All of a frame of a message is read. -/
theorem receives_finishData
    (resting : socket.Resting requestedProtocols script budget buffer messages pings)
    {joined : Fragments} (begun : socket.reading.currentFrame.Begun joined messages)
    (whole : socket.currentFrameData = joined.data) {header : FrameHeader}
    (opcode : header.opcode = opcodeOf joined.isText) (newData : Option (List UInt8))
    (ends : Ends header.fin joined (socket.reading.unread unsent) messages pings) :
    (socket.finishFrame header newData).Receives platform requestedProtocols script budget
      unsent buffer := by
  have notControl := isControlFrame_opcodeOf joined.isText
  unfold finishFrame
  rw [opcode, notControl, if_neg (by decide)]
  cases ends with
  | unfinished unfinished carries =>
      have holds : socket.reading.currentFrame.Holds (some joined) messages := ⟨begun, whole⟩
      rw [unfinished, if_neg (by decide)]
      exact receives_readFrameContinue resting holds carries
  | @finished message messages _ finished read _ carries =>
      rw [finished, if_pos rfl, handleFrameWithData_message whole read]
      exact
        { buffer := resting.buffer
          calm := (resting.calm.dispatch rfl).performDelegateBlock rfl
          shakes := shakes_of_open resting.opened
          position := ⟨messages, pings, (resting.accounts.dispatch rfl).handleMessage,
            .new (awaits_dispatch resting.awaits rfl rfl) carries⟩ }

/-- All of a control frame is read. -/
theorem receives_finishControl {frame : Frame}
    (resting : socket.Resting requestedProtocols script budget buffer messages (pingOf frame ++ pings))
    {fragments : Option Fragments} (holds : socket.reading.currentFrame.Holds fragments messages)
    (isControl : IsControl frame) {header : FrameHeader}
    (opcode : header.opcode = UInt8.ofNat frame.opcode)
    (carries : Carries fragments (socket.reading.unread unsent) messages pings) :
    (socket.finishFrame header
      (if frame.payload = [] then none else some frame.payload)).Receives platform
        requestedProtocols script budget unsent buffer := by
  have calm : (socket.dispatch .readFrameContinue).Calm requestedProtocols :=
    resting.calm.dispatch rfl
  have reads : WorkBlock.readFrameContinue.readsFrames = true := rfl
  have awaits := awaits_dispatch resting.awaits reads rfl
  have accounts : (socket.dispatch .readFrameContinue).Accounts script messages
      (pingOf frame ++ pings) := resting.accounts.dispatch rfl
  have shakes : (socket.dispatch .readFrameContinue).readyState = .connecting →
      (socket.dispatch .readFrameContinue).Shakes platform budget := shakes_of_open resting.opened
  unfold finishFrame
  rcases isControl.opcode with ping | pong
  · have isPing : header.opcode = LGSROpCode.ping := by
      rw [opcode, ping]
      rfl
    have one : pingOf frame = [if frame.payload = [] then none else some frame.payload] :=
      if_pos ping
    rw [one] at accounts
    rw [isPing, if_pos (by decide)]
    exact
      { buffer := resting.buffer
        calm := calm.performDelegateBlock rfl
        shakes := shakes_of_open resting.opened
        position := ⟨messages, pings, accounts.handlePing, .goesOn awaits holds carries⟩ }
  · have isPong : header.opcode = LGSROpCode.pong := by
      rw [opcode, pong]
      rfl
    have none : pingOf frame = [] := pingOf_of_ne (by rw [pong]; decide)
    rw [none] at accounts
    rw [isPong, if_pos (by decide)]
    exact
      { buffer := resting.buffer
        calm
        shakes
        position := ⟨messages, pings, accounts, .goesOn awaits holds carries⟩ }

/-! ## Headers -/

theorem ofNat_opcode_ne_zero {frame : Frame} (isControl : IsControl frame) :
    UInt8.ofNat frame.opcode ≠ 0 ∧ isControlFrame (UInt8.ofNat frame.opcode) = true := by
  rcases isControl.opcode with same | same <;> rw [same] <;> decide

theorem resolvedOpcode_control {frame : Frame} (isControl : IsControl frame) (current : UInt8) :
    resolvedOpcode current frame = UInt8.ofNat frame.opcode := by
  refine if_neg fun continues => ?_
  rcases isControl.opcode with same | same <;> rw [same] at continues <;>
    exact absurd continues (by decide)

/-- A frame of a message has the opcode that the message has. -/
theorem resolvedOpcode_data {fragments : Option Fragments} {current : CurrentFrame}
    (holds : current.Holds fragments messages) {frame : Frame} {joined : Fragments}
    (joins : WebSocket.joined? fragments frame = some joined) :
    resolvedOpcode current.opcode frame = opcodeOf joined.isText := by
  rcases joined?_cases joins with ⟨_, _, ⟨same, isText⟩ | ⟨same, isText⟩⟩ |
    ⟨before, rfl, same, rfl⟩
  · rw [resolvedOpcode, same, isText]
    rfl
  · rw [resolvedOpcode, same, isText]
    rfl
  · exact (if_pos same).trans holds.1.opcode

/-- Once the header of a frame of a message is read, the socket has begun with it. -/
theorem begun_of_joins {fragments : Option Fragments} {current : CurrentFrame}
    (holds : current.Holds fragments messages) {frame : Frame} {joined : Fragments}
    (joins : WebSocket.joined? fragments frame = some joined) {after : List UInt8}
    (ends : Ends frame.fin joined after messages pings) :
    CurrentFrame.Begun joined messages
        { current with opcode := opcodeOf joined.isText, count := current.count + 1 } ∧
      current.data ++ frame.payload = joined.data := by
  rcases joined?_cases joins with ⟨rfl, data, _⟩ | ⟨before, rfl, _, rfl⟩
  · rcases holds with ⟨_, _, noData, start⟩
    refine ⟨⟨rfl, Nat.succ_pos _, fun isText => ?_⟩, by rw [noData, data]; rfl⟩
    rcases ends.text isText with ⟨text, more, rfl, _⟩
    show Scanned current.stringScanPosition current.data _
    rw [noData, start]
    exact scanned_nil text more
  · exact ⟨⟨rfl, Nat.succ_pos _, holds.1.scanned⟩, by rw [holds.2]⟩

theorem Resting.addConsumer
    (resting : socket.Resting requestedProtocols script budget buffer messages pings)
    {consumer : LGSRIOConsumer}
    (position : Position script.answer budget unsent (socket.addConsumer consumer).reading messages
      pings) :
    (socket.addConsumer consumer).Receives platform requestedProtocols script budget unsent buffer where
  buffer := resting.buffer
  calm := { resting.calm with }
  shakes := shakes_of_open resting.opened
  position := ⟨messages, pings, { resting.accounts with }, position⟩

theorem receives_handleFrameHeader {frame : Frame} {after : List UInt8}
    (resting : socket.Resting requestedProtocols script budget buffer messages pings)
    {fragments : Option Fragments} (holds : socket.reading.currentFrame.Holds fragments messages)
    {header : FrameHeader} (describes : Describes header socket.currentFrameOpcode frame)
    (length : header.payloadLength = frame.payload.length)
    (unread : socket.reading.unread unsent = frame.payload ++ after)
    (next : Next fragments frame after messages pings) :
    (socket.handleFrameHeader header).Receives platform requestedProtocols script budget
      unsent buffer := by
  have opened := resting.opened
  have isEmpty : header.payloadLength = 0 ↔ frame.payload = [] := by
    rw [length, List.length_eq_zero_iff]
  cases next with
  | @control pings isControl carries =>
      have opcode : header.opcode = UInt8.ofNat frame.opcode :=
        describes.opcode.trans (resolvedOpcode_control isControl _)
      rcases ofNat_opcode_ne_zero isControl with ⟨named, controls⟩
      rw [← opcode] at named controls
      unfold handleFrameHeader
      dsimp only
      rw [assert_of_true (bne_iff_ne.mpr named), if_neg (not_not.mpr opened), controls,
        describes.fin, isControl.whole, if_neg (by decide),
        if_neg (by rw [length]; exact fun long => absurd long.2 (Nat.not_le.mpr isControl.short)),
        if_pos rfl]
      by_cases present : frame.payload = []
      · have finished := @receives_finishControl platform requestedProtocols script budget unsent buffer
          socket messages pings frame resting fragments holds isControl header opcode
          (by rw [unread, present]; exact carries)
        rw [if_pos present] at finished
        rw [if_pos (isEmpty.mpr present)]
        exact finished
      · have positive := Nat.pos_of_ne_zero (mt isEmpty.mp present)
        rw [if_neg (mt isEmpty.mp present), addConsumerWithDataLength_eq positive, length,
          describes.unmasked]
        exact resting.addConsumer
          (.control (resting.awaits_consumer _) describes isControl present holds unread carries)
  | @data pings joined joins ends =>
      have opcode : header.opcode = opcodeOf joined.isText :=
        describes.opcode.trans (resolvedOpcode_data holds joins)
      have named : header.opcode ≠ 0 := by
        rw [opcode]
        exact UInt8.pos_iff_ne_zero.mp (opcodeOf_pos _)
      have notControl : isControlFrame header.opcode = false := by
        rw [opcode, isControlFrame_opcodeOf]
      rcases begun_of_joins holds joins ends with ⟨begun, parts⟩
      have counted : ({ socket with
          currentFrameOpcode := header.opcode
          currentFrameCount := socket.currentFrameCount + 1 } : LGSRWebSocket).Resting
          requestedProtocols script budget buffer messages pings :=
        { buffer := resting.buffer
          calm := { resting.calm with }
          awaits := { resting.awaits with }
          accounts := { resting.accounts with } }
      rw [← opcode] at begun
      rw [← describes.fin] at ends
      unfold handleFrameHeader
      dsimp only
      rw [assert_of_true (bne_iff_ne.mpr named), if_neg (not_not.mpr opened), notControl,
        if_neg (fun both => nomatch both.1), if_neg (fun both => nomatch both.1),
        if_neg (by decide : ¬ (false = true))]
      by_cases present : frame.payload = []
      · rw [if_pos (isEmpty.mpr present)]
        rw [present, List.append_nil] at parts
        rw [present] at unread
        refine receives_finishData counted begun parts opcode none ?_
        show Ends header.fin joined (socket.reading.unread unsent) messages pings
        rw [unread]
        exact ends
      · have positive := Nat.pos_of_ne_zero (mt isEmpty.mp present)
        rw [if_neg (mt isEmpty.mp present), addConsumerWithDataLength_eq positive, length,
          describes.unmasked]
        exact counted.addConsumer
          (.data (counted.awaits_consumer _) opcode present begun parts unread ends)

theorem firstByte_bits (fin : Bool) (opcode : Fin 16) :
    UInt8.ofNat (128 * fin.toNat + opcode) &&& rsvMask = 0 ∧
      opCodeMask &&& UInt8.ofNat (128 * fin.toNat + opcode) = UInt8.ofNat opcode ∧
      (finMask &&& UInt8.ofNat (128 * fin.toNat + opcode) != 0) = fin := by
  revert fin opcode
  decide

theorem secondByte_bits (code : Fin 128) :
    (maskMask &&& UInt8.ofNat (128 * false.toNat + code) != 0) = false ∧
      (payloadLenMask &&& UInt8.ofNat (128 * false.toNat + code)).toNat = code := by
  revert code
  decide

theorem ofNat_opcode_eq_zero_iff (opcode : Fin 16) :
    UInt8.ofNat opcode = 0 ↔ opcode = WebSocket.Opcode.continuation := by
  revert opcode
  decide

/-- Whether a frame may come now. -/
theorem admits_next {fragments : Option Fragments} {current : CurrentFrame}
    (holds : current.Holds fragments messages) {frame : Frame} {after : List UInt8}
    (next : Next fragments frame after messages pings) :
    ¬ (!isControlFrame (UInt8.ofNat frame.opcode) ∧ UInt8.ofNat frame.opcode ≠ 0 ∧
        0 < current.count) ∧
      ¬ (UInt8.ofNat frame.opcode = 0 ∧ current.count = 0) := by
  cases next with
  | control isControl carries =>
      rcases ofNat_opcode_ne_zero isControl with ⟨named, controls⟩
      rw [controls]
      exact ⟨fun all => (nomatch all.1), fun both => named both.1⟩
  | data joins ends =>
      rcases joined?_cases joins with ⟨rfl, _, other⟩ | ⟨before, rfl, continues, _⟩
      · rw [holds.2.1]
        refine ⟨fun all => absurd all.2.2 (Nat.lt_irrefl 0), fun both => ?_⟩
        have zero := (ofNat_opcode_eq_zero_iff _).mp both.1
        rcases other with ⟨same, _⟩ | ⟨same, _⟩ <;> rw [same] at zero <;>
          exact absurd zero (by decide)
      · have zero := (ofNat_opcode_eq_zero_iff _).mpr continues
        exact ⟨fun all => all.2.1 zero, fun both => absurd both.2 (Nat.ne_of_gt holds.1.count)⟩

theorem extraBytesNeeded_eq {header : FrameHeader} (unmasked : header.masked = false)
    {form : LengthForm} {length : Nat} (fits : form.Fits length)
    (code : header.payloadLength = form.code length) :
    (if header.payloadLength = 126 then 2 else if header.payloadLength = 127 then 8 else 0) =
        form.count ∧
      extraBytesNeeded header = form.count := by
  have count : (if header.payloadLength = 126 then 2
      else if header.payloadLength = 127 then 8 else 0) = form.count := by
    rw [code]
    cases form with
    | none =>
        have few : length < 126 := fits
        exact (if_neg (Nat.ne_of_lt few)).trans (if_neg (Nat.ne_of_lt (Nat.lt_succ_of_lt few)))
    | two => rfl
    | eight => rfl
  refine ⟨count, ?_⟩
  rw [extraBytesNeeded, count, unmasked, if_neg (by decide), Nat.zero_add]

theorem receives_readHeader {frame : Frame} {coding : Coding} {after : List UInt8}
    (resting : socket.Resting requestedProtocols script budget buffer messages pings)
    {fragments : Option Fragments} (holds : socket.reading.currentFrame.Holds fragments messages)
    (plain : coding.key = none) (fits : coding.form.Fits frame.payload.length)
    (unread : socket.reading.unread unsent =
      coding.extra frame.payload.length ++ (frame.payload ++ after))
    (next : Next fragments frame after messages pings) :
    (socket.readHeader (WebSocket.firstByte frame)
      (WebSocket.secondByte coding.key.isSome
        (coding.form.code frame.payload.length))).Receives platform requestedProtocols script
        budget unsent buffer := by
  rcases firstByte_bits frame.fin frame.opcode with ⟨noReserved, opcode, fin⟩
  have second := secondByte_bits ⟨_, fits.code_lt⟩
  have admitted : ¬ (!isControlFrame (UInt8.ofNat frame.opcode) ∧ UInt8.ofNat frame.opcode ≠ 0 ∧
      0 < socket.currentFrameCount) ∧
      ¬ (UInt8.ofNat frame.opcode = 0 ∧ socket.currentFrameCount = 0) := admits_next holds next
  have resolved : (if UInt8.ofNat frame.opcode = 0 then socket.currentFrameOpcode
      else UInt8.ofNat frame.opcode) = resolvedOpcode socket.currentFrameOpcode frame :=
    if_congr (ofNat_opcode_eq_zero_iff _) rfl rfl
  have extra : coding.extra frame.payload.length =
      WebSocket.bigEndian coding.form.count frame.payload.length := by
    rw [Coding.extra, Coding.keyBytes, plain]
    exact List.append_nil _
  rw [extra] at unread
  rw [plain]
  unfold readHeader WebSocket.firstByte WebSocket.secondByte
  dsimp only [Option.isSome_none]
  rw [noReserved, opcode, fin, second.1, second.2, resolved, if_neg (fun differs => differs rfl),
    if_neg admitted.1, if_neg admitted.2, if_neg (by decide : ¬ (false = true))]
  have describes : Describes
      { fin := frame.fin, opcode := resolvedOpcode socket.currentFrameOpcode frame, masked := false,
        payloadLength := coding.form.code frame.payload.length }
      socket.currentFrameOpcode frame := ⟨rfl, rfl, rfl⟩
  have needed := (extraBytesNeeded_eq describes.unmasked fits rfl).2
  rw [needed]
  by_cases short : coding.form.count = 0
  · have noForm : coding.form = .none := by
      cases form : coding.form with
      | none => rfl
      | two => rw [form] at short; cases short
      | eight => rw [form] at short; cases short
    have length : coding.form.code frame.payload.length = frame.payload.length := by
      rw [noForm]
      rfl
    rw [noForm] at unread
    rw [if_pos short]
    exact receives_handleFrameHeader resting holds describes length unread next
  · rw [if_neg short, addConsumerWithDataLength_eq (Nat.pos_of_ne_zero short)]
    exact resting.addConsumer
      (.extra (resting.awaits_consumer _) describes rfl fits short holds unread next)

theorem receives_readExtraBytes {frame : Frame} {coding : Coding} {after : List UInt8}
    (resting : socket.Resting requestedProtocols script budget buffer messages pings)
    {fragments : Option Fragments} (holds : socket.reading.currentFrame.Holds fragments messages)
    {header : FrameHeader} (describes : Describes header socket.currentFrameOpcode frame)
    (code : header.payloadLength = coding.form.code frame.payload.length)
    (fits : coding.form.Fits frame.payload.length) (longer : coding.form.count ≠ 0)
    (unread : socket.reading.unread unsent = frame.payload ++ after)
    (next : Next fragments frame after messages pings) :
    (socket.readExtraBytes header
      (WebSocket.bigEndian coding.form.count frame.payload.length)).Receives platform
        requestedProtocols script budget unsent buffer := by
  have offset := (extraBytesNeeded_eq describes.unmasked fits code).1
  have size := WebSocket.length_bigEndian coding.form.count frame.payload.length
  have small : frame.payload.length < 256 ^ coding.form.count := by
    cases form : coding.form with
    | none => rw [form] at longer; exact absurd rfl longer
    | two => rw [form] at fits; exact fits
    | eight => rw [form] at fits; exact fits
  have length : WebSocket.ofBigEndian
      ((WebSocket.bigEndian coding.form.count frame.payload.length).take coding.form.count) =
      frame.payload.length := by
    rw [List.take_of_length_le (Nat.le_of_eq size), WebSocket.ofBigEndian_bigEndian _ small]
  unfold readExtraBytes
  dsimp only
  rw [offset, size, assert_of_true (decide_eq_true (Nat.le_refl _)), describes.unmasked,
    if_neg (by decide : ¬ (false = true)), if_neg longer, length]
  exact receives_handleFrameHeader resting holds ⟨describes.fin, describes.opcode, rfl⟩ rfl unread
    next

/-! ## The handshake -/

theorem Accounts.performDelegateBlock (accounts : socket.Accounts script messages pings)
    {block : DelegateBlock} (noMessage : block.message? = none) (noPing : block.ping? = none) :
    (socket.performDelegateBlock block).Accounts script messages pings where
  messages := by
    have same : (socket.performDelegateBlock block).received = socket.received := by
      simp only [received, LGSRWebSocket.performDelegateBlock, List.filterMap_append,
        List.filterMap_cons, noMessage, List.filterMap_nil, List.append_nil]
    rw [same]
    exact accounts.messages
  pings := by
    have same : (socket.performDelegateBlock block).pendingPings = socket.pendingPings := by
      simp only [pendingPings, LGSRWebSocket.performDelegateBlock, List.filterMap_append,
        List.filterMap_cons, noPing, List.filterMap_nil, List.append_nil]
    rw [same]
    exact accounts.pings

theorem receives_finishHandshake (inBuffer : socket.readBuffer = buffer)
    (calm : socket.Calm requestedProtocols)
    (awaits : socket.reading.Awaits budget .connecting 0 [] [])
    (accounts : socket.Accounts script messages pings)
    (carries : Carries none (socket.reading.unread unsent) messages pings) :
    socket.finishHandshake.Receives platform requestedProtocols script budget unsent buffer := by
  have later : socket.readyState.rawValue < LGSRReadyState.open.rawValue := by
    rw [show socket.readyState = .connecting from awaits.readyState]
    decide
  have opened : ({ socket with readyState := .open } : LGSRWebSocket).reading.Awaits budget .open 0
      [] [] := { awaits with readyState := rfl }
  have openCalm : ({ socket with readyState := .open } : LGSRWebSocket).Calm requestedProtocols :=
    { calm with }
  have openAccounts : ({ socket with readyState := .open } : LGSRWebSocket).Accounts script messages
      pings := { accounts with }
  rw [finishHandshake, setReadyState_eq later]
  exact
    { buffer := inBuffer
      calm := (openCalm.dispatch rfl).performDelegateBlock rfl
      shakes := shakes_of_open rfl
      position := ⟨messages, pings, (openAccounts.dispatch rfl).performDelegateBlock rfl rfl,
        .new (awaits_dispatch opened rfl rfl) carries⟩ }

theorem receives_readHTTPHeaderBytes
    (accepts : Accepts platform requestedProtocols script.answer)
    (inBuffer : socket.readBuffer = buffer) (calm : socket.Calm requestedProtocols)
    (awaits : socket.reading.Awaits budget .connecting 0 [] [])
    (noHeader : socket.receivedHTTPHeaders = []) (key : socket.secKey = firstKey platform)
    (accounts : socket.Accounts script messages pings)
    (carries : Carries none (socket.reading.unread unsent) messages pings) :
    (socket.readHTTPHeaderBytes platform script.answer).Receives platform requestedProtocols script
      budget unsent buffer := by
  have whole : socket.receivedHTTPHeaders ++ script.answer = script.answer := by
    rw [noHeader]
    rfl
  have checks : ({ socket with receivedHTTPHeaders := script.answer } : LGSRWebSocket).checkHandshake
      platform = true := by
    unfold checkHandshake
    dsimp only
    rw [accepts.accept, key]
    exact beq_self_eq_true _
  unfold readHTTPHeaderBytes
  dsimp only
  rw [whole, if_pos accepts.complete]
  unfold httpHeadersDidFinish
  dsimp only
  rw [if_neg (Int.not_le.mpr accepts.status), checks, if_neg (by decide)]
  split
  · exact receives_finishHandshake inBuffer { calm with } { awaits with } { accounts with } carries
  · rename_i protocol negotiated
    have requested := accepts.negotiated protocol negotiated
    rw [← calm.requestedProtocols] at requested
    rw [if_pos requested]
    exact receives_finishHandshake inBuffer { calm with } { awaits with } { accounts with } carries

/-! ## The scanner -/

theorem findBytes_append {bytes data : List UInt8} (more : List UInt8) :
    ∀ {position matchCount : Nat}, findBytes bytes position matchCount data ≠ 0 →
      findBytes bytes position matchCount (data ++ more) =
        findBytes bytes position matchCount data := by
  induction data with
  | nil => exact fun found => absurd rfl found
  | cons byte data induction =>
      intro position matchCount found
      rw [List.cons_append]
      unfold findBytes at found ⊢
      by_cases same : bytes[matchCount]? = some byte
      · rw [if_pos same] at found ⊢
        rw [if_pos same]
        by_cases last : matchCount + 1 = bytes.length
        · rw [if_pos last, if_pos last]
        · rw [if_neg last] at found ⊢
          rw [if_neg last]
          exact induction found
      · rw [if_neg same] at found ⊢
        rw [if_neg same]
        exact induction found

theorem findBytes_le (bytes data : List UInt8) :
    ∀ position matchCount, findBytes bytes position matchCount data ≤ position + data.length := by
  induction data with
  | nil => exact fun position _ => Nat.zero_le _
  | cons byte data induction =>
      intro position matchCount
      have later := fun matchCount => induction (position + 1) matchCount
      rw [List.length_cons]
      unfold findBytes
      split
      · split
        · omega
        · exact Nat.le_trans (later _) (by omega)
      · exact Nat.le_trans (later _) (by omega)

/-- The end of the answer is not found before all of it is there. -/
theorem findBytes_answer {answer buffer later bytes : List UInt8} (present : answer ≠ [])
    (ends : findBytes crlfcrlf 0 0 answer = answer.length)
    (same : buffer ++ later = answer ++ bytes) (found : findBytes crlfcrlf 0 0 buffer ≠ 0) :
    findBytes crlfcrlf 0 0 buffer = answer.length ∧ answer.length ≤ buffer.length := by
  have inside := findBytes_le crlfcrlf buffer 0 0
  rw [Nat.zero_add] at inside
  rcases List.append_eq_append_iff.mp same with ⟨rest, rfl, _⟩ | ⟨rest, rfl, _⟩
  · have size : findBytes crlfcrlf 0 0 buffer = (buffer ++ rest).length := by
      rw [← findBytes_append rest found, ends]
    refine ⟨size, ?_⟩
    rw [← size]
    exact inside
  · have positive : findBytes crlfcrlf 0 0 answer ≠ 0 := by
      rw [ends]
      exact mt List.length_eq_zero_iff.mp present
    refine ⟨by rw [findBytes_append rest positive, ends], ?_⟩
    rw [List.length_append]
    exact Nat.le_add_right _ _

theorem split_buffer {buffer later front back : List UInt8} (same : buffer ++ later = front ++ back)
    (enough : front.length ≤ buffer.length) :
    buffer.take front.length = front ∧ buffer.drop front.length ++ later = back := by
  rcases List.append_eq_append_iff.mp same with ⟨rest, rfl, rfl⟩ | ⟨rest, rfl, rfl⟩
  · have none : rest = [] := by
      rw [List.length_append] at enough
      exact List.length_eq_zero_iff.mp (by omega)
    rw [none, List.append_nil, List.take_length, List.drop_length]
    exact ⟨rfl, rfl⟩
  · rw [List.take_left, List.drop_left]
    exact ⟨rfl, rfl⟩

/-- What a round of the scanner leads to, and whether it took bytes or can do nothing more. -/
def Pumped (platform : Platform) (requestedProtocols : Option (List String)) (script : Script)
    (budget : Nat) (unsent buffer : List UInt8) (result : LGSRWebSocket × Bool) : Prop :=
  ∃ left, result.1.Receives platform requestedProtocols script budget unsent left ∧
    (result.2 = true → left.length < buffer.length) ∧ (result.2 = false → result.1.Stalled)

theorem innerPumpScanner_idle (early : ¬ LGSRReadyState.closing.rawValue ≤ socket.readyState.rawValue)
    (idle : socket.consumers = [] ∨ socket.readBuffer = []) :
    socket.innerPumpScanner platform = (socket, false) ∧ socket.Stalled := by
  have rests : socket.Stalled := by
    intro consumer others first present
    rcases idle with none | none
    · rw [none] at first
      cases first
    · exact absurd none present
  refine ⟨?_, rests⟩
  unfold innerPumpScanner
  rw [if_neg early]
  split
  · rfl
  · rename_i first
    rcases idle with none | none
    · rw [none] at first
      cases first
    · exact if_pos none

/-- A round with a consumer that waits for all of its bytes. -/
theorem innerPumpScanner_waits {consumer : LGSRIOConsumer}
    (early : ¬ LGSRReadyState.closing.rawValue ≤ socket.readyState.rawValue)
    (only : socket.consumers = [consumer]) (present : socket.readBuffer ≠ [])
    (waits : consumer.readToCurrentFrame = false) (plain : consumer.unmaskBytes = false) :
    (foundSize consumer socket.readBuffer = 0 ∧
        socket.innerPumpScanner platform = (socket, false) ∧ socket.Stalled) ∨
      (foundSize consumer socket.readBuffer ≠ 0 ∧
        socket.innerPumpScanner platform =
          ({ socket with
              consumers := []
              readBuffer :=
                socket.readBuffer.drop (foundSize consumer socket.readBuffer) }.runHandler platform
            (socket.readBuffer.take (foundSize consumer socket.readBuffer)) consumer.handler,
            true)) := by
  have unfolded : socket.innerPumpScanner platform =
      if consumer.readToCurrentFrame = true ∨ foundSize consumer socket.readBuffer ≠ 0 then
        ({ socket with
            consumers := []
            readBuffer :=
              socket.readBuffer.drop (foundSize consumer socket.readBuffer) }.runHandler platform
          (socket.readBuffer.take (foundSize consumer socket.readBuffer)) consumer.handler, true)
      else (socket, false) := by
    unfold innerPumpScanner unmask
    rw [if_neg early, only]
    dsimp only
    rw [if_neg present, plain, waits]
    rfl
  rw [unfolded]
  by_cases found : foundSize consumer socket.readBuffer = 0
  · refine .inl ⟨found, if_neg fun either => ?_, fun other others first _ => ?_⟩
    · rcases either with toFrame | differs
      · rw [waits] at toFrame
        cases toFrame
      · exact differs found
    · rw [only] at first
      cases first
      exact ⟨waits, found⟩
  · exact .inr ⟨found, if_pos (.inr found)⟩

theorem early_of_awaits {readyState : LGSRReadyState} {openings : Nat}
    {consumers : List LGSRIOConsumer} {readers : List WorkBlock}
    (awaits : socket.reading.Awaits budget readyState openings consumers readers)
    (early : readyState = .connecting ∨ readyState = .open) :
    ¬ LGSRReadyState.closing.rawValue ≤ socket.readyState.rawValue := by
  rw [show socket.readyState = readyState from awaits.readyState]
  rcases early with rfl | rfl <;> decide

/-- The bytes that a consumer takes, and what is left of the buffer. -/
theorem taken_of_size {front back : List UInt8} {size : Nat}
    (unread : socket.reading.unread unsent = front ++ back) (whole : size = front.length)
    (enough : size ≤ socket.readBuffer.length) (some : size ≠ 0) :
    socket.readBuffer.take size = front ∧
      (socket.readBuffer.drop size ++ (socket.arrived ++ unsent)) = back ∧
      (socket.readBuffer.drop size).length < socket.readBuffer.length := by
  have same : socket.readBuffer ++ (socket.arrived ++ unsent) = front ++ back := unread
  rw [whole] at enough ⊢
  rcases split_buffer same enough with ⟨taken, left⟩
  refine ⟨taken, left, ?_⟩
  rw [List.length_drop]
  omega

theorem Receives.pumped_of_idle
    (receives : socket.Receives platform requestedProtocols script budget unsent buffer)
    {result : LGSRWebSocket × Bool} (idle : result = (socket, false)) (rests : socket.Stalled) :
    Pumped platform requestedProtocols script budget unsent buffer result := by
  rw [idle]
  exact ⟨buffer, receives, nofun, fun _ => rests⟩

theorem Receives.pumped_handshake
    (receives : socket.Receives platform requestedProtocols script budget unsent buffer)
    (legal : script.IsLegal platform requestedProtocols) {bytes : List UInt8}
    (accounts : socket.Accounts script messages pings)
    (awaits : socket.reading.Awaits budget .connecting 0 [headerConsumer] [])
    (noHeader : socket.receivedHTTPHeaders = [])
    (unread : socket.reading.unread unsent = script.answer ++ bytes)
    (carries : Carries none bytes messages pings) (present : socket.readBuffer ≠ []) :
    Pumped platform requestedProtocols script budget unsent buffer
      (socket.innerPumpScanner platform) := by
  have key : socket.secKey = firstKey platform := by
    rcases (receives.shakes awaits.readyState).key with ⟨one, _⟩ | ⟨_, key⟩
    · exact absurd (one.symm.trans awaits.openings) (by decide)
    · exact key
  rcases @innerPumpScanner_waits platform socket headerConsumer
      (early_of_awaits awaits (.inl rfl)) awaits.consumers present rfl rfl with
    ⟨_, idle, rests⟩ | ⟨found, works⟩
  · exact receives.pumped_of_idle idle rests
  · rcases findBytes_answer legal.accepts.present legal.accepts.ends unread found with
      ⟨size, enough⟩
    have whole : foundSize headerConsumer socket.readBuffer = script.answer.length := size
    rw [← whole] at enough
    rcases taken_of_size unread whole enough found with ⟨taken, left, fewer⟩
    rw [works, taken]
    refine ⟨_, receives_readHTTPHeaderBytes legal.accepts rfl { receives.calm with }
      { awaits with consumers := rfl } noHeader key { accounts with } ?_, fun _ => ?_, nofun⟩
    · show Carries none (socket.readBuffer.drop _ ++ (socket.arrived ++ unsent)) messages pings
      rw [left]
      exact carries
    · rw [← receives.buffer]
      exact fewer

/-- The socket once the bytes of its only consumer are taken. -/
theorem Receives.resting_of_taken
    (receives : socket.Receives platform requestedProtocols script budget unsent buffer)
    {consumers : List LGSRIOConsumer} (accounts : socket.Accounts script messages pings)
    (awaits : socket.reading.Awaits budget .open 0 consumers []) (size : Nat) :
    ({ socket with
        consumers := []
        readBuffer := socket.readBuffer.drop size } : LGSRWebSocket).Resting requestedProtocols
      script budget (socket.readBuffer.drop size) messages pings where
  buffer := rfl
  calm := { receives.calm with }
  awaits := { awaits with consumers := rfl }
  accounts := { accounts with }

theorem Receives.pumped_frame
    (receives : socket.Receives platform requestedProtocols script budget unsent buffer)
    (accounts : socket.Accounts script messages pings)
    (awaits : socket.reading.Awaits budget .open 0 [frameConsumer] [])
    {fragments : Option Fragments} (holds : socket.reading.currentFrame.Holds fragments messages)
    (carries : Carries fragments (socket.reading.unread unsent) messages pings)
    (present : socket.readBuffer ≠ []) :
    Pumped platform requestedProtocols script budget unsent buffer
      (socket.innerPumpScanner platform) := by
  rcases @innerPumpScanner_waits platform socket frameConsumer (early_of_awaits awaits (.inr rfl))
      awaits.consumers present rfl rfl with ⟨_, idle, rests⟩ | ⟨found, works⟩
  · exact receives.pumped_of_idle idle rests
  rcases carries.next with ⟨none, _⟩ | ⟨coding, frame, after, plain, fits, bytes, next⟩
  · exact absurd (List.append_eq_nil_iff.mp none).1 present
  rcases foundSize_of_waits rfl rfl found with ⟨size, enough⟩
  rw [← size] at enough
  have start : WebSocket.encoded coding frame ++ after =
      [WebSocket.firstByte frame,
        WebSocket.secondByte coding.key.isSome (coding.form.code frame.payload.length)] ++
      (coding.extra frame.payload.length ++ (frame.payload ++ after)) := by
    rw [WebSocket.encoded, plain, WebSocket.maskedWith, List.cons_append, List.cons_append,
      List.append_assoc]
    rfl
  rw [start] at bytes
  rcases taken_of_size bytes size enough found with ⟨taken, left, fewer⟩
  rw [works, taken]
  exact ⟨_, receives_readHeader (receives.resting_of_taken accounts awaits _) holds plain fits left
    next, fun _ => receives.buffer ▸ fewer, by rintro ⟨⟩⟩

theorem Receives.pumped_extra
    (receives : socket.Receives platform requestedProtocols script budget unsent buffer)
    (accounts : socket.Accounts script messages pings) {header : FrameHeader} {coding : Coding}
    (awaits : socket.reading.Awaits budget .open 0 [extraConsumer header coding.form.count] [])
    {fragments : Option Fragments} {frame : Frame} {after : List UInt8}
    (describes : Describes header socket.currentFrameOpcode frame)
    (code : header.payloadLength = coding.form.code frame.payload.length)
    (fits : coding.form.Fits frame.payload.length) (longer : coding.form.count ≠ 0)
    (holds : socket.reading.currentFrame.Holds fragments messages)
    (unread : socket.reading.unread unsent =
      WebSocket.bigEndian coding.form.count frame.payload.length ++ (frame.payload ++ after))
    (next : Next fragments frame after messages pings) (present : socket.readBuffer ≠ []) :
    Pumped platform requestedProtocols script budget unsent buffer
      (socket.innerPumpScanner platform) := by
  rcases @innerPumpScanner_waits platform socket _ (early_of_awaits awaits (.inr rfl))
      awaits.consumers present rfl rfl with ⟨_, idle, rests⟩ | ⟨found, works⟩
  · exact receives.pumped_of_idle idle rests
  rcases foundSize_of_waits rfl rfl found with ⟨size, enough⟩
  rw [← size] at enough
  rcases taken_of_size unread (size.trans (WebSocket.length_bigEndian _ _).symm) enough found with
    ⟨taken, left, fewer⟩
  rw [works, taken]
  exact ⟨_, receives_readExtraBytes (receives.resting_of_taken accounts awaits _) holds describes
    code fits longer left next, fun _ => receives.buffer ▸ fewer, nofun⟩

theorem Receives.pumped_control
    (receives : socket.Receives platform requestedProtocols script budget unsent buffer)
    {header : FrameHeader} {frame : Frame}
    (accounts : socket.Accounts script messages (pingOf frame ++ pings))
    (awaits : socket.reading.Awaits budget .open 0
      [payloadConsumer header frame.payload.length false] [])
    {fragments : Option Fragments} {after : List UInt8}
    (describes : Describes header socket.currentFrameOpcode frame)
    (isControl : IsControl frame) (some : frame.payload ≠ [])
    (holds : socket.reading.currentFrame.Holds fragments messages)
    (unread : socket.reading.unread unsent = frame.payload ++ after)
    (carries : Carries fragments after messages pings) (present : socket.readBuffer ≠ []) :
    Pumped platform requestedProtocols script budget unsent buffer
      (socket.innerPumpScanner platform) := by
  rcases @innerPumpScanner_waits platform socket _ (early_of_awaits awaits (.inr rfl))
      awaits.consumers present rfl rfl with ⟨_, idle, rests⟩ | ⟨found, works⟩
  · exact receives.pumped_of_idle idle rests
  rcases foundSize_of_waits rfl rfl found with ⟨size, enough⟩
  rw [← size] at enough
  rcases taken_of_size unread size enough found with ⟨taken, left, fewer⟩
  rw [works, taken]
  have finished := @receives_finishControl platform requestedProtocols script budget unsent _ _
    messages pings frame (receives.resting_of_taken accounts awaits _) fragments holds isControl
    header (describes.opcode.trans (resolvedOpcode_control isControl _))
    (by
      show Carries fragments (socket.readBuffer.drop _ ++ (socket.arrived ++ unsent)) messages pings
      rw [left]
      exact carries)
  rw [if_neg some] at finished
  exact ⟨_, finished, fun _ => receives.buffer ▸ fewer, nofun⟩

/-- A round with a consumer that takes what there is. -/
theorem innerPumpScanner_takes {consumer : LGSRIOConsumer}
    (early : ¬ LGSRReadyState.closing.rawValue ≤ socket.readyState.rawValue)
    (only : socket.consumers = [consumer]) (present : socket.readBuffer ≠ [])
    (takes : consumer.readToCurrentFrame = true) (plain : consumer.unmaskBytes = false) :
    socket.innerPumpScanner platform =
      { socket with
        readBuffer :=
          socket.readBuffer.drop (foundSize consumer socket.readBuffer) }.consumeToCurrentFrame
        platform consumer [] (socket.readBuffer.take (foundSize consumer socket.readBuffer)) := by
  unfold innerPumpScanner unmask
  rw [if_neg early, only]
  dsimp only
  rw [if_neg present, plain, takes]
  rfl

/-- The check of a text finds nothing wrong with it. -/
theorem validateCurrentFrame_of_begun {joined : Fragments} {slice rest after : List UInt8}
    (begun : socket.reading.currentFrame.Begun joined messages)
    (parts : socket.currentFrameData ++ slice ++ rest = joined.data) {fin : Bool}
    (ends : Ends fin joined after messages pings) :
    ∃ position,
      ({ socket with
          currentFrameData := socket.currentFrameData ++ slice } :
        LGSRWebSocket).validateCurrentFrame = some position ∧
      CurrentFrame.Begun joined messages
        { socket.reading.currentFrame with
          data := socket.currentFrameData ++ slice
          stringScanPosition := position } := by
  have opcode : socket.currentFrameOpcode = opcodeOf joined.isText := begun.opcode
  unfold validateCurrentFrame
  dsimp only
  cases isText : joined.isText with
  | false =>
      have binary : ¬ socket.currentFrameOpcode = LGSROpCode.textFrame := by
        rw [opcode, isText]
        decide
      rw [if_neg fun both => binary both.1]
      exact ⟨_, rfl, begun.opcode, begun.count, fun text => absurd (isText.symm.trans text) nofun⟩
  | true =>
      rcases ends.text isText with ⟨text, more, next, starts, readable⟩
      have first : socket.currentFrameData ++ slice <+: utf8Bytes text := by
        rw [← parts] at starts
        exact (List.prefix_append _ rest).trans starts
      rcases (begun.scanned isText).more next first readable with ⟨valid, found, scanned⟩
      by_cases some : socket.currentFrameData ++ slice = []
      · rw [if_neg fun both => both.2 some]
        refine ⟨_, rfl, begun.opcode, begun.count, fun _ => ?_⟩
        rw [(List.append_eq_nil_iff.mp some).2, List.append_nil]
        exact begun.scanned isText
      · have isTextFrame : socket.currentFrameOpcode = LGSROpCode.textFrame := by
          rw [opcode, isText]
          rfl
        have found : validatePartialString
            ((socket.currentFrameData ++ slice).drop socket.currentStringScanPosition) =
              Option.some valid := found
        rw [if_pos ⟨isTextFrame, some⟩, found]
        exact ⟨_, rfl, begun.opcode, begun.count, fun _ => scanned⟩

theorem foundSize_takes {consumer : LGSRIOConsumer} (noScanner : consumer.scanner = none)
    (takes : consumer.readToCurrentFrame = true) (data : List UInt8) :
    foundSize consumer data = min consumer.bytesNeeded data.length := by
  unfold foundSize
  rw [noScanner, takes]
  dsimp only
  split
  · omega
  · rw [if_pos rfl]
    omega

theorem Receives.pumped_data
    (receives : socket.Receives platform requestedProtocols script budget unsent buffer)
    (accounts : socket.Accounts script messages pings) {header : FrameHeader}
    {joined : Fragments} {left after : List UInt8}
    (awaits : socket.reading.Awaits budget .open 0 [payloadConsumer header left.length true] [])
    (opcode : header.opcode = opcodeOf joined.isText)
    (begun : socket.reading.currentFrame.Begun joined messages)
    (parts : socket.currentFrameData ++ left = joined.data)
    (unread : socket.reading.unread unsent = left ++ after) (some : left ≠ [])
    (ends : Ends header.fin joined after messages pings) (present : socket.readBuffer ≠ []) :
    Pumped platform requestedProtocols script budget unsent buffer
      (socket.innerPumpScanner platform) := by
  have size : foundSize (payloadConsumer header left.length true) socket.readBuffer =
      min left.length socket.readBuffer.length :=
    @foundSize_takes (payloadConsumer header left.length true) rfl rfl socket.readBuffer
  have same : socket.readBuffer ++ (socket.arrived ++ unsent) = left ++ after := unread
  have positive := List.length_pos_iff.mpr present
  rw [innerPumpScanner_takes (early_of_awaits awaits (.inr rfl)) awaits.consumers present rfl rfl,
    size]
  by_cases enough : left.length ≤ socket.readBuffer.length
  · rcases split_buffer same enough with ⟨taken, rest⟩
    rcases @validateCurrentFrame_of_begun
        { socket with readBuffer := socket.readBuffer.drop left.length } messages pings joined left
        [] after begun (by rw [List.append_nil]; exact parts) header.fin ends with
      ⟨position, valid, begunNow⟩
    have restingNow : ({ socket with
        consumers := []
        readBuffer := socket.readBuffer.drop left.length
        currentFrameData := socket.currentFrameData ++ left
        currentStringScanPosition := position } : LGSRWebSocket).Resting requestedProtocols script
        budget (socket.readBuffer.drop left.length) messages pings :=
      { buffer := rfl
        calm := { receives.calm with }
        awaits := { awaits with consumers := rfl }
        accounts := { accounts with } }
    rw [Nat.min_eq_left enough, taken]
    unfold consumeToCurrentFrame
    dsimp only
    rw [valid]
    dsimp only
    rw [show (payloadConsumer header left.length true).bytesNeeded = left.length from rfl,
      Nat.sub_self, if_pos rfl]
    refine ⟨_, receives_finishData restingNow begunNow parts opcode _ ?_, fun _ => ?_, nofun⟩
    · show Ends header.fin joined (socket.readBuffer.drop left.length ++ (socket.arrived ++ unsent))
        messages pings
      rw [rest]
      exact ends
    · rw [← receives.buffer, List.length_drop]
      have bounded := List.length_pos_iff.mpr some
      omega
  · have fewer : socket.readBuffer.length ≤ left.length := Nat.le_of_not_le enough
    rcases split_buffer same.symm fewer with ⟨taken, rest⟩
    have leftParts : socket.readBuffer ++ left.drop socket.readBuffer.length = left := by
      have whole := List.take_append_drop socket.readBuffer.length left
      rw [taken] at whole
      exact whole
    have leftLength : (left.drop socket.readBuffer.length).length =
        left.length - socket.readBuffer.length := List.length_drop
    rcases @validateCurrentFrame_of_begun
        { socket with readBuffer := socket.readBuffer.drop socket.readBuffer.length } messages pings
        joined socket.readBuffer (left.drop socket.readBuffer.length) after begun
        (by rw [List.append_assoc, leftParts]; exact parts) header.fin ends with
      ⟨position, valid, begunNow⟩
    rw [Nat.min_eq_right fewer, List.take_length]
    unfold consumeToCurrentFrame
    dsimp only
    rw [valid]
    dsimp only
    rw [show (payloadConsumer header left.length true).bytesNeeded = left.length from rfl,
      if_neg (by omega)]
    have partsNow : socket.currentFrameData ++ socket.readBuffer ++
        left.drop socket.readBuffer.length = joined.data := by
      rw [List.append_assoc, leftParts]
      exact parts
    refine ⟨socket.readBuffer.drop socket.readBuffer.length, ?_, nofun, fun _ => ?_⟩
    · exact
        { buffer := rfl
          calm := { receives.calm with }
          shakes := shakes_of_open awaits.readyState
          position :=
            ⟨messages, pings, { accounts with },
              .data { awaits with consumers := by rw [leftLength]; rfl } opcode
                (List.length_pos_iff.mp (by omega)) begunNow partsNow
                (by
                  show socket.readBuffer.drop socket.readBuffer.length ++
                    (socket.arrived ++ unsent) = _
                  rw [List.drop_length, rest]
                  rfl) ends⟩ }
    · intro consumer others _ unread
      exact absurd List.drop_length unread

theorem receives_innerPumpScanner (legal : script.IsLegal platform requestedProtocols)
    (receives : socket.Receives platform requestedProtocols script budget unsent buffer) :
    Pumped platform requestedProtocols script budget unsent buffer
      (socket.innerPumpScanner platform) := by
  rcases receives.position with ⟨messages, pings, accounts, position⟩
  have idle {readyState : LGSRReadyState} {openings : Nat} {consumers : List LGSRIOConsumer}
      {readers : List WorkBlock}
      (awaits : socket.reading.Awaits budget readyState openings consumers readers)
      (early : readyState = .connecting ∨ readyState = .open)
      (nothing : socket.consumers = [] ∨ socket.readBuffer = []) :
      Pumped platform requestedProtocols script budget unsent buffer
        (socket.innerPumpScanner platform) := by
    rcases @innerPumpScanner_idle platform socket (early_of_awaits awaits early) nothing with
      ⟨same, rests⟩
    exact receives.pumped_of_idle same rests
  by_cases present : socket.readBuffer = []
  · cases position with
    | opening awaits => exact idle awaits (.inl rfl) (.inr present)
    | handshake awaits => exact idle awaits (.inl rfl) (.inr present)
    | new awaits => exact idle awaits (.inr rfl) (.inr present)
    | goesOn awaits => exact idle awaits (.inr rfl) (.inr present)
    | frame awaits => exact idle awaits (.inr rfl) (.inr present)
    | extra awaits => exact idle awaits (.inr rfl) (.inr present)
    | control awaits => exact idle awaits (.inr rfl) (.inr present)
    | data awaits => exact idle awaits (.inr rfl) (.inr present)
  · cases position with
    | opening awaits => exact idle awaits (.inl rfl) (.inl awaits.consumers)
    | handshake awaits noHeader unread carries =>
        exact receives.pumped_handshake legal accounts awaits noHeader unread carries present
    | new awaits => exact idle awaits (.inr rfl) (.inl awaits.consumers)
    | goesOn awaits => exact idle awaits (.inr rfl) (.inl awaits.consumers)
    | frame awaits holds carries => exact receives.pumped_frame accounts awaits holds carries present
    | extra awaits describes code fits longer holds unread next =>
        exact receives.pumped_extra accounts awaits describes code fits longer holds unread next
          present
    | control awaits describes isControl some holds unread carries =>
        exact receives.pumped_control accounts awaits describes isControl some holds unread carries
          present
    | data awaits opcode some begun parts unread ends =>
        exact receives.pumped_data accounts awaits opcode begun parts unread some ends present

/-- The invariant, between two blocks. -/
def Goes (platform : Platform) (requestedProtocols : Option (List String)) (script : Script)
    (budget : Nat) (unsent : List UInt8) (socket : LGSRWebSocket) : Prop :=
  socket.Receives platform requestedProtocols script budget unsent socket.readBuffer ∧
    socket.Stalled

theorem goes_pumpRounds (legal : script.IsLegal platform requestedProtocols) (rounds : Nat) :
    ∀ {buffer : List UInt8} {socket : LGSRWebSocket},
      socket.Receives platform requestedProtocols script budget unsent buffer →
      buffer.length < rounds →
      (pumpRounds platform rounds socket).Goes platform requestedProtocols script budget unsent := by
  induction rounds with
  | zero => exact fun _ few => absurd few (Nat.not_lt_zero _)
  | succ rounds induction =>
      intro buffer socket receives few
      rcases receives_innerPumpScanner legal receives with ⟨left, next, fewer, rests⟩
      unfold pumpRounds
      split
      · rename_i worked
        rw [worked] at next fewer
        exact induction next (Nat.lt_of_lt_of_le (fewer rfl) (Nat.le_of_lt_succ few))
      · rename_i rested
        rw [rested] at next rests
        have same := next.buffer
        rw [← same] at next
        exact ⟨next, rests rfl⟩

theorem goes_pumpScanner (legal : script.IsLegal platform requestedProtocols)
    (receives : socket.Receives platform requestedProtocols script budget unsent buffer) :
    (socket.pumpScanner platform).Goes platform requestedProtocols script budget unsent := by
  refine goes_pumpRounds legal _ receives ?_
  rw [receives.buffer]
  exact Nat.lt_succ_self _

/-! ## Writing -/

/-- Writing changes what is left to write. -/
theorem pumpWriting_of_calm (calm : socket.Calm requestedProtocols) :
    ∃ wire outputBuffer space,
      socket.pumpWriting = { socket with wire, outputBuffer, space } := by
  have goesOn {socket : LGSRWebSocket} (same : socket.closeWhenFinishedWriting = false) :
      socket.finishWriting = socket := by
    unfold finishWriting
    rw [same]
    rfl
  unfold pumpWriting
  split
  · rw [if_neg (ne_true_of_eq_false calm.outputFails),
      goesOn (show socket.writeToStream.closeWhenFinishedWriting = false from calm.goesOn)]
    exact ⟨_, _, _, rfl⟩
  · rw [goesOn calm.goesOn]
    exact ⟨socket.wire, socket.outputBuffer, socket.space, rfl⟩

theorem writeData_of_calm (calm : socket.Calm requestedProtocols) (data : List UInt8) :
    ∃ wire outputBuffer space,
      socket.writeData data = { socket with wire, outputBuffer, space } := by
  have next : ({ socket with outputBuffer := socket.outputBuffer ++ data } : LGSRWebSocket).Calm
      requestedProtocols := { calm with }
  unfold writeData
  rw [if_neg (ne_true_of_eq_false calm.goesOn)]
  exact pumpWriting_of_calm next

theorem sendFrameWithOpcode_of_calm (calm : socket.Calm requestedProtocols) (opcode : UInt8)
    (data : Option (List UInt8)) :
    ∃ wire outputBuffer space drawn failedAssertions,
      socket.sendFrameWithOpcode platform opcode data =
        { socket with
          wire, outputBuffer, space, drawn, failedAssertions
          sentFrames := socket.sentFrames ++ [(opcode, data.getD [])] } := by
  have asserted : ∃ failedAssertions,
      socket.assert data.isSome .dataToSend = { socket with failedAssertions } := by
    unfold assert
    split
    · exact ⟨_, rfl⟩
    · exact ⟨_, rfl⟩
  rcases asserted with ⟨failedAssertions, asserted⟩
  have next : ({ socket with
      failedAssertions
      drawn := socket.drawn + 4
      sentFrames := socket.sentFrames ++ [(opcode, data.getD [])] } : LGSRWebSocket).Calm
      requestedProtocols := { calm with }
  unfold sendFrameWithOpcode
  rw [asserted]
  dsimp only
  rcases writeData_of_calm next (frameBytes opcode
    (({ socket with failedAssertions } : LGSRWebSocket).randomBytes platform 4) (data.getD [])) with
    ⟨wire, outputBuffer, space, written⟩
  exact ⟨wire, outputBuffer, space, socket.drawn + 4, failedAssertions, written⟩

theorem Receives.pumpWriting
    (receives : socket.Receives platform requestedProtocols script budget unsent buffer) :
    socket.pumpWriting.Receives platform requestedProtocols script budget unsent buffer := by
  rcases pumpWriting_of_calm receives.calm with ⟨wire, outputBuffer, space, same⟩
  rcases receives.position with ⟨messages, pings, accounts, position⟩
  rw [same]
  exact
    { buffer := receives.buffer
      calm := { receives.calm with }
      shakes := fun connecting => { receives.shakes connecting with }
      position := ⟨messages, pings, { accounts with }, position⟩ }

/-! ## Arrivals -/

theorem Receives.readAvailable
    (receives : socket.Receives platform requestedProtocols script budget unsent buffer) :
    ∃ buffer, socket.readAvailable.Receives platform requestedProtocols script budget unsent
      buffer := by
  rcases receives.position with ⟨messages, pings, accounts, position⟩
  unfold LGSRWebSocket.readAvailable
  split
  · exact ⟨_, receives⟩
  split
  · rename_i error failed
    rw [receives.calm.inputError] at failed
    cases failed
  refine ⟨socket.readBuffer ++ socket.arrived, ?_⟩
  exact
    { buffer := rfl
      calm := { receives.calm with }
      shakes := fun connecting => { receives.shakes connecting with }
      position :=
        ⟨messages, pings, { accounts with }, position.refill (by rw [List.append_assoc]; rfl)⟩ }

end LGSRWebSocket

end SocketRocket

end ConnectSDK
