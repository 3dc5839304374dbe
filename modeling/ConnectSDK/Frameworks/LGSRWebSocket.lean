import ConnectSDK.Foundation.WebSocketFrames
import ConnectSDK.Frameworks.PartialStrings
import ConnectSDK.Helpers.ConnectError

/-! # The web socket

`LGSRWebSocket`: what it reads of its input stream and hands to its delegate, what it writes to
its output stream, and how it closes. Its methods run on a serial queue of its own, and the
delegate's on another; a step of the system runs one block of either, or is something that
happens to the socket.
-/

namespace ConnectSDK

namespace SocketRocket

inductive LGSRReadyState where
  | connecting
  | open
  | closing
  | closed
deriving DecidableEq

def LGSRReadyState.rawValue : LGSRReadyState → Nat
  | .connecting => 0
  | .open => 1
  | .closing => 2
  | .closed => 3

namespace LGSROpCode

def textFrame : UInt8 := 0x1
def binaryFrame : UInt8 := 0x2
def connectionClose : UInt8 := 0x8
def ping : UInt8 := 0x9
def pong : UInt8 := 0xA

end LGSROpCode

namespace LGSRStatusCode

def normal : Int := 1000
def protocolError : Int := 1002
def noStatusReceived : Int := 1005
def invalidUTF8 : Int := 1007

end LGSRStatusCode

structure FrameHeader where
  fin : Bool
  opcode : UInt8
  masked : Bool
  payloadLength : Nat

/-- What a consumer does with the bytes it waited for. -/
inductive Handler where
  | httpHeader
  | frameHeader
  | extraBytes (header : FrameHeader)
  | payload (header : FrameHeader)

structure LGSRIOConsumer where
  scanner : Option (List UInt8 → Nat) := none
  handler : Handler
  bytesNeeded : Nat
  readToCurrentFrame : Bool := false
  unmaskBytes : Bool := false

/-- What `send:` is given. -/
inductive SentData where
  | string (text : String)
  | data (bytes : List UInt8)

inductive StreamEvent where
  | openCompleted (isInput : Bool)
  | hasBytesAvailable
  | hasSpaceAvailable
  | errorOccurred (error : NSError)
  | endEncountered (error : Option NSError)
  | other

/-- A block on the work queue. The payload of a pong is the data of the current frame at the
time it is sent where there is none of its own. -/
inductive WorkBlock where
  | handleEvent (event : StreamEvent)
  | safeHandleEvent (event : StreamEvent)
  | invalidCertificate
  | send (data : Option SentData)
  | sendPong (pingData : Option (List UInt8))
  | readFrameNew
  | readFrameContinue
  | closeWithCode (code : Int) (reason : Option String)
  | closeConnection
  | closeNormally
  | failWithError (error : NSError)

inductive DelegateCall where
  | webSocketDidOpen
  | didGetCertificates (certificates : Option (List String))
  | didReceiveMessage (message : WebSocket.Message)
  | didFailWithError (error : NSError)
  | didCloseWithCode (code : Int) (reason : Option String) (wasClean : Bool)

/-- A block on the delegate's queue. That of a clean close reads the code and the reason when
it runs, and that of certificates reads them. -/
inductive DelegateBlock where
  | call (call : DelegateCall)
  | didGetCertificates
  | didClose
  | closeWithProtocolError (message : String)
  | handlePing (pingData : Option (List UInt8))

inductive StreamStatus where
  | notOpen
  | open
  | closed
deriving DecidableEq

/-- What the code asserts of its state, of the sizes of what it reads and of its owner's calls. A
run goes on after one that fails. Left out are those about the queue that a method is called on,
about what the socket is set up with and about what the system converts for it. -/
inductive Assertion where
  | sendAfterConnecting
  | openWhileConnecting
  | readyStateIncreases
  | frameCountAndOpcode
  | frameOpcode
  | headerBytes
  | extraBytes
  | maskKeyBytes
  | bytesNeeded
  | dataToSend
deriving DecidableEq

/-- The read buffer and the output buffer are what is left of them from their offsets on. The
fields from `arrived` on stand for the streams, count the random bytes drawn, and log what the
socket did: the frames it was to send, the bytes it wrote, the calls of its delegate, the keys of
masked frames it read and the assertions that failed. -/
structure LGSRWebSocket where
  requestedProtocols : Option (List String) := none
  readyState : LGSRReadyState := .connecting
  consumers : List LGSRIOConsumer := []
  readBuffer : List UInt8 := []
  outputBuffer : List UInt8 := []
  currentFrameOpcode : UInt8 := 0
  currentFrameCount : Nat := 0
  currentStringScanPosition : Nat := 0
  currentFrameData : List UInt8 := []
  closeReason : Option String := none
  secKey : String := ""
  currentReadMaskKey : List UInt8 := [0, 0, 0, 0]
  currentReadMaskOffset : Nat := 0
  closeWhenFinishedWriting : Bool := false
  failed : Bool := false
  receivedHTTPHeaders : List UInt8 := []
  sentClose : Bool := false
  cleanupScheduled : Bool := false
  closeCode : Int := 0
  protocol : Option String := none
  sslData : Option (List String) := none
  workQueue : List WorkBlock := []
  delegateQueue : List DelegateBlock := []
  streamStatus : StreamStatus := .notOpen
  hasStreamDelegate : Bool := true
  arrived : List UInt8 := []
  inputError : Option NSError := none
  space : Nat := 0
  outputFails : Bool := false
  drawn : Nat := 0
  sentFrames : List (UInt8 × List UInt8) := []
  wire : List UInt8 := []
  delegateCalls : List DelegateCall := []
  maskKeysRead : Nat := 0
  failedAssertions : List Assertion := []

/-- What the system does for the socket: messages of HTTP, hashes and random bytes. -/
structure Platform where
  serializedRequest : List (String × String) → List UInt8
  isHeaderComplete : List UInt8 → Bool
  responseStatusCode : List UInt8 → Int
  headerFieldValue : List UInt8 → String → Option String
  base64Encoded : List UInt8 → String
  stringBySHA1ThenBase64Encoding : String → String
  randomByte : Nat → UInt8
  host : String
  allHTTPHeaderFields : List (String × String) := []

namespace LGSRWebSocket

def assert (holds : Bool) (assertion : Assertion) (socket : LGSRWebSocket) : LGSRWebSocket :=
  if holds then socket
  else { socket with failedAssertions := socket.failedAssertions ++ [assertion] }

/-- `dispatch_async` on the work queue. -/
def dispatch (block : WorkBlock) (socket : LGSRWebSocket) : LGSRWebSocket :=
  { socket with workQueue := socket.workQueue ++ [block] }

def performDelegateBlock (block : DelegateBlock) (socket : LGSRWebSocket) : LGSRWebSocket :=
  { socket with delegateQueue := socket.delegateQueue ++ [block] }

def setReadyState (readyState : LGSRReadyState) (socket : LGSRWebSocket) : LGSRWebSocket :=
  { socket.assert (decide (socket.readyState.rawValue < readyState.rawValue))
      .readyStateIncreases with readyState }

def scheduleCleanup (socket : LGSRWebSocket) : LGSRWebSocket :=
  { socket with cleanupScheduled := true }

/-! ## Closing -/

def closeWithCode (code : Int) (reason : Option String) (socket : LGSRWebSocket) :
    LGSRWebSocket :=
  socket.scheduleCleanup.dispatch (.closeWithCode code reason)

def closeWithProtocolError (message : String) (socket : LGSRWebSocket) : LGSRWebSocket :=
  socket.performDelegateBlock (.closeWithProtocolError message)

def failWithError (error : NSError) (socket : LGSRWebSocket) : LGSRWebSocket :=
  socket.dispatch (.failWithError error)

/-! ## Writing -/

def hasSpaceAvailable (socket : LGSRWebSocket) : Bool :=
  decide (socket.streamStatus = .open) && (decide (0 < socket.space) || socket.outputFails)

/-- Writes as much as the stream has room for. -/
def writeToStream (socket : LGSRWebSocket) : LGSRWebSocket :=
  { socket with
    wire := socket.wire ++ socket.outputBuffer.take socket.space
    outputBuffer := socket.outputBuffer.drop socket.space
    space := socket.space - socket.outputBuffer.length }

/-- Closes the streams once all is written. -/
def finishWriting (socket : LGSRWebSocket) : LGSRWebSocket :=
  if socket.closeWhenFinishedWriting && socket.outputBuffer.isEmpty &&
      decide (socket.streamStatus = .open) && !socket.sentClose then
    let socket := { socket with sentClose := true, streamStatus := .closed }
    let socket :=
      if socket.failed then socket else socket.performDelegateBlock .didClose
    socket.scheduleCleanup
  else socket

def pumpWriting (socket : LGSRWebSocket) : LGSRWebSocket :=
  if !socket.outputBuffer.isEmpty && socket.hasSpaceAvailable then
    if socket.outputFails then
      socket.failWithError { code := 2145, localizedDescription := "Error writing to stream" }
    else socket.writeToStream.finishWriting
  else socket.finishWriting

def closeConnection (socket : LGSRWebSocket) : LGSRWebSocket :=
  { socket with closeWhenFinishedWriting := true }.pumpWriting

def writeData (data : List UInt8) (socket : LGSRWebSocket) : LGSRWebSocket :=
  if socket.closeWhenFinishedWriting then socket
  else { socket with outputBuffer := socket.outputBuffer ++ data }.pumpWriting

/-! ## Sending frames -/

def finMask : UInt8 := 0x80
def opCodeMask : UInt8 := 0x0F
def rsvMask : UInt8 := 0x70
def maskMask : UInt8 := 0x80
def payloadLenMask : UInt8 := 0x7F

/-- The length in the second byte, and what follows it of a length that takes more. -/
def lengthBytes (payloadLength : Nat) : UInt8 × List UInt8 :=
  if payloadLength < 126 then (UInt8.ofNat payloadLength, [])
  else if payloadLength ≤ 0xFFFF then (126, WebSocket.bigEndian 2 payloadLength)
  else (127, WebSocket.bigEndian 8 payloadLength)

def maskedPayload (maskKey : List UInt8) (payload : List UInt8) : List UInt8 :=
  payload.mapIdx fun index byte => byte ^^^ maskKey.getD (index % 4) 0

def frameBytes (opcode : UInt8) (maskKey payload : List UInt8) : List UInt8 :=
  [finMask ||| opcode, maskMask ||| (lengthBytes payload.length).1] ++
    (lengthBytes payload.length).2 ++ maskKey ++ maskedPayload maskKey payload

/-- `SecRandomCopyBytes`. -/
def randomBytes (platform : Platform) (count : Nat) (socket : LGSRWebSocket) :
    List UInt8 :=
  (List.range count).map fun index => platform.randomByte (socket.drawn + index)

/-- Without data an assertion fails, after which the frame would be one without a payload. -/
def sendFrameWithOpcode (platform : Platform) (opcode : UInt8) (data : Option (List UInt8))
    (socket : LGSRWebSocket) : LGSRWebSocket :=
  let socket := socket.assert data.isSome .dataToSend
  let maskKey := socket.randomBytes platform 4
  { socket with
    drawn := socket.drawn + 4
    sentFrames := socket.sentFrames ++ [(opcode, data.getD [])] }.writeData
      (frameBytes opcode maskKey (data.getD []))

/-- The code of a close frame is the lower half of an integer. -/
def closePayload (code : Int) (reason : Option String) : List UInt8 :=
  WebSocket.bigEndian 2 (code % 0x10000).toNat ++ (reason.map utf8Bytes).getD []

def runCloseWithCode (platform : Platform) (code : Int) (reason : Option String)
    (socket : LGSRWebSocket) : LGSRWebSocket :=
  if socket.readyState = .closing ∨ socket.readyState = .closed then socket
  else
    let wasConnecting := decide (socket.readyState = .connecting)
    let socket := socket.setReadyState .closing
    if wasConnecting then socket.closeConnection
    else
      socket.sendFrameWithOpcode platform LGSROpCode.connectionClose
        (some (closePayload code reason))

def runFailWithError (error : NSError) (socket : LGSRWebSocket) : LGSRWebSocket :=
  if socket.readyState = .closed then socket
  else
    let socket := { socket with failed := true }
    let socket := socket.performDelegateBlock (.call (.didFailWithError error))
    (socket.setReadyState .closed).closeConnection.scheduleCleanup

/-! ## Frames that were read -/

def isControlFrame (opcode : UInt8) : Bool :=
  opcode == LGSROpCode.ping || opcode == LGSROpCode.pong || opcode == LGSROpCode.connectionClose

def closeCodeIsValid (closeCode : Int) : Bool :=
  if closeCode < 1000 then false
  else if 1000 ≤ closeCode ∧ closeCode ≤ 1011 then
    !(closeCode == 1004 || closeCode == 1005 || closeCode == 1006)
  else if 3000 ≤ closeCode ∧ closeCode ≤ 3999 then true
  else decide (4000 ≤ closeCode ∧ closeCode ≤ 4999)

def handlePing (pingData : Option (List UInt8)) (socket : LGSRWebSocket) : LGSRWebSocket :=
  socket.performDelegateBlock (.handlePing pingData)

def handleMessage (message : WebSocket.Message) (socket : LGSRWebSocket) : LGSRWebSocket :=
  socket.performDelegateBlock (.call (.didReceiveMessage message))

/-- What follows a close frame that says nothing wrong. -/
def answerClose (socket : LGSRWebSocket) : LGSRWebSocket :=
  let socket := if socket.readyState = .open then socket.closeWithCode 1000 none else socket
  socket.dispatch .closeConnection

def handleCloseWithData (data : List UInt8) (socket : LGSRWebSocket) : LGSRWebSocket :=
  match data with
  | [] => { socket with closeCode := LGSRStatusCode.noStatusReceived }.answerClose
  | [_] => socket.closeWithProtocolError "Payload for close must be larger than 2 bytes"
  | first :: second :: reason =>
      let closeCode : Int := WebSocket.ofBigEndian [first, second]
      let socket := { socket with closeCode }
      if !closeCodeIsValid closeCode then
        socket.closeWithProtocolError ("Cannot have close code of " ++ toString closeCode)
      else if reason = [] then socket.answerClose
      else
        match utf8Text? reason with
        | none =>
            { socket with closeReason := none }.closeWithProtocolError
              "Close reason MUST be valid UTF-8"
        | some closeReason => { socket with closeReason := some closeReason }.answerClose

/-- What closes the socket when a text is not valid UTF-8. -/
def closeWithInvalidUTF8 (socket : LGSRWebSocket) : LGSRWebSocket :=
  (socket.closeWithCode LGSRStatusCode.invalidUTF8 (some "Text frames must be valid UTF-8")).dispatch
    .closeConnection

/-- The frame data is that of the current frame where it is not given. -/
def handleFrameWithData (frameData : Option (List UInt8)) (opcode : UInt8)
    (socket : LGSRWebSocket) : LGSRWebSocket :=
  let socket :=
    if isControlFrame opcode then socket.dispatch .readFrameContinue
    else socket.dispatch .readFrameNew
  let data := frameData.getD socket.currentFrameData
  if opcode = LGSROpCode.textFrame then
    match utf8Text? data with
    | none => socket.closeWithInvalidUTF8
    | some text => socket.handleMessage (.text text)
  else if opcode = LGSROpCode.binaryFrame then socket.handleMessage (.binary data)
  else if opcode = LGSROpCode.connectionClose then socket.handleCloseWithData data
  else if opcode = LGSROpCode.ping then socket.handlePing frameData
  else if opcode = LGSROpCode.pong then socket
  else socket.closeWithProtocolError ("Unknown opcode " ++ toString opcode)

/-! ## Reading -/

/-- Where it is called from a consumer's handler, the scanner is pumping already. Elsewhere
`pumpScanner` follows. -/
def addConsumer (consumer : LGSRIOConsumer) (socket : LGSRWebSocket) : LGSRWebSocket :=
  { socket with consumers := socket.consumers ++ [consumer] }

def addConsumerWithDataLength (dataLength : Nat) (handler : Handler)
    (readToCurrentFrame unmaskBytes : Bool) (socket : LGSRWebSocket) : LGSRWebSocket :=
  (socket.assert (decide (0 < dataLength)) .bytesNeeded).addConsumer
    { handler, bytesNeeded := dataLength, readToCurrentFrame, unmaskBytes }

/-- The end of the first match, with the count of the bytes that match so far. After a byte
that does not match, the next one is compared with the first. -/
def findBytes (bytes : List UInt8) : Nat → Nat → List UInt8 → Nat
  | _, _, [] => 0
  | position, matchCount, byte :: data =>
      if bytes[matchCount]? = some byte then
        if matchCount + 1 = bytes.length then position + 1
        else findBytes bytes (position + 1) (matchCount + 1) data
      else findBytes bytes (position + 1) 0 data

def readUntilBytes (bytes : List UInt8) (handler : Handler) (socket : LGSRWebSocket) :
    LGSRWebSocket :=
  socket.addConsumer { scanner := some (findBytes bytes 0 0), handler, bytesNeeded := 0 }

def crlfcrlf : List UInt8 := [0x0D, 0x0A, 0x0D, 0x0A]

def readHTTPHeader (socket : LGSRWebSocket) : LGSRWebSocket :=
  socket.readUntilBytes crlfcrlf .httpHeader

def readFrameContinue (socket : LGSRWebSocket) : LGSRWebSocket :=
  let holds := decide ((socket.currentFrameCount = 0 ∧ socket.currentFrameOpcode = 0) ∨
    (0 < socket.currentFrameCount ∧ 0 < socket.currentFrameOpcode))
  (socket.assert holds .frameCountAndOpcode).addConsumerWithDataLength 2 .frameHeader false false

/-- What is done once all of a frame's payload is read. A control frame without a payload is
handled with the data of the current frame. -/
def finishFrame (header : FrameHeader) (newData : Option (List UInt8)) (socket : LGSRWebSocket) :
    LGSRWebSocket :=
  if isControlFrame header.opcode then socket.handleFrameWithData newData header.opcode
  else if header.fin then socket.handleFrameWithData none header.opcode
  else socket.readFrameContinue

def handleFrameHeader (header : FrameHeader) (socket : LGSRWebSocket) : LGSRWebSocket :=
  let socket := socket.assert (header.opcode != 0) .frameOpcode
  let isControl := isControlFrame header.opcode
  if socket.readyState ≠ .open then socket
  else if isControl ∧ !header.fin then
    socket.closeWithProtocolError "Fragmented control frames not allowed"
  else if isControl ∧ 126 ≤ header.payloadLength then
    socket.closeWithProtocolError "Control frames cannot have payloads larger than 126 bytes"
  else
    let socket :=
      if isControl then socket
      else
        { socket with
          currentFrameOpcode := header.opcode
          currentFrameCount := socket.currentFrameCount + 1 }
    if header.payloadLength = 0 then socket.finishFrame header none
    else
      socket.addConsumerWithDataLength header.payloadLength (.payload header) (!isControl)
        header.masked

def extraBytesNeeded (header : FrameHeader) : Nat :=
  (if header.masked then 4 else 0) +
    (if header.payloadLength = 126 then 2 else if header.payloadLength = 127 then 8 else 0)

/-- The handler of the first two bytes of a frame. A masked frame is an error, but is read. -/
def readHeader (first second : UInt8) (socket : LGSRWebSocket) : LGSRWebSocket :=
  let receivedOpcode := opCodeMask &&& first
  if first &&& rsvMask ≠ 0 then socket.closeWithProtocolError "Server used RSV bits"
  else if !isControlFrame receivedOpcode ∧ receivedOpcode ≠ 0 ∧ 0 < socket.currentFrameCount then
    socket.closeWithProtocolError
      "all data frames after the initial data frame must have opcode 0"
  else if receivedOpcode = 0 ∧ socket.currentFrameCount = 0 then
    socket.closeWithProtocolError "cannot continue a message"
  else
    let header : FrameHeader :=
      { fin := finMask &&& first != 0
        opcode := if receivedOpcode = 0 then socket.currentFrameOpcode else receivedOpcode
        masked := maskMask &&& second != 0
        payloadLength := (payloadLenMask &&& second).toNat }
    let socket :=
      if header.masked then socket.closeWithProtocolError "Client must receive unmasked data"
      else socket
    if extraBytesNeeded header = 0 then socket.handleFrameHeader header
    else socket.addConsumerWithDataLength (extraBytesNeeded header) (.extraBytes header) false false

/-- The handler of the bytes that follow. What is asserted of a key's bytes is that eight of
them are there, which is the size of an offset. -/
def readExtraBytes (header : FrameHeader) (data : List UInt8) (socket : LGSRWebSocket) :
    LGSRWebSocket :=
  let offset := if header.payloadLength = 126 then 2 else if header.payloadLength = 127 then 8 else 0
  let socket := socket.assert (decide (offset ≤ data.length)) .extraBytes
  let payloadLength :=
    if offset = 0 then header.payloadLength else WebSocket.ofBigEndian (data.take offset)
  let socket :=
    if header.masked then
      { socket.assert (decide (8 + offset ≤ data.length)) .maskKeyBytes with
        currentReadMaskKey := (data.drop offset).take 4
        maskKeysRead := socket.maskKeysRead + 1 }
    else socket
  socket.handleFrameHeader { header with payloadLength }

/-! ## The handshake -/

def appendToSecKeyString : String := "258EAFA5-E914-47DA-95CA-C5AB0DC85B11"

def checkHandshake (platform : Platform) (socket : LGSRWebSocket) : Bool :=
  match platform.headerFieldValue socket.receivedHTTPHeaders "Sec-WebSocket-Accept" with
  | none => false
  | some acceptHeader =>
      acceptHeader ==
        platform.stringBySHA1ThenBase64Encoding (socket.secKey ++ appendToSecKeyString)

/-- The reading of frames begins before the delegate is told that the socket is open. -/
def finishHandshake (socket : LGSRWebSocket) : LGSRWebSocket :=
  ((socket.setReadyState .open).dispatch .readFrameNew).performDelegateBlock
    (.call .webSocketDidOpen)

def httpHeadersDidFinish (platform : Platform) (socket : LGSRWebSocket) : LGSRWebSocket :=
  let responseCode := platform.responseStatusCode socket.receivedHTTPHeaders
  if 400 ≤ responseCode then
    socket.failWithError
      { code := 2132
        localizedDescription := "received bad response code from server " ++ toString responseCode }
  else if !socket.checkHandshake platform then
    socket.failWithError
      { code := 2133, localizedDescription := "Invalid Sec-WebSocket-Accept response" }
  else
    match platform.headerFieldValue socket.receivedHTTPHeaders "Sec-WebSocket-Protocol" with
    | none => socket.finishHandshake
    | some negotiatedProtocol =>
        -- `nil` has no objects, and its index of any is 0, which is not `NSNotFound`.
        if (socket.requestedProtocols.getD [negotiatedProtocol]).contains negotiatedProtocol then
          { socket with protocol := some negotiatedProtocol }.finishHandshake
        else
          socket.failWithError
            { code := 2133
              localizedDescription :=
                "Server specified Sec-WebSocket-Protocol that wasn't requested" }

def readHTTPHeaderBytes (platform : Platform) (data : List UInt8) (socket : LGSRWebSocket) :
    LGSRWebSocket :=
  let socket := { socket with receivedHTTPHeaders := socket.receivedHTTPHeaders ++ data }
  if platform.isHeaderComplete socket.receivedHTTPHeaders then
    socket.httpHeadersDidFinish platform
  else socket.readHTTPHeader

/-! ## The scanner -/

def runHandler (platform : Platform) (data : List UInt8) (socket : LGSRWebSocket) :
    Handler → LGSRWebSocket
  | .httpHeader => socket.readHTTPHeaderBytes platform data
  | .frameHeader =>
      match data with
      | first :: second :: _ => socket.readHeader first second
      | _ => socket.assert false .headerBytes
  | .extraBytes header => socket.readExtraBytes header data
  | .payload header => socket.finishFrame header (some data)

/-- How many bytes of the read buffer the consumer takes. -/
def foundSize (consumer : LGSRIOConsumer) (data : List UInt8) : Nat :=
  match consumer.scanner with
  | some scanner => scanner data
  | none =>
      if consumer.bytesNeeded ≤ data.length then consumer.bytesNeeded
      else if consumer.readToCurrentFrame then data.length
      else 0

def unmask (consumer : LGSRIOConsumer) (slice : List UInt8) (socket : LGSRWebSocket) :
    List UInt8 × LGSRWebSocket :=
  if consumer.unmaskBytes then
    (slice.mapIdx fun index byte =>
        byte ^^^ socket.currentReadMaskKey.getD ((socket.currentReadMaskOffset + index) % 4) 0,
      { socket with currentReadMaskOffset := socket.currentReadMaskOffset + slice.length })
  else (slice, socket)

/-- The check of a text while it arrives. It gives the position up to which the text is
valid. -/
def validateCurrentFrame (socket : LGSRWebSocket) : Option Nat :=
  if socket.currentFrameOpcode = LGSROpCode.textFrame ∧ socket.currentFrameData ≠ [] then
    (validatePartialString (socket.currentFrameData.drop socket.currentStringScanPosition)).map
      (socket.currentStringScanPosition + ·)
  else some socket.currentStringScanPosition

/-- Of a consumer that adds to the current frame: what it does with the bytes it took. -/
def consumeToCurrentFrame (platform : Platform) (consumer : LGSRIOConsumer)
    (others : List LGSRIOConsumer) (slice : List UInt8) (socket : LGSRWebSocket) :
    LGSRWebSocket × Bool :=
  let socket := { socket with currentFrameData := socket.currentFrameData ++ slice }
  match socket.validateCurrentFrame with
  | none => (socket.closeWithInvalidUTF8, false)
  | some position =>
      let socket := { socket with currentStringScanPosition := position }
      let consumer := { consumer with bytesNeeded := consumer.bytesNeeded - slice.length }
      if consumer.bytesNeeded = 0 then
        ({ socket with consumers := others }.runHandler platform [] consumer.handler, true)
      else ({ socket with consumers := consumer :: others }, false)

/-- Whether it did work. -/
def innerPumpScanner (platform : Platform) (socket : LGSRWebSocket) : LGSRWebSocket × Bool :=
  if LGSRReadyState.closing.rawValue ≤ socket.readyState.rawValue then
    (socket.dispatch .closeNormally, false)
  else
    match socket.consumers with
    | [] => (socket, false)
    | consumer :: others =>
        if socket.readBuffer = [] then (socket, false)
        else
          let foundSize := foundSize consumer socket.readBuffer
          if consumer.readToCurrentFrame ∨ foundSize ≠ 0 then
            let slice := socket.readBuffer.take foundSize
            let socket := { socket with readBuffer := socket.readBuffer.drop foundSize }
            let (slice, socket) := socket.unmask consumer slice
            if consumer.readToCurrentFrame then
              socket.consumeToCurrentFrame platform consumer others slice
            else ({ socket with consumers := others }.runHandler platform slice consumer.handler, true)
          else (socket, false)

def pumpRounds (platform : Platform) : Nat → LGSRWebSocket → LGSRWebSocket
  | 0, socket => socket
  | rounds + 1, socket =>
      match socket.innerPumpScanner platform with
      | (socket, true) => pumpRounds platform rounds socket
      | (socket, false) => socket

/-- Each round that does work takes a byte at least. -/
def pumpScanner (platform : Platform) (socket : LGSRWebSocket) : LGSRWebSocket :=
  pumpRounds platform (socket.readBuffer.length + 1) socket

/-! ## Blocks -/

def didConnect (platform : Platform) (socket : LGSRWebSocket) : LGSRWebSocket :=
  let secKey := platform.base64Encoded (socket.randomBytes platform 16)
  let headers :=
    [("Host", platform.host), ("Upgrade", "websocket"), ("Connection", "Upgrade"),
      ("Sec-WebSocket-Key", secKey), ("Sec-WebSocket-Version", "13")] ++
    (socket.requestedProtocols.map fun protocols =>
      [("Sec-WebSocket-Protocol", ", ".intercalate protocols)]).getD [] ++
    platform.allHTTPHeaderFields
  let socket := { socket with secKey, drawn := socket.drawn + 16 }
  ((socket.writeData (platform.serializedRequest headers)).readHTTPHeader).pumpScanner platform

/-- The bytes are read in blocks, up to one that is not full. -/
def readAvailable (socket : LGSRWebSocket) : LGSRWebSocket :=
  if socket.streamStatus ≠ .open then socket
  else
    match socket.inputError with
    | some error => socket.failWithError error
    | none => { socket with readBuffer := socket.readBuffer ++ socket.arrived, arrived := [] }

def runStreamEnd (platform : Platform) (error : Option NSError) (socket : LGSRWebSocket) :
    LGSRWebSocket :=
  let socket := socket.pumpScanner platform
  match error with
  | some error => socket.failWithError error
  | none =>
      let socket :=
        if socket.readyState = .closed then socket
        else (socket.setReadyState .closed).scheduleCleanup
      if !socket.sentClose && !socket.failed then
        { socket with sentClose := true }.performDelegateBlock
          (.call (.didCloseWithCode 0 (some "Stream end encountered") false))
      else socket

def runSafeHandleEvent (platform : Platform) (socket : LGSRWebSocket) :
    StreamEvent → LGSRWebSocket
  | .openCompleted isInput =>
      if LGSRReadyState.closing.rawValue ≤ socket.readyState.rawValue then socket
      else
        let socket :=
          if socket.readyState = .connecting ∧ isInput then socket.didConnect platform else socket
        socket.pumpWriting.pumpScanner platform
  | .errorOccurred error => { socket.failWithError error with readBuffer := [] }
  | .endEncountered error => socket.runStreamEnd platform error
  | .hasBytesAvailable => socket.readAvailable.pumpScanner platform
  | .hasSpaceAvailable => socket.pumpWriting
  | .other => socket

def runSend (platform : Platform) (socket : LGSRWebSocket) : Option SentData → LGSRWebSocket
  | some (.string text) =>
      socket.sendFrameWithOpcode platform LGSROpCode.textFrame (some (utf8Bytes text))
  | some (.data bytes) => socket.sendFrameWithOpcode platform LGSROpCode.binaryFrame (some bytes)
  | none => socket.sendFrameWithOpcode platform LGSROpCode.textFrame none

def runReadFrameNew (platform : Platform) (socket : LGSRWebSocket) : LGSRWebSocket :=
  { socket with
    currentFrameData := []
    currentFrameOpcode := 0
    currentFrameCount := 0
    currentStringScanPosition := 0 }.readFrameContinue.pumpScanner platform

def runWorkBlock (platform : Platform) (socket : LGSRWebSocket) : WorkBlock → LGSRWebSocket
  | .handleEvent event => socket.dispatch (.safeHandleEvent event)
  | .safeHandleEvent event => socket.runSafeHandleEvent platform event
  | .invalidCertificate =>
      socket.failWithError { code := 23556, localizedDescription := "Invalid server cert" }
  | .send data => socket.runSend platform data
  | .sendPong pingData =>
      socket.sendFrameWithOpcode platform LGSROpCode.pong
        (some (pingData.getD socket.currentFrameData))
  | .readFrameNew => socket.runReadFrameNew platform
  | .readFrameContinue => socket.readFrameContinue.pumpScanner platform
  | .closeWithCode code reason => socket.runCloseWithCode platform code reason
  | .closeConnection => socket.closeConnection
  | .closeNormally => { socket with closeCode := LGSRStatusCode.normal }.closeConnection
  | .failWithError error => socket.runFailWithError error

def callDelegate (call : DelegateCall) (socket : LGSRWebSocket) : LGSRWebSocket :=
  { socket with delegateCalls := socket.delegateCalls ++ [call] }

def runDelegateBlock (socket : LGSRWebSocket) : DelegateBlock → LGSRWebSocket
  | .call call => socket.callDelegate call
  | .didGetCertificates => socket.callDelegate (.didGetCertificates socket.sslData)
  | .didClose => socket.callDelegate (.didCloseWithCode socket.closeCode socket.closeReason true)
  | .closeWithProtocolError message =>
      (socket.closeWithCode LGSRStatusCode.protocolError (some message)).dispatch .closeConnection
  | .handlePing pingData => socket.dispatch (.sendPong pingData)

/-! ## The system -/

end LGSRWebSocket

/-- A call of the socket's methods, what happens to its streams, or that a block is run. An event
of a secure stream, before a pinned certificate was found, is one with bytes or with space, and
comes with the certificates and whether they are accepted. -/
inductive SocketEvent where
  | open
  | send (data : Option SentData)
  | closeWithCode (code : Int) (reason : Option String)
  | bytesArrive (bytes : List UInt8)
  | inputFails (error : NSError)
  | spaceAppears (count : Nat)
  | outputFails
  | streamEvent (event : StreamEvent)
  | secureStreamEvent (hasBytes : Bool) (certificates : Option (List String)) (accepted : Bool)
  | runWorkBlock
  | runDelegateBlock
  | cleanup

namespace LGSRWebSocket

def openConnection (socket : LGSRWebSocket) : LGSRWebSocket :=
  if socket.streamStatus = .notOpen then { socket with streamStatus := .open } else socket

def step (platform : Platform) (socket : LGSRWebSocket) : SocketEvent → LGSRWebSocket
  | .open =>
      (socket.assert (decide (socket.readyState = .connecting)) .openWhileConnecting).openConnection
  | .send data =>
      (socket.assert (decide (socket.readyState ≠ .connecting)) .sendAfterConnecting).dispatch
        (.send data)
  | .closeWithCode code reason => socket.closeWithCode code reason
  | .bytesArrive bytes => { socket with arrived := socket.arrived ++ bytes }
  | .inputFails error => { socket with inputError := some error }
  | .spaceAppears count => { socket with space := socket.space + count }
  | .outputFails => { socket with outputFails := true }
  | .streamEvent event =>
      if socket.hasStreamDelegate then socket.dispatch (.handleEvent event) else socket
  | .secureStreamEvent hasBytes certificates accepted =>
      if socket.hasStreamDelegate then
        let socket :=
          { socket with sslData := certificates }.performDelegateBlock .didGetCertificates
        if accepted then
          socket.dispatch
            (.handleEvent (if hasBytes then .hasBytesAvailable else .hasSpaceAvailable))
        else socket.dispatch .invalidCertificate
      else socket
  | .runWorkBlock =>
      match socket.workQueue with
      | [] => socket
      | block :: blocks => { socket with workQueue := blocks }.runWorkBlock platform block
  | .runDelegateBlock =>
      match socket.delegateQueue with
      | [] => socket
      | block :: blocks => { socket with delegateQueue := blocks }.runDelegateBlock block
  | .cleanup =>
      if socket.cleanupScheduled then
        { socket with hasStreamDelegate := false, streamStatus := .closed }
      else socket

/-- The state after the events, in order. -/
def run (platform : Platform) (socket : LGSRWebSocket) (events : List SocketEvent) :
    LGSRWebSocket :=
  events.foldl (step platform) socket

end LGSRWebSocket

end SocketRocket

end ConnectSDK
