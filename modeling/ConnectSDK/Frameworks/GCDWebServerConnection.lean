import Mathlib
import ConnectSDK.Foundation.ChunkedCoding
import ConnectSDK.Foundation.Run

/-! # Connections of the web server

How `GCDWebServerConnection` reads a request until it starts to process it, one read or write at a
time. What CFNetwork and the handlers make of the head of a request is a parameter, and so is the
writer of its body. What becomes of the response is left out.
-/

namespace ConnectSDK

open FirstOccurrence HexNumbers ChunkedCoding

def NSIntegerMax : Int :=
  0x7FFFFFFFFFFFFFFF

/-- A request, and what the writer of its body answers. -/
structure GCDWebServerRequest where
  hasBody : Bool
  usesChunkedTransferEncoding : Bool
  contentLength : Nat
  performOpen : Bool
  /-- Asked with all the data so far. -/
  performWriteData : List (List UInt8) → Bool
  performClose : List (List UInt8) → Bool

/-- What a server makes of the head of a request. -/
structure RequestHead where
  /-- `requestMethod && requestURL && requestHeaders && requestPath && requestQuery`. -/
  hasAllParts : Bool
  expectHeader : Option String
  /-- The request of the first handler whose `matchBlock` returns one. -/
  request : Option GCDWebServerRequest

/-- `CFHTTPMessageAppendBytes` and `CFHTTPMessageIsHeaderComplete`, if both succeed. -/
abbrev MessageParser := List UInt8 → Option RequestHead

/-- What a connection waits for. -/
inductive Awaiting where
  | headers (headersData : List UInt8)
  | continueWritten (request : GCDWebServerRequest) (extraData : List UInt8)
  | body (request : GCDWebServerRequest) (length : Nat)
  | chunk (request : GCDWebServerRequest) (chunkData : List UInt8)
  | response
  | headersWritten
  | nothing
  /-- The loop goes on forever and nothing is asked for. -/
  | forever

structure GCDWebServerConnection where
  awaiting : Awaiting := .headers []
  /-- What the writer of the body was given. -/
  bodyData : List (List UInt8) := []
  /-- The body that the request had when it was processed. -/
  processed : List (List UInt8) := []
  aborted : List Nat := []

inductive ConnectionEvent where
  | read (data : List UInt8)
  | readFailed
  | written (success : Bool)

namespace GCDWebServerConnection

def abortRequest (connection : GCDWebServerConnection) (statusCode : Nat) :
    GCDWebServerConnection :=
  { connection with awaiting := .headersWritten, aborted := connection.aborted ++ [statusCode] }

def startProcessingRequest (connection : GCDWebServerConnection) : GCDWebServerConnection :=
  { connection with
    awaiting := .response, processed := connection.processed ++ [connection.bodyData.flatten] }

/-- The block that is called once a body was read. It does not ask whether that succeeded. -/
def completionBlock (request : GCDWebServerRequest) (connection : GCDWebServerConnection) :
    GCDWebServerConnection :=
  if request.performClose connection.bodyData then connection.startProcessingRequest
  else connection.abortRequest 500

def writeData (connection : GCDWebServerConnection) (data : List UInt8) :
    GCDWebServerConnection :=
  { connection with bodyData := connection.bodyData ++ [data] }

def wait (connection : GCDWebServerConnection) (awaiting : Awaiting) : GCDWebServerConnection :=
  { connection with awaiting := awaiting }

/-! ## Bodies of a known length -/

def continueBody (request : GCDWebServerRequest) (length : Nat)
    (connection : GCDWebServerConnection) : GCDWebServerConnection :=
  if length ≠ 0 then connection.wait (.body request length) else completionBlock request connection

/-- The block of `_readBodyWithRemainingLength:`. -/
def didReadBody (request : GCDWebServerRequest) (length : Nat) (data : List UInt8)
    (connection : GCDWebServerConnection) : GCDWebServerConnection :=
  if data.length ≤ length then
    let connection := connection.writeData data
    if request.performWriteData connection.bodyData then
      continueBody request (length - data.length) connection
    else completionBlock request connection
  else completionBlock request connection

def readBodyWithLength (request : GCDWebServerRequest) (length : Nat)
    (initialData : List UInt8) (connection : GCDWebServerConnection) : GCDWebServerConnection :=
  if !request.performOpen then connection.abortRequest 500
  else if initialData.length ≠ 0 then
    let connection := connection.writeData initialData
    if request.performWriteData connection.bodyData then
      continueBody request (length - initialData.length) connection
    else connection.abortRequest 500
  else continueBody request length connection

/-! ## Chunked bodies -/

/-- `_ScanHexNumber`, which reads up to a zero byte. `none` is `NSNotFound`. -/
def scanHexNumber (bytes : List UInt8) : Option Nat :=
  let result := strtol16 (bytes.takeWhile (· ≠ 0))
  if result.2.isEmpty && decide (0 ≤ result.1) && decide (result.1 ≠ NSIntegerMax) then
    some result.1.toNat
  else none

/-- The size in the line before a chunk. Extensions are ignored. -/
def chunkLength (line : List UInt8) : Option Nat :=
  scanHexNumber (line.take ((firstIndex? [semicolon] line).getD line.length))

/-- What one round of the loop in `_readNextBodyChunk:` does. -/
inductive ChunkRound where
  | readsMore
  | completes
  | chunk (data rest : List UInt8)
  /-- After the last chunk the loop neither ends nor reads on while its trailers are not there. -/
  | repeats

def chunkRound (chunkData : List UInt8) : ChunkRound :=
  match firstIndex? crlf chunkData with
  | none => .readsMore
  | some location =>
      match chunkLength (chunkData.take location) with
      | none => .completes
      | some length =>
          if length ≠ 0 then
            let start := location + crlf.length
            if chunkData.length < start + length + 2 then .readsMore
            else if (chunkData.drop (start + length)).take 2 = crlf then
              .chunk ((chunkData.drop start).take length) (chunkData.drop (start + length + 2))
            else .completes
          else if (firstIndex? (crlf ++ crlf) (chunkData.drop location)).isSome then .completes
          else .repeats

/-- Every round that goes on takes bytes away, so that there are no more rounds than bytes. -/
def readNextBodyChunk (request : GCDWebServerRequest) :
    Nat → List UInt8 → GCDWebServerConnection → GCDWebServerConnection
  | 0, chunkData, connection => connection.wait (.chunk request chunkData)
  | rounds + 1, chunkData, connection =>
      match chunkRound chunkData with
      | .readsMore => connection.wait (.chunk request chunkData)
      | .completes => completionBlock request connection
      | .repeats => connection.wait .forever
      | .chunk data rest =>
          let connection := connection.writeData data
          if request.performWriteData connection.bodyData then
            readNextBodyChunk request rounds rest connection
          else completionBlock request connection

def didReadChunks (request : GCDWebServerRequest) (chunkData : List UInt8)
    (connection : GCDWebServerConnection) : GCDWebServerConnection :=
  readNextBodyChunk request (chunkData.length + 1) chunkData connection

def readChunkedBodyWithInitialData (request : GCDWebServerRequest) (initialData : List UInt8)
    (connection : GCDWebServerConnection) : GCDWebServerConnection :=
  if !request.performOpen then connection.abortRequest 500
  else didReadChunks request initialData connection

/-! ## Heads -/

def readBody (request : GCDWebServerRequest) (extraData : List UInt8)
    (connection : GCDWebServerConnection) : GCDWebServerConnection :=
  if request.usesChunkedTransferEncoding then
    readChunkedBodyWithInitialData request extraData connection
  else readBodyWithLength request request.contentLength extraData connection

/-- `[expectHeader caseInsensitiveCompare:@"100-continue"] == NSOrderedSame`. -/
def expectsContinue (expectHeader : String) : Bool :=
  expectHeader.toLower == "100-continue"

def didReadHeaders (head : RequestHead) (extraData : List UInt8)
    (connection : GCDWebServerConnection) : GCDWebServerConnection :=
  if head.hasAllParts then
    match head.request with
    | some request =>
        if request.hasBody then
          if request.usesChunkedTransferEncoding ||
              decide (extraData.length ≤ request.contentLength) then
            match head.expectHeader with
            | some expectHeader =>
                if expectsContinue expectHeader then
                  connection.wait (.continueWritten request extraData)
                else connection.abortRequest 417
            | none => readBody request extraData connection
          else connection.abortRequest 400
        else connection.startProcessingRequest
    | none => connection.abortRequest 405
  else connection.abortRequest 500

def readHeaders (parser : MessageParser) (headersData : List UInt8)
    (connection : GCDWebServerConnection) : GCDWebServerConnection :=
  match firstIndex? (crlf ++ crlf) headersData with
  | none => connection.wait (.headers headersData)
  | some location =>
      let length := location + (crlf ++ crlf).length
      match parser (headersData.take length) with
      | none => connection.abortRequest 500
      | some head => didReadHeaders head (headersData.drop length) connection

/-- A read hands over at least one byte, and no more than was asked for. -/
def didRead (parser : MessageParser) (connection : GCDWebServerConnection) (data : List UInt8) :
    Option GCDWebServerConnection :=
  if data.isEmpty then none
  else
    match connection.awaiting with
    | .headers headersData => some (readHeaders parser (headersData ++ data) connection)
    | .body request length =>
        if data.length ≤ length then some (didReadBody request length data connection) else none
    | .chunk request chunkData => some (didReadChunks request (chunkData ++ data) connection)
    | _ => none

/-- The socket is at its end, or reading from it failed. -/
def didFailToRead (connection : GCDWebServerConnection) : Option GCDWebServerConnection :=
  match connection.awaiting with
  | .headers _ => some (connection.abortRequest 500)
  | .body request _ => some (completionBlock request connection)
  | .chunk request _ => some (completionBlock request connection)
  | _ => none

def didWrite (connection : GCDWebServerConnection) (success : Bool) :
    Option GCDWebServerConnection :=
  match connection.awaiting with
  | .continueWritten request extraData =>
      some (if success then readBody request extraData connection else connection.wait .nothing)
  | .headersWritten => some (connection.wait .nothing)
  | _ => none

def step (parser : MessageParser) (connection : GCDWebServerConnection) :
    ConnectionEvent → Option GCDWebServerConnection
  | .read data => didRead parser connection data
  | .readFailed => didFailToRead connection
  | .written success => didWrite connection success

end GCDWebServerConnection

end ConnectSDK
