import ConnectSDK.Frameworks.RequestBodies

/-! # The bodies of responses

How `GCDWebServerConnection` writes the body of a response, one piece of data at a time, and that
what it writes in chunks is what it reads of a request in chunks.
-/

namespace ConnectSDK

open ChunkedCoding

/-- What the writing of a body waits for. -/
inductive Writing where
  | data
  | dataWritten
  | lastChunkWritten
  | finished (success : Bool)

structure ResponseWriter where
  usesChunkedTransferEncoding : Bool
  writing : Writing := .data
  /-- The data that the response gave. -/
  given : List (List UInt8) := []
  /-- The bytes that were handed to the socket. -/
  output : List UInt8 := []

inductive WriterEvent where
  /-- The answer of `performReadDataWithCompletion:`, which is no data if it fails. -/
  | didReadData (data : Option (List UInt8))
  | written (success : Bool)

namespace ResponseWriter

/-- The bytes for a piece of data. -/
def coded (chunked : Bool) (data : List UInt8) : List UInt8 :=
  if chunked then chunk data else data

/-- The block of `_writeBodyWithCompletionBlock:`. -/
def didReadData (data : Option (List UInt8)) (writer : ResponseWriter) : ResponseWriter :=
  match data with
  | some data =>
      if data.length ≠ 0 then
        { writer with
          writing := .dataWritten
          given := writer.given ++ [data]
          output := writer.output ++ coded writer.usesChunkedTransferEncoding data }
      else if writer.usesChunkedTransferEncoding then
        { writer with writing := .lastChunkWritten, output := writer.output ++ lastChunk }
      else { writer with writing := .finished true }
  | none => { writer with writing := .finished false }

def step (writer : ResponseWriter) : WriterEvent → Option ResponseWriter
  | .didReadData data =>
      match writer.writing with
      | .data => some (writer.didReadData data)
      | _ => none
  | .written success =>
      match writer.writing with
      | .dataWritten =>
          some { writer with writing := if success then .data else .finished false }
      | .lastChunkWritten => some { writer with writing := .finished success }
      | _ => none

/-! ## What is written -/

/-- What follows the pieces of data once all of them are written. -/
def ending (chunked : Bool) : Writing → List UInt8
  | .lastChunkWritten | .finished _ => if chunked then lastChunk else []
  | .data | .dataWritten => []

/-- Unless something failed, the output is the code of what was given. -/
structure Sound (chunked : Bool) (writer : ResponseWriter) : Prop where
  usesChunkedTransferEncoding : writer.usesChunkedTransferEncoding = chunked
  nonempty : ∀ data ∈ writer.given, data ≠ []
  output : writer.writing ≠ .finished false →
    writer.output = writer.given.flatMap (coded chunked) ++ ending chunked writer.writing

section Steps

variable {chunked : Bool} {writer next : ResponseWriter}

theorem Sound.didReadData (sound : writer.Sound chunked) (asked : writer.writing = .data)
    (data : Option (List UInt8)) : (writer.didReadData data).Sound chunked := by
  have known : writer.output = writer.given.flatMap (coded chunked) := by
    have output := sound.output (by simp [asked])
    rwa [asked, ending, List.append_nil] at output
  cases data with
  | none => exact { sound with output := fun failed => absurd rfl failed }
  | some data =>
      rw [ResponseWriter.didReadData, sound.usesChunkedTransferEncoding]
      by_cases present : data.length ≠ 0
      · rw [if_pos present]
        refine ⟨rfl, ?_, fun _ => ?_⟩
        · intro other member
          rcases List.mem_append.mp member with old | new
          · exact sound.nonempty other old
          · rw [List.mem_singleton.mp new]
            exact fun absent => present (List.length_eq_zero_iff.mpr absent)
        · rw [known, ending, List.append_nil, List.flatMap_append, List.flatMap_singleton]
      · rw [if_neg present]
        cases chunked with
        | true =>
            refine ⟨rfl, sound.nonempty, fun _ => ?_⟩
            exact congrArg (· ++ lastChunk) known
        | false =>
            refine ⟨rfl, sound.nonempty, fun _ => ?_⟩
            exact known.trans (List.append_nil _).symm

theorem Sound.step {event : WriterEvent} (sound : writer.Sound chunked)
    (taken : writer.step event = some next) : next.Sound chunked := by
  cases event with
  | didReadData data =>
      rw [ResponseWriter.step] at taken
      cases asked : writer.writing with
      | data =>
          rw [asked] at taken
          cases taken
          exact sound.didReadData asked data
      | dataWritten => rw [asked] at taken; cases taken
      | lastChunkWritten => rw [asked] at taken; cases taken
      | finished success => rw [asked] at taken; cases taken
  | written success =>
      rw [ResponseWriter.step] at taken
      cases asked : writer.writing with
      | dataWritten =>
          have output := sound.output (by simp [asked])
          rw [asked] at taken output
          cases taken
          cases success with
          | true => exact { sound with output := fun _ => output }
          | false => exact { sound with output := fun failed => absurd rfl failed }
      | lastChunkWritten =>
          have output := sound.output (by simp [asked])
          rw [asked] at taken output
          cases taken
          exact { sound with output := fun _ => output }
      | data => rw [asked] at taken; cases taken
      | finished success => rw [asked] at taken; cases taken

end Steps

/-! ## Runs -/

section Runs

variable {chunked : Bool} {events : List WriterEvent} {final : ResponseWriter}

theorem sound_run
    (reached : runFrom step { usesChunkedTransferEncoding := chunked } events = some final) :
    final.Sound chunked := by
  have start : Sound chunked { usesChunkedTransferEncoding := chunked } := by
    refine ⟨rfl, ?_, fun _ => rfl⟩
    intro data member
    cases member
  exact runFrom_invariant (fun _ _ _ sound _ taken => Sound.step sound taken) start
    (everyStep_of_forall (fun _ _ => trivial) _ events) reached

/-- Without chunks the data is written as it is. -/
theorem output_of_plain
    (reached : runFrom step { usesChunkedTransferEncoding := false } events = some final)
    (success : final.writing = .finished true) : final.output = final.given.flatten := by
  have output := (sound_run reached).output (by simp [success])
  have same : coded false = id := rfl
  rwa [success, ending, if_neg Bool.false_ne_true, List.append_nil, same, List.flatMap_id] at output

theorem encodes_of_chunked
    (reached : runFrom step { usesChunkedTransferEncoding := true } events = some final)
    (success : final.writing = .finished true) : Encodes crlf final.output final.given := by
  have output := (sound_run reached).output (by simp [success])
  have same : coded true = chunk := rfl
  rw [success, ending, if_pos rfl, same] at output
  rw [output]
  exact encodes_chunks (sound_run reached).nonempty

/-- What a response writes in chunks is a whole body, and gives a request that reads it the same
data. -/
theorem didReadChunks_output
    (reached : runFrom step { usesChunkedTransferEncoding := true } events = some final)
    (success : final.writing = .finished true)
    (small : ∀ data ∈ final.given, (data.length : Int) < NSIntegerMax)
    {request : GCDWebServerRequest} (accepts : ∀ data, request.performWriteData data = true)
    (connection : GCDWebServerConnection) :
    Encodes crlf final.output final.given ∧
      connection.didReadChunks request final.output =
        (connection.withData final.given).completionBlock request := by
  have encodes := encodes_of_chunked reached success
  have read := GCDWebServerConnection.readNextBodyChunk_read accepts encodes small connection
    (List.append_nil _) (Nat.lt_succ_self _)
  exact ⟨encodes, read.complete_of_whole⟩

end Runs

def samplePieces : List (List UInt8) :=
  [[0x61], List.replicate 20 0x62, crlf]

/-- A response that gives the pieces, all written. -/
def sampleWritten : ResponseWriter where
  usesChunkedTransferEncoding := true
  writing := .finished true
  given := samplePieces
  output := samplePieces.flatMap chunk ++ lastChunk

theorem didReadChunks_output_sampleWritten :
    Encodes crlf sampleWritten.output samplePieces ∧
      ({} : GCDWebServerConnection).didReadChunks (GCDWebServerConnection.sampleRequest true)
          sampleWritten.output =
        (({} : GCDWebServerConnection).withData samplePieces).completionBlock
          (GCDWebServerConnection.sampleRequest true) := by
  have reached : runFrom step { usesChunkedTransferEncoding := true }
      [.didReadData (some [0x61]), .written true, .didReadData (some (List.replicate 20 0x62)),
        .written true, .didReadData (some crlf), .written true, .didReadData (some []),
        .written true] = some sampleWritten := rfl
  have small : ∀ data ∈ sampleWritten.given, (data.length : Int) < NSIntegerMax := by
    decide
  exact didReadChunks_output reached rfl small (fun _ => rfl) {}

end ResponseWriter

end ConnectSDK
