import ConnectSDK.Frameworks.GCDWebServerConnection

/-! # The bodies of requests

What a request is given of its body when it is processed, however the bytes of the request are cut
into reads. A chunked body is lost if a read ends among its trailers, since the loop of
`_readNextBodyChunk:` looks for their end again and again without reading on.
-/

namespace ConnectSDK

open FirstOccurrence HexNumbers ChunkedCoding

namespace GCDWebServerConnection

/-! ## Sizes -/

theorem scanHexNumber_digits {digits : List UInt8} (nonempty : digits ≠ [])
    (all : ∀ digit ∈ digits, isHexByte digit = true)
    (small : (hexNumber digits : Int) < NSIntegerMax) :
    scanHexNumber digits = some (hexNumber digits) := by
  have whole : digits.takeWhile (· ≠ 0) = digits := by
    apply List.takeWhile_eq_self_iff.mpr
    intro digit member
    refine decide_eq_true ?_
    rintro rfl
    exact absurd (all 0 member) (by decide)
  have least : min (2 ^ 63 - 1) (hexNumber digits : Int) = hexNumber digits :=
    min_eq_right (Int.le_of_lt small)
  have different : (hexNumber digits : Int) ≠ NSIntegerMax := Int.ne_of_lt small
  rw [scanHexNumber, whole, strtol16_digits nonempty all, least]
  simp [different]

theorem chunkLength_of_sizeLine {line : List UInt8} {size : Nat} (sizeLine : SizeLine line size)
    (small : (size : Int) < NSIntegerMax) : chunkLength line = some size := by
  rcases sizeLine.digits with ⟨digits, extension, rfl, nonempty, all, rfl, ends⟩
  have unmarked : semicolon ∉ digits := by
    intro member
    have digit := all semicolon member
    revert digit
    decide
  have cut : (digits ++ extension).take
      ((firstIndex? [semicolon] (digits ++ extension)).getD (digits ++ extension).length) =
        digits := by
    rcases ends with rfl | marked
    · have absent : firstIndex? [semicolon] digits = none :=
        (firstIndex?_eq_none_iff (List.cons_ne_nil _ _) digits).mpr fun occurs =>
          unmarked (occurs.subset List.mem_cons_self)
      rw [List.append_nil, absent, Option.getD_none, List.take_length]
    · rcases List.head?_eq_some_iff.mp marked with ⟨more, rfl⟩
      have found := (ends_singleton unmarked).firstIndex? (List.cons_ne_nil _ _) more
      rw [List.append_assoc, List.singleton_append] at found
      rw [found]
      simp
  rw [chunkLength, cut, scanHexNumber_digits nonempty all small]

/-! ## Rounds of the loop -/

theorem chunkRound_of_short {line rest data missing : List UInt8}
    (ends : Ends crlf (line ++ crlf)) (split : data ++ missing = line ++ crlf ++ rest)
    (short : data.length < (line ++ crlf).length) : chunkRound data = .readsMore := by
  have absent : firstIndex? crlf data = none :=
    (firstIndex?_eq_none_iff crlf_ne_nil data).mpr (ends.not_infix split short)
  rw [chunkRound, absent]

theorem firstIndex?_line {line : List UInt8} (ends : Ends crlf (line ++ crlf))
    (more : List UInt8) : firstIndex? crlf (line ++ crlf ++ more) = some line.length := by
  rw [ends.firstIndex? crlf_ne_nil more, List.length_append, Nat.add_sub_cancel]

theorem chunkRound_last {line : List UInt8} (sizeLine : SizeLine line 0) (more : List UInt8) :
    chunkRound (line ++ crlf ++ more) =
      if (firstIndex? (crlf ++ crlf) (crlf ++ more)).isSome then .completes else .repeats := by
  have size : chunkLength ((line ++ crlf ++ more).take line.length) = some 0 := by
    rw [List.append_assoc, List.take_left]
    exact chunkLength_of_sizeLine sizeLine (by decide)
  have dropped : (line ++ crlf ++ more).drop line.length = crlf ++ more := by
    rw [List.append_assoc, List.drop_left]
  rw [chunkRound, firstIndex?_line sizeLine.ends]
  simp only [size, dropped]
  exact if_neg (not_not_intro rfl)

theorem chunkRound_chunk {line data : List UInt8} (sizeLine : SizeLine line data.length)
    (nonempty : data ≠ []) (small : (data.length : Int) < NSIntegerMax) {part : List UInt8} :
    chunkRound (line ++ crlf ++ part) =
      if part.length < data.length + 2 then .readsMore
      else if (part.drop data.length).take 2 = crlf then
        .chunk (part.take data.length) (part.drop (data.length + 2))
      else .completes := by
  have size : chunkLength ((line ++ crlf ++ part).take line.length) = some data.length := by
    rw [List.append_assoc, List.take_left]
    exact chunkLength_of_sizeLine sizeLine small
  have dropped (count : Nat) :
      (line ++ crlf ++ part).drop (line.length + crlf.length + count) = part.drop count := by
    rw [← List.length_append, ← List.drop_drop, List.drop_left]
  have positive : data.length ≠ 0 := fun zero => nonempty (List.length_eq_zero_iff.mp zero)
  have longer : (line ++ crlf ++ part).length < line.length + crlf.length + data.length + 2 ↔
      part.length < data.length + 2 := by
    simp only [List.length_append]
    omega
  have further : (line ++ crlf ++ part).drop (line.length + crlf.length + data.length + 2) =
      part.drop (data.length + 2) := by
    rw [Nat.add_assoc]
    exact dropped _
  have start := dropped 0
  rw [Nat.add_zero, List.drop_zero] at start
  rw [chunkRound, firstIndex?_line sizeLine.ends]
  simp only [size, if_pos positive, longer, dropped, start, further]

/-- With the trailers all there the loop ends, and with a part of them it never does. -/
theorem chunkRound_trailers {line trailers more missing : List UInt8} (sizeLine : SizeLine line 0)
    (ends : Ends (crlf ++ crlf) (crlf ++ trailers)) (split : more ++ missing = trailers) :
    chunkRound (line ++ crlf ++ more) = if missing = [] then .completes else .repeats := by
  rw [chunkRound_last sizeLine more]
  by_cases all : missing = []
  · rw [all, List.append_nil] at split
    have found := ends.firstIndex? emptyLine_ne_nil []
    rw [List.append_nil, ← split] at found
    rw [found, if_pos all]
    rfl
  · have whole : (crlf ++ more) ++ missing = (crlf ++ trailers) ++ [] := by
      rw [List.append_assoc, split, List.append_nil]
    have short : (crlf ++ more).length < (crlf ++ trailers).length := by
      have positive := List.length_pos_iff.mpr all
      rw [← split]
      simp only [List.length_append]
      omega
    have absent : firstIndex? (crlf ++ crlf) (crlf ++ more) = none :=
      (firstIndex?_eq_none_iff emptyLine_ne_nil _).mpr (ends.not_infix whole short)
    rw [absent, if_neg all]
    rfl

theorem chunkRound_whole {line data : List UInt8} (sizeLine : SizeLine line data.length)
    (nonempty : data ≠ []) (small : (data.length : Int) < NSIntegerMax) (later : List UInt8) :
    chunkRound (line ++ crlf ++ (data ++ crlf ++ later)) = .chunk data later := by
  have enough : ¬(data ++ crlf ++ later).length < data.length + 2 := by
    simp only [List.length_append, length_crlf]
    omega
  have ending : ((data ++ crlf ++ later).drop data.length).take 2 = crlf := by
    rw [List.append_assoc, List.drop_left]
    rfl
  have taken : (data ++ crlf ++ later).take data.length = data := by
    rw [List.append_assoc, List.take_left]
  have dropped : (data ++ crlf ++ later).drop (data.length + 2) = later := by
    have same : data.length + 2 = (data ++ crlf).length := by
      rw [List.length_append, length_crlf]
    rw [same, List.drop_left]
  rw [chunkRound_chunk sizeLine nonempty small, if_neg enough, if_pos ending, taken, dropped]

/-! ## The loop -/

def withData (chunks : List (List UInt8)) (connection : GCDWebServerConnection) :
    GCDWebServerConnection :=
  { connection with bodyData := connection.bodyData ++ chunks }

theorem withData_nil (connection : GCDWebServerConnection) :
    connection.withData [] = connection := by
  rw [withData, List.append_nil]

theorem writeData_withData (connection : GCDWebServerConnection) (data : List UInt8)
    (chunks : List (List UInt8)) :
    (connection.writeData data).withData chunks = connection.withData (data :: chunks) := by
  simp [withData, writeData]

theorem withData_withData (connection : GCDWebServerConnection) (done left : List (List UInt8)) :
    (connection.withData done).withData left = connection.withData (done ++ left) := by
  rw [withData, withData, withData, List.append_assoc]

theorem withData_wait (connection : GCDWebServerConnection) (awaiting : Awaiting)
    (chunks : List (List UInt8)) :
    (connection.wait awaiting).withData chunks = (connection.withData chunks).wait awaiting :=
  rfl

theorem completionBlock_wait (request : GCDWebServerRequest) (connection : GCDWebServerConnection)
    (awaiting : Awaiting) :
    completionBlock request (connection.wait awaiting) = completionBlock request connection :=
  rfl

/-- What the loop comes to while `missing` is still to come of a body. -/
inductive ChunksRead (request : GCDWebServerRequest) (trailers : List UInt8)
    (before : GCDWebServerConnection) (missing : List UInt8) (chunks : List (List UInt8)) :
    GCDWebServerConnection → Prop where
  | complete (all : missing = []) :
      ChunksRead request trailers before missing chunks
        (completionBlock request (before.withData chunks))
  | stuck (remains : missing ≠ []) (among : missing.length ≤ trailers.length) :
      ChunksRead request trailers before missing chunks
        ((before.withData chunks).wait .forever)
  | waits {done left : List (List UInt8)} {data rest : List UInt8}
      (more : trailers.length < missing.length) (parts : chunks = done ++ left)
      (encodes : Encodes trailers rest left) (split : data ++ missing = rest) :
      ChunksRead request trailers before missing chunks
        ((before.withData done).wait (.chunk request data))

theorem ChunksRead.cons {request : GCDWebServerRequest} {trailers missing data : List UInt8}
    {before after : GCDWebServerConnection} {chunks : List (List UInt8)}
    (read : ChunksRead request trailers (before.writeData data) missing chunks after) :
    ChunksRead request trailers before missing (data :: chunks) after := by
  cases read with
  | complete all =>
      rw [writeData_withData]
      exact .complete all
  | stuck remains among =>
      rw [writeData_withData]
      exact .stuck remains among
  | waits more parts encodes split =>
      rw [writeData_withData]
      exact .waits more (congrArg (data :: ·) parts) encodes split

theorem chunksRead_start {request : GCDWebServerRequest} {trailers bytes data missing : List UInt8}
    {chunks : List (List UInt8)} (before : GCDWebServerConnection)
    (more : trailers.length < missing.length) (encodes : Encodes trailers bytes chunks)
    (split : data ++ missing = bytes) :
    ChunksRead request trailers before missing chunks (before.wait (.chunk request data)) := by
  have waits : ChunksRead request trailers before missing chunks
      ((before.withData []).wait (.chunk request data)) :=
    .waits more (List.nil_append chunks).symm encodes split
  rwa [withData_nil] at waits

/-- What the loop makes of a part of a chunked body, by induction on how the body is encoded. -/
theorem readNextBodyChunk_read {request : GCDWebServerRequest} {trailers bytes : List UInt8}
    {chunks : List (List UInt8)} (accepts : ∀ data, request.performWriteData data = true)
    (encodes : Encodes trailers bytes chunks)
    (small : ∀ chunk ∈ chunks, (chunk.length : Int) < NSIntegerMax) :
    ∀ {rounds : Nat} {data missing : List UInt8} (before : GCDWebServerConnection),
      data ++ missing = bytes → data.length < rounds →
        ChunksRead request trailers before missing chunks
          (readNextBodyChunk request rounds data before) := by
  induction encodes with
  | @last line size ends =>
      intro rounds data missing before split enough
      obtain ⟨rounds, rfl⟩ :=
        Nat.exists_eq_succ_of_ne_zero (Nat.ne_of_gt (Nat.zero_lt_of_lt enough))
      have sums := congrArg List.length split
      have split' := split
      rw [← List.append_assoc] at split'
      by_cases short : data.length < (line ++ crlf).length
      · rw [readNextBodyChunk, chunkRound_of_short size.ends split' short]
        refine chunksRead_start before ?_ (.last size ends) split
        simp only [List.length_append] at sums short
        omega
      · rcases exists_of_split split' (Nat.le_of_not_lt short) with ⟨more, rfl, tail⟩
        rw [readNextBodyChunk, chunkRound_trailers size ends tail]
        -- The last size line is there: only the trailers can be cut.
        by_cases all : missing = []
        · rw [if_pos all]
          have complete : ChunksRead request trailers before missing []
              (completionBlock request (before.withData [])) := .complete all
          rwa [withData_nil] at complete
        · rw [if_neg all]
          have among : missing.length ≤ trailers.length := by
            rw [← tail, List.length_append]
            exact Nat.le_add_left _ _
          have stuck : ChunksRead request trailers before missing []
              ((before.withData []).wait .forever) := .stuck all among
          rwa [withData_nil] at stuck
  | @chunk line chunk rest chunks size nonempty more induction =>
      intro rounds data missing before split enough
      obtain ⟨rounds, rfl⟩ :=
        Nat.exists_eq_succ_of_ne_zero (Nat.ne_of_gt (Nat.zero_lt_of_lt enough))
      have sums := congrArg List.length split
      have tail := more.length_le
      have split' := split
      rw [← List.append_assoc] at split'
      have here : (chunk.length : Int) < NSIntegerMax := small chunk List.mem_cons_self
      by_cases short : data.length < (line ++ crlf).length
      · rw [readNextBodyChunk, chunkRound_of_short size.ends split' short]
        refine chunksRead_start before ?_ (.chunk size nonempty more) split
        simp only [List.length_append] at sums short
        omega
      · rcases exists_of_split split' (Nat.le_of_not_lt short) with ⟨part, rfl, parts⟩
        have parts' := parts
        rw [← List.append_assoc] at parts'
        by_cases few : part.length < (chunk ++ crlf).length
        · have fewer : part.length < chunk.length + 2 := by
            rwa [List.length_append] at few
          rw [readNextBodyChunk, chunkRound_chunk size nonempty here, if_pos fewer]
          refine chunksRead_start before ?_ (.chunk size nonempty more) split
          have lengths := congrArg List.length parts
          simp only [List.length_append, length_crlf] at lengths
          omega
        · rcases exists_of_split parts' (Nat.le_of_not_lt few) with ⟨later, rfl, others⟩
          rw [readNextBodyChunk, chunkRound_whole size nonempty here]
          dsimp only
          rw [if_pos (accepts _)]
          apply ChunksRead.cons
          apply induction (fun other member => small other (List.mem_cons_of_mem _ member)) _ others
          simp only [List.length_append, length_crlf] at enough
          omega

theorem ChunksRead.withData {request : GCDWebServerRequest} {trailers missing : List UInt8}
    {before after : GCDWebServerConnection} {done left : List (List UInt8)}
    (read : ChunksRead request trailers (before.withData done) missing left after) :
    ChunksRead request trailers before missing (done ++ left) after := by
  cases read with
  | complete all =>
      rw [withData_withData]
      exact .complete all
  | stuck remains among =>
      rw [withData_withData]
      exact .stuck remains among
  | waits more parts encodes split =>
      rw [withData_withData]
      refine .waits more ?_ encodes split
      rw [parts, List.append_assoc]

/-- What the connection waited for before does not matter. -/
theorem ChunksRead.of_wait {request : GCDWebServerRequest} {trailers missing : List UInt8}
    {before after : GCDWebServerConnection} {chunks : List (List UInt8)} {awaiting : Awaiting}
    (read : ChunksRead request trailers (before.wait awaiting) missing chunks after) :
    ChunksRead request trailers before missing chunks after := by
  cases read with
  | complete all =>
      rw [withData_wait, completionBlock_wait]
      exact .complete all
  | stuck remains among => exact .stuck remains among
  | waits more parts encodes split => exact .waits more parts encodes split

theorem ChunksRead.complete_of_whole {request : GCDWebServerRequest} {trailers : List UInt8}
    {before after : GCDWebServerConnection} {chunks : List (List UInt8)}
    (read : ChunksRead request trailers before [] chunks after) :
    after = completionBlock request (before.withData chunks) := by
  cases read with
  | complete => rfl
  | stuck remains => exact absurd rfl remains
  | waits more => exact absurd more (Nat.not_lt_zero _)

/-! ## Runs -/

theorem flatten_eq_nil_of_nonempty {reads : List (List UInt8)}
    (nonempty : ∀ data ∈ reads, data ≠ []) (all : reads.flatten = []) : reads = [] := by
  cases reads with
  | nil => rfl
  | cons data reads =>
      rw [List.flatten_cons, List.append_eq_nil_iff] at all
      exact absurd all.1 (nonempty data List.mem_cons_self)

theorem didRead_nonempty (parser : MessageParser) (connection : GCDWebServerConnection)
    {data : List UInt8} (nonempty : data ≠ []) :
    connection.didRead parser data =
      match connection.awaiting with
      | .headers headersData => some (readHeaders parser (headersData ++ data) connection)
      | .body request length =>
          if data.length ≤ length then some (didReadBody request length data connection) else none
      | .chunk request chunkData => some (didReadChunks request (chunkData ++ data) connection)
      | _ => none := by
  have holds : data.isEmpty = false := by
    rw [List.isEmpty_eq_false_iff]
    exact nonempty
  rw [didRead, holds]
  exact if_neg Bool.false_ne_true

/-- What the head of a request makes of it, and a writer that takes the whole body. -/
structure Accepts (parser : MessageParser) (head : List UInt8) (request : GCDWebServerRequest) :
    Prop where
  ends : Ends (crlf ++ crlf) head
  parsed : parser head = some { hasAllParts := true, expectHeader := none, request := some request }
  hasBody : request.hasBody = true
  performOpen : request.performOpen = true
  performWriteData : ∀ data, request.performWriteData data = true
  performClose : ∀ data, request.performClose data = true

section Runs

variable {parser : MessageParser} {head : List UInt8} {request : GCDWebServerRequest}

theorem Accepts.length_head (accepts : Accepts parser head request) :
    ([] : List UInt8).length < head.length :=
  Nat.lt_of_lt_of_le (by decide) accepts.ends.occurs.length_le

theorem Accepts.opens (accepts : Accepts parser head request) :
    (!request.performOpen) = false := by
  rw [accepts.performOpen]
  rfl

def runReads (parser : MessageParser) (connection : GCDWebServerConnection)
    (reads : List (List UInt8)) : Option GCDWebServerConnection :=
  runFrom (step parser) connection (reads.map ConnectionEvent.read)

/-- No read ends among the last bytes. -/
def NoneEndsAmong (count : Nat) (reads : List (List UInt8)) : Prop :=
  ∀ back, back <:+ reads → back ≠ [] → count < back.flatten.length

instance (count : Nat) (reads : List (List UInt8)) : Decidable (NoneEndsAmong count reads) :=
  decidable_of_iff (∀ back ∈ reads.tails, back ≠ [] → count < back.flatten.length) <| by
    simp only [NoneEndsAmong, List.mem_tails]

theorem noneEndsAmong_cons_iff {count : Nat} {data : List UInt8} {reads : List (List UInt8)}
    (more : count < (data :: reads).flatten.length) :
    NoneEndsAmong count (data :: reads) ↔ NoneEndsAmong count reads := by
  constructor
  · intro apart back ends
    exact apart back (ends.trans (List.suffix_cons data reads))
  · intro apart back ends holds
    rcases List.suffix_cons_iff.mp ends with rfl | later
    · exact more
    · exact apart back later holds

theorem runReads_cons {connection : GCDWebServerConnection} {data : List UInt8}
    (reads : List (List UInt8)) :
    runReads parser connection (data :: reads) =
      (connection.didRead parser data).bind (runReads parser · reads) := by
  rw [runReads, List.map_cons, runFrom, step]
  cases connection.didRead parser data <;> rfl

theorem runFrom_readFailed : ∀ (connection : GCDWebServerConnection) (reads : List (List UInt8)),
    runFrom (step parser) connection (reads.map .read ++ [.readFailed]) =
      (runReads parser connection reads).bind didFailToRead
  | connection, [] => by
      rw [List.map_nil, List.nil_append, runFrom, step, runReads, List.map_nil, runFrom,
        Option.bind_some]
      cases connection.didFailToRead <;> rfl
  | connection, data :: reads => by
      rw [List.map_cons, List.cons_append, runFrom, step, runReads_cons]
      cases connection.didRead parser data with
      | none => rfl
      | some next => exact runFrom_readFailed next reads

theorem completionBlock_processed (accepts : Accepts parser head request)
    (connection : GCDWebServerConnection) :
    (completionBlock request connection).processed =
      connection.processed ++ [connection.bodyData.flatten] := by
  rw [completionBlock, if_pos (accepts.performClose _), startProcessingRequest]

/-- The rest of a chunked body. -/
theorem run_chunks {trailers : List UInt8} {chunks : List (List UInt8)}
    (accepts : Accepts parser head request) {before : GCDWebServerConnection}
    (small : ∀ chunk ∈ chunks, (chunk.length : Int) < NSIntegerMax) :
    ∀ {reads : List (List UInt8)} {connection : GCDWebServerConnection},
      (∀ data ∈ reads, data ≠ []) →
      ChunksRead request trailers before reads.flatten chunks connection →
        ((∃ final, runReads parser connection reads = some final ∧
            final.processed = before.processed ++ [(before.bodyData ++ chunks).flatten]) ↔
          NoneEndsAmong trailers.length reads) := by
  intro reads
  induction reads with
  | nil =>
      intro connection _ read
      cases read with
      | complete all =>
          refine ⟨fun _ back ends holds => absurd (List.suffix_nil.mp ends) holds, fun _ => ?_⟩
          exact ⟨_, rfl, completionBlock_processed accepts _⟩
      | stuck remains _ => exact absurd rfl remains
      | waits more => exact absurd more (Nat.not_lt_zero _)
  | cons data reads induction =>
      intro connection nonempty read
      have here := nonempty data List.mem_cons_self
      have later : ∀ data ∈ reads, data ≠ [] := fun other member =>
        nonempty other (List.mem_cons_of_mem _ member)
      cases read with
      | complete all =>
          exact absurd (flatten_eq_nil_of_nonempty nonempty all) (List.cons_ne_nil _ _)
      | stuck remains among =>
          constructor
          · rintro ⟨final, reached, _⟩
            rw [runReads_cons, didRead_nonempty _ _ here] at reached
            cases reached
          · intro apart
            exact absurd (apart _ List.suffix_rfl (List.cons_ne_nil _ _)) (Nat.not_lt.mpr among)
      | @waits done left chunkData rest more parts encodes split =>
          have taken := didRead_nonempty parser
            ((before.withData done).wait (.chunk request chunkData)) here
          have whole : (chunkData ++ data) ++ reads.flatten = rest := by
            rw [List.append_assoc]
            exact split
          have smaller : ∀ chunk ∈ left, (chunk.length : Int) < NSIntegerMax := fun chunk member =>
            small chunk (parts ▸ List.mem_append_right done member)
          have next := readNextBodyChunk_read accepts.performWriteData encodes smaller
            ((before.withData done).wait (.chunk request chunkData)) whole (Nat.lt_succ_self _)
          have next := next.of_wait.withData
          rw [← parts] at next
          rw [runReads_cons, taken, noneEndsAmong_cons_iff more]
          exact induction later next

/-- A part of a body of a known length. -/
theorem run_body (accepts : Accepts parser head request) (more : Nat) :
    ∀ {reads : List (List UInt8)} (connection : GCDWebServerConnection),
      (∀ data ∈ reads, data ≠ []) →
        runReads parser (continueBody request (reads.flatten.length + more) connection) reads =
          some (continueBody request more (connection.withData reads)) := by
  intro reads
  induction reads with
  | nil =>
      intro connection _
      rw [List.flatten_nil, List.length_nil, Nat.zero_add, withData_nil]
      rfl
  | cons data reads induction =>
      intro connection nonempty
      have here := nonempty data List.mem_cons_self
      have fits : data.length ≤ (data :: reads).flatten.length + more := by
        rw [List.flatten_cons, List.length_append]
        omega
      have positive : (data :: reads).flatten.length + more ≠ 0 := by
        have positive := List.length_pos_iff.mpr here
        omega
      have remaining : (data :: reads).flatten.length + more - data.length =
          reads.flatten.length + more := by
        rw [List.flatten_cons, List.length_append]
        omega
      have taken := didRead_nonempty parser
        (connection.wait (.body request ((data :: reads).flatten.length + more))) here
      have rest := induction (connection.writeData data) fun other member =>
        nonempty other (List.mem_cons_of_mem _ member)
      rw [writeData_withData] at rest
      rw [continueBody, if_pos positive, runReads_cons, taken]
      dsimp only [wait]
      rw [if_pos fits, Option.bind_some, didReadBody, if_pos fits]
      dsimp only
      rw [if_pos (accepts.performWriteData _), remaining]
      exact rest

/-- The reads up to the one that ends the head. -/
theorem run_untilBody (accepts : Accepts parser head request) {body : List UInt8} :
    ∀ {reads : List (List UInt8)} {headersData : List UInt8} (connection : GCDWebServerConnection),
      (∀ data ∈ reads, data ≠ []) → headersData ++ reads.flatten = head ++ body →
      headersData.length < head.length →
        ∃ extraData rest, extraData ++ rest.flatten = body ∧ (∀ data ∈ rest, data ≠ []) ∧
          (∀ count, count ≤ body.length → (NoneEndsAmong count reads ↔ NoneEndsAmong count rest)) ∧
          ∃ awaiting, runReads parser (connection.wait (.headers headersData)) reads =
            runReads parser (didReadHeaders
              { hasAllParts := true, expectHeader := none, request := some request } extraData
              (connection.wait awaiting)) rest := by
  intro reads
  induction reads with
  | nil =>
      intro headersData connection _ split short
      have lengths := congrArg List.length split
      simp only [List.flatten_nil, List.append_nil, List.length_append] at lengths
      omega
  | cons data reads induction =>
      intro headersData connection nonempty split short
      have here := nonempty data List.mem_cons_self
      have later : ∀ data ∈ reads, data ≠ [] := fun other member =>
        nonempty other (List.mem_cons_of_mem _ member)
      have more : ∀ count, count ≤ body.length → count < (data :: reads).flatten.length := by
        intro count least
        have lengths := congrArg List.length split
        rw [List.length_append, List.length_append] at lengths
        omega
      have whole : (headersData ++ data) ++ reads.flatten = head ++ body := by
        rw [List.append_assoc]
        exact split
      have taken := didRead_nonempty parser (connection.wait (.headers headersData)) here
      rw [runReads_cons, taken]
      dsimp only [wait]
      rw [Option.bind_some, readHeaders]
      by_cases still : (headersData ++ data).length < head.length
      · have absent : firstIndex? (crlf ++ crlf) (headersData ++ data) = none :=
          (firstIndex?_eq_none_iff emptyLine_ne_nil _).mpr
            (accepts.ends.not_infix whole still)
        rw [absent]
        rcases induction connection later whole still with
          ⟨extraData, rest, parts, nonemptyRest, same, awaiting, reached⟩
        refine ⟨extraData, rest, parts, nonemptyRest, fun count least => ?_, awaiting, reached⟩
        exact (noneEndsAmong_cons_iff (more count least)).trans (same count least)
      · rcases exists_of_split whole (Nat.le_of_not_lt still) with ⟨extraData, all, parts⟩
        have found := accepts.ends.firstIndex? emptyLine_ne_nil extraData
        have length : head.length - (crlf ++ crlf).length + (crlf ++ crlf).length = head.length :=
          Nat.sub_add_cancel accepts.ends.occurs.length_le
        rw [all, found]
        dsimp only
        rw [length, List.take_left, List.drop_left, accepts.parsed]
        exact ⟨extraData, reads, parts, later,
          fun count least => noneEndsAmong_cons_iff (more count least), _, rfl⟩

end Runs

/-! ## Requests -/

section Requests

variable {parser : MessageParser} {head body : List UInt8} {request : GCDWebServerRequest}
  {reads : List (List UInt8)}

/-- A chunked body comes whole to the request exactly if no read ends among its trailers. -/
theorem processed_chunks_iff {trailers : List UInt8} {chunks : List (List UInt8)}
    (accepts : Accepts parser head request)
    (chunked : request.usesChunkedTransferEncoding = true)
    (encodes : Encodes trailers body chunks)
    (small : ∀ chunk ∈ chunks, (chunk.length : Int) < NSIntegerMax)
    (nonempty : ∀ data ∈ reads, data ≠ []) (split : reads.flatten = head ++ body) :
    (∃ final, runReads parser {} reads = some final ∧ final.processed = [chunks.flatten]) ↔
      NoneEndsAmong trailers.length reads := by
  rcases run_untilBody accepts {} nonempty split accepts.length_head with
    ⟨extraData, rest, parts, later, same, awaiting, reached⟩
  have read := readNextBodyChunk_read accepts.performWriteData encodes small
    (({} : GCDWebServerConnection).wait awaiting) parts (Nat.lt_succ_self _)
  have whole := run_chunks accepts small later read.of_wait
  have start : runReads parser {} reads = runReads parser (readNextBodyChunk request
      (extraData.length + 1) extraData (({} : GCDWebServerConnection).wait awaiting)) rest := by
    refine reached.trans ?_
    rw [didReadHeaders, if_pos rfl]
    dsimp only
    rw [if_pos accepts.hasBody, chunked, Bool.true_or, if_pos rfl, readBody, if_pos chunked,
      readChunkedBodyWithInitialData, accepts.opens, if_neg Bool.false_ne_true, didReadChunks]
  rw [start, same _ encodes.length_le]
  exact whole

/-- The reads of a part of a body of a known length. -/
theorem run_plain {part : List UInt8} {more : Nat} (accepts : Accepts parser head request)
    (plain : request.usesChunkedTransferEncoding = false)
    (length : request.contentLength = part.length + more)
    (nonempty : ∀ data ∈ reads, data ≠ []) (split : reads.flatten = head ++ part) :
    ∃ connection, runReads parser {} reads = some (continueBody request more connection) ∧
      connection.bodyData.flatten = part ∧ connection.processed = [] := by
  rcases run_untilBody accepts {} nonempty split accepts.length_head with
    ⟨extraData, rest, parts, later, _, awaiting, reached⟩
  have sum : part.length = extraData.length + rest.flatten.length := by
    rw [← parts, List.length_append]
  have fits : extraData.length ≤ request.contentLength := by
    omega
  have remaining : request.contentLength - extraData.length = rest.flatten.length + more := by
    omega
  have begins : didReadHeaders
      { hasAllParts := true, expectHeader := none, request := some request } extraData
        (({} : GCDWebServerConnection).wait awaiting) =
      readBodyWithLength request request.contentLength extraData
        (({} : GCDWebServerConnection).wait awaiting) := by
    rw [didReadHeaders, if_pos rfl]
    dsimp only
    rw [if_pos accepts.hasBody, plain, Bool.false_or, if_pos (decide_eq_true fits), readBody, plain,
      if_neg Bool.false_ne_true]
  have start : runReads parser {} reads = _ :=
    reached.trans (congrArg (runReads parser · rest) begins)
  rw [start, readBodyWithLength, accepts.opens, if_neg Bool.false_ne_true]
  by_cases present : extraData.length ≠ 0
  · rw [if_pos present]
    dsimp only
    rw [if_pos (accepts.performWriteData _), remaining, run_body accepts more _ later]
    refine ⟨_, rfl, ?_, rfl⟩
    rw [← parts]
    simp [withData, writeData, wait]
  · have absent := List.length_eq_zero_iff.mp (not_not.mp present)
    subst absent
    rw [List.length_nil, Nat.sub_zero] at remaining
    rw [if_neg present, remaining, run_body accepts more _ later]
    refine ⟨_, rfl, ?_, rfl⟩
    rw [← parts]
    simp [withData, wait]

/-- A body of a known length always comes whole to the request. -/
theorem processed_body (accepts : Accepts parser head request)
    (plain : request.usesChunkedTransferEncoding = false)
    (length : request.contentLength = body.length)
    (nonempty : ∀ data ∈ reads, data ≠ []) (split : reads.flatten = head ++ body) :
    ∃ final, runReads parser {} reads = some final ∧ final.processed = [body] := by
  rcases run_plain accepts plain (length.trans (Nat.add_zero _).symm) nonempty split with
    ⟨connection, reached, written, fresh⟩
  refine ⟨_, reached, (completionBlock_processed accepts connection).trans ?_⟩
  rw [written, fresh]
  rfl

/-- A request whose body was cut short is processed like any other. -/
theorem processed_cutShort {part : List UInt8} (accepts : Accepts parser head request)
    (plain : request.usesChunkedTransferEncoding = false)
    (short : part.length < request.contentLength)
    (nonempty : ∀ data ∈ reads, data ≠ []) (split : reads.flatten = head ++ part) :
    ∃ final, runFrom (step parser) {} (reads.map .read ++ [.readFailed]) = some final ∧
      final.processed = [part] := by
  rcases Nat.exists_eq_add_of_lt short with ⟨more, length⟩
  rcases run_plain accepts plain (length.trans (Nat.add_assoc ..)) nonempty split with
    ⟨connection, reached, written, fresh⟩
  refine ⟨completionBlock request connection, ?_, ?_⟩
  · rw [runFrom_readFailed, reached]
    rfl
  · rw [completionBlock_processed accepts, written, fresh]
    rfl

end Requests

/-! ## A request in several reads -/

/-- `GET` and the empty line that ends a head. -/
def sampleHead : List UInt8 :=
  [0x47, 0x45, 0x54] ++ (crlf ++ crlf)

def sampleRequest (chunked : Bool) : GCDWebServerRequest where
  hasBody := true
  usesChunkedTransferEncoding := chunked
  contentLength := 3
  performOpen := true
  performWriteData _ := true
  performClose _ := true

def sampleParser (chunked : Bool) : MessageParser := fun bytes =>
  if bytes = sampleHead then
    some { hasAllParts := true, expectHeader := none, request := some (sampleRequest chunked) }
  else none

theorem sample_accepts (chunked : Bool) :
    Accepts (sampleParser chunked) sampleHead (sampleRequest chunked) where
  ends := ⟨List.suffix_append _ _, by decide⟩
  parsed := if_pos rfl
  hasBody := rfl
  performOpen := rfl
  performWriteData _ := rfl
  performClose _ := rfl

/-- A field and the empty line that ends a body. -/
def sampleTrailers : List UInt8 :=
  [0x54, 0x3A, 0x76] ++ (crlf ++ crlf)

/-- The first chunk has an extension. -/
def sampleBody : List UInt8 :=
  [0x32, semicolon, 0x78] ++ (crlf ++ ([0x61, 0x62] ++ (crlf ++
    ([0x31] ++ (crlf ++ ([0x63] ++ (crlf ++ ([0x30] ++ (crlf ++ sampleTrailers)))))))))

theorem sizeLine_digit {digit : UInt8} (isHex : isHexByte digit = true) {extension : List UInt8}
    (noReturn : (0x0D : UInt8) ∉ digit :: extension)
    (marked : extension = [] ∨ extension.head? = some semicolon) :
    SizeLine (digit :: extension) (hexNumber [digit]) where
  ends := ends_crlf noReturn
  digits := ⟨[digit], extension, rfl, List.cons_ne_nil _ _,
    fun _ member => List.mem_singleton.mp member ▸ isHex, rfl, marked⟩

theorem sample_encodes : Encodes sampleTrailers sampleBody [[0x61, 0x62], [0x63]] :=
  .chunk (sizeLine_digit (by decide) (by decide) (.inr rfl)) (List.cons_ne_nil _ _)
    (.chunk (sizeLine_digit (by decide) (by decide) (.inl rfl)) (List.cons_ne_nil _ _)
      (.last (sizeLine_digit (by decide) (by decide) (.inl rfl)) ⟨by decide, by decide⟩))

/-- The last piece has all of the trailers, or the trailers come in two. -/
theorem processed_chunks_iff_sampleReads :
    (∃ final, runReads (sampleParser true) {}
        [sampleHead ++ sampleBody.take 2, (sampleBody.drop 2).take 6, sampleBody.drop 8] =
          some final ∧ final.processed = [[0x61, 0x62, 0x63]]) ∧
      ¬ ∃ final, runReads (sampleParser true) {}
        [sampleHead ++ sampleBody.take 2, (sampleBody.drop 2).take 6, (sampleBody.drop 8).take 13,
          sampleBody.drop 21] = some final ∧ final.processed = [[0x61, 0x62, 0x63]] := by
  have small : ∀ chunk ∈ [[(0x61 : UInt8), 0x62], [0x63]], (chunk.length : Int) < NSIntegerMax := by
    decide
  constructor
  · exact (processed_chunks_iff (sample_accepts true) rfl sample_encodes small (by decide)
      (by decide)).mpr (by decide)
  · exact mt (processed_chunks_iff (sample_accepts true) rfl sample_encodes small (by decide)
      (by decide)).mp (by decide)

theorem processed_body_sampleReads :
    ∃ final, runReads (sampleParser false) {} [sampleHead ++ [0x61], [0x62], [0x63]] =
      some final ∧ final.processed = [[0x61, 0x62, 0x63]] :=
  processed_body (sample_accepts false) rfl rfl (by decide) rfl

theorem processed_cutShort_sampleReads :
    ∃ final, runFrom (step (sampleParser false)) {}
        ([sampleHead ++ [0x61], [0x62]].map .read ++ [.readFailed]) = some final ∧
      final.processed = [[0x61, 0x62]] :=
  processed_cutShort (sample_accepts false) rfl (by decide) (by decide) rfl

end GCDWebServerConnection

end ConnectSDK
