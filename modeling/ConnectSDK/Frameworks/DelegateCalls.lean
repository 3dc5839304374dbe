import ConnectSDK.Frameworks.SocketStates

/-! # What a web socket's delegate is told

Every method of the socket keeps its invariant, and so does every run of its queues.
-/

namespace ConnectSDK

namespace SocketRocket

/-! ## Faults -/

namespace WorkBlock

/-- What the block fails for its owner: that there is something to send. -/
def faults : WorkBlock → List Assertion
  | .send none => [.dataToSend]
  | _ => []

theorem eq_send_of_faults (block : WorkBlock) (loud : block.faults ≠ []) : block = .send none := by
  cases block with
  | send data =>
      cases data with
      | none => rfl
      | some => exact absurd rfl loud
  | _ => exact absurd rfl loud

end WorkBlock

namespace LGSRWebSocket

/-- What the owner makes fail: it opens a socket again, it sends before the socket is open, or it
has sent nothing. -/
def faults (socket : LGSRWebSocket) : SocketEvent → List Assertion
  | .open => if socket.readyState = .connecting then [] else [.openWhileConnecting]
  | .send _ => if socket.readyState = .connecting then [.sendAfterConnecting] else []
  | .runWorkBlock => (socket.workQueue.head?.map WorkBlock.faults).getD []
  | _ => []

def runFaults (platform : Platform) : LGSRWebSocket → List SocketEvent → List Assertion
  | _, [] => []
  | socket, event :: events =>
      socket.faults event ++ runFaults platform (socket.step platform event) events

variable {platform : Platform} {faults : List Assertion} {budget : Nat} {socket : LGSRWebSocket}

/-! ## Queues -/

theorem assert_of_true {holds : Bool} (isTrue : holds = true) (assertion : Assertion)
    (socket : LGSRWebSocket) : socket.assert holds assertion = socket :=
  if_pos isTrue

theorem assert_of_false {holds : Bool} (isFalse : holds = false) (assertion : Assertion)
    (socket : LGSRWebSocket) : socket.assert holds assertion =
      { socket with failedAssertions := socket.failedAssertions ++ [assertion] } :=
  if_neg (ne_true_of_eq_false isFalse)

@[simp] theorem assert_readyState (holds : Bool) (assertion : Assertion) (socket : LGSRWebSocket) :
    (socket.assert holds assertion).readyState = socket.readyState := by
  unfold assert
  split <;> rfl

/-- What does not hold counts among the faults. -/
theorem sound_assert (sound : socket.control.Sound faults budget) (holds : Bool)
    {assertion : Assertion} (other : assertion ≠ .maskKeyBytes) :
    (socket.assert holds assertion).control.Sound
      (faults ++ if holds then [] else [assertion]) budget := by
  unfold assert
  split
  · rw [List.append_nil]
    exact sound
  · exact sound.fault other

theorem control_performDelegateBlock (block : DelegateBlock) (socket : LGSRWebSocket) :
    (socket.performDelegateBlock block).control = socket.control.tell block.kind.toList := by
  have calls : (socket.performDelegateBlock block).control.calls =
      socket.control.calls ++ block.kind.toList := by
    simp only [performDelegateBlock, control, List.filterMap_append, ← List.append_assoc]
    cases kind : block.kind <;> simp [kind]
  exact congrArg (fun calls => { socket.control with calls }) calls

theorem sound_performQuietly (sound : socket.control.Sound faults budget) {block : DelegateBlock}
    (quiet : block.kind = none) :
    (socket.performDelegateBlock block).control.Sound faults budget := by
  rw [control_performDelegateBlock, quiet, Option.toList_none, Control.tell, List.append_nil]
  exact sound

theorem sound_handleMessage (sound : socket.control.Sound faults budget)
    (opened : socket.readyState = .open) (message : WebSocket.Message) :
    (socket.handleMessage message).control.Sound faults budget := by
  rw [handleMessage, control_performDelegateBlock]
  exact sound.message opened

theorem sound_dispatch {block : WorkBlock}
    (sound : socket.control.Sound faults (budget + block.openings)) (plain : block.IsPlain) :
    (socket.dispatch block).control.Sound faults budget :=
  sound.push_plain plain

theorem sound_failWithError (sound : socket.control.Sound faults budget) (error : NSError) :
    (socket.failWithError error).control.Sound faults budget :=
  sound_dispatch sound ⟨rfl, nofun, nofun⟩

theorem sound_closeWithCode (sound : socket.control.Sound faults budget) (code : Int)
    (reason : Option String) : (socket.closeWithCode code reason).control.Sound faults budget :=
  @sound_dispatch faults budget socket.scheduleCleanup (.closeWithCode code reason) sound
    ⟨rfl, nofun, nofun⟩

theorem sound_closing (sound : socket.control.Sound faults budget) (code : Int)
    (reason : Option String) :
    ((socket.closeWithCode code reason).dispatch .closeConnection).control.Sound faults budget :=
  sound.push_closing code reason

theorem sound_closeWithProtocolError (sound : socket.control.Sound faults budget)
    (message : String) : (socket.closeWithProtocolError message).control.Sound faults budget :=
  sound_performQuietly sound rfl

/-! ## Writing -/

theorem steady_finishWriting (steady : socket.control.Steady faults budget) :
    socket.finishWriting.control.Steady faults budget ∧
      socket.finishWriting.readyState = socket.readyState ∧
      socket.finishWriting.workQueue = socket.workQueue := by
  unfold finishWriting
  split
  · rename_i finishes
    simp only [Bool.and_eq_true, Bool.not_eq_true'] at finishes
    rcases finishes with ⟨⟨⟨closes, _⟩, _⟩, unsent⟩
    dsimp only
    by_cases failed : socket.failed = true
    · rw [if_pos failed]
      exact ⟨steady.finishFailed failed, rfl, rfl⟩
    · rw [if_neg failed]
      refine ⟨?_, rfl, rfl⟩
      show (performDelegateBlock .didClose
        { socket with sentClose := true, streamStatus := .closed }).control.Steady faults budget
      rw [control_performDelegateBlock]
      exact steady.finishClosed (eq_false_of_ne_true failed) (steady.closing closes) unsent
  · exact ⟨steady, rfl, rfl⟩

/-- Writing keeps the invariant, whether or not a block is being run. -/
theorem steady_pumpWriting (steady : socket.control.Steady faults budget) :
    socket.pumpWriting.control.Steady faults budget ∧
      socket.pumpWriting.readyState = socket.readyState := by
  unfold pumpWriting
  split
  · split
    · exact ⟨@Control.Steady.push _ _ _ steady (.failWithError _) budget (fun _ => rfl)
        (Nat.le_refl _) nofun, rfl⟩
    · have kept : socket.writeToStream.control.Steady faults budget := steady
      exact ⟨(steady_finishWriting kept).1, (steady_finishWriting kept).2.1⟩
  · exact ⟨(steady_finishWriting steady).1, (steady_finishWriting steady).2.1⟩

theorem sound_pumpWriting (sound : socket.control.Sound faults budget) :
    socket.pumpWriting.control.Sound faults budget := by
  have finished {socket : LGSRWebSocket} (sound : socket.control.Sound faults budget) :
      socket.finishWriting.control.Sound faults budget := by
    rcases steady_finishWriting sound.toSteady with ⟨steady, state, queue⟩
    refine { toSteady := steady, guarded := ?_ }
    show LGSRReadyState.closing.rawValue ≤ socket.finishWriting.readyState.rawValue ∨
      WorkBlock.Guarded socket.finishWriting.workQueue
    rw [state, queue]
    exact sound.guarded
  unfold pumpWriting
  split
  · split
    · exact sound_failWithError sound _
    · exact finished sound
  · exact finished sound

theorem sound_closeConnection (steady : socket.control.Steady faults budget)
    (ending : socket.control.IsEnding) : socket.closeConnection.control.Sound faults budget := by
  have kept : { socket with closeWhenFinishedWriting := true }.control.Steady faults budget :=
    { steady with
      closing := fun _ => ending
      phase := steady.phase.imp fun _ knows => { knows with } }
  rcases steady_pumpWriting kept with ⟨steady, state⟩
  refine .of_steady_ending steady ?_
  show LGSRReadyState.closing.rawValue ≤
    ({ socket with closeWhenFinishedWriting := true } : LGSRWebSocket).pumpWriting.readyState.rawValue
  rw [state]
  exact ending

theorem sound_writeData (sound : socket.control.Sound faults budget) (data : List UInt8) :
    (socket.writeData data).control.Sound faults budget := by
  unfold writeData
  split
  · exact sound
  · exact sound_pumpWriting sound

theorem sound_sendFrameWithOpcode (sound : socket.control.Sound faults budget) (opcode : UInt8)
    (data : Option (List UInt8)) :
    (socket.sendFrameWithOpcode platform opcode data).control.Sound
      (faults ++ if data.isSome then [] else [.dataToSend]) budget := by
  have asserted := sound_assert sound data.isSome (nofun : Assertion.dataToSend ≠ .maskKeyBytes)
  unfold sendFrameWithOpcode
  dsimp only
  refine sound_writeData ?_ _
  exact asserted

theorem sound_sendData (sound : socket.control.Sound faults budget) (opcode : UInt8)
    (data : List UInt8) :
    (socket.sendFrameWithOpcode platform opcode (some data)).control.Sound faults budget :=
  (List.append_nil faults) ▸ sound_sendFrameWithOpcode sound opcode (some data)

/-! ## Ends -/

theorem setReadyState_eq {readyState : LGSRReadyState}
    (later : socket.readyState.rawValue < readyState.rawValue) :
    socket.setReadyState readyState = { socket with readyState } := by
  rw [setReadyState, assert_of_true (decide_eq_true later)]

theorem sound_runCloseWithCode (steady : socket.control.Steady faults budget) (code : Int)
    (reason : Option String) :
    (socket.runCloseWithCode platform code reason).control.Sound faults budget := by
  unfold runCloseWithCode
  split
  · rename_i ended
    refine .of_steady_ending steady ?_
    show LGSRReadyState.closing.rawValue ≤ socket.readyState.rawValue
    rcases ended with same | same
    · rw [same]
    · rw [same]
      decide
  · rename_i early
    have later : socket.readyState.rawValue < LGSRReadyState.closing.rawValue := by
      cases state : socket.readyState with
      | connecting => decide
      | «open» => decide
      | closing => exact absurd (.inl state) early
      | closed => exact absurd (.inr state) early
    rw [setReadyState_eq later]
    dsimp only
    have closing : { socket with readyState := .closing }.control.Steady faults budget :=
      steady.setReadyState (Nat.le_refl _) later
    split
    · exact sound_closeConnection closing (Nat.le_refl 2)
    · exact sound_sendData (.of_steady_ending closing (Nat.le_refl 2)) _ _

theorem sound_runFailWithError (sound : socket.control.Sound faults budget) (error : NSError) :
    (socket.runFailWithError error).control.Sound faults budget := by
  unfold runFailWithError
  split
  · exact sound
  · rename_i alive
    have later : socket.readyState.rawValue < LGSRReadyState.closed.rawValue := by
      cases state : socket.readyState with
      | connecting => decide
      | «open» => decide
      | closing => decide
      | closed => exact absurd state alive
    have failed : ({ socket with failed := true, readyState := .closed }.performDelegateBlock
        (.call (.didFailWithError error))).control.Steady faults budget := by
      rw [control_performDelegateBlock]
      exact sound.toSteady.fail alive
    have changed := @setReadyState_eq
      ({ socket with failed := true }.performDelegateBlock (.call (.didFailWithError error)))
      .closed later
    dsimp only
    rw [changed]
    exact sound_closeConnection failed (Nat.le_succ 2)

/-! ## Frames -/

theorem sound_answerClose (sound : socket.control.Sound faults budget)
    (opened : socket.readyState = .open) : socket.answerClose.control.Sound faults budget := by
  rw [answerClose, if_pos opened]
  exact sound_closing sound 1000 none

theorem sound_handleCloseWithData (sound : socket.control.Sound faults budget)
    (opened : socket.readyState = .open) (data : List UInt8) :
    (socket.handleCloseWithData data).control.Sound faults budget := by
  unfold handleCloseWithData
  split
  · exact sound_answerClose sound opened
  · exact sound_closeWithProtocolError sound _
  · dsimp only
    split
    · exact sound_closeWithProtocolError sound _
    · split
      · exact sound_answerClose sound opened
      · split
        · exact sound_closeWithProtocolError sound _
        · exact sound_answerClose sound opened

theorem sound_closeWithInvalidUTF8 (sound : socket.control.Sound faults budget) :
    socket.closeWithInvalidUTF8.control.Sound faults budget :=
  sound_closing sound _ _

theorem sound_handleFrameWithData (sound : socket.control.Sound faults budget)
    (opened : socket.readyState = .open) (frameData : Option (List UInt8)) (opcode : UInt8) :
    (socket.handleFrameWithData frameData opcode).control.Sound faults budget := by
  have early : socket.control.readyState ≠ .connecting := by
    show socket.readyState ≠ .connecting
    rw [opened]
    decide
  have reads {block : WorkBlock} (noOpening : block.openings = 0)
      (notNormal : block ≠ .closeNormally) (notClosing : block ≠ .closeConnection) :
      (socket.dispatch block).control.Sound faults budget :=
    sound.push (fun same => absurd same early) (by rw [noOpening]; exact Nat.le_refl _)
      (fun same => absurd same notNormal) (fun same => absurd same notClosing)
  unfold handleFrameWithData
  dsimp only
  generalize next : (if isControlFrame opcode = true then socket.dispatch .readFrameContinue
    else socket.dispatch .readFrameNew) = going
  have kept : going.control.Sound faults budget ∧ going.readyState = .open := by
    rw [← next]
    split
    · exact ⟨reads rfl nofun nofun, opened⟩
    · exact ⟨reads rfl nofun nofun, opened⟩
  split
  · split
    · exact sound_closeWithInvalidUTF8 kept.1
    · exact sound_handleMessage kept.1 kept.2 _
  split
  · exact sound_handleMessage kept.1 kept.2 _
  split
  · exact sound_handleCloseWithData kept.1 kept.2 _
  split
  · exact sound_performQuietly kept.1 rfl
  split
  · exact kept.1
  · exact sound_closeWithProtocolError kept.1 _

theorem sound_addConsumerWithDataLength (sound : socket.control.Sound faults budget)
    (opened : socket.readyState ≠ .connecting) {dataLength : Nat} (positive : 0 < dataLength)
    {handler : Handler} {readToCurrentFrame unmaskBytes : Bool}
    (isSound : LGSRIOConsumer.Sound
      { handler, bytesNeeded := dataLength, readToCurrentFrame, unmaskBytes })
    (frame : handler ≠ .httpHeader) :
    (socket.addConsumerWithDataLength dataLength handler readToCurrentFrame
      unmaskBytes).control.Sound faults budget := by
  rw [addConsumerWithDataLength, assert_of_true (decide_eq_true positive)]
  refine sound.addConsumer isSound (fun same => absurd same opened) ?_
  have none : LGSRIOConsumer.readsHTTPHeader
      { handler, bytesNeeded := dataLength, readToCurrentFrame, unmaskBytes } = false := by
    cases handler with
    | httpHeader => exact absurd rfl frame
    | frameHeader => rfl
    | extraBytes => rfl
    | payload => rfl
  rw [none]
  exact Nat.le_refl _

theorem sound_readFrameContinue (sound : socket.control.Sound faults budget)
    (opened : socket.readyState ≠ .connecting) :
    socket.readFrameContinue.control.Sound faults budget := by
  have synced : (socket.currentFrameCount = 0 ∧ socket.currentFrameOpcode = 0) ∨
      (0 < socket.currentFrameCount ∧ 0 < socket.currentFrameOpcode) := sound.synced
  unfold readFrameContinue
  dsimp only
  rw [assert_of_true (decide_eq_true synced)]
  exact sound_addConsumerWithDataLength sound opened (by decide) ⟨rfl, rfl, rfl⟩ nofun

theorem sound_finishFrame (sound : socket.control.Sound faults budget)
    (opened : socket.readyState = .open) (header : FrameHeader)
    (newData : Option (List UInt8)) :
    (socket.finishFrame header newData).control.Sound faults budget := by
  unfold finishFrame
  split
  · exact sound_handleFrameWithData sound opened _ _
  split
  · exact sound_handleFrameWithData sound opened _ _
  · exact sound_readFrameContinue sound (by rw [opened]; decide)

theorem sound_handleFrameHeader (sound : socket.control.Sound faults budget) {header : FrameHeader}
    (named : header.opcode ≠ 0) :
    (socket.handleFrameHeader header).control.Sound faults budget := by
  unfold handleFrameHeader
  dsimp only
  rw [assert_of_true (bne_iff_ne.mpr named)]
  split
  · exact sound
  rename_i notOpen
  have opened : socket.readyState = .open := not_not.mp notOpen
  split
  · exact sound_closeWithProtocolError sound _
  split
  · exact sound_closeWithProtocolError sound _
  generalize next : (if isControlFrame header.opcode = true then socket
    else { socket with
      currentFrameOpcode := header.opcode
      currentFrameCount := socket.currentFrameCount + 1 }) = going
  have kept : going.control.Sound faults budget ∧ going.readyState = .open := by
    rw [← next]
    split
    · exact ⟨sound, opened⟩
    · exact ⟨sound.setFrame (.inr ⟨Nat.succ_pos _, UInt8.pos_iff_ne_zero.mpr named⟩), opened⟩
  split
  · exact sound_finishFrame kept.1 kept.2 _ _
  · rename_i present
    exact sound_addConsumerWithDataLength kept.1 (by rw [kept.2]; decide)
      (Nat.pos_of_ne_zero present) trivial nofun

theorem sound_readHeader (sound : socket.control.Sound faults budget)
    (opened : socket.readyState = .open) (first second : UInt8) :
    (socket.readHeader first second).control.Sound faults budget := by
  unfold readHeader
  dsimp only
  split
  · exact sound_closeWithProtocolError sound _
  split
  · exact sound_closeWithProtocolError sound _
  split
  · exact sound_closeWithProtocolError sound _
  rename_i continues
  generalize opcode : (if opCodeMask &&& first = 0 then socket.currentFrameOpcode
    else opCodeMask &&& first) = named
  have isNamed : named ≠ 0 := by
    rw [← opcode]
    split
    · rename_i zero
      have counted : socket.currentFrameCount ≠ 0 := fun none => continues ⟨zero, none⟩
      have synced : (socket.currentFrameCount = 0 ∧ socket.currentFrameOpcode = 0) ∨
          (0 < socket.currentFrameCount ∧ 0 < socket.currentFrameOpcode) := sound.synced
      rcases synced with ⟨none, _⟩ | ⟨_, positive⟩
      · exact absurd none counted
      · exact UInt8.pos_iff_ne_zero.mp positive
    · assumption
  generalize next : (if (maskMask &&& second != 0) = true then
    socket.closeWithProtocolError "Client must receive unmasked data" else socket) = going
  have kept : going.control.Sound faults budget ∧ going.readyState = .open := by
    rw [← next]
    split
    · exact ⟨sound_closeWithProtocolError sound _, opened⟩
    · exact ⟨sound, opened⟩
  split
  · exact sound_handleFrameHeader kept.1 isNamed
  · rename_i present
    exact sound_addConsumerWithDataLength kept.1 (by rw [kept.2]; decide)
      (Nat.pos_of_ne_zero present) ⟨rfl, rfl, rfl, isNamed⟩ nofun

theorem sound_readExtraBytes (sound : socket.control.Sound faults budget) {header : FrameHeader}
    (named : header.opcode ≠ 0) {data : List UInt8}
    (size : data.length = extraBytesNeeded header) :
    (socket.readExtraBytes header data).control.Sound faults budget := by
  unfold readExtraBytes
  dsimp only
  unfold extraBytesNeeded at size
  generalize (if header.payloadLength = 126 then 2
    else if header.payloadLength = 127 then 8 else 0) = offset at size ⊢
  have there : offset ≤ data.length := size ▸ Nat.le_add_left _ _
  rw [assert_of_true (decide_eq_true there)]
  refine sound_handleFrameHeader ?_ named
  by_cases masked : header.masked = true
  · rw [if_pos masked]
    -- Four bytes of a key are there, and eight are asked for.
    have short : ¬ 8 + offset ≤ data.length := by
      rw [size, if_pos masked]
      omega
    rw [assert_of_false (decide_eq_false short)]
    exact sound.readMaskKey
  · rw [if_neg masked]
    exact sound

/-! ## The handshake -/

theorem sound_finishHandshake (sound : socket.control.Sound faults (budget + 1))
    (connecting : socket.readyState = .connecting) :
    socket.finishHandshake.control.Sound faults budget := by
  have later : socket.readyState.rawValue < LGSRReadyState.open.rawValue := by
    rw [connecting]
    decide
  rcases sound.phase with ⟨phase, knows⟩
  cases knows.connecting connecting
  have unsent : socket.sentClose ≠ true := fun sent => (knows.sent sent).1 rfl
  have fine : socket.failed ≠ true := fun failed => by
    rcases knows.failed.mp failed with same | same <;> cases same
  have early : ¬ socket.control.IsEnding := fun ending => ending.ne_connecting connecting
  rw [finishHandshake, setReadyState_eq later, control_performDelegateBlock]
  have opened : Control.Steady faults budget
      ({ socket.control with
        readyState := .open
        workQueue := socket.control.workQueue ++ [WorkBlock.readFrameNew] }.tell [.opened]) :=
    { faults := sound.faults
      maskKeys := sound.maskKeys
      synced := sound.synced
      consumers := sound.consumers
      connecting := nofun
      openings := by
        have before := sound.openings
        have state : socket.control.readyState ≠ .open := by
          show socket.readyState ≠ .open
          rw [connecting]
          decide
        rw [Control.openings, if_neg state] at before
        simp only [Control.openings, Control.tell, List.map_append, List.sum_append,
          List.map_singleton, List.sum_singleton, WorkBlock.openings, ↓reduceIte]
        omega
      closing := fun closes => absurd (sound.closing closes) early
      normally := by
        intro member
        rcases List.mem_append.mp member with before | now
        · exact absurd (sound.normally before) early
        · cases List.mem_singleton.mp now
      phase :=
        ⟨.open,
          { reached := phaseAfter_append knows.reached .opened
            connecting := nofun
            opened := fun _ => rfl
            closed := nofun
            sent := fun sent => absurd sent unsent
            failed := iff_of_false fine (by rintro (same | same) <;> cases same)
            ended := fun failed => absurd failed fine }⟩ }
  exact
    { toSteady := opened
      guarded := .inr
        (@Control.guarded_append_of_ne .readFrameNew nofun _ (sound.guarded.resolve_left early)) }

theorem sound_httpHeadersDidFinish (sound : socket.control.Sound faults (budget + 1))
    (connecting : socket.readyState = .connecting) :
    (socket.httpHeadersDidFinish platform).control.Sound faults budget := by
  have fails (error : NSError) : (socket.failWithError error).control.Sound faults budget :=
    (sound_failWithError sound error).mono (Nat.le_succ budget)
  unfold httpHeadersDidFinish
  dsimp only
  split
  · exact fails _
  split
  · exact fails _
  split
  · exact sound_finishHandshake sound connecting
  split
  · exact sound_finishHandshake sound connecting
  · exact fails _

theorem sound_readHTTPHeader (sound : socket.control.Sound faults (budget + 1)) :
    socket.readHTTPHeader.control.Sound faults budget :=
  sound.addConsumer rfl (fun _ => rfl) (Nat.le_refl _)

theorem sound_readHTTPHeaderBytes (sound : socket.control.Sound faults (budget + 1))
    (connecting : socket.readyState = .connecting) (data : List UInt8) :
    (socket.readHTTPHeaderBytes platform data).control.Sound faults budget := by
  unfold readHTTPHeaderBytes
  dsimp only
  split
  · exact sound_httpHeadersDidFinish sound connecting
  · exact sound_readHTTPHeader sound

/-! ## The scanner -/

theorem sound_runHandler (sound : socket.control.Sound faults budget) {consumer : LGSRIOConsumer}
    {others : List LGSRIOConsumer} (first : socket.consumers = consumer :: others)
    (early : ¬ socket.control.IsEnding) (isSound : consumer.Sound) {data : List UInt8}
    (size : consumer.scanner = none → consumer.readToCurrentFrame = false →
      data.length = consumer.bytesNeeded) :
    ({ socket with consumers := others }.runHandler platform data
      consumer.handler).control.Sound faults budget := by
  have popped := sound.popConsumer first
  have opened (frame : consumer.handler ≠ .httpHeader) : socket.readyState = .open :=
    sound.open_of_frame first frame early
  have kept : ({ socket with consumers := others } : LGSRWebSocket).control.Sound faults budget :=
    popped.mono (Nat.le_add_right _ _)
  unfold LGSRIOConsumer.Sound at isSound
  cases handler : consumer.handler with
  | httpHeader =>
      have connecting := sound.connecting_of_header first handler early
      have reads : consumer.readsHTTPHeader = true := by
        rw [LGSRIOConsumer.readsHTTPHeader, handler]
      rw [reads] at popped
      have header : ({ socket with consumers := others } : LGSRWebSocket).control.Sound faults
        (budget + 1) := popped
      exact sound_readHTTPHeaderBytes header connecting data
  | frameHeader =>
      rw [handler] at isSound opened
      have two : data.length = 2 := (size isSound.1 isSound.2.2).trans isSound.2.1
      rcases data with _ | ⟨first, _ | ⟨second, _⟩⟩
      · cases two
      · cases two
      · exact sound_readHeader kept (opened (by rintro ⟨⟩)) first second
  | extraBytes header =>
      rw [handler] at isSound
      exact sound_readExtraBytes kept isSound.2.2.2
        ((size isSound.1 isSound.2.2.1).trans isSound.2.1)
  | payload header =>
      rw [handler] at opened
      exact sound_finishFrame kept (opened (by rintro ⟨⟩)) header _

theorem unmask_spec (socket : LGSRWebSocket) (consumer : LGSRIOConsumer) (slice : List UInt8) :
    (socket.unmask consumer slice).2.control = socket.control ∧
      (socket.unmask consumer slice).1.length = slice.length := by
  unfold unmask
  split
  · exact ⟨rfl, List.length_mapIdx⟩
  · exact ⟨rfl, rfl⟩

theorem sound_consumeToCurrentFrame (sound : socket.control.Sound faults budget)
    {consumer : LGSRIOConsumer} {others : List LGSRIOConsumer}
    (first : socket.consumers = consumer :: others) (early : ¬ socket.control.IsEnding)
    (toFrame : consumer.readToCurrentFrame = true) (slice : List UInt8) :
    (socket.consumeToCurrentFrame platform consumer others slice).1.control.Sound faults
      budget := by
  have isSound : consumer.Sound :=
    sound.consumers consumer (by
      show consumer ∈ socket.consumers
      rw [first]
      exact List.mem_cons_self)
  have less (bytesNeeded : Nat) : { consumer with bytesNeeded }.Sound := by
    unfold LGSRIOConsumer.Sound at isSound ⊢
    dsimp only
    cases handler : consumer.handler with
    | httpHeader =>
        rw [handler] at isSound
        exact isSound
    | frameHeader =>
        rw [handler, toFrame] at isSound
        cases isSound.2.2
    | extraBytes header =>
        rw [handler, toFrame] at isSound
        cases isSound.2.2.1
    | payload header => trivial
  unfold consumeToCurrentFrame
  dsimp only
  split
  · exact sound_closeWithInvalidUTF8 sound
  rename_i position _
  have kept : { socket with
      currentFrameData := socket.currentFrameData ++ slice
      currentStringScanPosition := position }.control.Sound faults budget := sound
  split
  · exact sound_runHandler kept first early isSound
      (fun _ notToFrame => absurd (toFrame.symm.trans notToFrame) (by decide))
  · exact kept.replaceConsumer first rfl (less _)

/-- A consumer that has no scanner, and waits, is handed all that it waits for. -/
theorem foundSize_of_waits {consumer : LGSRIOConsumer} {data : List UInt8}
    (noScanner : consumer.scanner = none) (waits : consumer.readToCurrentFrame = false)
    (found : foundSize consumer data ≠ 0) :
    foundSize consumer data = consumer.bytesNeeded ∧ consumer.bytesNeeded ≤ data.length := by
  unfold foundSize at found ⊢
  rw [noScanner] at found ⊢
  dsimp only at found ⊢
  split at found
  · rename_i enough
    exact ⟨if_pos enough, enough⟩
  · rw [waits] at found
    exact absurd rfl found

/-- One round of the scanner. -/
theorem sound_innerPumpScanner (sound : socket.control.Sound faults budget) :
    (socket.innerPumpScanner platform).1.control.Sound faults budget := by
  unfold innerPumpScanner
  split
  · rename_i ending
    exact @Control.Sound.push _ _ _ sound .closeNormally budget (fun _ => rfl) (Nat.le_refl _)
      (fun _ => ending) nofun
  rename_i early
  split
  · exact sound
  rename_i consumer others first
  split
  · exact sound
  dsimp only
  split
  · rename_i takes
    generalize unmasked : unmask consumer (socket.readBuffer.take (foundSize consumer socket.readBuffer))
      { socket with readBuffer := socket.readBuffer.drop (foundSize consumer socket.readBuffer) } = read
    rcases read with ⟨slice, next⟩
    have spec := unmask_spec
      { socket with readBuffer := socket.readBuffer.drop (foundSize consumer socket.readBuffer) }
      consumer (socket.readBuffer.take (foundSize consumer socket.readBuffer))
    rw [unmasked] at spec
    have same : next.control = socket.control := spec.1
    have kept : next.control.Sound faults budget := same ▸ sound
    have nextFirst : next.consumers = consumer :: others :=
      (congrArg Control.consumers same).trans first
    have nextEarly : ¬ next.control.IsEnding := same ▸ early
    dsimp only
    split
    · rename_i toFrame
      exact sound_consumeToCurrentFrame kept nextFirst nextEarly toFrame slice
    · rename_i notToFrame
      have isSound : consumer.Sound := kept.consumers consumer (by
        show consumer ∈ next.consumers
        rw [nextFirst]
        exact List.mem_cons_self)
      refine sound_runHandler kept nextFirst nextEarly isSound fun noScanner waits => ?_
      rcases foundSize_of_waits noScanner waits (takes.resolve_left notToFrame) with
        ⟨size, enough⟩
      have length : slice.length = _ := spec.2
      rw [length, List.length_take, size]
      exact Nat.min_eq_left enough
  · exact sound

theorem sound_pumpRounds (rounds : Nat) :
    ∀ {socket : LGSRWebSocket}, socket.control.Sound faults budget →
      (pumpRounds platform rounds socket).control.Sound faults budget := by
  induction rounds with
  | zero => exact fun sound => sound
  | succ rounds induction =>
      intro socket sound
      have kept := @sound_innerPumpScanner platform _ _ _ sound
      unfold pumpRounds
      split
      · rename_i worked
        rw [worked] at kept
        exact induction kept
      · rename_i rested
        rw [rested] at kept
        exact kept

theorem sound_pumpScanner (sound : socket.control.Sound faults budget) :
    (socket.pumpScanner platform).control.Sound faults budget :=
  sound_pumpRounds _ sound

/-! ## Blocks -/

theorem sound_didConnect (sound : socket.control.Sound faults (budget + 1)) :
    (socket.didConnect platform).control.Sound faults budget := by
  unfold didConnect
  dsimp only
  refine sound_pumpScanner (sound_readHTTPHeader (sound_writeData ?_ _))
  exact sound

theorem sound_readAvailable (sound : socket.control.Sound faults budget) :
    socket.readAvailable.control.Sound faults budget := by
  unfold readAvailable
  split
  · exact sound
  split
  · exact sound_failWithError sound _
  · exact sound

theorem sound_runStreamEnd (sound : socket.control.Sound faults budget) (error : Option NSError) :
    (socket.runStreamEnd platform error).control.Sound faults budget := by
  have pumped := @sound_pumpScanner platform _ _ _ sound
  unfold runStreamEnd
  dsimp only
  generalize socket.pumpScanner platform = socket at pumped
  split
  · exact sound_failWithError pumped _
  generalize ended : (if socket.readyState = .closed then socket
    else (socket.setReadyState .closed).scheduleCleanup) = going
  have kept : going.control.Sound faults budget ∧ going.control.IsEnding := by
    rw [← ended]
    split
    · rename_i closed
      refine ⟨pumped, ?_⟩
      show LGSRReadyState.closing.rawValue ≤ socket.readyState.rawValue
      rw [closed]
      decide
    · rename_i alive
      have later : socket.readyState.rawValue < LGSRReadyState.closed.rawValue := by
        cases state : socket.readyState with
        | connecting => decide
        | «open» => decide
        | closing => decide
        | closed => exact absurd state alive
      rw [setReadyState_eq later]
      exact ⟨.of_steady_ending (pumped.toSteady.setReadyState (Nat.le_succ 2) later)
        (Nat.le_succ 2), Nat.le_succ 2⟩
  split
  · rename_i tells
    rw [Bool.and_eq_true, Bool.not_eq_true', Bool.not_eq_true'] at tells
    rw [control_performDelegateBlock]
    exact .of_steady_ending (kept.1.toSteady.finishClosed tells.2 kept.2 tells.1) kept.2
  · exact kept.1

theorem sound_runSafeHandleEvent {event : StreamEvent}
    (sound : socket.control.Sound faults (budget + (WorkBlock.safeHandleEvent event).openings)) :
    (socket.runSafeHandleEvent platform event).control.Sound faults budget := by
  have kept := sound.mono (Nat.le_add_right budget _)
  cases event with
  | openCompleted isInput =>
      unfold runSafeHandleEvent
      dsimp only
      split
      · exact kept
      · apply sound_pumpScanner
        apply sound_pumpWriting
        split
        · rename_i connects
          rw [connects.2] at sound
          exact sound_didConnect sound
        · exact kept
  | hasBytesAvailable => exact sound_pumpScanner (sound_readAvailable kept)
  | hasSpaceAvailable => exact sound_pumpWriting kept
  | errorOccurred error => exact sound_failWithError kept error
  | endEncountered error => exact sound_runStreamEnd kept error
  | other => exact kept

theorem sound_runReadFrameNew (sound : socket.control.Sound faults budget)
    (opened : socket.readyState ≠ .connecting) :
    (socket.runReadFrameNew platform).control.Sound faults budget := by
  have reset : ({ socket with
      currentFrameData := []
      currentFrameOpcode := 0
      currentFrameCount := 0
      currentStringScanPosition := 0 } : LGSRWebSocket).control.Sound faults budget :=
    sound.setFrame (.inl ⟨rfl, rfl⟩)
  exact sound_pumpScanner (sound_readFrameContinue reset opened)

/-- A block that begins to close the socket may be run before the others are guarded by what
it did. -/
theorem sound_runQuietBlock {block : WorkBlock} {blocks : List WorkBlock}
    (sound : socket.control.Sound faults budget) (queue : socket.workQueue = block :: blocks)
    (quiet : block.faults = []) :
    ({ socket with workQueue := blocks }.runWorkBlock platform block).control.Sound faults
      budget := by
  have popped (other : ∀ code reason, block ≠ .closeWithCode code reason) :
      ({ socket with workQueue := blocks } : LGSRWebSocket).control.Sound faults
        (budget + block.openings) :=
    sound.pop queue other
  have kept (other : ∀ code reason, block ≠ .closeWithCode code reason) :
      ({ socket with workQueue := blocks } : LGSRWebSocket).control.Sound faults budget :=
    (popped other).mono (Nat.le_add_right _ _)
  have member : block ∈ socket.control.workQueue := by
    show block ∈ socket.workQueue
    rw [queue]
    exact List.mem_cons_self
  have notConnecting (reads : block.readsFrames = true) : socket.readyState ≠ .connecting := by
    intro connecting
    have quiet := (sound.connecting connecting).2 block member
    rw [reads] at quiet
    cases quiet
  cases block with
  | handleEvent event =>
      refine sound_dispatch ?_ ⟨rfl, nofun, nofun⟩
      rw [WorkBlock.openings_safeHandleEvent]
      exact popped nofun
  | safeHandleEvent event => exact sound_runSafeHandleEvent (popped nofun)
  | invalidCertificate => exact sound_failWithError (kept nofun) _
  | send data =>
      cases data with
      | none => cases quiet
      | some data =>
          cases data with
          | string text => exact sound_sendData (kept nofun) _ _
          | data bytes => exact sound_sendData (kept nofun) _ _
  | sendPong pingData => exact sound_sendData (kept nofun) _ _
  | readFrameNew => exact sound_runReadFrameNew (kept nofun) (notConnecting rfl)
  | readFrameContinue =>
      exact sound_pumpScanner (sound_readFrameContinue (kept nofun) (notConnecting rfl))
  | closeWithCode code reason =>
      have steady : ({ socket with workQueue := blocks } : LGSRWebSocket).control.Steady faults
          budget := sound.toSteady.pop queue
      exact sound_runCloseWithCode steady code reason
  | closeConnection =>
      exact sound_closeConnection (kept nofun).toSteady (sound.isEnding_of_close queue)
  | closeNormally =>
      exact sound_closeConnection (kept nofun).toSteady (sound.normally member)
  | failWithError error => exact sound_runFailWithError (kept nofun) error

theorem sound_runWorkBlock {block : WorkBlock} {blocks : List WorkBlock}
    (sound : socket.control.Sound faults budget) (queue : socket.workQueue = block :: blocks) :
    ({ socket with workQueue := blocks }.runWorkBlock platform block).control.Sound
      (faults ++ block.faults) budget := by
  by_cases quiet : block.faults = []
  · rw [quiet, List.append_nil]
    exact sound_runQuietBlock sound queue quiet
  · rcases block.eq_send_of_faults quiet with rfl
    have popped := (sound.pop queue nofun).mono (Nat.le_add_right budget _)
    exact sound_sendFrameWithOpcode popped _ none

theorem control_callDelegate {blocks : List DelegateBlock} {block : DelegateBlock}
    {call : DelegateCall} (queue : socket.delegateQueue = block :: blocks)
    (tells : block.kind = some call.kind) :
    ({ socket with delegateQueue := blocks }.callDelegate call).control = socket.control := by
  have calls : ({ socket with delegateQueue := blocks }.callDelegate call).control.calls =
      socket.control.calls := by
    simp only [callDelegate, control, queue, List.filterMap_cons, tells, List.map_append,
      List.map_singleton, List.append_assoc, List.singleton_append]
  exact congrArg (fun calls => { socket.control with calls }) calls

theorem sound_runDelegateBlock {block : DelegateBlock} {blocks : List DelegateBlock}
    (sound : socket.control.Sound faults budget) (queue : socket.delegateQueue = block :: blocks) :
    ({ socket with delegateQueue := blocks }.runDelegateBlock block).control.Sound faults
      budget := by
  have kept (quiet : block.kind = none) :
      ({ socket with delegateQueue := blocks } : LGSRWebSocket).control.Sound faults budget := by
    have calls : ({ socket with delegateQueue := blocks } : LGSRWebSocket).control.calls =
        socket.control.calls := by
      simp only [control, queue, List.filterMap_cons, quiet]
    have same : ({ socket with delegateQueue := blocks } : LGSRWebSocket).control =
        socket.control := congrArg (fun calls => { socket.control with calls }) calls
    exact same ▸ sound
  cases block with
  | call made => exact (control_callDelegate queue rfl) ▸ sound
  | didGetCertificates =>
      have told := @control_callDelegate socket blocks .didGetCertificates
        (.didGetCertificates socket.sslData) queue rfl
      exact told ▸ sound
  | didClose =>
      have told := @control_callDelegate socket blocks .didClose
        (.didCloseWithCode socket.closeCode socket.closeReason true) queue rfl
      exact told ▸ sound
  | closeWithProtocolError message => exact sound_closing (kept rfl) _ _
  | handlePing pingData =>
      exact sound_dispatch (kept rfl) ⟨rfl, nofun, nofun⟩

end LGSRWebSocket

/-! ## Runs -/

/-- How often the event reports that the input stream has opened. -/
def SocketEvent.openings : SocketEvent → Nat
  | .streamEvent (.openCompleted true) => 1
  | _ => 0

theorem SocketEvent.openings_handleEvent (event : StreamEvent) :
    (WorkBlock.handleEvent event).openings = (SocketEvent.streamEvent event).openings := by
  cases event with
  | openCompleted isInput => cases isInput <;> rfl
  | _ => rfl

namespace LGSRWebSocket

variable {platform : Platform} {faults : List Assertion} {budget : Nat} {socket : LGSRWebSocket}

theorem sound_openConnection (sound : socket.control.Sound faults budget) :
    socket.openConnection.control.Sound faults budget := by
  unfold openConnection
  split
  · exact sound
  · exact sound

theorem sound_step {event : SocketEvent}
    (sound : socket.control.Sound faults (budget + event.openings)) :
    (socket.step platform event).control.Sound (faults ++ socket.faults event) budget := by
  have kept := sound.mono (Nat.le_add_right budget _)
  have quietly {next : LGSRWebSocket} (sound : next.control.Sound faults budget)
      (quiet : socket.faults event = []) :
      next.control.Sound (faults ++ socket.faults event) budget := by
    rw [quiet, List.append_nil]
    exact sound
  cases event with
  | «open» =>
      have asserted := sound_assert kept (decide (socket.readyState = .connecting))
        (nofun : Assertion.openWhileConnecting ≠ .maskKeyBytes)
      simp only [decide_eq_true_eq] at asserted
      exact sound_openConnection asserted
  | send data =>
      have asserted := sound_assert kept (decide (socket.readyState ≠ .connecting))
        (nofun : Assertion.sendAfterConnecting ≠ .maskKeyBytes)
      simp only [decide_eq_true_eq, ne_eq, ite_not] at asserted
      exact sound_dispatch asserted ⟨rfl, nofun, nofun⟩
  | closeWithCode code reason => exact quietly (sound_closeWithCode kept code reason) rfl
  | bytesArrive bytes => exact quietly kept rfl
  | inputFails error => exact quietly kept rfl
  | spaceAppears count => exact quietly kept rfl
  | outputFails => exact quietly kept rfl
  | streamEvent event =>
      refine quietly ?_ rfl
      unfold step
      dsimp only
      split
      · refine sound_dispatch ?_ ⟨rfl, nofun, nofun⟩
        rw [SocketEvent.openings_handleEvent]
        exact sound
      · exact kept
  | secureStreamEvent hasBytes certificates accepted =>
      refine quietly ?_ rfl
      unfold step
      dsimp only
      split
      · have told : ({ socket with sslData := certificates }.performDelegateBlock
            .didGetCertificates).control.Sound faults budget := by
          rw [control_performDelegateBlock]
          exact kept.certificates
        split
        · refine sound_dispatch ?_ ⟨rfl, nofun, nofun⟩
          cases hasBytes with
          | true => exact told
          | false => exact told
        · exact sound_dispatch told ⟨rfl, nofun, nofun⟩
      · exact kept
  | runWorkBlock =>
      unfold step LGSRWebSocket.faults
      dsimp only
      split
      · rename_i queue
        rw [queue]
        exact (List.append_nil faults).symm ▸ kept
      · rename_i queue
        rw [queue]
        exact sound_runWorkBlock kept queue
  | runDelegateBlock =>
      refine quietly ?_ rfl
      unfold step
      dsimp only
      split
      · exact kept
      · rename_i queue
        exact sound_runDelegateBlock kept queue
  | cleanup =>
      refine quietly ?_ rfl
      unfold step
      dsimp only
      split
      · exact kept
      · exact kept

theorem sound_run (events : List SocketEvent) :
    ∀ {socket : LGSRWebSocket} {faults : List Assertion},
      socket.control.Sound faults (events.map SocketEvent.openings).sum →
      (socket.run platform events).control.Sound (faults ++ socket.runFaults platform events) 0 := by
  induction events with
  | nil =>
      intro socket faults sound
      exact (List.append_nil faults).symm ▸ sound
  | cons event events induction =>
      intro socket faults sound
      rw [List.map_cons, List.sum_cons, Nat.add_comm] at sound
      have later := induction (@sound_step platform _ _ _ _ sound)
      rw [List.append_assoc] at later
      exact later

theorem sound_init (requestedProtocols : Option (List String)) :
    ({ requestedProtocols } : LGSRWebSocket).control.Sound [] 1 where
  faults := rfl
  maskKeys := rfl
  synced := .inl ⟨rfl, rfl⟩
  consumers := nofun
  connecting := fun _ => ⟨nofun, nofun⟩
  openings := Nat.le_refl 1
  closing := nofun
  normally := nofun
  phase :=
    ⟨.waiting,
      { reached := rfl
        connecting := fun _ => rfl
        opened := nofun
        closed := nofun
        sent := nofun
        failed := iff_of_false nofun (by rintro (same | same) <;> cases same)
        ended := nofun }⟩
  guarded := .inr trivial

/-! ## A connection -/

/-- That the protocols are switched, with the key that accepts the socket's own. -/
def sampleHeader : List UInt8 :=
  [72, 84, 84, 80, 47, 49, 46, 49, 32, 49, 48, 49, 32, 83, 119, 105, 116, 99, 104, 105, 110, 103,
    32, 80, 114, 111, 116, 111, 99, 111, 108, 115, 13, 10, 83, 101, 99, 45, 87, 101, 98, 83, 111,
    99, 107, 101, 116, 45, 65, 99, 99, 101, 112, 116, 58, 32, 115, 51, 112, 80, 76, 77, 66, 105,
    84, 120, 97, 81, 57, 107, 89, 71, 122, 122, 104, 90, 82, 98, 75, 43, 120, 79, 111, 61, 13, 10,
    13, 10]

def sampleNonce : List UInt8 :=
  [116, 104, 101, 32, 115, 97, 109, 112, 108, 101, 32, 110, 111, 110, 99, 101]

/-- What the system does in a handshake that starts from the nonce. -/
def samplePlatform : Platform where
  serializedRequest headers :=
    utf8Bytes ("GET / HTTP/1.1\r\n" ++
      "".intercalate (headers.map fun field => field.1 ++ ": " ++ field.2 ++ "\r\n") ++ "\r\n")
  isHeaderComplete := crlfcrlf.isSuffixOf
  responseStatusCode _ := 101
  headerFieldValue _ name :=
    if name = "Sec-WebSocket-Accept" then some "s3pPLMBiTxaQ9kYGzzhZRbK+xOo=" else none
  base64Encoded _ := "dGhlIHNhbXBsZSBub25jZQ=="
  stringBySHA1ThenBase64Encoding _ := "s3pPLMBiTxaQ9kYGzzhZRbK+xOo="
  randomByte index := sampleNonce.getD (index % 16) 0
  host := "192.168.0.2:3000"

/-- The socket opens, and a server says yes and sends a text. -/
def sampleEvents : List SocketEvent :=
  [.open, .spaceAppears 1000, .streamEvent (.openCompleted true), .runWorkBlock, .runWorkBlock,
    .bytesArrive (sampleHeader ++ [0x81, 2, 0x68, 0x69]), .streamEvent .hasBytesAvailable,
    .runWorkBlock, .runWorkBlock, .runWorkBlock, .runDelegateBlock, .runDelegateBlock]

/-- What it does then: its owner opens it again and sends nothing, and its server masks a frame. -/
def sampleFaults : List SocketEvent :=
  [.open, .send none, .runWorkBlock, .runWorkBlock, .bytesArrive [0x81, 0x81, 1, 2, 3, 4, 0x60],
    .streamEvent .hasBytesAvailable, .runWorkBlock, .runWorkBlock, .runWorkBlock]

/-- Whatever the server sends, and in whatever order the queues and the streams go on, what the
code asserts fails just where the socket's owner is at fault, and once for each key of a masked
frame that is read. The input stream reports once that it has opened. -/
theorem run_assertions (platform : Platform) (requestedProtocols : Option (List String))
    (events : List SocketEvent) (once : (events.map SocketEvent.openings).sum ≤ 1) :
    otherThanMaskKeys (run platform { requestedProtocols } events).failedAssertions =
        runFaults platform { requestedProtocols } events ∧
      (run platform { requestedProtocols } events).failedAssertions.count .maskKeyBytes =
        (run platform { requestedProtocols } events).maskKeysRead := by
  have sound := @sound_run platform events _ _ ((sound_init requestedProtocols).mono once)
  exact ⟨sound.faults, sound.maskKeys⟩

theorem run_assertions_sampleFaults :
    otherThanMaskKeys (run samplePlatform { requestedProtocols := none }
        (sampleEvents ++ sampleFaults)).failedAssertions = [.openWhileConnecting, .dataToSend] ∧
      (run samplePlatform { requestedProtocols := none }
        (sampleEvents ++ sampleFaults)).failedAssertions.count .maskKeyBytes = 1 := by
  rcases run_assertions samplePlatform none (sampleEvents ++ sampleFaults) (by decide) with
    ⟨faults, maskKeys⟩
  exact ⟨faults.trans (by decide +kernel), maskKeys.trans (by decide +kernel)⟩

/-- The delegate is told once that the socket opens, of messages only while it is open, and at
most once each that it was closed and that it failed, of which a failure is the last. Only
certificates come at any time. -/
theorem run_delegateCalls (platform : Platform) (requestedProtocols : Option (List String))
    (events : List SocketEvent) (once : (events.map SocketEvent.openings).sum ≤ 1) :
    ∃ phase, phaseAfter ((run platform { requestedProtocols } events).delegateCalls.map
      DelegateCall.kind) = some phase := by
  rcases (sound_run events ((sound_init requestedProtocols).mono once)).phase with
    ⟨phase, knows⟩
  exact phaseAfter_of_append knows.reached

/-- The certificates of the server are refused, and come once more after the socket has failed. -/
def sampleRefusal : List SocketEvent :=
  [.secureStreamEvent true (some ["TV"]) false, .runWorkBlock, .runWorkBlock, .runWorkBlock,
    .secureStreamEvent true none false, .runDelegateBlock, .runDelegateBlock, .runDelegateBlock]

theorem run_delegateCalls_sampleRefusal :
    ∃ phase, phaseAfter ((run samplePlatform { requestedProtocols := none }
      (sampleEvents ++ sampleRefusal)).delegateCalls.map DelegateCall.kind) = some phase :=
  run_delegateCalls samplePlatform none (sampleEvents ++ sampleRefusal) (by decide)

example : ((run samplePlatform { requestedProtocols := none }
    (sampleEvents ++ sampleRefusal)).delegateCalls.map DelegateCall.kind) =
      [.opened, .message, .certificates, .failed, .certificates] := by
  decide +kernel

end LGSRWebSocket

end SocketRocket

end ConnectSDK
