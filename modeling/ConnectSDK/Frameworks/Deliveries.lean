import ConnectSDK.Frameworks.ReceivedMessages
import ConnectSDK.Foundation.Run

/-! # Deliveries

Every block of a socket's queues keeps its place in what the server sends, and so does every run:
what the delegate is told are the server's messages, and what the socket answers are its pings.
-/

namespace ConnectSDK

namespace SocketRocket

open WebSocket (Frame Message Key Coding LengthForm Fragments Assembles IsControl)

namespace LGSRWebSocket

variable {platform : Platform} {requestedProtocols : Option (List String)} {script : Script}
  {budget : Nat} {unsent buffer : List UInt8} {socket : LGSRWebSocket} {messages : List Message}
  {pings : List (Option (List UInt8))}

/-! ## Blocks -/

theorem Calm.pop (calm : socket.Calm requestedProtocols) {block : WorkBlock}
    {blocks : List WorkBlock} (queue : socket.workQueue = block :: blocks) :
    ({ socket with workQueue := blocks } : LGSRWebSocket).Calm requestedProtocols :=
  { calm with
    workQueue := fun other member => calm.workQueue other (queue ▸ List.mem_cons_of_mem _ member) }

theorem Shakes.pop (shakes : socket.Shakes platform budget) {block : WorkBlock}
    {blocks : List WorkBlock} (queue : socket.workQueue = block :: blocks)
    (noOpening : block.openings = 0) :
    ({ socket with workQueue := blocks } : LGSRWebSocket).Shakes platform budget where
  silent := fun other member => shakes.silent other (queue ▸ List.mem_cons_of_mem _ member)
  untold := shakes.untold
  key := by
    have same : ({ socket with workQueue := blocks } : LGSRWebSocket).reading.openings =
        socket.reading.openings := by
      show (blocks.map WorkBlock.openings).sum = (socket.workQueue.map WorkBlock.openings).sum
      rw [queue, List.map_cons, List.sum_cons, noOpening, Nat.zero_add]
    rw [same]
    exact shakes.key

theorem reading_pop {block : WorkBlock} {blocks : List WorkBlock}
    (queue : socket.workQueue = block :: blocks) (other : block.readsFrames = false)
    (noOpening : block.openings = 0) :
    ({ socket with workQueue := blocks } : LGSRWebSocket).reading = socket.reading := by
  have readers : blocks.filter WorkBlock.readsFrames =
      socket.workQueue.filter WorkBlock.readsFrames := by
    rw [queue, List.filter_cons, other, if_neg (by decide)]
  have openings : (blocks.map WorkBlock.openings).sum =
      (socket.workQueue.map WorkBlock.openings).sum := by
    rw [queue, List.map_cons, List.sum_cons, noOpening, Nat.zero_add]
  simp only [reading, readers, openings]

theorem Accounts.pop (accounts : socket.Accounts script messages pings) {block : WorkBlock}
    {blocks : List WorkBlock} (queue : socket.workQueue = block :: blocks)
    (noPong : block.pong? = none) :
    ({ socket with workQueue := blocks } : LGSRWebSocket).Accounts script messages pings where
  messages := accounts.messages
  pings := by
    have same : ({ socket with workQueue := blocks } : LGSRWebSocket).pendingPings =
        socket.pendingPings := by
      simp only [pendingPings, queue, List.filterMap_cons, noPong]
    rw [same]
    exact accounts.pings

/-- A block that neither reads on nor answers a ping leaves its place to the next. -/
theorem Receives.pop
    (receives : socket.Receives platform requestedProtocols script budget unsent buffer)
    {block : WorkBlock} {blocks : List WorkBlock} (queue : socket.workQueue = block :: blocks)
    (other : block.readsFrames = false) (noOpening : block.openings = 0)
    (noPong : block.pong? = none) :
    ({ socket with workQueue := blocks } : LGSRWebSocket).Receives platform requestedProtocols
      script budget unsent buffer := by
  rcases receives.position with ⟨messages, pings, accounts, position⟩
  refine
    { buffer := receives.buffer
      calm := receives.calm.pop queue
      shakes := fun connecting => (receives.shakes connecting).pop queue noOpening
      position := ⟨messages, pings, accounts.pop queue noPong, ?_⟩ }
  rw [reading_pop queue other noOpening]
  exact position

/-- In a socket that is to send a frame, the handshake is over. -/
theorem Receives.not_connecting
    (receives : socket.Receives platform requestedProtocols script budget unsent buffer)
    {block : WorkBlock} {blocks : List WorkBlock} (queue : socket.workQueue = block :: blocks)
    (sends : block.sendsFrame = true) : socket.readyState ≠ .connecting := by
  intro connecting
  have silent := (receives.shakes connecting).silent block (queue ▸ List.mem_cons_self)
  rw [sends] at silent
  cases silent

/-- A frame that is sent may answer a ping. -/
theorem receives_sendFrameWithOpcode {opcode : UInt8} {data : Option (List UInt8)}
    (inBuffer : socket.readBuffer = buffer) (calm : socket.Calm requestedProtocols)
    (late : socket.readyState ≠ .connecting)
    (received : script.messages = socket.received ++ messages)
    (answered : ∃ answered, script.pings = answered ++ socket.pendingPings ++ pings ∧
      List.Forall₂ Answers
        (socket.pongs ++ (if opcode == LGSROpCode.pong then [data.getD []] else [])) answered)
    (position : Position script.answer budget unsent socket.reading messages pings) :
    (socket.sendFrameWithOpcode platform opcode data).Receives platform requestedProtocols script
      budget unsent buffer := by
  rcases @sendFrameWithOpcode_of_calm platform _ _ calm opcode data with
    ⟨wire, outputBuffer, space, drawn, failedAssertions, sent⟩
  rw [sent]
  refine
    { buffer := inBuffer
      calm := { calm with }
      shakes := fun connecting => absurd connecting late
      position := ⟨messages, pings, { messages := received, pings := ?_ }, position⟩ }
  have pongs : ((socket.sentFrames ++ [(opcode, data.getD [])]).filter fun sent =>
      sent.1 == LGSROpCode.pong).map Prod.snd =
      socket.pongs ++ (if opcode == LGSROpCode.pong then [data.getD []] else []) := by
    rw [List.filter_append, List.map_append, List.filter_singleton]
    show socket.pongs ++ List.map Prod.snd (bif opcode == LGSROpCode.pong then _ else _) = _
    cases opcode == LGSROpCode.pong <;> rfl
  rcases answered with ⟨answered, all, answers⟩
  rw [← pongs] at answers
  exact ⟨answered, all, answers⟩

theorem Receives.send
    (receives : socket.Receives platform requestedProtocols script budget unsent buffer)
    (late : socket.readyState ≠ .connecting) {opcode : UInt8}
    (other : (opcode == LGSROpCode.pong) = false) (data : Option (List UInt8)) :
    (socket.sendFrameWithOpcode platform opcode data).Receives platform requestedProtocols script
      budget unsent buffer := by
  rcases receives.position with ⟨messages, pings, accounts, position⟩
  refine receives_sendFrameWithOpcode receives.buffer receives.calm late accounts.messages ?_ position
  rw [other, if_neg (by decide), List.append_nil]
  exact accounts.pings

/-- The first ping that waits is answered. -/
theorem Receives.sendPong
    (receives : socket.Receives platform requestedProtocols script budget unsent buffer)
    {pingData : Option (List UInt8)} {blocks : List WorkBlock}
    (queue : socket.workQueue = .sendPong pingData :: blocks) :
    ({ socket with workQueue := blocks }.runWorkBlock platform (.sendPong pingData)).Receives
      platform requestedProtocols script budget unsent buffer := by
  rcases receives.position with ⟨messages, pings, accounts, position⟩
  rcases accounts.pings with ⟨answered, all, answers⟩
  have pending : socket.pendingPings =
      pingData :: ({ socket with workQueue := blocks } : LGSRWebSocket).pendingPings := by
    simp only [pendingPings, queue, List.filterMap_cons, WorkBlock.pong?, List.cons_append]
  refine @receives_sendFrameWithOpcode platform requestedProtocols script budget unsent buffer _
    messages pings _ _ receives.buffer (receives.calm.pop queue)
    (receives.not_connecting queue rfl) accounts.messages ⟨answered ++ [pingData], ?_, ?_⟩ ?_
  · rw [all, pending, List.append_assoc, List.append_assoc, List.append_assoc]
    rfl
  · refine List.rel_append answers (.cons (fun data same => ?_) .nil)
    rw [same]
    rfl
  · rw [reading_pop queue rfl rfl]
    exact position

/-- The request is written, and its answer waited for. -/
theorem goes_didConnect (legal : script.IsLegal platform requestedProtocols)
    (calm : socket.Calm requestedProtocols)
    (awaits : socket.reading.Awaits budget .connecting 0 [] []) (fresh : socket.drawn = 0)
    (silent : ∀ block ∈ socket.workQueue, block.sendsFrame = false)
    (untold : ∀ block ∈ socket.delegateQueue, block = .didGetCertificates)
    (noHeader : socket.receivedHTTPHeaders = [])
    (accounts : socket.Accounts script messages pings) {bytes : List UInt8}
    (unread : socket.reading.unread unsent = script.answer ++ bytes)
    (carries : Carries none bytes messages pings) :
    (socket.didConnect platform).Goes platform requestedProtocols script budget unsent := by
  have key : platform.base64Encoded (socket.randomBytes platform 16) = firstKey platform := by
    unfold randomBytes firstKey
    rw [fresh]
  have keyed : ({ socket with
      secKey := firstKey platform
      drawn := socket.drawn + 16 } : LGSRWebSocket).Calm requestedProtocols := { calm with }
  unfold didConnect
  dsimp only
  rw [key]
  rcases writeData_of_calm keyed _ with ⟨wire, outputBuffer, space, written⟩
  rw [written]
  apply goes_pumpScanner legal
  exact
    { buffer := rfl
      calm := { calm with }
      shakes := fun _ => { silent, untold, key := .inr ⟨awaits.openings, rfl⟩ }
      position :=
        ⟨messages, pings, { accounts with },
          .handshake
            { awaits with
              consumers := congrArg (· ++ [headerConsumer]) awaits.consumers }
            noHeader unread carries⟩ }

/-- The opening of the stream starts the handshake, and there is only one. -/
theorem Receives.connect
    (receives : socket.Receives platform requestedProtocols script budget unsent buffer)
    (legal : script.IsLegal platform requestedProtocols) {blocks : List WorkBlock}
    (queue : socket.workQueue = .safeHandleEvent (.openCompleted true) :: blocks)
    (connecting : socket.readyState = .connecting) :
    ({ socket with workQueue := blocks }.didConnect platform).Goes platform requestedProtocols
      script budget unsent := by
  have openings : socket.reading.openings = 1 + (blocks.map WorkBlock.openings).sum := by
    show (socket.workQueue.map WorkBlock.openings).sum = _
    rw [queue]
    rfl
  have readers : socket.reading.readers = blocks.filter WorkBlock.readsFrames := by
    show socket.workQueue.filter WorkBlock.readsFrames = _
    rw [queue]
    rfl
  have shakes := receives.shakes connecting
  have fresh : socket.drawn = 0 := by
    rcases shakes.key with ⟨_, fresh⟩ | ⟨none, _⟩
    · exact fresh
    · omega
  have late {total : Nat} {consumers : List LGSRIOConsumer} {waiting : List WorkBlock} {P : Prop}
      (awaits : socket.reading.Awaits budget .open total consumers waiting) : P := by
    have opened : socket.readyState = .open := awaits.readyState
    rw [connecting] at opened
    cases opened
  rcases receives.position with ⟨messages, pings, accounts, position⟩
  cases position with
  | opening awaits noHeader unread carries =>
      refine goes_didConnect legal (receives.calm.pop queue) ?_ fresh
        (fun other member => shakes.silent other (queue ▸ List.mem_cons_of_mem _ member))
        shakes.untold noHeader (accounts.pop queue rfl) unread carries
      exact
        { awaits with
          openings := by
            have one := awaits.openings
            rw [openings] at one
            show budget + (blocks.map WorkBlock.openings).sum = 0
            omega
          readers := readers.symm.trans awaits.readers }
  | handshake awaits =>
      have none := awaits.openings
      omega
  | new awaits => exact late awaits
  | goesOn awaits => exact late awaits
  | frame awaits => exact late awaits
  | extra awaits => exact late awaits
  | control awaits => exact late awaits
  | data awaits => exact late awaits

theorem Receives.early
    (receives : socket.Receives platform requestedProtocols script budget unsent buffer) :
    socket.readyState = .connecting ∨ (socket.readyState = .open ∧ budget + socket.reading.openings = 0) := by
  rcases receives.position with ⟨messages, pings, accounts, position⟩
  cases position with
  | opening awaits => exact .inl awaits.readyState
  | handshake awaits => exact .inl awaits.readyState
  | new awaits => exact .inr ⟨awaits.readyState, awaits.openings⟩
  | goesOn awaits => exact .inr ⟨awaits.readyState, awaits.openings⟩
  | frame awaits => exact .inr ⟨awaits.readyState, awaits.openings⟩
  | extra awaits => exact .inr ⟨awaits.readyState, awaits.openings⟩
  | control awaits => exact .inr ⟨awaits.readyState, awaits.openings⟩
  | data awaits => exact .inr ⟨awaits.readyState, awaits.openings⟩

/-- The block that waits to read on is the next one of its kind. -/
theorem readers_pop {block : WorkBlock} {blocks : List WorkBlock} {readyState : LGSRReadyState}
    {openings : Nat} {consumers : List LGSRIOConsumer} {readers : List WorkBlock}
    (awaits : socket.reading.Awaits budget readyState openings consumers readers)
    (queue : socket.workQueue = block :: blocks) (reads : block.readsFrames = true)
    (noOpening : block.openings = 0) :
    ∃ others, readers = block :: others ∧
      ({ socket with workQueue := blocks } : LGSRWebSocket).reading.Awaits budget readyState openings
        consumers others := by
  have first : socket.workQueue.filter WorkBlock.readsFrames =
      block :: blocks.filter WorkBlock.readsFrames := by
    rw [queue, List.filter_cons, reads, if_pos rfl]
  refine ⟨blocks.filter WorkBlock.readsFrames, awaits.readers.symm.trans first, ?_⟩
  exact
    { awaits with
      openings := by
        have total : budget + (socket.workQueue.map WorkBlock.openings).sum = openings :=
          awaits.openings
        rw [queue, List.map_cons, List.sum_cons, noOpening, Nat.zero_add] at total
        exact total
      readers := rfl }

theorem Receives.readFrames
    (receives : socket.Receives platform requestedProtocols script budget unsent buffer)
    (legal : script.IsLegal platform requestedProtocols) {block : WorkBlock}
    {blocks : List WorkBlock} (queue : socket.workQueue = block :: blocks)
    (reads : block.readsFrames = true) :
    ({ socket with workQueue := blocks }.runWorkBlock platform block).Goes platform
      requestedProtocols script budget unsent := by
  have noOpening : block.openings = 0 := by
    cases block <;> first | rfl | cases reads
  have noPong : block.pong? = none := by
    cases block <;> first | rfl | cases reads
  rcases receives.position with ⟨messages, pings, accounts, position⟩
  have waits {readyState : LGSRReadyState} {openings : Nat} {consumers : List LGSRIOConsumer}
      {P : Prop} (awaits : socket.reading.Awaits budget readyState openings consumers []) : P := by
    rcases readers_pop awaits queue reads noOpening with ⟨_, none, _⟩
    cases none
  cases position with
  | opening awaits => exact waits awaits
  | handshake awaits => exact waits awaits
  | frame awaits => exact waits awaits
  | extra awaits => exact waits awaits
  | control awaits => exact waits awaits
  | data awaits => exact waits awaits
  | new awaits carries =>
      rcases readers_pop awaits queue reads noOpening with ⟨others, same, popped⟩
      cases same
      have resting : ({ socket with
          workQueue := blocks
          currentFrameData := []
          currentFrameOpcode := 0
          currentFrameCount := 0
          currentStringScanPosition := 0 } : LGSRWebSocket).Resting requestedProtocols script budget
          socket.readBuffer messages pings :=
        { buffer := rfl
          calm := { receives.calm.pop queue with }
          awaits := { popped with }
          accounts := { accounts.pop queue noPong with } }
      have holds : CurrentFrame.Holds none messages
          { opcode := 0, count := 0, data := [], stringScanPosition := 0 } := ⟨rfl, rfl, rfl, rfl⟩
      exact goes_pumpScanner legal (receives_readFrameContinue resting holds carries)
  | goesOn awaits holds carries =>
      rcases readers_pop awaits queue reads noOpening with ⟨others, same, popped⟩
      cases same
      have resting : ({ socket with workQueue := blocks } : LGSRWebSocket).Resting
          requestedProtocols script budget socket.readBuffer messages pings :=
        { buffer := rfl
          calm := receives.calm.pop queue
          awaits := popped
          accounts := accounts.pop queue noPong }
      exact goes_pumpScanner legal (receives_readFrameContinue resting holds carries)

/-- The event of a stream goes back to the end of the queue. -/
theorem Receives.handleEvent
    (receives : socket.Receives platform requestedProtocols script budget unsent buffer)
    {event : StreamEvent} {blocks : List WorkBlock}
    (queue : socket.workQueue = .handleEvent event :: blocks) :
    ({ socket with workQueue := blocks }.dispatch (.safeHandleEvent event)).Receives platform
      requestedProtocols script budget unsent buffer := by
  have ordinary : event.isOrdinary = true :=
    receives.calm.workQueue (.handleEvent event) (queue ▸ List.mem_cons_self)
  have same : ({ socket with workQueue := blocks }.dispatch (.safeHandleEvent event)).reading =
      socket.reading := by
    have readers : (blocks ++ [WorkBlock.safeHandleEvent event]).filter WorkBlock.readsFrames =
        socket.workQueue.filter WorkBlock.readsFrames := by
      rw [queue, List.filter_append]
      exact List.append_nil _
    have openings : ((blocks ++ [WorkBlock.safeHandleEvent event]).map WorkBlock.openings).sum =
        (socket.workQueue.map WorkBlock.openings).sum := by
      rw [queue, List.map_append, List.sum_append, List.map_singleton, List.sum_singleton,
        WorkBlock.openings_safeHandleEvent, List.map_cons, List.sum_cons, Nat.add_comm]
    simp only [reading, dispatch, readers, openings]
  rcases receives.position with ⟨messages, pings, accounts, position⟩
  refine
    { buffer := receives.buffer
      calm := (receives.calm.pop queue).dispatch ordinary
      shakes := fun connecting => ?_
      position := ⟨messages, pings, (accounts.pop queue rfl).dispatch rfl, ?_⟩ }
  · have shakes := receives.shakes connecting
    refine { silent := fun other member => ?_, untold := shakes.untold, key := ?_ }
    · rcases List.mem_append.mp member with before | now
      · exact shakes.silent other (queue ▸ List.mem_cons_of_mem _ before)
      · rw [List.mem_singleton.mp now]
        rfl
    · rw [same]
      exact shakes.key
  · rw [same]
    exact position

theorem goes_runSafeHandleEvent
    (receives : socket.Receives platform requestedProtocols script budget unsent buffer)
    (rests : socket.Stalled) (legal : script.IsLegal platform requestedProtocols)
    {event : StreamEvent} {blocks : List WorkBlock}
    (queue : socket.workQueue = .safeHandleEvent event :: blocks) :
    ({ socket with workQueue := blocks }.runSafeHandleEvent platform event).Goes platform
      requestedProtocols script budget unsent := by
  have ordinary : event.isOrdinary = true :=
    receives.calm.workQueue (.safeHandleEvent event) (queue ▸ List.mem_cons_self)
  have popped (noOpening : (WorkBlock.safeHandleEvent event).openings = 0) :=
    receives.pop queue rfl noOpening rfl
  cases event with
  | openCompleted isInput =>
      have early : ¬ LGSRReadyState.closing.rawValue ≤ socket.readyState.rawValue := by
        rcases receives.early with same | ⟨same, _⟩ <;> rw [same] <;> decide
      unfold runSafeHandleEvent
      dsimp only
      rw [if_neg early]
      cases isInput with
      | true =>
          rcases receives.early with connecting | ⟨_, none⟩
          · rw [if_pos ⟨connecting, rfl⟩]
            exact goes_pumpScanner legal (receives.connect legal queue connecting).1.pumpWriting
          · have some : socket.reading.openings = 1 + (blocks.map WorkBlock.openings).sum := by
              show (socket.workQueue.map WorkBlock.openings).sum = _
              rw [queue]
              rfl
            omega
      | false =>
          rw [if_neg fun both => nomatch both.2]
          exact goes_pumpScanner legal (popped rfl).pumpWriting
  | hasBytesAvailable =>
      rcases (popped rfl).readAvailable with ⟨_, filled⟩
      exact goes_pumpScanner legal filled
  | hasSpaceAvailable =>
      have written := (popped rfl).pumpWriting
      rcases pumpWriting_of_calm (popped rfl).calm with ⟨wire, outputBuffer, space, same⟩
      unfold runSafeHandleEvent
      dsimp only
      rw [same] at written ⊢
      exact ⟨receives.buffer ▸ written, rests⟩
  | other => exact ⟨receives.buffer ▸ popped rfl, rests⟩
  | errorOccurred error => cases ordinary
  | endEncountered error => cases ordinary

/-- Sending leaves the scanner where it is. -/
theorem goes_sendFrameWithOpcode {opcode : UInt8} {data : Option (List UInt8)}
    (calm : socket.Calm requestedProtocols) (rests : socket.Stalled)
    (sent : (socket.sendFrameWithOpcode platform opcode data).Receives platform requestedProtocols
      script budget unsent buffer) :
    (socket.sendFrameWithOpcode platform opcode data).Goes platform requestedProtocols script budget
      unsent := by
  have same := sent.buffer
  rcases @sendFrameWithOpcode_of_calm platform _ _ calm opcode data with ⟨_, _, _, _, _, changed⟩
  rw [changed] at sent same ⊢
  exact ⟨same ▸ sent, rests⟩

theorem goes_runWorkBlock (legal : script.IsLegal platform requestedProtocols)
    {block : WorkBlock} {blocks : List WorkBlock}
    (goes : socket.Goes platform requestedProtocols script budget unsent)
    (queue : socket.workQueue = block :: blocks) :
    ({ socket with workQueue := blocks }.runWorkBlock platform block).Goes platform
      requestedProtocols script budget unsent := by
  rcases goes with ⟨receives, rests⟩
  have ordinary : block.isOrdinary = true :=
    receives.calm.workQueue block (queue ▸ List.mem_cons_self)
  cases block with
  | handleEvent event => exact ⟨receives.buffer ▸ receives.handleEvent queue, rests⟩
  | safeHandleEvent event => exact goes_runSafeHandleEvent receives rests legal queue
  | send data =>
      have popped := receives.pop queue rfl rfl rfl
      have late := receives.not_connecting queue rfl
      match data with
      | none => exact goes_sendFrameWithOpcode popped.calm rests (popped.send late rfl none)
      | some (.string text) =>
          exact goes_sendFrameWithOpcode popped.calm rests (popped.send late rfl (some (utf8Bytes text)))
      | some (.data bytes) =>
          exact goes_sendFrameWithOpcode popped.calm rests (popped.send late rfl (some bytes))
  | sendPong pingData =>
      exact goes_sendFrameWithOpcode (receives.calm.pop queue) rests (receives.sendPong queue)
  | readFrameNew => exact receives.readFrames legal queue rfl
  | readFrameContinue => exact receives.readFrames legal queue rfl
  | invalidCertificate => cases ordinary
  | closeWithCode code reason => cases ordinary
  | closeConnection => cases ordinary
  | closeNormally => cases ordinary
  | failWithError error => cases ordinary

theorem Calm.popDelegate (calm : socket.Calm requestedProtocols) {block : DelegateBlock}
    {blocks : List DelegateBlock} (queue : socket.delegateQueue = block :: blocks) :
    ({ socket with delegateQueue := blocks } : LGSRWebSocket).Calm requestedProtocols :=
  { calm with
    delegateQueue := fun other member =>
      calm.delegateQueue other (queue ▸ List.mem_cons_of_mem _ member) }

theorem goes_runDelegateBlock {block : DelegateBlock} {blocks : List DelegateBlock}
    (goes : socket.Goes platform requestedProtocols script budget unsent)
    (queue : socket.delegateQueue = block :: blocks) :
    ({ socket with delegateQueue := blocks }.runDelegateBlock block).Goes platform
      requestedProtocols script budget unsent := by
  rcases goes with ⟨receives, rests⟩
  have ordinary : block.isOrdinary = true :=
    receives.calm.delegateQueue block (queue ▸ List.mem_cons_self)
  have late (tells : block ≠ .didGetCertificates) : socket.readyState ≠ .connecting :=
    fun connecting =>
      tells ((receives.shakes connecting).untold block (queue ▸ List.mem_cons_self))
  have calm := receives.calm.popDelegate queue
  rcases receives.position with ⟨messages, pings, accounts, position⟩
  cases block with
  | call made =>
      have received : ({ socket with delegateQueue := blocks }.callDelegate made).received =
          socket.received := by
        simp only [LGSRWebSocket.received, callDelegate, queue, List.filterMap_append,
          List.filterMap_cons, List.filterMap_nil, DelegateBlock.message?]
        cases made.message? with
        | none => rw [List.append_nil]
        | some message => rw [List.append_assoc]; rfl
      have pending : ({ socket with delegateQueue := blocks }.callDelegate made).pendingPings =
          socket.pendingPings := by
        simp only [pendingPings, callDelegate, queue, List.filterMap_cons, DelegateBlock.ping?]
      refine
        ⟨{ buffer := receives.buffer
           calm := { calm with }
           shakes := fun connecting => absurd connecting (late (by rintro ⟨⟩))
           position := ⟨messages, pings, ⟨?_, ?_⟩, position⟩ }, rests⟩
      · exact accounts.messages.trans (congrArg (· ++ messages) received.symm)
      · exact pending.symm ▸ accounts.pings
  | didGetCertificates =>
      have received : ({ socket with delegateQueue := blocks }.callDelegate
          (.didGetCertificates socket.sslData)).received = socket.received := by
        simp only [LGSRWebSocket.received, callDelegate, queue, List.filterMap_append,
          List.filterMap_cons, List.filterMap_nil, DelegateCall.message?, DelegateBlock.message?,
          List.append_nil]
      have pending : ({ socket with delegateQueue := blocks }.callDelegate
          (.didGetCertificates socket.sslData)).pendingPings = socket.pendingPings := by
        simp only [pendingPings, callDelegate, queue, List.filterMap_cons, DelegateBlock.ping?]
      refine
        ⟨{ buffer := receives.buffer
           calm := { calm with }
           shakes := fun connecting =>
             { receives.shakes connecting with
               untold := fun other member =>
                 (receives.shakes connecting).untold other (queue ▸ List.mem_cons_of_mem _ member) }
           position := ⟨messages, pings, ⟨?_, ?_⟩, position⟩ }, rests⟩
      · exact accounts.messages.trans (congrArg (· ++ messages) received.symm)
      · exact pending.symm ▸ accounts.pings
  | handlePing pingData =>
      have received : ({ socket with delegateQueue := blocks }.dispatch
          (.sendPong pingData)).received = socket.received := by
        simp only [LGSRWebSocket.received, dispatch, queue, List.filterMap_cons,
          DelegateBlock.message?]
      have pending : ({ socket with delegateQueue := blocks }.dispatch
          (.sendPong pingData)).pendingPings = socket.pendingPings := by
        simp only [pendingPings, dispatch, queue, List.filterMap_append, List.filterMap_cons,
          List.filterMap_nil, WorkBlock.pong?, DelegateBlock.ping?, List.append_assoc,
          List.singleton_append]
      refine
        ⟨{ buffer := receives.buffer
           calm := calm.dispatch rfl
           shakes := fun connecting => absurd connecting (late (by rintro ⟨⟩))
           position := ⟨messages, pings, ⟨?_, ?_⟩, ?_⟩ }, rests⟩
      · exact accounts.messages.trans (congrArg (· ++ messages) received.symm)
      · exact pending.symm ▸ accounts.pings
      · rw [runDelegateBlock, @reading_dispatch (.sendPong pingData) rfl rfl]
        exact position
  | didClose => cases ordinary
  | closeWithProtocolError message => cases ordinary

end LGSRWebSocket

/-! ## Runs -/

namespace SocketEvent

/-- What the server has sent that the event makes arrive. -/
def arrival : SocketEvent → List UInt8
  | .bytesArrive bytes => bytes
  | _ => []

/-- Events of a connection that goes on, of which the owner sends nothing before it is open. -/
def Allowed (socket : LGSRWebSocket) : SocketEvent → Prop
  | .send _ => socket.readyState ≠ .connecting
  | .streamEvent event => event.isOrdinary = true
  | .closeWithCode _ _ => False
  | .inputFails _ => False
  | .outputFails => False
  | .secureStreamEvent _ _ accepted => accepted = true
  | _ => True

instance (socket : LGSRWebSocket) : ∀ event, Decidable (Allowed socket event)
  | .open => isTrue trivial
  | .send _ => inferInstanceAs (Decidable (socket.readyState ≠ .connecting))
  | .closeWithCode _ _ => isFalse id
  | .bytesArrive _ => isTrue trivial
  | .inputFails _ => isFalse id
  | .spaceAppears _ => isTrue trivial
  | .outputFails => isFalse id
  | .streamEvent event => inferInstanceAs (Decidable (event.isOrdinary = true))
  | .secureStreamEvent _ _ accepted => inferInstanceAs (Decidable (accepted = true))
  | .runWorkBlock => isTrue trivial
  | .runDelegateBlock => isTrue trivial
  | .cleanup => isTrue trivial

end SocketEvent

namespace LGSRWebSocket

variable {platform : Platform} {requestedProtocols : Option (List String)} {script : Script}
  {budget : Nat} {unsent buffer : List UInt8} {socket : LGSRWebSocket} {messages : List Message}
  {pings : List (Option (List UInt8))}

/-- What changes neither the queues nor where the socket reads. -/
theorem Goes.congr (goes : socket.Goes platform requestedProtocols script budget unsent)
    {next : LGSRWebSocket} (calm : next.Calm requestedProtocols)
    (reading : next.reading = socket.reading) (workQueue : next.workQueue = socket.workQueue)
    (delegateQueue : next.delegateQueue = socket.delegateQueue)
    (delegateCalls : next.delegateCalls = socket.delegateCalls)
    (sentFrames : next.sentFrames = socket.sentFrames) (drawn : next.drawn = socket.drawn)
    (secKey : next.secKey = socket.secKey) :
    next.Goes platform requestedProtocols script budget unsent := by
  rcases goes with ⟨receives, rests⟩
  rcases receives.position with ⟨messages, pings, accounts, position⟩
  have consumers : next.consumers = socket.consumers := congrArg Reading.consumers reading
  have readBuffer : next.readBuffer = socket.readBuffer := congrArg Reading.readBuffer reading
  refine
    ⟨{ buffer := rfl
       calm
       shakes := fun connecting => ?_
       position := ⟨messages, pings, ⟨?_, ?_⟩, reading ▸ position⟩ }, ?_⟩
  · have before : socket.readyState = .connecting :=
      (congrArg Reading.readyState reading).symm.trans connecting
    have shakes := receives.shakes before
    exact
      { silent := workQueue ▸ shakes.silent
        untold := delegateQueue ▸ shakes.untold
        key := by
          rw [reading, drawn, secKey]
          exact shakes.key }
  · rw [accounts.messages]
    simp only [received, delegateCalls, delegateQueue]
  · have same : next.pendingPings = socket.pendingPings ∧ next.pongs = socket.pongs := by
      simp only [pendingPings, pongs, workQueue, delegateQueue, sentFrames, and_self]
    rw [same.1, same.2]
    exact accounts.pings
  · intro consumer others first present
    rw [readBuffer] at present ⊢
    exact rests consumer others (consumers.symm.trans first) present

theorem Goes.assert (goes : socket.Goes platform requestedProtocols script budget unsent)
    (holds : Bool) (assertion : Assertion) :
    (socket.assert holds assertion).Goes platform requestedProtocols script budget unsent := by
  unfold LGSRWebSocket.assert
  split
  · exact goes
  · exact goes.congr { goes.1.calm with } rfl rfl rfl rfl rfl rfl rfl

/-- A block that the owner or a stream puts on the work queue. -/
theorem Goes.dispatch {openings : Nat}
    (goes : socket.Goes platform requestedProtocols script (budget + openings) unsent)
    {block : WorkBlock} (ordinary : block.isOrdinary = true) (noPong : block.pong? = none)
    (other : block.readsFrames = false) (counted : block.openings = openings)
    (silent : socket.readyState = .connecting → block.sendsFrame = false) :
    (socket.dispatch block).Goes platform requestedProtocols script budget unsent := by
  rcases goes with ⟨receives, rests⟩
  rcases receives.position with ⟨messages, pings, accounts, position⟩
  have reading : (socket.dispatch block).reading =
      { socket.reading with openings := socket.reading.openings + openings } := by
    simp only [LGSRWebSocket.dispatch, LGSRWebSocket.reading, List.filter_append, List.filter_cons,
      other, Bool.false_eq_true, ↓reduceIte, List.filter_nil, List.append_nil, List.map_append,
      List.sum_append, List.map_cons, counted, List.map_nil, List.sum_cons, List.sum_nil,
      Nat.add_zero]
  refine
    ⟨{ buffer := receives.buffer
       calm := receives.calm.dispatch ordinary
       shakes := fun connecting => ?_
       position := ⟨messages, pings, accounts.dispatch noPong, ?_⟩ }, rests⟩
  · have shakes := receives.shakes connecting
    refine { silent := fun block member => ?_, untold := shakes.untold, key := ?_ }
    · rcases List.mem_append.mp member with before | now
      · exact shakes.silent block before
      · exact List.mem_singleton.mp now ▸ silent connecting
    · rw [reading]
      rcases shakes.key with ⟨one, fresh⟩ | ⟨none, key⟩
      · exact .inl ⟨by dsimp only; omega, fresh⟩
      · exact .inr ⟨by dsimp only; omega, key⟩
  · rw [reading]
    exact position.recount (by omega)

/-- Certificates are told of at any time. -/
theorem Goes.tellCertificates
    (goes : socket.Goes platform requestedProtocols script budget unsent)
    (certificates : Option (List String)) :
    ({ socket with sslData := certificates }.performDelegateBlock .didGetCertificates).Goes platform
      requestedProtocols script budget unsent := by
  rcases goes with ⟨receives, rests⟩
  rcases receives.position with ⟨messages, pings, accounts, position⟩
  have kept : ({ socket with sslData := certificates } : LGSRWebSocket).Calm requestedProtocols :=
    { receives.calm with }
  have counts : ({ socket with sslData := certificates } : LGSRWebSocket).Accounts script messages
      pings := { accounts with }
  exact
    ⟨{ buffer := receives.buffer
       calm := kept.performDelegateBlock rfl
       shakes := fun connecting =>
         { receives.shakes connecting with
           untold := by
             intro block member
             rcases List.mem_append.mp member with before | now
             · exact (receives.shakes connecting).untold block before
             · exact List.mem_singleton.mp now }
       position := ⟨messages, pings, counts.performDelegateBlock rfl rfl, position⟩ }, rests⟩

theorem goes_step (legal : script.IsLegal platform requestedProtocols) {event : SocketEvent}
    (goes : socket.Goes platform requestedProtocols script (budget + event.openings)
      (event.arrival ++ unsent))
    (allowed : event.Allowed socket) :
    (socket.step platform event).Goes platform requestedProtocols script budget unsent := by
  cases event with
  | «open» =>
      have asserted := goes.assert (decide (socket.readyState = .connecting)) .openWhileConnecting
      rw [step]
      generalize socket.assert (decide (socket.readyState = .connecting)) .openWhileConnecting = going
        at asserted
      unfold openConnection
      split
      · exact asserted.congr { asserted.1.calm with } rfl rfl rfl rfl rfl rfl rfl
      · exact asserted
  | send data =>
      have late : socket.readyState ≠ .connecting := allowed
      have same : socket.step platform (.send data) = socket.dispatch (.send data) := by
        rw [step, assert_of_true (decide_eq_true late)]
      rw [same]
      exact goes.dispatch rfl rfl rfl rfl fun connecting => absurd connecting late
  | bytesArrive bytes =>
      rcases goes with ⟨receives, rests⟩
      rcases receives.position with ⟨messages, pings, accounts, position⟩
      have same : socket.readBuffer ++ (socket.arrived ++ bytes ++ unsent) =
          socket.reading.unread (bytes ++ unsent) := by
        rw [List.append_assoc socket.arrived]
        rfl
      exact
        ⟨{ buffer := rfl
           calm := { receives.calm with }
           shakes := fun connecting => { receives.shakes connecting with }
           position := ⟨messages, pings, { accounts with }, position.refill same⟩ }, rests⟩
  | spaceAppears count => exact goes.congr { goes.1.calm with } rfl rfl rfl rfl rfl rfl rfl
  | streamEvent event =>
      have same : socket.step platform (.streamEvent event) =
          socket.dispatch (.handleEvent event) := if_pos goes.1.calm.attached
      rw [same]
      exact goes.dispatch allowed rfl rfl (SocketEvent.openings_handleEvent event) fun _ => rfl
  | secureStreamEvent hasBytes certificates accepted =>
      have accepts : accepted = true := allowed
      have same : socket.step platform (.secureStreamEvent hasBytes certificates accepted) =
          ({ socket with sslData := certificates }.performDelegateBlock
            .didGetCertificates).dispatch
              (.handleEvent (if hasBytes then .hasBytesAvailable else .hasSpaceAvailable)) := by
        rw [step, if_pos goes.1.calm.attached]
        dsimp only
        rw [if_pos accepts]
      rw [same]
      have told := goes.tellCertificates certificates
      cases hasBytes with
      | true => exact told.dispatch rfl rfl rfl rfl fun _ => rfl
      | false => exact told.dispatch rfl rfl rfl rfl fun _ => rfl
  | runWorkBlock =>
      unfold step
      dsimp only
      split
      · exact goes
      · rename_i queue
        exact goes_runWorkBlock legal goes queue
  | runDelegateBlock =>
      unfold step
      dsimp only
      split
      · exact goes
      · rename_i queue
        exact goes_runDelegateBlock goes queue
  | cleanup =>
      have same : socket.step platform .cleanup = socket :=
        if_neg (ne_true_of_eq_false goes.1.calm.keeps)
      rw [same]
      exact goes
  | closeWithCode code reason => exact allowed.elim
  | inputFails error => exact allowed.elim
  | outputFails => exact allowed.elim

/-- The bytes that the events make arrive. -/
def arrivals (events : List SocketEvent) : List UInt8 :=
  events.flatMap SocketEvent.arrival

theorem goes_run (legal : script.IsLegal platform requestedProtocols)
    (events : List SocketEvent) :
    ∀ {socket : LGSRWebSocket},
      socket.Goes platform requestedProtocols script
        (budget + (events.map SocketEvent.openings).sum) (arrivals events ++ unsent) →
      EveryStep (fun socket event => some (step platform socket event))
        (fun socket event => event.Allowed socket) socket events →
      (run platform socket events).Goes platform requestedProtocols script budget unsent := by
  induction events with
  | nil => exact fun goes _ => goes
  | cons event events induction =>
      intro socket goes every
      have counted : budget + ((event :: events).map SocketEvent.openings).sum =
          budget + (events.map SocketEvent.openings).sum + event.openings := by
        rw [List.map_cons, List.sum_cons]
        omega
      have parts : arrivals (event :: events) ++ unsent =
          event.arrival ++ (arrivals events ++ unsent) := by
        rw [arrivals, List.flatMap_cons, List.append_assoc]
        rfl
      rw [counted, parts] at goes
      exact induction (goes_step legal goes every.1) (every.head rfl)

theorem goes_init (legal : script.IsLegal platform requestedProtocols) :
    ({ requestedProtocols } : LGSRWebSocket).Goes platform requestedProtocols script 1
      script.bytes := by
  refine ⟨?_, nofun⟩
  exact
    { buffer := rfl
      calm :=
        { workQueue := nofun
          delegateQueue := nofun
          outputFails := rfl
          inputError := rfl
          goesOn := rfl
          keeps := rfl
          attached := rfl
          requestedProtocols := rfl }
      shakes := fun _ => { silent := nofun, untold := nofun, key := .inl ⟨rfl, rfl⟩ }
      position :=
        ⟨script.messages, script.pings, ⟨rfl, [], rfl, .nil⟩,
          .opening ⟨rfl, rfl, rfl, rfl⟩ rfl rfl
            ⟨legal.readable, script.sent, rfl, legal.fit, legal.unmasked, legal.assembles, rfl⟩⟩ }

/-- Of a socket that has read all there is, and waits for more, the server has sent all. -/
theorem Goes.nothing_left (goes : socket.Goes platform requestedProtocols script 0 [])
    (legal : script.IsLegal platform requestedProtocols) (read : socket.arrived = [])
    (idle : socket.workQueue = [])
    (position : Position script.answer 0 [] socket.reading messages pings) :
    messages = [] ∧ pings = [] := by
  have noReaders : socket.reading.readers = [] := by
    show socket.workQueue.filter WorkBlock.readsFrames = []
    rw [idle]
    rfl
  have noOpenings : socket.reading.openings = 0 := by
    show (socket.workQueue.map WorkBlock.openings).sum = 0
    rw [idle]
    rfl
  have unread : socket.reading.unread [] = socket.readBuffer := by
    show socket.readBuffer ++ (socket.arrived ++ []) = socket.readBuffer
    rw [read]
    exact List.append_nil _
  have stuck {consumer : LGSRIOConsumer} (only : socket.reading.consumers = [consumer])
      (present : socket.readBuffer ≠ []) :
      consumer.readToCurrentFrame = false ∧ foundSize consumer socket.readBuffer = 0 :=
    goes.2 consumer [] only present
  have short {consumer : LGSRIOConsumer} (only : socket.reading.consumers = [consumer])
      (noScanner : consumer.scanner = none) {front back : List UInt8}
      (parts : socket.readBuffer = front ++ back) (size : consumer.bytesNeeded = front.length)
      (some : front ≠ []) {P : Prop} : P := by
    have positive := List.length_pos_iff.mpr some
    have present : socket.readBuffer ≠ [] := by
      rw [parts]
      exact List.append_ne_nil_of_left_ne_nil some back
    have enough : consumer.bytesNeeded ≤ socket.readBuffer.length := by
      rw [parts, size, List.length_append]
      exact Nat.le_add_right _ _
    have none := (stuck only present).2
    unfold foundSize at none
    rw [noScanner] at none
    dsimp only at none
    rw [if_pos enough, size] at none
    omega
  cases position with
  | opening awaits =>
      have one := awaits.openings
      rw [noOpenings] at one
      cases one
  | new awaits => cases awaits.readers.symm.trans noReaders
  | goesOn awaits => cases awaits.readers.symm.trans noReaders
  | @handshake bytes _ _ awaits _ parts _ =>
      rw [unread] at parts
      have present : socket.readBuffer ≠ [] := by
        rw [parts]
        exact List.append_ne_nil_of_left_ne_nil legal.accepts.present _
      have none : findBytes crlfcrlf 0 0 socket.readBuffer = 0 := (stuck awaits.consumers present).2
      have found : findBytes crlfcrlf 0 0 script.answer ≠ 0 := by
        rw [legal.accepts.ends]
        exact mt List.length_eq_zero_iff.mp legal.accepts.present
      rw [parts, findBytes_append bytes found] at none
      exact absurd none found
  | frame awaits _ carries =>
      rw [unread] at carries
      rcases carries.next with ⟨_, noMessages, noPings⟩ | ⟨coding, frame, after, _, _, bytes, _⟩
      · exact ⟨noMessages, noPings⟩
      · have parts : socket.readBuffer =
            [WebSocket.firstByte frame,
              WebSocket.secondByte coding.key.isSome (coding.form.code frame.payload.length)] ++
            (coding.extra frame.payload.length ++
              WebSocket.maskedWith coding.key frame.payload ++ after) := bytes
        exact short awaits.consumers rfl parts rfl nofun
  | @extra _ _ coding frame _ _ _ awaits _ _ _ longer _ parts _ =>
      rw [unread] at parts
      have size := WebSocket.length_bigEndian coding.form.count frame.payload.length
      refine short awaits.consumers rfl parts size.symm fun none => longer ?_
      rw [← size, none]
      rfl
  | control awaits _ _ present _ parts _ =>
      rw [unread] at parts
      exact short awaits.consumers rfl parts rfl present
  | data awaits _ present _ _ parts _ =>
      rw [unread] at parts
      exact short awaits.consumers rfl parts rfl present

/-- The messages that the delegate was told of. -/
def told (socket : LGSRWebSocket) : List Message :=
  socket.delegateCalls.filterMap DelegateCall.message?

/-- The stream has opened, all that the server sends has arrived, and the socket has done all it
had to do. -/
structure Settled (script : Script) (events : List SocketEvent) (socket : LGSRWebSocket) : Prop where
  opened : (events.map SocketEvent.openings).sum = 1
  all : arrivals events = script.bytes
  read : socket.arrived = []
  workQueue : socket.workQueue = []
  delegateQueue : socket.delegateQueue = []

theorem goes_of_run (legal : script.IsLegal platform requestedProtocols)
    {events : List SocketEvent} {left : List UInt8}
    (every : EveryStep (fun socket event => some (step platform socket event))
      (fun socket event => event.Allowed socket) { requestedProtocols } events)
    (once : (events.map SocketEvent.openings).sum ≤ 1)
    (sent : arrivals events ++ left = script.bytes) :
    (run platform { requestedProtocols } events).Goes platform requestedProtocols script
      (1 - (events.map SocketEvent.openings).sum) left := by
  refine goes_run legal events ?_ every
  rw [Nat.sub_add_cancel once, sent]
  exact goes_init legal

/-- Of a server that keeps to the protocol the delegate is told every message once, in order, in
whatever pieces the bytes arrive and in whatever order the queues run. -/
theorem run_told (platform : Platform) (requestedProtocols : Option (List String))
    (script : Script) (legal : script.IsLegal platform requestedProtocols)
    (events : List SocketEvent)
    (every : EveryStep (fun socket event => some (step platform socket event))
      (fun socket event => event.Allowed socket) { requestedProtocols } events)
    (once : (events.map SocketEvent.openings).sum ≤ 1)
    (sent : arrivals events <+: script.bytes) :
    (run platform { requestedProtocols } events).told <+: script.messages ∧
      (Settled script events (run platform { requestedProtocols } events) →
        (run platform { requestedProtocols } events).told = script.messages) := by
  rcases sent with ⟨left, sent⟩
  have goes := goes_of_run legal every once sent
  rcases goes.1.position with ⟨messages, pings, accounts, position⟩
  have all : script.messages = (run platform { requestedProtocols } events).told ++
      ((run platform { requestedProtocols } events).delegateQueue.filterMap DelegateBlock.message? ++
        messages) := accounts.messages.trans (List.append_assoc _ _ _)
  refine ⟨all ▸ List.prefix_append _ _, fun settled => ?_⟩
  have none : left = [] := by
    rw [settled.all] at sent
    exact List.append_right_eq_self.mp sent
  rw [settled.opened, none] at goes position
  rw [all, settled.delegateQueue,
    (goes.nothing_left legal settled.read settled.workQueue position).1]
  exact (List.append_nil _).symm

/-- A text in two frames, with a ping between them. -/
def sampleScript : Script where
  answer := sampleHeader
  sent :=
    [({ key := none, form := .none },
        { fin := false, opcode := WebSocket.Opcode.text, payload := [0x68] }),
      ({ key := none, form := .none },
        { fin := true, opcode := WebSocket.Opcode.ping, payload := [0x78] }),
      ({ key := none, form := .none },
        { fin := true, opcode := WebSocket.Opcode.continuation, payload := [0x69] })]
  messages := [.text "hi"]

theorem sampleScript_isLegal : sampleScript.IsLegal samplePlatform none where
  accepts :=
    { present := by decide +kernel
      ends := by decide +kernel
      complete := by decide +kernel
      status := by decide
      accept := rfl
      negotiated := nofun }
  fit := by
    intro part member
    rcases List.mem_cons.mp member with rfl | member
    · exact (by decide : 1 < 126)
    rcases List.mem_cons.mp member with rfl | member
    · exact (by decide : 1 < 126)
    cases List.mem_singleton.mp member
    exact (by decide : 1 < 126)
  unmasked := by
    intro part member
    rcases List.mem_cons.mp member with rfl | member
    · rfl
    rcases List.mem_cons.mp member with rfl | member
    · rfl
    cases List.mem_singleton.mp member
    rfl
  assembles := by
    have text : utf8Text? [0x68, 0x69] = some "hi" :=
      utf8Text?_eq_some_iff.mpr (by rw [utf8Bytes_eq_flatMap]; decide +kernel)
    exact .fragment rfl rfl
      (.control ⟨.inl rfl, rfl, by decide⟩
        (.last rfl rfl (congrArg (Option.map Message.text) text) .done))
  readable := by
    intro text member
    cases List.mem_singleton.mp member
    exact ⟨by decide, by decide +kernel⟩

/-- The bytes arrive in two pieces, the second of which begins within a header. -/
def sampleArrivals : List SocketEvent :=
  [.open, .spaceAppears 1000, .streamEvent (.openCompleted true), .runWorkBlock, .runWorkBlock,
    .bytesArrive (sampleHeader ++ [0x01]), .secureStreamEvent true (some ["TV"]) true,
    .runWorkBlock, .runWorkBlock, .runDelegateBlock, .runWorkBlock,
    .bytesArrive [1, 0x68, 0x89, 1, 0x78, 0x80, 1, 0x69], .streamEvent .hasBytesAvailable,
    .runWorkBlock, .runWorkBlock, .runDelegateBlock, .runDelegateBlock, .runWorkBlock,
    .runWorkBlock, .runDelegateBlock, .runWorkBlock]

theorem sampleArrivals_settled :
    Settled sampleScript sampleArrivals
      (run samplePlatform { requestedProtocols := none } sampleArrivals) where
  opened := by decide
  all := by decide +kernel
  read := by decide +kernel
  workQueue := List.isEmpty_iff.mp (by decide +kernel)
  delegateQueue := List.isEmpty_iff.mp (by decide +kernel)

theorem run_told_sampleArrivals :
    (run samplePlatform { requestedProtocols := none } sampleArrivals).told =
      sampleScript.messages :=
  (run_told samplePlatform none sampleScript sampleScript_isLegal sampleArrivals
    (by decide +kernel) (by decide) (by decide +kernel)).2 sampleArrivals_settled

/-- The pongs of the socket answer the pings of its server, in their order, and each carries what
its ping did unless that was nothing. -/
theorem run_pongs (platform : Platform) (requestedProtocols : Option (List String))
    (script : Script) (legal : script.IsLegal platform requestedProtocols)
    (events : List SocketEvent)
    (every : EveryStep (fun socket event => some (step platform socket event))
      (fun socket event => event.Allowed socket) { requestedProtocols } events)
    (once : (events.map SocketEvent.openings).sum ≤ 1)
    (sent : arrivals events <+: script.bytes) :
    ∃ answered, answered <+: script.pings ∧
      List.Forall₂ Answers (run platform { requestedProtocols } events).pongs answered ∧
      (Settled script events (run platform { requestedProtocols } events) →
        answered = script.pings) := by
  rcases sent with ⟨left, sent⟩
  have goes := goes_of_run legal every once sent
  rcases goes.1.position with ⟨messages, pings, accounts, position⟩
  rcases accounts.pings with ⟨answered, all, answers⟩
  rw [List.append_assoc] at all
  refine ⟨answered, all ▸ List.prefix_append _ _, answers, fun settled => ?_⟩
  have none : left = [] := by
    rw [settled.all] at sent
    exact List.append_right_eq_self.mp sent
  rw [settled.opened, none] at goes position
  rw [all, pendingPings, settled.workQueue, settled.delegateQueue,
    (goes.nothing_left legal settled.read settled.workQueue position).2]
  exact (List.append_nil _).symm

theorem run_pongs_sampleArrivals :
    ∃ answered, answered <+: sampleScript.pings ∧
      List.Forall₂ Answers
        (run samplePlatform { requestedProtocols := none } sampleArrivals).pongs answered ∧
      (Settled sampleScript sampleArrivals
          (run samplePlatform { requestedProtocols := none } sampleArrivals) →
        answered = sampleScript.pings) :=
  run_pongs samplePlatform none sampleScript sampleScript_isLegal sampleArrivals
    (by decide +kernel) (by decide) (by decide +kernel)

example : (run samplePlatform { requestedProtocols := none } sampleArrivals).pongs = [[0x78]] := by
  decide +kernel

end LGSRWebSocket

end SocketRocket

end ConnectSDK
