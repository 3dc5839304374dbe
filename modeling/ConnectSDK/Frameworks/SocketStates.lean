import ConnectSDK.Frameworks.LGSRWebSocket

/-! # States of a web socket

What holds of a socket in every state it reaches, whatever its server sends and in whatever
order its queues run: what the code asserts is so, up to faults of the socket's owner and to the
keys of masked frames, and the delegate is told of a connection that opens, carries messages and
ends.
-/

namespace ConnectSDK

namespace SocketRocket

/-! ## What a delegate is told -/

inductive CallKind where
  | opened
  | certificates
  | message
  | closed
  | failed
deriving DecidableEq

def DelegateCall.kind : DelegateCall → CallKind
  | .webSocketDidOpen => .opened
  | .didGetCertificates _ => .certificates
  | .didReceiveMessage _ => .message
  | .didFailWithError _ => .failed
  | .didCloseWithCode _ _ _ => .closed

def DelegateBlock.kind : DelegateBlock → Option CallKind
  | .call made => some made.kind
  | .didGetCertificates => some .certificates
  | .didClose => some .closed
  | .closeWithProtocolError _ => none
  | .handlePing _ => none

/-- What a delegate knows of its connection. -/
inductive Phase where
  | waiting
  | open
  | closed
  | failed
  | closedAndFailed
deriving DecidableEq

/-- What it may be told next. A connection that was closed may still fail, and certificates come
at any time. -/
def Phase.next : Phase → CallKind → Option Phase
  | phase, .certificates => some phase
  | .waiting, .opened => some .open
  | .open, .message => some .open
  | .waiting, .closed => some .closed
  | .open, .closed => some .closed
  | .waiting, .failed => some .failed
  | .open, .failed => some .failed
  | .closed, .failed => some .closedAndFailed
  | _, _ => none

def phaseAfter (kinds : List CallKind) : Option Phase :=
  kinds.foldlM Phase.next .waiting

theorem phaseAfter_append {kinds : List CallKind} {phase : Phase}
    (reached : phaseAfter kinds = some phase) (kind : CallKind) :
    phaseAfter (kinds ++ [kind]) = phase.next kind := by
  have first : kinds.foldlM Phase.next .waiting = some phase := reached
  rw [phaseAfter, List.foldlM_append, first, Option.bind_eq_bind, Option.bind_some,
    List.foldlM_cons]
  cases phase.next kind <;> rfl

theorem phaseAfter_of_append {kinds more : List CallKind} {phase : Phase}
    (reached : phaseAfter (kinds ++ more) = some phase) :
    ∃ phase, phaseAfter kinds = some phase := by
  rw [phaseAfter, List.foldlM_append] at reached
  rcases Option.bind_eq_some_iff.mp reached with ⟨between, first, _⟩
  exact ⟨between, first⟩

/-! ## The invariant -/

/-- Those that fail among all but the one about the key of a masked frame. -/
def otherThanMaskKeys (failed : List Assertion) : List Assertion :=
  failed.filter (· != .maskKeyBytes)

/-- A consumer waits for what its handler takes. -/
def LGSRIOConsumer.Sound (consumer : LGSRIOConsumer) : Prop :=
  match consumer.handler with
  | .httpHeader => consumer.readToCurrentFrame = false
  | .frameHeader =>
      consumer.scanner = none ∧ consumer.bytesNeeded = 2 ∧ consumer.readToCurrentFrame = false
  | .extraBytes header =>
      consumer.scanner = none ∧ consumer.bytesNeeded = LGSRWebSocket.extraBytesNeeded header ∧
        consumer.readToCurrentFrame = false ∧ header.opcode ≠ 0
  | .payload _ => True

def LGSRIOConsumer.readsHTTPHeader (consumer : LGSRIOConsumer) : Bool :=
  match consumer.handler with
  | .httpHeader => true
  | _ => false

namespace WorkBlock

def readsFrames : WorkBlock → Bool
  | .readFrameNew => true
  | .readFrameContinue => true
  | _ => false

/-- How often the block reports that the input stream has opened. -/
def openings : WorkBlock → Nat
  | .handleEvent (.openCompleted true) => 1
  | .safeHandleEvent (.openCompleted true) => 1
  | _ => 0

theorem openings_safeHandleEvent (event : StreamEvent) :
    (safeHandleEvent event).openings = (handleEvent event).openings := by
  cases event with
  | openCompleted isInput => cases isInput <;> rfl
  | _ => rfl

/-- The block neither reads frames nor closes a connection that was not about to close. -/
def IsPlain (block : WorkBlock) : Prop :=
  block.readsFrames = false ∧ block ≠ .closeConnection ∧ block ≠ .closeNormally

/-- A connection is closed only after a block that begins to close the socket. -/
def Guarded : List WorkBlock → Prop
  | [] => True
  | .closeWithCode _ _ :: _ => True
  | .closeConnection :: _ => False
  | _ :: blocks => Guarded blocks

end WorkBlock

/-- The part of a socket that the invariant is about, with what its delegate has been told and
what it is going to be. -/
structure Control where
  readyState : LGSRReadyState
  consumers : List LGSRIOConsumer
  workQueue : List WorkBlock
  calls : List CallKind
  closeWhenFinishedWriting : Bool
  failed : Bool
  sentClose : Bool
  failedAssertions : List Assertion
  maskKeysRead : Nat
  currentFrameCount : Nat
  currentFrameOpcode : UInt8

def LGSRWebSocket.control (socket : LGSRWebSocket) : Control where
  readyState := socket.readyState
  consumers := socket.consumers
  workQueue := socket.workQueue
  calls := socket.delegateCalls.map DelegateCall.kind ++
    socket.delegateQueue.filterMap DelegateBlock.kind
  closeWhenFinishedWriting := socket.closeWhenFinishedWriting
  failed := socket.failed
  sentClose := socket.sentClose
  failedAssertions := socket.failedAssertions
  maskKeysRead := socket.maskKeysRead
  currentFrameCount := socket.currentFrameCount
  currentFrameOpcode := socket.currentFrameOpcode

namespace Control

def tell (kinds : List CallKind) (control : Control) : Control :=
  { control with calls := control.calls ++ kinds }

def IsEnding (control : Control) : Prop :=
  LGSRReadyState.closing.rawValue ≤ control.readyState.rawValue

/-- The delegate will know the phase that the state of the socket calls for. -/
structure Knows (control : Control) (phase : Phase) : Prop where
  reached : phaseAfter control.calls = some phase
  connecting : control.readyState = .connecting → phase = .waiting
  opened : control.readyState = .open → phase = .open
  closed : phase = .closed → control.sentClose = true
  sent : control.sentClose = true → phase ≠ .waiting ∧ phase ≠ .open
  failed : control.failed = true ↔ phase = .failed ∨ phase = .closedAndFailed
  ended : control.failed = true → control.readyState = .closed

/-- How often the input stream may still open: at most once, which leads to one reader of the
header and to one open connection. -/
def openings (control : Control) : Nat :=
  (control.workQueue.map WorkBlock.openings).sum +
    control.consumers.countP LGSRIOConsumer.readsHTTPHeader +
    (if control.readyState = .open then 1 else 0)

/-- The faults are those of the socket's owner so far. -/
structure Steady (faults : List Assertion) (budget : Nat) (control : Control) : Prop where
  faults : otherThanMaskKeys control.failedAssertions = faults
  maskKeys : control.failedAssertions.count .maskKeyBytes = control.maskKeysRead
  synced : (control.currentFrameCount = 0 ∧ control.currentFrameOpcode = 0) ∨
    (0 < control.currentFrameCount ∧ 0 < control.currentFrameOpcode)
  consumers : ∀ consumer ∈ control.consumers, consumer.Sound
  connecting : control.readyState = .connecting →
    (∀ consumer ∈ control.consumers, consumer.handler = .httpHeader) ∧
      ∀ block ∈ control.workQueue, block.readsFrames = false
  openings : budget + control.openings ≤ 1
  closing : control.closeWhenFinishedWriting = true → control.IsEnding
  normally : WorkBlock.closeNormally ∈ control.workQueue → control.IsEnding
  phase : ∃ phase, control.Knows phase

/-- The invariant, between two blocks of the work queue. -/
structure Sound (faults : List Assertion) (budget : Nat) (control : Control) : Prop
    extends Steady faults budget control where
  guarded : control.IsEnding ∨ WorkBlock.Guarded control.workQueue

variable {faults : List Assertion} {budget : Nat} {control : Control}

theorem Sound.of_steady_ending (steady : control.Steady faults budget) (ending : control.IsEnding) :
    control.Sound faults budget :=
  { toSteady := steady, guarded := .inl ending }

theorem IsEnding.ne_connecting (ending : control.IsEnding) : control.readyState ≠ .connecting := by
  intro same
  rw [IsEnding, same] at ending
  exact absurd ending (by decide)

theorem IsEnding.ne_open (ending : control.IsEnding) : control.readyState ≠ .open := by
  intro same
  rw [IsEnding, same] at ending
  exact absurd ending (by decide)

theorem isEnding_of_not_early (late : control.readyState ≠ .connecting)
    (notOpen : control.readyState ≠ .open) : control.IsEnding := by
  unfold IsEnding
  cases same : control.readyState with
  | connecting => exact absurd same late
  | «open» => exact absurd same notOpen
  | closing => exact Nat.le_refl _
  | closed => exact Nat.le_succ _

theorem Steady.mono {smaller : Nat} (steady : control.Steady faults budget)
    (less : smaller ≤ budget) : control.Steady faults smaller :=
  { steady with openings := Nat.le_trans (Nat.add_le_add_right less _) steady.openings }

theorem Sound.mono {smaller : Nat} (sound : control.Sound faults budget)
    (less : smaller ≤ budget) : control.Sound faults smaller :=
  { toSteady := sound.toSteady.mono less, guarded := sound.guarded }

/-! ## Assertions -/

theorem Sound.fault (sound : control.Sound faults budget) {assertion : Assertion}
    (other : assertion ≠ .maskKeyBytes) :
    { control with failedAssertions := control.failedAssertions ++ [assertion] }.Sound
      (faults ++ [assertion]) budget :=
  { sound with
    faults := by
      rw [otherThanMaskKeys, List.filter_append, List.filter_singleton, bne_iff_ne.mpr other]
      exact congrArg (· ++ [assertion]) sound.faults
    maskKeys := by
      rw [List.count_append, List.count_singleton, beq_false_of_ne other]
      exact sound.maskKeys
    phase := sound.phase.imp fun _ knows => { knows with } }

/-- The key of a masked frame is read, and what is asserted of it fails. -/
theorem Sound.readMaskKey (sound : control.Sound faults budget) :
    { control with
      failedAssertions := control.failedAssertions ++ [Assertion.maskKeyBytes]
      maskKeysRead := control.maskKeysRead + 1 }.Sound faults budget :=
  { sound with
    faults := by
      rw [otherThanMaskKeys, List.filter_append]
      exact (List.append_nil _).trans sound.faults
    maskKeys := by
      rw [List.count_append, sound.maskKeys]
      rfl
    phase := sound.phase.imp fun _ knows => { knows with } }

/-! ## The work queue -/

theorem guarded_append_of_ne {block : WorkBlock} (other : block ≠ .closeConnection)
    {blocks : List WorkBlock} (guarded : WorkBlock.Guarded blocks) :
    WorkBlock.Guarded (blocks ++ [block]) := by
  induction blocks with
  | nil => cases block <;> first | exact absurd rfl other | trivial
  | cons first blocks induction =>
      cases first <;> first | trivial | exact guarded.elim | exact induction guarded

theorem guarded_append_close (code : Int) (reason : Option String) (more : List WorkBlock)
    {blocks : List WorkBlock} (guarded : WorkBlock.Guarded blocks) :
    WorkBlock.Guarded (blocks ++ .closeWithCode code reason :: more) := by
  induction blocks with
  | nil => trivial
  | cons first blocks induction =>
      cases first <;> first | trivial | exact guarded.elim | exact induction guarded

theorem Steady.push (steady : control.Steady faults budget) {block : WorkBlock} {smaller : Nat}
    (frames : control.readyState = .connecting → block.readsFrames = false)
    (openings : smaller + block.openings ≤ budget)
    (normally : block = .closeNormally → control.IsEnding) :
    { control with workQueue := control.workQueue ++ [block] }.Steady faults smaller :=
  { steady with
    connecting := by
      intro connecting
      refine ⟨(steady.connecting connecting).1, fun other member => ?_⟩
      rcases List.mem_append.mp member with before | now
      · exact (steady.connecting connecting).2 other before
      · exact List.mem_singleton.mp now ▸ frames connecting
    openings := by
      have before := steady.openings
      unfold Control.openings at before ⊢
      rw [List.map_append, List.sum_append, List.map_singleton, List.sum_singleton]
      dsimp only
      omega
    normally := by
      intro member
      rcases List.mem_append.mp member with before | now
      · exact steady.normally before
      · exact normally (List.mem_singleton.mp now).symm
    phase := steady.phase.imp fun _ knows => { knows with } }

theorem Sound.push (sound : control.Sound faults budget) {block : WorkBlock} {smaller : Nat}
    (frames : control.readyState = .connecting → block.readsFrames = false)
    (openings : smaller + block.openings ≤ budget)
    (normally : block = .closeNormally → control.IsEnding)
    (closes : block = .closeConnection → control.IsEnding) :
    { control with workQueue := control.workQueue ++ [block] }.Sound faults smaller :=
  { toSteady := sound.toSteady.push frames openings normally
    guarded := by
      by_cases same : block = .closeConnection
      · exact .inl (closes same)
      · exact sound.guarded.imp_right (guarded_append_of_ne same) }

theorem Sound.push_plain {block : WorkBlock}
    (sound : control.Sound faults (budget + block.openings)) (plain : block.IsPlain) :
    { control with workQueue := control.workQueue ++ [block] }.Sound faults budget :=
  sound.push (fun _ => plain.1) (Nat.le_refl _) (fun same => absurd same plain.2.2)
    fun same => absurd same plain.2.1

theorem Sound.push_closing (sound : control.Sound faults budget) (code : Int)
    (reason : Option String) :
    { control with
      workQueue := control.workQueue ++ [WorkBlock.closeWithCode code reason] ++
        [WorkBlock.closeConnection] }.Sound faults budget :=
  { toSteady := by
      have begun := @Steady.push _ _ _ sound.toSteady (.closeWithCode code reason) budget
        (fun _ => rfl) (Nat.le_refl _) (fun same => by cases same)
      exact @Steady.push _ _ _ begun .closeConnection budget (fun _ => rfl) (Nat.le_refl _)
        (fun same => by cases same)
    guarded := by
      refine sound.guarded.imp_right fun guarded => ?_
      rw [List.append_assoc]
      exact guarded_append_close code reason _ guarded }

theorem Steady.pop {block : WorkBlock} {blocks : List WorkBlock}
    (steady : control.Steady faults budget) (queue : control.workQueue = block :: blocks) :
    { control with workQueue := blocks }.Steady faults (budget + block.openings) :=
  { steady with
    connecting := fun connecting =>
      ⟨(steady.connecting connecting).1, fun other member =>
        (steady.connecting connecting).2 other (queue ▸ List.mem_cons_of_mem _ member)⟩
    openings := by
      have before := steady.openings
      unfold Control.openings at before ⊢
      rw [queue, List.map_cons, List.sum_cons] at before
      dsimp only
      omega
    normally := fun member => steady.normally (queue ▸ List.mem_cons_of_mem _ member)
    phase := steady.phase.imp fun _ knows => { knows with } }

theorem Sound.pop {block : WorkBlock} {blocks : List WorkBlock}
    (sound : control.Sound faults budget) (queue : control.workQueue = block :: blocks)
    (other : ∀ code reason, block ≠ .closeWithCode code reason) :
    { control with workQueue := blocks }.Sound faults (budget + block.openings) :=
  { toSteady := sound.toSteady.pop queue
    guarded := by
      refine sound.guarded.imp_right fun guarded => ?_
      rw [queue] at guarded
      cases block <;>
        first | exact guarded | exact guarded.elim | exact absurd rfl (other _ _) }

/-- The block that closes a connection is run only by a socket that is closing. -/
theorem Sound.isEnding_of_close {blocks : List WorkBlock} (sound : control.Sound faults budget)
    (queue : control.workQueue = .closeConnection :: blocks) : control.IsEnding := by
  rcases sound.guarded with ending | guarded
  · exact ending
  · rw [queue] at guarded
    exact guarded.elim

/-! ## Calls -/

theorem Sound.certificates (sound : control.Sound faults budget) :
    (control.tell [.certificates]).Sound faults budget := by
  rcases sound.phase with ⟨phase, knows⟩
  have told : phase.next .certificates = some phase := by cases phase <;> rfl
  have reached : phaseAfter (control.calls ++ [.certificates]) = some phase :=
    (phaseAfter_append knows.reached .certificates).trans told
  exact { sound with phase := ⟨phase, { knows with reached }⟩ }

theorem Sound.message (sound : control.Sound faults budget) (opened : control.readyState = .open) :
    (control.tell [.message]).Sound faults budget := by
  rcases sound.phase with ⟨phase, knows⟩
  cases knows.opened opened
  have reached : phaseAfter (control.calls ++ [.message]) = some .open :=
    phaseAfter_append knows.reached .message
  exact { sound with phase := ⟨.open, { knows with reached }⟩ }

/-! ## Ends -/

theorem Steady.setReadyState {readyState : LGSRReadyState} (steady : control.Steady faults budget)
    (ending : LGSRReadyState.closing.rawValue ≤ readyState.rawValue)
    (later : control.readyState.rawValue < readyState.rawValue) :
    { control with readyState }.Steady faults budget := by
  have notConnecting : readyState ≠ .connecting := by
    rintro rfl
    exact absurd ending (by decide)
  have notOpen : readyState ≠ .open := by
    rintro rfl
    exact absurd ending (by decide)
  exact
    { steady with
      connecting := fun same => absurd same notConnecting
      openings := by
        have before := steady.openings
        unfold Control.openings at before ⊢
        rw [if_neg notOpen]
        dsimp only
        omega
      closing := fun _ => ending
      normally := fun _ => ending
      phase := steady.phase.imp fun _ knows =>
        { knows with
          connecting := fun same => absurd same notConnecting
          opened := fun same => absurd same notOpen
          ended := by
            intro failed
            have closed := knows.ended failed
            rw [closed] at later
            cases readyState <;> exact absurd later (by decide) } }

theorem Steady.finishFailed (steady : control.Steady faults budget)
    (failed : control.failed = true) : { control with sentClose := true }.Steady faults budget := by
  rcases steady.phase with ⟨phase, knows⟩
  have closed := knows.ended failed
  refine { steady with phase := ⟨phase, ?_⟩ }
  exact
    { knows with
      closed := fun _ => rfl
      sent := by
        intro _
        rcases knows.failed.mp failed with rfl | rfl <;> exact ⟨nofun, nofun⟩ }

/-- The delegate of a socket that has neither failed nor been closed may be told that it is. -/
theorem Knows.told_closed {phase : Phase} (knows : control.Knows phase)
    (failed : control.failed = false) (unsent : control.sentClose = false) :
    phase.next .closed = some .closed := by
  have notFailed := mt knows.failed.mpr (ne_true_of_eq_false failed)
  cases phase with
  | waiting => rfl
  | «open» => rfl
  | closed =>
      rw [knows.closed rfl] at unsent
      cases unsent
  | failed => exact absurd (.inl rfl) notFailed
  | closedAndFailed => exact absurd (.inr rfl) notFailed

theorem Steady.finishClosed (steady : control.Steady faults budget)
    (failed : control.failed = false) (ending : control.IsEnding)
    (unsent : control.sentClose = false) :
    ({ control with sentClose := true }.tell [.closed]).Steady faults budget := by
  rcases steady.phase with ⟨phase, knows⟩
  refine { steady with phase := ⟨.closed, ?_⟩ }
  exact
    { reached := (phaseAfter_append knows.reached .closed).trans (knows.told_closed failed unsent)
      connecting := fun same => absurd same ending.ne_connecting
      opened := fun same => absurd same ending.ne_open
      closed := fun _ => rfl
      sent := fun _ => ⟨nofun, nofun⟩
      failed := iff_of_false (ne_true_of_eq_false failed) (by rintro (same | same) <;> cases same)
      ended := knows.ended }

theorem Steady.fail (steady : control.Steady faults budget)
    (alive : control.readyState ≠ .closed) :
    ({ control with failed := true, readyState := .closed }.tell [.failed]).Steady faults
      budget := by
  rcases steady.phase with ⟨phase, knows⟩
  have fine : control.failed ≠ true := mt knows.ended alive
  have told : ∃ next, phase.next .failed = some next ∧ (next = .failed ∨ next = .closedAndFailed) := by
    cases phase with
    | waiting => exact ⟨_, rfl, .inl rfl⟩
    | «open» => exact ⟨_, rfl, .inl rfl⟩
    | closed => exact ⟨_, rfl, .inr rfl⟩
    | failed => exact absurd (knows.failed.mpr (.inl rfl)) fine
    | closedAndFailed => exact absurd (knows.failed.mpr (.inr rfl)) fine
  rcases told with ⟨next, told, isFailed⟩
  refine
    { steady with
      connecting := nofun
      openings := ?_
      closing := fun _ => Nat.le_succ 2
      normally := fun _ => Nat.le_succ 2
      phase := ⟨next, ?_⟩ }
  · have before := steady.openings
    unfold Control.openings at before ⊢
    rw [if_neg (by exact LGSRReadyState.noConfusion)]
    dsimp only [tell]
    omega
  · exact
      { reached := (phaseAfter_append knows.reached .failed).trans told
        connecting := nofun
        opened := nofun
        closed := by
          rintro rfl
          rcases isFailed with same | same <;> cases same
        sent := by
          intro _
          rcases isFailed with rfl | rfl <;> exact ⟨nofun, nofun⟩
        failed := iff_of_true rfl isFailed
        ended := fun _ => rfl }

/-! ## Consumers -/

theorem Sound.addConsumer (sound : control.Sound faults budget) {consumer : LGSRIOConsumer}
    {smaller : Nat} (isSound : consumer.Sound)
    (connecting : control.readyState = .connecting → consumer.handler = .httpHeader)
    (openings : smaller + consumer.readsHTTPHeader.toNat ≤ budget) :
    { control with consumers := control.consumers ++ [consumer] }.Sound faults smaller :=
  { sound with
    consumers := by
      intro other member
      rcases List.mem_append.mp member with before | now
      · exact sound.consumers other before
      · exact List.mem_singleton.mp now ▸ isSound
    connecting := by
      intro same
      refine ⟨fun other member => ?_, (sound.connecting same).2⟩
      rcases List.mem_append.mp member with before | now
      · exact (sound.connecting same).1 other before
      · exact List.mem_singleton.mp now ▸ connecting same
    openings := by
      have before := sound.openings
      have single : [consumer].countP LGSRIOConsumer.readsHTTPHeader =
          consumer.readsHTTPHeader.toNat := by
        rw [List.countP_singleton]
        cases consumer.readsHTTPHeader <;> rfl
      unfold Control.openings at before ⊢
      rw [List.countP_append, single]
      dsimp only
      omega
    phase := sound.phase.imp fun _ knows => { knows with } }

theorem Sound.popConsumer {consumer : LGSRIOConsumer} {others : List LGSRIOConsumer}
    (sound : control.Sound faults budget) (first : control.consumers = consumer :: others) :
    { control with consumers := others }.Sound faults (budget + consumer.readsHTTPHeader.toNat) :=
  { sound with
    consumers := fun other member =>
      sound.consumers other (first ▸ List.mem_cons_of_mem _ member)
    connecting := fun same =>
      ⟨fun other member =>
        (sound.connecting same).1 other (first ▸ List.mem_cons_of_mem _ member),
        (sound.connecting same).2⟩
    openings := by
      have before := sound.openings
      have single : (consumer :: others).countP LGSRIOConsumer.readsHTTPHeader =
          others.countP LGSRIOConsumer.readsHTTPHeader + consumer.readsHTTPHeader.toNat := by
        rw [List.countP_cons]
        cases consumer.readsHTTPHeader <;> rfl
      unfold Control.openings at before ⊢
      rw [first, single] at before
      dsimp only
      omega
    phase := sound.phase.imp fun _ knows => { knows with } }

theorem Sound.replaceConsumer {consumer other : LGSRIOConsumer} {others : List LGSRIOConsumer}
    (sound : control.Sound faults budget) (first : control.consumers = consumer :: others)
    (same : other.handler = consumer.handler) (isSound : other.Sound) :
    { control with consumers := other :: others }.Sound faults budget := by
  have reads : other.readsHTTPHeader = consumer.readsHTTPHeader := by
    unfold LGSRIOConsumer.readsHTTPHeader
    rw [same]
  exact
    { sound with
      consumers := by
        intro member inside
        rcases List.mem_cons.mp inside with now | later
        · exact now ▸ isSound
        · exact sound.consumers member (first ▸ List.mem_cons_of_mem _ later)
      connecting := by
        intro connecting
        refine ⟨fun member inside => ?_, (sound.connecting connecting).2⟩
        have before := (sound.connecting connecting).1
        rw [first] at before
        rcases List.mem_cons.mp inside with now | later
        · rw [now, same]
          exact before consumer List.mem_cons_self
        · exact before member (List.mem_cons_of_mem _ later)
      openings := by
        have before := sound.openings
        unfold Control.openings at before ⊢
        rw [first, List.countP_cons] at before
        rw [List.countP_cons, reads]
        exact before
      phase := sound.phase.imp fun _ knows => { knows with } }

theorem Sound.setFrame (sound : control.Sound faults budget) {count : Nat} {opcode : UInt8}
    (synced : (count = 0 ∧ opcode = 0) ∨ (0 < count ∧ 0 < opcode)) :
    { control with currentFrameCount := count, currentFrameOpcode := opcode }.Sound faults budget :=
  { sound with
    synced
    phase := sound.phase.imp fun _ knows => { knows with } }

/-- A socket in a handshake that is handed the header has been connecting up to then, and its
input stream does not open again. -/
theorem Sound.connecting_of_header {consumer : LGSRIOConsumer} {others : List LGSRIOConsumer}
    (sound : control.Sound faults budget) (first : control.consumers = consumer :: others)
    (header : consumer.handler = .httpHeader) (early : ¬ control.IsEnding) :
    control.readyState = .connecting := by
  by_contra late
  have opened : control.readyState = .open := by
    by_contra notOpen
    exact early (isEnding_of_not_early late notOpen)
  have count := sound.openings
  have reads : consumer.readsHTTPHeader = true := by
    rw [LGSRIOConsumer.readsHTTPHeader, header]
  unfold openings at count
  rw [first, List.countP_cons, if_pos reads, if_pos opened] at count
  omega

theorem Sound.open_of_frame {consumer : LGSRIOConsumer} {others : List LGSRIOConsumer}
    (sound : control.Sound faults budget) (first : control.consumers = consumer :: others)
    (frame : consumer.handler ≠ .httpHeader) (early : ¬ control.IsEnding) :
    control.readyState = .open := by
  by_contra notOpen
  refine early (isEnding_of_not_early (fun connecting => ?_) notOpen)
  exact frame ((sound.connecting connecting).1 consumer (first ▸ List.mem_cons_self))

end Control

end SocketRocket

end ConnectSDK
