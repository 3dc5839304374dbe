import ConnectSDK.Services.WebOSMouse

/-! # Callbacks of keys and clicks

A key or a click without a mouse waits with the command that asks for the mouse's socket,
and then with the mouse, until its web socket opens.
-/

namespace ConnectSDK

namespace WebOSMouse

def heldBlocks (mouse : WebOSMouse) : List MouseBlocks :=
  mouse.mouseBlocks.toList ++ mouse.commands

/-- The call whose blocks the mouse has. -/
def mouseCall (mouse : WebOSMouse) : Option Nat :=
  mouse.mouseBlocks.bind MouseBlocks.call

/-- The calls whose blocks wait with a command. -/
def commandCalls (mouse : WebOSMouse) : List Nat :=
  mouse.commands.filterMap MouseBlocks.call

def Held (mouse : WebOSMouse) (call : Nat) : Prop :=
  mouse.mouseCall = some call ∨ call ∈ mouse.commandCalls

/-- The package of what was asked for was handed to an open socket. -/
def HasSent (mouse : WebOSMouse) (call : Nat) : Prop :=
  ∃ input, (call, input) ∈ mouse.requested ∧ (call, input.package) ∈ mouse.sent

/-- Of the blocks of each call exactly one ran, once, or none yet while something still has
them, and the package of each call that succeeded was sent. -/
structure Answers (mouse : WebOSMouse) : Prop where
  once : mouse.calls.Kept mouse.Held
  sent : ∀ answer ∈ mouse.calls.answers, answer.reply = .success → mouse.HasSent answer.request

/-- The call whose blocks the mouse has does not wait. -/
def Spent (mouse : WebOSMouse) : Prop :=
  ∀ call ∈ mouse.mouseCall, ¬mouse.calls.Waits call

/-- Keys and clicks come when the mouse's socket is open, or when there is no mouse and none
is asked for. The blocks of the mouse run only while their call waits, the success block with
the socket open. They are dropped only when their call does not wait, and those of a command
only if they are of no call. -/
def AnswersCall (mouse : WebOSMouse) : WebOSMouseEvent → Prop
  | .sendMouseButton _ | .ok =>
      match mouse.mouseSocket with
      | some socket => socket.isOpen = true
      | none => mouse.mouseInit = false
  | .disconnectMouse | .webSocketDidClose true => mouse.Spent
  | .commandCompleted index | .commandFailed index =>
      index < mouse.commands.length → mouse.Spent
  | .commandForgotten index =>
      ∀ blocks ∈ mouse.commands[index]?, blocks.call = none
  | .webSocketDidOpen =>
      ∀ call ∈ mouse.mouseCall, mouse.calls.Waits call ∧
        mouse.mouseSocket.any WebOSTVServiceMouse.isOpen = true
  | .webSocketDidFail | .webSocketDidClose false =>
      ∀ call ∈ mouse.mouseCall, mouse.calls.Waits call
  | .sendKeyCode | .connectMouse | .readyStateChanged _ => True

/-- Blocks are held in one place, for an input that was asked for, and those with a command
did not run. What was sent was answered. -/
structure Sound (mouse : WebOSMouse) : Prop where
  calls : mouse.calls.Sound
  held : ∀ blocks ∈ mouse.heldBlocks, ∀ call ∈ blocks.call, mouse.calls.Issued call
  input : ∀ call input, .input call input ∈ mouse.heldBlocks → (call, input) ∈ mouse.requested
  apart : (mouse.heldBlocks.filterMap MouseBlocks.call).Nodup
  pending : ∀ call ∈ mouse.commandCalls, call ∉ mouse.calls.answered
  sent : ∀ package ∈ mouse.sent, package.1 ∈ mouse.calls.answered

variable {mouse next : WebOSMouse}

theorem held_iff (mouse : WebOSMouse) (call : Nat) :
    mouse.Held call ↔ ∃ blocks ∈ mouse.heldBlocks, blocks.call = some call := by
  rw [Held, mouseCall, commandCalls, heldBlocks, List.mem_filterMap]
  simp only [List.mem_append, Option.mem_toList, or_and_right, exists_or,
    Option.bind_eq_some_iff]

theorem heldCalls_eq (mouse : WebOSMouse) :
    mouse.heldBlocks.filterMap MouseBlocks.call = mouse.mouseCall.toList ++ mouse.commandCalls := by
  rw [heldBlocks, List.filterMap_append, commandCalls, mouseCall]
  congr 1
  cases mouse.mouseBlocks with
  | none => rfl
  | some blocks => cases blocks <;> rfl

/-- The mouse does not have the blocks of a call that waits with a command. -/
theorem Sound.not_commandCalls (sound : mouse.Sound) {call : Nat}
    (own : call ∈ mouse.mouseCall) : call ∉ mouse.commandCalls := by
  have apart := sound.apart
  rw [heldCalls_eq] at apart
  intro member
  exact (List.disjoint_of_nodup_append apart) (Option.mem_toList.mpr own) member

theorem Sound.issued (sound : mouse.Sound) {call : Nat} (holds : mouse.Held call) :
    mouse.calls.Issued call := by
  rcases (mouse.held_iff call).mp holds with ⟨blocks, member, own⟩
  exact sound.held blocks member call own

theorem Sound.pending_waits (sound : mouse.Sound) {call : Nat}
    (member : call ∈ mouse.commandCalls) : mouse.calls.Waits call :=
  ⟨sound.issued (.inr member), sound.pending call member⟩

/-! ## Steps that take blocks away -/

/-- No blocks are added, and one block at most runs, of a call that then waits with no
command. -/
structure Reduces (mouse next : WebOSMouse) (answer : Option (Answer InputBlock)) : Prop where
  calls : next.calls = mouse.calls.record answer
  issued : ∀ given ∈ answer, mouse.calls.Issued given.request
  requested : next.requested = mouse.requested
  held : next.heldBlocks.Subperm mouse.heldBlocks
  commands : next.commandCalls ⊆ mouse.commandCalls
  done : ∀ given ∈ answer, given.request ∉ next.commandCalls
  sent : ∀ package ∈ next.sent, package ∈ mouse.sent ∨
    package.1 ∈ answer.toList.map Answer.request

theorem Sound.reduces (sound : mouse.Sound) {answer : Option (Answer InputBlock)}
    (reduces : mouse.Reduces next answer) : next.Sound := by
  refine ⟨?_, ?_, ?_, ?_, ?_, ?_⟩
  · rw [reduces.calls]
    exact sound.calls.record reduces.issued
  · intro blocks member call own
    rw [reduces.calls]
    exact sound.held blocks (reduces.held.subset member) call own
  · intro call input member
    rw [reduces.requested]
    exact sound.input call input (reduces.held.subset member)
  · rcases reduces.held with ⟨middle, same, sublist⟩
    exact (same.filterMap _).nodup_iff.mp (sound.apart.sublist (sublist.filterMap _))
  · intro call member
    rw [reduces.calls, RequestBook.answered_record, List.mem_append, not_or]
    refine ⟨sound.pending call (reduces.commands member), ?_⟩
    intro answered
    rcases List.mem_map.mp answered with ⟨given, now, same⟩
    exact reduces.done given (Option.mem_toList.mp now) (same ▸ member)
  · intro package member
    rw [reduces.calls, RequestBook.answered_record, List.mem_append]
    exact (reduces.sent package member).imp_left (sound.sent package)

/-- What succeeded before was sent before. -/
theorem Answers.sent_mono (good : mouse.Answers) (requested : mouse.requested ⊆ next.requested)
    (sent : mouse.sent ⊆ next.sent) :
    ∀ answer ∈ mouse.calls.answers, answer.reply = .success → next.HasSent answer.request := by
  intro answer member succeeded
  rcases good.sent answer member succeeded with ⟨input, asked, handed⟩
  exact ⟨input, requested asked, sent handed⟩

/-- After a block ran, or none, the calls are answered exactly if its call waited, the others
that wait are held and, where it is a success block, the package was sent. -/
theorem answers_iff {book : RequestBook InputBlock} {held : Nat → Prop}
    {answer : Option (Answer InputBlock)} (calls : next.calls = book.record answer)
    (kept : book.Kept held) (issued : ∀ given ∈ answer, book.Issued given.request)
    (before : ∀ given ∈ book.answers, given.reply = .success → next.HasSent given.request) :
    next.Answers ↔ (∀ given ∈ answer, book.Waits given.request) ∧
      (∀ call, book.Waits call → answer.map Answer.request = some call ∨ next.Held call) ∧
        ∀ given ∈ answer, given.reply = .success → next.HasSent given.request := by
  have once : next.calls.Kept next.Held ↔ _ := calls ▸ kept.record_iff issued
  rw [← and_assoc, ← once]
  constructor
  · intro good
    refine ⟨good.once, ?_⟩
    intro given member
    apply good.sent
    rw [calls]
    exact List.mem_append_right _ (Option.mem_toList.mpr member)
  · rintro ⟨keeps, sent⟩
    refine ⟨keeps, ?_⟩
    intro given member
    rw [calls] at member
    rcases List.mem_append.mp member with earlier | now
    · exact before given earlier
    · exact sent given (Option.mem_toList.mp now)

theorem Answers.reduces_iff (good : mouse.Answers) {answer : Option (Answer InputBlock)}
    (reduces : mouse.Reduces next answer) (sent : mouse.sent ⊆ next.sent) :
    next.Answers ↔ (∀ given ∈ answer, mouse.calls.Waits given.request) ∧
      (∀ call, mouse.calls.Waits call → answer.map Answer.request = some call ∨ next.Held call) ∧
        ∀ given ∈ answer, given.reply = .success → next.HasSent given.request :=
  answers_iff reduces.calls good.once reduces.issued
    (good.sent_mono (reduces.requested ▸ List.Subset.refl _) sent)

theorem Answers.spent_iff (good : mouse.Answers) (sound : mouse.Sound) :
    mouse.Spent ↔ ∀ call, mouse.calls.Waits call → call ∈ mouse.commandCalls := by
  constructor
  · intro spent call waits
    exact (good.once.held call waits).resolve_left fun own => spent call own waits
  · intro waiting call own waits
    exact sound.not_commandCalls own (waiting call waits)

theorem Reduces.silent (calls : next.calls = mouse.calls)
    (requested : next.requested = mouse.requested) (sent : next.sent = mouse.sent)
    (held : next.heldBlocks.Subperm mouse.heldBlocks)
    (commands : next.commandCalls ⊆ mouse.commandCalls) : mouse.Reduces next none :=
  ⟨calls.trans (RequestBook.record_none _).symm, (fun _ member => by cases member), requested,
    held, commands, (fun _ member => by cases member), fun _ member => .inl (sent ▸ member)⟩

/-- After the blocks of the mouse are gone. -/
theorem Answers.drops_iff (good : mouse.Answers) (sound : mouse.Sound)
    (reduces : mouse.Reduces next none) (sent : mouse.sent ⊆ next.sent)
    (held : ∀ call, next.Held call ↔ call ∈ mouse.commandCalls) :
    mouse.Spent ↔ next.Answers := by
  rw [good.spent_iff sound, good.reduces_iff reduces sent]
  simp only [held, Option.map_none, reduceCtorEq, false_or, Option.mem_def, false_imp_iff,
    implies_true, true_and, and_true]

/-! ### The mouse goes -/

theorem disconnectMouse_reduces (mouse : WebOSMouse) :
    mouse.Reduces mouse.disconnectMouse none :=
  Reduces.silent rfl rfl rfl (List.sublist_append_right _ _).subperm (List.Subset.refl _)

theorem disconnectMouse_iff (good : mouse.Answers) (sound : mouse.Sound) :
    mouse.Spent ↔ mouse.disconnectMouse.Answers :=
  good.drops_iff sound mouse.disconnectMouse_reduces (List.Subset.refl _) fun call =>
    or_iff_right (Option.some_ne_none call).symm

theorem cleanClose_mouseBlocks (mouse : WebOSMouse) :
    (mouse.webSocketDidClose true).mouseBlocks = none := by
  cases found : mouse.mouseSocket <;>
    simp only [webSocketDidClose, if_true, mouseBlocks, found, Option.map_some, Option.map_none,
      Option.bind_some, Option.bind_none]

theorem cleanClose_reduces (mouse : WebOSMouse) :
    mouse.Reduces (mouse.webSocketDidClose true) none := by
  refine Reduces.silent rfl rfl rfl ?_ (List.Subset.refl _)
  rw [heldBlocks, cleanClose_mouseBlocks]
  exact (List.sublist_append_right _ _).subperm

theorem cleanClose_iff (good : mouse.Answers) (sound : mouse.Sound) :
    mouse.Spent ↔ (mouse.webSocketDidClose true).Answers := by
  refine good.drops_iff sound mouse.cleanClose_reduces (List.Subset.refl _) ?_
  intro call
  rw [Held, mouseCall, cleanClose_mouseBlocks]
  exact or_iff_right (Option.some_ne_none call).symm

theorem readyStateChanged_mouseBlocks (mouse : WebOSMouse) (isOpen : Bool) :
    (mouse.step (.readyStateChanged isOpen)).mouseBlocks = mouse.mouseBlocks := by
  cases found : mouse.mouseSocket <;>
    simp only [step, mouseBlocks, found, Option.map_some, Option.map_none, Option.bind_some,
      Option.bind_none]

theorem readyStateChanged_reduces (mouse : WebOSMouse) (isOpen : Bool) :
    mouse.Reduces (mouse.step (.readyStateChanged isOpen)) none := by
  refine Reduces.silent rfl rfl rfl ?_ (List.Subset.refl _)
  rw [heldBlocks, readyStateChanged_mouseBlocks]
  exact List.Subperm.refl _

theorem readyStateChanged_answers (good : mouse.Answers) (isOpen : Bool) :
    (mouse.step (.readyStateChanged isOpen)).Answers := by
  refine ⟨good.once.mono ?_, good.sent⟩
  intro call holds
  rw [Held, mouseCall, readyStateChanged_mouseBlocks]
  exact holds

/-! ### Commands -/

theorem commands_perm {index : Nat} {blocks : MouseBlocks}
    (found : mouse.commands[index]? = some blocks) :
    (blocks :: mouse.commands.eraseIdx index).Perm mouse.commands := by
  rcases List.getElem?_eq_some_iff.mp found with ⟨bound, same⟩
  rw [← same]
  exact List.getElem_cons_eraseIdx_perm bound

theorem mem_commandCalls_iff {index : Nat} {blocks : MouseBlocks}
    (found : mouse.commands[index]? = some blocks) (call : Nat) :
    call ∈ mouse.commandCalls ↔ blocks.call = some call ∨
      call ∈ (mouse.commands.eraseIdx index).filterMap MouseBlocks.call := by
  rw [commandCalls, ← ((commands_perm found).filterMap _).mem_iff, List.filterMap_cons]
  cases blocks.call with
  | none => exact (or_iff_right (Option.some_ne_none call).symm).symm
  | some own => rw [List.mem_cons, Option.some_inj, eq_comm]

theorem erased_commandCalls (mouse : WebOSMouse) (index : Nat) :
    (mouse.commands.eraseIdx index).filterMap MouseBlocks.call ⊆ mouse.commandCalls :=
  ((List.eraseIdx_sublist _ _).filterMap _).subset

theorem commandCompleted_none {index : Nat} (unknown : mouse.commands[index]? = none) :
    mouse.commandCompleted index = mouse := by
  rw [commandCompleted, unknown]

theorem commandCompleted_eq {index : Nat} {blocks : MouseBlocks}
    (found : mouse.commands[index]? = some blocks) :
    mouse.commandCompleted index =
      { mouse with
        mouseSocket := some { blocks := some blocks }
        commands := mouse.commands.eraseIdx index } := by
  rw [commandCompleted, found]

theorem commandCompleted_reduces {index : Nat} {blocks : MouseBlocks}
    (found : mouse.commands[index]? = some blocks) :
    mouse.Reduces (mouse.commandCompleted index) none := by
  rw [commandCompleted_eq found]
  refine Reduces.silent rfl rfl rfl ?_ (mouse.erased_commandCalls index)
  exact (commands_perm found).subperm.trans (List.sublist_append_right _ _).subperm

theorem commandCompleted_iff (good : mouse.Answers) (sound : mouse.Sound) (index : Nat) :
    mouse.AnswersCall (.commandCompleted index) ↔ (mouse.commandCompleted index).Answers := by
  rw [AnswersCall]
  cases found : mouse.commands[index]? with
  | none =>
      have outside := Nat.not_lt.mpr (List.getElem?_eq_none_iff.mp found)
      rw [commandCompleted_none found]
      exact iff_of_true (fun inside => absurd inside outside) good
  | some blocks =>
      rcases List.getElem?_eq_some_iff.mp found with ⟨bound, _⟩
      have held : ∀ call, (mouse.commandCompleted index).Held call ↔
          call ∈ mouse.commandCalls := by
        intro call
        rw [mem_commandCalls_iff found, commandCompleted_eq found]
        rfl
      rw [forall_prop_of_true bound]
      refine good.drops_iff sound (commandCompleted_reduces found) ?_ held
      rw [commandCompleted_eq found]
      exact List.Subset.refl _

/-- What the failure block of a connect answers. -/
def failureAnswer (blocks : MouseBlocks) : Option (Answer InputBlock) :=
  blocks.call.map fun call => { request := call, reply := .failure }

theorem request_of_failureAnswer {blocks : MouseBlocks} {given : Answer InputBlock}
    (member : given ∈ failureAnswer blocks) :
    blocks.call = some given.request ∧ given.reply = .failure := by
  rcases Option.map_eq_some_iff.mp member with ⟨call, own, same⟩
  rw [own, ← same]
  exact ⟨rfl, rfl⟩

theorem failureAnswer_request (blocks : MouseBlocks) :
    (failureAnswer blocks).map Answer.request = blocks.call := by
  cases blocks <;> rfl

theorem fail_eq (mouse : WebOSMouse) (blocks : MouseBlocks) :
    mouse.fail blocks = { mouse with calls := mouse.calls.record (failureAnswer blocks) } := by
  cases blocks with
  | client =>
      rw [failureAnswer, MouseBlocks.call, Option.map_none, RequestBook.record_none]
      rfl
  | input call input => rfl

theorem commandFailed_none {index : Nat} (unknown : mouse.commands[index]? = none) :
    mouse.commandFailed index = mouse := by
  rw [commandFailed, unknown]

theorem commandFailed_eq {index : Nat} {blocks : MouseBlocks}
    (found : mouse.commands[index]? = some blocks) :
    mouse.commandFailed index =
      { mouse with
        mouseSocket := none
        mouseInit := false
        commands := mouse.commands.eraseIdx index
        calls := mouse.calls.record (failureAnswer blocks) } := by
  rw [commandFailed, found]
  exact fail_eq _ blocks

/-- A command's call is not that of another command. -/
theorem Sound.not_erased (sound : mouse.Sound) {index call : Nat} {blocks : MouseBlocks}
    (found : mouse.commands[index]? = some blocks) (own : blocks.call = some call) :
    call ∉ (mouse.commands.eraseIdx index).filterMap MouseBlocks.call := by
  have apart := sound.apart
  rw [heldCalls_eq] at apart
  have ordered := (((commands_perm found).filterMap MouseBlocks.call).nodup_iff).mpr
    (List.nodup_append.mp apart).2.1
  rw [List.filterMap_cons, own] at ordered
  exact (List.nodup_cons.mp ordered).1

theorem commandFailed_reduces (sound : mouse.Sound) {index : Nat} {blocks : MouseBlocks}
    (found : mouse.commands[index]? = some blocks) :
    mouse.Reduces (mouse.commandFailed index) (failureAnswer blocks) := by
  rw [commandFailed_eq found]
  refine ⟨rfl, ?_, rfl, ?_, mouse.erased_commandCalls index, ?_, fun _ member => .inl member⟩
  · intro given member
    exact sound.issued (.inr ((mem_commandCalls_iff found _).mpr
      (.inl (request_of_failureAnswer member).1)))
  · exact ((List.eraseIdx_sublist _ _).trans (List.sublist_append_right _ _)).subperm
  · intro given member
    exact sound.not_erased found (request_of_failureAnswer member).1

theorem commandFailed_iff (good : mouse.Answers) (sound : mouse.Sound) (index : Nat) :
    mouse.AnswersCall (.commandFailed index) ↔ (mouse.commandFailed index).Answers := by
  rw [AnswersCall]
  cases found : mouse.commands[index]? with
  | none =>
      have outside := Nat.not_lt.mpr (List.getElem?_eq_none_iff.mp found)
      rw [commandFailed_none found]
      exact iff_of_true (fun inside => absurd inside outside) good
  | some blocks =>
      rcases List.getElem?_eq_some_iff.mp found with ⟨bound, _⟩
      have sent : mouse.sent ⊆ (mouse.commandFailed index).sent := by
        rw [commandFailed_eq found]
        exact List.Subset.refl _
      have held : ∀ call, (mouse.commandFailed index).Held call ↔
          call ∈ (mouse.commands.eraseIdx index).filterMap MouseBlocks.call := by
        intro call
        rw [commandFailed_eq found]
        exact or_iff_right (Option.some_ne_none call).symm
      have waits : ∀ given ∈ failureAnswer blocks, mouse.calls.Waits given.request :=
        fun given member => sound.pending_waits ((mem_commandCalls_iff found _).mpr
          (.inl (request_of_failureAnswer member).1))
      have failed : ∀ given ∈ failureAnswer blocks, given.reply = .success →
          (mouse.commandFailed index).HasSent given.request := by
        intro given member succeeded
        cases (request_of_failureAnswer member).2.symm.trans succeeded
      rw [forall_prop_of_true bound, good.spent_iff sound,
        good.reduces_iff (commandFailed_reduces sound found) sent, failureAnswer_request]
      simp only [held, mem_commandCalls_iff found]
      exact ⟨fun waiting => ⟨waits, waiting, failed⟩, fun answered => answered.2.1⟩

theorem commandForgotten_reduces (mouse : WebOSMouse) (index : Nat) :
    mouse.Reduces (mouse.commandForgotten index) none :=
  Reduces.silent rfl rfl rfl ((List.eraseIdx_sublist _ _).append_left _).subperm
    (mouse.erased_commandCalls index)

theorem commandForgotten_iff (good : mouse.Answers) (sound : mouse.Sound) (index : Nat) :
    mouse.AnswersCall (.commandForgotten index) ↔ (mouse.commandForgotten index).Answers := by
  have kept : (mouse.commandForgotten index).Answers ↔ ∀ call, mouse.calls.Waits call →
      (mouse.commandForgotten index).Held call := by
    rw [good.reduces_iff (mouse.commandForgotten_reduces index) (List.Subset.refl _)]
    simp only [Option.map_none, reduceCtorEq, false_or, Option.mem_def, false_imp_iff,
      implies_true, true_and, and_true]
  rw [AnswersCall, kept]
  cases found : mouse.commands[index]? with
  | none =>
      apply iff_of_true (fun _ member => by cases member)
      intro call waits
      have same : mouse.commandForgotten index = mouse := by
        rw [commandForgotten, List.eraseIdx_of_length_le (List.getElem?_eq_none_iff.mp found)]
      rw [same]
      exact good.once.held call waits
  | some blocks =>
      simp only [Option.mem_some_iff, forall_eq']
      constructor
      · intro nobody call waits
        refine (good.once.held call waits).imp_right ?_
        intro member
        rcases (mem_commandCalls_iff found call).mp member with own | rest
        · cases nobody.symm.trans own
        · exact rest
      · intro holds
        cases own : blocks.call with
        | none => rfl
        | some call =>
            have member : call ∈ mouse.commandCalls :=
              (mem_commandCalls_iff found call).mpr (.inl own)
            rcases holds call (sound.pending_waits member) with mouseHas | rest
            · exact absurd member (sound.not_commandCalls mouseHas)
            · exact absurd rest (sound.not_erased found own)

/-! ### The web socket -/

theorem sendPackage_cases (mouse : WebOSMouse) (call : Nat) (input : MouseInput) :
    (mouse.mouseSocket.any WebOSTVServiceMouse.isOpen = true ∧
        mouse.sendPackage call input =
          { mouse with sent := mouse.sent ++ [(call, input.package)] }) ∨
      (mouse.mouseSocket.any WebOSTVServiceMouse.isOpen = false ∧
        mouse.sendPackage call input = mouse) := by
  rw [sendPackage]
  cases mouse.mouseSocket.any WebOSTVServiceMouse.isOpen with
  | true => exact .inl ⟨rfl, rfl⟩
  | false => exact .inr ⟨rfl, rfl⟩

/-- The package of a call that waits has been sent exactly if the socket was open. -/
theorem hasSent_iff (sound : mouse.Sound) {call : Nat} {input : MouseInput}
    (waits : mouse.calls.Waits call) (asked : (call, input) ∈ mouse.requested)
    (requested : next.requested = mouse.requested)
    (sent : next.sent = (mouse.sendPackage call input).sent) :
    next.HasSent call ↔ mouse.mouseSocket.any WebOSTVServiceMouse.isOpen = true := by
  rcases mouse.sendPackage_cases call input with ⟨isOpen, sends⟩ | ⟨isShut, same⟩
  · refine iff_of_true ⟨input, requested ▸ asked, ?_⟩ isOpen
    rw [sent, sends]
    exact List.mem_append_right _ List.mem_cons_self
  · apply iff_of_false _ (Bool.eq_false_iff.mp isShut)
    rintro ⟨other, _, handed⟩
    rw [sent, same] at handed
    exact waits.2 (sound.sent _ handed)

theorem mouseCall_of_blocks {blocks : MouseBlocks} (found : mouse.mouseBlocks = some blocks) :
    mouse.mouseCall = blocks.call := by
  rw [mouseCall, found]
  rfl

theorem mem_heldBlocks {blocks : MouseBlocks} (found : mouse.mouseBlocks = some blocks) :
    blocks ∈ mouse.heldBlocks :=
  List.mem_append_left _ (Option.mem_toList.mpr found)

theorem webSocketDidOpen_cases (mouse : WebOSMouse) :
    (mouse.webSocketDidOpen = mouse ∧ mouse.mouseCall = none) ∨
      ∃ call input, mouse.mouseBlocks = some (.input call input) ∧
        mouse.webSocketDidOpen = (mouse.sendPackage call input).answer call .success := by
  rw [webSocketDidOpen, mouseCall]
  cases mouse.mouseBlocks with
  | none => exact .inl ⟨rfl, rfl⟩
  | some blocks =>
      cases blocks with
      | client => exact .inl ⟨rfl, rfl⟩
      | input call input => exact .inr ⟨call, input, rfl, rfl⟩

/-- A package is sent, or dropped, as the success block of its call runs. -/
theorem sendPackage_reduces (call : Nat) (input : MouseInput)
    (issued : ∀ given ∈ some ({ request := call, reply := .success } : Answer InputBlock),
      mouse.calls.Issued given.request)
    (done : ∀ given ∈ some ({ request := call, reply := .success } : Answer InputBlock),
      given.request ∉ mouse.commandCalls) :
    mouse.Reduces ((mouse.sendPackage call input).answer call .success)
      (some { request := call, reply := .success }) := by
  rcases mouse.sendPackage_cases call input with ⟨_, sends⟩ | ⟨_, same⟩
  · rw [sends]
    refine ⟨rfl, issued, rfl, List.Subperm.refl _, List.Subset.refl _, done, ?_⟩
    intro package member
    refine (List.mem_append.mp member).imp_right ?_
    intro new
    rw [List.mem_singleton.mp new]
    exact List.mem_cons_self
  · rw [same]
    exact ⟨rfl, issued, rfl, List.Subperm.refl _, List.Subset.refl _, done,
      fun _ member => .inl member⟩

theorem webSocketDidOpen_reduces (sound : mouse.Sound) {call : Nat} {input : MouseInput}
    (found : mouse.mouseBlocks = some (.input call input)) :
    mouse.Reduces ((mouse.sendPackage call input).answer call .success)
      (some { request := call, reply := .success }) := by
  have own : call ∈ mouse.mouseCall := mouseCall_of_blocks found
  apply sendPackage_reduces
  · intro given member
    cases member
    exact sound.issued (.inl own)
  · intro given member
    cases member
    exact sound.not_commandCalls own

theorem sendPackage_sent (mouse : WebOSMouse) (call : Nat) (input : MouseInput) :
    mouse.sent ⊆ (mouse.sendPackage call input).sent := by
  rcases mouse.sendPackage_cases call input with ⟨_, sends⟩ | ⟨_, same⟩
  · rw [sends]
    exact List.subset_append_left _ _
  · rw [same]
    exact List.Subset.refl _

theorem sendPackage_held (mouse : WebOSMouse) (call : Nat) (input : MouseInput) (other : Nat) :
    (mouse.sendPackage call input).Held other ↔ mouse.Held other := by
  rcases mouse.sendPackage_cases call input with ⟨_, sends⟩ | ⟨_, same⟩
  · rw [sends]
    rfl
  · rw [same]

theorem webSocketDidOpen_iff (good : mouse.Answers) (sound : mouse.Sound) :
    mouse.AnswersCall .webSocketDidOpen ↔ mouse.webSocketDidOpen.Answers := by
  rcases mouse.webSocketDidOpen_cases with ⟨same, nobody⟩ | ⟨call, input, found, opens⟩
  · rw [same, AnswersCall, nobody]
    exact iff_of_true (fun _ member => by cases member) good
  · have own : mouse.mouseCall = some call := mouseCall_of_blocks found
    have reduces := webSocketDidOpen_reduces sound found
    rw [opens, good.reduces_iff reduces (mouse.sendPackage_sent call input), AnswersCall, own]
    simp only [Option.mem_some_iff, forall_eq', Option.map_some, forall_const]
    have others : ∀ other, mouse.calls.Waits other → some call = some other ∨
        ((mouse.sendPackage call input).answer call .success).Held other := fun other waits =>
      .inr ((mouse.sendPackage_held call input other).mpr (good.once.held other waits))
    rw [and_iff_right others]
    apply and_congr_right
    intro waits
    exact (hasSent_iff sound waits (sound.input call input (mem_heldBlocks found))
      reduces.requested rfl).symm

theorem webSocketDidFail_cases (mouse : WebOSMouse) :
    (mouse.webSocketDidFail = mouse ∧ mouse.mouseCall = none) ∨
      ∃ blocks, mouse.mouseBlocks = some blocks ∧ mouse.webSocketDidFail =
        { mouse with calls := mouse.calls.record (failureAnswer blocks) } := by
  rw [webSocketDidFail, mouseCall]
  cases mouse.mouseBlocks with
  | none => exact .inl ⟨rfl, rfl⟩
  | some blocks => exact .inr ⟨blocks, rfl, mouse.fail_eq blocks⟩

theorem webSocketDidFail_reduces (sound : mouse.Sound) {blocks : MouseBlocks}
    (found : mouse.mouseBlocks = some blocks) :
    mouse.Reduces { mouse with calls := mouse.calls.record (failureAnswer blocks) }
      (failureAnswer blocks) := by
  have own : ∀ given ∈ failureAnswer blocks, mouse.mouseCall = some given.request :=
    fun given member =>
      (mouseCall_of_blocks found).trans (request_of_failureAnswer member).1
  exact ⟨rfl, fun given member => sound.issued (.inl (own given member)), rfl,
    List.Subperm.refl _, List.Subset.refl _,
    fun given member => sound.not_commandCalls (own given member), fun _ member => .inl member⟩

theorem webSocketDidFail_iff (good : mouse.Answers) (sound : mouse.Sound) :
    mouse.AnswersCall .webSocketDidFail ↔ mouse.webSocketDidFail.Answers := by
  rcases mouse.webSocketDidFail_cases with ⟨same, nobody⟩ | ⟨blocks, found, fails⟩
  · rw [same, AnswersCall, nobody]
    exact iff_of_true (fun _ member => by cases member) good
  · rw [fails, good.reduces_iff (webSocketDidFail_reduces sound found) (List.Subset.refl _),
      AnswersCall, mouseCall_of_blocks found]
    constructor
    · intro waits
      refine ⟨fun given member => waits _ (request_of_failureAnswer member).1,
        fun call waiting => .inr (good.once.held call waiting), ?_⟩
      intro given member succeeded
      cases (request_of_failureAnswer member).2.symm.trans succeeded
    · rintro ⟨waits, _⟩ call own
      exact waits { request := call, reply := .failure }
        (Option.map_eq_some_iff.mpr ⟨call, own, rfl⟩)

/-! ## Calls -/

/-- The mouse once it is asked for. -/
def asking (mouse : WebOSMouse) (blocks : MouseBlocks) : WebOSMouse :=
  { mouse with mouseInit := true, commands := mouse.commands ++ [blocks] }

theorem asking_heldBlocks (mouse : WebOSMouse) (blocks : MouseBlocks) :
    (mouse.asking blocks).heldBlocks = mouse.heldBlocks ++ [blocks] :=
  (List.append_assoc _ _ _).symm

theorem asking_commandCalls (mouse : WebOSMouse) (blocks : MouseBlocks) :
    (mouse.asking blocks).commandCalls = mouse.commandCalls ++ blocks.call.toList := by
  rw [commandCalls, asking, List.filterMap_append, commandCalls]
  cases blocks <;> rfl

theorem asking_held_iff (mouse : WebOSMouse) (blocks : MouseBlocks) (call : Nat) :
    (mouse.asking blocks).Held call ↔ mouse.Held call ∨ blocks.call = some call := by
  rw [Held, asking_commandCalls, List.mem_append, Option.mem_toList, ← or_assoc]
  rfl

theorem Sound.asking (sound : mouse.Sound) {blocks : MouseBlocks}
    (own : ∀ call ∈ blocks.call, mouse.calls.Waits call ∧ ¬mouse.Held call)
    (asked : ∀ call input, blocks = .input call input → (call, input) ∈ mouse.requested) :
    (mouse.asking blocks).Sound := by
  refine ⟨sound.calls, ?_, ?_, ?_, ?_, sound.sent⟩
  · intro other member call same
    rw [asking_heldBlocks] at member
    rcases List.mem_append.mp member with before | new
    · exact sound.held other before call same
    · rw [List.mem_singleton.mp new] at same
      exact (own call same).1.1
  · intro call input member
    rw [asking_heldBlocks] at member
    rcases List.mem_append.mp member with before | new
    · exact sound.input call input before
    · exact asked call input (List.mem_singleton.mp new).symm
  · rw [heldCalls_eq, asking_commandCalls, ← List.append_assoc]
    refine List.nodup_append'.mpr ⟨heldCalls_eq mouse ▸ sound.apart, ?_, ?_⟩
    · cases blocks.call with
      | none => exact List.nodup_nil
      | some call => exact List.nodup_singleton call
    · intro call before new
      refine (own call (Option.mem_toList.mp new)).2 ?_
      exact (List.mem_append.mp before).imp_left Option.mem_toList.mp
  · intro call member
    rw [asking_commandCalls] at member
    rcases List.mem_append.mp member with before | new
    · exact sound.pending call before
    · exact (own call (Option.mem_toList.mp new)).1.2

theorem connectMouse_cases (mouse : WebOSMouse) (blocks : MouseBlocks) :
    ((mouse.mouseSocket.isSome || mouse.mouseInit) = true ∧ mouse.connectMouse blocks = mouse) ∨
      ((mouse.mouseSocket.isSome || mouse.mouseInit) = false ∧
        mouse.connectMouse blocks = mouse.asking blocks) := by
  rw [connectMouse]
  cases mouse.mouseSocket.isSome || mouse.mouseInit with
  | true => exact .inl ⟨rfl, rfl⟩
  | false => exact .inr ⟨rfl, rfl⟩

theorem Sound.connectClient (sound : mouse.Sound) : (mouse.connectMouse .client).Sound := by
  rcases mouse.connectMouse_cases .client with ⟨_, same⟩ | ⟨_, asks⟩
  · rw [same]
    exact sound
  · rw [asks]
    exact sound.asking (fun _ own => by cases own) fun _ _ impossible => by cases impossible

theorem connectClient_answers (good : mouse.Answers) :
    (mouse.connectMouse .client).Answers := by
  rcases mouse.connectMouse_cases .client with ⟨_, same⟩ | ⟨_, asks⟩
  · rw [same]
    exact good
  · rw [asks]
    refine ⟨good.once.mono ?_, good.sent⟩
    intro call holds
    exact (mouse.asking_held_iff .client call).mpr (.inl holds)

theorem Sound.request (sound : mouse.Sound) (input : MouseInput) :
    (mouse.request input).Sound := by
  refine ⟨sound.calls.issue, ?_, ?_, sound.apart, sound.pending, sound.sent⟩
  · intro blocks member call own
    exact (sound.held blocks member call own).issue
  · intro call other member
    exact List.mem_append_left _ (sound.input call other member)

/-- Nothing holds a call that has just been made. -/
theorem Sound.not_held (sound : mouse.Sound) : ¬mouse.Held (mouse.calls.issued + 1) :=
  fun holds => Nat.not_succ_le_self _ (sound.issued holds).2

/-- A call is sent to the mouse that is there, asks for the mouse, or nobody hears of it. -/
theorem send_cases (mouse : WebOSMouse) (input : MouseInput) :
    (∃ socket, mouse.mouseSocket = some socket ∧ mouse.send input =
        ((mouse.request input).sendPackage (mouse.calls.issued + 1) input).answer
          (mouse.calls.issued + 1) .success) ∨
      (mouse.mouseSocket = none ∧ mouse.mouseInit = true ∧
        mouse.send input = mouse.request input) ∨
      (mouse.mouseSocket = none ∧ mouse.mouseInit = false ∧
        mouse.send input =
          (mouse.request input).asking (.input (mouse.calls.issued + 1) input)) := by
  have sends : mouse.send input =
      if mouse.mouseSocket.isSome then
        ((mouse.request input).sendPackage (mouse.calls.issued + 1) input).answer
          (mouse.calls.issued + 1) .success
      else (mouse.request input).connectMouse (.input (mouse.calls.issued + 1) input) := rfl
  rw [sends]
  cases found : mouse.mouseSocket with
  | some socket => exact .inl ⟨socket, rfl, rfl⟩
  | none =>
      have busy : ((mouse.request input).mouseSocket.isSome ||
          (mouse.request input).mouseInit) = mouse.mouseInit := by
        simp only [request, found, Option.isSome_none, Bool.false_or]
      rcases (mouse.request input).connectMouse_cases
        (.input (mouse.calls.issued + 1) input) with ⟨init, same⟩ | ⟨init, asks⟩
      · exact .inr (.inl ⟨rfl, busy.symm.trans init, same⟩)
      · exact .inr (.inr ⟨rfl, busy.symm.trans init, asks⟩)

/-- A call that has just been made waits. -/
theorem Sound.request_waits (sound : mouse.Sound) (input : MouseInput) :
    (mouse.request input).calls.Waits (mouse.calls.issued + 1) :=
  sound.calls.waits_issue

theorem send_reduces (sound : mouse.Sound) (input : MouseInput) :
    (mouse.request input).Reduces
      (((mouse.request input).sendPackage (mouse.calls.issued + 1) input).answer
        (mouse.calls.issued + 1) .success)
      (some { request := mouse.calls.issued + 1, reply := .success }) := by
  apply sendPackage_reduces
  · intro given member
    cases member
    exact (sound.request_waits input).1
  · intro given member
    cases member
    exact fun waiting => sound.not_held (.inr waiting)

theorem Sound.send (sound : mouse.Sound) (input : MouseInput) : (mouse.send input).Sound := by
  rcases mouse.send_cases input with ⟨_, _, sends⟩ | ⟨_, _, same⟩ | ⟨_, _, asks⟩
  · rw [sends]
    exact (sound.request input).reduces (send_reduces sound input)
  · rw [same]
    exact sound.request input
  · rw [asks]
    apply (sound.request input).asking
    · intro call own
      cases own
      exact ⟨sound.request_waits input, sound.not_held⟩
    · intro call other same
      cases same
      exact List.mem_append_right _ List.mem_cons_self

theorem waits_request_iff (sound : mouse.Sound) (input : MouseInput) (call : Nat) :
    (mouse.request input).calls.Waits call ↔
      mouse.calls.Waits call ∨ call = mouse.calls.issued + 1 :=
  RequestBook.waits_issue_iff sound.calls call

theorem request_kept (good : mouse.Answers) (sound : mouse.Sound) (input : MouseInput) :
    (mouse.request input).calls.Kept fun call =>
      mouse.Held call ∨ call = mouse.calls.issued + 1 :=
  RequestBook.Kept.issue sound.calls good.once

/-- What the calls before a new one have sent. -/
theorem request_sent (good : mouse.Answers) (input : MouseInput) :
    ∀ answer ∈ (mouse.request input).calls.answers, answer.reply = .success →
      (mouse.request input).HasSent answer.request :=
  good.sent_mono (List.subset_append_left _ _) (List.Subset.refl _)

/-- A call that the mouse takes is answered if its package is sent. -/
theorem send_mouse_iff (good : mouse.Answers) (sound : mouse.Sound) (input : MouseInput) :
    (((mouse.request input).sendPackage (mouse.calls.issued + 1) input).answer
        (mouse.calls.issued + 1) .success).Answers ↔
      mouse.mouseSocket.any WebOSTVServiceMouse.isOpen = true := by
  have reduces := send_reduces sound input
  have waits := sound.request_waits input
  have listed : (mouse.calls.issued + 1, input) ∈ (mouse.request input).requested :=
    List.mem_append_right _ List.mem_cons_self
  have sentBefore : ∀ given ∈ (mouse.request input).calls.answers, given.reply = .success →
      (((mouse.request input).sendPackage (mouse.calls.issued + 1) input).answer
        (mouse.calls.issued + 1) .success).HasSent given.request := by
    intro given member succeeded
    rcases request_sent good input given member succeeded with ⟨other, asked, handed⟩
    exact ⟨other, reduces.requested ▸ asked, sendPackage_sent _ _ _ handed⟩
  have others : ∀ call, (mouse.request input).calls.Waits call →
      some (mouse.calls.issued + 1) = some call ∨
        (((mouse.request input).sendPackage (mouse.calls.issued + 1) input).answer
          (mouse.calls.issued + 1) .success).Held call := by
    intro call waiting
    rcases (waits_request_iff sound input call).mp waiting with earlier | new
    · exact .inr ((sendPackage_held _ _ _ call).mpr (good.once.held call earlier))
    · exact .inl (congrArg some new.symm)
  rw [answers_iff reduces.calls (request_kept good sound input) reduces.issued sentBefore]
  simp only [Option.mem_some_iff, forall_eq', Option.map_some, forall_const]
  rw [and_iff_right waits, and_iff_right others]
  exact hasSent_iff (sound.request input) waits listed reduces.requested rfl

theorem send_iff (good : mouse.Answers) (sound : mouse.Sound) (input : MouseInput) :
    (match mouse.mouseSocket with
      | some socket => socket.isOpen = true
      | none => mouse.mouseInit = false) ↔ (mouse.send input).Answers := by
  rcases mouse.send_cases input with
    ⟨socket, found, sends⟩ | ⟨found, init, same⟩ | ⟨found, init, asks⟩
  · rw [sends, send_mouse_iff good sound, found]
    exact Iff.rfl
  · rw [found, same]
    simp only [init, Bool.true_eq_false, false_iff]
    intro answers
    exact sound.not_held (answers.once.held _ (sound.request_waits input))
  · rw [found, asks]
    refine iff_of_true init ⟨(request_kept good sound input).mono ?_, request_sent good input⟩
    intro call holds
    refine ((mouse.request input).asking_held_iff _ call).mpr (holds.imp_right ?_)
    intro new
    exact congrArg some new.symm

theorem sendKeyCode_answers (good : mouse.Answers) (sound : mouse.Sound) :
    mouse.sendKeyCode.Answers := by
  have kept := RequestBook.Kept.issue sound.calls good.once
  have calls : mouse.sendKeyCode.calls = mouse.calls.issue.record
      (some { request := mouse.calls.issued + 1, reply := .failure }) := rfl
  have waits := sound.calls.waits_issue
  have issued : ∀ given ∈ some ({ request := mouse.calls.issued + 1, reply := .failure } :
      Answer InputBlock), mouse.calls.issue.Issued given.request := by
    intro given member
    cases member
    exact waits.1
  refine (answers_iff calls kept issued good.sent).mpr ⟨?_, ?_, ?_⟩
  · intro given member
    cases member
    exact waits
  · intro call waiting
    rcases (RequestBook.waits_issue_iff sound.calls call).mp waiting with earlier | new
    · exact .inr (good.once.held call earlier)
    · exact .inl (congrArg some new.symm)
  · intro given member succeeded
    cases member
    cases succeeded

theorem Sound.sendKeyCode (sound : mouse.Sound) : mouse.sendKeyCode.Sound := by
  have made : Sound { mouse with calls := mouse.calls.issue } :=
    ⟨sound.calls.issue, fun blocks member call own => (sound.held blocks member call own).issue,
      sound.input, sound.apart, sound.pending, sound.sent⟩
  have failed : Reduces { mouse with calls := mouse.calls.issue } mouse.sendKeyCode
      (some { request := mouse.calls.issued + 1, reply := .failure }) := by
    refine ⟨rfl, ?_, rfl, List.Subperm.refl _, List.Subset.refl _, ?_,
      fun _ member => .inl member⟩
    · intro given member
      cases member
      exact mouse.calls.issued_issue
    · intro given member
      cases member
      exact fun waiting => sound.not_held (.inr waiting)
  exact made.reduces failed

/-! ## Runs -/

theorem Sound.commandCompleted (sound : mouse.Sound) (index : Nat) :
    (mouse.commandCompleted index).Sound := by
  cases found : mouse.commands[index]? with
  | none =>
      rw [commandCompleted_none found]
      exact sound
  | some blocks => exact sound.reduces (commandCompleted_reduces found)

theorem Sound.commandFailed (sound : mouse.Sound) (index : Nat) :
    (mouse.commandFailed index).Sound := by
  cases found : mouse.commands[index]? with
  | none =>
      rw [commandFailed_none found]
      exact sound
  | some blocks => exact sound.reduces (commandFailed_reduces sound found)

theorem Sound.webSocketDidOpen (sound : mouse.Sound) : mouse.webSocketDidOpen.Sound := by
  rcases mouse.webSocketDidOpen_cases with ⟨same, _⟩ | ⟨call, input, found, opens⟩
  · rw [same]
    exact sound
  · rw [opens]
    exact sound.reduces (webSocketDidOpen_reduces sound found)

theorem Sound.webSocketDidFail (sound : mouse.Sound) : mouse.webSocketDidFail.Sound := by
  rcases mouse.webSocketDidFail_cases with ⟨same, _⟩ | ⟨blocks, found, fails⟩
  · rw [same]
    exact sound
  · rw [fails]
    exact sound.reduces (webSocketDidFail_reduces sound found)

theorem Sound.step (sound : mouse.Sound) (event : WebOSMouseEvent) : (mouse.step event).Sound := by
  cases event with
  | sendMouseButton button => exact sound.send _
  | ok => exact sound.send _
  | sendKeyCode => exact sound.sendKeyCode
  | connectMouse => exact sound.connectClient
  | disconnectMouse => exact sound.reduces mouse.disconnectMouse_reduces
  | commandCompleted index => exact sound.commandCompleted index
  | commandFailed index => exact sound.commandFailed index
  | commandForgotten index => exact sound.reduces (mouse.commandForgotten_reduces index)
  | readyStateChanged isOpen => exact sound.reduces (mouse.readyStateChanged_reduces isOpen)
  | webSocketDidOpen => exact sound.webSocketDidOpen
  | webSocketDidFail => exact sound.webSocketDidFail
  | webSocketDidClose wasClean =>
      cases wasClean with
      | true => exact sound.reduces mouse.cleanClose_reduces
      | false => exact sound.webSocketDidFail

/-- While the calls are answered, a step answers them exactly if it is one that does. -/
theorem answersCall_iff (good : mouse.Answers) (sound : mouse.Sound) (event : WebOSMouseEvent) :
    mouse.AnswersCall event ↔ (mouse.step event).Answers := by
  cases event with
  | sendMouseButton button => exact send_iff good sound _
  | ok => exact send_iff good sound _
  | sendKeyCode => exact iff_of_true trivial (sendKeyCode_answers good sound)
  | connectMouse => exact iff_of_true trivial (connectClient_answers good)
  | disconnectMouse => exact disconnectMouse_iff good sound
  | commandCompleted index => exact commandCompleted_iff good sound index
  | commandFailed index => exact commandFailed_iff good sound index
  | commandForgotten index => exact commandForgotten_iff good sound index
  | readyStateChanged isOpen =>
      exact iff_of_true trivial (readyStateChanged_answers good isOpen)
  | webSocketDidOpen => exact webSocketDidOpen_iff good sound
  | webSocketDidFail => exact webSocketDidFail_iff good sound
  | webSocketDidClose wasClean =>
      cases wasClean with
      | true => exact cleanClose_iff good sound
      | false => exact webSocketDidFail_iff good sound

theorem sound_initial : Sound {} :=
  ⟨(fun _ given => by cases given), (fun _ member => by cases member),
    (fun _ _ member => by cases member), List.nodup_nil, (fun _ member => by cases member),
    fun _ member => by cases member⟩

theorem answers_initial : Answers {} := by
  refine ⟨⟨List.nodup_nil, ?_⟩, fun _ given => by cases given⟩
  intro call waits
  exact absurd (Nat.le_antisymm waits.1.2 (Nat.zero_le _)) (Nat.ne_of_gt waits.1.1)

/-- Throughout a run, of the blocks of each call exactly one runs, once, or none as long as
something still has them, and success means that the package was sent, exactly if every step
answers its calls. -/
theorem run_answers_iff (events : List WebOSMouseEvent) :
    EveryStep stepped AnswersCall {} events ↔ Throughout stepped Answers {} events := by
  rcases exists_runFrom step {} events with ⟨final, reached⟩
  have preserved : ∀ mouse event next, Sound mouse → stepped mouse event = some next →
      next.Sound := by
    intro mouse event next sound taken
    cases taken
    exact sound.step event
  have agree : ∀ mouse event next, Sound mouse → mouse.Answers →
      stepped mouse event = some next → (mouse.AnswersCall event ↔ next.Answers) := by
    intro mouse event next sound good taken
    cases taken
    exact answersCall_iff good sound event
  exact everyStep_iff_throughout preserved agree sound_initial answers_initial reached

/-- While the mouse's socket is asked for, a second key finds no mouse and connects none. -/
theorem second_key_unanswered :
    ¬Throughout stepped Answers {} [.sendMouseButton .up, .sendMouseButton .down] := by
  intro answers
  have waits : RequestBook.Waits (request (send {} (.button .up)) (.button .down)).calls 2 :=
    ⟨⟨by decide, by decide⟩, by decide⟩
  rcases answers.2.2.once.held 2 waits with mouseHas | waiting
  · revert mouseHas
    decide
  · revert waiting
    decide

end WebOSMouse

end ConnectSDK
