import Mathlib.Data.Nat.Basic
import ConnectSDK.Services.Helpers.SocketClientEvents

/-! # Message ids and connection keys

One counter numbers every message. The table of active connections is keyed by
these numbers, and a subscription keeps the number it was first sent under.
-/

namespace ConnectSDK

namespace WebOSTVServiceSocketClient

variable {platform : Platform}

/-! ## Keys -/

theorem toString_injective {left right : Nat}
    (equal : toString left = toString right) : left = right := by
  have digits : Nat.toDigits 10 left = Nat.toDigits 10 right := by
    have lists := congrArg String.toList equal
    simpa using lists
  have values := congrArg (Nat.ofDigitChars 10 · 0) digits
  simpa using values

theorem connectionKeyForMessageId_injective {left right : String}
    (equal : connectionKeyForMessageId left = connectionKeyForMessageId right) :
    left = right :=
  (String.append_right_inj "req").mp equal

theorem requestKey_injective {left right : Nat}
    (equal : requestKey left = requestKey right) : left = right :=
  toString_injective (connectionKeyForMessageId_injective equal)

theorem connectionKeyForMessageId_ne_hello (messageId : String) :
    connectionKeyForMessageId messageId ≠ "hello" := by
  intro equal
  have lists := congrArg String.toList equal
  simp [connectionKeyForMessageId] at lists

theorem requestKey_ne_hello (messageId : Nat) : requestKey messageId ≠ "hello" :=
  connectionKeyForMessageId_ne_hello _

/-- No issued id prints as `nil` does. -/
theorem requestKey_ne_nil (messageId : Nat) :
    requestKey messageId ≠ connectionKeyForMessageId "(null)" := by
  intro equal
  have printed : toString messageId = "(null)" :=
    connectionKeyForMessageId_injective equal
  have member : '(' ∈ Nat.toDigits 10 messageId := by
    have lists := congrArg String.toList printed
    rw [show (toString messageId).toList = Nat.toDigits 10 messageId by simp] at lists
    rw [lists]
    decide
  have digit := Nat.isDigit_of_mem_toDigits (by decide) (by decide) member
  exact absurd digit (by decide)

/-! ## Numbered clients -/

namespace Ledger

def callId (ledger : Ledger) (command : Ref ServiceCommand) : Option Nat :=
  (ledger.commands.read command).callId

def isSubscription (ledger : Ledger) (command : Ref ServiceCommand) : Bool :=
  (ledger.commands.read command).isSubscription

/-- Every key is that of the hello message or of an issued id, and the call id
of a subscription is an issued one that no other command holds or stands
under. -/
structure Numbered (ledger : Ledger) : Prop where
  object : ∀ key command, ledger.activeConnections.lookup key = some command →
    ledger.commands.Allocated command
  issuedKey : ∀ key command, ledger.activeConnections.lookup key = some command →
    key = "hello" ∨ ∃ messageId ≤ ledger.uid, key = requestKey messageId
  issuedCall : ∀ command messageId, ledger.callId command = some messageId →
    messageId ≤ ledger.uid
  ownKey : ∀ command messageId other, ledger.callId command = some messageId →
    ledger.activeConnections.lookup (requestKey messageId) = some other →
    other = command
  ownCall : ∀ command other messageId, ledger.callId command = some messageId →
    ledger.callId other = some messageId → command = other

variable {ledger : Ledger}

theorem Numbered.unissued (numbered : ledger.Numbered) {messageId : Nat}
    (later : ledger.uid < messageId) :
    ledger.activeConnections.lookup (requestKey messageId) = none := by
  cases held : ledger.activeConnections.lookup (requestKey messageId) with
  | none => rfl
  | some command =>
      rcases numbered.issuedKey _ _ held with hello | ⟨issued, bounded, equal⟩
      · exact absurd hello (requestKey_ne_hello messageId)
      · have same := requestKey_injective equal
        omega

theorem Numbered.unnumbered (numbered : ledger.Numbered) :
    ledger.activeConnections.lookup (connectionKeyForMessageId "(null)") = none := by
  cases held : ledger.activeConnections.lookup (connectionKeyForMessageId "(null)") with
  | none => rfl
  | some command =>
      rcases numbered.issuedKey _ _ held with hello | ⟨issued, _, equal⟩
      · exact absurd hello (connectionKeyForMessageId_ne_hello _)
      · exact absurd equal.symm (requestKey_ne_nil issued)

/-- The id issued next is nobody's call id. -/
theorem Numbered.callId_ne_next (numbered : ledger.Numbered) {command : Ref ServiceCommand}
    {messageId : Nat} (held : ledger.callId command = some messageId) :
    messageId ≠ ledger.uid + 1 := by
  have bounded := numbered.issuedCall command messageId held
  omega

/-- What every step keeps. A command comes under a key that is new, or under its
own call id, and call ids are kept, given up, or newly issued. -/
structure Advance (before after : Ledger) : Prop where
  numbered : after.Numbered
  later : before.uid ≤ after.uid
  objects : ∀ command, before.commands.Allocated command →
    after.commands.Allocated command ∧
      after.isSubscription command = before.isSubscription command
  entry : ∀ key command, after.activeConnections.lookup key = some command →
    before.activeConnections.lookup key = some command ∨ key = "hello" ∨
      ∃ messageId, key = requestKey messageId ∧
        (before.callId command = some messageId ∨ before.uid < messageId)
  call : ∀ command messageId, after.callId command = some messageId →
    before.callId command = some messageId ∨ before.uid < messageId

theorem Advance.trans {first second third : Ledger} (left : Advance first second)
    (right : Advance second third) : Advance first third where
  numbered := right.numbered
  later := Nat.le_trans left.later right.later
  objects command allocated := by
    rcases left.objects command allocated with ⟨between, sameClass⟩
    rcases right.objects command between with ⟨kept, sameLater⟩
    exact ⟨kept, sameLater.trans sameClass⟩
  entry key command held := by
    rcases right.entry key command held with before | hello | ⟨messageId, equal, numbered⟩
    · exact left.entry key command before
    · exact .inr (.inl hello)
    · refine .inr (.inr ⟨messageId, equal, ?_⟩)
      rcases numbered with own | issued
      · exact left.call command messageId own
      · exact .inr (Nat.lt_of_le_of_lt left.later issued)
  call command messageId held := by
    rcases right.call command messageId held with own | issued
    · exact left.call command messageId own
    · exact .inr (Nat.lt_of_le_of_lt left.later issued)

/-- Nothing goes wrong by forgetting entries or call ids, or by issuing
numbers. -/
theorem Numbered.forget {after : Ledger} (numbered : ledger.Numbered)
    (later : ledger.uid ≤ after.uid)
    (objects : ∀ command, ledger.commands.Allocated command →
      after.commands.Allocated command ∧
        after.isSubscription command = ledger.isSubscription command)
    (entries : ∀ key command, after.activeConnections.lookup key = some command →
      ledger.activeConnections.lookup key = some command)
    (calls : ∀ command messageId, after.callId command = some messageId →
      ledger.callId command = some messageId) :
    Advance ledger after where
  numbered := {
    object := fun key command held =>
      (objects command (numbered.object key command (entries key command held))).1
    issuedKey := by
      intro key command held
      rcases numbered.issuedKey key command (entries key command held) with
        hello | ⟨messageId, bounded, equal⟩
      · exact .inl hello
      · exact .inr ⟨messageId, Nat.le_trans bounded later, equal⟩
    issuedCall := fun command messageId held =>
      Nat.le_trans (numbered.issuedCall command messageId (calls _ _ held)) later
    ownKey := fun command messageId other held found =>
      numbered.ownKey command messageId other (calls _ _ held) (entries _ _ found)
    ownCall := fun command other messageId left right =>
      numbered.ownCall command other messageId (calls _ _ left) (calls _ _ right) }
  later
  objects
  entry key command held := .inl (entries key command held)
  call command messageId held := .inl (calls command messageId held)

/-- A step that loses nothing: no entry of the table goes, the hello entry stays
what it is, and no callback is put on the main queue. -/
structure Grows (before after : Ledger) : Prop where
  advance : before.Numbered → Advance before after
  kept : before.Numbered → ∀ key command,
    before.activeConnections.lookup key = some command →
    after.activeConnections.lookup key = some command
  hello : after.activeConnections.lookup "hello" =
    before.activeConnections.lookup "hello"
  unscheduled : after.mainQueue = before.mainQueue

theorem Grows.trans {first second third : Ledger} (left : Grows first second)
    (right : Grows second third) : Grows first third where
  advance before :=
    (left.advance before).trans (right.advance (left.advance before).numbered)
  kept before key command held :=
    right.kept (left.advance before).numbered key command
      (left.kept before key command held)
  hello := right.hello.trans left.hello
  unscheduled := right.unscheduled.trans left.unscheduled

/-- Objects change without a new call id. -/
theorem Grows.commands {commands : Heap ServiceCommand}
    (objects : ∀ command, ledger.commands.Allocated command →
      commands.Allocated command ∧
        (commands.read command).isSubscription = ledger.isSubscription command)
    (calls : ∀ command messageId, (commands.read command).callId = some messageId →
      ledger.callId command = some messageId) :
    Grows ledger { ledger with commands } where
  advance before :=
    before.forget (Nat.le_refl _) objects (fun _ _ held => held) calls
  kept _ _ _ held := held
  hello := rfl
  unscheduled := rfl

theorem Grows.refl (ledger : Ledger) : Grows ledger ledger :=
  Grows.commands (fun _ allocated => ⟨allocated, rfl⟩) (fun _ _ held => held)

theorem Grows.of_eq {before after : Ledger} (same : after = before) :
    Grows before after := by
  rw [same]
  exact .refl before

theorem objects_allocate (ledger : Ledger) (object : ServiceCommand)
    (command : Ref ServiceCommand) (allocated : ledger.commands.Allocated command) :
    (ledger.commands.allocate object).Allocated command ∧
      ((ledger.commands.allocate object).read command).isSubscription =
        ledger.isSubscription command :=
  ⟨allocated.allocate object,
    congrArg ServiceCommand.isSubscription (allocated.read_allocate object)⟩

theorem objects_modify (ledger : Ledger) {target : Ref ServiceCommand}
    {change : ServiceCommand → ServiceCommand}
    (sameClass : ∀ object, (change object).isSubscription = object.isSubscription)
    (command : Ref ServiceCommand) (allocated : ledger.commands.Allocated command) :
    (ledger.commands.modify target change).Allocated command ∧
      ((ledger.commands.modify target change).read command).isSubscription =
        ledger.isSubscription command := by
  refine ⟨allocated, ?_⟩
  by_cases changed : command = target
  · rw [changed, Heap.read_modify_self, sameClass]
    rfl
  · rw [Heap.read_modify_of_ne changed]
    rfl

theorem Grows.allocate {object : ServiceCommand} (unset : object.callId = none) :
    Grows ledger { ledger with commands := ledger.commands.allocate object } := by
  refine .commands (ledger.objects_allocate object) fun command messageId held => ?_
  by_cases fresh : command = ledger.commands.fresh
  · rw [fresh, Heap.read_allocate_fresh, unset] at held
    cases held
  · rw [Heap.read_allocate_of_ne fresh] at held
    exact held

theorem Grows.modify {command : Ref ServiceCommand}
    {change : ServiceCommand → ServiceCommand}
    (sameClass : ∀ object, (change object).isSubscription = object.isSubscription)
    (same : ∀ object, (change object).callId = object.callId) :
    Grows ledger { ledger with commands := ledger.commands.modify command change } := by
  refine .commands (ledger.objects_modify sameClass) fun other messageId held => ?_
  by_cases changed : other = command
  · rw [changed, Heap.read_modify_self, same] at held
    rw [changed]
    exact held
  · rw [Heap.read_modify_of_ne changed] at held
    exact held

theorem Grows.issue (ledger : Ledger) :
    Grows ledger { ledger with uid := ledger.uid + 1 } where
  advance before := before.forget (Nat.le_succ _) (fun _ allocated => ⟨allocated, rfl⟩)
    (fun _ _ held => held) (fun _ _ held => held)
  kept _ _ _ held := held
  hello := rfl
  unscheduled := rfl

/-- The object of a command may stand under an issued id that is no other's call
id. -/
theorem Numbered.setRequest (numbered : ledger.Numbered) {messageId : Nat}
    {command : Ref ServiceCommand} (allocated : ledger.commands.Allocated command)
    (issued : messageId ≤ ledger.uid)
    (free : ∀ other, ledger.callId other = some messageId → command = other) :
    { ledger with
      activeConnections :=
        ledger.activeConnections.insert (requestKey messageId) command }.Numbered where
  object key other held := by
    rw [Dictionary.lookup_insert_eq] at held
    by_cases same : key = requestKey messageId
    · rw [if_pos same, Option.some.injEq] at held
      exact held ▸ allocated
    · rw [if_neg same] at held
      exact numbered.object key other held
  issuedKey key other held := by
    rw [Dictionary.lookup_insert_eq] at held
    by_cases same : key = requestKey messageId
    · exact .inr ⟨messageId, issued, same⟩
    · rw [if_neg same] at held
      exact numbered.issuedKey key other held
  issuedCall := numbered.issuedCall
  ownKey holder callId other held found := by
    rw [Dictionary.lookup_insert_eq] at found
    by_cases same : requestKey callId = requestKey messageId
    · rw [if_pos same] at found
      cases found
      rw [requestKey_injective same] at held
      exact free holder held
    · rw [if_neg same] at found
      exact numbered.ownKey holder callId other held found
  ownCall := numbered.ownCall

/-- An object may take an issued id as its call id that only it stands under and
no other has. -/
theorem Numbered.setCall {commands : Heap ServiceCommand} (numbered : ledger.Numbered)
    {command : Ref ServiceCommand} {messageId : Nat}
    (objects : ∀ other, ledger.commands.Allocated other → commands.Allocated other)
    (others : ∀ other, other ≠ command →
      (commands.read other).callId = ledger.callId other)
    (taken : ∀ callId, (commands.read command).callId = some callId → callId = messageId)
    (issued : messageId ≤ ledger.uid)
    (own : ∀ other, ledger.activeConnections.lookup (requestKey messageId) = some other →
      other = command)
    (free : ∀ other, ledger.callId other = some messageId → command = other) :
    { ledger with commands }.Numbered where
  object key other held := objects other (numbered.object key other held)
  issuedKey := numbered.issuedKey
  issuedCall other callId held := by
    by_cases same : other = command
    · subst same
      exact taken callId held ▸ issued
    · exact numbered.issuedCall other callId ((others other same).symm.trans held)
  ownKey holder callId other held found := by
    by_cases same : holder = command
    · subst same
      have equal := taken callId held
      subst equal
      exact own other found
    · exact numbered.ownKey holder callId other ((others holder same).symm.trans held)
        found
  ownCall left right callId leftHeld rightHeld := by
    by_cases leftSame : left = command
    · by_cases rightSame : right = command
      · rw [leftSame, rightSame]
      · subst leftSame
        have before := (others right rightSame).symm.trans rightHeld
        exact free right (taken callId leftHeld ▸ before)
    · have before := (others left leftSame).symm.trans leftHeld
      by_cases rightSame : right = command
      · subst rightSame
        exact (free left (taken callId rightHeld ▸ before)).symm
      · exact numbered.ownCall left right callId before
          ((others right rightSame).symm.trans rightHeld)

/-- A command is sent under the id issued for it. -/
theorem Grows.request {command : Ref ServiceCommand}
    (allocated : ledger.commands.Allocated command) :
    Grows ledger { ledger with
      uid := ledger.uid + 1
      activeConnections :=
        ledger.activeConnections.insert (requestKey (ledger.uid + 1)) command } where
  advance before := {
    numbered := ((Grows.issue ledger).advance before).numbered.setRequest allocated
      (Nat.le_refl _) fun _ held => absurd rfl (before.callId_ne_next held)
    later := Nat.le_succ _
    objects := fun _ allocated => ⟨allocated, rfl⟩
    entry := by
      intro key other held
      rw [Dictionary.lookup_insert_eq] at held
      by_cases same : key = requestKey (ledger.uid + 1)
      · exact .inr (.inr ⟨_, same, .inr (Nat.lt_succ_self _)⟩)
      · rw [if_neg same] at held
        exact .inl held
    call := fun _ _ held => .inl held }
  kept before key other held := by
    have absent := before.unissued (Nat.lt_succ_self ledger.uid)
    rw [Dictionary.lookup_insert_eq, if_neg, held]
    intro same
    rw [same, absent] at held
    cases held
  hello := AList.lookup_insert_ne (requestKey_ne_hello _).symm
  unscheduled := rfl

/-- The objects after one of them took a call id or gave its own up. -/
theorem Advance.setCall {before after : Ledger} {command : Ref ServiceCommand}
    {messageId : Nat} {change : ServiceCommand → ServiceCommand}
    (advance : Advance before after)
    (sameClass : ∀ object, (change object).isSubscription = object.isSubscription)
    (result : ∀ object callId, (change object).callId = some callId → callId = messageId)
    (own : ∀ other, after.activeConnections.lookup (requestKey messageId) = some other →
      other = command)
    (issued : messageId ≤ after.uid)
    (free : ∀ other, after.callId other = some messageId → command = other)
    (fresh : before.callId command = some messageId ∨ before.uid < messageId) :
    Advance before { after with commands := after.commands.modify command change } where
  numbered := by
    refine advance.numbered.setCall (fun _ allocated => allocated) ?_ ?_ issued own free
    · intro other different
      exact congrArg ServiceCommand.callId (Heap.read_modify_of_ne different change)
    · intro callId held
      rw [Heap.read_modify_self] at held
      exact result _ callId held
  later := advance.later
  objects other allocated := by
    rcases advance.objects other allocated with ⟨between, same⟩
    rcases after.objects_modify sameClass other between with ⟨kept, sameLater⟩
    exact ⟨kept, sameLater.trans same⟩
  entry := advance.entry
  call other callId held := by
    by_cases same : other = command
    · subst same
      have read : (after.commands.modify other change).read other =
          change (after.commands.read other) := Heap.read_modify_self ..
      have taken : (change (after.commands.read other)).callId = some callId :=
        read ▸ held
      rw [result _ callId taken]
      exact fresh
    · have read : (after.commands.modify command change).read other =
          after.commands.read other := Heap.read_modify_of_ne same change
      have before : (after.commands.read other).callId = some callId := read ▸ held
      exact advance.call other callId before

/-- A subscription is sent under its call id, and keeps that id or gives it
up. -/
theorem Grows.again {command : Ref ServiceCommand} {messageId : Nat}
    {change : ServiceCommand → ServiceCommand}
    (allocated : ledger.commands.Allocated command)
    (sent : ledger.callId command = some messageId)
    (sameClass : ∀ object, (change object).isSubscription = object.isSubscription)
    (result : ∀ object callId, (change object).callId = some callId → callId = messageId) :
    Grows ledger { ledger with
      activeConnections := ledger.activeConnections.insert (requestKey messageId) command
      commands := ledger.commands.modify command change } where
  advance before := by
    have issued := before.issuedCall command messageId sent
    have free := fun other held => before.ownCall command other messageId sent held
    have placed : Advance ledger { ledger with
        activeConnections :=
          ledger.activeConnections.insert (requestKey messageId) command } := {
      numbered := before.setRequest allocated issued free
      later := Nat.le_refl _
      objects := fun _ allocated => ⟨allocated, rfl⟩
      entry := by
        intro key other held
        rw [Dictionary.lookup_insert_eq] at held
        by_cases same : key = requestKey messageId
        · rw [if_pos same, Option.some.injEq] at held
          exact .inr (.inr ⟨messageId, same, .inl (held ▸ sent)⟩)
        · rw [if_neg same] at held
          exact .inl held
      call := fun _ _ held => .inl held }
    refine placed.setCall sameClass result ?_ issued free (.inl sent)
    intro other held
    rw [AList.lookup_insert] at held
    exact (Option.some.inj held).symm
  kept before key other held := by
    rw [Dictionary.lookup_insert_eq]
    by_cases same : key = requestKey messageId
    · rw [if_pos same]
      rw [same] at held
      rw [before.ownKey command messageId other sent held]
    · rw [if_neg same, held]
  hello := AList.lookup_insert_ne (requestKey_ne_hello messageId).symm
  unscheduled := rfl

/-- A subscription without a call id is sent under the id issued for it, and
takes it or not. -/
theorem Grows.first {command : Ref ServiceCommand}
    {change : ServiceCommand → ServiceCommand}
    (allocated : ledger.commands.Allocated command)
    (sameClass : ∀ object, (change object).isSubscription = object.isSubscription)
    (result : ∀ object callId, (change object).callId = some callId →
      callId = ledger.uid + 1) :
    Grows ledger { ledger with
      uid := ledger.uid + 1
      activeConnections :=
        ledger.activeConnections.insert (requestKey (ledger.uid + 1)) command
      commands := ledger.commands.modify command change } where
  advance before := by
    refine ((Grows.request allocated).advance before).setCall sameClass result ?_
      (Nat.le_refl _) ?_ (.inr (Nat.lt_succ_self _))
    · intro other held
      rw [AList.lookup_insert] at held
      exact (Option.some.inj held).symm
    · intro other held
      exact absurd rfl (before.callId_ne_next held)
  kept := (Grows.request allocated).kept
  hello := (Grows.request allocated).hello
  unscheduled := rfl

/-- A subscription is created under the id issued for it. -/
theorem Grows.create (ledger : Ledger) {object : ServiceCommand}
    (own : object.callId = some (ledger.uid + 1)) :
    Grows ledger { ledger with
      uid := ledger.uid + 1
      commands := ledger.commands.allocate object } where
  advance before := {
    numbered := by
      have others : ∀ other, other ≠ ledger.commands.fresh →
          ((ledger.commands.allocate object).read other).callId = ledger.callId other :=
        fun other different =>
          congrArg ServiceCommand.callId (Heap.read_allocate_of_ne different object)
      refine ((Grows.issue ledger).advance before).numbered.setCall
        (fun _ allocated => allocated.allocate object) others ?_ (Nat.le_refl _) ?_ ?_
      · intro callId held
        rw [Heap.read_allocate_fresh, own] at held
        exact (Option.some.inj held).symm
      · intro other held
        have absent := before.unissued (Nat.lt_succ_self ledger.uid)
        cases absent.symm.trans held
      · intro other held
        exact absurd rfl (before.callId_ne_next held)
    later := Nat.le_succ _
    objects := ledger.objects_allocate object
    entry := fun _ _ held => .inl held
    call := by
      intro command messageId held
      by_cases fresh : command = ledger.commands.fresh
      · have read : (ledger.commands.allocate object).read command = object := by
          rw [fresh, Heap.read_allocate_fresh]
        have equal : object.callId = some messageId := read ▸ held
        have same : ledger.uid + 1 = messageId := Option.some.inj (own.symm.trans equal)
        exact .inr (same ▸ Nat.lt_succ_self ledger.uid)
      · have read : (ledger.commands.allocate object).read command =
            ledger.commands.read command := Heap.read_allocate_of_ne fresh object
        exact .inl (show (ledger.commands.read command).callId = _ from read ▸ held) }
  kept _ _ _ held := held
  hello := rfl
  unscheduled := rfl

/-- The client says hello. What stood under the hello key is gone. -/
def greet (platform : Platform) (ledger : Ledger) : Ledger where
  uid := ledger.uid + 1
  activeConnections := ledger.activeConnections.insert "hello" ledger.commands.fresh
  commands := ledger.commands.allocate (helloCommand platform)
  mainQueue := ledger.mainQueue

theorem lookup_greet (ledger : Ledger) (platform : Platform) (key : String) :
    (ledger.greet platform).activeConnections.lookup key =
      if key = "hello" then some ledger.commands.fresh
      else ledger.activeConnections.lookup key :=
  Dictionary.lookup_insert_eq ..

theorem Numbered.greet (numbered : ledger.Numbered) (platform : Platform) :
    Advance ledger (ledger.greet platform) := by
  have prepared : Advance ledger { ledger with
      uid := ledger.uid + 1
      commands := ledger.commands.allocate (helloCommand platform) } :=
    ((Grows.allocate rfl).trans (Grows.issue _)).advance numbered
  refine { prepared with numbered := ?_, entry := ?_ }
  · refine { prepared.numbered with object := ?_, issuedKey := ?_, ownKey := ?_ }
    · intro key command held
      rw [lookup_greet] at held
      by_cases hello : key = "hello"
      · rw [if_pos hello, Option.some.injEq] at held
        exact held ▸ ledger.commands.allocated_fresh _
      · rw [if_neg hello] at held
        exact prepared.numbered.object key command held
    · intro key command held
      rw [lookup_greet] at held
      by_cases hello : key = "hello"
      · exact .inl hello
      · rw [if_neg hello] at held
        exact prepared.numbered.issuedKey key command held
    · intro command messageId other held found
      rw [lookup_greet, if_neg (requestKey_ne_hello messageId)] at found
      exact prepared.numbered.ownKey command messageId other held found
  · intro key command held
    rw [lookup_greet] at held
    by_cases hello : key = "hello"
    · exact .inr (.inl hello)
    · rw [if_neg hello] at held
      exact .inl held

end Ledger

open Ledger

/-! ## The client's methods -/

/-- The client says hello in a socket that is open. Otherwise opening does not
touch the messages. -/
theorem openSocket_ledger (client : WebOSTVServiceSocketClient) :
    (openSocket platform client).ledger =
      if client.socket.map LGSRWebSocket.readyState = some .open then
        client.ledger.greet platform
      else client.ledger := by
  unfold openSocket
  cases client.socket.map LGSRWebSocket.readyState with
  | none => rfl
  | some readyState => cases readyState <;> rfl

theorem sendStringOverSocket_ledger (client : WebOSTVServiceSocketClient)
    (payload : String) :
    (sendStringOverSocket platform client payload).ledger = client.ledger := by
  cases connected : client.socket with
  | none => simp [sendStringOverSocket, openSocket, connected, createSocket, callSocket,
      enqueue, ledger]
  | some socket =>
      rcases socket with ⟨number, readyState⟩
      cases readyState <;>
        simp [sendStringOverSocket, openSocket, connected, createSocket, callSocket,
          enqueue, sendNow, ledger]

theorem grows_registerWithTv (client : WebOSTVServiceSocketClient) :
    Grows client.ledger (registerWithTv platform client).ledger := by
  have allocated : Grows client.ledger { client.ledger with
      commands := client.commands.allocate registerCommand } :=
    .allocate rfl
  exact allocated.trans (.request (client.commands.allocated_fresh registerCommand))

theorem grows_sendCommand {client : WebOSTVServiceSocketClient}
    {command : Ref ServiceCommand} (allocated : client.commands.Allocated command) :
    Grows client.ledger (sendCommand platform client command).ledger := by
  have placed : Grows client.ledger
      ((client.getNextId).setActiveConnection (requestKey (client.uid + 1))
        command).ledger := .request allocated
  rw [sendCommand, sendStringOverSocket_ledger]
  exact placed

/-- What sending a subscription does to the messages, and the call id that it
returns. -/
theorem sendSubscription_ledger {client after issued : WebOSTVServiceSocketClient}
    {command : Ref ServiceCommand} {type : ServiceSubscriptionType}
    {messageId : Nat} {callId : Option Nat}
    (issuing : client.issuedCallId (client.ledger.callId command) = (issued, messageId))
    (taken : sendSubscription platform client command type = some (after, callId)) :
    after.ledger = (issued.setActiveConnection (requestKey messageId) command).ledger ∧
      ∀ result, callId = some result → result = messageId := by
  have issuingHere : client.issuedCallId (client.commands.read command).callId =
      (issued, messageId) := issuing
  have own : ∀ result, some messageId = some result → result = messageId :=
    fun result equal => (Option.some.inj equal).symm
  simp only [sendSubscription, issuingHere] at taken
  cases url : (client.commands.read command).target with
  | none =>
      simp only [url] at taken
      cases taken
  | some target =>
      simp only [url] at taken
      cases type with
      | subscribe =>
          cases taken
          exact ⟨sendStringOverSocket_ledger _ _, own⟩
      | unsubscribe =>
          simp only at taken
          split_ifs at taken with online
          · cases taken
            exact ⟨sendStringOverSocket_ledger _ _, own⟩
          · cases taken
            exact ⟨rfl, fun result unset => by cases unset⟩

/-- Sending a subscription and noting what came of it. -/
theorem grows_sendSubscription {client after : WebOSTVServiceSocketClient}
    {command : Ref ServiceCommand} {type : ServiceSubscriptionType}
    {callId : Option Nat} {change : ServiceCommand → ServiceCommand}
    (allocated : client.commands.Allocated command)
    (taken : sendSubscription platform client command type = some (after, callId))
    (sameClass : ∀ object, (change object).isSubscription = object.isSubscription)
    (result : ∀ object, (change object).callId = callId ∨ (change object).callId = none) :
    Grows client.ledger (after.modifyCommand command change).ledger := by
  have modified : (after.modifyCommand command change).ledger = { after.ledger with
      commands := after.ledger.commands.modify command change } := rfl
  have noted : ∀ messageId, (∀ returned, callId = some returned → returned = messageId) →
      ∀ object noted, (change object).callId = some noted → noted = messageId := by
    intro messageId returned object noted held
    rcases result object with same | unset
    · exact returned noted (same ▸ held)
    · cases unset.symm.trans held
  cases held : client.ledger.callId command with
  | none =>
      have issuing : client.issuedCallId (client.ledger.callId command) =
          (client.getNextId, client.uid + 1) := by rw [held]; rfl
      rcases sendSubscription_ledger issuing taken with ⟨sent, returned⟩
      rw [modified, sent]
      exact .first allocated sameClass (noted _ returned)
  | some messageId =>
      have issuing : client.issuedCallId (client.ledger.callId command) =
          (client, messageId) := by rw [held]; rfl
      rcases sendSubscription_ledger issuing taken with ⟨sent, returned⟩
      rw [modified, sent]
      exact .again allocated held sameClass (noted _ returned)

/-- What a message to an object does, if there is one. -/
theorem grows_toObject {client after : WebOSTVServiceSocketClient}
    {command : Ref ServiceCommand}
    {act : WebOSTVServiceSocketClient → Option WebOSTVServiceSocketClient}
    (taken : client.toObject command act = some after)
    (grows : client.commands.Allocated command → act client = some after →
      Grows client.ledger after.ledger) :
    Grows client.ledger after.ledger := by
  unfold toObject at taken
  split_ifs at taken with allocated
  · exact grows allocated taken
  · cases taken
    exact .refl _

theorem grows_subscribe {client after : WebOSTVServiceSocketClient}
    {command : Ref ServiceCommand}
    (taken : subscribe platform client command = some after) :
    Grows client.ledger after.ledger := by
  refine grows_toObject taken fun allocated subscribed => ?_
  rcases Option.map_eq_some_iff.mp subscribed with ⟨⟨sent, callId⟩, sending, equal⟩
  subst equal
  refine grows_sendSubscription allocated sending
    (ServiceCommand.didSubscribe_isSubscription callId) fun object => ?_
  rw [ServiceCommand.didSubscribe_callId]
  cases object.isSubscription with
  | true => exact .inl rfl
  | false => exact .inr rfl

theorem grows_unsubscribe {client after : WebOSTVServiceSocketClient}
    {command : Ref ServiceCommand}
    (taken : unsubscribe platform client command = some after) :
    Grows client.ledger after.ledger := by
  refine grows_toObject taken fun allocated unsubscribed => ?_
  rcases Option.map_eq_some_iff.mp unsubscribed with ⟨⟨sent, callId⟩, sending, equal⟩
  subst equal
  refine grows_sendSubscription allocated sending
    (ServiceCommand.didUnsubscribe_isSubscription callId) fun object => ?_
  rw [ServiceCommand.didUnsubscribe_callId]
  cases object.isSubscription with
  | true => exact .inl rfl
  | false => exact .inr rfl

theorem grows_addBlocks (client : WebOSTVServiceSocketClient)
    (subscription : Ref ServiceCommand) (success failure : Option UserBlock) :
    Grows client.ledger (client.addBlocks subscription success failure).ledger := by
  have grown : Grows client.ledger { client.ledger with
      commands := client.ledger.commands.modify subscription
        fun object => object.addBlocks success failure } :=
    .modify (fun object => object.addBlocks_isSubscription success failure)
      (fun object => object.addBlocks_callId success failure)
  exact grown

theorem grows_subscriptionFor (client : WebOSTVServiceSocketClient) (url : String)
    (payload : Option JSON.Fields) :
    Grows client.ledger (subscriptionFor platform client url payload).1.ledger := by
  simp only [subscriptionFor]
  cases client.subscribed.lookup (subscriptionReferenceForURL platform url payload) with
  | none =>
      have own : (ServiceCommand.subscriptionWithDelegate (some url) payload
          (some (client.uid + 1))).callId = some (client.ledger.uid + 1) := rfl
      exact .create client.ledger own
  | some subscription => exact .refl _

theorem grows_addSubscribe {client after : WebOSTVServiceSocketClient} {url : String}
    {payload : Option JSON.Fields} {success failure : Option UserBlock}
    (taken : addSubscribe platform client url payload success failure = some after) :
    Grows client.ledger after.ledger := by
  simp only [addSubscribe] at taken
  have found : Grows client.ledger (subscriptionFor platform client url payload).1.ledger :=
    grows_subscriptionFor client url payload
  have added := found.trans (grows_addBlocks _
    (subscriptionFor platform client url payload).2 success failure)
  split_ifs at taken with subscribed
  · cases taken
    exact added
  · exact added.trans (grows_subscribe taken)

theorem grows_subscribeAll {client after : WebOSTVServiceSocketClient}
    {subscriptions : List (Ref ServiceCommand)}
    (taken : subscribeAll platform client subscriptions = some after) :
    Grows client.ledger after.ledger := by
  induction subscriptions generalizing client with
  | nil =>
      cases taken
      exact .refl _
  | cons subscription rest induction =>
      rcases Option.bind_eq_some_iff.mp taken with ⟨next, first, later⟩
      exact (grows_subscribe first).trans (induction later)

/-! ## The main queue -/

theorem flushCommandQueue_ledger (client : WebOSTVServiceSocketClient) :
    client.flushCommandQueue.ledger = client.ledger := by
  have sending : ∀ (queued : List String) (client : WebOSTVServiceSocketClient),
      (queued.foldl (fun client sendString =>
        client.callSocket (.send .sendStringOverSocket sendString)) client).ledger = client.ledger := by
    intro queued
    induction queued with
    | nil =>
        intro client
        rfl
    | cons sendString rest induction =>
        intro client
        exact induction (client.callSocket (.send .sendStringOverSocket sendString))
  exact sending client.commandQueue client

theorem pairAs_ledger (client : WebOSTVServiceSocketClient) (pairingString : String) :
    (client.pairAs pairingString).ledger = client.ledger := by
  simp only [pairAs]
  split_ifs <;> rfl

theorem grows_resubscribeSaved {client after : WebOSTVServiceSocketClient}
    (taken : registerComplete.resubscribeSaved platform client = some after) :
    Grows client.ledger after.ledger := by
  unfold registerComplete.resubscribeSaved at taken
  split_ifs at taken with nothing
  · cases taken
    exact .refl _
  · rcases Option.map_eq_some_iff.mp taken with ⟨sent, sending, equal⟩
    subst equal
    let client' := { client with subscribed := client.savedSubscriptions }
    have grown : Grows client'.ledger sent.ledger := grows_subscribeAll sending
    exact grown

theorem grows_registerComplete {client after : WebOSTVServiceSocketClient}
    {response : Option JSON}
    (taken : registerComplete platform client response = some after) :
    Grows client.ledger after.ledger := by
  simp only [registerComplete, Option.bind_eq_bind, Option.bind_eq_some_iff] at taken
  rcases taken with ⟨_, _, pairingString, _, saved, resubscribed, equal⟩
  cases equal
  have grown := grows_resubscribeSaved resubscribed
  rw [flushCommandQueue_ledger] at grown
  cases pairingString with
  | none =>
      split_ifs at grown <;> exact grown
  | some pairing =>
      rw [← pairAs_ledger client pairing]
      split_ifs at grown <;> exact grown

theorem grows_helloComplete {client after : WebOSTVServiceSocketClient}
    {response : Option JSON}
    (taken : helloComplete platform client response = some after) :
    Grows client.ledger after.ledger := by
  unfold helloComplete at taken
  cases paired : client.service.serviceConfig.uuid with
  | none =>
      simp only [paired, Option.bind_eq_bind, Option.bind_eq_some_iff] at taken
      rcases taken with ⟨deviceUUID, _, equal⟩
      cases equal
      exact grows_registerWithTv { client with
        service := client.service.setUUID (deviceUUID.bind JSON.string?) }
  | some uuid =>
      simp only [paired, Option.bind_eq_bind, Option.bind_eq_some_iff] at taken
      rcases taken with ⟨_, _, deviceUUID, _, registered⟩
      split_ifs at registered with same
      · cases registered
        exact grows_registerWithTv client
      · cases registered
        have grown : Grows (client.rejectImpostor platform).ledger
            (registerWithTv platform (client.rejectImpostor platform)).ledger :=
          grows_registerWithTv _
        have rejected : (client.rejectImpostor platform).ledger = client.ledger :=
          (disconnectWithError_frame _ _).1
        rw [rejected] at grown
        exact grown

theorem registerFailed_ledger (client : WebOSTVServiceSocketClient) (error : NSError) :
    (client.registerFailed error).ledger = client.ledger := by
  simp only [registerFailed]
  split_ifs <;> rfl

theorem grows_runFailed {client after : WebOSTVServiceSocketClient}
    {command : Ref ServiceCommand} {error : NSError}
    (taken : runFailed platform client command error = some after) :
    Grows client.ledger after.ledger := by
  have same : after.ledger = client.ledger := by
    rcases runFailed_cases taken with ⟨blocks, _, ran⟩ | ⟨_, ran⟩ | ⟨_, ran⟩
    · rw [ran]
      rfl
    · rw [ran]
      exact (disconnectWithError_frame _ _).1
    · rw [ran]
      exact registerFailed_ledger client error
  rw [same]
  exact .refl _

theorem grows_runComplete {client after : WebOSTVServiceSocketClient}
    {command : Ref ServiceCommand} {response : Option JSON}
    (taken : runComplete platform client command response = some after) :
    Grows client.ledger after.ledger := by
  rcases runComplete_cases taken with ⟨blocks, _, ran⟩ | ⟨_, greeted⟩ | ⟨_, registered⟩
  · rw [ran]
    exact .refl _
  · exact grows_helloComplete greeted
  · exact grows_registerComplete registered

theorem grows_runBlock {client after : WebOSTVServiceSocketClient} {block : MainBlock}
    (taken : runBlock platform client block = some after) :
    Grows client.ledger after.ledger := by
  rcases runBlock_cases taken with ⟨command, response, rfl, completed⟩ |
    ⟨command, error, rfl, failed⟩ | ⟨command, error, ran, rfl, failed, rfl⟩
  · exact grows_runComplete completed
  · exact grows_runFailed failed
  · have grown : Grows client.ledger ran.ledger := grows_runFailed failed
    exact grown

/-- A block is taken off the main queue and run. -/
theorem grows_runNext {client after : WebOSTVServiceSocketClient}
    (taken : runNext platform client = some after) :
    Grows { client.ledger with mainQueue := client.mainQueue.tail } after.ledger := by
  rcases runNext_cases taken with ⟨queued, rfl⟩ | ⟨block, rest, queued, run⟩
  · rw [queued]
    exact .of_eq (by rw [List.tail_nil, ← queued]; rfl)
  · have grown : Grows ({ client with mainQueue := rest } :
        WebOSTVServiceSocketClient).ledger after.ledger := grows_runBlock run
    rw [queued]
    exact grown

/-! ## Incoming messages -/

def commandUnder (platform : Platform) (client : WebOSTVServiceSocketClient)
    (message : IncomingMessage) : Option (Ref ServiceCommand) :=
  client.activeConnections.lookup (connectionKey platform message)

/-- The callbacks that a message puts on the main queue. -/
def messageBlocks (platform : Platform) (client : WebOSTVServiceSocketClient)
    (decodeData : Option JSON) (message : IncomingMessage) : List MainBlock :=
  let command := commandUnder platform client message
  if message.type = some "error" then
    client.rejection platform decodeData message.comId command
  else
    (if message.type = some "hello" then
      client.completion (client.activeConnections.lookup "hello") message.payload
    else []) ++
    if message.comId.isSome then client.completion command message.payload else []

/-- The keys that a message takes out of the table. -/
def settledKeys (platform : Platform) (client : WebOSTVServiceSocketClient)
    (message : IncomingMessage) : List String :=
  (if message.type = some "hello" then ["hello"] else []) ++
  if client.leaveConnection message (commandUnder platform client message) then []
  else [connectionKey platform message]

theorem receiveRegistered_ledger {client after : WebOSTVServiceSocketClient}
    {payload : Option JSON} (taken : client.receiveRegistered payload = some after) :
    after.ledger = client.ledger := by
  rcases Option.map_eq_some_iff.mp taken with ⟨clientKey, _, equal⟩
  subst equal
  rfl

theorem receiveAnswer_ledger {client after : WebOSTVServiceSocketClient}
    {message : IncomingMessage} {command : Option (Ref ServiceCommand)}
    (taken : client.receiveAnswer message command = some after) :
    after.ledger = { client.ledger with
      activeConnections :=
        if message.type = some "hello" then client.activeConnections.erase "hello"
        else client.activeConnections
      mainQueue := client.mainQueue ++
        ((if message.type = some "hello" then
          client.completion (client.activeConnections.lookup "hello") message.payload
        else []) ++
        if message.comId.isSome then client.completion command message.payload
        else []) } := by
  rcases Option.map_eq_some_iff.mp taken with ⟨received, receiving, equal⟩
  have sameCompletion : received.ledger.commands = client.ledger.commands →
      ∀ response, received.completion command response =
        client.completion command response := by
    intro same response
    have sameCommands : received.commands = client.commands := same
    cases command with
    | none => rfl
    | some command => simp only [completion, sameCommands]
  have finish : after.ledger = { received.ledger with
      mainQueue := received.mainQueue ++
        if message.comId.isSome then received.completion command message.payload
        else [] } := by
    subst equal
    split_ifs <;> simp [ledger, dispatchOnMain]
  rw [finish]
  by_cases registered : message.type = some "registered"
  · rw [if_pos registered] at receiving
    have same := receiveRegistered_ledger receiving
    have sameQueue : received.mainQueue = client.mainQueue :=
      congrArg Ledger.mainQueue same
    rw [same, sameQueue, sameCompletion (by rw [same])]
    simp [registered, ledger]
  · rw [if_neg registered] at receiving
    by_cases hello : message.type = some "hello"
    · rw [if_pos hello] at receiving
      cases receiving
      rw [sameCompletion rfl]
      simp [hello, ledger, receiveHello, dispatchOnMain, List.append_assoc]
    · rw [if_neg hello] at receiving
      cases receiving
      simp [hello, ledger]

/-- What one message that the delegate lets through does to the table and to the
main queue. -/
theorem didReceiveMessage_ledger {client after : WebOSTVServiceSocketClient}
    {decodeData : Option JSON} {shouldProcessMessage : Bool}
    (processed : client.refuses shouldProcessMessage = false)
    (taken : didReceiveMessage platform client decodeData shouldProcessMessage =
      some after) :
    ∃ message, readMessage decodeData = some message ∧
      after.ledger = { client.ledger with
        activeConnections := Dictionary.eraseAll (settledKeys platform client message)
          client.activeConnections
        mainQueue := client.mainQueue ++
          messageBlocks platform client decodeData message } := by
  rw [didReceiveMessage, processed] at taken
  rcases Option.bind_eq_some_iff.mp taken with ⟨message, read, receiving⟩
  refine ⟨message, read, ?_⟩
  rcases Option.map_eq_some_iff.mp receiving with ⟨received, receiving, equal⟩
  have scheduled : received.ledger = { client.ledger with
      activeConnections :=
        if message.type = some "hello" then client.activeConnections.erase "hello"
        else client.activeConnections
      mainQueue := client.mainQueue ++
        messageBlocks platform client decodeData message } := by
    by_cases error : message.type = some "error"
    · rw [if_pos error] at receiving
      cases receiving
      simp [messageBlocks, error, ledger, dispatchOnMain, commandUnder]
    · rw [if_neg error] at receiving
      rw [receiveAnswer_ledger receiving, messageBlocks, if_neg error]
      rfl
  have sameCommands : received.commands = client.commands :=
    congrArg Ledger.commands scheduled
  have sameLeave : received.leaveConnection message
      (client.activeConnections.lookup (connectionKey platform message)) =
        client.leaveConnection message (commandUnder platform client message) := by
    simp only [leaveConnection, sameCommands, commandUnder]
  rw [sameLeave] at equal
  have table : received.activeConnections = if message.type = some "hello" then
      client.activeConnections.erase "hello" else client.activeConnections :=
    congrArg Ledger.activeConnections scheduled
  subst equal
  unfold settledKeys
  by_cases leave : client.leaveConnection message (commandUnder platform client message)
  · rw [if_pos leave, if_pos leave, scheduled]
    by_cases hello : message.type = some "hello" <;>
      simp [hello, Dictionary.eraseAll]
  · rw [if_neg leave, if_neg leave]
    have finish : ({ received with
        activeConnections := received.activeConnections.erase
          (connectionKey platform message) } : WebOSTVServiceSocketClient).ledger =
        { received.ledger with
          activeConnections := received.activeConnections.erase
            (connectionKey platform message) } := rfl
    rw [finish, scheduled, table]
    by_cases hello : message.type = some "hello" <;>
      simp [hello, Dictionary.eraseAll]

end WebOSTVServiceSocketClient

end ConnectSDK
