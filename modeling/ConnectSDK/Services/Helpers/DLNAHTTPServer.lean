import ConnectSDK.Foundation.ListDictionary
import ConnectSDK.Services.Commands.ServiceCommand

/-! # The HTTP server for DLNA events

Subscriptions are kept under the path of the service's event URL, and a NOTIFY request
goes to those under its own path.
-/

namespace ConnectSDK

structure GCDWebServer where
  isRunning : Bool
deriving DecidableEq

structure DLNAHTTPServer where
  allSubscriptions : Dictionary String (List (Ref ServiceCommand)) := ∅
  server : Option GCDWebServer := none

def ServiceCommand.setSubscribed (isSubscribed : Bool) (command : ServiceCommand) :
    ServiceCommand :=
  command.modifySubscription fun subscription => { subscription with isSubscribed }

/-! ## Keys -/

def isSchemeCharacter (character : Char) : Bool :=
  character.isAlphanum || character == '+' || character == '-' || character == '.'

/-- `url.absoluteURL.resourceSpecifier`. -/
def resourceSpecifier (url : String) : List Char :=
  let scheme := url.toList.takeWhile fun character => character != ':'
  if scheme.length < url.toList.length && scheme.all isSchemeCharacter then
    url.toList.drop (scheme.length + 1)
  else
    url.toList

/-- The first two characters are taken for slashes. A text without them, or without a
path after them, raises an exception. -/
def serviceSubscriptionKeyForURL (url : String) : Option String :=
  let specifier := resourceSpecifier url
  let relativePath := (specifier.drop 2).dropWhile fun character => character != '/'
  if relativePath.isEmpty then none else some (String.ofList relativePath)

def trimmingWhitespace (text : String) : String :=
  String.ofList ((text.toList.dropWhile Char.isWhitespace).reverse.dropWhile
    Char.isWhitespace).reverse

namespace DLNAHTTPServer

def isRunning (server : DLNAHTTPServer) : Bool :=
  server.server.any GCDWebServer.isRunning

def stop (server : DLNAHTTPServer) : DLNAHTTPServer :=
  { server with server := none }

/-- `starts` is what starting the web server returns. -/
def start (server : DLNAHTTPServer) (starts : Bool) : DLNAHTTPServer :=
  let server := server.stop
  { server with
    allSubscriptions := ∅
    server := some { isRunning := starts } }

def hasSubscriptions (server : DLNAHTTPServer) : Bool :=
  !server.allSubscriptions.entries.isEmpty

/-- The server, and the subscription's flag. A subscription without a target raises an
exception when it is put under `nil`. -/
def addSubscription (server : DLNAHTTPServer) (commands : Heap ServiceCommand)
    (subscription : Ref ServiceCommand) :
    Option (DLNAHTTPServer × Heap ServiceCommand) := do
  let target ← (commands.read subscription).target
  let key ← serviceSubscriptionKeyForURL target
  some ({ server with allSubscriptions := server.allSubscriptions.addValue key subscription },
    commands.modify subscription (ServiceCommand.setSubscribed true))

/-- Nothing is found under `nil`. -/
def removeSubscription (server : DLNAHTTPServer) (commands : Heap ServiceCommand)
    (subscription : Ref ServiceCommand) :
    Option (DLNAHTTPServer × Heap ServiceCommand) :=
  match (commands.read subscription).target with
  | none => some (server, commands)
  | some target => do
      let key ← serviceSubscriptionKeyForURL target
      match server.allSubscriptions.lookup key with
      | none => some (server, commands)
      | some _ =>
          some ({ server with
              allSubscriptions := server.allSubscriptions.removeValue key subscription },
            commands.modify subscription (ServiceCommand.setSubscribed false))

/-- The subscriptions that a request for the URL is for. -/
def subscriptionsFor (server : DLNAHTTPServer) (url : String) :
    Option (List (Ref ServiceCommand)) :=
  (serviceSubscriptionKeyForURL url).map fun key =>
    (server.allSubscriptions.lookup (trimmingWhitespace key)).getD []

/-! ## Registered subscriptions -/

/-- The subscription is kept under the key of its target. -/
def Registers (server : DLNAHTTPServer) (target : Option String)
    (subscription : Ref ServiceCommand) : Prop :=
  ∃ url key, target = some url ∧ serviceSubscriptionKeyForURL url = some key ∧
    server.allSubscriptions.HasValue key subscription

theorem not_registers_start (server : DLNAHTTPServer) (starts : Bool)
    (target : Option String) (subscription : Ref ServiceCommand) :
    ¬(server.start starts).Registers target subscription := by
  rintro ⟨_, key, _, _, has⟩
  exact Dictionary.not_hasValue_empty key subscription has

theorem addSubscription_spec {server after : DLNAHTTPServer}
    {commands afterCommands : Heap ServiceCommand} {subscription : Ref ServiceCommand}
    (added : server.addSubscription commands subscription = some (after, afterCommands)) :
    afterCommands = commands.modify subscription (ServiceCommand.setSubscribed true) ∧
      after.isRunning = server.isRunning ∧
      after.Registers (commands.read subscription).target subscription ∧
      ∀ target other, server.Registers target other → after.Registers target other := by
  rcases Option.bind_eq_some_iff.mp added with ⟨url, target, added⟩
  rcases Option.bind_eq_some_iff.mp added with ⟨key, is, added⟩
  cases added
  refine ⟨rfl, rfl, ?_, ?_⟩
  · exact ⟨url, key, target, is, Dictionary.hasValue_addValue_self _ key subscription⟩
  · rintro other held ⟨otherURL, otherKey, otherTarget, otherIs, has⟩
    exact ⟨otherURL, otherKey, otherTarget, otherIs, has.addValue key subscription⟩

theorem removeSubscription_spec {server after : DLNAHTTPServer}
    {commands afterCommands : Heap ServiceCommand} {subscription : Ref ServiceCommand}
    (removed : server.removeSubscription commands subscription =
      some (after, afterCommands)) :
    (afterCommands = commands ∨
      afterCommands = commands.modify subscription (ServiceCommand.setSubscribed false)) ∧
      ∀ target other, other ≠ subscription → server.Registers target other →
        after.Registers target other := by
  unfold removeSubscription at removed
  split at removed
  · cases removed
    exact ⟨Or.inl rfl, fun _ _ _ registers => registers⟩
  · rcases Option.bind_eq_some_iff.mp removed with ⟨key, _, removed⟩
    split at removed
    · cases removed
      exact ⟨Or.inl rfl, fun _ _ _ registers => registers⟩
    · cases removed
      refine ⟨Or.inr rfl, ?_⟩
      rintro target other different ⟨otherURL, otherKey, otherTarget, otherIs, has⟩
      exact ⟨otherURL, otherKey, otherTarget, otherIs, has.removeValue key different⟩

end DLNAHTTPServer

end ConnectSDK
