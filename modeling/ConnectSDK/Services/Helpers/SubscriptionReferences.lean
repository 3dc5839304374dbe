import ConnectSDK.Services.Helpers.KeptCommands
import ConnectSDK.Services.Helpers.RestoredSubscriptions

/-! # References of subscriptions

`subscriptionReferenceForURL:payload:` appends the values of the payload to the URL, without
their keys and with nothing between them. The URL and the payload of a command never change,
so a subscription is kept under the reference of its own. Two requests have the same
reference exactly if they run together, and then they share one subscription.
-/

namespace ConnectSDK

namespace JSON

def IsNumber : JSON → Prop
  | .bool _ => True
  | .number _ => True
  | _ => False

/-- `isEqual:`. A Boolean is a number, and dictionaries have equal values under every key. -/
inductive IsEqual : JSON → JSON → Prop where
  | null : IsEqual .null .null
  | number {one other : JSON} : one.IsNumber → other.IsNumber →
      one.doubleValue = other.doubleValue → IsEqual one other
  | string (value : String) : IsEqual (.string value) (.string value)
  | array {elements others : List JSON} : List.Forall₂ IsEqual elements others →
      IsEqual (.array elements) (.array others)
  | object {fields others : Fields} :
      (∀ key, Option.Rel IsEqual (fields.value? key) (others.value? key)) →
      IsEqual (.object fields) (.object others)

theorem IsEqual.string_eq {value other : String} (equal : IsEqual (.string value) (.string other)) :
    value = other := by
  cases equal with
  | number impossible => cases impossible
  | string => rfl

end JSON

structure SubscriptionRequest where
  url : String
  payload : Option JSON.Fields

def SubscriptionRequest.reference (platform : Platform) (request : SubscriptionRequest) :
    String :=
  WebOSTVServiceSocketClient.subscriptionReferenceForURL platform request.url request.payload

/-- What a command asks for, if it has a URL. -/
def ServiceCommand.request (command : ServiceCommand) : Option SubscriptionRequest :=
  command.target.map fun url => { url, payload := command.payload }

namespace ServiceCommand

theorem lasting_request : Lasting request where
  didSubscribe _ _ := rfl
  didUnsubscribe _ _ := rfl

theorem blind_request : Blind request := by
  intro command success failure
  have succeeds : ∀ (command : ServiceCommand) block,
      (command.addSuccess block).request = command.request := by
    intro command block
    cases held : command.subscription <;> simp [addSuccess, request, held]
  have fails : ∀ (command : ServiceCommand) block,
      (command.addFailure block).request = command.request := by
    intro command block
    cases held : command.subscription <;> simp [addFailure, request, held]
  cases success <;> cases failure <;> simp [addBlocks, succeeds, fails]

end ServiceCommand

namespace SubscriptionRequest

/-- The same URL, and equal payloads or none. -/
def Same (one other : SubscriptionRequest) : Prop :=
  one.url = other.url ∧
    Option.Rel (fun payload others => JSON.IsEqual (.object payload) (.object others))
      one.payload other.payload

/-- The values of the payload as they print, in the order of `allValues`. -/
def printedValues (platform : Platform) (request : SubscriptionRequest) : String :=
  match request.payload with
  | none => ""
  | some payload => String.join (payload.map fun entry => platform.description (some entry.2))

/-- The URL of one request goes on where that of the other ends, with what the values of the
other begin with. The rest of them is what the values of the one print. -/
def RunsInto (platform : Platform) (one other : SubscriptionRequest) : Prop :=
  ∃ rest, one.url = other.url ++ rest ∧
    other.printedValues platform = rest ++ one.printedValues platform

def RunsTogether (platform : Platform) (one other : SubscriptionRequest) : Prop :=
  one.RunsInto platform other ∨ other.RunsInto platform one

theorem reference_eq (platform : Platform) (request : SubscriptionRequest) :
    request.reference platform = request.url ++ request.printedValues platform := by
  rcases request with ⟨url, payload⟩
  cases payload with
  | none => exact (String.append_empty).symm
  | some payload => rfl

theorem reference_eq_iff {platform : Platform} {one other : SubscriptionRequest} :
    one.reference platform = other.reference platform ↔ one.RunsTogether platform other := by
  rw [reference_eq, reference_eq, ← String.toList_inj, String.toList_append,
    String.toList_append, List.append_eq_append_iff]
  constructor
  · rintro (⟨rest, url, values⟩ | ⟨rest, url, values⟩)
    · refine .inr ⟨String.ofList rest, ?_, ?_⟩
      · rw [← String.toList_inj, String.toList_append, String.toList_ofList, url]
      · rw [← String.toList_inj, String.toList_append, String.toList_ofList, values]
    · refine .inl ⟨String.ofList rest, ?_, ?_⟩
      · rw [← String.toList_inj, String.toList_append, String.toList_ofList, url]
      · rw [← String.toList_inj, String.toList_append, String.toList_ofList, values]
  · rintro (⟨rest, url, values⟩ | ⟨rest, url, values⟩)
    · refine .inr ⟨rest.toList, ?_, ?_⟩
      · rw [url, String.toList_append]
      · rw [values, String.toList_append]
    · refine .inl ⟨rest.toList, ?_, ?_⟩
      · rw [url, String.toList_append]
      · rw [values, String.toList_append]

end SubscriptionRequest

namespace WebOSTVServiceSocketClient

open SubscriptionRequest

variable {platform : Platform}

/-- A subscription is kept under a reference, active or saved. -/
def Subscriptions.Holds (subscriptions : Subscriptions) (key : String)
    (held : Ref ServiceCommand) : Prop :=
  subscriptions.active.lookup key = some held ∨ subscriptions.saved.lookup key = some held

/-- Every subscription is kept under the reference of its own request. -/
def Referenced (platform : Platform) (client : WebOSTVServiceSocketClient) : Prop :=
  ∀ key held, client.subscriptions.Holds key held →
    client.commands.Allocated held ∧
      ∃ made, (client.commands.read held).request = some made ∧ made.reference platform = key

/-- The only subscription that a step adds is the one that `addSubscribe:` creates. -/
theorem holds_subscriptionsAfter {client : WebOSTVServiceSocketClient}
    {event : SocketClientEvent} {key : String} {held : Ref ServiceCommand}
    (holds : (client.subscriptionsAfter platform event).Holds key held) :
    client.subscriptions.Holds key held ∨
      ∃ url payload success failure, event = .addSubscribe url payload success failure ∧
        client.subscribed.lookup (subscriptionReferenceForURL platform url payload) = none ∧
        key = subscriptionReferenceForURL platform url payload ∧
        held = client.commands.fresh := by
  have nothing : ∀ key, (∅ : Dictionary String (Ref ServiceCommand)).lookup key ≠ some held :=
    fun key impossible => by
      rw [AList.lookup_empty] at impossible
      cases impossible
  unfold subscriptionsAfter at holds
  split_ifs at holds with enters loses completes
  · rcases holds with active | saved
    · exact absurd active (nothing key)
    · exact .inl (.inl saved)
  · rcases holds with active | saved
    · exact absurd active (nothing key)
    · exact .inl (.inr saved)
  · rcases holds with active | saved
    · unfold Subscriptions.restored at active
      split_ifs at active with none
      · exact .inl (.inl active)
      · exact .inl (.inr active)
    · exact absurd saved (nothing key)
  · have erased : ∀ {reference : String},
        Subscriptions.Holds
          { client.subscriptions with active := client.subscribed.erase reference } key held →
        client.subscriptions.Holds key held := by
      rintro reference (active | saved)
      · rw [Dictionary.lookup_erase_eq] at active
        split_ifs at active with same
        exact .inl active
      · exact .inr saved
    cases event with
    | addSubscribe url payload success failure =>
        have holds : (subscriptionFor platform client url payload).1.subscriptions.Holds
          key held := holds
        cases found : client.subscribed.lookup
            (subscriptionReferenceForURL platform url payload) with
        | some subscription =>
            rw [subscriptionFor_found found] at holds
            exact .inl holds
        | none =>
            rw [(subscriptionFor_created found).1] at holds
            rcases holds with active | saved
            · rw [Dictionary.lookup_insert_eq] at active
              split_ifs at active with same
              · exact .inr ⟨url, payload, success, failure, rfl, found, same,
                  (Option.some.inj active).symm⟩
              · exact .inl (.inl active)
            · exact .inl (.inr saved)
    | killSubscribe url payload => exact .inl (erased holds)
    | unsubscribe command =>
        dsimp only at holds
        split_ifs at holds with connected
        · cases referenced : referenceOf platform client command with
          | none =>
              rw [referenced] at holds
              exact .inl holds
          | some reference =>
              rw [referenced] at holds
              exact .inl (erased holds)
        · exact .inl holds
    | _ => exact .inl holds

theorem Referenced.step {client after : WebOSTVServiceSocketClient} {event : SocketClientEvent}
    (referenced : Referenced platform client)
    (taken : step platform client event = some after) : Referenced platform after := by
  intro key held holds
  rw [step_subscriptions taken] at holds
  rcases holds_subscriptionsAfter holds with
    before | ⟨url, payload, success, failure, isAdd, absent, isKey, isFresh⟩
  · rcases referenced key held before with ⟨allocated, made, request, reference⟩
    rcases step_keeps ServiceCommand.lasting_request (.inr ServiceCommand.blind_request) taken
        allocated with ⟨kept, same⟩
    exact ⟨kept, made, same.trans request, reference⟩
  · subst isAdd isKey isFresh
    have created : (subscriptionFor platform client url payload).1.commands =
        client.commands.allocate
          (.subscriptionWithDelegate (some url) payload (some (client.uid + 1))) := by
      simp only [subscriptionFor, absent]
      rfl
    have kept : Keeps ServiceCommand.request client.commands.fresh
        (subscriptionFor platform client url payload).1.commands after.commands :=
      addSubscribe_keeps ServiceCommand.lasting_request (.inr ServiceCommand.blind_request)
        taken
    rw [created, Keeps, Heap.read_allocate_fresh] at kept
    rcases kept (client.commands.allocated_fresh _) with ⟨allocated, same⟩
    exact ⟨allocated, { url, payload }, same, rfl⟩

theorem Referenced.runFrom {client final : WebOSTVServiceSocketClient}
    {events : List SocketClientEvent} (referenced : Referenced platform client)
    (reached : ConnectSDK.runFrom (WebOSTVServiceSocketClient.step platform) client events = some final) :
    Referenced platform final :=
  runFrom_invariant (fun _ _ _ before _ taken => before.step taken) referenced
    (everyStep_of_forall (fun _ _ => trivial) _ _) reached

/-! ## What a request touches -/

/-- `addSubscribe:` attaches to, and `killSubscribe:` removes, only what was subscribed for
the same request. -/
structure TouchesOwn (platform : Platform) (client : WebOSTVServiceSocketClient)
    (request : SubscriptionRequest) : Prop where
  attaches : ∀ key held, client.subscribed.lookup key = some held →
    (subscriptionFor platform client request.url request.payload).2 = held →
      ∃ made, (client.commands.read held).request = some made ∧ made.Same request
  removes : ∀ key held, client.subscribed.lookup key = some held →
    (killSubscribe platform client request.url request.payload).subscribed.lookup key = none →
      ∃ made, (client.commands.read held).request = some made ∧ made.Same request

/-- No subscription for another request runs together with a request. -/
def StandsApart (platform : Platform) (client : WebOSTVServiceSocketClient)
    (request : SubscriptionRequest) : Prop :=
  ∀ key held made, client.subscribed.lookup key = some held →
    (client.commands.read held).request = some made →
      made.RunsTogether platform request → made.Same request

theorem Referenced.touchesOwn_iff {client : WebOSTVServiceSocketClient}
    (referenced : Referenced platform client) (request : SubscriptionRequest) :
    client.TouchesOwn platform request ↔ client.StandsApart platform request := by
  constructor
  · intro touches key held made found asked together
    rcases referenced key held (.inl found) with ⟨_, own, ownAsked, isKey⟩
    cases asked.symm.trans ownAsked
    rw [← isKey, reference_eq_iff.mpr together] at found
    have attached : (subscriptionFor platform client request.url request.payload).2 = held := by
      rw [subscriptionFor_found found]
    rcases touches.attaches _ held found attached with ⟨other, otherAsked, same⟩
    cases asked.symm.trans otherAsked
    exact same
  · intro apart
    have own : ∀ held, client.subscribed.lookup (request.reference platform) = some held →
        ∃ made, (client.commands.read held).request = some made ∧ made.Same request := by
      intro held found
      rcases referenced _ held (.inl found) with ⟨_, made, asked, isKey⟩
      exact ⟨made, asked, apart _ held made found asked (reference_eq_iff.mp isKey)⟩
    refine ⟨?_, ?_⟩
    · intro key held found attached
      cases listed : client.subscribed.lookup (request.reference platform) with
      | some other =>
          have same : (subscriptionFor platform client request.url request.payload).2 = other := by
            rw [subscriptionFor_found listed]
          rw [attached] at same
          rw [same]
          exact own other listed
      | none =>
          have fresh := (subscriptionFor_created listed).2
          rw [attached] at fresh
          exact absurd fresh (referenced key held (.inl found)).1.ne_fresh
    · intro key held found removed
      have isKey : key = request.reference platform := by
        by_contra different
        have kept : (killSubscribe platform client request.url
            request.payload).subscribed.lookup key = some held :=
          (AList.lookup_erase_ne different).trans found
        rw [removed] at kept
        cases kept
      rw [isKey] at found
      exact own held found

/-- Two requests have one reference only if they are the same, and in every run a request
touches only subscriptions for the same request, exactly as long as no two different ones
run together. -/
theorem run_separates_iff {service : WebOSTVService} {delegate : Option SocketClientDelegate}
    {client : WebOSTVServiceSocketClient} {events : List SocketClientEvent}
    (reached : ConnectSDK.runFrom (WebOSTVServiceSocketClient.step platform)
      (initWithService service delegate) events = some client) (one other : SubscriptionRequest) :
    ((one.reference platform = other.reference platform → one.Same other) ↔
        (one.RunsTogether platform other → one.Same other)) ∧
      (client.TouchesOwn platform one ↔ client.StandsApart platform one) := by
  refine ⟨by rw [reference_eq_iff], ?_⟩
  have start : Referenced platform (initWithService service delegate) := by
    rintro key held (impossible | impossible) <;>
      cases impossible
  exact (start.runFrom reached).touchesOwn_iff one

/-- The state of an app with a session, as `subscribeAppState:` asks for it. -/
def appState (appId sessionId : String) : SubscriptionRequest where
  url := "ssap://system.launcher/getAppState"
  payload := some [("appId", .string appId), ("sessionId", .string sessionId)]

def subscribesAppState (request : SubscriptionRequest) : SocketClientEvent :=
  .addSubscribe request.url request.payload (some 1) none

theorem run_separates_app_states :
    ∃ client, ConnectSDK.runFrom (WebOSTVServiceSocketClient.step SubscriptionWatch.noPlatform)
        (initWithService SubscriptionWatch.televisionService none)
        [subscribesAppState (appState "app" "1")] = some client ∧
      (client.TouchesOwn SubscriptionWatch.noPlatform (appState "app" "2") ↔
        client.StandsApart SubscriptionWatch.noPlatform (appState "app" "2")) :=
  ⟨_, rfl, (@run_separates_iff SubscriptionWatch.noPlatform
    SubscriptionWatch.televisionService none _ [subscribesAppState (appState "app" "1")]
    rfl (appState "app" "2") (appState "app" "1")).2⟩

/-- The session 23 of an app is taken for the session 3 of another one. -/
theorem sessions_share_subscription :
    (appState "app1" "23").reference SubscriptionWatch.noPlatform =
        (appState "app12" "3").reference SubscriptionWatch.noPlatform ∧
      ¬(appState "app1" "23").Same (appState "app12" "3") ∧
      ∃ client, ConnectSDK.runFrom
          (WebOSTVServiceSocketClient.step SubscriptionWatch.noPlatform)
          (initWithService SubscriptionWatch.televisionService none)
          [subscribesAppState (appState "app1" "23")] = some client ∧
        ¬client.TouchesOwn SubscriptionWatch.noPlatform (appState "app12" "3") := by
  have different : ¬(appState "app1" "23").Same (appState "app12" "3") := by
    rintro ⟨_, payloads⟩
    rcases payloads with payloads | _
    rcases payloads with _ | impossible | _ | _ | fields
    · exact impossible
    · rcases fields "appId" with values | _
      exact absurd values.string_eq (by decide)
  refine ⟨rfl, different, _, rfl, ?_⟩
  intro touches
  rcases touches.attaches ((appState "app12" "3").reference SubscriptionWatch.noPlatform) ⟨0⟩
    rfl rfl with ⟨made, asked, same⟩
  cases asked
  exact different same

end WebOSTVServiceSocketClient

end ConnectSDK
