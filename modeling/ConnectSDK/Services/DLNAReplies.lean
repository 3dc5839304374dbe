import ConnectSDK.Helpers.KeyPredicateSearch
import ConnectSDK.Services.Commands.CommandCalls

/-! # Replies to DLNA commands

The completion handler of `-[DLNAService sendCommand:withPayload:toURL:]`. A reply is the
dictionary that the XML reader makes of it: a key for each element name and attribute, with
a dictionary for an element, an array for repeated ones, and a text for an attribute.
-/

namespace ConnectSDK

namespace DLNAService

/-- The searches of `responseDataFromResponse:forMethod:`. -/
def responsePath (method : String) : List String :=
  [":Envelope", ":Body", ":" ++ method]

def responseDataFromResponse (responseObject : Option JSON) (method : String) :
    Option (Option JSON) :=
  JSON.objectForKeysEndingWith (responsePath method) responseObject

/-- The description that a fault carries. -/
def errorDescription (upnpFault : JSON) : Option (Option JSON) :=
  (objectForKey (some upnpFault) "detail").bind fun detail =>
    (JSON.objectForKeysEndingWith [":UPnPError", ":errorDescription"] detail).bind
      fun description => objectForKey description "text"

/-- The completion handler, with what the XML reader returns of the data. -/
def completionHandler (collection : JSON → String) (callbacks : SetCallbacks)
    (connectionError : Option NSError) (dataXML : Option JSON) (xmlError : Option NSError) :
    Option (List (CommandCall (Option JSON))) :=
  match connectionError, xmlError with
  | some error, _ => some (callbacks.invoke (.callbackError error))
  | none, some _ =>
      some (callbacks.invoke (.callbackError
        (ConnectError.generateErrorWithCode collection .error
          (some (.string "Could not parse command response")))))
  | none, none =>
      (responseDataFromResponse dataXML "Fault").bind fun upnpFault =>
        match upnpFault with
        | none => some (callbacks.invoke (.callbackComplete dataXML))
        | some upnpFault =>
            (errorDescription upnpFault).map fun description =>
              let errorDescription := description.getD (.string "Unknown UPnP error")
              callbacks.invoke (.callbackError
                (ConnectError.generateErrorWithCode collection .tvError
                  (some errorDescription)))

/-! ## Elements of a reply -/

/-- The elements that stand under one key. -/
def elements : JSON → List JSON
  | .object fields => [.object fields]
  | .array items => items.filter JSON.isDictionary
  | _ => []

/-- The children of an element whose names match. -/
def elementsNamed (named : String → Bool) : JSON → List JSON
  | .object fields =>
      ((JSON.Fields.allKeys fields).filter named).flatMap fun key =>
        ((JSON.Fields.value? fields key).map elements).getD []
  | _ => []

/-- The elements that a path of names leads to, where names are matched by `named`. -/
def elementsAt (named : String → String → Bool) : List String → JSON → List JSON
  | [], json => [json]
  | name :: path, json => (elementsNamed (named name) json).flatMap (elementsAt named path)

/-- The name without its prefix. -/
def hasLocalName (name key : String) : Bool :=
  key == name || endsWith (":" ++ name) key

def isPrefixed (name key : String) : Bool :=
  endsWith (":" ++ name) key

/-- The body of the reply contains a fault. -/
def ContainsFault (named : String → String → Bool) (reply : JSON) : Prop :=
  elementsAt named ["Envelope", "Body", "Fault"] reply ≠ []

/-! ## What the handler is to do -/

/-- The connection or the parser failed, or there is a fault. -/
def CommandFailed (connectionError : Option NSError) (dataXML : Option JSON)
    (xmlError : Option NSError) : Prop :=
  connectionError.isSome = true ∨ xmlError.isSome = true ∨ dataXML = none ∨
    ∃ reply, dataXML = some reply ∧ ContainsFault hasLocalName reply

/-- Nothing is raised and one callback is invoked, the one for an error if the command
failed. -/
def Answers (calls : SetCallbacks → Option (List (CommandCall (Option JSON))))
    (failed : Prop) : Prop :=
  ∃ call, (∀ callbacks, calls callbacks = some (callbacks.invoke call)) ∧
    (call.isError = true ↔ failed)

/-- The description of a fault is searched in dictionaries, without ambiguity. -/
def ReadableFault (upnpFault : JSON) : Prop :=
  ∃ detail, objectForKey (some upnpFault) "detail" = some detail ∧
    JSON.Unambiguous [":UPnPError", ":errorDescription"] detail ∧
    ∀ description, JSON.objectForKeysEndingWith [":UPnPError", ":errorDescription"] detail =
      some (some description) → description.isDictionary = true

/-- So are a fault and its description. -/
def Readable (reply : JSON) : Prop :=
  JSON.Unambiguous (responsePath "Fault") (some reply) ∧
    ∀ upnpFault, responseDataFromResponse (some reply) "Fault" = some (some upnpFault) →
      ReadableFault upnpFault

/-- An error is reported, or the reply can be read and the name of a fault is prefixed, as
are those of what it stands in. -/
def Handled (connectionError : Option NSError) (dataXML : Option JSON)
    (xmlError : Option NSError) : Prop :=
  connectionError.isSome = true ∨ xmlError.isSome = true ∨
    ∃ reply, dataXML = some reply ∧ Readable reply ∧
      (ContainsFault hasLocalName reply → ContainsFault isPrefixed reply)

/-! ## Elements found -/

theorem elements_of_dictionary {json : JSON} (dictionary : json.isDictionary = true) :
    elements json = [json] := by
  cases json with
  | object fields => rfl
  | _ => cases dictionary

theorem mem_elementsNamed_iff {named : String → Bool} {json element : JSON} :
    element ∈ elementsNamed named json ↔
      ∃ fields key value, json = .object fields ∧ key ∈ JSON.Fields.allKeys fields ∧
        named key = true ∧ JSON.Fields.value? fields key = some value ∧
        element ∈ elements value := by
  cases json with
  | object fields =>
      simp only [elementsNamed, List.mem_flatMap, List.mem_filter, JSON.object.injEq]
      constructor
      · intro found
        rcases found with ⟨key, ⟨member, matched⟩, stands⟩
        rcases JSON.Fields.value?_of_mem_allKeys member with ⟨value, held⟩
        rw [held] at stands
        exact ⟨fields, key, value, rfl, member, matched, held, stands⟩
      · intro found
        rcases found with ⟨_, key, value, same, member, matched, held, stands⟩
        subst same
        refine ⟨key, ⟨member, matched⟩, ?_⟩
        rw [held]
        exact stands
  | _ => simp [elementsNamed]

theorem elementsAt_mono {named wider : String → String → Bool}
    (widens : ∀ name key, named name key = true → wider name key = true) :
    ∀ (path : List String) (json : JSON),
      elementsAt named path json ⊆ elementsAt wider path json
  | [], _ => List.Subset.refl _
  | name :: path, json => by
      intro element member
      rcases List.mem_flatMap.mp member with ⟨child, found, below⟩
      rcases mem_elementsNamed_iff.mp found with
        ⟨fields, key, value, object, listed, matched, held, stands⟩
      have wide : child ∈ elementsNamed (wider name) json := mem_elementsNamed_iff.mpr
        ⟨fields, key, value, object, listed, widens name key matched, held, stands⟩
      exact List.mem_flatMap.mpr ⟨child, wide, elementsAt_mono widens path child below⟩

theorem ContainsFault.of_prefixed {reply : JSON} (contains : ContainsFault isPrefixed reply) :
    ContainsFault hasLocalName reply := by
  rcases List.exists_mem_of_ne_nil _ contains with ⟨element, member⟩
  apply List.ne_nil_of_mem
  refine elementsAt_mono ?_ _ reply member
  intro name key ends
  exact Bool.or_eq_true_iff.mpr (Or.inr ends)

theorem objectForKeysEndingWith_none (path : List String) :
    JSON.objectForKeysEndingWith path none = some none := by
  induction path with
  | nil => rfl
  | cons suffix path induction => exact induction

/-- Searching by suffix finds the one prefixed element, if only elements are found. -/
theorem elementsAt_isPrefixed :
    ∀ (path : List String) {json : JSON} {found : Option JSON},
      JSON.Unambiguous (path.map (":" ++ ·)) (some json) →
      JSON.objectForKeysEndingWith (path.map (":" ++ ·)) (some json) = some found →
      (∀ value, found = some value → value.isDictionary = true) →
        elementsAt isPrefixed path json = found.toList
  | [], json, found, _, searched, _ => by
      cases searched
      rfl
  | name :: path, json, found, unambiguous, searched, dictionaries => by
      rcases unambiguous with ⟨searchable, later⟩
      rcases searchable json rfl with ⟨fields, object, _⟩
      subst object
      rw [List.map_cons, JSON.objectForKeysEndingWith] at searched
      have named : isPrefixed name = endsWith (":" ++ name) := rfl
      rw [elementsAt, named, elementsNamed]
      rcases JSON.filter_allKeys_of_searchable searchable with
        ⟨key, value, keys, held, step⟩ | ⟨keys, step⟩
      · rw [step, Option.bind_some] at searched
        have onward := later _ step
        have dictionary : value.isDictionary = true := by
          cases path with
          | nil =>
              cases searched
              exact dictionaries value rfl
          | cons next path => exact onward.1.dictionary
        rw [keys, List.flatMap_singleton, held, Option.map_some, Option.getD_some,
          elements_of_dictionary dictionary, List.flatMap_singleton]
        exact elementsAt_isPrefixed path onward searched dictionaries
      · rw [step, Option.bind_some, objectForKeysEndingWith_none] at searched
        cases searched
        rw [keys]
        rfl

theorem ReadableFault.dictionary {upnpFault : JSON} (readable : ReadableFault upnpFault) :
    upnpFault.isDictionary = true := by
  rcases readable with ⟨detail, read, _⟩
  cases upnpFault with
  | object fields => rfl
  | _ => cases read

/-- In a reply that can be read, a fault is found if it is prefixed. -/
theorem Readable.found_iff {reply : JSON} {found : Option JSON} (readable : Readable reply)
    (searched : responseDataFromResponse (some reply) "Fault" = some found) :
    found.isSome = true ↔ ContainsFault isPrefixed reply := by
  have element : elementsAt isPrefixed ["Envelope", "Body", "Fault"] reply = found.toList := by
    refine elementsAt_isPrefixed _ readable.1 searched ?_
    intro value same
    rw [same] at searched
    exact (readable.2 value searched).dictionary
  rw [ContainsFault, element]
  cases found <;> simp

/-! ## The handler -/

theorem errorDescription_isSome_iff (upnpFault : JSON) :
    (errorDescription upnpFault).isSome = true ↔ ReadableFault upnpFault := by
  rw [errorDescription, ReadableFault]
  cases read : objectForKey (some upnpFault) "detail" with
  | none => simp
  | some detail =>
      simp only [Option.bind_some, Option.some.injEq, exists_eq_left',
        ← JSON.objectForKeysEndingWith_isSome_iff]
      cases searched : JSON.objectForKeysEndingWith [":UPnPError", ":errorDescription"] detail with
      | none => simp
      | some description =>
          rw [Option.bind_some]
          cases description with
          | none => simp [objectForKey]
          | some description =>
              cases description <;> simp [objectForKey, JSON.isDictionary]

/-- A reply that cannot be read raises an exception. -/
theorem completionHandler_isSome_iff (collection : JSON → String) (callbacks : SetCallbacks)
    (reply : JSON) :
    (completionHandler collection callbacks none (some reply) none).isSome = true ↔
      Readable reply := by
  rw [Readable, ← JSON.objectForKeysEndingWith_isSome_iff]
  simp only [completionHandler, ← errorDescription_isSome_iff]
  rw [responseDataFromResponse]
  cases JSON.objectForKeysEndingWith (responsePath "Fault") (some reply) with
  | none => simp
  | some found => cases found <;> simp

/-- What a reply is answered with. -/
theorem completionHandler_reply {reply : JSON} (readable : Readable reply)
    (collection : JSON → String) :
    ∃ call, (∀ callbacks, completionHandler collection callbacks none (some reply) none =
        some (callbacks.invoke call)) ∧
      (call.isError = true ↔ ContainsFault isPrefixed reply) := by
  rcases Option.isSome_iff_exists.mp
    ((JSON.objectForKeysEndingWith_isSome_iff _ _).mpr readable.1) with ⟨found, searched⟩
  rw [← readable.found_iff searched]
  simp only [completionHandler, responseDataFromResponse, searched, Option.bind_some]
  cases found with
  | none => exact ⟨.callbackComplete (some reply), fun _ => rfl, Iff.rfl⟩
  | some upnpFault =>
      rcases Option.isSome_iff_exists.mp ((errorDescription_isSome_iff upnpFault).mpr
        (readable.2 upnpFault searched)) with ⟨description, described⟩
      simp only [described, Option.map_some]
      exact ⟨.callbackError _, fun _ => rfl, Iff.rfl⟩

/-- Where one callback is invoked, it has to be the right one. -/
theorem answers_iff {calls : SetCallbacks → Option (List (CommandCall (Option JSON)))}
    {call : CommandCall (Option JSON)}
    (invoked : ∀ callbacks, calls callbacks = some (callbacks.invoke call))
    {failed : Prop} : Answers calls failed ↔ (call.isError = true ↔ failed) := by
  constructor
  · intro answers
    rcases answers with ⟨other, same, error⟩
    have all := (invoked {}).symm.trans (same {})
    rw [SetCallbacks.invoke_all, SetCallbacks.invoke_all] at all
    cases all
    exact error
  · exact fun error => ⟨call, invoked, error⟩

/-- The handler raises nothing and invokes the right callback exactly if an error is
reported, or the reply can be read and a fault that it contains is prefixed. -/
theorem completionHandler_answers_iff (collection : JSON → String)
    (connectionError : Option NSError) (dataXML : Option JSON) (xmlError : Option NSError) :
    Answers (fun callbacks => completionHandler collection callbacks connectionError dataXML
        xmlError) (CommandFailed connectionError dataXML xmlError) ↔
      Handled connectionError dataXML xmlError := by
  cases connectionError with
  | some error =>
      apply iff_of_true
      · exact ⟨.callbackError error, fun _ => rfl, iff_of_true rfl (Or.inl rfl)⟩
      · exact Or.inl rfl
  | none =>
      cases xmlError with
      | some error =>
          apply iff_of_true
          · exact ⟨.callbackError _, fun _ => rfl, iff_of_true rfl (Or.inr (Or.inl rfl))⟩
          · exact Or.inr (Or.inl rfl)
      | none =>
          simp only [CommandFailed, Handled, Option.isSome_none, Bool.false_eq_true, false_or]
          cases dataXML with
          | none =>
              have invoked : ∀ callbacks, completionHandler collection callbacks none none none =
                  some (callbacks.invoke (.callbackComplete none)) := fun _ => rfl
              rw [answers_iff invoked]
              simp [CommandCall.isError]
          | some reply =>
              simp only [reduceCtorEq, false_or, Option.some.injEq, exists_eq_left']
              by_cases readable : Readable reply
              · rcases completionHandler_reply readable collection with
                  ⟨call, invoked, error⟩
                rw [answers_iff invoked, error, and_iff_right readable]
                exact ⟨Iff.mpr, fun found => ⟨ContainsFault.of_prefixed, found⟩⟩
              · apply iff_of_false
                · intro answers
                  rcases answers with ⟨call, invoked, _⟩
                  exact readable ((completionHandler_isSome_iff collection {} reply).mp
                    (Option.isSome_iff_exists.mpr ⟨_, invoked {}⟩))
                · exact fun handled => readable handled.1

/-- A second body under another prefix raises an exception. -/
theorem completionHandler_two_bodies :
    let reply : JSON := .object
      [("s:Envelope", .object [("s:Body", .object []), ("t:Body", .object [])])]
    ¬ Answers
      (fun callbacks => completionHandler (fun _ => "") callbacks none (some reply) none)
      (CommandFailed none (some reply) none) := by
  intro reply answers
  rcases answers with ⟨call, invoked, _⟩
  have raised := invoked {}
  revert raised
  have raises : completionHandler (fun _ => "") {} none (some reply) none = none := by
    decide +kernel
  dsimp only
  rw [raises]
  intro impossible
  cases impossible

end DLNAService

end ConnectSDK
