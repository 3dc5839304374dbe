import ConnectSDK.Discovery.SSDPDiscoveryProvider

/-! # Steps of SSDP discovery

All that a packet, an answer, a start or a stop can do to the provider.
-/

namespace ConnectSDK

namespace SSDPDiscoveryProvider

/-- The UUID and the type of a message that gets past all checks. -/
def hears (provider : SSDPDiscoveryProvider) (message : SSDPMessage) :
    Option (String × String) :=
  (provider.subject message).bind fun (type, usn) =>
    (SSDPMessage.theUUID usn).bind fun uuid =>
      if uuid.isEmpty then none else some (uuid, type)

/-- What a message does to the provider. -/
inductive Receives (provider : SSDPDiscoveryProvider) (message : SSDPMessage)
    (address : String) (now : TimeInterval) : SSDPDiscoveryProvider → Prop
  | ignored (unheard : provider.hears message = none) :
      Receives provider message address now provider
  | unknown {uuid type : String} (heard : provider.hears message = some (uuid, type))
      (leaves : message.isByebye = true)
      (absent : provider.foundServices.lookup uuid = none) :
      Receives provider message address now provider
  | lost {uuid type : String} {service : ServiceDescription}
      {services : List ServiceDescription}
      (heard : provider.hears message = some (uuid, type))
      (leaves : message.isByebye = true)
      (held : provider.foundServices.lookup uuid = some service)
      (answer : provider.servicesFor service now = some services) :
      Receives provider message address now
        { provider with
          foundServices := provider.foundServices.erase uuid
          announcements := provider.announcements ++ [.didLoseServices uuid services] }
  | nowhere {uuid type : String} (heard : provider.hears message = some (uuid, type))
      (stays : message.isByebye = false)
      (missing : ∀ location, message.location = some location →
        location.text.isEmpty = true) :
      Receives provider message address now provider
  | refreshed {uuid type : String} {location : SSDPLocation} {service : ServiceDescription}
      (heard : provider.hears message = some (uuid, type))
      (stays : message.isByebye = false) (located : message.location = some location)
      (given : location.text.isEmpty = false)
      (held : provider.foundServices.lookup uuid = some service) :
      Receives provider message address now
        { provider with
          foundServices := provider.foundServices.insert uuid
            { service with lastDetection := now } }
  | awaited {uuid type : String} {location : SSDPLocation} {hello : ServiceDescription}
      (heard : provider.hears message = some (uuid, type))
      (stays : message.isByebye = false) (located : message.location = some location)
      (given : location.text.isEmpty = false)
      (absent : provider.foundServices.lookup uuid = none)
      (held : provider.helloDevices.lookup uuid = some hello) :
      Receives provider message address now provider
  | greeted {uuid type : String} {location : SSDPLocation}
      (heard : provider.hears message = some (uuid, type))
      (stays : message.isByebye = false) (located : message.location = some location)
      (given : location.text.isEmpty = false)
      (absent : provider.foundServices.lookup uuid = none)
      (fresh : provider.helloDevices.lookup uuid = none) :
      Receives provider message address now
        { provider with
          helloDevices := provider.helloDevices.insert uuid
            { uuid := some uuid
              type := some type
              address := some (location.host.getD address)
              port := 3001
              lastDetection := now }
          locationLoads := provider.locationLoads ++ [{ uuid, type }] }

/-- An advertisement that says where the device is. -/
theorem receives_alive {provider : SSDPDiscoveryProvider} {message : SSDPMessage}
    {uuid type : String} {location : SSDPLocation} {address : String} {now : TimeInterval}
    (heard : provider.hears message = some (uuid, type))
    (stays : message.isByebye = false) (located : message.location = some location)
    (given : location.text.isEmpty = false) :
    Receives provider message address now
      (provider.alive uuid type location address now) := by
  unfold alive
  cases found : provider.foundServices.lookup uuid with
  | some service => exact .refreshed heard stays located given found
  | none =>
      cases hello : provider.helloDevices.lookup uuid with
      | some service => exact .awaited heard stays located given found hello
      | none => exact .greeted heard stays located given found hello

theorem didReceiveData_receives {provider next : SSDPDiscoveryProvider}
    {message : SSDPMessage} {address : String} {now : TimeInterval}
    (received : provider.didReceiveData message address now = some next) :
    Receives provider message address now next := by
  unfold didReceiveData at received
  cases subject : provider.subject message with
  | none =>
      rw [subject] at received
      cases received
      exact .ignored (by rw [hears, subject]; rfl)
  | some about =>
      rcases about with ⟨type, usn⟩
      rw [subject] at received
      rcases Option.bind_eq_some_iff.mp received with ⟨uuid, named, taken⟩
      have heard : provider.hears message =
          if uuid.isEmpty then none else some (uuid, type) := by
        rw [hears, subject, Option.bind_some]
        dsimp only
        rw [named, Option.bind_some]
      cases empty : uuid.isEmpty with
      | true =>
          rw [empty] at taken heard
          cases taken
          exact .ignored heard
      | false =>
          rw [empty] at taken heard
          rw [if_neg Bool.false_ne_true] at taken heard
          cases leaves : message.isByebye with
          | true =>
              rw [leaves, if_pos rfl, byebye] at taken
              cases held : provider.foundServices.lookup uuid with
              | none =>
                  rw [held] at taken
                  cases taken
                  exact .unknown heard leaves held
              | some service =>
                  rw [held] at taken
                  rcases Option.map_eq_some_iff.mp taken with ⟨services, answer, rfl⟩
                  exact .lost heard leaves held answer
          | false =>
              rw [leaves, if_neg Bool.false_ne_true] at taken
              cases located : message.location with
              | none =>
                  rw [located] at taken
                  cases taken
                  exact .nowhere heard leaves fun location same => by
                    cases located.symm.trans same
              | some location =>
                  rw [located] at taken
                  dsimp only at taken
                  cases given : location.text.isEmpty with
                  | true =>
                      rw [given, if_pos rfl] at taken
                      cases taken
                      refine .nowhere heard leaves fun other same => ?_
                      cases located.symm.trans same
                      exact given
                  | false =>
                      rw [given, if_neg Bool.false_ne_true] at taken
                      cases taken
                      exact receives_alive heard leaves located given

/-- What the answer to a load does to the provider. -/
inductive Loads (provider : SSDPDiscoveryProvider) (load : LocationLoad)
    (response : Option LocationResponse) (now : TimeInterval) :
    SSDPDiscoveryProvider → Prop
  | dismissed (unfit : provider.fittingDevice load.type response = none ∨
        provider.helloDevices.lookup load.uuid = none) :
      Loads provider load response now
        { provider with helloDevices := provider.helloDevices.erase load.uuid }
  | found {answer : LocationResponse} {device : XMLDevice} {hello : ServiceDescription}
      {services : List ServiceDescription}
      (fits : provider.fittingDevice load.type response = some (answer, device))
      (held : provider.helloDevices.lookup load.uuid = some hello)
      (copies : provider.servicesFor (describe hello load.type answer device) now =
        some services) :
      Loads provider load response now
        { provider with
          helloDevices := provider.helloDevices.erase load.uuid
          foundServices := provider.foundServices.insert load.uuid
            (describe hello load.type answer device)
          announcements :=
            provider.announcements ++ [.didFindServices load.uuid services] }

theorem locationLoaded_loads {provider next : SSDPDiscoveryProvider} {load : LocationLoad}
    {response : Option LocationResponse} {now : TimeInterval}
    (loaded : provider.locationLoaded load response now = some next) :
    Loads provider load response now next := by
  unfold locationLoaded at loaded
  rcases Option.map_eq_some_iff.mp loaded with ⟨found, taken, rfl⟩
  cases fits : provider.fittingDevice load.type response with
  | none =>
      rw [fits] at taken
      cases taken
      exact .dismissed (Or.inl fits)
  | some fitting =>
      rcases fitting with ⟨answer, device⟩
      rw [fits] at taken
      dsimp only [findService] at taken
      cases held : provider.helloDevices.lookup load.uuid with
      | none =>
          rw [held] at taken
          cases taken
          exact .dismissed (Or.inr held)
      | some hello =>
          rw [held] at taken
          rcases Option.map_eq_some_iff.mp taken with ⟨services, copies, rfl⟩
          exact .found fits held copies

/-- What an event does to the provider. A load is forgotten once it is answered. -/
inductive Reacts (provider : SSDPDiscoveryProvider) :
    SSDPEvent → SSDPDiscoveryProvider → Prop
  | received {message : SSDPMessage} {address : String} {now : TimeInterval}
      {next : SSDPDiscoveryProvider}
      (receives : Receives provider message address now next) :
      Reacts provider (.didReceiveData message address now) next
  | unanswered {index : Nat} {response : Option LocationResponse} {now : TimeInterval}
      (absent : provider.locationLoads[index]? = none) :
      Reacts provider (.locationLoaded index response now) provider
  | answered {index : Nat} {response : Option LocationResponse} {now : TimeInterval}
      {load : LocationLoad} {next : SSDPDiscoveryProvider}
      (pending : provider.locationLoads[index]? = some load)
      (loads : Loads
        { provider with locationLoads := provider.locationLoads.eraseIdx index } load
        response now next) : Reacts provider (.locationLoaded index response now) next
  | started : Reacts provider .startDiscovery { provider with isRunning := true }
  | stopped : Reacts provider .stopDiscovery provider.stopDiscovery

theorem step_reacts {provider next : SSDPDiscoveryProvider} {event : SSDPEvent}
    (stepped : provider.step event = some next) : Reacts provider event next := by
  cases event with
  | didReceiveData message address now =>
      exact .received (didReceiveData_receives stepped)
  | locationLoaded index response now =>
      rw [step] at stepped
      cases pending : provider.locationLoads[index]? with
      | none =>
          rw [pending] at stepped
          cases stepped
          exact .unanswered pending
      | some load =>
          rw [pending] at stepped
          exact .answered pending (locationLoaded_loads stepped)
  | startDiscovery =>
      cases stepped
      exact .started
  | stopDiscovery =>
      cases stepped
      exact .stopped

end SSDPDiscoveryProvider

end ConnectSDK
