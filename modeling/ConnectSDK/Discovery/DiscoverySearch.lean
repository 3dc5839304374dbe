import ConnectSDK.Foundation.Run
import ConnectSDK.Discovery.DeviceServices

/-! # Searching for devices

When the providers of the discovery manager run: the client starts and stops the search,
and the manager pauses it while the app is in the background. Devices are left out.
-/

namespace ConnectSDK

/-- The services registered by default, each with its provider. -/
abbrev DefaultPlatforms := List (RuntimeClass × RuntimeClass)

/-- Both providers of the SDK keep `isRunning` in the same way. Timers of the SSID check
that were replaced without being invalidated go on firing. -/
structure DiscoverySearch where
  registry : DiscoveryRegistry := {}
  isRunning : Ref DiscoveryProvider → Bool := fun _ => false
  searching : Bool := false
  shouldResumeSearch : Bool := false
  isListening : Bool := false
  currentSSID : Option String := none
  ssidTimer : Bool := true
  replacedTimers : Nat := 0

/-- Calls of the client, changes of the app's state, and the ticks of a timer, each with
the name of the Wi-Fi network at that time. -/
inductive SearchEvent where
  | startDiscovery
  | stopDiscovery
  | didEnterBackground
  | didBecomeActive (ssidName : String)
  | ssidTimerFired (ssidName : String)

namespace DiscoverySearch

/-- The abstract provider does nothing when it is started or stopped. -/
def searches (search : DiscoverySearch) (provider : Ref DiscoveryProvider) : Bool :=
  (search.registry.providerClass provider).keepsFilters

/-- `startDiscovery` or `stopDiscovery` of every provider. -/
def setRunning (search : DiscoverySearch) (isRunning : Bool) : DiscoverySearch :=
  { search with
    isRunning := fun provider =>
      if provider ∈ search.registry.discoveryProviders ∧ search.searches provider = true then
        isRunning
      else
        search.isRunning provider }

/-! ## The SSID check -/

def purgeDeviceList (search : DiscoverySearch) : DiscoverySearch :=
  (search.setRunning false).setRunning true

/-- The network is another one than the one noted before. -/
def changesSSID (search : DiscoverySearch) (ssidName : String) : Bool :=
  search.currentSSID.any fun currentSSID =>
    decide (ssidName.toLower ≠ currentSSID.toLower)

def detectSSIDChange (search : DiscoverySearch) (ssidName : String) : DiscoverySearch :=
  match search.currentSSID with
  | none => { search with currentSSID := some ssidName }
  | some _ =>
      if search.changesSSID ssidName then
        { search.purgeDeviceList with currentSSID := some ssidName }
      else
        search

/-- A new timer fires at once. The one before it is not invalidated. -/
def startSSIDTimer (search : DiscoverySearch) (ssidName : String) : DiscoverySearch :=
  detectSSIDChange
    { search with
      ssidTimer := true
      replacedTimers :=
        if search.ssidTimer then search.replacedTimers + 1 else search.replacedTimers }
    ssidName

def stopSSIDTimer (search : DiscoverySearch) : DiscoverySearch :=
  { search with ssidTimer := false }

def hasTimer (search : DiscoverySearch) : Bool :=
  search.ssidTimer || decide (0 < search.replacedTimers)

/-! ## Control -/

def registerDefaultServices (search : DiscoverySearch) (clients : ClientParameters)
    (platforms : DefaultPlatforms) : Option DiscoverySearch :=
  (platforms.foldlM (fun (registry : DiscoveryRegistry) platform =>
      registry.registerDeviceService clients platform.1 platform.2) search.registry).map
    fun registry => { search with registry }

/-- The services to search for. -/
def withServices (search : DiscoverySearch) (clients : ClientParameters)
    (platforms : DefaultPlatforms) : Option DiscoverySearch :=
  if search.registry.deviceClasses.entries.isEmpty then
    search.registerDefaultServices clients platforms
  else
    some search

def startDiscovery (search : DiscoverySearch) (clients : ClientParameters)
    (platforms : DefaultPlatforms) : Option DiscoverySearch :=
  if search.searching then
    some search
  else
    (search.withServices clients platforms).map fun search =>
      { setRunning { search with searching := true } true with isListening := true }

def stopDiscovery (search : DiscoverySearch) : DiscoverySearch :=
  if search.searching then
    let stopped := setRunning { search with searching := false } false
    if stopped.shouldResumeSearch then stopped else { stopped with isListening := false }
  else
    search

def pauseDiscovery (search : DiscoverySearch) : DiscoverySearch :=
  let stopped := search.stopSSIDTimer
  if stopped.searching then
    setRunning { stopped with searching := false, shouldResumeSearch := true } false
  else
    stopped

def resumeDiscovery (search : DiscoverySearch) (ssidName : String) : DiscoverySearch :=
  let started := search.startSSIDTimer ssidName
  if started.shouldResumeSearch then
    setRunning { started with searching := true, shouldResumeSearch := false } true
  else
    started

/-- Changes of the app's state reach the manager only while the notifier listens. -/
def step (clients : ClientParameters) (platforms : DefaultPlatforms)
    (search : DiscoverySearch) : SearchEvent → Option DiscoverySearch
  | .startDiscovery => search.startDiscovery clients platforms
  | .stopDiscovery => some search.stopDiscovery
  | .didEnterBackground =>
      some (if search.isListening then search.pauseDiscovery else search)
  | .didBecomeActive ssidName =>
      some (if search.isListening then search.resumeDiscovery ssidName else search)
  | .ssidTimerFired ssidName =>
      some (if search.hasTimer then search.detectSSIDChange ssidName else search)

end DiscoverySearch

end ConnectSDK
