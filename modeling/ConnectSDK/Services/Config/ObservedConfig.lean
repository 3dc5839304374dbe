import ConnectSDK.Foundation.Heap
import ConnectSDK.Foundation.Run
import ConnectSDK.Services.Config.ServiceConfig

/-! # Observed configurations

A configuration observes its own properties for its delegate. An object may be registered
as an observer of a key path more than once, each time it is notified once, and removing
an observer that is not registered raises an exception: a step that does so returns
`none`. Delegates are weak; here they outlive their configurations.
-/

namespace ConnectSDK

/-- The key paths that configurations observe. -/
inductive KeyPath where
  | uuid
  | connected
  | wasConnected
  | lastDetection
  | clientKey
  | sslCertificates
  | pairingCode
deriving DecidableEq

/-- A call of a property's setter. -/
inductive PropertyChange where
  | uuid (value : Option String)
  | connected (value : Bool)
  | wasConnected (value : Bool)
  | lastDetection (value : TimeInterval)
  | clientKey (value : Option String)
  | sslCertificates (value : Option (List JSON))
  | pairingCode (value : Option String)

namespace PropertyChange

def keyPath : PropertyChange → KeyPath
  | .uuid _ => .uuid
  | .connected _ => .connected
  | .wasConnected _ => .wasConnected
  | .lastDetection _ => .lastDetection
  | .clientKey _ => .clientKey
  | .sslCertificates _ => .sslCertificates
  | .pairingCode _ => .pairingCode

/-- A property that the class does not declare has no setter. -/
def apply (change : PropertyChange) (config : ServiceConfig) : ServiceConfig :=
  match change, config.subclass with
  | .uuid value, _ => { config with uuid := value }
  | .connected value, _ => { config with connected := value }
  | .wasConnected value, _ => { config with wasConnected := value }
  | .lastDetection value, _ => { config with lastDetection := value }
  | .clientKey value, .webOSTVServiceConfig _ certificates =>
      { config with subclass := .webOSTVServiceConfig value certificates }
  | .sslCertificates value, .webOSTVServiceConfig key _ =>
      { config with subclass := .webOSTVServiceConfig key value }
  | .pairingCode value, .netcastTVServiceConfig _ =>
      { config with subclass := .netcastTVServiceConfig value }
  | _, _ => config

end PropertyChange

namespace ServiceConfigClass

/-- The key paths that the class observes besides those of `ServiceConfig`. -/
def subclassKeyPaths : ServiceConfigClass → List KeyPath
  | .serviceConfig => []
  | .webOSTVServiceConfig .. => [.clientKey, .sslCertificates]
  | .netcastTVServiceConfig .. => [.pairingCode]

/-- The class of a new object, with nothing set. -/
def unset : ServiceConfigClass → ServiceConfigClass
  | .serviceConfig => .serviceConfig
  | .webOSTVServiceConfig .. => .webOSTVServiceConfig none none
  | .netcastTVServiceConfig .. => .netcastTVServiceConfig none

end ServiceConfigClass

namespace KeyPath

/-- The key paths that `ServiceConfig` observes. -/
def superKeyPaths : List KeyPath := [.uuid, .connected, .wasConnected, .lastDetection]

/-- `removeObserver:forKeyPath:`. -/
def removeObserver (observers : List KeyPath) (keyPath : KeyPath) : Option (List KeyPath) :=
  if keyPath ∈ observers then some (observers.erase keyPath) else none

/-- Removes observers one by one, up to the first exception. -/
def removeUntilRaised : List KeyPath → List KeyPath → List KeyPath
  | [], observers => observers
  | keyPath :: rest, observers =>
      match removeObserver observers keyPath with
      | none => observers
      | some remaining => removeUntilRaised rest remaining

end KeyPath

/-- A configuration with its instance variables and what it is registered for. -/
structure ObservedConfig (Delegate : Type) where
  config : ServiceConfig := {}
  delegate : Option Delegate := none
  hasObservers : Bool := false
  observers : List KeyPath := []
  deallocated : Bool := false

variable {Delegate : Type}

namespace ObservedConfig

/-- Every key path that the configuration is to observe. -/
def keyPaths (observed : ObservedConfig Delegate) : List KeyPath :=
  KeyPath.superKeyPaths ++ observed.config.subclass.subclassKeyPaths

/-- `-[ServiceConfig addObservers]`. -/
def addSuperObservers (observed : ObservedConfig Delegate) : ObservedConfig Delegate :=
  if observed.hasObservers then observed
  else
    { observed with
      observers := observed.observers ++ KeyPath.superKeyPaths
      hasObservers := true }

/-- `addObservers`, as the class of the receiver has it. -/
def addObservers (observed : ObservedConfig Delegate) : ObservedConfig Delegate :=
  let base := observed.addSuperObservers
  { base with
    observers := base.observers ++ observed.config.subclass.subclassKeyPaths }

/-- `-[ServiceConfig removeObservers]`, which catches an exception. -/
def removeSuperObservers (observed : ObservedConfig Delegate) : ObservedConfig Delegate :=
  if observed.hasObservers then
    { observed with
      observers := KeyPath.removeUntilRaised KeyPath.superKeyPaths observed.observers
      hasObservers := false }
  else observed

/-- `removeObservers`, as the class of the receiver has it. A subclass removes its own
observers whether or not there are any. -/
def removeObservers (observed : ObservedConfig Delegate) :
    Option (ObservedConfig Delegate) :=
  let base := observed.removeSuperObservers
  (observed.config.subclass.subclassKeyPaths.foldlM KeyPath.removeObserver
    base.observers).map fun observers => { base with observers }

/-- `setDelegate:`. When a delegate is taken away, `_delegate` stays. -/
def setDelegate (observed : ObservedConfig Delegate) (delegate : Option Delegate) :
    Option (ObservedConfig Delegate) :=
  match delegate, observed.delegate with
  | none, some _ => observed.removeObservers
  | some delegate, none => some (addObservers { observed with delegate := some delegate })
  | delegate, _ => some { observed with delegate }

def dealloc (observed : ObservedConfig Delegate) : Option (ObservedConfig Delegate) :=
  (observed.setDelegate none).map fun observed => { observed with deallocated := true }

/-- The delegates that `serviceConfigUpdate:` is sent to when a property changes, one for
each registration. -/
def notified (observed : ObservedConfig Delegate) (change : PropertyChange) :
    List Delegate :=
  (List.replicate (observed.observers.count change.keyPath) observed.delegate).filterMap id

/-- The object that `initWithServiceConfig:` starts from, before it takes the delegate. -/
def copyOf (subclass : ServiceConfigClass) (source : ServiceConfig) :
    ObservedConfig Delegate where
  config := { source with subclass := subclass.unset }

end ObservedConfig

/-- The configurations, and the messages `serviceConfigUpdate:` that were sent. -/
structure ServiceConfigs (Delegate : Type) where
  configs : Heap (ObservedConfig Delegate) := .empty {}
  updates : List (Ref (ObservedConfig Delegate) × Delegate) := []

/-- The other initializers set no delegate. -/
inductive ServiceConfigEvent (Delegate : Type) where
  | create (config : ServiceConfig)
  | initWithServiceConfig (subclass : ServiceConfigClass)
      (source : Ref (ObservedConfig Delegate))
  | setDelegate (config : Ref (ObservedConfig Delegate)) (delegate : Option Delegate)
  | setProperty (config : Ref (ObservedConfig Delegate)) (change : PropertyChange)
  | dealloc (config : Ref (ObservedConfig Delegate))

namespace ServiceConfigs

/-- The object exists and has not been deallocated. -/
def live (system : ServiceConfigs Delegate) (config : Ref (ObservedConfig Delegate)) :
    Bool :=
  decide (system.configs.Allocated config) && !(system.configs.read config).deallocated

/-- The system with one configuration rewritten. -/
def write (system : ServiceConfigs Delegate) (config : Ref (ObservedConfig Delegate))
    (observed : ObservedConfig Delegate) : ServiceConfigs Delegate :=
  { system with configs := system.configs.modify config fun _ => observed }

def allocate (system : ServiceConfigs Delegate) (observed : ObservedConfig Delegate) :
    ServiceConfigs Delegate :=
  { system with configs := system.configs.allocate observed }

def initWithServiceConfig (system : ServiceConfigs Delegate)
    (subclass : ServiceConfigClass) (source : Ref (ObservedConfig Delegate)) :
    Option (ServiceConfigs Delegate) :=
  let observed := system.configs.read source
  ((ObservedConfig.copyOf subclass observed.config).setDelegate observed.delegate).bind
    fun copy =>
      (observed.setDelegate none).map fun observed =>
        (system.write source observed).allocate copy

def setProperty (system : ServiceConfigs Delegate)
    (config : Ref (ObservedConfig Delegate)) (change : PropertyChange) :
    ServiceConfigs Delegate :=
  let observed := system.configs.read config
  { system.write config { observed with config := change.apply observed.config } with
    updates := system.updates ++
      (observed.notified change).map fun delegate => (config, delegate) }

/-- Nothing is sent to an object that does not exist. -/
def step (system : ServiceConfigs Delegate) :
    ServiceConfigEvent Delegate → Option (ServiceConfigs Delegate)
  | .create config => some (system.allocate { config })
  | .initWithServiceConfig subclass source =>
      if system.live source then system.initWithServiceConfig subclass source
      else some system
  | .setDelegate config delegate =>
      if system.live config then
        ((system.configs.read config).setDelegate delegate).map (system.write config)
      else some system
  | .setProperty config change =>
      if system.live config then some (system.setProperty config change) else some system
  | .dealloc config =>
      if system.live config then
        (system.configs.read config).dealloc.map (system.write config)
      else some system

end ServiceConfigs

end ConnectSDK
