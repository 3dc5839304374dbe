import Mathlib.Data.List.MinMax
import ConnectSDK.Foundation.Dictionary

/-! # Capability accessors of a device

Each accessor of `ConnectableDevice` enumerates `_services` and keeps the object
with the highest priority, the first one enumerated of several.
-/

namespace ConnectSDK

/-- What a service is asked for the object of a capability by. -/
inductive CapabilitySelector
  | launcher
  | externalInputControl
  | mediaPlayer
  | mediaControl
  | volumeControl
  | tvControl
  | keyControl
  | textInputControl
  | mouseControl
  | powerControl
  | toastControl
  | webAppLauncher
  | screenMirroringControl
  | remoteCameraControl
deriving DecidableEq

/-- What such an object is asked for its priority by. -/
inductive PrioritySelector
  | launcherPriority
  | externalInputControlPriority
  | mediaPlayerPriority
  | mediaControlPriority
  | volumeControlPriority
  | tvControlPriority
  | keyControlPriority
  | textInputControlPriority
  | mouseControlPriority
  | powerControlPriority
  | toastControlPriority
  | webAppLauncherPriority
  | screenMirroringControlPriority
  | remoteCameraControlPriority
deriving DecidableEq

/-- A number of the enumeration, or one that an application made up. -/
abbrev CapabilityPriorityLevel := Nat

/-- How services and the objects they offer answer, whatever their classes are. -/
structure CapabilityMessages (Service Object : Type) where
  respondsToSelector : Service → CapabilitySelector → Bool
  capabilityObject : Service → CapabilitySelector → Option Object
  priority : Object → PrioritySelector → CapabilityPriorityLevel

namespace CapabilityMessages

variable {Service Object : Type} (messages : CapabilityMessages Service Object)

/-- The block of an accessor, which runs for every entry of `_services`. -/
def visit (selector : CapabilitySelector) (priority : PrioritySelector)
    (found : Option Object) (service : Service) : Option Object :=
  if !messages.respondsToSelector service selector then found
  else
    match messages.capabilityObject service selector with
    | some object =>
        match found with
        | some best =>
            if messages.priority object priority > messages.priority best priority then
              some object
            else some best
        | none => some object
    | none => found

def accessed (selector : CapabilitySelector) (priority : PrioritySelector)
    (services : Dictionary String Service) : Option Object :=
  services.values.foldl (messages.visit selector priority) none

/-! ## The accessors -/

def launcher (services : Dictionary String Service) : Option Object :=
  messages.accessed .launcher .launcherPriority services

def externalInputControl (services : Dictionary String Service) : Option Object :=
  messages.accessed .externalInputControl .externalInputControlPriority services

def mediaPlayer (services : Dictionary String Service) : Option Object :=
  messages.accessed .mediaPlayer .mediaPlayerPriority services

def mediaControl (services : Dictionary String Service) : Option Object :=
  messages.accessed .mediaControl .mediaControlPriority services

def volumeControl (services : Dictionary String Service) : Option Object :=
  messages.accessed .volumeControl .volumeControlPriority services

def tvControl (services : Dictionary String Service) : Option Object :=
  messages.accessed .tvControl .tvControlPriority services

def keyControl (services : Dictionary String Service) : Option Object :=
  messages.accessed .keyControl .keyControlPriority services

def textInputControl (services : Dictionary String Service) : Option Object :=
  messages.accessed .textInputControl .textInputControlPriority services

def mouseControl (services : Dictionary String Service) : Option Object :=
  messages.accessed .mouseControl .mouseControlPriority services

def powerControl (services : Dictionary String Service) : Option Object :=
  messages.accessed .powerControl .powerControlPriority services

def toastControl (services : Dictionary String Service) : Option Object :=
  messages.accessed .toastControl .toastControlPriority services

def webAppLauncher (services : Dictionary String Service) : Option Object :=
  messages.accessed .webAppLauncher .webAppLauncherPriority services

def screenMirroringControl (services : Dictionary String Service) : Option Object :=
  messages.accessed .screenMirroringControl .screenMirroringControlPriority services

def remoteCameraControl (services : Dictionary String Service) : Option Object :=
  messages.accessed .remoteCameraControl .remoteCameraControlPriority services

end CapabilityMessages

/-! ## What an accessor finds -/

namespace CapabilitySelector

/-- The priority method that the protocol of the capability declares. -/
def priority : CapabilitySelector → PrioritySelector
  | launcher => .launcherPriority
  | externalInputControl => .externalInputControlPriority
  | mediaPlayer => .mediaPlayerPriority
  | mediaControl => .mediaControlPriority
  | volumeControl => .volumeControlPriority
  | tvControl => .tvControlPriority
  | keyControl => .keyControlPriority
  | textInputControl => .textInputControlPriority
  | mouseControl => .mouseControlPriority
  | powerControl => .powerControlPriority
  | toastControl => .toastControlPriority
  | webAppLauncher => .webAppLauncherPriority
  | screenMirroringControl => .screenMirroringControlPriority
  | remoteCameraControl => .remoteCameraControlPriority

end CapabilitySelector

namespace CapabilityMessages

variable {Service Object : Type} (messages : CapabilityMessages Service Object)

/-- The accessor under the name of the capability. -/
def accessor : CapabilitySelector → Dictionary String Service → Option Object
  | .launcher => messages.launcher
  | .externalInputControl => messages.externalInputControl
  | .mediaPlayer => messages.mediaPlayer
  | .mediaControl => messages.mediaControl
  | .volumeControl => messages.volumeControl
  | .tvControl => messages.tvControl
  | .keyControl => messages.keyControl
  | .textInputControl => messages.textInputControl
  | .mouseControl => messages.mouseControl
  | .powerControl => messages.powerControl
  | .toastControl => messages.toastControl
  | .webAppLauncher => messages.webAppLauncher
  | .screenMirroringControl => messages.screenMirroringControl
  | .remoteCameraControl => messages.remoteCameraControl

theorem accessor_eq (capability : CapabilitySelector) :
    messages.accessor capability = messages.accessed capability capability.priority := by
  cases capability <;> rfl

/-- What a service offers. One that does not respond is not asked. -/
def offer (selector : CapabilitySelector) (service : Service) : Option Object :=
  if messages.respondsToSelector service selector then
    messages.capabilityObject service selector
  else none

/-- One of the services offers the object. -/
def Offered (capability : CapabilitySelector) (services : Dictionary String Service)
    (object : Object) : Prop :=
  ∃ name service, services.lookup name = some service ∧
    messages.offer capability service = some object

/-- None of the objects offered has a higher priority. -/
def Highest (capability : CapabilitySelector) (services : Dictionary String Service)
    (object : Object) : Prop :=
  messages.Offered capability services object ∧
    ∀ other, messages.Offered capability services other →
      messages.priority other capability.priority ≤
        messages.priority object capability.priority

theorem accessed_eq_argmax (selector : CapabilitySelector) (priority : PrioritySelector)
    (services : Dictionary String Service) :
    messages.accessed selector priority services =
      (services.values.filterMap (messages.offer selector)).argmax
        fun object => messages.priority object priority := by
  rw [accessed, List.argmax, List.foldl_filterMap]
  congr 1
  funext found service
  unfold visit offer
  cases messages.respondsToSelector service selector with
  | false => rfl
  | true =>
      cases messages.capabilityObject service selector with
      | none => rfl
      | some object => cases found <;> rfl

theorem mem_offers_iff {capability : CapabilitySelector}
    {services : Dictionary String Service} {object : Object} :
    object ∈ services.values.filterMap (messages.offer capability) ↔
      messages.Offered capability services object := by
  simp only [List.mem_filterMap, Dictionary.mem_values_iff, Offered]
  constructor
  · rintro ⟨service, ⟨name, held⟩, offered⟩
    exact ⟨name, service, held, offered⟩
  · rintro ⟨name, service, held, offered⟩
    exact ⟨service, ⟨name, held⟩, offered⟩

theorem accessor_eq_none_iff (capability : CapabilitySelector)
    (services : Dictionary String Service) :
    messages.accessor capability services = none ↔
      ∀ object, ¬ messages.Offered capability services object := by
  rw [accessor_eq, accessed_eq_argmax, List.argmax_eq_none, List.eq_nil_iff_forall_not_mem]
  simp only [mem_offers_iff]

theorem accessor_highest {capability : CapabilitySelector}
    {services : Dictionary String Service} {object : Object}
    (found : messages.accessor capability services = some object) :
    messages.Highest capability services object := by
  rw [accessor_eq, accessed_eq_argmax] at found
  constructor
  · exact messages.mem_offers_iff.mp (List.argmax_mem found)
  · intro other offered
    exact List.le_of_mem_argmax (messages.mem_offers_iff.mpr offered) found

/-! ## The order of enumeration -/

theorem offered_congr {services other : Dictionary String Service}
    (same : services.SameEntries other) (capability : CapabilitySelector) (object : Object) :
    messages.Offered capability services object ↔ messages.Offered capability other object := by
  unfold Offered
  apply exists_congr
  intro name
  rw [same name]

theorem highest_congr {services other : Dictionary String Service}
    (same : services.SameEntries other) (capability : CapabilitySelector) (object : Object) :
    messages.Highest capability services object ↔ messages.Highest capability other object := by
  simp only [Highest, messages.offered_congr same]

/-- The only object of the highest priority is found in every order. -/
theorem accessor_congr {services other : Dictionary String Service}
    (same : services.SameEntries other) {capability : CapabilitySelector}
    (unique : ∀ first second, messages.Highest capability services first →
      messages.Highest capability services second → first = second) :
    messages.accessor capability services = messages.accessor capability other := by
  cases found : messages.accessor capability services with
  | none =>
      have nobody := (messages.accessor_eq_none_iff capability services).mp found
      symm
      rw [accessor_eq_none_iff]
      intro object offered
      exact nobody object ((messages.offered_congr same capability object).mpr offered)
  | some object =>
      have best := messages.accessor_highest found
      cases again : messages.accessor capability other with
      | none =>
          have nobody := (messages.accessor_eq_none_iff capability other).mp again
          exact absurd ((messages.offered_congr same capability object).mp best.1) (nobody object)
      | some second =>
          have alsoBest := messages.accessor_highest again
          rw [unique object second best
            ((messages.highest_congr same capability second).mpr alsoBest)]

/-- For each of the capabilities: the accessor gives nothing when nobody offers an object,
an object of the highest priority otherwise, and the same one in every order of the services
when only one has it. -/
theorem accessor_gives_highest (capability : CapabilitySelector)
    (services : Dictionary String Service) :
    (messages.accessor capability services = none ↔
      ∀ object, ¬ messages.Offered capability services object) ∧
    (∀ object, messages.accessor capability services = some object →
      messages.Highest capability services object) ∧
    ((∀ first second, messages.Highest capability services first →
      messages.Highest capability services second → first = second) →
      ∀ other, services.SameEntries other →
        messages.accessor capability services = messages.accessor capability other) :=
  ⟨messages.accessor_eq_none_iff capability services,
    fun _ => messages.accessor_highest,
    fun unique _ same => messages.accessor_congr same unique⟩

end CapabilityMessages

end ConnectSDK
