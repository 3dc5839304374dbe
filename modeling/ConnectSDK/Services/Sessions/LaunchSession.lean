import ConnectSDK.Foundation.ObjectEquality
import ConnectSDK.Services.DeviceService

/-! # Launch sessions

What a service needs to close what it launched. Sessions are equal when their app id and
their session id are, and a missing id is equal to nothing, so that a session without one
does not equal itself.
-/

namespace ConnectSDK

/-- An enumeration of C, which may hold any value of its integer type. -/
structure LaunchSessionType where
  rawValue : UInt32
deriving DecidableEq

namespace LaunchSessionType

def unknown : LaunchSessionType := ⟨0⟩

def app : LaunchSessionType := ⟨1⟩

def externalInputPicker : LaunchSessionType := ⟨2⟩

def media : LaunchSessionType := ⟨3⟩

def webApp : LaunchSessionType := ⟨4⟩

end LaunchSessionType

/-- The raw data of a session: a value of a property list, or another object. -/
inductive RawData where
  | value (value : JSON)
  | object (object : AnyObject)

structure LaunchSession where
  appId : Option String := none
  name : Option String := none
  sessionId : Option String := none
  rawData : Option RawData := none
  sessionType : LaunchSessionType := .unknown
  service : Option DeviceService := none

/-- `[value integerValue]` on a number. -/
def JSON.integerValue : JSON → Int
  | .number value => value
  | .bool value => value.toNat
  | _ => 0

/-- The raw data that a record holds: a dictionary, an array or a string. -/
def RawData.recorded? : RawData → Option JSON
  | .value (.object fields) => some (.object fields)
  | .value (.array elements) => some (.array elements)
  | .value (.string text) => some (.string text)
  | _ => none

namespace LaunchSession

def launchSessionForAppId (appId : Option String) : LaunchSession :=
  { appId }

def initWithJSONObject (json : JSON) : LaunchSession where
  appId := (json.value? "appId").bind JSON.string?
  sessionId := (json.value? "sessionId").bind JSON.string?
  name := (json.value? "name").bind JSON.string?
  sessionType :=
    ⟨UInt32.ofNat ((((json.value? "sessionType").map JSON.integerValue).getD 0 %
      4294967296).toNat)⟩
  rawData := (json.value? "rawData").map .value

/-- What the entries of a record are but for the service name. -/
def recordFields (session : LaunchSession) (serviceName : Option String) : JSON.Fields :=
  let json := JSON.Fields.setIfSome [] "appId" (session.appId.map .string)
  let json := json.setIfSome "sessionId" (session.sessionId.map .string)
  let json := json.setIfSome "name" (session.name.map .string)
  let json := json.setIfSome "sessionType"
    (JSON.ofNonzero session.sessionType.rawValue.toNat)
  let json := json.setIfSome "serviceName" (serviceName.map .string)
  json.setIfSome "rawData" (session.rawData.bind RawData.recorded?)

/-- `toJSONObject`. The name of a service is the id in its description; a service without
one raises, as `nil` cannot be an entry. -/
def toJSONObject (session : LaunchSession) (descriptions : Heap ServiceDescription) :
    Option JSON :=
  match session.service with
  | none => some (.object (session.recordFields none))
  | some service =>
      (descriptions.read service.serviceDescription).serviceId.map fun serviceName =>
        .object (session.recordFields (some serviceName))

/-- `isEqual:`. -/
def isEqual (session launchSession : LaunchSession) : Bool :=
  ObjectEquality.strings.messageIsEqual launchSession.appId session.appId &&
    ObjectEquality.strings.messageIsEqual launchSession.sessionId session.sessionId

/-! ## Equality -/

theorem isEqual_iff (session other : LaunchSession) :
    session.isEqual other = true ↔
      ObjectEquality.strings.messageIsEqual other.appId session.appId = true ∧
        ObjectEquality.strings.messageIsEqual other.sessionId session.sessionId = true :=
  Bool.and_eq_true_iff

theorem isEqual_symm {session other : LaunchSession}
    (same : session.isEqual other = true) : other.isEqual session = true := by
  rw [isEqual_iff] at same ⊢
  exact same.imp (ObjectEquality.messageIsEqual_symm _) (ObjectEquality.messageIsEqual_symm _)

theorem isEqual_trans {session middle other : LaunchSession}
    (first : session.isEqual middle = true) (second : middle.isEqual other = true) :
    session.isEqual other = true := by
  rw [isEqual_iff] at first second ⊢
  exact ⟨ObjectEquality.messageIsEqual_trans _ second.1 first.1,
    ObjectEquality.messageIsEqual_trans _ second.2 first.2⟩

/-- A session equals another one with the same ids exactly when it has both. -/
theorem isEqual_of_same_iff {session other : LaunchSession}
    (appId : session.appId = other.appId) (sessionId : session.sessionId = other.sessionId) :
    session.isEqual other = true ↔ other.appId ≠ none ∧ other.sessionId ≠ none := by
  rw [isEqual_iff, appId, sessionId, ObjectEquality.messageIsEqual_self,
    ObjectEquality.messageIsEqual_self, Option.isSome_iff_ne_none, Option.isSome_iff_ne_none]

/-! ## Records -/

theorem integerValue_ofNonzero (value : UInt32) :
    UInt32.ofNat ((((JSON.ofNonzero value.toNat).map JSON.integerValue).getD 0 %
      4294967296).toNat) = value := by
  have small := value.toNat_lt
  have kept : ((value.toNat : Int) % 4294967296).toNat = value.toNat := by omega
  have read : ((JSON.ofNonzero value.toNat).map JSON.integerValue).getD 0 =
      (value.toNat : Int) := by
    rw [JSON.ofNonzero]
    split
    · rename_i zero
      exact zero.symm
    · rfl
  rw [read, kept, UInt32.ofNat_toNat]

theorem initWithJSONObject_recordFields (session : LaunchSession)
    (serviceName : Option String) :
    initWithJSONObject (.object (session.recordFields serviceName)) =
      { session with
        rawData := (session.rawData.bind RawData.recorded?).map .value
        service := none } := by
  simp [initWithJSONObject, recordFields, integerValue_ofNonzero]

theorem value_of_recorded? {rawData : RawData} {value : JSON}
    (recorded : rawData.recorded? = some value) : .value value = rawData := by
  cases rawData with
  | object object => cases recorded
  | value held =>
      cases held with
      | object fields => cases recorded; rfl
      | array elements => cases recorded; rfl
      | string text => cases recorded; rfl
      | null => cases recorded
      | bool flag => cases recorded
      | number number => cases recorded

/-- Every service of the session has a name. -/
def Named (session : LaunchSession) (descriptions : Heap ServiceDescription) : Prop :=
  ∀ service, session.service = some service →
    (descriptions.read service.serviceDescription).serviceId ≠ none

theorem toJSONObject_eq_some_iff (session : LaunchSession)
    (descriptions : Heap ServiceDescription) :
    (∃ json, session.toJSONObject descriptions = some json) ↔ session.Named descriptions := by
  unfold toJSONObject Named
  cases session.service with
  | none => simp
  | some service =>
      constructor
      · intro sessionNamed other same missing
        rcases sessionNamed with ⟨json, written⟩
        cases same
        rcases Option.map_eq_some_iff.mp written with ⟨serviceName, held, _⟩
        cases missing.symm.trans held
      · intro named
        rcases Option.ne_none_iff_exists'.mp (named service rfl) with ⟨serviceName, held⟩
        exact ⟨_, Option.map_eq_some_iff.mpr ⟨serviceName, held, rfl⟩⟩

theorem toJSONObject_record {session : LaunchSession}
    {descriptions : Heap ServiceDescription} {json : JSON}
    (written : session.toJSONObject descriptions = some json) :
    ∃ serviceName, json = .object (session.recordFields serviceName) := by
  unfold toJSONObject at written
  split at written
  · cases written
    exact ⟨none, rfl⟩
  · rcases Option.map_eq_some_iff.mp written with ⟨serviceName, _, rfl⟩
    exact ⟨some serviceName, rfl⟩

/-- The session decoded from the record is equal to the session, with the same name, type
and, if it is a dictionary, an array or a string, raw data. -/
def RoundTrips (session : LaunchSession) (descriptions : Heap ServiceDescription) : Prop :=
  ∃ json, session.toJSONObject descriptions = some json ∧
    (initWithJSONObject json).isEqual session = true ∧
    (initWithJSONObject json).name = session.name ∧
    (initWithJSONObject json).sessionType = session.sessionType ∧
    ∀ rawData, session.rawData = some rawData → rawData.recorded?.isSome = true →
      (initWithJSONObject json).rawData = session.rawData

/-- Only the ids decide whether a session that can be written comes back. -/
theorem roundTrips_iff (session : LaunchSession) (descriptions : Heap ServiceDescription) :
    session.RoundTrips descriptions ↔
      session.appId ≠ none ∧ session.sessionId ≠ none ∧ session.Named descriptions := by
  constructor
  · intro trips
    rcases trips with ⟨json, written, same, _⟩
    rcases toJSONObject_record written with ⟨serviceName, rfl⟩
    rw [initWithJSONObject_recordFields] at same
    have ids : session.appId ≠ none ∧ session.sessionId ≠ none :=
      (isEqual_of_same_iff rfl rfl).mp same
    exact ⟨ids.1, ids.2, (toJSONObject_eq_some_iff ..).mp ⟨_, written⟩⟩
  · intro ids
    rcases ids with ⟨appId, sessionId, named⟩
    rcases (toJSONObject_eq_some_iff ..).mpr named with ⟨json, written⟩
    rcases toJSONObject_record written with ⟨serviceName, rfl⟩
    refine ⟨_, written, ?_⟩
    rw [initWithJSONObject_recordFields]
    refine ⟨(isEqual_of_same_iff rfl rfl).mpr ⟨appId, sessionId⟩, rfl, rfl, ?_⟩
    intro rawData given recordable
    rcases Option.isSome_iff_exists.mp recordable with ⟨value, recorded⟩
    rw [given, Option.bind_some, recorded, Option.map_some, value_of_recorded? recorded]

/-- A session is equal to itself and to what is decoded from its record exactly when it has
an app id and a session id, and its service a name. The other laws of an equality always
hold. -/
theorem isEqual_laws_and_roundTrips_iff (session : LaunchSession)
    (descriptions : Heap ServiceDescription) :
    (session.isEqual session = true ∧
      (∀ other, session.isEqual other = true → other.isEqual session = true) ∧
      (∀ middle other, session.isEqual middle = true → middle.isEqual other = true →
        session.isEqual other = true) ∧
      session.RoundTrips descriptions) ↔
      session.appId ≠ none ∧ session.sessionId ≠ none ∧ session.Named descriptions := by
  rw [roundTrips_iff]
  constructor
  · intro laws
    rcases laws with ⟨_, _, _, ids⟩
    exact ids
  · intro ids
    refine ⟨(isEqual_of_same_iff rfl rfl).mpr ⟨ids.1, ids.2.1⟩, ?_, ?_, ids⟩
    · intro other same
      exact isEqual_symm same
    · intro middle other first second
      exact isEqual_trans first second

/-- A session for an app id has no session id until the device gives it one. -/
theorem launchSessionForAppId_differs :
    ¬ ∀ session : LaunchSession, session.isEqual session = true := by
  intro reflexive
  have same := reflexive (launchSessionForAppId (some "youtube.leanback.v4"))
  exact absurd same (by decide)

end LaunchSession

end ConnectSDK
