import ConnectSDK.Foundation.DecimalText
import ConnectSDK.Foundation.PartialMaps
import ConnectSDK.Services.Helpers.LGCast.CastingServices

/-! # Camera parameters

How `RemoteCameraService` sets what a SET_PARAMETER message names, one after the other. All
share one response, so that only the last is answered.
-/

namespace ConnectSDK

structure CameraParameter where
  width : Int := 0
  height : Int := 0
  brightness : Int := 0
  whiteBalance : Int := 0
  autoWhiteBalance : Bool := false
  facing : Int := 0
  audio : Bool := false
  rotation : Int := 0
deriving DecidableEq

/-- The properties of the camera that a message may set. -/
inductive LGCastCameraProperty where
  | brightness
  | whitebalance
  | autoWhiteBalance
  | facing
  | audio
deriving DecidableEq

/-! ## Values -/

/-- `boolValue` of a string. -/
def boolValueOfString (text : String) : Bool :=
  let characters := text.toList.dropWhile Char.isWhitespace
  let unsigned :=
    match characters with
    | '-' :: rest => rest
    | '+' :: rest => rest
    | characters => characters
  match unsigned.dropWhile (· = '0') with
  | [] => false
  | first :: _ => "YyTt123456789".toList.contains first

/-- `intValue`, which a null, an array and a dictionary do not understand. -/
def JSON.intValue? : JSON → Option Int
  | .number value => some (value.bmod 4294967296)
  | .bool value => some value.toNat
  | .string text => some (ConnectSDK.intValue text)
  | _ => none

def JSON.boolValue? : JSON → Option Bool
  | .number value => some (value != 0)
  | .bool value => some value
  | .string text => some (boolValueOfString text)
  | _ => none

/-! ## Encoders -/

namespace CameraParameter

/-- A result, and the value of one property. -/
def resultResponse (result : Bool) (key : String) (value : JSON) : JSON.Fields :=
  [("result", .bool result), (key, value)]

def toNSDictionaryBritnessResult (parameter : CameraParameter) (result : Bool)
    (brightness : Int) : CameraParameter × JSON.Fields :=
  let parameter := if result then { parameter with brightness } else parameter
  (parameter, resultResponse result "brightness" (.number parameter.brightness))

def toNSDictionaryWhiteBalanceResult (parameter : CameraParameter) (result : Bool)
    (whiteBalance : Int) : CameraParameter × JSON.Fields :=
  let parameter := if result then { parameter with whiteBalance } else parameter
  (parameter, resultResponse result "whiteBalance" (.number parameter.whiteBalance))

def toNSDictionaryAutoWhiteBalanceResult (parameter : CameraParameter) (result : Bool)
    (autoWhiteBalance : Bool) : CameraParameter × JSON.Fields :=
  let parameter := if result then { parameter with autoWhiteBalance } else parameter
  (parameter, resultResponse result "autoWhiteBalance" (.bool parameter.autoWhiteBalance))

def toNSDictionaryFacingResult (parameter : CameraParameter) (result : Bool) (facing : Int) :
    CameraParameter × JSON.Fields :=
  let parameter := if result then { parameter with facing } else parameter
  (parameter, resultResponse result "facing" (.number parameter.facing))

/-- The others report what is held. -/
def toNSDictionaryAudioResult (parameter : CameraParameter) (result : Bool) (audio : Bool) :
    CameraParameter × JSON.Fields :=
  let parameter := if result then { parameter with audio } else parameter
  (parameter, resultResponse result "audio" (.bool audio))

end CameraParameter

namespace LGCastCameraProperty

def key : LGCastCameraProperty → String
  | .brightness => "brightness"
  | .whitebalance => "whiteBalance"
  | .autoWhiteBalance => "autoWhiteBalance"
  | .facing => "facing"
  | .audio => "audio"

/-- The number that the camera is given for a value of a message. -/
def value? : LGCastCameraProperty → JSON → Option Int
  | .autoWhiteBalance, json => json.boolValue?.map fun value => (value.toNat : Int)
  | .audio, json => json.boolValue?.map fun value => (value.toNat : Int)
  | _, json => json.intValue?

def encode (property : LGCastCameraProperty) (parameter : CameraParameter) (result : Bool)
    (value : Int) : CameraParameter × JSON.Fields :=
  match property with
  | .brightness => parameter.toNSDictionaryBritnessResult result value
  | .whitebalance => parameter.toNSDictionaryWhiteBalanceResult result value
  | .autoWhiteBalance => parameter.toNSDictionaryAutoWhiteBalanceResult result (value != 0)
  | .facing => parameter.toNSDictionaryFacingResult result value
  | .audio => parameter.toNSDictionaryAudioResult result (value != 0)

/-- The value that is held, as the encoders write it. -/
def held (property : LGCastCameraProperty) (parameter : CameraParameter) : JSON :=
  match property with
  | .brightness => .number parameter.brightness
  | .whitebalance => .number parameter.whiteBalance
  | .autoWhiteBalance => .bool parameter.autoWhiteBalance
  | .facing => .number parameter.facing
  | .audio => .bool parameter.audio

/-- The delegate is told of a change. -/
def isNotified : LGCastCameraProperty → Bool
  | .brightness => true
  | .whitebalance => true
  | _ => false

end LGCastCameraProperty

/-! ## The message -/

/-- What a message does to the parameters, the response that is left at its end, and the
changes that the delegate is told of. -/
structure CameraUpdate where
  parameter : CameraParameter
  response : Option JSON.Fields := none
  changes : List LGCastCameraProperty := []

/-- A property, and where the message names it. -/
abbrev CameraRequest := LGCastCameraProperty × Option JSON

namespace RemoteCameraParameters

/-- The facing is not looked up in the camera object. -/
def requests (values cameraObj : JSON) : Option (List CameraRequest) := do
  let brightness ← objectForKey cameraObj "brightness"
  let whiteBalance ← objectForKey cameraObj "whiteBalance"
  let autoWhiteBalance ← objectForKey cameraObj "autoWhiteBalance"
  let facing ← objectForKey values "facing"
  let audio ← objectForKey cameraObj "audio"
  some [(.brightness, brightness), (.whitebalance, whiteBalance),
    (.autoWhiteBalance, autoWhiteBalance), (.facing, facing), (.audio, audio)]

section Camera

variable (setCameraProperties : LGCastCameraProperty → Int → Bool)

/-- One of the five branches. -/
def setProperty (update : CameraUpdate) (request : CameraRequest) : Option CameraUpdate :=
  match request.2 with
  | none => some update
  | some json =>
      (request.1.value? json).map fun value =>
        let result := setCameraProperties request.1 value
        let encoded := request.1.encode update.parameter result value
        { parameter := encoded.1
          response := some encoded.2
          changes :=
            if request.1.isNotified then update.changes ++ [request.1] else update.changes }

/-- `onReceiveSetParameter:`. The response is sent if there is one. -/
def onReceiveSetParameter (parameter : CameraParameter) (values : JSON) :
    Option CameraUpdate := do
  match ← objectForKey values "camera" with
  | none => some { parameter }
  | some cameraObj =>
      (← requests values cameraObj).foldlM (setProperty setCameraProperties) { parameter }

end Camera

end RemoteCameraParameters

/-- A message with a camera object. -/
structure SetParameterMessage where
  values : JSON.Fields
  camera : JSON.Fields
  hasCamera : values.value? "camera" = some (.object camera)

namespace SetParameterMessage

/-- What is set before the audio. -/
def readFirst (message : SetParameterMessage) : List CameraRequest :=
  [(.brightness, message.camera.value? "brightness"),
    (.whitebalance, message.camera.value? "whiteBalance"),
    (.autoWhiteBalance, message.camera.value? "autoWhiteBalance"),
    (.facing, message.values.value? "facing")]

def read (message : SetParameterMessage) : List CameraRequest :=
  message.readFirst ++ [(.audio, message.camera.value? "audio")]

/-- What the camera object names. -/
def Names (message : SetParameterMessage) (property : LGCastCameraProperty) (json : JSON) :
    Prop :=
  message.camera.value? property.key = some json

end SetParameterMessage

/-- What is there of what was looked up. -/
def CameraRequest.present (requests : List CameraRequest) :
    List (LGCastCameraProperty × JSON) :=
  requests.filterMap fun request => request.2.map fun json => (request.1, json)

namespace RemoteCameraParameters

section Camera

variable (setCameraProperties : LGCastCameraProperty → Int → Bool)

/-- The response has the result of each property that the camera object names, and the
values in it are held. -/
structure Answers (message : SetParameterMessage) (update : CameraUpdate) : Prop where
  results : ∀ property json, message.Names property json → ∃ value response,
    property.value? json = some value ∧ update.response = some response ∧
      response.value? "result" = some (.bool (setCameraProperties property value)) ∧
      (response.value? property.key).isSome = true
  reported : ∀ response (property : LGCastCameraProperty) value,
    update.response = some response →
    JSON.Fields.value? response property.key = some value →
      value = property.held update.parameter

/-- What the message names is what is set last, with a value that can be read and, for the
audio, reported. -/
structure Answerable (parameter : CameraParameter) (message : SetParameterMessage) : Prop where
  readable : ∀ request ∈ CameraRequest.present message.read,
    (request.1.value? request.2).isSome = true
  last : ∀ property json, message.Names property json → ∃ last value lastValue,
    (CameraRequest.present message.read).getLast? = some (property, last) ∧
      property.value? json = some value ∧ property.value? last = some lastValue ∧
      setCameraProperties property lastValue = setCameraProperties property value
  audio : ∀ json value, message.Names .audio json →
    LGCastCameraProperty.audio.value? json = some value →
      setCameraProperties .audio value = true ∨ parameter.audio = (value != 0)

/-! ## Properties -/

theorem key_injective {one other : LGCastCameraProperty} (same : one.key = other.key) :
    one = other := by
  cases one <;> cases other <;> first | rfl | exact absurd same (by decide)

theorem key_ne_result (property : LGCastCameraProperty) : property.key ≠ "result" := by
  cases property <;> decide

/-- The value that is reported. -/
def reportedValue (property : LGCastCameraProperty) (parameter : CameraParameter)
    (value : Int) : JSON :=
  if property = .audio then .bool (value != 0) else property.held parameter

theorem encode_eq (property : LGCastCameraProperty) (parameter : CameraParameter)
    (result : Bool) (value : Int) :
    (property.encode parameter result value).2 =
      CameraParameter.resultResponse result property.key
        (reportedValue property (property.encode parameter result value).1 value) := by
  cases property <;> rfl

theorem value?_result (result : Bool) (key : String) (value : JSON) :
    JSON.Fields.value? (CameraParameter.resultResponse result key value) "result" =
      some (.bool result) := rfl

theorem value?_resultResponse (result : Bool) (key : String) (value : JSON)
    (property : LGCastCameraProperty) :
    JSON.Fields.value? (CameraParameter.resultResponse result key value) property.key =
      if property.key = key then some value else none := by
  have other : (property.key == "result") = false := beq_false_of_ne (key_ne_result property)
  rw [CameraParameter.resultResponse, JSON.Fields.value?, List.lookup_cons, other,
    List.lookup_cons]
  by_cases same : property.key = key
  · rw [if_pos same, same, beq_self_eq_true]
  · rw [if_neg same, beq_false_of_ne same]
    rfl

/-- The audio is held by itself. -/
theorem encode_audio_of_ne {property : LGCastCameraProperty} (other : property ≠ .audio)
    (parameter : CameraParameter) (result : Bool) (value : Int) :
    (property.encode parameter result value).1.audio = parameter.audio := by
  cases property with
  | audio => exact absurd rfl other
  | _ => cases result <;> rfl

theorem encode_audio (parameter : CameraParameter) (result : Bool) (value : Int) :
    (LGCastCameraProperty.audio.encode parameter result value).1.audio =
      if result then value != 0 else parameter.audio := by
  cases result <;> rfl

/-! ## Requests -/

def setPresent (update : CameraUpdate) (request : LGCastCameraProperty × JSON) :
    Option CameraUpdate :=
  setProperty setCameraProperties update (request.1, some request.2)

/-- The update by the last request. -/
def lastUpdate (before : CameraUpdate) (property : LGCastCameraProperty) (value : Int) :
    CameraUpdate :=
  let encoded := property.encode before.parameter (setCameraProperties property value) value
  { parameter := encoded.1
    response := some encoded.2
    changes := if property.isNotified then before.changes ++ [property] else before.changes }

theorem setPresent_eq (update : CameraUpdate) (request : LGCastCameraProperty × JSON) :
    setPresent setCameraProperties update request =
      (request.1.value? request.2).map (lastUpdate setCameraProperties update request.1) := rfl

theorem foldlM_present (requests : List CameraRequest) (update : CameraUpdate) :
    requests.foldlM (setProperty setCameraProperties) update =
      (CameraRequest.present requests).foldlM (setPresent setCameraProperties) update := by
  induction requests generalizing update with
  | nil => rfl
  | cons request requests induction =>
      rcases request with ⟨property, _ | json⟩
      · exact induction update
      · have present : CameraRequest.present ((property, some json) :: requests) =
            (property, json) :: CameraRequest.present requests := rfl
        rw [present, List.foldlM_cons, List.foldlM_cons]
        exact congrArg _ (funext induction)

theorem onReceiveSetParameter_message (parameter : CameraParameter)
    (message : SetParameterMessage) :
    onReceiveSetParameter setCameraProperties parameter (.object message.values) =
      (CameraRequest.present message.read).foldlM (setPresent setCameraProperties)
        { parameter } := by
  rw [← foldlM_present]
  have camera : objectForKey (JSON.object message.values) "camera" =
      some (some (.object message.camera)) := congrArg some message.hasCamera
  rw [onReceiveSetParameter, camera]
  rfl

/-- The requests are set if each has a value that can be read. -/
theorem isSome_setPresent_iff (requests : List (LGCastCameraProperty × JSON))
    (update : CameraUpdate) :
    (requests.foldlM (setPresent setCameraProperties) update).isSome = true ↔
      ∀ request ∈ requests, (request.1.value? request.2).isSome = true := by
  apply isSome_foldlM_iff
  intro before request
  rw [setPresent_eq, Option.isSome_map]

theorem foldlM_concat_eq_some_iff {requests : List (LGCastCameraProperty × JSON)}
    {last : LGCastCameraProperty × JSON} {update after : CameraUpdate} :
    (requests ++ [last]).foldlM (setPresent setCameraProperties) update = some after ↔
      ∃ before value, requests.foldlM (setPresent setCameraProperties) update = some before ∧
        last.1.value? last.2 = some value ∧
        lastUpdate setCameraProperties before last.1 value = after := by
  rw [List.foldlM_append]
  constructor
  · intro run
    rcases Option.bind_eq_some_iff.mp run with ⟨before, first, set⟩
    rw [List.foldlM_cons, setPresent_eq] at set
    rcases Option.bind_eq_some_iff.mp set with ⟨_, mapped, same⟩
    rcases Option.map_eq_some_iff.mp mapped with ⟨value, read, rfl⟩
    exact ⟨before, value, first, read, Option.some.inj same⟩
  · rintro ⟨before, value, first, read, rfl⟩
    rw [first]
    change List.foldlM (setPresent setCameraProperties) before [last] = _
    rw [List.foldlM_cons, setPresent_eq, read]
    rfl

/-- The audio is held until it is set. -/
theorem foldlM_audio {requests : List (LGCastCameraProperty × JSON)}
    {update after : CameraUpdate} (others : ∀ request ∈ requests, request.1 ≠ .audio)
    (run : requests.foldlM (setPresent setCameraProperties) update = some after) :
    after.parameter.audio = update.parameter.audio := by
  induction requests generalizing update with
  | nil =>
      cases run
      rfl
  | cons request requests induction =>
      rw [List.forall_mem_cons] at others
      rw [List.foldlM_cons, setPresent_eq] at run
      rcases Option.bind_eq_some_iff.mp run with ⟨_, mapped, rest⟩
      rcases Option.map_eq_some_iff.mp mapped with ⟨value, _, rfl⟩
      exact (induction others.2 rest).trans (encode_audio_of_ne others.1 _ _ _)

/-! ## The last request -/

section Last

variable {setCameraProperties} {parameter : CameraParameter} {message : SetParameterMessage}
  {init : List (LGCastCameraProperty × JSON)} {before : CameraUpdate}
  {property : LGCastCameraProperty} {json : JSON} {value : Int}

theorem response_lastUpdate :
    (lastUpdate setCameraProperties before property value).response =
      some (CameraParameter.resultResponse (setCameraProperties property value) property.key
        (reportedValue property
          (lastUpdate setCameraProperties before property value).parameter value)) :=
  congrArg some (encode_eq property before.parameter _ value)

/-- A property that is named is answered if it is the last one, with the same result. -/
theorem answered_iff (named : LGCastCameraProperty) (wanted : Int) :
    (∃ response, (lastUpdate setCameraProperties before property value).response =
        some response ∧
      JSON.Fields.value? response "result" =
        some (.bool (setCameraProperties named wanted)) ∧
      (JSON.Fields.value? response named.key).isSome = true) ↔
      property = named ∧
        setCameraProperties property value = setCameraProperties named wanted := by
  rw [response_lastUpdate]
  constructor
  · rintro ⟨_, same, result, present⟩
    cases same
    rw [value?_result] at result
    rw [value?_resultResponse] at present
    split_ifs at present with key
    · cases key_injective key
      exact ⟨rfl, JSON.bool.inj (Option.some.inj result)⟩
    · cases present
  · rintro ⟨rfl, same⟩
    refine ⟨_, rfl, ?_, ?_⟩
    · rw [value?_result, same]
    · rw [value?_resultResponse, if_pos rfl]
      rfl

theorem reportedValue_eq_held_iff :
    reportedValue property (lastUpdate setCameraProperties before property value).parameter
        value =
      property.held (lastUpdate setCameraProperties before property value).parameter ↔
      (property = .audio → setCameraProperties .audio value = true ∨
        before.parameter.audio = (value != 0)) := by
  by_cases audio : property = .audio
  · subst audio
    have held : LGCastCameraProperty.audio.held
        (lastUpdate setCameraProperties before .audio value).parameter =
        .bool (if setCameraProperties .audio value then value != 0
          else before.parameter.audio) :=
      congrArg JSON.bool (encode_audio before.parameter _ value)
    rw [reportedValue, if_pos rfl, held, JSON.bool.injEq, forall_prop_of_true rfl]
    cases setCameraProperties .audio value with
    | true => exact iff_of_true rfl (.inl rfl)
    | false =>
        rw [if_neg Bool.false_ne_true, or_iff_right Bool.false_ne_true]
        exact eq_comm
  · rw [reportedValue, if_neg audio]
    exact iff_of_true rfl fun same => absurd same audio

/-- What is reported is held, unless it is an audio that could not be set. -/
theorem reported_iff :
    (∀ response (reported : LGCastCameraProperty) found,
      (lastUpdate setCameraProperties before property value).response = some response →
        JSON.Fields.value? response reported.key = some found →
          found = reported.held (lastUpdate setCameraProperties before property value).parameter) ↔
      (property = .audio → setCameraProperties .audio value = true ∨
        before.parameter.audio = (value != 0)) := by
  rw [← reportedValue_eq_held_iff, response_lastUpdate]
  constructor
  · intro reported
    apply reported _ property _ rfl
    rw [value?_resultResponse, if_pos rfl]
  · rintro held _ reported found same present
    cases same
    rw [value?_resultResponse] at present
    split_ifs at present with key
    · cases key_injective key
      rw [← Option.some.inj present]
      exact held

end Last

/-! ## Messages -/

section Message

variable (message : SetParameterMessage)

theorem present_read : CameraRequest.present message.read =
    CameraRequest.present message.readFirst ++
      CameraRequest.present [(.audio, message.camera.value? "audio")] :=
  List.filterMap_append

theorem property_readFirst : ∀ request ∈ CameraRequest.present message.readFirst,
    request.1 ≠ .audio := by
  intro request member
  rcases List.mem_filterMap.mp member with ⟨looked, inside, found⟩
  rcases Option.map_eq_some_iff.mp found with ⟨json, _, rfl⟩
  simp only [SetParameterMessage.readFirst, List.mem_cons, List.not_mem_nil, or_false] at inside
  rcases inside with rfl | rfl | rfl | rfl <;> exact nofun

/-- The audio is set last, if at all. -/
theorem eq_readFirst_of_audio {init : List (LGCastCameraProperty × JSON)} {json : JSON}
    (split : CameraRequest.present message.read = init ++ [(.audio, json)]) :
    init = CameraRequest.present message.readFirst ∧ message.Names .audio json := by
  rw [present_read] at split
  cases audio : message.camera.value? "audio" with
  | none =>
      rw [audio] at split
      have member : (LGCastCameraProperty.audio, json) ∈
          CameraRequest.present message.readFirst := by
        rw [← List.append_nil (CameraRequest.present message.readFirst)]
        exact split ▸ List.mem_append_right init List.mem_cons_self
      exact absurd rfl (property_readFirst message _ member)
  | some other =>
      rw [audio] at split
      rcases List.append_inj' split rfl with ⟨same, last⟩
      cases last
      exact ⟨same.symm, audio⟩

theorem getLast?_of_audio {json : JSON} (named : message.Names .audio json) :
    CameraRequest.present message.read =
      CameraRequest.present message.readFirst ++ [(.audio, json)] := by
  rw [present_read]
  exact congrArg (fun audio => _ ++ CameraRequest.present [(.audio, audio)]) named

/-- The message is answered exactly if it names at most the property that is set last. -/
theorem set_request_answered_iff (parameter : CameraParameter) (message : SetParameterMessage) :
    (∃ update, onReceiveSetParameter setCameraProperties parameter (.object message.values) =
        some update ∧ Answers setCameraProperties message update) ↔
      Answerable setCameraProperties parameter message := by
  rw [onReceiveSetParameter_message]
  have readable := isSome_setPresent_iff setCameraProperties
    (CameraRequest.present message.read) { parameter }
  rcases List.eq_nil_or_concat (CameraRequest.present message.read) with
    none | ⟨init, last, split⟩
  · rw [none]
    constructor
    · rintro ⟨update, run, answers⟩
      cases run
      have unnamed (property : LGCastCameraProperty) (json : JSON) :
          ¬ message.Names property json := by
        intro named
        rcases answers.results property json named with ⟨_, _, _, impossible, _⟩
        cases impossible
      refine ⟨?_, ?_, ?_⟩
      · rw [none]
        exact fun request member => absurd member List.not_mem_nil
      · exact fun property json named => absurd named (unnamed property json)
      · exact fun json _ named => absurd named (unnamed .audio json)
    · intro answerable
      refine ⟨_, rfl, ?_, fun _ _ _ impossible => absurd impossible nofun⟩
      intro property json named
      rcases answerable.last property json named with ⟨_, _, _, impossible, _⟩
      rw [none] at impossible
      cases impossible
  · rw [List.concat_eq_append] at split
    have getLast : (CameraRequest.present message.read).getLast? = some last := by
      rw [split, List.getLast?_concat]
    constructor
    · rintro ⟨update, run, answers⟩
      have read := readable.mp (by rw [run]; rfl)
      rw [split, foldlM_concat_eq_some_iff] at run
      rcases run with ⟨before, value, first, lastRead, rfl⟩
      refine ⟨read, ?_, ?_⟩
      · intro property json named
        rcases answers.results property json named with ⟨wanted, response, wantedRead, found⟩
        rcases (answered_iff property wanted).mp ⟨response, found⟩ with ⟨rfl, same⟩
        exact ⟨last.2, wanted, value, getLast, wantedRead, lastRead, same⟩
      · intro json audio named audioRead
        rw [getLast?_of_audio message named] at split
        rcases List.append_inj' split rfl with ⟨rfl, same⟩
        cases same
        cases lastRead.symm.trans audioRead
        have held := foldlM_audio setCameraProperties (property_readFirst message) first
        rw [← held]
        exact reported_iff.mp answers.reported rfl
    · intro answerable
      have some := readable.mpr answerable.readable
      rcases Option.isSome_iff_exists.mp some with ⟨update, run⟩
      refine ⟨update, run, ?_⟩
      rw [split, foldlM_concat_eq_some_iff] at run
      rcases run with ⟨before, value, first, lastRead, rfl⟩
      refine ⟨?_, reported_iff.mpr ?_⟩
      · intro property json named
        rcases answerable.last property json named with
          ⟨lastJson, wanted, lastValue, isLast, wantedRead, lastValueRead, same⟩
        cases getLast.symm.trans isLast
        cases lastRead.symm.trans lastValueRead
        rcases (answered_iff property wanted).mpr ⟨rfl, same⟩ with ⟨response, found⟩
        exact ⟨wanted, response, wantedRead, found⟩
      · intro isAudio
        rcases last with ⟨property, json⟩
        cases isAudio
        rcases eq_readFirst_of_audio message split with ⟨rfl, named⟩
        have held := foldlM_audio setCameraProperties (property_readFirst message) first
        rw [held]
        exact answerable.audio json value named lastRead

end Message

end Camera

/-- A brightness and an audio that the camera takes. -/
def brightnessAndAudio : SetParameterMessage where
  values := [("camera", .object [("brightness", .number 5), ("audio", .bool true)])]
  camera := [("brightness", .number 5), ("audio", .bool true)]
  hasCamera := rfl

/-- The response of the audio replaces the one of the brightness. -/
theorem brightness_unanswered :
    ¬ ∃ update, onReceiveSetParameter (fun _ _ => true) {}
        (.object brightnessAndAudio.values) = some update ∧
      Answers (fun _ _ => true) brightnessAndAudio update := by
  rintro ⟨update, run, answers⟩
  cases run
  rcases answers.results .brightness (.number 5) rfl with ⟨_, _, _, same, _, present⟩
  cases same
  cases present

/-! ## The service -/

/-- What the delegate is told of, and whether there is a response. -/
theorem foldlM_effects {setCameraProperties : LGCastCameraProperty → Int → Bool}
    {requests : List CameraRequest} {update after : CameraUpdate}
    (run : requests.foldlM (setProperty setCameraProperties) update = some after) :
    after.response.isSome =
        (update.response.isSome || requests.any fun request => request.2.isSome) ∧
      after.changes = update.changes ++
        ((requests.filter fun request => request.2.isSome && request.1.isNotified).map
          Prod.fst) := by
  induction requests generalizing update with
  | nil =>
      cases run
      simp
  | cons request requests induction =>
      rcases request with ⟨property, _ | json⟩
      · simpa using induction run
      · rw [List.foldlM_cons, setProperty] at run
        rcases Option.bind_eq_some_iff.mp run with ⟨_, mapped, rest⟩
        rcases Option.map_eq_some_iff.mp mapped with ⟨value, _, rfl⟩
        rcases induction rest with ⟨response, changes⟩
        rw [response, changes]
        cases notified : property.isNotified <;> simp [notified]

/-- The service notifies its delegate and sends the response. -/
theorem onReceiveSetParameter_cast {setCameraProperties : LGCastCameraProperty → Int → Bool}
    {parameter : CameraParameter} {values : JSON} {update : CameraUpdate} (cast : LGCast)
    (received : onReceiveSetParameter setCameraProperties parameter values = some update) :
    RemoteCameraService.onReceiveSetParameter cast values =
      let cast := update.changes.foldl (fun cast _ => cast.notify .didChange) cast
      some (if update.response.isSome then cast.sendSetParameterResponse else cast) := by
  rcases Option.bind_eq_some_iff.mp received with ⟨camera, found, received⟩
  rw [RemoteCameraService.onReceiveSetParameter, found]
  cases camera with
  | none =>
      cases received
      rfl
  | some cameraObj =>
      rcases Option.bind_eq_some_iff.mp received with ⟨looked, requests, run⟩
      rcases Option.bind_eq_some_iff.mp requests with ⟨brightness, first, requests⟩
      rcases Option.bind_eq_some_iff.mp requests with ⟨whiteBalance, second, requests⟩
      rcases Option.bind_eq_some_iff.mp requests with ⟨autoWhiteBalance, third, requests⟩
      rcases Option.bind_eq_some_iff.mp requests with ⟨facing, fourth, requests⟩
      rcases Option.bind_eq_some_iff.mp requests with ⟨audio, fifth, same⟩
      cases same
      rcases foldlM_effects run with ⟨response, changes⟩
      simp only [Option.bind_eq_bind, Option.bind_some, first, second, third, fourth, fifth]
      rw [response, changes]
      cases brightness <;> cases whiteBalance <;>
        simp [LGCastCameraProperty.isNotified]
      split_ifs <;> rfl

end RemoteCameraParameters

end ConnectSDK
