import Mathlib.Data.Finset.Max
import ConnectSDK.Foundation.PartialMaps
import ConnectSDK.Helpers.UrlEscapes
import ConnectSDK.Services.NetcastLists
import ConnectSDK.Services.Sessions.LaunchSession

/-! # Parameters of a launch

`RokuService` appends the parameters of an app to the URL that launches it. What the
Foundation makes of a URL is left open.
-/

namespace ConnectSDK

structure NSURLOperations (URL : Type u) where
  appendingPathComponent : URL → String → URL
  absoluteString : URL → String
  withString : String → Option URL

/-- The command that launches an app, and the session that its success gives. -/
structure LaunchCommand (URL : Type u) where
  target : Option URL
  launchSession : LaunchSession

namespace RokuService

/-- One entry of the parameters. Its prefix depends on the entries counted before. -/
def appendParameter (query : String × Int32) (key value : String) : String × Int32 :=
  let separator := if query.2 = 0 then "?" else "&"
  let urlSafeKey := ConnectUtil.urlEncode key
  let urlSafeValue := ConnectUtil.urlEncode value
  let appendString := separator ++ urlSafeKey ++ "=" ++ urlSafeValue
  (query.1 ++ appendString, query.2 + 1)

def queryParams (params : Dictionary String String) : String :=
  (params.entries.foldl (fun query entry => appendParameter query entry.1 entry.2)
    ("", 0)).1

section Launch

variable {URL : Type u} (urls : NSURLOperations URL) (collection : JSON → String)

def launchTarget (commandURL : Option URL) (appId : String)
    (params : Option (Dictionary String String)) : Option URL :=
  let targetURL := commandURL.map fun url => urls.appendingPathComponent url "launch"
  let targetURL := targetURL.map fun url => urls.appendingPathComponent url appId
  match params with
  | none => targetURL
  | some params =>
      let absoluteString := (targetURL.map urls.absoluteString).getD "(null)"
      urls.withString (absoluteString ++ queryParams params)

/-- `launchAppWithInfo:params:success:failure:`, the failure block called at once or a
command sent. -/
def launchAppWithInfo (service : DeviceService) (commandURL : Option URL)
    (appInfo : Option AppInfo) (params : Option (Dictionary String String)) :
    Except NSError (LaunchCommand URL) :=
  match appInfo.bind fun info => info.id.map fun id => (info, id) with
  | none => .error (ConnectError.generateErrorWithCode collection .argumentError
      (some (.string "You must provide a valid AppInfo object.")))
  | some (info, id) => .ok
      { target := launchTarget urls commandURL id params
        launchSession :=
          { LaunchSession.launchSessionForAppId (some id) with
            name := info.name
            sessionType := .app
            service := some service } }

end Launch

/-! ## Reading the query -/

def IsSeparator (character : Char) : Bool :=
  character = '?' || character = '&'

/-- A key and a value, cut at the first equals sign. -/
def readParameter (part : List Char) : Option (String × String) :=
  match part.dropWhile (· ≠ '=') with
  | [] => none
  | _ :: value =>
      (ConnectUtil.urlDecode (String.ofList (part.takeWhile (· ≠ '=')))).bind fun key =>
        (ConnectUtil.urlDecode (String.ofList value)).map fun value => (key, value)

/-- The parts that follow the separators. -/
def readParameters (query : String) : Option (Dictionary String String) :=
  ((query.toList.splitOnP IsSeparator).tail.mapM readParameter).map fun entries =>
    Dictionary.insertAll entries ∅

def ReadBack (params : Dictionary String String) : Prop :=
  ∃ read, readParameters (queryParams params) = some read ∧ read.SameEntries params

/-! ## Parts -/

def parameterPart (entry : Sigma fun _ : String => String) : List Char :=
  (ConnectUtil.urlEncode entry.1).toList ++ '=' :: (ConnectUtil.urlEncode entry.2).toList

theorem not_mem_parameterPart {separator : Char} (digit : hexValue? separator = none)
    (other : separator.isAlphanum = false) (percent : separator ≠ '%')
    (equals : separator ≠ '=') (entry : Sigma fun _ : String => String) :
    separator ∉ parameterPart entry := by
  have absent (text : String) : separator ∉ (ConnectUtil.urlEncode text).toList :=
    (ConnectUtil.onlyEscapes_urlEncode text).not_mem digit other percent
  rw [parameterPart, List.mem_append, List.mem_cons]
  rintro (key | same | value)
  · exact absent entry.1 key
  · exact equals same
  · exact absent entry.2 value

theorem isSeparator_of_mem_parameterPart (entry : Sigma fun _ : String => String)
    (character : Char) (member : character ∈ parameterPart entry) :
    IsSeparator character = false := by
  have question : '?' ∉ parameterPart entry :=
    not_mem_parameterPart (by decide) (by decide) (by decide) (by decide) entry
  have ampersand : '&' ∉ parameterPart entry :=
    not_mem_parameterPart (by decide) (by decide) (by decide) (by decide) entry
  rw [IsSeparator, Bool.or_eq_false_iff, decide_eq_false_iff_not, decide_eq_false_iff_not]
  exact ⟨fun same => question (same ▸ member), fun same => ampersand (same ▸ member)⟩

theorem toList_appendParameter (query : String × Int32)
    (entry : Sigma fun _ : String => String) :
    (appendParameter query entry.1 entry.2).1.toList =
      query.1.toList ++ (if query.2 = 0 then '?' else '&') :: parameterPart entry := by
  have separator : (if query.2 = 0 then "?" else "&").toList =
      [if query.2 = 0 then '?' else '&'] := by
    split <;> rfl
  have equals : "=".toList = ['='] := rfl
  rw [appendParameter, parameterPart]
  dsimp only
  rw [String.toList_append, String.toList_append, String.toList_append, String.toList_append,
    separator, equals, List.append_assoc, List.append_assoc, List.singleton_append,
    List.singleton_append]

/-- Whatever its prefix, an entry adds one part. -/
theorem splitOnP_appendParameter (query : String × Int32)
    (entry : Sigma fun _ : String => String) :
    (appendParameter query entry.1 entry.2).1.toList.splitOnP IsSeparator =
      query.1.toList.splitOnP IsSeparator ++ [parameterPart entry] := by
  have separates : IsSeparator (if query.2 = 0 then '?' else '&') = true := by
    split <;> rfl
  rw [toList_appendParameter, List.splitOnP_append_cons _ _ separates,
    List.splitOnP_eq_singleton (isSeparator_of_mem_parameterPart entry)]

theorem splitOnP_foldl_appendParameter (entries : List (Sigma fun _ : String => String))
    (query : String × Int32) :
    (entries.foldl (fun query entry => appendParameter query entry.1 entry.2)
        query).1.toList.splitOnP IsSeparator =
      query.1.toList.splitOnP IsSeparator ++ entries.map parameterPart := by
  induction entries generalizing query with
  | nil => exact (List.append_nil _).symm
  | cons entry rest induction =>
      rw [List.foldl_cons, induction, splitOnP_appendParameter, List.append_assoc,
        List.singleton_append, List.map_cons]

theorem splitOnP_queryParams (params : Dictionary String String) :
    (queryParams params).toList.splitOnP IsSeparator =
      [] :: params.entries.map parameterPart :=
  splitOnP_foldl_appendParameter params.entries ("", 0)

/-! ## Entries -/

def readEntry (entry : Sigma fun _ : String => String) : Option (String × String) :=
  (ConnectUtil.urlDecode (ConnectUtil.urlEncode entry.1)).bind fun key =>
    (ConnectUtil.urlDecode (ConnectUtil.urlEncode entry.2)).map fun value => (key, value)

theorem readParameter_parameterPart (entry : Sigma fun _ : String => String) :
    readParameter (parameterPart entry) = readEntry entry := by
  have absent : '=' ∉ (ConnectUtil.urlEncode entry.1).toList :=
    (ConnectUtil.onlyEscapes_urlEncode entry.1).not_mem (by decide) (by decide) (by decide)
  have free : ∀ character ∈ (ConnectUtil.urlEncode entry.1).toList,
      decide (character ≠ '=') = true :=
    fun character member => decide_eq_true fun same => absent (same ▸ member)
  rw [readParameter, parameterPart, List.dropWhile_append_of_pos free,
    List.takeWhile_append_of_pos free]
  simp [readEntry]

theorem readParameters_queryParams (params : Dictionary String String) :
    readParameters (queryParams params) =
      (params.entries.mapM readEntry).map fun entries => Dictionary.insertAll entries ∅ := by
  have reads : readParameter ∘ parameterPart = readEntry :=
    funext fun entry => by rw [Function.comp_apply, readParameter_parameterPart]
  rw [readParameters, splitOnP_queryParams, List.tail_cons, List.mapM_map, reads]

theorem readEntry_eq_some_iff {entry : Sigma fun _ : String => String}
    {read : String × String} :
    readEntry entry = some read ↔
      ConnectUtil.urlDecode (ConnectUtil.urlEncode entry.1) = some read.1 ∧
        ConnectUtil.urlDecode (ConnectUtil.urlEncode entry.2) = some read.2 := by
  rw [readEntry]
  generalize ConnectUtil.urlDecode (ConnectUtil.urlEncode entry.1) = decodedKey
  generalize ConnectUtil.urlDecode (ConnectUtil.urlEncode entry.2) = decodedValue
  rw [Option.bind_eq_some_iff]
  constructor
  · rintro ⟨key, keyRead, valueRead⟩
    rcases Option.map_eq_some_iff.mp valueRead with ⟨value, same, rfl⟩
    exact ⟨keyRead, same⟩
  · rintro ⟨keyRead, valueRead⟩
    exact ⟨read.1, keyRead, Option.map_eq_some_iff.mpr ⟨read.2, valueRead, rfl⟩⟩

/-! ## Round trips -/

def EncodableParams (params : Dictionary String String) : Prop :=
  ∀ entry ∈ params.entries,
    ConnectUtil.Encodable entry.1 ∧ ConnectUtil.Encodable entry.2

theorem EncodableParams.readBack {params : Dictionary String String}
    (encodable : EncodableParams params) : ReadBack params := by
  have read : params.entries.mapM readEntry =
      some (params.entries.map fun entry => (entry.1, entry.2)) := by
    have each : ∀ entry ∈ params.entries, readEntry entry = some (entry.1, entry.2) := by
      intro entry member
      rw [readEntry_eq_some_iff, ConnectUtil.urlDecode_urlEncode_iff,
        ConnectUtil.urlDecode_urlEncode_iff]
      exact encodable entry member
    generalize params.entries = entries at each
    induction entries with
    | nil => rfl
    | cons entry rest induction =>
        rw [List.forall_mem_cons] at each
        rw [List.mapM_cons, each.1, induction each.2]
        rfl
  refine ⟨_, by rw [readParameters_queryParams, read]; rfl, ?_⟩
  exact Dictionary.sameEntries_insertAll_entries params

section Read

variable {params : Dictionary String String} {results : List (String × String)}
  (read : List.Forall₂ (fun entry result => readEntry entry = some result) params.entries
    results)
  (same : (Dictionary.insertAll results ∅).SameEntries params)
include read

/-- Every result is read from an entry. -/
theorem entry_of_result {result : String × String} (member : result ∈ results) :
    ∃ entry ∈ params.entries, readEntry entry = some result := by
  rcases List.mem_iff_getElem.mp member with ⟨index, inside, rfl⟩
  have length := read.length_eq
  refine ⟨params.entries[index], List.getElem_mem _, ?_⟩
  exact read.get (length ▸ inside) inside

theorem result_of_entry {entry : Sigma fun _ : String => String}
    (member : entry ∈ params.entries) :
    ∃ result ∈ results, readEntry entry = some result := by
  rcases List.mem_iff_getElem.mp member with ⟨index, inside, rfl⟩
  have length := read.length_eq
  exact ⟨results[index], List.getElem_mem _, read.get inside (length ▸ inside)⟩

include same

/-- A key that is not read as itself is read from a longer one. -/
theorem longer_key {entry : Sigma fun _ : String => String} (member : entry ∈ params.entries)
    (lost : ¬ ConnectUtil.Encodable entry.1) :
    ∃ other ∈ params.entries, ¬ ConnectUtil.Encodable other.1 ∧
      (utf8Bytes entry.1).length < (utf8Bytes other.1).length := by
  have held := (same entry.1).trans (Dictionary.mem_entries_iff.mp member)
  rcases Dictionary.lookup_insertAll held with inside | absent
  · rcases entry_of_result read inside with ⟨other, among, reads⟩
    have decoded := (readEntry_eq_some_iff.mp reads).1
    have different : entry.1 ≠ other.1 := by
      intro equal
      rw [← equal] at decoded
      exact lost ((ConnectUtil.urlDecode_urlEncode_iff entry.1).mp decoded)
    refine ⟨other, among, fun encodable => different ?_,
      ConnectUtil.utf8Bytes_length_lt decoded different⟩
    rw [(ConnectUtil.urlDecode_urlEncode_iff other.1).mpr encodable] at decoded
    exact (Option.some.inj decoded).symm
  · cases absent

/-- There is no longest key that is not read as itself. -/
theorem encodable_keys {entry : Sigma fun _ : String => String}
    (member : entry ∈ params.entries) : ConnectUtil.Encodable entry.1 := by
  classical
  by_contra lost
  let losts := params.entries.toFinset.filter fun entry =>
    ¬ ConnectUtil.Encodable entry.1
  have mem_losts {entry : Sigma fun _ : String => String} : entry ∈ losts ↔
      entry ∈ params.entries ∧ ¬ ConnectUtil.Encodable entry.1 := by
    rw [Finset.mem_filter, List.mem_toFinset]
  rcases losts.exists_max_image (fun entry => (utf8Bytes entry.1).length)
    ⟨entry, mem_losts.mpr ⟨member, lost⟩⟩ with ⟨longest, isLost, most⟩
  have parts := mem_losts.mp isLost
  rcases longer_key read same parts.1 parts.2 with ⟨other, among, otherLost, longer⟩
  exact Nat.not_lt_of_le (most other (mem_losts.mpr ⟨among, otherLost⟩)) longer

theorem encodable_values {entry : Sigma fun _ : String => String}
    (member : entry ∈ params.entries) : ConnectUtil.Encodable entry.2 := by
  have keyed {entry : Sigma fun _ : String => String} {result : String × String}
      (member : entry ∈ params.entries) (reads : readEntry entry = some result) :
      entry.1 = result.1 := by
    have encodable := encodable_keys read same member
    have decoded := (readEntry_eq_some_iff.mp reads).1
    rw [(ConnectUtil.urlDecode_urlEncode_iff entry.1).mpr encodable] at decoded
    exact Option.some.inj decoded
  rcases result_of_entry read member with ⟨⟨key, value⟩, inside, reads⟩
  cases keyed member reads
  have only : ∀ other, (entry.1, other) ∈ results → other = value := by
    intro other otherInside
    rcases entry_of_result read otherInside with ⟨source, among, otherReads⟩
    have sameKey := keyed among otherReads
    have held := Dictionary.mem_entries_iff.mp among
    rw [sameKey, Dictionary.mem_entries_iff.mp member] at held
    have sameEntry : source = entry := Sigma.ext sameKey (heq_of_eq (Option.some.inj held).symm)
    rw [sameEntry, reads] at otherReads
    exact (congrArg Prod.snd (Option.some.inj otherReads)).symm
  have held := (same entry.1).trans (Dictionary.mem_entries_iff.mp member)
  rw [Dictionary.lookup_insertAll_of_mem inside only] at held
  have decoded := (readEntry_eq_some_iff.mp reads).2
  dsimp only at decoded
  rw [Option.some.inj held] at decoded
  exact (ConnectUtil.urlDecode_urlEncode_iff entry.2).mp decoded

end Read

/-- The parameters are read back exactly if each key and each value is. -/
theorem readBack_iff (params : Dictionary String String) :
    ReadBack params ↔ EncodableParams params := by
  refine ⟨fun readBack => ?_, EncodableParams.readBack⟩
  rcases readBack with ⟨read, isRead, same⟩
  rw [readParameters_queryParams] at isRead
  rcases Option.map_eq_some_iff.mp isRead with ⟨results, mapped, rfl⟩
  have each := forall₂_of_mapM_eq_some mapped
  exact fun entry member =>
    ⟨encodable_keys each same member, encodable_values each same member⟩

/-- What a launch appends to its target is read back as the parameters exactly if no key
and no value ends as a C string or is too long for an `int`. -/
theorem launch_parameters_read_iff {URL : Type u} (urls : NSURLOperations URL)
    (collection : JSON → String) (service : DeviceService) (commandURL : Option URL)
    (appInfo : AppInfo) (id : String) (params : Dictionary String String) :
    (∃ command base, launchAppWithInfo urls collection service commandURL
        (some { appInfo with id := some id }) (some params) = .ok command ∧
      command.target = urls.withString (base ++ queryParams params)) ∧
    (ReadBack params ↔ EncodableParams params) :=
  ⟨⟨_, _, rfl, rfl⟩, readBack_iff params⟩

/-- A key of 2 GiB is written as the empty key. -/
theorem long_key_not_read :
    (∀ entry ∈ (AList.singleton (String.ofList (List.replicate 2147483648 'a')) "" :
        Dictionary String String).entries,
      Char.ofNat 0 ∉ entry.1.toList ∧ Char.ofNat 0 ∉ entry.2.toList) ∧
    ¬ ReadBack (AList.singleton (String.ofList (List.replicate 2147483648 'a')) "") := by
  constructor
  · intro entry member
    rw [List.mem_singleton.mp member]
    exact ⟨ConnectUtil.zero_not_mem_replicate 2147483648, List.not_mem_nil⟩
  · rw [readBack_iff]
    intro encodable
    exact ConnectUtil.not_encodable_replicate (Nat.le_refl _)
      (encodable _ (List.mem_singleton.mpr rfl)).1

end RokuService

end ConnectSDK
