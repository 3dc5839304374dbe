import ConnectSDK.Foundation.DecimalText
import ConnectSDK.Foundation.Dictionary
import ConnectSDK.Services.Commands.CommandCalls

/-! # The lists of a Netcast TV

How `NetcastTVService` asks for the apps and the channels of the TV. The XML reader makes a
dictionary of one element and an array of several of one name. The outer `none` of a result
is an exception.
-/

namespace ConnectSDK

structure AppInfo where
  id : Option String
  name : Option String
  rawData : JSON

structure ChannelInfo where
  id : Option String
  name : Option String
  number : String
  majorNumber : Int
  minorNumber : Int
  rawData : JSON

namespace NetcastTVService

/-- `[[info objectForKey:key] objectForKey:@"text"]`, which is a string unless the element
has a child of that name. -/
def textForKey (info : Option JSON) (key : String) : Option (Option String) :=
  (objectForKey info key).bind fun element =>
    (objectForKey element "text").bind fun text =>
      match text with
      | none => some none
      | some (.string text) => some (some text)
      | some _ => none

/-- `%@` of a string. -/
def printed (text : Option String) : String :=
  text.getD "(null)"

/-- `intValue` of a string, which is zero for `nil`. -/
def intValueOf (text : Option String) : Int :=
  (text.map intValue).getD 0

def channelInfoFromXML (info : JSON) : Option ChannelInfo :=
  (textForKey (some info) "physicalNum").bind fun id =>
    (textForKey (some info) "chname").bind fun name =>
      (textForKey (some info) "major").bind fun major =>
        (textForKey (some info) "minor").bind fun minor =>
          (textForKey (some info) "displayMajor").bind fun displayMajor =>
            (textForKey (some info) "displayMinor").map fun displayMinor =>
              { id, name
                number := printed major ++ "-" ++ printed minor
                majorNumber := intValueOf displayMajor
                minorNumber := intValueOf displayMinor
                rawData := info }

/-- `rawData[@"cpid"][@"text"] = @""`. -/
def clearContentId (rawData : JSON) : Option JSON :=
  match rawData with
  | .object fields =>
      match JSON.Fields.value? fields "cpid" with
      | none => some rawData
      | some (.object cpid) =>
          some (.object (JSON.Fields.set fields "cpid"
            (.object (JSON.Fields.set cpid "text" (.string "")))))
      | some _ => none
  | _ => none

def appInfoFromXML (info : JSON) : Option AppInfo :=
  (textForKey (some info) "name").bind fun name =>
    (textForKey (some info) "auid").bind fun id =>
      (clearContentId info).map fun rawData => { id, name, rawData }

/-- An element that stands for an app with an id. -/
structure AppEntry where
  element : JSON
  appInfo : AppInfo
  id : String
  read : appInfoFromXML element = some appInfo
  identified : appInfo.id = some id

/-- An element that stands for a channel. -/
structure ChannelEntry where
  element : JSON
  channelInfo : ChannelInfo
  read : channelInfoFromXML element = some channelInfo

/-- What the TV has. -/
structure NetcastTV where
  premiumApps : List AppEntry
  myApps : List AppEntry
  channels : List ChannelEntry
  distinctApps : ((premiumApps ++ myApps).map AppEntry.id).Nodup
  distinctChannels : (channels.map fun channel => channel.channelInfo.number).Nodup

inductive NetcastDataRequest where
  | appNumber (type : Int)
  | appList (type index number : Int)
  | channelList

/-- What the XML reader keeps under the name of repeated elements. -/
def repeated : List JSON → Option JSON
  | [] => none
  | [element] => some element
  | elements => some (.array elements)

def dataReply (data : Option JSON) : JSON :=
  .object [("envelope", .object [("dataList", .object (JSON.Fields.setIfSome [] "data" data))])]

namespace NetcastTV

def apps (tv : NetcastTV) (type : Int) : List AppEntry :=
  if type = 2 then tv.premiumApps else if type = 3 then tv.myApps else []

/-- What `callbackComplete` of a request is given. -/
def reply (tv : NetcastTV) : NetcastDataRequest → JSON
  | .appNumber type =>
      dataReply (some (.object
        [("number", .object [("text", .string (tv.apps type).length.repr)])]))
  | .appList type _ _ => dataReply (repeated ((tv.apps type).map AppEntry.element))
  | .channelList => dataReply (repeated (tv.channels.map ChannelEntry.element))

end NetcastTV

/-- `[[[responseDic objectForKey:@"envelope"] objectForKey:@"dataList"]
objectForKey:@"data"]`. -/
def responseData (responseDic : JSON) : Option (Option JSON) :=
  (objectForKey (some responseDic) "envelope").bind fun envelope =>
    (objectForKey envelope "dataList").bind fun dataList => objectForKey dataList "data"

/-- What `enumerateObjectsUsingBlock:` enumerates. A dictionary does not understand it. -/
def enumerated : Option JSON → Option (List JSON)
  | none => some []
  | some (.array elements) => some elements
  | some _ => none

abbrev AppListCall := CommandCall (List AppInfo)

/-- A command that is answered by the TV calls one of two blocks. -/
def getNumberOfAppsForType (tv : NetcastTV) (type : Int)
    (success : Int → Option (List AppListCall)) (failure : NSError → List AppListCall) :
    Option (List AppListCall) :=
  (responseData (tv.reply (.appNumber type))).bind fun rawResponse =>
    (textForKey rawResponse "number").bind fun numberOfApps =>
      let numberOfAppsInt := intValueOf numberOfApps
      if numberOfAppsInt = 0 then
        some (failure (ConnectError.generateErrorWithCode (fun _ => "") .tvError
          (some (.string ""))))
      else success numberOfAppsInt

def getAppListForType (tv : NetcastTV) (type numberOfApps : Int)
    (success : List AppInfo → Option (List AppListCall)) : Option (List AppListCall) :=
  (responseData (tv.reply (.appList type 1 numberOfApps))).bind fun rawApps =>
    (enumerated rawApps).bind fun elements =>
      (elements.mapM appInfoFromXML).bind success

/-- `[allApps setObject:appInfo forKey:appInfo.id]`. -/
def setApp (allApps : Dictionary String AppInfo) (appInfo : AppInfo) :
    Option (Dictionary String AppInfo) :=
  appInfo.id.map fun id => allApps.insert id appInfo

def getAppListWithSuccess (tv : NetcastTV) (callbacks : SetCallbacks) :
    Option (List AppListCall) :=
  let failure error := callbacks.invoke (.callbackError error)
  getNumberOfAppsForType tv 2 (fun premiumAppsCount =>
    getNumberOfAppsForType tv 3 (fun myAppsCount =>
      getAppListForType tv 2 premiumAppsCount fun premiumApps =>
        getAppListForType tv 3 myAppsCount fun myApps =>
          (premiumApps.foldlM setApp ∅).bind fun allApps =>
            (myApps.foldlM setApp allApps).map fun allApps =>
              callbacks.invoke (.callbackComplete allApps.values)) failure) failure

def getChannelListWithSuccess (tv : NetcastTV) (callbacks : SetCallbacks) :
    Option (List (CommandCall (List ChannelInfo))) :=
  (responseData (tv.reply .channelList)).bind fun rawChannelObject =>
    let rawChannels :=
      match rawChannelObject with
      | some (.array channels) => channels
      | _ => []
    let first :=
      match rawChannelObject with
      | some (.array _) => []
      | _ => callbacks.invoke (.callbackComplete [])
    (rawChannels.mapM channelInfoFromXML).map fun channels =>
      let channelList := Dictionary.insertAll
        (channels.map fun channel => (channel.number, channel)) ∅
      first ++ callbacks.invoke (.callbackComplete channelList.values)

/-- The success block is called once with the items, in any order. -/
def Delivers {Item : Type}
    (calls : SetCallbacks → Option (List (CommandCall (List Item)))) (items : List Item) :
    Prop :=
  ∃ result : List Item, result.Perm items ∧
    ∀ callbacks, calls callbacks = some (callbacks.invoke (.callbackComplete result))

/-! ## Replies -/

@[simp] theorem responseData_dataReply (data : Option JSON) :
    responseData (dataReply data) = some data := by
  cases data <;> rfl

/-- Only a dictionary can be read. -/
theorem AppEntry.enumerated_element (entry : AppEntry) :
    enumerated (some entry.element) = none := by
  rcases entry with ⟨element, _, _, read, _⟩
  cases element with
  | array elements => cases read
  | _ => rfl

theorem enumerated_repeated {entries : List AppEntry} (several : entries.length ≠ 1) :
    enumerated (repeated (entries.map AppEntry.element)) =
      some (entries.map AppEntry.element) := by
  cases entries with
  | nil => rfl
  | cons first rest =>
      cases rest with
      | nil => exact absurd rfl several
      | cons second rest => rfl

/-- Elements that can be read are read one by one. -/
theorem mapM_elements {Entry Info : Type} {fromXML : JSON → Option Info}
    {element : Entry → JSON} {info : Entry → Info}
    (reads : ∀ entry, fromXML (element entry) = some (info entry)) (entries : List Entry) :
    (entries.map element).mapM fromXML = some (entries.map info) := by
  induction entries with
  | nil => rfl
  | cons entry rest induction =>
      rw [List.map_cons, List.mapM_cons, reads, induction]
      rfl

/-! ## Apps -/

/-- No apps are taken for an error. -/
theorem getNumberOfAppsForType_of_nil {tv : NetcastTV} {type : Int}
    (none : tv.apps type = []) (success : Int → Option (List AppListCall))
    (failure : NSError → List AppListCall) :
    getNumberOfAppsForType tv type success failure =
      some (failure (ConnectError.generateErrorWithCode (fun _ => "") .tvError
        (some (.string "")))) := by
  rw [getNumberOfAppsForType, NetcastTV.reply, responseData_dataReply, none]
  rfl

theorem getNumberOfAppsForType_of_ne_nil {tv : NetcastTV} {type : Int}
    (some : tv.apps type ≠ []) (success : Int → Option (List AppListCall))
    (failure : NSError → List AppListCall) :
    getNumberOfAppsForType tv type success failure =
      success (intValue (tv.apps type).length.repr) := by
  have counted : intValue (tv.apps type).length.repr ≠ 0 := by
    rw [Ne, intValue_repr_eq_zero_iff, List.length_eq_zero_iff]
    exact some
  simp [getNumberOfAppsForType, NetcastTV.reply, textForKey, objectForKey, intValueOf,
    JSON.Fields.value?_cons, counted]

/-- One app raises an exception. -/
theorem getAppListForType_of_single {tv : NetcastTV} {type : Int} {entry : AppEntry}
    (single : tv.apps type = [entry]) (number : Int)
    (success : List AppInfo → Option (List AppListCall)) :
    getAppListForType tv type number success = none := by
  rw [getAppListForType, NetcastTV.reply, responseData_dataReply, single, List.map_singleton,
    repeated, Option.bind_some, entry.enumerated_element, Option.bind_none]

theorem getAppListForType_of_several {tv : NetcastTV} {type : Int}
    (several : (tv.apps type).length ≠ 1) (number : Int)
    (success : List AppInfo → Option (List AppListCall)) :
    getAppListForType tv type number success =
      success ((tv.apps type).map AppEntry.appInfo) := by
  rw [getAppListForType, NetcastTV.reply, responseData_dataReply, Option.bind_some,
    enumerated_repeated several, Option.bind_some, mapM_elements AppEntry.read,
    Option.bind_some]

theorem foldlM_setApp (entries : List AppEntry) (allApps : Dictionary String AppInfo) :
    (entries.map AppEntry.appInfo).foldlM setApp allApps =
      some (allApps.insertAll (entries.map fun entry => (entry.id, entry.appInfo))) := by
  induction entries generalizing allApps with
  | nil => rfl
  | cons entry rest induction =>
      rw [List.map_cons, List.foldlM_cons, setApp, entry.identified, Option.map_some,
        Option.bind_eq_bind, Option.bind_some, induction]
      rfl

theorem not_delivers_of_error {Item : Type}
    {calls : SetCallbacks → Option (List (CommandCall (List Item)))} {items : List Item}
    (failed : ∃ error, calls {} = some [.callbackError error]) : ¬ Delivers calls items := by
  intro delivers
  rcases failed with ⟨error, failed⟩
  rcases delivers with ⟨result, _, called⟩
  have all := (called {}).symm.trans failed
  rw [SetCallbacks.invoke_all] at all
  cases all

theorem not_delivers_of_exception {Item : Type}
    {calls : SetCallbacks → Option (List (CommandCall (List Item)))} {items : List Item}
    (raised : calls {} = none) : ¬ Delivers calls items := by
  intro delivers
  rcases delivers with ⟨result, _, called⟩
  cases (called {}).symm.trans raised

/-- The apps of both types, each under its id. -/
def allApps (tv : NetcastTV) : Dictionary String AppInfo :=
  Dictionary.insertAll ((tv.premiumApps ++ tv.myApps).map fun entry =>
    (entry.id, entry.appInfo)) ∅

theorem allApps_perm (tv : NetcastTV) :
    (allApps tv).values.Perm ((tv.premiumApps ++ tv.myApps).map AppEntry.appInfo) :=
  Dictionary.values_insertAll_items_perm AppEntry.id AppEntry.appInfo tv.distinctApps

/-- Without apps of a type there is an error. -/
theorem getAppListWithSuccess_of_nil {tv : NetcastTV}
    (none : tv.premiumApps = [] ∨ tv.myApps = []) :
    ∃ error, getAppListWithSuccess tv {} = some [.callbackError error] := by
  by_cases premium : tv.apps 2 = []
  · exact ⟨_, by rw [getAppListWithSuccess, getNumberOfAppsForType_of_nil premium]; rfl⟩
  · have mine : tv.apps 3 = [] := none.resolve_left premium
    exact ⟨_, by
      rw [getAppListWithSuccess, getNumberOfAppsForType_of_ne_nil premium,
        getNumberOfAppsForType_of_nil mine]
      rfl⟩

/-- With a single app of a type there is an exception. -/
theorem getAppListWithSuccess_of_single {tv : NetcastTV} (premium : tv.premiumApps ≠ [])
    (mine : tv.myApps ≠ [])
    (single : tv.premiumApps.length = 1 ∨ tv.myApps.length = 1) (callbacks : SetCallbacks) :
    getAppListWithSuccess tv callbacks = none := by
  have somePremium : tv.apps 2 ≠ [] := premium
  have someMine : tv.apps 3 ≠ [] := mine
  rw [getAppListWithSuccess, getNumberOfAppsForType_of_ne_nil somePremium,
    getNumberOfAppsForType_of_ne_nil someMine]
  by_cases one : (tv.apps 2).length = 1
  · rcases List.length_eq_one_iff.mp one with ⟨entry, alone⟩
    rw [getAppListForType_of_single alone]
  · have mySingle : (tv.apps 3).length = 1 := single.resolve_left one
    rcases List.length_eq_one_iff.mp mySingle with ⟨entry, alone⟩
    rw [getAppListForType_of_several one, getAppListForType_of_single alone]

theorem getAppListWithSuccess_of_several {tv : NetcastTV}
    (premium : 2 ≤ tv.premiumApps.length) (mine : 2 ≤ tv.myApps.length)
    (callbacks : SetCallbacks) :
    getAppListWithSuccess tv callbacks =
      some (callbacks.invoke (.callbackComplete (allApps tv).values)) := by
  have premiumType : tv.apps 2 = tv.premiumApps := rfl
  have myType : tv.apps 3 = tv.myApps := rfl
  have somePremium : tv.premiumApps ≠ [] := List.ne_nil_of_length_pos (by omega)
  have someMine : tv.myApps ≠ [] := List.ne_nil_of_length_pos (by omega)
  rw [← premiumType] at premium somePremium
  rw [← myType] at mine someMine
  rw [getAppListWithSuccess, getNumberOfAppsForType_of_ne_nil somePremium,
    getNumberOfAppsForType_of_ne_nil someMine,
    getAppListForType_of_several (by omega), getAppListForType_of_several (by omega),
    premiumType, myType, foldlM_setApp, Option.bind_some, foldlM_setApp, Option.map_some,
    allApps, List.map_append, Dictionary.insertAll, Dictionary.insertAll,
    Dictionary.insertAll, List.foldl_append]

/-- The apps are delivered exactly if there are at least two of each type. -/
theorem getAppListWithSuccess_delivers_iff (tv : NetcastTV) :
    Delivers (getAppListWithSuccess tv)
        ((tv.premiumApps ++ tv.myApps).map AppEntry.appInfo) ↔
      2 ≤ tv.premiumApps.length ∧ 2 ≤ tv.myApps.length := by
  constructor
  · intro delivers
    have premium : tv.premiumApps ≠ [] := fun none =>
      not_delivers_of_error (getAppListWithSuccess_of_nil (Or.inl none)) delivers
    have mine : tv.myApps ≠ [] := fun none =>
      not_delivers_of_error (getAppListWithSuccess_of_nil (Or.inr none)) delivers
    have several : ¬ (tv.premiumApps.length = 1 ∨ tv.myApps.length = 1) := fun single =>
      not_delivers_of_exception
        (getAppListWithSuccess_of_single premium mine single {}) delivers
    have premiumLength := List.length_pos_of_ne_nil premium
    have myLength := List.length_pos_of_ne_nil mine
    omega
  · intro several
    exact ⟨_, allApps_perm tv, getAppListWithSuccess_of_several several.1 several.2⟩

/-! ## Channels -/

theorem channelList_perm (tv : NetcastTV) :
    (Dictionary.insertAll ((tv.channels.map ChannelEntry.channelInfo).map fun channel =>
      (channel.number, channel)) ∅).values.Perm
        (tv.channels.map ChannelEntry.channelInfo) := by
  rw [List.map_map]
  exact Dictionary.values_insertAll_items_perm (fun channel => channel.channelInfo.number)
    ChannelEntry.channelInfo tv.distinctChannels

/-- Up to one channel is not in an array, and the success block is called twice. -/
theorem getChannelListWithSuccess_of_few {tv : NetcastTV} (few : tv.channels.length < 2) :
    getChannelListWithSuccess tv {} = some [.callbackComplete [], .callbackComplete []] := by
  cases listed : tv.channels with
  | nil =>
      rw [getChannelListWithSuccess, NetcastTV.reply, responseData_dataReply, listed]
      rfl
  | cons entry rest =>
      have alone : rest = [] := by
        rw [listed, List.length_cons] at few
        exact List.eq_nil_of_length_eq_zero (by omega)
      rw [getChannelListWithSuccess, NetcastTV.reply, responseData_dataReply, listed, alone,
        List.map_singleton, repeated, Option.bind_some]
      rcases entry with ⟨element, _, read⟩
      cases element with
      | array elements => cases read
      | _ => rfl

theorem getChannelListWithSuccess_of_several {tv : NetcastTV} (several : 2 ≤ tv.channels.length)
    (callbacks : SetCallbacks) :
    getChannelListWithSuccess tv callbacks =
      some (callbacks.invoke (.callbackComplete
        (Dictionary.insertAll ((tv.channels.map ChannelEntry.channelInfo).map fun channel =>
          (channel.number, channel)) ∅).values)) := by
  have array : repeated (tv.channels.map ChannelEntry.element) =
      some (.array (tv.channels.map ChannelEntry.element)) := by
    cases listed : tv.channels with
    | nil => exact absurd several (by simp [listed])
    | cons first rest =>
        cases rest with
        | nil => exact absurd several (by simp [listed])
        | cons second rest => rfl
  rw [getChannelListWithSuccess, NetcastTV.reply, responseData_dataReply, Option.bind_some,
    array]
  dsimp only
  rw [mapM_elements ChannelEntry.read, Option.map_some, List.nil_append]

theorem getChannelListWithSuccess_delivers_iff (tv : NetcastTV) :
    Delivers (getChannelListWithSuccess tv) (tv.channels.map ChannelEntry.channelInfo) ↔
      2 ≤ tv.channels.length := by
  constructor
  · intro delivers
    by_contra few
    rcases delivers with ⟨result, _, called⟩
    have twice := (called {}).symm.trans (getChannelListWithSuccess_of_few (by omega))
    rw [SetCallbacks.invoke_all] at twice
    cases twice
  · intro several
    exact ⟨_, channelList_perm tv, getChannelListWithSuccess_of_several several⟩

/-- The lists are delivered exactly if there are at least two apps of each type, and at
least two channels. -/
theorem lists_deliver_iff (tv : NetcastTV) :
    (Delivers (getAppListWithSuccess tv)
        ((tv.premiumApps ++ tv.myApps).map AppEntry.appInfo) ↔
      2 ≤ tv.premiumApps.length ∧ 2 ≤ tv.myApps.length) ∧
    (Delivers (getChannelListWithSuccess tv) (tv.channels.map ChannelEntry.channelInfo) ↔
      2 ≤ tv.channels.length) :=
  ⟨getAppListWithSuccess_delivers_iff tv, getChannelListWithSuccess_delivers_iff tv⟩

/-- A TV with one app of each type and one channel. -/
def singleTV : NetcastTV :=
  let text (value : String) : JSON := .object [("text", .string value)]
  let app (id name : String) : JSON := .object [("auid", text id), ("name", text name)]
  { premiumApps :=
      [{ element := app "0001" "YouTube"
         appInfo := { id := some "0001", name := some "YouTube", rawData := app "0001" "YouTube" }
         id := "0001"
         read := rfl
         identified := rfl }]
    myApps :=
      [{ element := app "0002" "Browser"
         appInfo := { id := some "0002", name := some "Browser", rawData := app "0002" "Browser" }
         id := "0002"
         read := rfl
         identified := rfl }]
    channels :=
      [{ element := .object [("major", text "7"), ("minor", text "1")]
         channelInfo :=
           { id := none, name := none, number := "7-1", majorNumber := 0, minorNumber := 0,
             rawData := .object [("major", text "7"), ("minor", text "1")] }
         read := rfl }]
    distinctApps := by decide
    distinctChannels := by decide }

theorem single_lists_not_delivered :
    ¬ Delivers (getAppListWithSuccess singleTV)
        ((singleTV.premiumApps ++ singleTV.myApps).map AppEntry.appInfo) ∧
      ¬ Delivers (getChannelListWithSuccess singleTV)
        (singleTV.channels.map ChannelEntry.channelInfo) := by
  constructor
  · exact not_delivers_of_exception (getAppListWithSuccess_of_single (List.cons_ne_nil _ _)
      (List.cons_ne_nil _ _) (Or.inl rfl) {})
  · intro delivers
    rcases delivers with ⟨result, _, called⟩
    have twice := (called {}).symm.trans (getChannelListWithSuccess_of_few (by decide))
    rw [SetCallbacks.invoke_all] at twice
    cases twice

end NetcastTVService

end ConnectSDK
