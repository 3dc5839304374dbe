import Mathlib.Data.List.TakeWhile
import ConnectSDK.Services.DLNAServiceList
import ConnectSDK.Services.Helpers.DLNAHTTPServer

/-! # Keys of events

A subscription is kept under the path of its event URL, and a NOTIFY request comes with the
path of the URL in the CALLBACK header. Of that URL a request of HTTP carries everything but
the fragment.
-/

namespace ConnectSDK

/-- The name or address of a host, which has none of the characters that end it. -/
structure HostName where
  text : String
  noSlash : '/' ∉ text.toList
  noFragment : '#' ∉ text.toList

/-- A path without whitespace around it. -/
structure EventPath where
  text : String
  first : ∀ character ∈ text.toList.head?, character.isWhitespace = false
  last : ∀ character ∈ text.toList.getLast?, character.isWhitespace = false

namespace EventKeys

/-- The URL that `subscribeServices` puts into the CALLBACK header. -/
def callbackURL (ipAddress : HostName) (path : EventPath) : String :=
  DLNAService.hostPath ipAddress.text ++ withoutSlash path.text

/-- The URL of a request that is sent to a URL. -/
def requestURL (keepsFragment : Bool) (url : String) : String :=
  if keepsFragment then url
  else String.ofList (url.toList.takeWhile fun character => character != '#')

/-- The key that `processRequest:` looks up. -/
def requestKey (url : String) : Option String :=
  (serviceSubscriptionKeyForURL url).map trimmingWhitespace

def deviceHost (host : Option HostName) (port : Option Nat) : DLNAHost where
  host := host.map HostName.text
  port := port

theorem subscriptionsFor_eq (server : DLNAHTTPServer) (url : String) :
    server.subscriptionsFor url =
      (requestKey url).map fun key => (server.allSubscriptions.lookup key).getD [] := by
  rw [requestKey, Option.map_map]
  rfl

theorem callback_subscribeRequest (urlWithString : String → Option String) (device : DLNAHost)
    (ipAddress : HostName) (path : EventPath) (serviceId controlURL : Option String) :
    (DLNAService.subscribeRequest urlWithString device (some ipAddress.text)
        { serviceId, controlURL, eventSubURL := some path.text }).bind
      (fun request => request.headers.lookup "CALLBACK") =
        some ("<" ++ callbackURL ipAddress path ++ ">") := rfl

/-! ## Keys of URLs -/

/-- The path with the slash that both sides see to. -/
def slashed (path : String) : List Char :=
  '/' :: (withoutSlash path).toList

theorem slashed_eq (path : String) :
    (if hasSlash path then path else "/" ++ path).toList = slashed path := by
  rw [slashed, withoutSlash]
  split_ifs with slash
  · rw [String.toList_ofList]
    rw [hasSlash] at slash
    cases characters : path.toList with
    | nil =>
        rw [characters] at slash
        cases slash
    | cons first rest =>
        rw [characters] at slash
        rw [List.tail_cons, Option.some.inj (beq_iff_eq.mp slash)]
  · exact String.toList_append

/-- The key is what follows the authority. -/
theorem serviceSubscriptionKeyForURL_eq {url : String} {authority path : List Char}
    (written : url.toList = "http://".toList ++ (authority ++ '/' :: path))
    (free : '/' ∉ authority) :
    serviceSubscriptionKeyForURL url = some (String.ofList ('/' :: path)) := by
  have specifier : resourceSpecifier url = '/' :: '/' :: (authority ++ '/' :: path) := by
    rw [resourceSpecifier, written]
    rfl
  have host : ∀ character ∈ authority, (character != '/') = true :=
    fun character member => bne_iff_ne.mpr fun same => free (same ▸ member)
  rw [serviceSubscriptionKeyForURL, specifier, List.drop_succ_cons, List.drop_succ_cons,
    List.drop_zero, List.dropWhile_append_of_pos host, List.dropWhile_cons_of_neg (by simp)]
  rfl

/-- The authority of the event URL. -/
def deviceAuthority (host : Option HostName) (port : Option Nat) : List Char :=
  ((host.map HostName.text).getD "(null)").toList ++
    ':' :: ((port.map Nat.repr).getD "(null)").toList

theorem slash_not_mem_deviceAuthority (host : Option HostName) (port : Option Nat) :
    '/' ∉ deviceAuthority host port := by
  have hostFree : '/' ∉ ((host.map HostName.text).getD "(null)").toList := by
    cases host with
    | none => decide
    | some host => exact host.noSlash
  have portFree : '/' ∉ ((port.map Nat.repr).getD "(null)").toList := by
    cases port with
    | none => decide
    | some port =>
        change '/' ∉ (Nat.repr port).toList
        rw [Nat.toList_repr]
        intro digit
        exact absurd (Nat.isDigit_of_mem_toDigits (by decide) (by decide) digit) (by decide)
  rw [deviceAuthority, List.mem_append, List.mem_cons]
  rintro (member | same | member)
  · exact hostFree member
  · exact absurd same (by decide)
  · exact portFree member

theorem key_serviceURL (host : Option HostName) (port : Option Nat) (path : String) :
    serviceSubscriptionKeyForURL
        (DLNAService.serviceURLText (deviceHost host port) (some path)) =
      some (String.ofList (slashed path)) := by
  apply serviceSubscriptionKeyForURL_eq _ (slash_not_mem_deviceAuthority host port)
  rw [DLNAService.serviceURLText, String.toList_append, String.toList_append,
    String.toList_append, String.toList_append, slashed_eq, deviceAuthority, slashed]
  simp [deviceHost]

theorem toList_callbackURL (ipAddress : HostName) (path : EventPath) :
    (callbackURL ipAddress path).toList =
      "http://".toList ++ ((ipAddress.text.toList ++ ":49291".toList) ++ slashed path.text) := by
  rw [callbackURL, DLNAService.hostPath, String.toList_append, String.toList_append,
    String.toList_append, slashed]
  simp

/-! ## Whitespace -/

theorem dropWhile_eq_self {characters : List Char}
    (first : ∀ character ∈ characters.head?, character.isWhitespace = false) :
    characters.dropWhile Char.isWhitespace = characters := by
  cases characters with
  | nil => rfl
  | cons character rest =>
      rw [List.dropWhile_cons_of_neg]
      rw [first character rfl]
      exact Bool.false_ne_true

theorem trimmingWhitespace_eq_self {text : String}
    (first : ∀ character ∈ text.toList.head?, character.isWhitespace = false)
    (last : ∀ character ∈ text.toList.getLast?, character.isWhitespace = false) :
    trimmingWhitespace text = text := by
  rw [← List.head?_reverse] at last
  rw [trimmingWhitespace, dropWhile_eq_self first, dropWhile_eq_self last,
    List.reverse_reverse, String.ofList_toList]

/-- Trimming only takes characters away. -/
theorem mem_of_mem_trimmingWhitespace {text : String} {character : Char}
    (member : character ∈ (trimmingWhitespace text).toList) : character ∈ text.toList := by
  rw [trimmingWhitespace, String.toList_ofList, List.mem_reverse] at member
  have inside := (List.dropWhile_suffix _).subset member
  exact (List.dropWhile_suffix _).subset (List.mem_reverse.mp inside)

theorem trimmingWhitespace_slashed (path : EventPath) :
    trimmingWhitespace (String.ofList (slashed path.text)) =
      String.ofList (slashed path.text) := by
  apply trimmingWhitespace_eq_self
  · rw [String.toList_ofList, slashed]
    rintro _ ⟨⟩
    rfl
  · rw [String.toList_ofList, ← slashed_eq]
    split_ifs
    · exact path.last
    · have after : ("/" ++ path.text).toList = '/' :: path.text.toList := String.toList_append
      rw [after, List.getLast?_cons]
      cases found : path.text.toList.getLast? with
      | none =>
          rintro _ ⟨⟩
          rfl
      | some character =>
          rintro _ ⟨⟩
          exact path.last character found

/-! ## Both keys -/

theorem not_mem_authority (ipAddress : HostName) :
    '/' ∉ ipAddress.text.toList ++ ":49291".toList ∧
      '#' ∉ ipAddress.text.toList ++ ":49291".toList := by
  rw [List.mem_append, List.mem_append]
  constructor
  · rintro (member | member)
    · exact ipAddress.noSlash member
    · exact absurd member (by decide)
  · rintro (member | member)
    · exact ipAddress.noFragment member
    · exact absurd member (by decide)

/-- The request has the path up to the fragment. -/
theorem requestKey_eq (ipAddress : HostName) (path : EventPath) (keepsFragment : Bool) :
    requestKey (requestURL keepsFragment (callbackURL ipAddress path)) =
      some (trimmingWhitespace (String.ofList
        (if keepsFragment then slashed path.text
          else (slashed path.text).takeWhile fun character => character != '#'))) := by
  have free := not_mem_authority ipAddress
  have written := toList_callbackURL ipAddress path
  cases keepsFragment with
  | true =>
      rw [requestURL, if_pos rfl, requestKey, serviceSubscriptionKeyForURL_eq written free.1]
      rfl
  | false =>
      have whole : ∀ character ∈ ipAddress.text.toList ++ ":49291".toList,
          (character != '#') = true :=
        fun character member => bne_iff_ne.mpr fun same => free.2 (same ▸ member)
      have cut : (requestURL false (callbackURL ipAddress path)).toList =
          "http://".toList ++ ((ipAddress.text.toList ++ ":49291".toList) ++
            '/' :: (withoutSlash path.text).toList.takeWhile
              fun character => character != '#') := by
        rw [requestURL, if_neg Bool.false_ne_true, String.toList_ofList, written,
          List.takeWhile_append_of_pos (List.all_eq_true.mp (by decide)),
          List.takeWhile_append_of_pos whole]
        rfl
      rw [requestKey, serviceSubscriptionKeyForURL_eq cut free.1]
      rfl

theorem fragment_mem_slashed_iff (path : String) :
    '#' ∈ slashed path ↔ '#' ∈ path.toList := by
  rw [← slashed_eq]
  split_ifs
  · exact Iff.rfl
  · rw [String.toList_append, List.mem_append]
    exact or_iff_right (by decide)

/-- A path with a fragment. -/
def fragmentPath : EventPath where
  text := "/event#state"
  first _ same := Option.some_inj.mp same ▸ rfl
  last _ same := Option.some_inj.mp same ▸ rfl

def televisionHost : HostName where
  text := "tv"
  noSlash := by decide
  noFragment := by decide

end EventKeys

end ConnectSDK
