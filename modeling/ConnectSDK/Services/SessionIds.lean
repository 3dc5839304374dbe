import ConnectSDK.Services.DLNAEventSessions

/-! # Session ids of the DLNA service

An observer lists the sessions that the TV has opened and not closed. The id that is stored
for a service is that of its latest open session for as long as the table is only replaced
when no session is open, and no session is closed while another one of the service is open.
-/

namespace ConnectSDK

/-- `openSessions` are the service and session ids of the answered `SUBSCRIBE` requests that
have not been unsubscribed, in the order of the answers. -/
structure SessionWatch where
  sessions : DLNAEventSessions
  openSessions : List (String × String) := []

namespace SessionWatch

/-- The sessions that are open after a request has succeeded. -/
def follow (openSessions : List (String × String)) :
    DLNAEventRequest × Option String → List (String × String)
  | (.subscribe serviceId, some sessionId) => openSessions ++ [(serviceId, sessionId)]
  | (.unsubscribe serviceId sessionId, _) =>
      openSessions.filter fun session => session != (serviceId, sessionId)
  | _ => openSessions

def succeeded (watch : SessionWatch) : DLNASessionEvent → Option (DLNAEventRequest × Option String)
  | .answered index response => watch.sessions.succeeded index response
  | _ => none

def step (watch : SessionWatch) (event : DLNASessionEvent) : SessionWatch where
  sessions := watch.sessions.step event
  openSessions := (watch.succeeded event).elim watch.openSessions (follow watch.openSessions)

def react (watch : SessionWatch) (event : DLNASessionEvent) : Option SessionWatch :=
  some (watch.step event)

/-- The session of a service that was opened last. -/
def latest (openSessions : List (String × String)) (serviceId : String) : Option String :=
  ((openSessions.filter fun session => session.1 == serviceId).getLast?).map Prod.snd

/-- The id that is stored for a service is that of its latest open session. -/
def StoresLatest (watch : SessionWatch) : Prop :=
  ∀ serviceId, watch.sessions.sessionId serviceId = latest watch.openSessions serviceId

/-- The table is replaced only while no session is open, and a session is closed only while
no other one of the service is open. -/
def TakesTurns (watch : SessionWatch) (event : DLNASessionEvent) : Prop :=
  match event with
  | .connect | .subscribe => watch.openSessions = []
  | .answered index response =>
      match watch.sessions.succeeded index response with
      | some (.unsubscribe serviceId sessionId, _) =>
          ∀ other, (serviceId, other) ∈ watch.openSessions → other = sessionId
      | _ => True
  | _ => True

/-- Without a table nothing is on its way. -/
def Tabled (watch : SessionWatch) : Prop :=
  watch.sessions.httpServerSessionIds = none → watch.sessions.requests = []

/-! ## The latest session -/

theorem latest_append (openSessions : List (String × String)) (opened serviceId sessionId : String) :
    latest (openSessions ++ [(opened, sessionId)]) serviceId =
      if serviceId = opened then some sessionId else latest openSessions serviceId := by
  unfold latest
  by_cases same : serviceId = opened
  · simp [same]
  · have other : ¬opened = serviceId := fun equal => same equal.symm
    simp [same, other]

theorem latest_filter_of_ne (openSessions : List (String × String))
    {serviceId closed : String} (different : serviceId ≠ closed) (sessionId : String) :
    latest (openSessions.filter fun session => session != (closed, sessionId)) serviceId =
      latest openSessions serviceId := by
  have kept : ∀ session ∈ openSessions,
      (session.1 == serviceId && session != (closed, sessionId)) =
        (session.1 == serviceId) := by
    rintro ⟨one, other⟩ _
    by_cases same : one = serviceId
    · simp [same, different]
    · simp [same]
  unfold latest
  rw [List.filter_filter, List.filter_congr kept]

theorem latest_eq_none_iff (openSessions : List (String × String)) (serviceId : String) :
    latest openSessions serviceId = none ↔ ∀ other, (serviceId, other) ∉ openSessions := by
  unfold latest
  rw [Option.map_eq_none_iff, List.getLast?_eq_none_iff, List.filter_eq_nil_iff]
  constructor
  · intro none other member
    exact none (serviceId, other) member (beq_self_eq_true _)
  · rintro absent ⟨one, other⟩ member same
    cases eq_of_beq same
    exact absent other member

/-- No session of the service is left exactly if only the one that is closed was open. -/
theorem latest_filter_eq_none_iff (openSessions : List (String × String))
    (serviceId sessionId : String) :
    latest (openSessions.filter fun session => session != (serviceId, sessionId)) serviceId =
        none ↔
      ∀ other, (serviceId, other) ∈ openSessions → other = sessionId := by
  rw [latest_eq_none_iff]
  constructor
  · intro absent other member
    by_contra different
    refine absent other (List.mem_filter.mpr ⟨member, ?_⟩)
    simpa using different
  · intro only other left
    rcases List.mem_filter.mp left with ⟨member, different⟩
    rw [only other member] at different
    simp at different

/-! ## Steps -/

theorem answered_of_none {watch : SessionWatch} {index : Nat}
    {response : Option NSHTTPURLResponse}
    (failed : watch.sessions.succeeded index response = none) :
    watch.step (.answered index response) =
      { watch with
        sessions := { watch.sessions with
          requests := watch.sessions.requests.eraseIdx index } } := by
  simp only [SessionWatch.step, SessionWatch.succeeded, DLNAEventSessions.step,
    DLNAEventSessions.answered, failed, Option.elim]

theorem answered_of_some {watch : SessionWatch} {index : Nat}
    {response : Option NSHTTPURLResponse} {request : DLNAEventRequest} {sid : Option String}
    (succeeded : watch.sessions.succeeded index response = some (request, sid)) :
    watch.step (.answered index response) =
      { sessions := DLNAEventSessions.succeed
          { watch.sessions with requests := watch.sessions.requests.eraseIdx index } request sid
        openSessions := follow watch.openSessions (request, sid) } := by
  simp only [SessionWatch.step, SessionWatch.succeeded, DLNAEventSessions.step,
    DLNAEventSessions.answered, succeeded, Option.elim]

/-- The request that a response answers was sent with a table. -/
theorem Tabled.table {watch : SessionWatch} (tabled : watch.Tabled) {index : Nat}
    {response : Option NSHTTPURLResponse} {success : DLNAEventRequest × Option String}
    (succeeded : watch.sessions.succeeded index response = some success) :
    ∃ sessionIds, watch.sessions.httpServerSessionIds = some sessionIds := by
  cases table : watch.sessions.httpServerSessionIds with
  | some sessionIds => exact ⟨sessionIds, rfl⟩
  | none =>
      unfold DLNAEventSessions.succeeded at succeeded
      rw [tabled table] at succeeded
      cases succeeded

theorem Tabled.step {watch : SessionWatch} (tabled : watch.Tabled) (event : DLNASessionEvent) :
    (watch.step event).Tabled := by
  have sends : ∀ request, watch.sessions.httpServerSessionIds = none →
      watch.sessions.requests ++ watch.sessions.requestsOfSessions request = [] := by
    intro request absent
    rw [tabled absent, DLNAEventSessions.requestsOfSessions]
    simp [DLNAEventSessions.sessionId, absent]
  cases event with
  | setServiceList serviceList => exact tabled
  | connect => exact fun impossible => by cases impossible
  | subscribe => exact fun impossible => by cases impossible
  | disconnect => exact sends _
  | unsubscribe => exact sends _
  | resubscribe =>
      intro absent
      simp only [SessionWatch.step, DLNAEventSessions.step] at absent ⊢
      split at absent
      · rename_i none
        rw [if_pos none]
        exact tabled absent
      · rename_i some
        rw [if_neg some]
        exact sends _ absent
  | answered index response =>
      cases succeeded : watch.sessions.succeeded index response with
      | none =>
          rw [answered_of_none succeeded]
          intro absent
          change watch.sessions.requests.eraseIdx index = []
          rw [tabled absent]
          rfl
      | some success =>
          rcases success with ⟨request, sid⟩
          rcases tabled.table succeeded with ⟨sessionIds, table⟩
          rw [answered_of_some succeeded]
          intro absent
          cases request <;> cases sid <;>
            simp [DLNAEventSessions.succeed, table] at absent

/-- A response with code 200 stores the session it opens, and takes away what is stored for
the service of the session it closes. -/
theorem takesTurns_succeed_iff {watch : SessionWatch} {sessionIds : Dictionary String String}
    (table : watch.sessions.httpServerSessionIds = some sessionIds) (stores : watch.StoresLatest)
    {index : Nat} {response : Option NSHTTPURLResponse} {request : DLNAEventRequest}
    {sid : Option String}
    (succeeded : watch.sessions.succeeded index response = some (request, sid)) :
    watch.TakesTurns (.answered index response) ↔ StoresLatest
      { sessions := DLNAEventSessions.succeed
          { watch.sessions with requests := watch.sessions.requests.eraseIdx index } request sid
        openSessions := follow watch.openSessions (request, sid) } := by
  have stored : ∀ serviceId, sessionIds.lookup serviceId =
      latest watch.openSessions serviceId := by
    intro serviceId
    rw [← stores serviceId, DLNAEventSessions.sessionId, table]
    rfl
  simp only [TakesTurns, succeeded]
  cases request with
  | resubscribe serviceId sessionId => exact iff_of_true trivial stores
  | subscribe opened =>
      cases sid with
      | none => exact iff_of_true trivial stores
      | some sessionId =>
          refine iff_of_true trivial fun serviceId => ?_
          simp only [DLNAEventSessions.sessionId, DLNAEventSessions.succeed, table, follow,
            latest_append, Option.map_some, Option.bind_some, Dictionary.lookup_insert_eq,
            stored]
  | unsubscribe closed sessionId =>
      have remains : ∀ serviceId, DLNAEventSessions.sessionId
          (DLNAEventSessions.succeed
            { watch.sessions with requests := watch.sessions.requests.eraseIdx index }
            (.unsubscribe closed sessionId) sid) serviceId =
          if serviceId = closed then none else latest watch.openSessions serviceId := by
        intro serviceId
        simp only [DLNAEventSessions.sessionId, DLNAEventSessions.succeed, table,
          Option.map_some, Option.bind_some, Dictionary.lookup_erase_eq, stored]
      constructor
      · intro only serviceId
        rw [remains]
        by_cases same : serviceId = closed
        · rw [if_pos same, same]
          exact ((latest_filter_eq_none_iff _ closed sessionId).mpr only).symm
        · rw [if_neg same]
          exact (latest_filter_of_ne _ same sessionId).symm
      · intro storesNext
        have none := storesNext closed
        rw [remains, if_pos rfl] at none
        exact (latest_filter_eq_none_iff _ closed sessionId).mp none.symm

theorem takesTurns_iff {watch : SessionWatch} (tabled : watch.Tabled)
    (stores : watch.StoresLatest) (event : DLNASessionEvent) :
    watch.TakesTurns event ↔ (watch.step event).StoresLatest := by
  have replaced : watch.openSessions = [] ↔
      ∀ serviceId, none = latest watch.openSessions serviceId := by
    constructor
    · intro nothing serviceId
      rw [nothing]
      rfl
    · intro absent
      refine List.eq_nil_iff_forall_not_mem.mpr fun session member => ?_
      exact (latest_eq_none_iff _ session.1).mp (absent session.1).symm session.2 member
  cases event with
  | setServiceList serviceList => exact iff_of_true trivial stores
  | disconnect => exact iff_of_true trivial stores
  | unsubscribe => exact iff_of_true trivial stores
  | connect => exact replaced
  | subscribe => exact replaced
  | resubscribe =>
      refine iff_of_true trivial fun serviceId => ?_
      simp only [SessionWatch.step, DLNAEventSessions.step]
      split
      · exact stores serviceId
      · exact stores serviceId
  | answered index response =>
      cases succeeded : watch.sessions.succeeded index response with
      | none =>
          rw [answered_of_none succeeded]
          refine iff_of_true ?_ stores
          simp only [TakesTurns, succeeded]
      | some success =>
          rcases success with ⟨request, sid⟩
          rcases tabled.table succeeded with ⟨sessionIds, table⟩
          rw [answered_of_some succeeded]
          exact takesTurns_succeed_iff table stores succeeded

/-! ## Runs -/

/-- The id stored for each service is that of its latest open session in every state of a
run, exactly as long as sessions take turns. -/
theorem run_storesLatest_iff (serviceList : List String) (events : List DLNASessionEvent) :
    EveryStep react TakesTurns { sessions := { serviceList } } events ↔
      Throughout react StoresLatest { sessions := { serviceList } } events := by
  have tabled : Tabled { sessions := { serviceList } } := fun _ => rfl
  have stores : StoresLatest { sessions := { serviceList } } := fun _ => rfl
  rcases exists_runFrom step { sessions := { serviceList } } events with ⟨final, reached⟩
  refine everyStep_iff_throughout ?_ ?_ tabled stores reached
  · intro watch event next tabled taken
    cases taken
    exact Tabled.step tabled event
  · intro watch event next tabled stores taken
    cases taken
    exact takesTurns_iff tabled stores event

/-- The answer to the first `UNSUBSCRIBE` comes after a second connection has subscribed,
and takes the new session away. -/
theorem late_answer_takes_session :
    ∃ final, runFrom react { sessions := { serviceList := ["AVTransport"] } }
        [.connect, .answered 0 (some { sid := some "uuid:1" }), .disconnect, .connect,
          .answered 1 (some { sid := some "uuid:2" }), .answered 0 (some {})] = some final ∧
      final.openSessions = [("AVTransport", "uuid:2")] ∧
      final.sessions.sessionId "AVTransport" = none ∧ ¬final.StoresLatest := by
  refine ⟨_, rfl, by decide, rfl, ?_⟩
  intro stores
  exact absurd (stores "AVTransport") (by decide)

end SessionWatch

end ConnectSDK
