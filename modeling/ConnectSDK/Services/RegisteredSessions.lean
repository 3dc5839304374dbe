import ConnectSDK.Services.WebAppSessions

/-! # Registered sessions of the webOS TV

The sessions that clients were handed since the last disconnect are the registered ones for
as long as launches and joins of an app do not overlap with each other or with a disconnect,
and the first launch finds a dictionary.
-/

namespace ConnectSDK

namespace WebAppLauncher

/-- What a client was handed for an app is registered under its id. So every client of the
app has the same session, and disconnecting reaches it. -/
structure HandsRegistered (launcher : WebAppLauncher) : Prop where
  registered : ∀ entry ∈ launcher.handed,
    launcher.session entry.appId = some entry.webAppSession
  same : ∀ entry ∈ launcher.handed, ∀ other ∈ launcher.handed,
    entry.appId = other.appId → entry.webAppSession = other.webAppSession
  reached : ∀ entry ∈ launcher.handed, entry.webAppSession ∈ launcher.registeredSessions

/-- A launch that found a session completes while that is registered, and one that found
none while there is a dictionary and no client has a session of the app. A join succeeds
while its session is registered. -/
def CompletesInTurn (launcher : WebAppLauncher) : WebAppEvent → Prop
  | .launchCompleted index => ∀ launch, launcher.launches[index]? = some launch →
      match launch.webAppSession with
      | some webAppSession => launcher.session launch.webAppId = some webAppSession
      | none => launcher.webAppSessions.isSome = true ∧
          ∀ entry ∈ launcher.handed, entry.appId ≠ launch.webAppId
  | .joinSucceeded index => ∀ joined, launcher.joins[index]? = some joined →
      launcher.session joined.appId = some joined.webAppSession
  | _ => True

/-- Every session was created. -/
structure Created (launcher : WebAppLauncher) : Prop where
  registered : ∀ appId webAppSession, launcher.session appId = some webAppSession →
    webAppSession.number < launcher.sessionCount
  launches : ∀ launch ∈ launcher.launches, ∀ webAppSession,
    launch.webAppSession = some webAppSession → webAppSession.number < launcher.sessionCount
  joins : ∀ joined ∈ launcher.joins, joined.webAppSession.number < launcher.sessionCount
  handed : ∀ entry ∈ launcher.handed, entry.webAppSession.number < launcher.sessionCount

theorem handsRegistered_iff (launcher : WebAppLauncher) :
    launcher.HandsRegistered ↔ ∀ entry ∈ launcher.handed,
      launcher.session entry.appId = some entry.webAppSession := by
  constructor
  · exact HandsRegistered.registered
  · intro registered
    refine ⟨registered, ?_, ?_⟩
    · intro entry member other otherMember sameApp
      have found := registered entry member
      rw [sameApp, registered other otherMember] at found
      exact (Option.some.inj found).symm
    · intro entry member
      rcases Option.bind_eq_some_iff.mp (registered entry member) with
        ⟨webAppSessions, held, found⟩
      unfold registeredSessions
      rw [held]
      exact Dictionary.mem_values_iff.mpr ⟨entry.appId, found⟩

/-! ## Registering -/

@[simp] theorem session_ensureSessions (launcher : WebAppLauncher) (appId : String) :
    launcher.ensureSessions.session appId = launcher.session appId := by
  unfold session ensureSessions
  cases launcher.webAppSessions with
  | none => rfl
  | some webAppSessions => rfl

theorem session_setSession {launcher : WebAppLauncher}
    (present : launcher.webAppSessions.isSome = true) (appId other : String)
    (webAppSession : WebOSWebAppSession) :
    (launcher.setSession appId webAppSession).session other =
      if other = appId then some webAppSession else launcher.session other := by
  rcases Option.isSome_iff_exists.mp present with ⟨webAppSessions, held⟩
  simp only [setSession, session, held, Option.map_some, Option.bind_some,
    Dictionary.lookup_insert_eq]

/-- The session for a launch session is registered, and nothing registered changes. -/
theorem session_forLaunchSession (launcher : WebAppLauncher) (appId other : String) :
    (launcher.webAppSessionForLaunchSession appId).1.session other =
      if other = appId then some (launcher.webAppSessionForLaunchSession appId).2
      else launcher.session other := by
  unfold webAppSessionForLaunchSession
  cases found : launcher.session appId with
  | some webAppSession =>
      simp only [session_ensureSessions, found]
      by_cases same : other = appId
      · rw [if_pos same, same, found]
      · rw [if_neg same]
  | none =>
      simp only [session_ensureSessions, found]
      have made := @session_setSession launcher.ensureSessions.createSession.1 rfl appId other
        launcher.ensureSessions.createSession.2
      have before : launcher.ensureSessions.createSession.1.session other =
          launcher.session other := session_ensureSessions launcher other
      rw [before] at made
      exact made

theorem forLaunchSession_found {launcher : WebAppLauncher} {appId : String}
    {webAppSession : WebOSWebAppSession} (found : launcher.session appId = some webAppSession) :
    (launcher.webAppSessionForLaunchSession appId).2 = webAppSession := by
  simp only [webAppSessionForLaunchSession, session_ensureSessions, found]

theorem forLaunchSession_frame (launcher : WebAppLauncher) (appId : String) :
    ∃ webAppSessions sessionCount,
      (launcher.webAppSessionForLaunchSession appId).1 =
        { launcher with webAppSessions, sessionCount } ∧
      launcher.sessionCount ≤ sessionCount := by
  unfold webAppSessionForLaunchSession
  dsimp only
  split
  · exact ⟨_, launcher.sessionCount, rfl, Nat.le_refl _⟩
  · exact ⟨_, launcher.sessionCount + 1, rfl, Nat.le_succ _⟩

/-- A step hands nothing, and what is registered stays. -/
structure Keeps (launcher after : WebAppLauncher) : Prop where
  handed : after.handed = launcher.handed
  session : ∀ appId webAppSession, launcher.session appId = some webAppSession →
    after.session appId = some webAppSession

theorem Keeps.of_eq {launcher after : WebAppLauncher} (handed : after.handed = launcher.handed)
    (webAppSessions : after.webAppSessions = launcher.webAppSessions) :
    Keeps launcher after := by
  refine ⟨handed, fun appId webAppSession found => ?_⟩
  unfold WebAppLauncher.session
  rw [webAppSessions]
  exact found

theorem keeps_forLaunchSession (launcher : WebAppLauncher) (appId : String) :
    Keeps launcher (launcher.webAppSessionForLaunchSession appId).1 := by
  constructor
  · rcases forLaunchSession_frame launcher appId with ⟨_, _, same, _⟩
    rw [same]
  · intro other webAppSession found
    rw [session_forLaunchSession]
    by_cases same : other = appId
    · rw [if_pos same, forLaunchSession_found (same ▸ found)]
    · rw [if_neg same, found]

theorem Keeps.handsRegistered {launcher after : WebAppLauncher} (keeps : Keeps launcher after)
    (hands : launcher.HandsRegistered) : after.HandsRegistered := by
  rw [handsRegistered_iff]
  intro entry member
  rw [keeps.handed] at member
  exact keeps.session _ _ (hands.registered entry member)

/-- Handing a session over is right exactly if it is registered. -/
theorem handsRegistered_hand_iff {launcher : WebAppLauncher} (hands : launcher.HandsRegistered)
    (appId : String) (webAppSession : WebOSWebAppSession) :
    (launcher.hand appId webAppSession).HandsRegistered ↔
      launcher.session appId = some webAppSession := by
  rw [handsRegistered_iff]
  constructor
  · intro registered
    exact registered { appId, webAppSession } (List.mem_append_right _ List.mem_cons_self)
  · intro found entry member
    rcases List.mem_append.mp member with before | own
    · exact hands.registered entry before
    · cases List.mem_singleton.mp own
      exact found

/-- A new session of an app may be registered and handed over exactly if there is a
dictionary and no client has another one. -/
theorem handsRegistered_new_iff {launcher : WebAppLauncher} (created : launcher.Created)
    (hands : launcher.HandsRegistered) (appId : String) :
    ((launcher.createSession.1.setSession appId launcher.createSession.2).hand appId
        launcher.createSession.2).HandsRegistered ↔
      launcher.webAppSessions.isSome = true ∧
        ∀ entry ∈ launcher.handed, entry.appId ≠ appId := by
  rw [handsRegistered_iff]
  cases present : launcher.webAppSessions with
  | none =>
      constructor
      · intro registered
        have found := registered { appId, webAppSession := launcher.createSession.2 }
          (List.mem_append_right _ List.mem_cons_self)
        simp [hand, setSession, createSession, session, present] at found
      · rintro ⟨impossible, _⟩
        cases impossible
  | some webAppSessions =>
      have registers : ∀ other, ((launcher.createSession.1.setSession appId
          launcher.createSession.2).hand appId launcher.createSession.2).session other =
            if other = appId then some launcher.createSession.2 else launcher.session other := by
        intro other
        have held : launcher.createSession.1.webAppSessions.isSome = true := by
          simp [createSession, present]
        exact session_setSession held appId other launcher.createSession.2
      constructor
      · intro registered
        refine ⟨rfl, fun entry member same => ?_⟩
        have found := registered entry (List.mem_append_left _ member)
        rw [registers, if_pos same] at found
        have older := created.handed entry member
        rw [← Option.some.inj found] at older
        exact Nat.lt_irrefl _ older
      · rintro ⟨_, others⟩ entry member
        rw [registers]
        rcases List.mem_append.mp member with before | own
        · rw [if_neg (others entry before)]
          exact hands.registered entry before
        · cases List.mem_singleton.mp own
          exact if_pos rfl

/-! ## Sessions are created once -/

theorem Created.of_frame {launcher after : WebAppLauncher} (created : launcher.Created)
    (session : ∀ appId, after.session appId = launcher.session appId)
    (sessionCount : after.sessionCount = launcher.sessionCount)
    (launches : ∀ launch ∈ after.launches, launch ∈ launcher.launches)
    (joins : ∀ joined ∈ after.joins, joined ∈ launcher.joins)
    (handed : ∀ entry ∈ after.handed, entry ∈ launcher.handed) : after.Created := by
  constructor
  · intro appId webAppSession found
    rw [session] at found
    rw [sessionCount]
    exact created.registered appId webAppSession found
  · intro launch member
    rw [sessionCount]
    exact created.launches launch (launches launch member)
  · intro joined member
    rw [sessionCount]
    exact created.joins joined (joins joined member)
  · intro entry member
    rw [sessionCount]
    exact created.handed entry (handed entry member)

theorem Created.createSession {launcher : WebAppLauncher} (created : launcher.Created) :
    launcher.createSession.1.Created where
  registered appId webAppSession found :=
    Nat.lt_succ_of_lt (created.registered appId webAppSession found)
  launches launch member webAppSession captured :=
    Nat.lt_succ_of_lt (created.launches launch member webAppSession captured)
  joins joined member := Nat.lt_succ_of_lt (created.joins joined member)
  handed entry member := Nat.lt_succ_of_lt (created.handed entry member)

theorem Created.setSession {launcher : WebAppLauncher} (created : launcher.Created)
    (appId : String) {webAppSession : WebOSWebAppSession}
    (older : webAppSession.number < launcher.sessionCount) :
    (launcher.setSession appId webAppSession).Created := by
  refine { created with registered := ?_ }
  intro other held found
  cases present : launcher.webAppSessions with
  | none => simp [WebAppLauncher.setSession, session, present] at found
  | some webAppSessions =>
      rw [session_setSession (by rw [present]; rfl)] at found
      by_cases same : other = appId
      · rw [if_pos same] at found
        cases found
        exact older
      · rw [if_neg same] at found
        exact created.registered other held found

theorem Created.hand {launcher : WebAppLauncher} (created : launcher.Created)
    (appId : String) {webAppSession : WebOSWebAppSession}
    (older : webAppSession.number < launcher.sessionCount) :
    (launcher.hand appId webAppSession).Created := by
  refine { created with handed := ?_ }
  intro entry member
  rcases List.mem_append.mp member with before | own
  · exact created.handed entry before
  · cases List.mem_singleton.mp own
    exact older

theorem Created.forLaunchSession {launcher : WebAppLauncher} (created : launcher.Created)
    (appId : String) :
    (launcher.webAppSessionForLaunchSession appId).1.Created ∧
      (launcher.webAppSessionForLaunchSession appId).2.number <
        (launcher.webAppSessionForLaunchSession appId).1.sessionCount := by
  have ensured : launcher.ensureSessions.Created :=
    created.of_frame (session_ensureSessions launcher) rfl (fun _ member => member)
      (fun _ member => member) fun _ member => member
  unfold webAppSessionForLaunchSession
  dsimp only
  split
  · rename_i webAppSession found
    exact ⟨ensured, ensured.registered appId webAppSession found⟩
  · exact ⟨ensured.createSession.setSession appId (Nat.lt_succ_self _), Nat.lt_succ_self _⟩

theorem Created.sendLaunch {launcher : WebAppLauncher} (created : launcher.Created)
    (webAppId : String) : (launcher.sendLaunch webAppId).Created := by
  refine { created with launches := ?_ }
  intro launch member webAppSession captured
  rcases List.mem_append.mp member with before | own
  · exact created.launches launch before webAppSession captured
  · cases List.mem_singleton.mp own
    exact created.registered webAppId webAppSession captured

theorem Created.complete {launcher : WebAppLauncher} (created : launcher.Created)
    {launch : WebAppLaunch} (older : ∀ webAppSession, launch.webAppSession = some webAppSession →
      webAppSession.number < launcher.sessionCount) : (launcher.complete launch).Created := by
  unfold WebAppLauncher.complete
  cases captured : launch.webAppSession with
  | some webAppSession => exact created.hand launch.webAppId (older webAppSession captured)
  | none =>
      exact (created.createSession.setSession launch.webAppId (Nat.lt_succ_self _)).hand
        launch.webAppId (Nat.lt_succ_self _)

theorem Created.join {launcher after : WebAppLauncher} (created : launcher.Created)
    {appId : Option String} (taken : launcher.join appId = some after) : after.Created := by
  rcases Option.map_eq_some_iff.mp taken with ⟨appId, _, equal⟩
  subst equal
  rcases created.forLaunchSession appId with ⟨createdNext, older⟩
  refine { createdNext with joins := ?_ }
  intro joined member
  rcases List.mem_append.mp member with before | own
  · exact createdNext.joins joined before
  · cases List.mem_singleton.mp own
    exact older

theorem Created.disconnectFromWebApp {launcher : WebAppLauncher} (created : launcher.Created)
    (webAppSession : WebOSWebAppSession) : (launcher.disconnectFromWebApp webAppSession).Created :=
  created.of_frame (fun _ => rfl) rfl (fun _ member => member)
    (fun _ member => (List.mem_filter.mp member).1) fun _ member => member

theorem Created.disconnect {launcher : WebAppLauncher} (created : launcher.Created) :
    launcher.disconnect.Created := by
  have each : ∀ (sessions : List WebOSWebAppSession) (launcher : WebAppLauncher),
      launcher.Created → (sessions.foldl WebAppLauncher.disconnectFromWebApp launcher).Created := by
    intro sessions
    induction sessions with
    | nil => exact fun _ created => created
    | cons webAppSession rest induction =>
        exact fun launcher created => induction _ (created.disconnectFromWebApp webAppSession)
  have disconnected := each launcher.registeredSessions launcher created
  refine { disconnected with registered := ?_, handed := ?_ }
  · intro appId webAppSession found
    simp [WebAppLauncher.disconnect, session] at found
  · intro entry member
    cases member

theorem Created.step {launcher after : WebAppLauncher} (created : launcher.Created)
    {event : WebAppEvent} (taken : launcher.step event = some after) : after.Created := by
  have forgets : ∀ {launches runningAppRequests}, (∀ launch ∈ launches,
      launch ∈ launcher.launches) →
        Created { launcher with launches, runningAppRequests } := fun fewer =>
    created.of_frame (fun _ => rfl) rfl fewer (fun _ member => member) fun _ member => member
  cases event with
  | launchWebApp webAppId relaunchIfRunning =>
      cases taken
      unfold launchWebApp
      split
      · exact created
      · split
        · exact created.sendLaunch webAppId
        · exact forgets fun _ member => member
  | launchCompleted index =>
      cases taken
      unfold launchCompleted
      cases found : launcher.launches[index]? with
      | none => exact created
      | some launch =>
          have older := created.launches launch (List.mem_of_getElem? found)
          have rest : Created { launcher with launches := launcher.launches.eraseIdx index } :=
            forgets fun _ member => List.mem_of_mem_eraseIdx member
          exact rest.complete older
  | launchFailed index =>
      cases taken
      exact forgets fun _ member => List.mem_of_mem_eraseIdx member
  | runningAppReceived index isRunning =>
      cases taken
      unfold runningAppReceived
      cases found : launcher.runningAppRequests[index]? with
      | none => exact created
      | some webAppId =>
          have rest : Created { launcher with
              runningAppRequests := launcher.runningAppRequests.eraseIdx index } :=
            forgets fun _ member => member
          cases isRunning with
          | true =>
              rcases rest.forLaunchSession webAppId with ⟨createdNext, older⟩
              exact createdNext.hand webAppId older
          | false => exact rest.sendLaunch webAppId
  | runningAppFailed index =>
      cases taken
      exact forgets fun _ member => member
  | joinWebApp appId => exact created.join taken
  | connectToApp appId => exact created.join taken
  | joinApp appId => exact created.join taken
  | joinSubscribed index =>
      cases taken
      refine { created with joins := ?_ }
      intro joined member
      rcases List.mem_iff_getElem?.mp member with ⟨position, found⟩
      rw [joinSubscribed, List.getElem?_modify] at found
      rcases Option.map_eq_some_iff.mp found with ⟨before, held, changed⟩
      have older := created.joins before (List.mem_of_getElem? held)
      split_ifs at changed <;> exact changed ▸ older
  | joinSucceeded index =>
      cases taken
      unfold joinSucceeded
      cases found : launcher.joins[index]? with
      | none => exact created
      | some joined =>
          exact created.hand joined.appId (created.joins joined (List.mem_of_getElem? found))
  | connectToWebApp =>
      cases taken
      exact created.of_frame (session_ensureSessions launcher) rfl (fun _ member => member)
        (fun _ member => member) fun _ member => member
  | closeWebApp appId =>
      cases taken
      unfold closeWebApp
      split
      · exact created
      · exact created.disconnectFromWebApp _
  | disconnect =>
      cases taken
      exact created.disconnect

/-! ## Steps -/

theorem keeps_join {launcher after : WebAppLauncher} {appId : Option String}
    (taken : launcher.join appId = some after) : Keeps launcher after := by
  rcases Option.map_eq_some_iff.mp taken with ⟨appId, _, equal⟩
  subst equal
  have kept := keeps_forLaunchSession launcher appId
  exact ⟨kept.handed, kept.session⟩

theorem handsRegistered_disconnect (launcher : WebAppLauncher) :
    launcher.disconnect.HandsRegistered := by
  rw [handsRegistered_iff]
  intro entry member
  cases member

theorem completesInTurn_iff {launcher after : WebAppLauncher} (created : launcher.Created)
    (hands : launcher.HandsRegistered) {event : WebAppEvent}
    (taken : launcher.step event = some after) :
    launcher.CompletesInTurn event ↔ after.HandsRegistered := by
  have keeps : ∀ {after : WebAppLauncher}, Keeps launcher after →
      (True ↔ after.HandsRegistered) := fun keeps =>
    iff_of_true trivial (keeps.handsRegistered hands)
  cases event with
  | launchWebApp webAppId relaunchIfRunning =>
      cases taken
      refine keeps ?_
      unfold launchWebApp
      split
      · exact .of_eq rfl rfl
      · split
        · exact .of_eq rfl rfl
        · exact .of_eq rfl rfl
  | launchCompleted index =>
      cases taken
      simp only [CompletesInTurn, launchCompleted]
      cases found : launcher.launches[index]? with
      | none => exact iff_of_true (fun _ impossible => by cases impossible) hands
      | some launch =>
          have kept : Keeps launcher { launcher with
              launches := launcher.launches.eraseIdx index } := .of_eq rfl rfl
          have rest := kept.handsRegistered hands
          have createdRest : Created { launcher with
              launches := launcher.launches.eraseIdx index } :=
            created.of_frame (fun _ => rfl) rfl (fun _ member => List.mem_of_mem_eraseIdx member)
              (fun _ member => member) fun _ member => member
          simp only [Option.some.injEq, forall_eq']
          unfold complete
          cases launch.webAppSession with
          | some webAppSession =>
              exact (handsRegistered_hand_iff rest launch.webAppId webAppSession).symm
          | none => exact (handsRegistered_new_iff createdRest rest launch.webAppId).symm
  | launchFailed index =>
      cases taken
      exact keeps (.of_eq rfl rfl)
  | runningAppReceived index isRunning =>
      cases taken
      refine iff_of_true trivial ?_
      unfold runningAppReceived
      cases found : launcher.runningAppRequests[index]? with
      | none => exact hands
      | some webAppId =>
          have kept : Keeps launcher { launcher with
              runningAppRequests := launcher.runningAppRequests.eraseIdx index } :=
            .of_eq rfl rfl
          have rest := kept.handsRegistered hands
          cases isRunning with
          | true =>
              have registered := (keeps_forLaunchSession _ webAppId).handsRegistered rest
              have found := session_forLaunchSession { launcher with
                runningAppRequests := launcher.runningAppRequests.eraseIdx index }
                webAppId webAppId
              rw [if_pos rfl] at found
              exact (handsRegistered_hand_iff registered webAppId _).mpr found
          | false =>
              have sent : Keeps { launcher with
                  runningAppRequests := launcher.runningAppRequests.eraseIdx index }
                  (sendLaunch { launcher with
                    runningAppRequests := launcher.runningAppRequests.eraseIdx index }
                    webAppId) := .of_eq rfl rfl
              exact sent.handsRegistered rest
  | runningAppFailed index =>
      cases taken
      exact keeps (.of_eq rfl rfl)
  | joinWebApp appId => exact keeps (keeps_join taken)
  | connectToApp appId => exact keeps (keeps_join taken)
  | joinApp appId => exact keeps (keeps_join taken)
  | joinSubscribed index =>
      cases taken
      exact keeps (.of_eq rfl rfl)
  | joinSucceeded index =>
      cases taken
      simp only [CompletesInTurn, joinSucceeded]
      cases found : launcher.joins[index]? with
      | none => exact iff_of_true (fun _ impossible => by cases impossible) hands
      | some joined =>
          simp only [Option.some.injEq, forall_eq']
          exact (handsRegistered_hand_iff hands joined.appId joined.webAppSession).symm
  | connectToWebApp =>
      cases taken
      refine keeps ⟨rfl, fun appId webAppSession found => ?_⟩
      rw [session_ensureSessions, found]
  | closeWebApp appId =>
      cases taken
      refine keeps ?_
      unfold closeWebApp
      split
      · exact .of_eq rfl rfl
      · exact .of_eq rfl rfl
  | disconnect =>
      cases taken
      exact iff_of_true trivial (handsRegistered_disconnect launcher)

/-! ## Runs -/

/-- Clients have the registered sessions in every state of a run that raises nothing, exactly
as long as launches and joins complete in turn. -/
theorem run_handsRegistered_iff {events : List WebAppEvent} {final : WebAppLauncher}
    (reached : runFrom step {} events = some final) :
    EveryStep step CompletesInTurn {} events ↔ Throughout step HandsRegistered {} events := by
  have created : Created {} :=
    ⟨(fun _ _ found => by cases found), (fun _ member => by cases member),
      (fun _ member => by cases member), fun _ member => by cases member⟩
  have hands : HandsRegistered {} :=
    (handsRegistered_iff {}).mpr fun _ member => by cases member
  refine everyStep_iff_throughout ?_ ?_ created hands reached
  · intro launcher event next created taken
    exact created.step taken
  · intro launcher event next created hands taken
    exact completesInTurn_iff created hands taken

/-- A launch after a join of the app, and a disconnect. -/
theorem run_handsRegistered_rejoined :
    Throughout step HandsRegistered {}
      [.joinWebApp (some "app"), .launchWebApp "app" true, .launchCompleted 0,
        .joinSucceeded 0, .disconnect] := by
  refine (run_handsRegistered_iff rfl).mp ?_
  refine ⟨trivial, trivial, ?_, ?_, trivial, trivial⟩
  · intro launch found
    cases found
    rfl
  · intro joined found
    cases found
    rfl

/-- The sessions of two first launches of an app differ, and none of them is registered. -/
theorem first_launches_not_registered :
    ∃ final, runFrom step {} [.launchWebApp "app" true, .launchCompleted 0,
        .launchWebApp "app" true, .launchCompleted 0] = some final ∧
      final.handed = [⟨"app", ⟨0⟩⟩, ⟨"app", ⟨1⟩⟩] ∧ final.session "app" = none ∧
      final.registeredSessions = [] ∧ ¬final.HandsRegistered := by
  refine ⟨_, rfl, rfl, rfl, rfl, ?_⟩
  intro hands
  cases hands.registered ⟨"app", ⟨0⟩⟩ List.mem_cons_self

end WebAppLauncher

end ConnectSDK
