import ConnectSDK.Discovery.RunningProviders

/-! # Timers of the SSID check

One timer should fire while the app is in the foreground, and none while it is in the
background. A manager starts one when it is created and whenever the app becomes active.
-/

namespace ConnectSDK

namespace DiscoverySearch

/-- The timers that were scheduled and not invalidated. -/
def liveTimers (search : DiscoverySearch) : Nat :=
  search.replacedTimers + search.ssidTimer.toNat

/-- No timer is started or stopped. -/
structure SameTimers (search after : DiscoverySearch) : Prop where
  ssidTimer : after.ssidTimer = search.ssidTimer
  replacedTimers : after.replacedTimers = search.replacedTimers

theorem SameTimers.liveTimers {search after : DiscoverySearch}
    (same : SameTimers search after) : after.liveTimers = search.liveTimers := by
  rw [DiscoverySearch.liveTimers, DiscoverySearch.liveTimers, same.ssidTimer,
    same.replacedTimers]

theorem sameTimers_detectSSIDChange (search : DiscoverySearch) (ssidName : String) :
    SameTimers search (search.detectSSIDChange ssidName) := by
  unfold detectSSIDChange
  split
  · exact ⟨rfl, rfl⟩
  · split <;> exact ⟨rfl, rfl⟩

theorem sameTimers_withServices {clients : ClientParameters} {platforms : DefaultPlatforms}
    {search provided : DiscoverySearch}
    (services : search.withServices clients platforms = some provided) :
    SameTimers search provided := by
  unfold withServices at services
  split at services
  · rcases Option.map_eq_some_iff.mp services with ⟨registry, _, rfl⟩
    exact ⟨rfl, rfl⟩
  · cases services
    exact ⟨rfl, rfl⟩

theorem sameTimers_startDiscovery {clients : ClientParameters} {platforms : DefaultPlatforms}
    {search after : DiscoverySearch}
    (taken : search.startDiscovery clients platforms = some after) :
    SameTimers search after := by
  unfold startDiscovery at taken
  split at taken
  · cases taken
    exact ⟨rfl, rfl⟩
  · rcases Option.map_eq_some_iff.mp taken with ⟨provided, services, rfl⟩
    have same := sameTimers_withServices services
    exact ⟨same.ssidTimer, same.replacedTimers⟩

theorem sameTimers_stopDiscovery (search : DiscoverySearch) :
    SameTimers search search.stopDiscovery := by
  unfold stopDiscovery
  split
  · dsimp only
    split <;> exact ⟨rfl, rfl⟩
  · exact ⟨rfl, rfl⟩

/-- The manager listens on only for a search that is to be resumed. -/
theorem stopDiscovery_isListening {search : DiscoverySearch}
    (searching : search.searching = true) :
    search.stopDiscovery.isListening =
      (search.shouldResumeSearch && search.isListening) := by
  unfold stopDiscovery setRunning
  rw [if_pos searching]
  cases resumes : search.shouldResumeSearch <;> simp

theorem startSSIDTimer_timers (search : DiscoverySearch) (ssidName : String) :
    (search.startSSIDTimer ssidName).ssidTimer = true ∧
      (search.startSSIDTimer ssidName).liveTimers = search.liveTimers + 1 := by
  have same := sameTimers_detectSSIDChange
    { search with
      ssidTimer := true
      replacedTimers :=
        if search.ssidTimer then search.replacedTimers + 1 else search.replacedTimers }
    ssidName
  refine ⟨same.ssidTimer, same.liveTimers.trans ?_⟩
  rw [liveTimers, liveTimers]
  cases search.ssidTimer <;> rfl

theorem pauseDiscovery_timers (search : DiscoverySearch) :
    search.pauseDiscovery.ssidTimer = false ∧
      search.pauseDiscovery.liveTimers = search.replacedTimers := by
  unfold pauseDiscovery
  dsimp only
  split <;> exact ⟨rfl, rfl⟩

theorem resumeDiscovery_timers (search : DiscoverySearch) (ssidName : String) :
    (search.resumeDiscovery ssidName).ssidTimer = true ∧
      (search.resumeDiscovery ssidName).liveTimers = search.liveTimers + 1 := by
  have started := startSSIDTimer_timers search ssidName
  unfold resumeDiscovery
  dsimp only
  split
  · exact started
  · exact started

end DiscoverySearch

namespace SearchWatch

/-- One timer in the foreground, and none in the background. -/
def HasItsTimer (watch : SearchWatch) : Prop :=
  watch.search.liveTimers = watch.inForeground.toNat

/-- What the flags know of the timer, besides the search. -/
structure TracksTimer (watch : SearchWatch) : Prop extends Tracks watch where
  paused : watch.search.ssidTimer = false → watch.search.shouldResumeSearch = true
  active : watch.search.isListening = true →
    watch.search.searching = true ∨ watch.search.shouldResumeSearch = true

/-- The manager hears of the background, and becomes active only from there. -/
def keepsTimer (watch : SearchWatch) : SearchEvent → Bool
  | .didEnterBackground => watch.search.isListening || !watch.inForeground
  | .didBecomeActive _ => !watch.search.isListening || !watch.inForeground
  | _ => true

variable {clients : ClientParameters} {platforms : DefaultPlatforms}
  {watch next : SearchWatch}

theorem TracksTimer.step {event : SearchEvent} (tracks : watch.TracksTimer)
    (taken : watch.step clients platforms event = some next) : next.TracksTimer := by
  have tracked := tracks.toTracks.step taken
  rcases Option.map_eq_some_iff.mp taken with ⟨search, stepped, equal⟩
  subst equal
  refine { tracked with paused := ?_, active := ?_ }
  · cases event with
    | startDiscovery =>
        have same := DiscoverySearch.sameTimers_startDiscovery stepped
        intro paused
        have resumes := tracks.paused (same.ssidTimer.symm.trans paused)
        rcases DiscoverySearch.startDiscovery_spec stepped with ⟨_, equal⟩ |
          ⟨_, provided, services, _, _, _, _, kept⟩
        · exact equal ▸ resumes
        · rw [DiscoverySearch.withServices_shouldResumeSearch services] at kept
          exact kept.trans resumes
    | stopDiscovery =>
        cases stepped
        have same := DiscoverySearch.sameTimers_stopDiscovery watch.search
        intro paused
        have resumes := tracks.paused (same.ssidTimer.symm.trans paused)
        change watch.search.stopDiscovery.shouldResumeSearch = true
        rcases watch.search.stopDiscovery_spec with ⟨_, equal⟩ | ⟨_, _, _, kept, _⟩
        · rw [equal]
          exact resumes
        · exact kept.trans resumes
    | didEnterBackground =>
        cases stepped
        cases listening : watch.search.isListening with
        | false => exact tracks.paused
        | true =>
            intro _
            refine watch.search.pauseDiscovery_spec.2.2.2.1.trans ?_
            rw [Bool.or_eq_true]
            exact tracks.active listening
    | didBecomeActive ssidName =>
        cases stepped
        cases listening : watch.search.isListening with
        | false => exact tracks.paused
        | true =>
            have timer := (watch.search.resumeDiscovery_timers ssidName).1
            exact fun paused => Bool.noConfusion (timer.symm.trans paused)
    | ssidTimerFired ssidName =>
        cases stepped
        cases timer : watch.search.hasTimer with
        | false => exact tracks.paused
        | true =>
            have same := watch.search.sameTimers_detectSSIDChange ssidName
            have kept := (watch.search.detectSSIDChange_spec ssidName).1
            intro paused
            exact kept.shouldResumeSearch.trans
              (tracks.paused (same.ssidTimer.symm.trans paused))
  · cases event with
    | startDiscovery =>
        intro _
        rcases DiscoverySearch.startDiscovery_spec stepped with ⟨searching, equal⟩ |
          ⟨_, _, _, _, _, searching, _⟩
        · exact .inl (equal ▸ searching)
        · exact .inl searching
    | stopDiscovery =>
        cases stepped
        rcases watch.search.stopDiscovery_spec with ⟨_, equal⟩ | ⟨searching, _, _, kept, _⟩
        · change watch.search.stopDiscovery.isListening = true → _
          rw [equal]
          exact tracks.active
        · intro listens
          rw [DiscoverySearch.stopDiscovery_isListening searching, Bool.and_eq_true] at listens
          exact .inr (kept.trans listens.1)
    | didEnterBackground =>
        cases stepped
        cases listening : watch.search.isListening with
        | false => exact tracks.active
        | true =>
            intro _
            refine .inr (watch.search.pauseDiscovery_spec.2.2.2.1.trans ?_)
            rw [Bool.or_eq_true]
            exact tracks.active listening
    | didBecomeActive ssidName =>
        cases stepped
        cases listening : watch.search.isListening with
        | false => exact tracks.active
        | true =>
            intro _
            refine .inl ((watch.search.resumeDiscovery_spec ssidName).2.2.1.trans ?_)
            rw [Bool.or_eq_true]
            exact tracks.active listening
    | ssidTimerFired ssidName =>
        cases stepped
        cases timer : watch.search.hasTimer with
        | false => exact tracks.active
        | true =>
            have kept := (watch.search.detectSSIDChange_spec ssidName).1
            intro listens
            exact (tracks.active (kept.isListening.symm.trans listens)).imp
              kept.searching.trans kept.shouldResumeSearch.trans

/-- In the foreground the timer that is remembered is the live one. -/
theorem TracksTimer.replacedTimers (tracks : watch.TracksTimer) (has : watch.HasItsTimer) :
    watch.search.replacedTimers = 0 := by
  rw [HasItsTimer, DiscoverySearch.liveTimers] at has
  cases timer : watch.search.ssidTimer with
  | true =>
      have most := Bool.toNat_le watch.inForeground
      rw [timer, Bool.toNat_true] at has
      omega
  | false =>
      rw [timer, tracks.background (tracks.paused timer)] at has
      exact has

/-- In the background without a timer the manager listens. -/
theorem TracksTimer.isListening (tracks : watch.TracksTimer) (has : watch.HasItsTimer)
    (background : watch.inForeground = false) : watch.search.isListening = true := by
  rw [HasItsTimer, DiscoverySearch.liveTimers, background] at has
  have timer : watch.search.ssidTimer = false := by
    cases timer : watch.search.ssidTimer with
    | false => rfl
    | true =>
        rw [timer] at has
        exact absurd has (Nat.succ_ne_zero _)
  exact tracks.coherent.resuming (tracks.paused timer)

/-- A step that leaves the app with its timer. -/
theorem keepsTimer_iff {event : SearchEvent} (tracks : watch.TracksTimer)
    (has : watch.HasItsTimer) (taken : watch.step clients platforms event = some next) :
    keepsTimer watch event = true ↔ next.HasItsTimer := by
  rcases Option.map_eq_some_iff.mp taken with ⟨search, stepped, equal⟩
  subst equal
  cases event with
  | startDiscovery =>
      exact iff_of_true rfl
        ((DiscoverySearch.sameTimers_startDiscovery stepped).liveTimers.trans has)
  | stopDiscovery =>
      cases stepped
      exact iff_of_true rfl
        ((DiscoverySearch.sameTimers_stopDiscovery watch.search).liveTimers.trans has)
  | didEnterBackground =>
      cases stepped
      change _ ↔ DiscoverySearch.liveTimers _ = 0
      cases listening : watch.search.isListening with
      | false =>
          rw [HasItsTimer] at has
          rw [if_neg Bool.false_ne_true, has, keepsTimer, listening]
          cases watch.inForeground <;> decide
      | true =>
          rw [if_pos rfl, watch.search.pauseDiscovery_timers.2, tracks.replacedTimers has,
            keepsTimer, listening]
          exact iff_of_true rfl rfl
  | didBecomeActive ssidName =>
      cases stepped
      change _ ↔ DiscoverySearch.liveTimers _ = 1
      cases listening : watch.search.isListening with
      | false =>
          have foreground : watch.inForeground = true := by
            cases foreground : watch.inForeground with
            | true => rfl
            | false => exact listening.symm.trans (tracks.isListening has foreground)
          rw [HasItsTimer, foreground] at has
          rw [if_neg Bool.false_ne_true, keepsTimer, listening]
          exact iff_of_true rfl has
      | true =>
          rw [HasItsTimer] at has
          rw [if_pos rfl, (watch.search.resumeDiscovery_timers ssidName).2, has, keepsTimer,
            listening]
          cases watch.inForeground <;> decide
  | ssidTimerFired ssidName =>
      cases stepped
      cases timer : watch.search.hasTimer with
      | false => exact iff_of_true rfl has
      | true =>
          exact iff_of_true rfl
            ((watch.search.sameTimers_detectSSIDChange ssidName).liveTimers.trans has)

/-- A manager that is created in the foreground or in the background. -/
def created (registry : DiscoveryRegistry) (currentSSID : Option String)
    (inForeground : Bool) : SearchWatch :=
  { search := { registry, currentSSID }, inForeground }

theorem TracksTimer.created (registry : DiscoveryRegistry) (currentSSID : Option String)
    (inForeground : Bool) : (created registry currentSSID inForeground).TracksTimer := by
  refine ⟨⟨⟨?_, ?_, ?_⟩, ?_, ?_⟩, ?_, ?_⟩
  all_goals
    intro set
    cases set

/-- In every run there is one timer in the foreground and none in the background, exactly
as long as the manager is created in the foreground, hears of the background, and becomes
active only from there. -/
theorem run_hasItsTimer_iff {registry : DiscoveryRegistry} {currentSSID : Option String}
    {inForeground : Bool} {events : List SearchEvent} {final : SearchWatch}
    (reached : runFrom (step clients platforms) (created registry currentSSID inForeground)
      events = some final) :
    (inForeground = true ∧
      EveryStep (step clients platforms) (fun watch event => keepsTimer watch event = true)
        (created registry currentSSID inForeground) events) ↔
      Throughout (step clients platforms) HasItsTimer
        (created registry currentSSID inForeground) events := by
  cases inForeground with
  | false =>
      refine iff_of_false (fun impossible => Bool.false_ne_true impossible.1) fun throughout => ?_
      have first : (SearchWatch.created registry currentSSID false).HasItsTimer := by
        cases events with
        | nil => exact throughout
        | cons event events => exact throughout.1
      cases first
  | true =>
      rw [and_iff_right rfl]
      refine everyStep_iff_throughout ?_ ?_ (TracksTimer.created registry currentSSID true) rfl
        reached
      · intro watch event next tracks taken
        exact tracks.step taken
      · intro watch event next tracks has taken
        exact keepsTimer_iff tracks has taken

theorem run_hasItsTimer_iff_resumed :
    Throughout (step (fun _ => none) rokuPlatform) HasItsTimer (created {} (some "home") true)
      [.startDiscovery, .didEnterBackground, .didBecomeActive "home", .stopDiscovery] :=
  (run_hasItsTimer_iff rfl).mp ⟨rfl, by decide⟩

/-- The app becomes active without having been in the background. -/
theorem second_timer_started :
    ¬ Throughout (step (fun _ => none) rokuPlatform) HasItsTimer (created {} (some "home") true)
      [.startDiscovery, .didBecomeActive "home"] := by
  intro throughout
  have live : DiscoverySearch.liveTimers _ = Bool.toNat _ := throughout.2.2
  exact absurd live (by decide +kernel)

end SearchWatch

end ConnectSDK
