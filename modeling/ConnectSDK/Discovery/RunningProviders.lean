import ConnectSDK.Discovery.DiscoverySearch

/-! # When the providers run

The providers should run while the client searches and the app is in the foreground.
-/

namespace ConnectSDK

namespace DiscoverySearch

/-- There is something to start and stop. -/
def hasProviders (search : DiscoverySearch) : Bool :=
  search.registry.discoveryProviders.any search.searches

/-- All providers run, or none does. -/
def ProvidersRun (search : DiscoverySearch) (isRunning : Bool) : Prop :=
  ∀ provider ∈ search.registry.discoveryProviders, search.searches provider = true →
    search.isRunning provider = isRunning

/-- What holds of the flags whatever happens. -/
structure Coherent (search : DiscoverySearch) : Prop where
  running : search.searching = true → search.ProvidersRun true
  listening : search.searching = true → search.isListening = true
  resuming : search.shouldResumeSearch = true → search.isListening = true

theorem providersRun_setRunning (search : DiscoverySearch) (isRunning : Bool) :
    (search.setRunning isRunning).ProvidersRun isRunning := by
  intro provider listed searches
  exact if_pos ⟨listed, searches⟩

theorem ProvidersRun.of_not_hasProviders {search : DiscoverySearch}
    (none : search.hasProviders = false) (isRunning : Bool) :
    search.ProvidersRun isRunning := by
  intro provider listed searches
  exact absurd searches (List.any_eq_false.mp none provider listed)

theorem hasProviders_congr {search after : DiscoverySearch}
    (same : after.registry = search.registry) : after.hasProviders = search.hasProviders := by
  unfold hasProviders searches
  rw [same]

/-- Providers that run do not stand still. -/
theorem ProvidersRun.iff_eq {search : DiscoverySearch} {isRunning other : Bool}
    (run : search.ProvidersRun isRunning) :
    search.ProvidersRun other ↔ search.hasProviders = false ∨ isRunning = other := by
  cases has : search.hasProviders with
  | false => exact iff_of_true (.of_not_hasProviders has other) (Or.inl rfl)
  | true =>
      rcases List.any_eq_true.mp has with ⟨provider, listed, searches⟩
      constructor
      · intro also
        exact Or.inr ((run provider listed searches).symm.trans (also provider listed searches))
      · rintro (absent | same)
        · cases absent
        · exact same ▸ run

/-- The providers and the flags stay, whatever becomes of the timers. -/
structure SameSearch (search after : DiscoverySearch) : Prop where
  registry : after.registry = search.registry
  searching : after.searching = search.searching
  shouldResumeSearch : after.shouldResumeSearch = search.shouldResumeSearch
  isListening : after.isListening = search.isListening

/-- A change of the network starts the providers, if they ran before or not. -/
theorem detectSSIDChange_spec (search : DiscoverySearch) (ssidName : String) :
    SameSearch search (search.detectSSIDChange ssidName) ∧
      ∀ isRunning, search.ProvidersRun isRunning →
        (search.detectSSIDChange ssidName).ProvidersRun
          (isRunning || search.changesSSID ssidName) := by
  unfold detectSSIDChange
  cases noted : search.currentSSID with
  | none =>
      refine ⟨⟨rfl, rfl, rfl, rfl⟩, fun isRunning run => ?_⟩
      rw [changesSSID, noted, Option.any_none, Bool.or_false]
      exact run
  | some currentSSID =>
      dsimp only
      cases changes : search.changesSSID ssidName with
      | true =>
          refine ⟨⟨rfl, rfl, rfl, rfl⟩, fun isRunning run => ?_⟩
          rw [Bool.or_true]
          exact providersRun_setRunning (search.setRunning false) true
      | false =>
          refine ⟨⟨rfl, rfl, rfl, rfl⟩, fun isRunning run => ?_⟩
          rw [Bool.or_false]
          exact run

theorem startSSIDTimer_spec (search : DiscoverySearch) (ssidName : String) :
    SameSearch search (search.startSSIDTimer ssidName) ∧
      ∀ isRunning, search.ProvidersRun isRunning →
        (search.startSSIDTimer ssidName).ProvidersRun
          (isRunning || search.changesSSID ssidName) := by
  have detected := detectSSIDChange_spec
    { search with
      ssidTimer := true
      replacedTimers :=
        if search.ssidTimer then search.replacedTimers + 1 else search.replacedTimers }
    ssidName
  exact ⟨⟨detected.1.registry, detected.1.searching, detected.1.shouldResumeSearch,
    detected.1.isListening⟩, detected.2⟩

theorem Coherent.of_sameSearch {search after : DiscoverySearch} (coherent : search.Coherent)
    (same : SameSearch search after)
    (running : search.searching = true → after.ProvidersRun true) : after.Coherent := by
  constructor
  · rw [same.searching]
    exact running
  · rw [same.searching, same.isListening]
    exact coherent.listening
  · rw [same.shouldResumeSearch, same.isListening]
    exact coherent.resuming

/-! ## What each operation does to the providers -/

theorem startDiscovery_spec {clients : ClientParameters} {platforms : DefaultPlatforms}
    {search after : DiscoverySearch}
    (taken : search.startDiscovery clients platforms = some after) :
    (search.searching = true ∧ after = search) ∨
      search.searching = false ∧ ∃ provided,
        search.withServices clients platforms = some provided ∧
        after.registry = provided.registry ∧ after.ProvidersRun true ∧
        after.searching = true ∧ after.isListening = true ∧
        after.shouldResumeSearch = provided.shouldResumeSearch := by
  unfold startDiscovery at taken
  cases searching : search.searching with
  | true =>
      rw [searching] at taken
      cases taken
      exact Or.inl ⟨rfl, rfl⟩
  | false =>
      rw [searching] at taken
      rcases Option.map_eq_some_iff.mp taken with ⟨provided, services, equal⟩
      subst equal
      refine Or.inr ⟨rfl, provided, services, rfl, ?_, rfl, rfl, rfl⟩
      exact providersRun_setRunning { provided with searching := true } true

theorem withServices_shouldResumeSearch {clients : ClientParameters}
    {platforms : DefaultPlatforms} {search provided : DiscoverySearch}
    (services : search.withServices clients platforms = some provided) :
    provided.shouldResumeSearch = search.shouldResumeSearch := by
  unfold withServices at services
  split at services
  · rcases Option.map_eq_some_iff.mp services with ⟨registry, _, equal⟩
    subst equal
    rfl
  · cases services
    rfl

/-- Stopping, or pausing, what does not search changes no provider. -/
theorem stopDiscovery_spec (search : DiscoverySearch) :
    (search.searching = false ∧ search.stopDiscovery = search) ∨
      search.searching = true ∧ search.stopDiscovery.ProvidersRun false ∧
        search.stopDiscovery.searching = false ∧
        search.stopDiscovery.shouldResumeSearch = search.shouldResumeSearch ∧
        (search.shouldResumeSearch = true →
          search.stopDiscovery.isListening = search.isListening) := by
  unfold stopDiscovery
  split
  · rename_i searching
    have stands := providersRun_setRunning { search with searching := false } false
    refine Or.inr ⟨searching, ?_⟩
    dsimp only
    split
    · exact ⟨stands, rfl, rfl, fun _ => rfl⟩
    · rename_i resumes
      exact ⟨stands, rfl, rfl, fun resuming => absurd resuming resumes⟩
  · rename_i idle
    exact Or.inl ⟨Bool.eq_false_iff.mpr idle, rfl⟩

theorem pauseDiscovery_spec (search : DiscoverySearch) :
    search.pauseDiscovery.registry = search.registry ∧
      search.pauseDiscovery.isListening = search.isListening ∧
      search.pauseDiscovery.searching = false ∧
      search.pauseDiscovery.shouldResumeSearch =
        (search.searching || search.shouldResumeSearch) ∧
      ∀ isRunning, search.ProvidersRun isRunning →
        search.pauseDiscovery.ProvidersRun (isRunning && !search.searching) := by
  unfold pauseDiscovery stopSSIDTimer
  dsimp only
  split
  · rename_i searching
    refine ⟨rfl, rfl, rfl, ?_, fun isRunning run => ?_⟩
    · rw [searching]
      rfl
    · rw [searching, Bool.not_true, Bool.and_false]
      exact providersRun_setRunning _ false
  · rename_i idle
    rw [Bool.not_eq_true] at idle
    refine ⟨rfl, rfl, idle, ?_, fun isRunning run => ?_⟩
    · rw [idle, Bool.false_or]
    · rw [idle, Bool.not_false, Bool.and_true]
      exact run

theorem resumeDiscovery_spec (search : DiscoverySearch) (ssidName : String) :
    (search.resumeDiscovery ssidName).registry = search.registry ∧
      (search.resumeDiscovery ssidName).isListening = search.isListening ∧
      (search.resumeDiscovery ssidName).searching =
        (search.searching || search.shouldResumeSearch) ∧
      (search.resumeDiscovery ssidName).shouldResumeSearch = false ∧
      ∀ isRunning, search.shouldResumeSearch = true ∨ search.ProvidersRun isRunning →
        (search.resumeDiscovery ssidName).ProvidersRun
          (isRunning || search.changesSSID ssidName || search.shouldResumeSearch) := by
  rcases startSSIDTimer_spec search ssidName with ⟨same, run⟩
  unfold resumeDiscovery
  dsimp only
  rw [same.shouldResumeSearch]
  cases resumes : search.shouldResumeSearch with
  | true =>
      refine ⟨same.registry, same.isListening, (Bool.or_true _).symm, rfl, fun _ _ => ?_⟩
      rw [Bool.or_true]
      exact providersRun_setRunning _ true
  | false =>
      refine ⟨same.registry, same.isListening, ?_, same.shouldResumeSearch.trans resumes,
        fun isRunning before => ?_⟩
      · rw [Bool.or_false]
        exact same.searching
      · rw [Bool.or_false]
        exact run isRunning (before.resolve_left Bool.false_ne_true)

end DiscoverySearch

/-! ## Runs -/

/-- The search, with the client's last call and the state of the app. -/
structure SearchWatch where
  search : DiscoverySearch
  started : Bool := false
  inForeground : Bool := true

namespace SearchWatch

def startedAfter (started : Bool) : SearchEvent → Bool
  | .startDiscovery => true
  | .stopDiscovery => false
  | _ => started

def inForegroundAfter (inForeground : Bool) : SearchEvent → Bool
  | .didEnterBackground => false
  | .didBecomeActive _ => true
  | _ => inForeground

def step (clients : ClientParameters) (platforms : DefaultPlatforms) (watch : SearchWatch)
    (event : SearchEvent) : Option SearchWatch :=
  (watch.search.step clients platforms event).map fun search =>
    { search
      started := startedAfter watch.started event
      inForeground := inForegroundAfter watch.inForeground event }

/-- The providers run exactly when they should. -/
def RunsAsWanted (watch : SearchWatch) : Prop :=
  watch.search.ProvidersRun (watch.started && watch.inForeground)

/-- What the flags know of the client and of the app. -/
structure Tracks (watch : SearchWatch) : Prop where
  coherent : watch.search.Coherent
  background : watch.search.shouldResumeSearch = true → watch.inForeground = false
  started : watch.started = true →
    watch.search.searching = true ∨ watch.search.shouldResumeSearch = true

/-- There is nothing to search with. -/
def startsNothing (clients : ClientParameters) (platforms : DefaultPlatforms)
    (search : DiscoverySearch) : Bool :=
  if search.searching then
    !search.hasProviders
  else
    (search.withServices clients platforms).all fun provided => !provided.hasProviders

/-- Discovery is started in the foreground. When the app becomes active, the client's last
call was a start, or no search is to be resumed and the network is the same. A timer finds
another network only while the client searches in the foreground. -/
def startsAsWanted (clients : ClientParameters) (platforms : DefaultPlatforms)
    (watch : SearchWatch) : SearchEvent → Bool
  | .startDiscovery =>
      watch.inForeground || startsNothing clients platforms watch.search
  | .didBecomeActive ssidName =>
      watch.started || !watch.search.hasProviders ||
        (!watch.search.shouldResumeSearch &&
          !(watch.search.isListening && watch.search.changesSSID ssidName))
  | .ssidTimerFired ssidName =>
      (watch.started && watch.inForeground) || !watch.search.hasProviders ||
        !(watch.search.hasTimer && watch.search.changesSSID ssidName)
  | _ => true

variable {clients : ClientParameters} {platforms : DefaultPlatforms}
  {watch next : SearchWatch}

theorem Tracks.step {event : SearchEvent} (tracks : watch.Tracks)
    (taken : watch.step clients platforms event = some next) : next.Tracks := by
  rcases Option.map_eq_some_iff.mp taken with ⟨search, stepped, equal⟩
  subst equal
  cases event with
  | startDiscovery =>
      rcases DiscoverySearch.startDiscovery_spec stepped with ⟨searching, equal⟩ |
        ⟨_, provided, services, _, run, searching, listening, resumes⟩
      · subst equal
        exact ⟨tracks.coherent, tracks.background, fun _ => Or.inl searching⟩
      · have same := resumes.trans (DiscoverySearch.withServices_shouldResumeSearch services)
        refine ⟨⟨fun _ => run, fun _ => listening, fun _ => listening⟩, ?_,
          fun _ => Or.inl searching⟩
        rw [same]
        exact tracks.background
  | stopDiscovery =>
      cases stepped
      rcases watch.search.stopDiscovery_spec with ⟨_, equal⟩ |
        ⟨_, _, idle, resumes, listening⟩
      · rw [equal]
        exact ⟨tracks.coherent, tracks.background, fun started => Bool.noConfusion started⟩
      · refine ⟨⟨?_, ?_, ?_⟩, ?_, fun started => Bool.noConfusion started⟩
        · rw [idle]
          exact fun searching => Bool.noConfusion searching
        · rw [idle]
          exact fun searching => Bool.noConfusion searching
        · rw [resumes]
          intro resuming
          rw [listening resuming]
          exact tracks.coherent.resuming resuming
        · rw [resumes]
          exact tracks.background
  | didEnterBackground =>
      cases stepped
      cases listening : watch.search.isListening with
      | false =>
          refine ⟨tracks.coherent, fun _ => rfl, tracks.started⟩
      | true =>
          rcases watch.search.pauseDiscovery_spec with ⟨_, listens, idle, resumes, _⟩
          refine ⟨⟨?_, ?_, ?_⟩, fun _ => rfl, ?_⟩
          · exact fun searching => Bool.noConfusion (idle.symm.trans searching)
          · exact fun searching => Bool.noConfusion (idle.symm.trans searching)
          · exact fun _ => listens.trans listening
          · intro started
            refine Or.inr (resumes.trans ?_)
            rw [Bool.or_eq_true]
            exact tracks.started started
  | didBecomeActive ssidName =>
      cases stepped
      cases listening : watch.search.isListening with
      | false =>
          refine ⟨tracks.coherent, fun resuming => ?_, tracks.started⟩
          have listens := tracks.coherent.resuming resuming
          rw [listening] at listens
          cases listens
      | true =>
          rcases watch.search.resumeDiscovery_spec ssidName with
            ⟨registry, listens, searching, done, run⟩
          refine ⟨⟨fun searches => ?_, ?_, ?_⟩, ?_, ?_⟩
          · have before := searching.symm.trans searches
            rw [Bool.or_eq_true] at before
            exact run true (before.symm.imp id tracks.coherent.running)
          · exact fun _ => listens.trans listening
          · exact fun _ => listens.trans listening
          · exact fun resuming => Bool.noConfusion (done.symm.trans resuming)
          · intro started
            refine Or.inl (searching.trans ?_)
            rw [Bool.or_eq_true]
            exact tracks.started started
  | ssidTimerFired ssidName =>
      cases stepped
      cases timer : watch.search.hasTimer with
      | false => exact ⟨tracks.coherent, tracks.background, tracks.started⟩
      | true =>
          rcases watch.search.detectSSIDChange_spec ssidName with ⟨same, run⟩
          refine ⟨tracks.coherent.of_sameSearch same fun searching => ?_, ?_, ?_⟩
          · exact run true (tracks.coherent.running searching)
          · exact fun resuming => tracks.background (same.shouldResumeSearch.symm.trans resuming)
          · intro started
            exact (tracks.started started).imp same.searching.trans
              same.shouldResumeSearch.trans

/-- In the foreground a client that wants to search does. -/
theorem Tracks.searching (tracks : watch.Tracks)
    (wanted : (watch.started && watch.inForeground) = true) :
    watch.search.searching = true := by
  rw [Bool.and_eq_true] at wanted
  rcases tracks.started wanted.1 with searching | resumes
  · exact searching
  · rw [tracks.background resumes] at wanted
    cases wanted.2

/-- A step that leaves the providers running as they should. -/
theorem startsAsWanted_iff {event : SearchEvent} (tracks : watch.Tracks)
    (wanted : watch.RunsAsWanted) (taken : watch.step clients platforms event = some next) :
    startsAsWanted clients platforms watch event = true ↔ next.RunsAsWanted := by
  rcases Option.map_eq_some_iff.mp taken with ⟨search, stepped, equal⟩
  subst equal
  cases event with
  | startDiscovery =>
      change _ ↔ search.ProvidersRun (true && watch.inForeground)
      rcases DiscoverySearch.startDiscovery_spec stepped with ⟨searching, equal⟩ |
        ⟨idle, provided, services, registry, run, _⟩
      · subst equal
        rw [(tracks.coherent.running searching).iff_eq]
        cases foreground : watch.inForeground <;>
          simp [startsAsWanted, startsNothing, searching, foreground]
      · rw [run.iff_eq, DiscoverySearch.hasProviders_congr registry]
        cases foreground : watch.inForeground <;>
          simp [startsAsWanted, startsNothing, idle, services, foreground]
  | stopDiscovery =>
      cases stepped
      refine iff_of_true rfl ?_
      change watch.search.stopDiscovery.ProvidersRun false
      rcases watch.search.stopDiscovery_spec with ⟨idle, equal⟩ | ⟨_, stands, _⟩
      · have unwanted : (watch.started && watch.inForeground) = false :=
          Bool.eq_false_iff.mpr fun holds =>
            Bool.noConfusion (idle.symm.trans (tracks.searching holds))
        rw [equal, ← unwanted]
        exact wanted
      · exact stands
  | didEnterBackground =>
      cases stepped
      refine iff_of_true rfl ?_
      change DiscoverySearch.ProvidersRun _ (watch.started && false)
      rw [Bool.and_false]
      cases listening : watch.search.isListening with
      | false =>
          have unwanted : (watch.started && watch.inForeground) = false :=
            Bool.eq_false_iff.mpr fun holds => Bool.noConfusion
              (listening.symm.trans (tracks.coherent.listening (tracks.searching holds)))
          rw [RunsAsWanted, unwanted] at wanted
          exact wanted
      | true =>
          rcases watch.search.pauseDiscovery_spec with ⟨_, _, _, _, run⟩
          have stands := run _ wanted
          cases holds : (watch.started && watch.inForeground) with
          | false =>
              rw [holds] at stands
              exact stands
          | true =>
              rw [holds, tracks.searching holds] at stands
              exact stands
  | didBecomeActive ssidName =>
      cases stepped
      change _ ↔ DiscoverySearch.ProvidersRun _ (watch.started && true)
      rw [Bool.and_true]
      cases listening : watch.search.isListening with
      | false =>
          have idle : watch.search.shouldResumeSearch = false :=
            Bool.eq_false_iff.mpr fun resumes =>
              Bool.noConfusion (listening.symm.trans (tracks.coherent.resuming resumes))
          have unwanted : watch.started = false := by
            refine Bool.eq_false_iff.mpr fun started => ?_
            rcases tracks.started started with searching | resumes
            · exact Bool.noConfusion
                (listening.symm.trans (tracks.coherent.listening searching))
            · exact Bool.noConfusion (idle.symm.trans resumes)
          refine iff_of_true (by simp [startsAsWanted, idle, listening]) ?_
          rw [RunsAsWanted, unwanted, Bool.false_and] at wanted
          rw [unwanted]
          exact wanted
      | true =>
          rcases watch.search.resumeDiscovery_spec ssidName with ⟨registry, _, _, _, run⟩
          rw [if_pos rfl, (run _ (Or.inr wanted)).iff_eq,
            DiscoverySearch.hasProviders_congr registry]
          cases started : watch.started with
          | false => cases resumes : watch.search.shouldResumeSearch <;>
              simp [startsAsWanted, started, listening, resumes]
          | true =>
              refine iff_of_true (by simp [startsAsWanted, started]) ?_
              rcases tracks.started started with searching | resumes
              · have runs := (tracks.coherent.running searching).iff_eq.mp wanted
                rw [started] at runs
                exact runs.imp_right fun foreground => by simp [← foreground]
              · exact Or.inr (by simp [resumes])
  | ssidTimerFired ssidName =>
      cases stepped
      change _ ↔ DiscoverySearch.ProvidersRun _ (watch.started && watch.inForeground)
      cases timer : watch.search.hasTimer with
      | false => exact iff_of_true (by simp [startsAsWanted, timer]) wanted
      | true =>
          rcases watch.search.detectSSIDChange_spec ssidName with ⟨same, run⟩
          rw [if_pos rfl, (run _ wanted).iff_eq,
            DiscoverySearch.hasProviders_congr same.registry]
          cases holds : (watch.started && watch.inForeground) <;>
            simp [startsAsWanted, holds, timer]

/-- A new manager. Its first check notes the network. -/
def initially (registry : DiscoveryRegistry) (currentSSID : Option String) : SearchWatch :=
  { search := { registry, currentSSID } }

theorem Tracks.initially (registry : DiscoveryRegistry) (currentSSID : Option String) :
    (initially registry currentSSID).Tracks := by
  refine ⟨⟨?_, ?_, ?_⟩, ?_, ?_⟩
  all_goals
    intro set
    cases set

theorem runsAsWanted_initially (registry : DiscoveryRegistry) (currentSSID : Option String) :
    (initially registry currentSSID).RunsAsWanted := by
  intro provider _ _
  rfl

/-- In every run the providers run while the client searches and the app is in the
foreground, exactly as long as every step starts them as it should. -/
theorem run_runsAsWanted_iff {registry : DiscoveryRegistry} {currentSSID : Option String}
    {events : List SearchEvent} {final : SearchWatch}
    (reached : runFrom (step clients platforms) (initially registry currentSSID) events =
      some final) :
    EveryStep (step clients platforms)
        (fun watch event => startsAsWanted clients platforms watch event = true)
        (initially registry currentSSID) events ↔
      Throughout (step clients platforms) RunsAsWanted (initially registry currentSSID)
        events := by
  refine everyStep_iff_throughout ?_ ?_ (Tracks.initially registry currentSSID)
    (runsAsWanted_initially registry currentSSID) reached
  · intro watch event next tracks taken
    exact tracks.step taken
  · intro watch event next tracks wanted taken
    exact startsAsWanted_iff tracks wanted taken

/-- The Roku service with its provider. -/
def rokuPlatform : DefaultPlatforms :=
  [(.deviceService .rokuService, .discoveryProvider .ssdpDiscoveryProvider)]

theorem run_runsAsWanted_iff_resumed :
    Throughout (step (fun _ => none) rokuPlatform) RunsAsWanted (initially {} (some "home"))
      [.startDiscovery, .didEnterBackground, .didBecomeActive "home", .stopDiscovery] :=
  (run_runsAsWanted_iff rfl).mp (by decide)

/-- A stop in the background is ignored, and the search resumed. A change of the network
starts providers that nobody started. -/
theorem stopped_search_resumes :
    (runFrom (step (fun _ => none) rokuPlatform) (initially {} (some "home"))
        [.startDiscovery, .didEnterBackground, .stopDiscovery,
          .didBecomeActive "home"]).map
        (fun watch => (watch.started, watch.search.isRunning ⟨0⟩)) = some (false, true) ∧
      (runFrom (step (fun _ => none) rokuPlatform) (initially {} (some "home"))
          [.startDiscovery, .stopDiscovery, .ssidTimerFired "office"]).map
          (fun watch => (watch.started, watch.search.isRunning ⟨0⟩)) = some (false, true) ∧
      ¬Throughout (step (fun _ => none) rokuPlatform) RunsAsWanted
        (initially {} (some "home"))
        [.startDiscovery, .didEnterBackground, .stopDiscovery, .didBecomeActive "home"] := by
  refine ⟨by decide +kernel, by decide +kernel, ?_⟩
  intro throughout
  have runs := throughout.2.2.2.2 ⟨0⟩ (by decide +kernel) (by decide +kernel)
  exact absurd runs (by decide +kernel)

end SearchWatch

end ConnectSDK
