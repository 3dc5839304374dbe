import ConnectSDK.Services.Helpers.SocketLinks

/-! # Reported ends of connections

Each time a web socket opens, a connection begins. Its end is reported to the delegate once
only if the client and its web socket do not both end it, and none of them ends it silently.
-/

namespace ConnectSDK

/-- A connection, by its web socket, and how often its end was reported. -/
structure SocketConnection where
  webSocket : Nat
  ended : Bool := false
  reports : Nat := 0

/-- The events that end a connection, as opposed to its losing the web socket. -/
def LinkEvent.ends : LinkEvent → Bool
  | .disconnect => true
  | .didClose => true
  | .didFail _ => true
  | _ => false

namespace Link

/-- Whether `webSocketDidOpen:` runs. -/
def opens (link : Link) : LinkEvent → Bool
  | .connect => decide (link.readyState = some .open)
  | .didOpen => link.socket.isSome
  | .didFail certificateChanged =>
      certificateChanged && decide (link.readyState = some .open)
  | _ => false

def uses (link : Link) (connection : SocketConnection) : Bool :=
  link.socket.any fun socket => decide (socket.number = connection.webSocket)

/-- Whether what is reported is about the connection, and not about the attempt at a later
one. -/
def concerns (link : Link) (connection : SocketConnection) : Bool :=
  link.socket.all fun socket => decide (socket.number = connection.webSocket)

/-- A connection after an event that led to `next`. -/
def note (link : Link) (event : LinkEvent) (next : Link) (connection : SocketConnection) :
    SocketConnection :=
  { connection with
    ended := connection.ended || event.ends || !next.uses connection
    reports := connection.reports +
      if link.concerns connection then next.reports - link.reports else 0 }

/-- The connections after an event, the last one first. -/
def follow (link : Link) (event : LinkEvent) (next : Link) (connections : List SocketConnection) :
    List SocketConnection :=
  let connections := connections.modifyHead (link.note event next)
  if link.opens event then
    (next.socket.toList.map fun socket => { webSocket := socket.number }) ++ connections
  else connections

/-- While the client counts as connected, disconnecting and its web socket end the
connection, and the web socket neither fails with a changed certificate nor is replaced.
Afterwards it is the other way round. -/
def EndsInTurn (link : Link) (connection : SocketConnection) : LinkEvent → Prop
  | .disconnect => link.concerns connection = true → link.connected = true
  | .didClose => link.uses connection = true → link.connected = true
  | .didFail certificateChanged => link.uses connection = true →
      link.connected = !certificateChanged
  | .connect => link.uses connection = true →
      link.readyState = some .closing ∨ link.readyState = some .closed →
        link.connected = false
  | .send => link.uses connection = true → link.readyState = some .closed →
      link.connected = false
  | _ => True

/-- What holds of the last connection. -/
structure Follows (link : Link) (connection : SocketConnection) : Prop where
  numbered : connection.webSocket < link.socketCount
  live : connection.ended = false →
    link.connected = true ∧ link.uses connection = true ∧ connection.reports = 0
  reported : 0 < connection.reports → link.connected = false

/-- The web sockets are numbered, and without one the client is not connected. -/
structure Numbered (link : Link) : Prop where
  offline : link.socket = none → link.connected = false
  numbered : ∀ socket, link.socket = some socket → socket.number < link.socketCount

/-- What holds of every client with a delegate. -/
structure Sound (link : Link) (connections : List SocketConnection) : Prop where
  hasDelegate : link.hasDelegate = true
  numbered : link.Numbered
  last : ∀ connection, connections.head? = some connection → link.Follows connection

end Link

/-- An end is reported exactly once. -/
def SocketConnection.ReportedOnce (connection : SocketConnection) : Prop :=
  connection.ended = true → connection.reports = 1

namespace Link

theorem Follows.reportedOnce_live {link : Link} {connection : SocketConnection}
    (hasDelegate : link.hasDelegate = true) (follows : link.Follows connection)
    (live : connection.ended = false) (event : LinkEvent) :
    link.EndsInTurn connection event ↔
      (link.note event (link.step event) connection).ReportedOnce := by
  rcases link with ⟨connected, socket, socketCount, delegate, reports⟩
  rcases connection with ⟨webSocket, ended, told⟩
  rcases follows.live live with ⟨online, uses, untold⟩
  have older := follows.numbered
  dsimp only at hasDelegate live online untold older
  subst hasDelegate live online untold
  cases socket with
  | none => cases uses
  | some socket =>
      rcases socket with ⟨number, readyState⟩
      have own : number = webSocket := of_decide_eq_true uses
      subst own
      have newer : socketCount ≠ number := Nat.ne_of_gt older
      cases event with
      | didFail certificateChanged =>
          cases certificateChanged <;> cases readyState <;>
            simp [EndsInTurn, note, SocketConnection.ReportedOnce, LinkEvent.ends, step, didFail,
              connect, Link.readyState, replaceSocket, report, Link.uses, concerns]
      | _ =>
          cases readyState <;>
            simp [EndsInTurn, note, SocketConnection.ReportedOnce, LinkEvent.ends, step, didClose,
              connect, send, disconnect, Link.readyState, replaceSocket, report, Link.uses,
              concerns, newer]

theorem reportedOnce_ended {link : Link} {connection : SocketConnection}
    (hasDelegate : link.hasDelegate = true)
    (offline : link.connected = false) (reported : connection.reports = 1)
    (ended : connection.ended = true) (event : LinkEvent) :
    link.EndsInTurn connection event ↔
      (link.note event (link.step event) connection).ReportedOnce := by
  rcases link with ⟨connected, socket, socketCount, delegate, reports⟩
  rcases connection with ⟨webSocket, done, told⟩
  dsimp only at hasDelegate offline reported ended
  subst hasDelegate offline reported ended
  cases socket with
  | none =>
      cases event <;>
        simp [EndsInTurn, note, SocketConnection.ReportedOnce, step, connect, send,
          disconnect, Link.readyState, replaceSocket, report, Link.uses, concerns]
  | some socket =>
      rcases socket with ⟨number, readyState⟩
      cases event with
      | didFail certificateChanged =>
          cases certificateChanged <;> cases readyState <;>
            simp [EndsInTurn, note, SocketConnection.ReportedOnce, step, didFail,
              connect, Link.readyState, replaceSocket, report, Link.uses, concerns]
      | _ =>
          cases readyState <;>
            simp [EndsInTurn, note, SocketConnection.ReportedOnce, step, didClose,
              connect, send, disconnect, Link.readyState, replaceSocket, report, Link.uses,
              concerns]

/-! ## What holds of every connection -/

theorem connect_cases (link : Link) :
    link.connect = { link with connected := true } ∧ link.readyState = some .open ∨
      link.connect = link ∧ link.socket.isSome = true ∨
      link.connect = link.replaceSocket := by
  rcases link with ⟨connected, socket, socketCount, hasDelegate, reports⟩
  cases socket with
  | none => exact .inr (.inr rfl)
  | some socket =>
      rcases socket with ⟨number, readyState⟩
      cases readyState with
      | connecting => exact .inr (.inl ⟨rfl, rfl⟩)
      | «open» => exact .inl ⟨rfl, rfl⟩
      | closing => exact .inr (.inr rfl)
      | closed => exact .inr (.inr rfl)

theorem send_cases (link : Link) :
    link.send = link ∧ link.socket.isSome = true ∨ link.send = link.replaceSocket := by
  rcases link with ⟨connected, socket, socketCount, hasDelegate, reports⟩
  cases socket with
  | none => exact .inr rfl
  | some socket =>
      rcases socket with ⟨number, readyState⟩
      cases readyState with
      | connecting => exact .inl ⟨rfl, rfl⟩
      | «open» => exact .inl ⟨rfl, rfl⟩
      | closing => exact .inl ⟨rfl, rfl⟩
      | closed => exact .inr rfl

theorem Numbered.replaceSocket {link : Link} : link.replaceSocket.Numbered where
  offline absent := by cases absent
  numbered socket held := by
    cases held
    exact Nat.lt_succ_self _

theorem Numbered.of_offline {link : Link} (sound : link.Numbered) :
    Numbered { link with connected := false } where
  offline _ := rfl
  numbered := sound.numbered

theorem Numbered.report {link : Link} (sound : link.Numbered) : link.report.Numbered :=
  ⟨sound.offline, sound.numbered⟩

theorem Numbered.connect {link : Link} (sound : link.Numbered) : link.connect.Numbered := by
  rcases link.connect_cases with ⟨same, opened⟩ | ⟨same, _⟩ | same
  · rw [same]
    refine ⟨fun absent => ?_, sound.numbered⟩
    rw [readyState, absent] at opened
    cases opened
  · rw [same]
    exact sound
  · rw [same]
    exact .replaceSocket

theorem Numbered.step {link : Link} (sound : link.Numbered) (event : LinkEvent) :
    (link.step event).Numbered := by
  cases event with
  | connect => exact sound.connect
  | send =>
      rcases link.send_cases with ⟨same, _⟩ | same
      · rw [Link.step, same]
        exact sound
      · rw [Link.step, same]
        exact .replaceSocket
  | disconnect => exact sound.of_offline.report
  | readyStateChanged readyState =>
      refine ⟨fun absent => sound.offline (Option.map_eq_none_iff.mp absent), ?_⟩
      intro socket held
      rcases Option.map_eq_some_iff.mp held with ⟨before, found, changed⟩
      rw [← changed, changeReadyState_number]
      exact sound.numbered before found
  | didOpen =>
      rw [Link.step]
      split_ifs with present
      · refine ⟨fun absent => ?_, sound.numbered⟩
        rw [absent] at present
        cases present
      · exact sound
  | didClose =>
      rw [Link.step]
      split_ifs with present
      · exact ⟨fun _ => rfl, fun _ held => by cases held⟩
      · exact sound
  | didFail certificateChanged =>
      rw [Link.step]
      split_ifs with present
      · cases certificateChanged with
        | true => exact sound.of_offline.connect
        | false => exact sound.of_offline.report
      · exact sound
  | other => exact sound

/-- Opening a socket reports nothing. -/
theorem connect_frame (link : Link) :
    ∃ connected socket socketCount,
      link.connect = { link with connected, socket, socketCount } ∧
        link.socketCount ≤ socketCount ∧ (link.connected = true → connected = true) ∧
        (link.readyState ≠ some .open → connected = link.connected) := by
  rcases link.connect_cases with ⟨same, opened⟩ | ⟨same, _⟩ | same
  · exact ⟨true, _, _, same, Nat.le_refl _, fun _ => rfl, fun closed => absurd opened closed⟩
  · exact ⟨_, _, _, same, Nat.le_refl _, id, fun _ => rfl⟩
  · exact ⟨_, _, _, same, Nat.le_succ _, id, fun _ => rfl⟩

theorem send_frame (link : Link) :
    ∃ socket socketCount, link.send = { link with socket, socketCount } ∧
      link.socketCount ≤ socketCount := by
  rcases link.send_cases with ⟨same, _⟩ | same
  · exact ⟨_, _, same, Nat.le_refl _⟩
  · exact ⟨_, _, same, Nat.le_succ _⟩

theorem step_grows (link : Link) (event : LinkEvent) :
    (link.step event).hasDelegate = link.hasDelegate ∧
      link.socketCount ≤ (link.step event).socketCount := by
  have failed : ∀ certificateChanged, (link.didFail certificateChanged).hasDelegate =
      link.hasDelegate ∧ link.socketCount ≤ (link.didFail certificateChanged).socketCount := by
    intro certificateChanged
    cases certificateChanged with
    | true =>
        rcases connect_frame { link with connected := false } with ⟨_, _, _, same, grown, _⟩
        rw [didFail, if_pos rfl, same]
        exact ⟨rfl, grown⟩
    | false => exact ⟨rfl, Nat.le_refl _⟩
  cases event with
  | connect =>
      rcases link.connect_frame with ⟨_, _, _, same, grown, _⟩
      rw [step, same]
      exact ⟨rfl, grown⟩
  | send =>
      rcases link.send_frame with ⟨_, _, same, grown⟩
      rw [step, same]
      exact ⟨rfl, grown⟩
  | disconnect => exact ⟨rfl, Nat.le_refl _⟩
  | readyStateChanged readyState => exact ⟨rfl, Nat.le_refl _⟩
  | didOpen =>
      rw [step]
      split_ifs <;> exact ⟨rfl, Nat.le_refl _⟩
  | didClose =>
      rw [step]
      split_ifs <;> exact ⟨rfl, Nat.le_refl _⟩
  | didFail certificateChanged =>
      rw [step]
      split_ifs
      · exact failed certificateChanged
      · exact ⟨rfl, Nat.le_refl _⟩
  | other => exact ⟨rfl, Nat.le_refl _⟩

/-- What ends no connection reports nothing. -/
theorem step_of_not_ends {link : Link} {event : LinkEvent} (goesOn : event.ends = false) :
    (link.connected = true → (link.step event).connected = true) ∧
      (link.step event).reports = link.reports := by
  cases event with
  | connect =>
      rcases link.connect_frame with ⟨_, _, _, same, _, stays, _⟩
      rw [step, same]
      exact ⟨stays, rfl⟩
  | send =>
      rcases link.send_frame with ⟨_, _, same, _⟩
      rw [step, same]
      exact ⟨id, rfl⟩
  | didOpen =>
      rw [step]
      split_ifs
      · exact ⟨fun _ => rfl, rfl⟩
      · exact ⟨id, rfl⟩
  | disconnect => cases goesOn
  | didClose => cases goesOn
  | didFail certificateChanged => cases goesOn
  | readyStateChanged readyState => exact ⟨id, rfl⟩
  | other => exact ⟨id, rfl⟩

/-- A client that is offline, or that reports an end, is so until its web socket opens. -/
theorem step_offline {link : Link} {event : LinkEvent} (unopened : link.opens event = false)
    (offline : link.connected = false ∨ link.reports < (link.step event).reports) :
    (link.step event).connected = false := by
  cases event with
  | connect =>
      rcases link.connect_frame with ⟨_, _, _, same, _, _, stays⟩
      rw [step, same] at offline ⊢
      rcases offline with offline | impossible
      · exact (stays (of_decide_eq_false unopened)).trans offline
      · exact absurd impossible (Nat.lt_irrefl _)
  | send =>
      rcases link.send_frame with ⟨_, _, same, _⟩
      rw [step, same] at offline ⊢
      exact offline.resolve_right (Nat.lt_irrefl _)
  | disconnect => rfl
  | readyStateChanged readyState => exact offline.resolve_right (Nat.lt_irrefl _)
  | didOpen =>
      have absent : link.socket.isSome = false := unopened
      rw [step, absent] at offline ⊢
      exact offline.resolve_right (Nat.lt_irrefl _)
  | didClose =>
      rw [step] at offline ⊢
      split_ifs at offline ⊢
      · rfl
      · exact offline.resolve_right (Nat.lt_irrefl _)
  | didFail certificateChanged =>
      rw [step] at offline ⊢
      split_ifs at offline ⊢
      · cases certificateChanged with
        | true =>
            rcases connect_frame { link with connected := false } with
              ⟨_, _, _, same, _, _, stays⟩
            rw [didFail, if_pos rfl, same]
            refine stays fun opened => ?_
            rw [opens, Bool.true_and] at unopened
            exact of_decide_eq_false unopened opened
        | false => rfl
      · exact offline.resolve_right (Nat.lt_irrefl _)
  | other => exact offline.resolve_right (Nat.lt_irrefl _)

theorem Follows.note {link : Link} {connection : SocketConnection}
    (follows : link.Follows connection) {event : LinkEvent}
    (unopened : link.opens event = false) :
    (link.step event).Follows (link.note event (link.step event) connection) where
  numbered := Nat.lt_of_lt_of_le follows.numbered (step_grows link event).2
  live goesOn := by
    simp only [Link.note, Bool.or_eq_false_iff, Bool.not_eq_false'] at goesOn
    rcases goesOn with ⟨⟨before, notEnded⟩, uses⟩
    rcases follows.live before with ⟨online, _, untold⟩
    rcases step_of_not_ends notEnded with ⟨stays, unreported⟩
    refine ⟨stays online, uses, ?_⟩
    simp only [Link.note, untold, unreported, Nat.sub_self, ite_self]
  reported told := by
    apply step_offline unopened
    by_cases before : 0 < connection.reports
    · exact .inl (follows.reported before)
    · right
      simp only [Link.note] at told
      split_ifs at told <;> omega

theorem connect_open {link : Link} (opened : link.readyState = some .open) :
    link.connect = { link with connected := true } := by
  rw [connect, opened]

theorem opens_socket {link : Link} {event : LinkEvent} (opened : link.opens event = true) :
    (link.step event).connected = true ∧ ∃ socket, (link.step event).socket = some socket := by
  have held : link.readyState = some .open → ∃ socket, link.socket = some socket := by
    intro state
    rcases Option.map_eq_some_iff.mp state with ⟨socket, found, _⟩
    exact ⟨socket, found⟩
  cases event with
  | connect =>
      have state := of_decide_eq_true opened
      rw [step, connect_open state]
      exact ⟨rfl, held state⟩
  | didOpen =>
      have present : link.socket.isSome = true := opened
      rw [step, if_pos present]
      exact ⟨rfl, Option.isSome_iff_exists.mp present⟩
  | didFail certificateChanged =>
      rcases Bool.and_eq_true_iff.mp opened with ⟨changed, opened⟩
      have state := of_decide_eq_true opened
      rcases held state with ⟨socket, found⟩
      have present : link.socket.isSome = true := by rw [found]; rfl
      have reopened : Link.connect { link with connected := false } =
          { link with connected := true } := connect_open state
      rw [step, if_pos present, changed, didFail, if_pos rfl, reopened]
      exact ⟨rfl, held state⟩
  | _ => cases opened

theorem Sound.follow {link : Link} {connections : List SocketConnection}
    (sound : link.Sound connections) (event : LinkEvent) :
    (link.step event).Sound (link.follow event (link.step event) connections) := by
  refine ⟨(step_grows link event).1.trans sound.hasDelegate, sound.numbered.step event, ?_⟩
  intro connection last
  cases opened : link.opens event with
  | true =>
      rcases opens_socket opened with ⟨online, socket, held⟩
      simp only [Link.follow, opened, if_true, held, Option.toList_some, List.map_cons,
        List.map_nil, List.singleton_append, List.head?_cons, Option.some.injEq] at last
      subst last
      refine ⟨(sound.numbered.step event).numbered socket held, fun _ => ⟨online, ?_, rfl⟩, ?_⟩
      · rw [uses, held]
        exact decide_eq_true rfl
      · intro impossible
        exact absurd impossible (Nat.lt_irrefl _)
  | false =>
      rw [Link.follow, opened, if_neg Bool.false_ne_true] at last
      cases connections with
      | nil => cases last
      | cons latest rest =>
          cases last
          exact (sound.last latest rfl).note opened

/-- The condition on the last connection. -/
def LastEndsInTurn (link : Link) (connections : List SocketConnection) (event : LinkEvent) :
    Prop :=
  ∀ connection, connections.head? = some connection → link.EndsInTurn connection event

theorem Sound.lastEndsInTurn_iff {link : Link} {connections : List SocketConnection}
    (sound : link.Sound connections)
    (once : ∀ connection ∈ connections, connection.ReportedOnce) (event : LinkEvent) :
    link.LastEndsInTurn connections event ↔
      ∀ connection ∈ link.follow event (link.step event) connections,
        connection.ReportedOnce := by
  have noted : link.LastEndsInTurn connections event ↔
      ∀ connection ∈ connections.modifyHead (link.note event (link.step event)),
        connection.ReportedOnce := by
    cases connections with
    | nil =>
        refine iff_of_true ?_ ?_
        · intro connection impossible
          cases impossible
        · intro connection impossible
          cases impossible
    | cons last rest =>
        have follows := sound.last last rfl
        have lastOnce := once last List.mem_cons_self
        have agree : link.EndsInTurn last event ↔
            (link.note event (link.step event) last).ReportedOnce := by
          cases ended : last.ended with
          | false => exact follows.reportedOnce_live sound.hasDelegate ended event
          | true =>
              have reported := lastOnce ended
              have offline := follows.reported (by rw [reported]; exact Nat.one_pos)
              exact reportedOnce_ended sound.hasDelegate offline reported ended event
        rw [List.modifyHead_cons, List.forall_mem_cons, ← agree]
        simp only [LastEndsInTurn, List.head?_cons, Option.some.injEq, forall_eq']
        refine ⟨fun inTurn => ⟨inTurn, fun other member => ?_⟩, fun both => both.1⟩
        exact once other (List.mem_cons_of_mem _ member)
  rw [noted, Link.follow]
  split_ifs with opened
  · refine ⟨fun good => ?_, fun good connection member => ?_⟩
    · intro connection member
      rcases List.mem_append.mp member with new | before
      · rcases List.mem_map.mp new with ⟨socket, _, equal⟩
        subst equal
        exact fun impossible => by cases impossible
      · exact good connection before
    · exact good connection (List.mem_append_right _ member)
  · rfl

end Link

open WebOSTVServiceSocketClient SubscriptionWatch

/-- A client under observation, with the connections it had, the last one first. -/
structure ConnectionWatch where
  client : WebOSTVServiceSocketClient
  connections : List SocketConnection := []

namespace ConnectionWatch

variable {platform : Platform}

def step (platform : Platform) (watch : ConnectionWatch) (event : SocketClientEvent) :
    Option ConnectionWatch :=
  (WebOSTVServiceSocketClient.step platform watch.client event).map fun client =>
    { client
      connections := watch.client.link.follow (watch.client.linkEvent platform event)
        client.link watch.connections }

def start (service : WebOSTVService) (delegate : SocketClientDelegate) : ConnectionWatch where
  client := initWithService service (some delegate)

/-- The delegate was told once of every connection that ended. -/
def ReportsOnce (watch : ConnectionWatch) : Prop :=
  ∀ connection ∈ watch.connections, connection.ReportedOnce

/-- An event does not end a connection twice, or without a word. -/
def EndsInTurn (platform : Platform) (watch : ConnectionWatch) (event : SocketClientEvent) :
    Prop :=
  watch.client.link.LastEndsInTurn watch.connections (watch.client.linkEvent platform event)

def Sound (watch : ConnectionWatch) : Prop :=
  watch.client.link.Sound watch.connections

theorem step_cases {watch next : ConnectionWatch} {event : SocketClientEvent}
    (taken : step platform watch event = some next) :
    next.client.link = watch.client.link.step (watch.client.linkEvent platform event) ∧
      next.connections = watch.client.link.follow (watch.client.linkEvent platform event)
        (watch.client.link.step (watch.client.linkEvent platform event))
        watch.connections := by
  rcases Option.map_eq_some_iff.mp taken with ⟨client, stepped, equal⟩
  subst equal
  have moved := step_link stepped
  exact ⟨moved, by rw [moved]⟩

/-- The end of each connection is reported once throughout a run that raises nothing,
exactly as long as the client and its web sockets end them in turn. -/
theorem run_reportsOnce_iff (platform : Platform) (service : WebOSTVService)
    (delegate : SocketClientDelegate) {events : List SocketClientEvent}
    {final : ConnectionWatch}
    (reached : runFrom (step platform) (start service delegate) events = some final) :
    EveryStep (step platform) (EndsInTurn platform) (start service delegate) events ↔
      Throughout (step platform) ReportsOnce (start service delegate) events := by
  have sound : (start service delegate).Sound :=
    ⟨rfl, ⟨fun _ => rfl, fun _ held => by cases held⟩, fun _ held => by cases held⟩
  have once : (start service delegate).ReportsOnce := fun _ member => by cases member
  refine everyStep_iff_throughout ?_ ?_ sound once reached
  · intro watch event next sound taken
    rcases step_cases taken with ⟨moved, followed⟩
    rw [Sound, moved, followed]
    exact Link.Sound.follow sound _
  · intro watch event next sound once taken
    rcases step_cases taken with ⟨_, followed⟩
    rw [ReportsOnce, followed]
    exact Link.Sound.lastEndsInTurn_iff sound once _

/-- A connection that fails, after which the client connects again. -/
theorem run_reportsOnce_lost :
    Throughout (step noPlatform) ReportsOnce (start televisionService {})
      [.connect, .readyStateChanged .open, .didOpen, .readyStateChanged .closed,
        .didFail { code := 57, localizedDescription := "reset" }, .connect] := by
  refine (run_reportsOnce_iff noPlatform televisionService {} rfl).mp ?_
  refine ⟨?_, ?_, ?_, ?_, ?_, ?_, trivial⟩
  · intro connection impossible
    cases impossible
  · intro connection impossible
    cases impossible
  · intro connection impossible
    cases impossible
  · intro connection last
    cases last
    trivial
  · intro connection last
    cases last
    exact fun _ => rfl
  · intro connection last
    cases last
    exact fun _ _ => rfl

/-- A disconnected client hears of the close as well, and tells its delegate again. -/
theorem disconnect_reported_twice :
    ∃ final, runFrom (step noPlatform) (start televisionService {})
        [.connect, .readyStateChanged .open, .didOpen, .disconnect none,
          .didClose (some "Disconnected by client") true] = some final ∧
      final.client.delegateCalls = [.didCloseWithError none, .didCloseWithError none] ∧
      ¬final.ReportsOnce := by
  refine ⟨_, rfl, rfl, ?_⟩
  intro once
  cases once ⟨0, true, 2⟩ List.mem_cons_self rfl

end ConnectionWatch

end ConnectSDK
