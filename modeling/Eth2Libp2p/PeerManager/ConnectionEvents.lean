import Eth2Libp2p.PeerManager.Connections

/-! # Connection events

The events `PeerConnectedIncoming`, `PeerConnectedOutgoing` and
`PeerDisconnected` that the peer manager queues for the network service, read
for one peer as a list of connections (`true`) and disconnections (`false`)
(`connectionEvents`).

Two handlers queue them: `on_connection_established` queues a connection, and
`on_connection_closed` queues a disconnection when the peer's last connection
closes while the peer is connected or disconnecting. Every other handler, the
heartbeat included, leaves them alone. So while the swarm tracks its connections
(`Swarm.TracksConnections`), each peer's events alternate, starting with a
connection, and end with a connection exactly while the peer has one
(`Swarm.ConnectionEventsAlternate.step`,
`Swarm.ConnectionEventsAlternate.heartbeat`). Over every run of quiet moves from
a swarm with no connection and no such event queued, they alternate for every
peer (`Swarm.connectionEventsAlternate_run`).
-/

namespace Eth2Libp2p

/-- The event as a connection (`true`) or a disconnection (`false`) of the peer,
if it is one. -/
def PeerManagerEvent.connection (peerId : PeerId) : PeerManagerEvent → Option Bool
  | .peerConnectedIncoming other | .peerConnectedOutgoing other => if other = peerId then some true else none
  | .peerDisconnected other => if other = peerId then some false else none
  | _ => none

/-- The connections and disconnections of the peer among the events, in order. -/
def connectionEvents (peerId : PeerId) (events : List PeerManagerEvent) : List Bool :=
  events.filterMap (PeerManagerEvent.connection peerId)

/-- `n` events that alternate, starting with a connection. -/
def alternation : Nat → List Bool
  | 0 => []
  | n + 1 => alternation n ++ [n % 2 == 0]

section Events

variable (peerId : PeerId)

@[simp] theorem connectionEvents_nil : connectionEvents peerId [] = [] := rfl

@[simp] theorem connectionEvents_cons (event : PeerManagerEvent) (events : List PeerManagerEvent) :
    connectionEvents peerId (event :: events) = (event.connection peerId).toList ++ connectionEvents peerId events := by
  unfold connectionEvents
  rw [List.filterMap_cons]
  cases event.connection peerId <;> rfl

@[simp] theorem connectionEvents_append (events more : List PeerManagerEvent) :
    connectionEvents peerId (events ++ more) = connectionEvents peerId events ++ connectionEvents peerId more :=
  List.filterMap_append _ _ _

/-- Events that are not connections or disconnections of the peer add nothing. -/
theorem connectionEvents_eq_nil {events : List PeerManagerEvent}
    (none : ∀ event ∈ events, event.connection peerId = none) : connectionEvents peerId events = [] :=
  List.filterMap_eq_nil_iff.mpr none

@[simp] theorem connectionEvents_map_unBanned {α : Type} (f : α → PeerId) (g : α → List IpAddr) (l : List α) :
    connectionEvents peerId (l.map fun a => .unBanned (f a) (g a)) = [] :=
  connectionEvents_eq_nil peerId fun _ member => by
    obtain ⟨_, _, rfl⟩ := List.mem_map.mp member
    rfl

/-- Dropping only events that are not connections or disconnections keeps the
peer's connection events. -/
theorem connectionEvents_filter (keep : PeerManagerEvent → Bool) (events : List PeerManagerEvent)
    (kept : ∀ event, keep event = false → event.connection peerId = none) :
    connectionEvents peerId (events.filter keep) = connectionEvents peerId events := by
  induction events with
  | nil => rfl
  | cons event rest ih =>
    rw [List.filter_cons]
    split
    · rw [connectionEvents_cons, connectionEvents_cons, ih]
    · next dropped => rw [ih, connectionEvents_cons, kept event (Bool.eq_false_iff.mpr dropped)]; rfl

end Events

namespace PeerManager

variable (pm : PeerManager) (watched : PeerId)

/-! The connection events each handler queues. -/

@[simp] theorem connectionEvents_push (event : PeerManagerEvent) :
    connectionEvents watched (pm.push event).events =
      connectionEvents watched pm.events ++ (event.connection watched).toList := by
  simp only [push, connectionEvents_append, connectionEvents_cons, connectionEvents_nil, List.append_nil]

@[simp] theorem connectionEvents_handleBanOperation (peerId : PeerId) (now : Instant)
    (reason : Option GoodbyeReason) (operation : BanOperation) :
    connectionEvents watched (pm.handleBanOperation peerId now reason operation).events =
      connectionEvents watched pm.events := by
  cases operation with
  | temporaryBan =>
    simp only [handleBanOperation]
    split
    · rw [connectionEvents_push]
      exact List.append_nil _
    · rfl
  | disconnectThePeer =>
    rw [handleBanOperation, connectionEvents_push]
    exact List.append_nil _
  | peerDisconnecting => rfl
  | readyToBan bannedIps =>
    simp only [handleBanOperation]
    split
    · rfl
    · rw [connectionEvents_filter watched _ _ fun event dropped => ?_, connectionEvents_append]
      · exact List.append_nil _
      · cases event <;> first | rfl | cases dropped

@[simp] theorem connectionEvents_handleScoreAction (peerId : PeerId) (now : Instant)
    (reason : Option GoodbyeReason) (result : ScoreUpdateResult) :
    connectionEvents watched (pm.handleScoreAction peerId now reason result).events =
      connectionEvents watched pm.events := by
  cases result <;> simp only [handleScoreAction, connectionEvents_handleBanOperation, connectionEvents_push] <;>
    exact List.append_nil _

@[simp] theorem connectionEvents_foldl_handleScoreAction (now : Instant)
    (actions : List (PeerId × ScoreUpdateResult)) :
    connectionEvents watched
        (actions.foldl (fun pm action => pm.handleScoreAction action.1 now none action.2) pm).events =
      connectionEvents watched pm.events := by
  induction actions generalizing pm with
  | nil => rfl
  | cons action rest ih => rw [List.foldl_cons, ih, connectionEvents_handleScoreAction]

@[simp] theorem connectionEvents_reportPeer (peerId : PeerId) (action : PeerAction)
    (reason : Option GoodbyeReason) (now : Instant) :
    connectionEvents watched (pm.reportPeer peerId action reason now).events = connectionEvents watched pm.events :=
  connectionEvents_handleScoreAction _ watched peerId now reason _

@[simp] theorem connectionEvents_disconnectPeer (peerId : PeerId) (reason : GoodbyeReason) (now : Instant) :
    connectionEvents watched (pm.disconnectPeer peerId reason now).events = connectionEvents watched pm.events :=
  (connectionEvents_push pm watched _).trans (List.append_nil (connectionEvents watched pm.events))

@[simp] theorem connectionEvents_injectDisconnect (peerId : PeerId) (now : Instant) :
    connectionEvents watched (pm.injectDisconnect peerId now).events = connectionEvents watched pm.events := by
  unfold injectDisconnect
  dsimp only
  rw [connectionEvents_append, connectionEvents_map_unBanned, List.append_nil]
  split
  · exact connectionEvents_handleBanOperation _ watched _ _ _ _
  · rfl

@[simp] theorem dialPeer_events (peerId : PeerId) : (pm.dialPeer peerId).events = pm.events := by
  unfold dialPeer
  split <;> rfl

@[simp] theorem injectPeerConnection_events (peerId : PeerId) (now : Instant) (connecting : ConnectingType) :
    (pm.injectPeerConnection peerId now connecting).events = pm.events := by
  cases connecting <;> rfl

@[simp] theorem connectionEvents_onDialFailure (peerId : Option PeerId) (now : Instant) :
    connectionEvents watched (pm.onDialFailure peerId now).events = connectionEvents watched pm.events := by
  unfold onDialFailure
  split
  · split
    · rfl
    · exact connectionEvents_injectDisconnect _ watched _ _
  · rfl

/-- A new connection queues a connection event of its peer. -/
theorem connectionEvents_onConnectionEstablished (peerId : PeerId) (now : Instant) (endpoint : ConnectedPoint) :
    connectionEvents watched (pm.onConnectionEstablished peerId now endpoint).events =
      connectionEvents watched pm.events ++ if peerId = watched then [true] else [] := by
  cases endpoint <;>
    simp only [onConnectionEstablished, connectionEvents_push, injectPeerConnection_events,
      PeerManagerEvent.connection] <;> split <;> rfl

/-- The close of the last connection queues a disconnection event of its peer if
the peer is connected or disconnecting. -/
theorem connectionEvents_onConnectionClosed (peerId : PeerId) (now : Instant) :
    connectionEvents watched (pm.onConnectionClosed peerId 0 now).events =
      connectionEvents watched pm.events ++
        if pm.db.isConnectedOrDisconnecting peerId && peerId = watched then [false] else [] := by
  unfold onConnectionClosed
  rw [if_neg (Nat.lt_irrefl 0)]
  dsimp only
  split
  · next opened =>
    simp only [connectionEvents_injectDisconnect, connectionEvents_push, PeerManagerEvent.connection, opened,
      Bool.true_and, decide_eq_true_eq]
    split <;> rfl
  · next closed =>
    simp only [connectionEvents_injectDisconnect, Bool.eq_false_iff.mpr closed, Bool.false_and,
      Bool.false_eq_true, if_false, List.append_nil]

@[simp] theorem connectionEvents_maintainPeerCount (limits : DiscoveryLimits) (dialingPeers : Nat) :
    connectionEvents watched (pm.maintainPeerCount limits dialingPeers).events =
      connectionEvents watched pm.events := by
  unfold maintainPeerCount
  split
  · rw [connectionEvents_push]
    exact List.append_nil _
  · rfl

@[simp] theorem connectionEvents_beforePruning (limits : DiscoveryLimits) (now elapsed : Nat) :
    connectionEvents watched (pm.beforePruning limits now elapsed).events = connectionEvents watched pm.events := by
  simp only [beforePruning, connectionEvents_foldl_handleScoreAction]
  rw [← connectionEvents_maintainPeerCount pm watched limits 0]
  generalize pm.maintainPeerCount limits 0 = pm
  generalize pm.trustedPeers = peerIds
  induction peerIds generalizing pm with
  | nil => rfl
  | cons peerId rest ih => rw [List.foldl_cons, ih, dialPeer_events]

@[simp] theorem connectionEvents_afterPruning (now : Instant) (peersToPrune : List PeerId) :
    connectionEvents watched (pm.afterPruning now peersToPrune).events = connectionEvents watched pm.events := by
  simp only [afterPruning, connectionEvents_append, connectionEvents_map_unBanned, List.append_nil]
  induction peersToPrune generalizing pm with
  | nil => rfl
  | cons peerId rest ih => rw [List.foldl_cons, ih, connectionEvents_disconnectPeer]

/-- A discovery answer queues no connection event. -/
@[simp] theorem connectionEvents_peersDiscovered (limits : DiscoveryLimits) (results : List (PeerId × Option Instant)) :
    connectionEvents watched (pm.peersDiscovered limits results).events = connectionEvents watched pm.events := by
  rcases pm.peersDiscovered_requeries results with same | ⟨wanted, queried, -⟩
  · exact congrArg (connectionEvents watched) same
  · rw [queried, connectionEvents_append]
    exact List.append_nil _

/-- The handlers of a request queue no connection event. -/
theorem Handles.keepsConnectionEvents {now : Instant} {pm pm' : PeerManager} (handled : pm.Handles now pm')
    (watched : PeerId) : connectionEvents watched pm'.events = connectionEvents watched pm.events := by
  cases handled with
  | unchanged => rfl
  | dialPeer => rw [dialPeer_events]
  | disconnectPeer => exact connectionEvents_disconnectPeer _ _ _ _ _
  | reportPeer => exact connectionEvents_reportPeer _ _ _ _ _ _
  | updateGossipsubScores => exact connectionEvents_foldl_handleScoreAction _ _ _ _
  | markDialing => rw [injectPeerConnection_events]

end PeerManager

namespace Swarm

variable (sw : Swarm)

/-- For every peer, the connection events queued so far alternate, starting with
a connection, and end with a connection exactly while the peer has an
established connection. -/
def ConnectionEventsAlternate : Prop :=
  ∀ peerId, ∃ n, connectionEvents peerId sw.queued = alternation n ∧ sw.established peerId = n % 2

variable {sw}

theorem connectionEvents_queued (peerId : PeerId) :
    connectionEvents peerId sw.queued = connectionEvents peerId sw.delivered ++ connectionEvents peerId sw.pm.events :=
  connectionEvents_append _ _ _

/-- A move that queues no connection event and opens or closes no connection
keeps the alternation. -/
theorem ConnectionEventsAlternate.of_same (alternate : sw.ConnectionEventsAlternate) {sw' : Swarm}
    (events : ∀ peerId, connectionEvents peerId sw'.queued = connectionEvents peerId sw.queued)
    (same : sw'.established = sw.established) : sw'.ConnectionEventsAlternate := fun peerId => by
  rw [events, same]
  exact alternate peerId

/-- The same, for a new peer manager whose handlers queued no connection event. -/
theorem ConnectionEventsAlternate.of_pm (alternate : sw.ConnectionEventsAlternate) {sw' : Swarm}
    (events : ∀ peerId, connectionEvents peerId sw'.pm.events = connectionEvents peerId sw.pm.events)
    (delivered : sw'.delivered = sw.delivered) (same : sw'.established = sw.established) :
    sw'.ConnectionEventsAlternate :=
  alternate.of_same (fun peerId => by rw [connectionEvents_queued, connectionEvents_queued, events, delivered]) same

theorem ConnectionEventsAlternate.establish (alternate : sw.ConnectionEventsAlternate) {peerId : PeerId}
    (fresh : sw.established peerId = 0) (endpoint : ConnectedPoint) (now : Instant) :
    (sw.establish peerId endpoint now).ConnectionEventsAlternate := by
  intro watched
  obtain ⟨n, events, open_⟩ := alternate watched
  simp only [Swarm.establish, connectionEvents_queued, PeerManager.connectionEvents_onConnectionEstablished]
  rw [← List.append_assoc, ← connectionEvents_queued, events]
  by_cases same : peerId = watched
  · subst same
    have even : n % 2 = 0 := by omega
    refine ⟨n + 1, ?_, ?_⟩
    · rw [if_pos rfl, alternation, even]
      rfl
    · rw [Function.update_same, fresh]
      omega
  · rw [if_neg same, List.append_nil, Function.update_noteq (Ne.symm same)]
    exact ⟨n, rfl, open_⟩

/-- The close of a peer's connection, which is its last one, queues its
disconnection. -/
theorem ConnectionEventsAlternate.closed (tracks : sw.TracksConnections)
    (alternate : sw.ConnectionEventsAlternate) {peerId : PeerId} (connected : sw.established peerId ≠ 0)
    (now : Instant) :
    ConnectionEventsAlternate { sw with
      pm := sw.pm.onConnectionClosed peerId (sw.established peerId - 1) now
      established := Function.update sw.established peerId (sw.established peerId - 1) } := by
  obtain ⟨n, -, open_⟩ := alternate peerId
  have last : sw.established peerId = 1 := by
    have := Nat.mod_lt n two_pos
    omega
  have opened := tracks peerId (by omega)
  intro watched
  obtain ⟨m, events, openWatched⟩ := alternate watched
  simp only [connectionEvents_queued, last, Nat.sub_self, PeerManager.connectionEvents_onConnectionClosed, opened,
    Bool.true_and, decide_eq_true_eq]
  rw [← List.append_assoc, ← connectionEvents_queued, events]
  by_cases same : peerId = watched
  · subst same
    have odd : m % 2 = 1 := by omega
    refine ⟨m + 1, ?_, ?_⟩
    · rw [if_pos rfl, alternation, odd]
      rfl
    · rw [Function.update_same]
      omega
  · rw [if_neg same, List.append_nil, Function.update_noteq (Ne.symm same)]
    exact ⟨m, rfl, openWatched⟩

/-- Every notification or request keeps the alternation of a swarm that tracks
its connections. -/
theorem ConnectionEventsAlternate.step (tracks : sw.TracksConnections) (alternate : sw.ConnectionEventsAlternate)
    {now : Instant} {op : SwarmOp} {sw' : Swarm} (stepped : sw.step now op = some sw') :
    sw'.ConnectionEventsAlternate := by
  cases moves_of_step _ stepped with
  | establish _ peerId endpoint dialing fresh =>
    have dialed : ConnectionEventsAlternate { sw with dialing } := alternate.of_same (fun _ => rfl) rfl
    exact dialed.establish fresh endpoint now
  | close peerId connected => exact alternate.closed tracks connected now
  | deliver event rest front =>
    refine alternate.of_same (fun watched => ?_) rfl
    simp only [Swarm.queued, front, List.append_assoc, List.singleton_append]
  | dialFailure | outboundFailure =>
    exact alternate.of_pm (fun _ => PeerManager.connectionEvents_onDialFailure _ _ _ _) rfl rfl
  | popFailure =>
    exact alternate.of_pm (fun _ => by
      rw [PeerManager.connectionEvents_onDialFailure, PeerManager.injectPeerConnection_events]) rfl rfl
  | handle _ pm dialing handled => exact alternate.of_pm handled.keepsConnectionEvents rfl rfl

/-- The heartbeat queues no connection event. -/
theorem ConnectionEventsAlternate.heartbeat (alternate : sw.ConnectionEventsAlternate) (limits : DiscoveryLimits)
    (now elapsed : Nat) (peersToPrune : List PeerId) :
    (sw.heartbeat limits now elapsed peersToPrune).ConnectionEventsAlternate :=
  alternate.of_pm (fun _ => by
    rw [Swarm.heartbeat, PeerManager.connectionEvents_afterPruning, PeerManager.connectionEvents_beforePruning])
    rfl rfl

theorem ConnectionEventsAlternate.discovered (alternate : sw.ConnectionEventsAlternate) (limits : DiscoveryLimits)
    (results : List (PeerId × Option Instant)) :
    ({ sw with pm := sw.pm.peersDiscovered limits results } : Swarm).ConnectionEventsAlternate :=
  alternate.of_pm (fun _ => PeerManager.connectionEvents_peersDiscovered _ _ _ _) rfl rfl

/-- Quiet moves keep both the tracking and the alternation. -/
theorem connectionEventsAlternate_run (tracks : sw.TracksConnections) (alternate : sw.ConnectionEventsAlternate)
    {sw' : Swarm} (moves : Relation.ReflTransGen QuietStep sw sw') :
    sw'.TracksConnections ∧ sw'.ConnectionEventsAlternate := by
  induction moves with
  | refl => exact ⟨tracks, alternate⟩
  | tail _ move reached =>
    obtain ⟨tracks, alternate⟩ := reached
    cases move with
    | notify _ now op quiet stepped => exact ⟨tracks.step quiet stepped, alternate.step tracks stepped⟩
    | heartbeat limits now elapsed peersToPrune =>
      exact ⟨tracks.heartbeat limits now elapsed peersToPrune, alternate.heartbeat limits now elapsed peersToPrune⟩
    | discovered limits results => exact ⟨tracks.discovered limits results, alternate.discovered limits results⟩

/-- Over every run of quiet moves from a swarm with no connection and no
connection event queued, each peer's connection events alternate, starting with
a connection, and end with a connection exactly while the peer has one: the
close of a peer's last connection always queues its disconnection. -/
theorem connectionEvents_alternate (idle : ∀ peerId, sw.established peerId = 0)
    (unannounced : ∀ peerId, connectionEvents peerId sw.queued = []) {sw' : Swarm}
    (moves : Relation.ReflTransGen QuietStep sw sw') (peerId : PeerId) :
    ∃ n, connectionEvents peerId sw'.queued = alternation n ∧ sw'.established peerId = n % 2 :=
  (connectionEventsAlternate_run (fun peerId connected => absurd (idle peerId) (Nat.pos_iff_ne_zero.mp connected))
    (fun peerId => ⟨0, unannounced peerId, idle peerId⟩) moves).2 peerId

/-- A peer pruned as one too many, whose connection then closes, and which
connects again: its events are a connection, a disconnection and a connection,
with its new connection open. -/
theorem connectionEvents_alternate_after_reconnect :
    let start : Swarm := ⟨⟨PeerDB.new [] false, [], [], [], [], 1, 0, 2, 2⟩, fun _ => 0, fun _ => 0, []⟩
    let ops : List (Instant × SwarmOp) := [(0, .inbound 1 (some 7)), (1, .disconnectPeer 1 .tooManyPeers),
      (2, .poll), (3, .closed 1), (4, .inbound 1 (some 7))]
    ∃ final, start.run ops = some final ∧ connectionEvents 1 final.queued = alternation 3 ∧
      ∃ n, connectionEvents 1 final.queued = alternation n ∧ final.established 1 = n % 2 := by
  intro start ops
  obtain ⟨final, ran⟩ : ∃ final, start.run ops = some final := Option.isSome_iff_exists.mp (by decide)
  have events : (start.run ops).map (fun final => connectionEvents 1 final.queued) = some (alternation 3) := by
    decide
  rw [ran] at events
  exact ⟨final, ran, Option.some.inj events,
    @connectionEvents_alternate start (fun _ => rfl) (fun _ => rfl) final (run_quietMoves ops ran (by decide)) 1⟩

end Swarm

end Eth2Libp2p
