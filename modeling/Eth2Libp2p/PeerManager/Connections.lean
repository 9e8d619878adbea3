import Eth2Libp2p.PeerDB.Runs
import Eth2Libp2p.PeerDB.OpenPeers
import Eth2Libp2p.PeerManager.Discovery

/-! # Connections and their statuses

While a peer has an established connection, the peer database should see it
`Connected` or `Disconnecting` (`Swarm.TracksConnections`): only then does the
close of its last connection queue a `PeerDisconnected`.

Every move of the swarm keeps this, a heartbeat pruning any set of peers and a
discovery answer included, but one: a dial failure reported for a peer that is disconnecting
while a connection of it is established (`Swarm.TracksConnections.step`,
`Swarm.TracksConnections.heartbeat`, and over runs `Swarm.TracksConnections.run`,
with `Swarm.Step.quiet_or_reportsDialFailure` relating the moves of
`Swarm.Step` to them, and `Swarm.run_quietMoves` reading a run of
`Swarm.step` whose check `Swarm.quietRun` passes as quiet moves).
`on_dial_failure` leaves a connected peer alone but disconnects a disconnecting
one, so such a failure breaks the invariant from every state where it can
happen (`Swarm.dialFailure_untracks`).

A dial queued earlier and popped while the peer's inbound connection is being
pruned fails at once in this way: the peer becomes `Disconnected` with its
connection open; the close of that connection then finds the peer neither
connected nor disconnecting and queues no `PeerDisconnected`, and the next
connection queues a second `PeerConnectedIncoming` (`dialFailure_while_disconnecting`).

`set_trusted_peer` pins a peer's score at the maximum without a score
transition. A banned peer made trusted stays `Banned` with no ban status, so
the inbound handler accepts it and registering the connection takes the
`Banned -> Connected` branch of `update_connection_state`
(`setTrustedPeer_accepts_banned_peer`).
-/

namespace Eth2Libp2p

namespace PeerManager

theorem keepsOpen_beforePruning (pm : PeerManager) (limits : DiscoveryLimits) (now elapsed : Nat) :
    pm.db.KeepsOpen (pm.beforePruning limits now elapsed).db := by
  simp only [beforePruning, foldl_handleScoreAction_db, foldl_dialPeer_db, maintainPeerCount_db]
  exact (PeerDB.keepsOpen_cleanupDialingPeers _ now).trans (PeerDB.keepsOpen_updateScores _ elapsed now)

theorem keepsOpen_afterPruning (pm : PeerManager) (now : Instant) (peersToPrune : List PeerId) :
    pm.db.KeepsOpen (pm.afterPruning now peersToPrune).db := by
  unfold afterPruning
  exact PeerDB.keepsOpen_foldl db _ (fun pm peerId =>
    PeerDB.keepsOpen_updateConnectionState pm.db peerId (.disconnecting false) nofun now) _ _

/-- The handlers of a request keep every connected or disconnecting peer so. -/
theorem Handles.keepsOpen {now : Instant} {pm pm' : PeerManager} (handled : pm.Handles now pm') :
    pm.db.KeepsOpen pm'.db := by
  cases handled with
  | unchanged => exact .refl _
  | dialPeer => rw [dialPeer_db]; exact .refl _
  | disconnectPeer => exact PeerDB.keepsOpen_updateConnectionState _ _ (.disconnecting false) nofun now
  | reportPeer => rw [reportPeer_db]; exact PeerDB.keepsOpen_reportPeer _ _ _ _
  | updateGossipsubScores =>
    rw [foldl_handleScoreAction_db]
    exact PeerDB.keepsOpen_updateGossipsubScores _ _ _ _
  | markDialing => exact PeerDB.keepsOpen_updateConnectionState _ _ .dialing nofun now

end PeerManager

namespace Swarm

variable (sw : Swarm)

/-- Every peer with an established connection is connected or disconnecting in
the peer database. -/
def TracksConnections : Prop :=
  ∀ peerId, 0 < sw.established peerId → sw.pm.db.isConnectedOrDisconnecting peerId = true

/-- The peer is disconnecting while a connection of it is established. -/
def disconnectingWhileOpen (peerId : PeerId) : Bool :=
  decide (0 < sw.established peerId) &&
    match sw.pm.db.connectionStatus peerId with
    | some (.disconnecting _) => true
    | _ => false

/-- The operation has the swarm report to `on_dial_failure` a peer that is
disconnecting while a connection of it is established. -/
def reportsDialFailureWhileOpen : SwarmOp → Bool
  | .outbound peerId _ | .dialFailure peerId => sw.disconnectingWhileOpen peerId
  | .poll => sw.pm.events.isEmpty && sw.pm.peersToDial.getLast?.any sw.disconnectingWhileOpen
  | _ => false

/-- A move of the swarm that reports no dial failure of a peer disconnecting
with a connection established: such a notification or request, a heartbeat
pruning any set of peers, or a discovery answer. -/
inductive QuietStep : Swarm → Swarm → Prop
  | notify (sw sw' : Swarm) (now : Instant) (op : SwarmOp) (quiet : sw.reportsDialFailureWhileOpen op = false)
      (stepped : sw.step now op = some sw') : QuietStep sw sw'
  | heartbeat (sw : Swarm) (limits : DiscoveryLimits) (now elapsed : Nat) (peersToPrune : List PeerId) :
      QuietStep sw (sw.heartbeat limits now elapsed peersToPrune)
  | discovered (sw : Swarm) (limits : DiscoveryLimits) (results : List (PeerId × Option Instant)) :
      QuietStep sw { sw with pm := sw.pm.peersDiscovered limits results }

/-- No operation of the run of `ops` has the swarm report a dial failure of a
peer disconnecting with a connection established. -/
def quietRun : Swarm → List (Instant × SwarmOp) → Bool
  | _, [] => true
  | sw, (now, op) :: ops =>
    !sw.reportsDialFailureWhileOpen op && ((sw.step now op).map fun sw => sw.quietRun ops).getD true

/-- A quiet run of notifications and requests is a run of quiet moves. -/
theorem run_quietMoves : ∀ {sw sw' : Swarm} (ops : List (Instant × SwarmOp)), sw.run ops = some sw' →
    sw.quietRun ops = true → Relation.ReflTransGen QuietStep sw sw'
  | _, _, [], ran, _ => by
    cases ran
    exact .refl
  | _, _, (now, op) :: ops, ran, quiet => by
    obtain ⟨next, stepped, rest⟩ := Option.bind_eq_some.mp ran
    simp only [quietRun, stepped, Option.map_some', Option.getD_some, Bool.and_eq_true, Bool.not_eq_true'] at quiet
    exact .head (.notify _ _ now op quiet.1 stepped) (run_quietMoves ops rest quiet.2)

variable {sw}

theorem disconnectingWhileOpen_eq_true {peerId : PeerId} :
    sw.disconnectingWhileOpen peerId = true ↔
      0 < sw.established peerId ∧ ∃ toBan, sw.pm.db.connectionStatus peerId = some (.disconnecting toBan) := by
  unfold disconnectingWhileOpen
  rw [Bool.and_eq_true, decide_eq_true_iff]
  refine and_congr_right fun _ => ?_
  rcases sw.pm.db.connectionStatus peerId with _ | ⟨_ | _ | _ | _ | _ | _⟩ <;> simp

theorem disconnectingWhileOpen_of_not_isConnected {peerId : PeerId} (connected : 0 < sw.established peerId)
    (opened : sw.pm.db.isConnectedOrDisconnecting peerId = true)
    (notConnected : sw.pm.db.isConnected peerId = false) : sw.disconnectingWhileOpen peerId = true := by
  refine disconnectingWhileOpen_eq_true.mpr ⟨connected, ?_⟩
  revert opened notConnected
  unfold PeerDB.isConnectedOrDisconnecting PeerDB.isConnected
  rcases sw.pm.db.connectionStatus peerId with _ | ⟨_ | _ | _ | _ | _ | _⟩ <;> simp

theorem TracksConnections.of_keepsOpen (tracks : sw.TracksConnections) {sw' : Swarm}
    (kept : sw.pm.db.KeepsOpen sw'.pm.db) (same : sw'.established = sw.established) :
    sw'.TracksConnections :=
  fun peerId connected => kept peerId (tracks peerId (same ▸ connected))

theorem TracksConnections.establish (tracks : sw.TracksConnections) (peerId : PeerId)
    (endpoint : ConnectedPoint) (now : Instant) : (sw.establish peerId endpoint now).TracksConnections := by
  obtain ⟨seenAddress, direction, registered⟩ := sw.pm.onConnectionEstablished_db peerId now endpoint
  intro other connected
  simp only [Swarm.establish, registered] at connected ⊢
  by_cases same : other = peerId
  · subst same
    exact PeerDB.isConnectedOrDisconnecting_connect _ _ _ _ _
  · rw [Function.update_noteq same] at connected
    exact PeerDB.keepsOpen_updateConnectionState _ _ (.connected seenAddress direction) nofun now other
      (tracks other connected)

/-- A dial failure keeps the tracking unless its peer is disconnecting with a
connection established. -/
theorem TracksConnections.onDialFailure (tracks : sw.TracksConnections) {peerId : PeerId}
    (quiet : sw.disconnectingWhileOpen peerId = false) (now : Instant) {sw' : Swarm}
    (failed : sw'.pm.db = (sw.pm.onDialFailure (some peerId) now).db)
    (same : sw'.established = sw.established) : sw'.TracksConnections := by
  intro other connected
  rw [same] at connected
  have opened := tracks other connected
  rw [failed, PeerManager.onDialFailure_db]
  split
  · exact opened
  · next notConnected =>
    rw [PeerDB.isConnectedOrDisconnecting_injectDisconnect, if_neg]
    · exact opened
    · rintro rfl
      rw [disconnectingWhileOpen_of_not_isConnected connected opened (Bool.eq_false_iff.mpr notConnected)]
        at quiet
      cases quiet

theorem TracksConnections.closed (tracks : sw.TracksConnections) (peerId : PeerId) (now : Instant) :
    TracksConnections { sw with
      pm := sw.pm.onConnectionClosed peerId (sw.established peerId - 1) now
      established := Function.update sw.established peerId (sw.established peerId - 1) } := by
  intro other connected
  dsimp only at connected ⊢
  rw [PeerManager.onConnectionClosed_db]
  by_cases same : other = peerId
  · subst same
    rw [Function.update_same] at connected
    rw [if_pos connected]
    exact tracks other (by omega)
  · rw [Function.update_noteq same] at connected
    split
    · exact tracks other connected
    · rw [PeerDB.isConnectedOrDisconnecting_injectDisconnect, if_neg same]
      exact tracks other connected

/-- Marking a peer dialing does not change whether it is disconnecting with a
connection established. -/
theorem TracksConnections.disconnectingWhileOpen_dialingPeer (tracks : sw.TracksConnections)
    (peerId : PeerId) (now : Instant) {sw' : Swarm} (dialed : sw'.pm.db = sw.pm.db.dialingPeer peerId now)
    (same : sw'.established = sw.established) :
    sw'.disconnectingWhileOpen peerId = sw.disconnectingWhileOpen peerId := by
  unfold disconnectingWhileOpen
  rw [same, dialed]
  by_cases connected : 0 < sw.established peerId
  · rw [PeerDB.connectionStatus_dialingPeer (tracks peerId connected)]
  · simp only [connected, decide_False, Bool.false_and]

/-- Every notification or request but a dial failure reported for a peer
disconnecting with a connection established keeps the tracking. -/
theorem TracksConnections.step (tracks : sw.TracksConnections) {now : Instant} {op : SwarmOp} {sw' : Swarm}
    (quiet : sw.reportsDialFailureWhileOpen op = false) (stepped : sw.step now op = some sw') :
    sw'.TracksConnections := by
  cases moves_of_step _ stepped with
  | establish _ peerId endpoint dialing =>
    have dialed : TracksConnections { sw with dialing } := tracks.of_keepsOpen (.refl _) rfl
    exact dialed.establish peerId endpoint now
  | close peerId => exact tracks.closed peerId now
  | deliver => exact tracks.of_keepsOpen (.refl _) rfl
  | dialFailure | outboundFailure => exact tracks.onDialFailure quiet now rfl rfl
  | popFailure peerId noEvents popped =>
    simp only [reportsDialFailureWhileOpen, noEvents, popped, List.isEmpty_nil, Option.any_some,
      Bool.true_and] at quiet
    have marked : TracksConnections { sw with pm := { sw.pm with
        peersToDial := sw.pm.peersToDial.dropLast }.injectPeerConnection peerId now .dialing } :=
      tracks.of_keepsOpen (PeerManager.Handles.markDialing sw.pm peerId).keepsOpen rfl
    refine marked.onDialFailure ?_ now rfl rfl
    exact (tracks.disconnectingWhileOpen_dialingPeer peerId now (by rfl) (by rfl)).trans quiet
  | handle _ pm dialing handled => exact tracks.of_keepsOpen handled.keepsOpen rfl

/-- The heartbeat keeps the tracking, whichever peers it prunes. -/
theorem TracksConnections.heartbeat (tracks : sw.TracksConnections) (limits : DiscoveryLimits) (now elapsed : Nat)
    (peersToPrune : List PeerId) : (sw.heartbeat limits now elapsed peersToPrune).TracksConnections :=
  tracks.of_keepsOpen ((sw.pm.keepsOpen_beforePruning limits now elapsed).trans
    (PeerManager.keepsOpen_afterPruning _ now peersToPrune)) rfl

/-- A discovery answer keeps the tracking. -/
theorem TracksConnections.discovered (tracks : sw.TracksConnections) (limits : DiscoveryLimits)
    (results : List (PeerId × Option Instant)) :
    ({ sw with pm := sw.pm.peersDiscovered limits results } : Swarm).TracksConnections :=
  tracks.of_keepsOpen (sw.pm.keepsOpen_peersDiscovered results) rfl

/-- Every state reached by quiet moves tracks the connections. -/
theorem TracksConnections.run (tracks : sw.TracksConnections) {sw' : Swarm}
    (moves : Relation.ReflTransGen QuietStep sw sw') : sw'.TracksConnections := by
  induction moves with
  | refl => exact tracks
  | tail _ move reached =>
    cases move with
    | notify _ now op quiet stepped => exact reached.step quiet stepped
    | heartbeat limits now elapsed peersToPrune => exact reached.heartbeat limits now elapsed peersToPrune
    | discovered limits results => exact reached.discovered limits results

/-- A move of the swarm is quiet, or a dial failure reported for a peer
disconnecting with a connection established. -/
theorem Step.quiet_or_reportsDialFailure {sw' : Swarm} (move : Step sw sw') :
    QuietStep sw sw' ∨ ∃ now op, sw.reportsDialFailureWhileOpen op = true ∧ sw.step now op = some sw' := by
  cases move with
  | notify _ now op stepped =>
    cases reported : sw.reportsDialFailureWhileOpen op
    · exact .inl (.notify sw sw' now op reported stepped)
    · exact .inr ⟨now, op, reported, stepped⟩
  | heartbeat limits now elapsed peersToPrune _ => exact .inl (.heartbeat sw limits now elapsed peersToPrune)
  | discovered limits results => exact .inl (.discovered sw limits results)

/-- From every state where it can happen, a dial failure of a peer disconnecting
with a connection established leaves the peer with its connection and out of
`Connected` and `Disconnecting`. -/
theorem dialFailure_untracks {peerId : PeerId} (pending : 0 < sw.dialing peerId)
    (racing : sw.disconnectingWhileOpen peerId = true) (now : Instant) :
    ∃ sw', sw.step now (.dialFailure peerId) = some sw' ∧ 0 < sw'.established peerId ∧
      sw'.pm.db.isConnectedOrDisconnecting peerId = false := by
  obtain ⟨connected, toBan, disconnecting⟩ := disconnectingWhileOpen_eq_true.mp racing
  have notConnected : sw.pm.db.isConnected peerId = false := by
    rw [PeerDB.isConnected, disconnecting]
  simp only [Swarm.step, if_neg (Nat.pos_iff_ne_zero.mp pending), Option.some.injEq, exists_eq_left']
  refine ⟨connected, ?_⟩
  rw [PeerManager.onDialFailure_db, if_neg (by rw [notConnected]; exact Bool.false_ne_true),
    PeerDB.isConnectedOrDisconnecting_injectDisconnect, if_pos rfl]

end Swarm

/-- A peer dialed from the queue while its inbound connection is being pruned:
the dial fails at once, since the swarm does not dial a connected peer, and
the peer manager marks the peer disconnected with the connection still open.
The close of the connection then queues no `PeerDisconnected`, and the next
connection queues a second `PeerConnectedIncoming`. -/
theorem dialFailure_while_disconnecting :
    let start : Swarm := ⟨⟨PeerDB.new [] false, [], [], [], [], 1, 0, 2, 2⟩, fun _ => 0, fun _ => 0, []⟩
    let opened : List (Instant × SwarmOp) := [(0, .dialPeer 1), (1, .inbound 1 (some 7)),
      (2, .disconnectPeer 1 .tooManyPeers), (3, .poll), (4, .poll), (5, .poll)]
    (start.run opened).map (fun sw => (sw.established 1, sw.pm.db.connectionStatus 1)) =
        some (1, some (.disconnected 5)) ∧
      (start.run (opened ++ [(6, .closed 1), (7, .inbound 1 (some 7))])).map Swarm.queued =
        some [.peerConnectedIncoming 1, .disconnectPeer 1 .tooManyPeers, .peerConnectedIncoming 1] := by
  decide

/-- A peer banned for a fatal report and then made trusted is `Banned` with no
ban status: the inbound handler accepts it, and its new connection moves it
from `Banned` to `Connected`. -/
theorem setTrustedPeer_accepts_banned_peer :
    let db : PeerDB := (PeerDB.new [] false).run [(0, .connectIngoing 1 (some 7)), (1, .reportPeer 1 .fatal),
      (2, .injectDisconnect 1), (3, .setTrustedPeer 1)]
    let pm : PeerManager := ⟨db, [], [], [], [], 1, 0, 2, 2⟩
    db.connectionStatus 1 = some (.banned 2) ∧ db.banStatus 1 = none ∧
      (pm.handleEstablishedInboundConnection 1 4).toBool = true ∧
      ((⟨pm, fun _ => 0, fun _ => 0, []⟩ : Swarm).step 4 (.inbound 1 (some 7))).map
        (fun sw => (sw.pm.db.connectionStatus 1, sw.queued)) =
        some (some (.connected 1 0), [.peerConnectedIncoming 1]) := by
  decide

end Eth2Libp2p
