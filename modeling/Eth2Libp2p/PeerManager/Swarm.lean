import Eth2Libp2p.PeerDB.Operations
import Eth2Libp2p.PeerManager.Prune
import Eth2Libp2p.RPC.Errors

/-! # The peer manager under the swarm

The peer manager's handlers (`peer_manager/mod.rs`) and its `NetworkBehaviour`
(`network_behaviour.rs`), driven by a swarm that delivers its notifications in
any order: connections established and closed, dials started, failed or
completed, the heartbeat, and the requests of the network service.

`Swarm.step` is one notification or request, as a partial function of the
swarm's state: `none` when it cannot happen, such as the close of a connection
that is not open. The swarm keeps, for each peer, its open connections and its
pending dials; the connection-limits behaviour allows at most one established
connection per peer, so a second one is denied, and a denied outbound
connection is reported as a dial failure. `Swarm.Step` adds the heartbeat, whose
pruning is the relation `PeerManager.PruneExcessPeers`, and the answers of
discovery queries (`PeerManager.peersDiscovered`); a run of `Swarm.step` is a
run of its moves (`Swarm.run_moves`).

`Swarm.moves_of_step` sorts every step into the cases of `Swarm.Moves`: a
connection established or closed, an event handed to the service, a failed
dial, or handlers of the peer manager (`PeerManager.Handles`) that register and
end no connection. Properties of steps are proved from these cases.

The timers of pings and status requests, the metrics, the subnet discovery
requests and the ENRs are left out; the `f32` peer limits are taken as given.
-/

namespace Eth2Libp2p

/-- Modelled from the spec: why a peer is sent a goodbye (`GoodbyeReason`): the
reasons the peer manager gives itself, and any other a caller passes. -/
inductive GoodbyeReason where
  | tooManyPeers
  | badScore
  | fault
  | irrelevantNetwork
  | other (code : Nat)
  deriving DecidableEq, Repr

/-- The events the peer manager queues for the network service
(`PeerManagerEvent`); pings, status and metadata requests and subnet discovery
requests are left out. -/
inductive PeerManagerEvent where
  | peerConnectedIncoming (peerId : PeerId)
  | peerConnectedOutgoing (peerId : PeerId)
  | peerDisconnected (peerId : PeerId)
  | disconnectPeer (peerId : PeerId) (reason : GoodbyeReason)
  | banned (peerId : PeerId) (ips : List IpAddr)
  | unBanned (peerId : PeerId) (ips : List IpAddr)
  | discoverPeers (wantedPeers : Nat)
  deriving DecidableEq, Repr

/-- How long a temporary ban lasts (`PEER_RECONNECTION_TIMEOUT`). -/
def PEER_RECONNECTION_TIMEOUT : Nat := 600

namespace PeerDB

/-- `score_state_banned_or_disconnected`. -/
def scoreStateBannedOrDisconnected (db : PeerDB) (peerId : PeerId) : Bool :=
  match db.peers.lookup peerId with
  | some peer =>
    match peer.scoreState with
    | .banned | .forcedDisconnect => true
    | _ => (db.ipIsBanned peer).isSome
  | none => false

/-- `should_dial`. -/
def shouldDial (db : PeerDB) (peerId : PeerId) : Bool :=
  (match db.connectionStatus peerId with
    | some (.disconnected _) | some .unknown | none => true
    | _ => false) &&
  !db.scoreStateBannedOrDisconnected peerId

/-- The number of connected or dialing peers (`connected_or_dialing_peers`). -/
def connectedOrDialingPeerCount (db : PeerDB) : Nat :=
  (db.peers.entries.filter fun entry => entry.2.isConnectedOrDialing).length

end PeerDB

/-- The peer manager: the peer database, the queue of events for the network
service, the dial queue (`peers_to_dial`, a stack), the temporary bans with the
time each was made (an `LRUTimeCache`, oldest first, where a new ban of a peer
renews its entry), the trusted peers it keeps dialing, and its peer limits. -/
structure PeerManager where
  db : PeerDB
  events : List PeerManagerEvent
  peersToDial : List PeerId
  temporaryBannedPeers : List (PeerId × Instant)
  trustedPeers : List PeerId
  targetPeers : Nat
  targetOutboundPeers : Nat
  maxPeers : Nat
  maxOutboundDialingPeers : Nat

/-- The limits only discovery reads: `max_priority_peers()` and
`min_outbound_only_peers()`, products of `target_peers` in `f32` taken as given
numbers like the other limits, and `discovery_enabled`. -/
structure DiscoveryLimits where
  maxPriorityPeers : Nat
  minOutboundOnlyPeers : Nat
  discoveryEnabled : Bool
  deriving DecidableEq, Repr

/-- The remote end of a connection (`ConnectedPoint`), with its address. -/
inductive ConnectedPoint where
  | dialer (address : Multiaddr)
  | listener (sendBackAddr : Multiaddr)
  deriving DecidableEq, Repr

/-- How the peer manager is told of a connection (`ConnectingType`). -/
inductive ConnectingType where
  | dialing
  | ingoingConnected (multiaddr : Multiaddr)
  | outgoingConnected (multiaddr : Multiaddr)
  deriving DecidableEq, Repr

/-- Why the peer manager refuses a connection. -/
inductive ConnectionDenied where
  | invalidMultiaddr (remoteAddr : Multiaddr)
  | ipBanned (ip : IpAddr)
  | badScore
  | tooManyConnections
  | banned (cause : BanResult)
  deriving DecidableEq, Repr

/-- `BanResult`'s `Display`. -/
def BanResult.message : BanResult → String
  | .badScore => "Peer has a bad score"
  | .bannedIp addr => s!"Peer address: {addr} is banned"

/-- The text of each refusal. -/
def ConnectionDenied.message : ConnectionDenied → String
  | .invalidMultiaddr remoteAddr => s!"Connection to peer rejected: invalid multiaddr: {remoteAddr}"
  | .ipBanned ip => s!"Connection to peer rejected: peer {ip} is banned"
  | .badScore => "Connection to peer rejected: peer has a bad score"
  | .tooManyConnections => "Connection to peer rejected: too many connections"
  | .banned cause => cause.message

namespace PeerManager

variable (pm : PeerManager)

/-- Queue an event. -/
def push (event : PeerManagerEvent) : PeerManager := { pm with events := pm.events ++ [event] }

/-- `handle_ban_operation`. -/
def handleBanOperation (peerId : PeerId) (now : Instant) (reason : Option GoodbyeReason) :
    BanOperation → PeerManager
  | .temporaryBan =>
    if pm.targetPeers ≤ (connectedPeers pm.db).length then
      { pm.push (.banned peerId []) with
        temporaryBannedPeers := pm.temporaryBannedPeers.filter (·.1 ≠ peerId) ++ [(peerId, now)] }
    else pm
  | .disconnectThePeer => pm.push (.disconnectPeer peerId (reason.getD .badScore))
  | .peerDisconnecting => pm
  | .readyToBan bannedIps =>
    if pm.temporaryBannedPeers.any (·.1 = peerId) then
      { pm with temporaryBannedPeers := pm.temporaryBannedPeers.filter (·.1 ≠ peerId) }
    else
      { pm with
        events := (pm.events ++ [PeerManagerEvent.banned peerId bannedIps]).filter fun
          | .unBanned unbannedPeerId _ => unbannedPeerId ≠ peerId
          | _ => true }

/-- `handle_score_action`. -/
def handleScoreAction (peerId : PeerId) (now : Instant) (reason : Option GoodbyeReason) :
    ScoreUpdateResult → PeerManager
  | .ban banOperation => pm.handleBanOperation peerId now reason banOperation
  | .disconnect => pm.push (.disconnectPeer peerId .badScore)
  | .noAction => pm
  | .unbanned ips => pm.push (.unBanned peerId ips)

/-- `report_peer`. -/
def reportPeer (peerId : PeerId) (action : PeerAction) (reason : Option GoodbyeReason) (now : Instant) :
    PeerManager :=
  let reported := pm.db.reportPeer peerId action now
  { pm with db := reported.1 }.handleScoreAction peerId now reason reported.2

/-- `goodbye_peer`: a fatal report. -/
def goodbyePeer (peerId : PeerId) (reason : GoodbyeReason) (now : Instant) : PeerManager :=
  pm.reportPeer peerId .fatal (some reason) now

/-- `disconnect_peer`: ask the service to disconnect, and mark the peer disconnecting. -/
def disconnectPeer (peerId : PeerId) (reason : GoodbyeReason) (now : Instant) : PeerManager :=
  { pm.push (.disconnectPeer peerId reason) with db := pm.db.notifyDisconnecting peerId false now }

/-- `inject_disconnect`: the peer is off the wire; finish a pending ban, and
report the peers the database forgot as unbanned. -/
def injectDisconnect (peerId : PeerId) (now : Instant) : PeerManager :=
  let disconnected := pm.db.injectDisconnect peerId now
  let pm := { pm with db := disconnected.1 }
  let pm := match disconnected.2.1 with
    | some banOperation => pm.handleBanOperation peerId now none banOperation
    | none => pm
  { pm with events := pm.events ++ disconnected.2.2.map fun purged => .unBanned purged.1 purged.2 }

/-- `inject_peer_connection`: a banned peer is only logged. -/
def injectPeerConnection (peerId : PeerId) (now : Instant) : ConnectingType → PeerManager
  | .dialing => { pm with db := pm.db.dialingPeer peerId now }
  | .ingoingConnected multiaddr => { pm with db := pm.db.connectIngoing peerId multiaddr now }
  | .outgoingConnected multiaddr => { pm with db := pm.db.connectOutgoing peerId multiaddr now }

/-- `handle_rpc_error`: report the peer for the penalty of the error, if any. -/
def handleRpcError (peerId : PeerId) (protocol : Protocol) (error : RPCError) (direction : ConnectionDirection)
    (now : Instant) : PeerManager :=
  match rpcErrorAction protocol direction error with
  | some action => pm.reportPeer peerId action none now
  | none => pm

/-- `dial_peer`: queue a peer the database allows to dial. -/
def dialPeer (peerId : PeerId) : PeerManager :=
  if pm.db.shouldDial peerId then { pm with peersToDial := pm.peersToDial ++ [peerId] } else pm

/-- `maintain_peer_count`: the number of peers to ask discovery for, given the
peers about to be dialed. -/
def wantedPeers (limits : DiscoveryLimits) (dialingPeers : Nat) : Nat :=
  let peerCount := pm.db.connectedOrDialingPeerCount
  if peerCount < pm.targetPeers - dialingPeers then
    pm.maxPeers - dialingPeers - peerCount
  else if connectedOutboundOnlyPeerCount pm.db < limits.minOutboundOnlyPeers ∧
      peerCount < pm.maxOutboundDialingPeers then
    pm.maxOutboundDialingPeers - dialingPeers - peerCount
  else 0

/-- `maintain_peer_count`: queue a discovery query for the wanted peers, if any. -/
def maintainPeerCount (limits : DiscoveryLimits) (dialingPeers : Nat) : PeerManager :=
  if limits.discoveryEnabled ∧ pm.wantedPeers limits dialingPeers ≠ 0 then
    pm.push (.discoverPeers (pm.wantedPeers limits dialingPeers))
  else pm

/-- One record of `peers_discovered`, with the number of peers connected or
dialing counted before the walk: a peer not yet queued, while that number and
the peers queued so far are below `max_peers` (below `max_priority_peers` for a
peer with a duty), has its duty recorded and goes to `dial_peer`, which counts
it when it queues it. -/
def discoverPeer (limits : DiscoveryLimits) (connectedOrDialing : Nat) :
    PeerManager × Nat → PeerId × Option Instant → PeerManager × Nat
  | (pm, toDialPeers), (peerId, minTtl) =>
    if !pm.peersToDial.contains peerId &&
        (minTtl.isSome && decide (connectedOrDialing + toDialPeers < limits.maxPriorityPeers) ||
          decide (connectedOrDialing + toDialPeers < pm.maxPeers)) then
      let pm := match minTtl with
        | some minTtl => { pm with db := pm.db.updateMinTtl peerId minTtl }
        | none => pm
      (pm.dialPeer peerId, if pm.db.shouldDial peerId then toDialPeers + 1 else toDialPeers)
    else (pm, toDialPeers)

/-- `peers_discovered`: walk the records, then ask for another query unless the
query returned records and none was queued. -/
def peersDiscovered (limits : DiscoveryLimits) (results : List (PeerId × Option Instant)) : PeerManager :=
  let walked := results.foldl (discoverPeer limits pm.db.connectedOrDialingPeerCount) (pm, 0)
  if 0 < results.length ∧ walked.2 = 0 then walked.1 else walked.1.maintainPeerCount limits walked.2

/-- `handle_pending_inbound_connection`: the remote address must start with an
IP address that is not banned. -/
def handlePendingInboundConnection (remoteAddr : Multiaddr) : Except ConnectionDenied Unit :=
  match remoteAddr with
  | none => .error (.invalidMultiaddr remoteAddr)
  | some ip => if pm.db.isIpBanned ip then .error (.ipBanned ip) else .ok ()

/-- `handle_established_inbound_connection`: refuse a peer with a ban status,
and refuse beyond `max_peers` a peer without a future duty. -/
def handleEstablishedInboundConnection (peerId : PeerId) (now : Instant) : Except ConnectionDenied Unit :=
  if (pm.db.banStatus peerId).isSome then .error .badScore
  else if pm.maxPeers ≤ pm.db.connectedOrDialingPeerCount &&
      (pm.db.peerInfo peerId).all (!·.hasFutureDuty now) then .error .tooManyConnections
  else .ok ()

/-- `handle_established_outbound_connection`: refuse a peer with a ban status,
and refuse beyond `max_outbound_dialing_peers` a peer without a future duty. -/
def handleEstablishedOutboundConnection (peerId : PeerId) (now : Instant) : Except ConnectionDenied Unit :=
  match pm.db.banStatus peerId with
  | some cause => .error (.banned cause)
  | none =>
    if pm.maxOutboundDialingPeers ≤ (connectedPeers pm.db).length &&
        (pm.db.peerInfo peerId).all (!·.hasFutureDuty now) then .error .tooManyConnections
    else .ok ()

/-- `on_connection_established`: register the peer and tell the service. -/
def onConnectionEstablished (peerId : PeerId) (now : Instant) : ConnectedPoint → PeerManager
  | .listener sendBackAddr =>
    (pm.injectPeerConnection peerId now (.ingoingConnected sendBackAddr)).push (.peerConnectedIncoming peerId)
  | .dialer address =>
    (pm.injectPeerConnection peerId now (.outgoingConnected address)).push (.peerConnectedOutgoing peerId)

/-- `on_connection_closed`: when the last connection closes, tell the service if
the peer was connected or disconnecting, and disconnect it. -/
def onConnectionClosed (peerId : PeerId) (remainingEstablished : Nat) (now : Instant) : PeerManager :=
  if 0 < remainingEstablished then pm
  else
    let pm := if pm.db.isConnectedOrDisconnecting peerId then pm.push (.peerDisconnected peerId) else pm
    pm.injectDisconnect peerId now

/-- `on_dial_failure`: disconnect the peer unless it is connected. -/
def onDialFailure (peerId : Option PeerId) (now : Instant) : PeerManager :=
  match peerId with
  | some peerId => if pm.db.isConnected peerId then pm else pm.injectDisconnect peerId now
  | none => pm

/-- The pruning parameters of the heartbeat. -/
def pruneConfig (now : Instant) : PruneConfig := ⟨pm.targetPeers, pm.targetOutboundPeers, now⟩

/-- The heartbeat up to `prune_excess_peers`: ask discovery for the missing
peers, dial the trusted peers, time out dials, then decay the scores and carry
out the unbans. -/
def beforePruning (limits : DiscoveryLimits) (now elapsed : Nat) : PeerManager :=
  let pm := pm.maintainPeerCount limits 0
  let pm := pm.trustedPeers.foldl (fun pm peerId => pm.dialPeer peerId) pm
  let pm := { pm with db := pm.db.cleanupDialingPeers now }
  let scored := pm.db.updateScores elapsed now
  scored.2.foldl (fun pm action => pm.handleScoreAction action.1 now none action.2) { pm with db := scored.1 }

/-- The rest of the heartbeat: disconnect the peers `prune_excess_peers` chose,
then lift the temporary bans that have run out (`unban_temporary_banned_peers`). -/
def afterPruning (now : Instant) (peersToPrune : List PeerId) : PeerManager :=
  let pm := peersToPrune.foldl (fun pm peerId => pm.disconnectPeer peerId .tooManyPeers now) pm
  let expired := pm.temporaryBannedPeers.filter fun banned => banned.2 + PEER_RECONNECTION_TIMEOUT ≤ now
  { pm with
    temporaryBannedPeers := pm.temporaryBannedPeers.filter fun banned => now < banned.2 + PEER_RECONNECTION_TIMEOUT
    events := pm.events ++ expired.map fun banned => .unBanned banned.1 [] }

section Database

/-! What each handler does to the peer database. -/

@[simp] theorem push_db (event : PeerManagerEvent) : (pm.push event).db = pm.db := rfl

@[simp] theorem handleBanOperation_db (peerId : PeerId) (now : Instant) (reason : Option GoodbyeReason)
    (operation : BanOperation) : (pm.handleBanOperation peerId now reason operation).db = pm.db := by
  unfold handleBanOperation
  split <;> (try split) <;> rfl

@[simp] theorem handleScoreAction_db (peerId : PeerId) (now : Instant) (reason : Option GoodbyeReason)
    (result : ScoreUpdateResult) : (pm.handleScoreAction peerId now reason result).db = pm.db := by
  cases result <;> simp only [handleScoreAction, handleBanOperation_db, push_db]

@[simp] theorem foldl_handleScoreAction_db (now : Instant) (actions : List (PeerId × ScoreUpdateResult)) :
    (actions.foldl (fun pm action => pm.handleScoreAction action.1 now none action.2) pm).db = pm.db := by
  induction actions generalizing pm with
  | nil => rfl
  | cons action rest ih => rw [List.foldl_cons, ih, handleScoreAction_db]

@[simp] theorem reportPeer_db (peerId : PeerId) (action : PeerAction) (reason : Option GoodbyeReason)
    (now : Instant) : (pm.reportPeer peerId action reason now).db = (pm.db.reportPeer peerId action now).1 := by
  simp only [reportPeer, handleScoreAction_db]

@[simp] theorem disconnectPeer_db (peerId : PeerId) (reason : GoodbyeReason) (now : Instant) :
    (pm.disconnectPeer peerId reason now).db = pm.db.notifyDisconnecting peerId false now := rfl

@[simp] theorem injectDisconnect_db (peerId : PeerId) (now : Instant) :
    (pm.injectDisconnect peerId now).db = (pm.db.injectDisconnect peerId now).1 := by
  unfold injectDisconnect
  dsimp only
  split <;> simp only [handleBanOperation_db]

@[simp] theorem dialPeer_db (peerId : PeerId) : (pm.dialPeer peerId).db = pm.db := by
  unfold dialPeer
  split <;> rfl

@[simp] theorem foldl_dialPeer_db (peerIds : List PeerId) :
    (peerIds.foldl (fun pm peerId => pm.dialPeer peerId) pm).db = pm.db := by
  induction peerIds generalizing pm with
  | nil => rfl
  | cons peerId rest ih => rw [List.foldl_cons, ih, dialPeer_db]

theorem onConnectionEstablished_db (peerId : PeerId) (now : Instant) (endpoint : ConnectedPoint) :
    ∃ seenAddress direction, (pm.onConnectionEstablished peerId now endpoint).db =
      (pm.db.updateConnectionState peerId (.connected seenAddress direction) now).1 := by
  cases endpoint with
  | dialer address => exact ⟨address, .outgoing, rfl⟩
  | listener sendBackAddr => exact ⟨sendBackAddr, .incoming, rfl⟩

theorem onConnectionClosed_db (peerId : PeerId) (remainingEstablished : Nat) (now : Instant) :
    (pm.onConnectionClosed peerId remainingEstablished now).db =
      if 0 < remainingEstablished then pm.db else (pm.db.injectDisconnect peerId now).1 := by
  unfold onConnectionClosed
  split
  · rfl
  · dsimp only
    split <;> simp only [injectDisconnect_db, push_db]

theorem onDialFailure_db (peerId : PeerId) (now : Instant) :
    (pm.onDialFailure (some peerId) now).db =
      if pm.db.isConnected peerId then pm.db else (pm.db.injectDisconnect peerId now).1 := by
  simp only [onDialFailure]
  split <;> simp only [injectDisconnect_db]

end Database

/-- The handlers run on a request of the network service or on a dial taken
from the queue; none of them registers or ends a connection. -/
inductive Handles (now : Instant) : PeerManager → PeerManager → Prop
  | unchanged (pm : PeerManager) : Handles now pm pm
  | dialPeer (pm : PeerManager) (peerId : PeerId) : Handles now pm (pm.dialPeer peerId)
  | disconnectPeer (pm : PeerManager) (peerId : PeerId) (reason : GoodbyeReason) :
      Handles now pm (pm.disconnectPeer peerId reason now)
  | reportPeer (pm : PeerManager) (peerId : PeerId) (action : PeerAction) (reason : Option GoodbyeReason) :
      Handles now pm (pm.reportPeer peerId action reason now)
  | updateGossipsubScores (pm : PeerManager) (toIgnore : Nat) (scores : List (PeerId × Int)) :
      Handles now pm ((pm.db.updateGossipsubScores toIgnore scores now).2.foldl
        (fun pm action => pm.handleScoreAction action.1 now none action.2)
        { pm with db := (pm.db.updateGossipsubScores toIgnore scores now).1 })
  | markDialing (pm : PeerManager) (peerId : PeerId) :
      Handles now pm ({ pm with peersToDial := pm.peersToDial.dropLast }.injectPeerConnection peerId now .dialing)

/-- An RPC error reports the peer or changes nothing. -/
theorem Handles.handleRpcError (now : Instant) (pm : PeerManager) (peerId : PeerId) (protocol : Protocol)
    (error : RPCError) (direction : ConnectionDirection) :
    Handles now pm (pm.handleRpcError peerId protocol error direction now) := by
  unfold PeerManager.handleRpcError
  split
  · exact .reportPeer _ _ _ _
  · exact .unchanged _

end PeerManager

/-- The swarm around the peer manager: for each peer, the established
connections and the pending dials, and the events already handed to the
network service. -/
structure Swarm where
  pm : PeerManager
  established : PeerId → Nat
  dialing : PeerId → Nat
  delivered : List PeerManagerEvent

/-- What can happen next, apart from the heartbeat. -/
inductive SwarmOp where
  /-- A peer connects to us. -/
  | inbound (peerId : PeerId) (remoteAddr : Multiaddr)
  /-- A pending dial of the peer completes its handshake. -/
  | outbound (peerId : PeerId) (address : Multiaddr)
  /-- A pending dial of the peer fails. -/
  | dialFailure (peerId : PeerId)
  /-- One of the peer's connections closes. -/
  | closed (peerId : PeerId)
  /-- The swarm polls the peer manager. -/
  | poll
  /-- Discovery or the service asks to dial the peer. -/
  | dialPeer (peerId : PeerId)
  /-- The service disconnects the peer. -/
  | disconnectPeer (peerId : PeerId) (reason : GoodbyeReason)
  /-- The service reports the peer. -/
  | reportPeer (peerId : PeerId) (action : PeerAction) (reason : Option GoodbyeReason)
  /-- The service says goodbye to the peer. -/
  | goodbyePeer (peerId : PeerId) (reason : GoodbyeReason)
  /-- New gossipsub scores. -/
  | updateGossipsubScores (toIgnoreNegativePeers : Nat) (gossipsubScores : List (PeerId × Int))
  /-- An RPC error on a connection of the peer, in answering its request
  (`inbound`) or in a request of ours. -/
  | rpcError (peerId : PeerId) (protocol : Protocol) (error : RPCError) (inbound : Bool)
  deriving DecidableEq, Repr

namespace Swarm

variable (sw : Swarm)

/-- The events the peer manager has queued so far, in order. -/
def queued : List PeerManagerEvent := sw.delivered ++ sw.pm.events

/-- A new established connection of `peerId`, if the behaviours accept it: the
peer manager registers it. -/
def establish (peerId : PeerId) (endpoint : ConnectedPoint) (now : Instant) : Swarm :=
  { sw with
    pm := sw.pm.onConnectionEstablished peerId now endpoint
    established := Function.update sw.established peerId (sw.established peerId + 1) }

/-- One notification or request at time `now`. -/
def step (now : Instant) : SwarmOp → Option Swarm
  | .inbound peerId remoteAddr =>
    match sw.pm.handlePendingInboundConnection remoteAddr, sw.pm.handleEstablishedInboundConnection peerId now with
    | .ok (), .ok () =>
      if sw.established peerId = 0 then some (sw.establish peerId (.listener remoteAddr) now) else some sw
    | _, _ => some sw
  | .outbound peerId address =>
    if sw.dialing peerId = 0 then none
    else
      let sw := { sw with dialing := Function.update sw.dialing peerId (sw.dialing peerId - 1) }
      match sw.pm.handleEstablishedOutboundConnection peerId now with
      | .ok () =>
        if sw.established peerId = 0 then some (sw.establish peerId (.dialer address) now)
        else some { sw with pm := sw.pm.onDialFailure (some peerId) now }
      | .error _ => some { sw with pm := sw.pm.onDialFailure (some peerId) now }
  | .dialFailure peerId =>
    if sw.dialing peerId = 0 then none
    else
      some { sw with
        pm := sw.pm.onDialFailure (some peerId) now
        dialing := Function.update sw.dialing peerId (sw.dialing peerId - 1) }
  | .closed peerId =>
    if sw.established peerId = 0 then none
    else
      some { sw with
        pm := sw.pm.onConnectionClosed peerId (sw.established peerId - 1) now
        established := Function.update sw.established peerId (sw.established peerId - 1) }
  | .poll =>
    match sw.pm.events, sw.pm.peersToDial.getLast? with
    | event :: rest, _ => some { sw with pm := { sw.pm with events := rest }, delivered := sw.delivered ++ [event] }
    | [], some peerId =>
      let pm := { sw.pm with peersToDial := sw.pm.peersToDial.dropLast }.injectPeerConnection peerId now .dialing
      -- `PeerCondition::Disconnected`: a connected peer is not dialed, and the dial fails at once
      if sw.established peerId = 0 then
        some { sw with pm, dialing := Function.update sw.dialing peerId (sw.dialing peerId + 1) }
      else some { sw with pm := pm.onDialFailure (some peerId) now }
    | [], none => none
  | .dialPeer peerId => some { sw with pm := sw.pm.dialPeer peerId }
  | .disconnectPeer peerId reason => some { sw with pm := sw.pm.disconnectPeer peerId reason now }
  | .reportPeer peerId action reason => some { sw with pm := sw.pm.reportPeer peerId action reason now }
  | .goodbyePeer peerId reason => some { sw with pm := sw.pm.goodbyePeer peerId reason now }
  | .updateGossipsubScores toIgnoreNegativePeers gossipsubScores =>
    let scored := sw.pm.db.updateGossipsubScores toIgnoreNegativePeers gossipsubScores now
    some { sw with
      pm := scored.2.foldl (fun pm action => pm.handleScoreAction action.1 now none action.2)
        { sw.pm with db := scored.1 } }
  | .rpcError peerId protocol error inbound =>
    -- `inject_rpc_event` drops the inbound errors of a peer that is not connected
    if inbound ∧ sw.pm.db.isConnected peerId = false then some sw
    else some { sw with pm := sw.pm.handleRpcError peerId protocol error (if inbound then .incoming else .outgoing) now }

/-- A run of timed notifications and requests, as long as each can happen. -/
def run : Swarm → List (Instant × SwarmOp) → Option Swarm
  | sw, [] => some sw
  | sw, (now, op) :: ops => (sw.step now op).bind fun sw => sw.run ops

/-- What one notification or request does to the swarm, as cases: a connection
is established or closes, an event is handed to the service, a dial fails, or
the peer manager runs handlers that register and end no connection. -/
inductive Moves (now : Instant) : SwarmOp → Swarm → Prop
  | establish (op : SwarmOp) (peerId : PeerId) (endpoint : ConnectedPoint) (dialing : PeerId → Nat)
      (fresh : sw.established peerId = 0) :
      Moves now op (({ sw with dialing } : Swarm).establish peerId endpoint now)
  | close (peerId : PeerId) (connected : sw.established peerId ≠ 0) :
      Moves now (.closed peerId) { sw with
        pm := sw.pm.onConnectionClosed peerId (sw.established peerId - 1) now
        established := Function.update sw.established peerId (sw.established peerId - 1) }
  | deliver (event : PeerManagerEvent) (rest : List PeerManagerEvent) (queued : sw.pm.events = event :: rest) :
      Moves now .poll { sw with pm := { sw.pm with events := rest }, delivered := sw.delivered ++ [event] }
  | dialFailure (peerId : PeerId) (dialing : PeerId → Nat) :
      Moves now (.dialFailure peerId) { sw with pm := sw.pm.onDialFailure (some peerId) now, dialing }
  | outboundFailure (peerId : PeerId) (address : Multiaddr) (dialing : PeerId → Nat) :
      Moves now (.outbound peerId address) { sw with pm := sw.pm.onDialFailure (some peerId) now, dialing }
  | popFailure (peerId : PeerId) (noEvents : sw.pm.events = []) (popped : sw.pm.peersToDial.getLast? = some peerId)
      (connected : sw.established peerId ≠ 0) :
      Moves now .poll { sw with pm := ({ sw.pm with peersToDial := sw.pm.peersToDial.dropLast }.injectPeerConnection
        peerId now .dialing).onDialFailure (some peerId) now }
  | handle (op : SwarmOp) (pm : PeerManager) (dialing : PeerId → Nat) (handled : sw.pm.Handles now pm) :
      Moves now op { sw with pm, dialing }

/-- `step` takes one of the moves. -/
theorem moves_of_step {now : Instant} {op : SwarmOp} {sw' : Swarm} (stepped : sw.step now op = some sw') :
    sw.Moves now op sw' := by
  cases op with
  | inbound peerId remoteAddr =>
    simp only [step] at stepped
    split at stepped
    · split at stepped <;> cases stepped
      · exact .establish _ peerId _ sw.dialing ‹_›
      · exact .handle _ sw.pm sw.dialing (.unchanged _)
    · cases stepped
      exact .handle _ sw.pm sw.dialing (.unchanged _)
  | outbound peerId address =>
    simp only [step] at stepped
    split at stepped
    · cases stepped
    · split at stepped
      · split at stepped <;> cases stepped
        · exact .establish _ peerId _ _ ‹_›
        · exact .outboundFailure peerId address _
      · cases stepped
        exact .outboundFailure peerId address _
  | dialFailure peerId =>
    simp only [step] at stepped
    split at stepped
    · cases stepped
    · cases stepped
      exact .dialFailure peerId _
  | closed peerId =>
    simp only [step] at stepped
    split at stepped
    · cases stepped
    · cases stepped
      exact .close peerId ‹_›
  | poll =>
    simp only [step] at stepped
    split at stepped
    · cases stepped
      exact .deliver _ _ ‹_›
    · split at stepped <;> cases stepped
      · exact .handle _ _ _ (.markDialing _ _)
      · exact .popFailure _ ‹_› ‹_› ‹_›
    · cases stepped
  | dialPeer peerId =>
    cases stepped
    exact .handle _ _ sw.dialing (.dialPeer _ _)
  | disconnectPeer peerId reason =>
    cases stepped
    exact .handle _ _ sw.dialing (.disconnectPeer _ _ _)
  | reportPeer peerId action reason =>
    cases stepped
    exact .handle _ _ sw.dialing (.reportPeer _ _ _ _)
  | goodbyePeer peerId reason =>
    cases stepped
    exact .handle _ _ sw.dialing (.reportPeer _ _ _ _)
  | updateGossipsubScores toIgnore scores =>
    cases stepped
    exact .handle _ _ sw.dialing (.updateGossipsubScores _ _ _)
  | rpcError peerId protocol error inbound =>
    simp only [step] at stepped
    split at stepped <;> cases stepped
    · exact .handle _ _ sw.dialing (.unchanged _)
    · exact .handle _ _ sw.dialing (.handleRpcError _ _ _ _ _ _)

/-- The heartbeat at time `now`, `elapsed` after the previous one, with the peers
`prune_excess_peers` chose. -/
def heartbeat (limits : DiscoveryLimits) (now elapsed : Nat) (peersToPrune : List PeerId) : Swarm :=
  { sw with pm := (sw.pm.beforePruning limits now elapsed).afterPruning now peersToPrune }

-- the linter would unfold `PruneExcessPeers` in the type of `pruned`
set_option linter.constructorNameAsVariable false in
/-- One move of the swarm: a notification or request, a heartbeat that prunes a
set `prune_excess_peers` may choose, or the answer of a discovery query. -/
inductive Step : Swarm → Swarm → Prop
  | notify (sw sw' : Swarm) (now : Instant) (op : SwarmOp) (stepped : sw.step now op = some sw') : Step sw sw'
  | heartbeat (sw : Swarm) (limits : DiscoveryLimits) (now elapsed : Nat) (peersToPrune : List PeerId)
      (pruned : PeerManager.PruneExcessPeers ((sw.pm.beforePruning limits now elapsed).pruneConfig now)
        (sw.pm.beforePruning limits now elapsed).db peersToPrune) :
      Step sw (sw.heartbeat limits now elapsed peersToPrune)
  | discovered (sw : Swarm) (limits : DiscoveryLimits) (results : List (PeerId × Option Instant)) :
      Step sw { sw with pm := sw.pm.peersDiscovered limits results }

/-- A run of notifications and requests is a run of moves. -/
theorem run_moves : ∀ {sw sw' : Swarm} (ops : List (Instant × SwarmOp)), sw.run ops = some sw' →
    Relation.ReflTransGen Step sw sw'
  | _, _, [], ran => by
    cases ran
    exact .refl
  | _, _, (now, op) :: ops, ran => by
    obtain ⟨next, stepped, rest⟩ := Option.bind_eq_some.mp ran
    exact .head (.notify _ _ now op stepped) (run_moves ops rest)

end Swarm

end Eth2Libp2p
