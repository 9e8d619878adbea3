import Eth2Libp2p.PeerDB.Basic

/-! # The connection-state transition

`PeerDB::update_connection_state`, the single function through which every
connection status and every counter of the peer database changes. It takes the
peer's record (a new one when the peer is unknown), applies a fatal penalty
first when asked to ban a peer whose score is not yet banned, and then follows
the source's match on the pair (old status, requested state) branch by branch,
returning the `BanOperation` the peer manager has to carry out.

The source matches on the pair; here the requested state is matched first and
the old status inside it, which keeps the source's order of the overlapping
patterns. ENRs, which the function only stores, are left out.

The body is `PeerDB.transition`, a function of the peer's record and the two
counters only: a transition writes that one record back and sets the counters,
and changes nothing else in the database.
-/

namespace Eth2Libp2p

/-- The state a peer is moved to (`NewConnectionState`). -/
inductive NewConnectionState where
  | connected (seenAddress : Multiaddr) (direction : ConnectionDirection)
  | disconnecting (toBan : Bool)
  | dialing
  | disconnected
  | banned
  | unbanned
  deriving DecidableEq, Repr

/-- What the peer manager must do after a transition (`BanOperation`). -/
inductive BanOperation where
  | temporaryBan
  | disconnectThePeer
  | readyToBan (bannedIps : List IpAddr)
  | peerDisconnecting
  deriving DecidableEq, Repr

namespace PeerDB

/-- The database with one record written and both counters set. -/
def write (db : PeerDB) (peerId : PeerId) (info : PeerInfo) (disconnectedPeers : Nat)
    (bannedPeersCount : BannedPeersCount) : PeerDB :=
  { db with peers := db.peers.insert peerId info, disconnectedPeers, bannedPeersCount }

/-- The record the transition works on: `entry`, with a fatal penalty when a
ban is requested for a peer whose score is not banned yet. -/
def banAdjusted (db : PeerDB) (peerId : PeerId) (newState : NewConnectionState) : PeerInfo :=
  let info := db.entry peerId
  match newState, info.scoreState with
  | .banned, .banned => info
  | .banned, _ => info.applyPeerActionToScore .fatal
  | _, _ => info

/-- The body of `update_connection_state` on the peer's record and the two
counters: the new record, the new counters and the ban operation. -/
def transition (info : PeerInfo) (dc : Nat) (counts : BannedPeersCount)
    (newState : NewConnectionState) (now : Instant) :
    PeerInfo × Nat × BannedPeersCount × Option BanOperation :=
  let seen := info.seenIpAddresses
  let bannedIps (counts : BannedPeersCount) := seen.filter counts.ipIsBanned
  match newState with
  | .connected seenAddress direction =>
    let dc := match info.connectionStatus with
      | .disconnected _ => dc - 1
      | _ => dc
    let counts := match info.connectionStatus with
      | .banned _ => counts.removeBannedPeer seen
      | _ => counts
    (info.connect direction seenAddress, dc, counts, none)
  | .dialing =>
    let info' := (info.setDialingPeer now).getD info
    match info.connectionStatus with
    | .banned _ => (info', dc, counts.removeBannedPeer seen, none)
    | .disconnected _ => (info', dc - 1, counts, none)
    | _ => (info', dc, counts, none)
  | .disconnected =>
    let info := info.clearSubnets
    match info.connectionStatus with
    | .banned _ | .disconnected _ => (info, dc, counts, none)
    | .disconnecting true =>
      let counts := counts.addBannedPeer seen
      (info.setConnectionStatus (.banned now), dc, counts, some (.readyToBan (bannedIps counts)))
    | .disconnecting false =>
      (info.setConnectionStatus (.disconnected now), dc + 1, counts, some .temporaryBan)
    | .unknown | .connected .. | .dialing _ =>
      (info.setConnectionStatus (.disconnected now), dc + 1, counts, none)
  | .disconnecting toBan =>
    match info.connectionStatus with
    | .banned _ => (info.setConnectionStatus (.disconnecting toBan), dc, counts, none)
    | .disconnected _ => (info.setConnectionStatus (.disconnecting toBan), dc - 1, counts, none)
    | _ => (info.setConnectionStatus (.disconnecting toBan), dc, counts, none)
  | .banned =>
    match info.connectionStatus with
    | .disconnected _ =>
      let counts := counts.addBannedPeer seen
      (info.setConnectionStatus (.banned now), dc - 1, counts, some (.readyToBan (bannedIps counts)))
    | .disconnecting _ =>
      (info.setConnectionStatus (.disconnecting true), dc, counts, some .peerDisconnecting)
    | .banned _ => (info, dc, counts, some (.readyToBan (bannedIps counts)))
    | .connected .. | .dialing _ =>
      (info.setConnectionStatus (.disconnecting true), dc, counts, some .disconnectThePeer)
    | .unknown =>
      let counts := counts.addBannedPeer seen
      (info.setConnectionStatus (.banned now), dc, counts, some (.readyToBan (bannedIps counts)))
  | .unbanned =>
    match info.connectionStatus with
    | .banned since =>
      (info.setConnectionStatus (.disconnected since), dc + 1, counts.removeBannedPeer seen, none)
    | _ => (info, dc, counts, none)

/-- `update_connection_state`: the transition on the peer's record, written back
with the new counters. -/
def updateConnectionState (db : PeerDB) (peerId : PeerId) (newState : NewConnectionState)
    (now : Instant) : PeerDB × Option BanOperation :=
  let result :=
    transition (db.banAdjusted peerId newState) db.disconnectedPeers db.bannedPeersCount newState now
  (db.write peerId result.1 result.2.1 result.2.2.1, result.2.2.2)

@[simp] theorem write_peers (db : PeerDB) (peerId : PeerId) (info : PeerInfo) (dc : Nat)
    (counts : BannedPeersCount) : (db.write peerId info dc counts).peers = db.peers.insert peerId info :=
  rfl

@[simp] theorem write_disablePeerScoring (db : PeerDB) (peerId : PeerId) (info : PeerInfo) (dc : Nat)
    (counts : BannedPeersCount) :
    (db.write peerId info dc counts).disablePeerScoring = db.disablePeerScoring := rfl

@[simp] theorem banAdjusted_connectionStatus (db : PeerDB) (peerId : PeerId)
    (newState : NewConnectionState) :
    (db.banAdjusted peerId newState).connectionStatus = (db.entry peerId).connectionStatus := by
  unfold banAdjusted PeerInfo.applyPeerActionToScore
  dsimp only
  split <;> (try split) <;> rfl

@[simp] theorem banAdjusted_seenIpAddresses (db : PeerDB) (peerId : PeerId)
    (newState : NewConnectionState) :
    (db.banAdjusted peerId newState).seenIpAddresses = (db.entry peerId).seenIpAddresses := by
  unfold banAdjusted PeerInfo.applyPeerActionToScore
  dsimp only
  split <;> (try split) <;> rfl

@[simp] theorem banAdjusted_isTrusted (db : PeerDB) (peerId : PeerId)
    (newState : NewConnectionState) :
    (db.banAdjusted peerId newState).isTrusted = (db.entry peerId).isTrusted := by
  unfold banAdjusted PeerInfo.applyPeerActionToScore
  dsimp only
  split <;> (try split) <;> rfl

@[simp] theorem updateConnectionState_fst (db : PeerDB) (peerId : PeerId)
    (newState : NewConnectionState) (now : Instant) :
    (db.updateConnectionState peerId newState now).1 =
      let result := transition (db.banAdjusted peerId newState) db.disconnectedPeers
        db.bannedPeersCount newState now
      db.write peerId result.1 result.2.1 result.2.2.1 := rfl

end PeerDB

end Eth2Libp2p
