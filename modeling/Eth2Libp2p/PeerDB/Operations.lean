import Eth2Libp2p.PeerDB.Shrink

/-! # The mutators of the peer database

The public mutators of `PeerDB` that the peer manager calls: the connection
notifications, reports and score updates, the dialing-timeout cleanup, the
trusted-peer settings and `update_min_ttl`. Every change of a connection status
goes through `PeerDB.updateConnectionState`; the other mutators only change
scores, trust flags and duty deadlines.

`PeerDB.step` gathers them as one transition on an operation, and `PeerDB.run`
runs a list of timed operations from a database; the run invariants are stated
over `run`.
-/

namespace Eth2Libp2p

/-- The time a peer may stay dialing before it is reverted to disconnected. -/
def DIAL_TIMEOUT : Nat := 15

/-- The result of a score change (`ScoreTransitionResult`). -/
inductive ScoreTransitionResult where
  | disconnected
  | banned
  | unbanned
  | noAction
  deriving DecidableEq, Repr

/-- What the peer manager must do after a score change (`ScoreUpdateResult`). -/
inductive ScoreUpdateResult where
  | ban (banOperation : BanOperation)
  | disconnect
  | unbanned (ips : List IpAddr)
  | noAction
  deriving DecidableEq, Repr

/-- `From<Option<BanOperation>> for ScoreUpdateResult`. -/
def ScoreUpdateResult.ofBanOperation : Option BanOperation → ScoreUpdateResult
  | none => .noAction
  | some banOperation => .ban banOperation

/-- `handle_score_transition`. -/
def handleScoreTransition (previousState : ScoreState) (info : PeerInfo) : ScoreTransitionResult :=
  match info.scoreState, previousState with
  | .banned, .healthy | .banned, .forcedDisconnect => .banned
  | .forcedDisconnect, .banned | .forcedDisconnect, .healthy =>
    if info.isConnectedOrDialing then .disconnected
    else if previousState = .banned then .unbanned
    else .noAction
  | .healthy, .forcedDisconnect => .noAction
  | .healthy, .banned => .unbanned
  | .healthy, .healthy | .forcedDisconnect, .forcedDisconnect | .banned, .banned => .noAction

/-- The records with `f` applied to each, with its key; keys and order unchanged. -/
def PeerMap.mapValues (f : PeerId → PeerInfo → PeerInfo) (peers : PeerMap) : PeerMap :=
  ⟨peers.entries.map fun entry =>
      (⟨entry.1, f entry.1 entry.2⟩ : Sigma fun _ : PeerId => PeerInfo), by
    have keys : (peers.entries.map fun entry =>
        (⟨entry.1, f entry.1 entry.2⟩ : Sigma fun _ : PeerId => PeerInfo)).keys =
          peers.entries.keys := by
      simp only [List.keys, List.map_map, Function.comp_def]
    unfold List.NodupKeys
    rw [keys]
    exact peers.nodupKeys⟩

namespace PeerDB

/-- `dialing_peer`. -/
def dialingPeer (db : PeerDB) (peerId : PeerId) (now : Instant) : PeerDB :=
  (db.updateConnectionState peerId .dialing now).1

/-- `connect_ingoing`. -/
def connectIngoing (db : PeerDB) (peerId : PeerId) (seenAddress : Multiaddr) (now : Instant) :
    PeerDB :=
  (db.updateConnectionState peerId (.connected seenAddress .incoming) now).1

/-- `connect_outgoing`. -/
def connectOutgoing (db : PeerDB) (peerId : PeerId) (seenAddress : Multiaddr) (now : Instant) :
    PeerDB :=
  (db.updateConnectionState peerId (.connected seenAddress .outgoing) now).1

/-- `notify_disconnecting`. -/
def notifyDisconnecting (db : PeerDB) (peerId : PeerId) (toBan : Bool) (now : Instant) : PeerDB :=
  (db.updateConnectionState peerId (.disconnecting toBan) now).1

/-- The transition a score change asks for, carried out (`report_peer` and
`update_gossipsub_scores` share it). -/
def applyScoreTransition (db : PeerDB) (peerId : PeerId) (now : Instant) :
    ScoreTransitionResult → PeerDB × ScoreUpdateResult
  | .banned =>
    let banned := db.updateConnectionState peerId .banned now
    (banned.1, .ofBanOperation banned.2)
  | .disconnected => ((db.updateConnectionState peerId (.disconnecting false) now).1, .disconnect)
  | .noAction => (db, .noAction)
  | .unbanned =>
    let db := (db.updateConnectionState peerId .unbanned now).1
    let ips := ((db.peers.lookup peerId).map fun info =>
      info.seenIpAddresses.filter fun ip => !db.isIpBanned ip).getD []
    (db, .unbanned ips)

/-- `report_peer`: penalise a known peer and carry out the resulting transition;
an unbanning caused by a report is only logged. -/
def reportPeer (db : PeerDB) (peerId : PeerId) (action : PeerAction) (now : Instant) :
    PeerDB × ScoreUpdateResult :=
  match db.peers.lookup peerId with
  | none => (db, .noAction)
  | some info =>
    let previousState := info.scoreState
    let info := info.applyPeerActionToScore action
    let db := { db with peers := db.peers.insert peerId info }
    match handleScoreTransition previousState info with
    | .unbanned => (db, .noAction)
    | result => db.applyScoreTransition peerId now result

/-- `update_scores`: decay every score by `elapsed`; only unbannings are acted
upon, bans and disconnections caused by a decay are only logged. -/
def updateScores (db : PeerDB) (elapsed : Nat) (now : Instant) :
    PeerDB × List (PeerId × ScoreUpdateResult) :=
  let decay (info : PeerInfo) : PeerInfo := { info with score := info.score.update elapsed }
  let peersToUnban := (db.peers.entries.filter fun entry =>
    handleScoreTransition entry.2.scoreState (decay entry.2) = .unbanned).map (·.1)
  let db := { db with peers := db.peers.mapValues fun _ => decay }
  peersToUnban.foldl (fun (db, results) peerId =>
    let unbanned := db.applyScoreTransition peerId now .unbanned
    (unbanned.1, results ++ [(peerId, unbanned.2)])) (db, [])

/-- The connected peers with a gossipsub score, best score first (`sort_unstable_by`
on the descending comparator; the order among equal scores is the map's). -/
def gossipsubRanking (db : PeerDB) (gossipsubScores : List (PeerId × Int)) :
    List (PeerId × PeerInfo × Int) :=
  let scored := (db.peers.entries.filter fun entry => entry.2.isConnected).filterMap fun entry =>
    (gossipsubScores.lookup entry.1).map fun score => (entry.1, entry.2, score)
  scored.mergeSort fun a b => b.2.2 ≤ a.2.2

/-- The ranked peers with the flag `update_gossipsub_score` receives: a negative
score is ignored while the budget `toIgnore` lasts, each ignored one using it up. -/
def ignoreFlags : Nat → List (PeerId × PeerInfo × Int) → List (PeerId × PeerInfo × Int × Bool)
  | _, [] => []
  | toIgnore, (peerId, info, score) :: rest =>
    let ignore := decide (score < 0) && 0 < toIgnore
    (peerId, info, score, ignore) :: ignoreFlags (if ignore then toIgnore - 1 else toIgnore) rest

/-- The calls `update_gossipsub_scores` makes to `update_gossipsub_score`, in
ranking order: each ranked peer with its record, its new score and the
`ignore` flag. -/
def gossipsubScoreCalls (db : PeerDB) (toIgnoreNegativePeers : Nat) (gossipsubScores : List (PeerId × Int)) :
    List (PeerId × PeerInfo × Int × Bool) :=
  ignoreFlags toIgnoreNegativePeers (db.gossipsubRanking gossipsubScores)

/-- `update_gossipsub_scores`: new gossipsub scores for the connected peers, best
first; the first `toIgnoreNegativePeers` peers with a negative score have it
ignored. Each ranked record is updated in place, then the score transitions are
carried out in ranking order. `toIgnoreNegativePeers` is the `f32` value
`ceil(target_peers * ALLOWED_NEGATIVE_GOSSIPSUB_FACTOR)`. -/
def updateGossipsubScores (db : PeerDB) (toIgnoreNegativePeers : Nat)
    (gossipsubScores : List (PeerId × Int)) (now : Instant) :
    PeerDB × List (PeerId × ScoreUpdateResult) :=
  let flagged := db.gossipsubScoreCalls toIgnoreNegativePeers gossipsubScores
  let updated (info : PeerInfo) (score : Int) (ignore : Bool) : PeerInfo :=
    { info with score := info.score.updateGossipsubScore score ignore }
  let peers := db.peers.mapValues fun peerId info =>
    match flagged.find? (·.1 = peerId) with
    | some (_, _, score, ignore) => updated info score ignore
    | none => info
  let actions := flagged.map fun (peerId, info, score, ignore) =>
    (peerId, handleScoreTransition info.scoreState (updated info score ignore))
  actions.foldl (fun (db, results) (peerId, action) =>
    let applied := db.applyScoreTransition peerId now action
    (applied.1, if applied.2 = .noAction then results else results ++ [(peerId, applied.2)]))
    ({ db with peers }, [])

/-- `cleanup_dialing_peers`: peers dialing for longer than `DIAL_TIMEOUT` become
disconnected. -/
def cleanupDialingPeers (db : PeerDB) (now : Instant) : PeerDB :=
  let peersToDisconnect := db.peers.entries.filterMap fun entry =>
    match entry.2.connectionStatus with
    | .dialing since => if since + DIAL_TIMEOUT < now then some entry.1 else none
    | _ => none
  peersToDisconnect.foldl (fun db peerId => (db.updateConnectionState peerId .disconnected now).1) db

/-- `set_trusted_peer`. -/
def setTrustedPeer (db : PeerDB) (peerId : PeerId) : PeerDB :=
  match db.peers.lookup peerId with
  | some info =>
    { db with peers := db.peers.insert peerId { info with score := Score.maxScore, isTrusted := true } }
  | none => { db with peers := db.peers.insert peerId PeerInfo.trustedPeerInfo }

/-- `unset_trusted_peer`. -/
def unsetTrustedPeer (db : PeerDB) (peerId : PeerId) : PeerDB :=
  match db.peers.lookup peerId with
  | some info =>
    { db with peers := db.peers.insert peerId { info with isTrusted := false, score := Score.default } }
  | none => db

/-- `update_min_ttl`: a new record is a default one; the deadline only grows. -/
def updateMinTtl (db : PeerDB) (peerId : PeerId) (minTtl : Instant) : PeerDB :=
  let info := (db.peers.lookup peerId).getD PeerInfo.default
  let info := match info.minTtl with
    | some current => if current < minTtl then { info with minTtl := some minTtl } else info
    | none => { info with minTtl := some minTtl }
  { db with peers := db.peers.insert peerId info }

end PeerDB

/-- The operations of the peer database a run is made of. -/
inductive PeerDBOp where
  | connectIngoing (peerId : PeerId) (seenAddress : Multiaddr)
  | connectOutgoing (peerId : PeerId) (seenAddress : Multiaddr)
  | dialingPeer (peerId : PeerId)
  | notifyDisconnecting (peerId : PeerId) (toBan : Bool)
  | injectDisconnect (peerId : PeerId)
  | reportPeer (peerId : PeerId) (action : PeerAction)
  | updateScores (elapsed : Nat)
  | updateGossipsubScores (toIgnoreNegativePeers : Nat) (gossipsubScores : List (PeerId × Int))
  | cleanupDialingPeers
  | setTrustedPeer (peerId : PeerId)
  | unsetTrustedPeer (peerId : PeerId)
  | updateMinTtl (peerId : PeerId) (minTtl : Instant)
  deriving DecidableEq, Repr

namespace PeerDB

/-- One operation at time `now`, its results dropped. -/
def step (db : PeerDB) (now : Instant) : PeerDBOp → PeerDB
  | .connectIngoing peerId seenAddress => db.connectIngoing peerId seenAddress now
  | .connectOutgoing peerId seenAddress => db.connectOutgoing peerId seenAddress now
  | .dialingPeer peerId => db.dialingPeer peerId now
  | .notifyDisconnecting peerId toBan => db.notifyDisconnecting peerId toBan now
  | .injectDisconnect peerId => (db.injectDisconnect peerId now).1
  | .reportPeer peerId action => (db.reportPeer peerId action now).1
  | .updateScores elapsed => (db.updateScores elapsed now).1
  | .updateGossipsubScores toIgnore scores => (db.updateGossipsubScores toIgnore scores now).1
  | .cleanupDialingPeers => db.cleanupDialingPeers now
  | .setTrustedPeer peerId => db.setTrustedPeer peerId
  | .unsetTrustedPeer peerId => db.unsetTrustedPeer peerId
  | .updateMinTtl peerId minTtl => db.updateMinTtl peerId minTtl

/-- A run of timed operations. -/
def run (db : PeerDB) (ops : List (Instant × PeerDBOp)) : PeerDB :=
  ops.foldl (fun db op => db.step op.1 op.2) db

@[simp] theorem run_nil (db : PeerDB) : db.run [] = db := rfl

@[simp] theorem run_append (db : PeerDB) (ops more : List (Instant × PeerDBOp)) :
    db.run (ops ++ more) = (db.run ops).run more := List.foldl_append _ _ _ _

@[simp] theorem run_cons (db : PeerDB) (op : Instant × PeerDBOp) (ops : List (Instant × PeerDBOp)) :
    db.run (op :: ops) = (db.step op.1 op.2).run ops := rfl

end PeerDB

end Eth2Libp2p
