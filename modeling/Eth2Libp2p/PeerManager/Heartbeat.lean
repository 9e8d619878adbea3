import Eth2Libp2p.PeerManager.PruneOutcomes
import Eth2Libp2p.PeerManager.Swarm

/-! # What the heartbeat leaves connected

After `prune_excess_peers`, the heartbeat disconnects the peers it chose: it
queues a `DisconnectPeer` for each and marks it `Disconnecting`. The chosen
peers are distinct and connected, so afterwards exactly that many fewer peers
are connected, and exactly the chosen outbound-only ones fewer are outbound-only
(`PeerManager.afterPruning_counts`, from `PeerDB.count_foldl_notifyDisconnecting`). With the bounds of the pruning, the
heartbeat leaves at least `target_peers` peers connected and at least
`target_outbound_peers` outbound-only peers, or all of them where there were
fewer (`PeerManager.afterPruning_keeps_targets`); a heartbeat of `Swarm.Step`
prunes such a set.
-/

namespace Eth2Libp2p

namespace PeerDB

theorem length_filter_eq_count (p : PeerInfo → Bool) (peers : PeerMap) :
    (peers.entries.filter fun entry => p entry.2).length = count p peers := by
  unfold count weight
  generalize peers.entries = entries
  induction entries with
  | nil => rfl
  | cons entry rest ih =>
    rw [List.filter_cons, List.map_cons, List.sum_cons, ← ih]
    dsimp only
    cases p entry.2 <;> simp only [Bool.toNat_true, Bool.toNat_false, List.length_cons, ↓reduceIte,
      Bool.false_eq_true] <;> omega

theorem length_connectedPeers (db : PeerDB) :
    (PeerManager.connectedPeers db).length = count PeerInfo.isConnected db.peers := by
  rw [PeerManager.connectedPeers, List.length_map, length_filter_eq_count]

theorem connectedOutboundOnlyPeerCount_eq_count (db : PeerDB) :
    PeerManager.connectedOutboundOnlyPeerCount db = count PeerInfo.isOutboundOnly db.peers :=
  length_filter_eq_count _ _

/-- Every transition to `Disconnecting` leaves that status. -/
theorem transition_disconnecting_connectionStatus (info : PeerInfo) (dc : Nat) (counts : BannedPeersCount)
    (toBan : Bool) (now : Instant) :
    (transition info dc counts (.disconnecting toBan) now).1.connectionStatus = .disconnecting toBan := by
  dsimp only [transition]
  split <;> rfl

section Counts

variable (p : PeerInfo → Bool)
  (closed : ∀ info : PeerInfo, info.connectionStatus = .disconnecting false → p info = false) (now : Instant)
include closed

/-- Marking a peer disconnecting takes it out of every count that holds of no
disconnecting record. -/
theorem count_notifyDisconnecting {db : PeerDB} {peerId : PeerId} {info : PeerInfo}
    (found : db.peers.lookup peerId = some info) :
    count p (db.notifyDisconnecting peerId false now).peers + (p info).toNat = count p db.peers := by
  have written := weight_insert (fun info => (p info).toNat) db.peers peerId
    (transition (db.banAdjusted peerId (.disconnecting false)) db.disconnectedPeers db.bannedPeersCount
      (.disconnecting false) now).1
  rw [closed _ (transition_disconnecting_connectionStatus ..)] at written
  simp only [entryWeight, found, Option.map_some', Option.getD_some, Bool.toNat_false] at written
  unfold count
  simp only [notifyDisconnecting, updateConnectionState_fst, write_peers]
  omega

/-- Marking distinct peers disconnecting, one after the other, takes out of
every such count exactly the peers it held of. -/
theorem count_foldl_notifyDisconnecting :
    ∀ (peerIds : List PeerId) (db : PeerDB), peerIds.Nodup → (∀ peerId ∈ peerIds, db.peers.lookup peerId ≠ none) →
      count p (peerIds.foldl (fun db peerId => db.notifyDisconnecting peerId false now) db).peers +
        (peerIds.filter fun peerId => (db.peers.lookup peerId).any p).length = count p db.peers
  | [], _, _, _ => rfl
  | peerId :: rest, db, distinct, known => by
    obtain ⟨info, found⟩ := Option.ne_none_iff_exists'.mp (known peerId (List.mem_cons_self _ _))
    have fresh := (List.nodup_cons.mp distinct).1
    have same : ∀ other ∈ rest,
        (db.notifyDisconnecting peerId false now).peers.lookup other = db.peers.lookup other :=
      fun other member => by
        simp only [notifyDisconnecting, updateConnectionState_fst, write_peers,
          AList.lookup_insert_ne fun equal : other = peerId => fresh (equal ▸ member)]
    have step := count_notifyDisconnecting p closed now found
    have tail := count_foldl_notifyDisconnecting rest _ (List.nodup_cons.mp distinct).2
      fun other member => (same other member).symm ▸ known other (List.mem_cons_of_mem _ member)
    rw [List.filter_congr fun other member => by rw [same other member]] at tail
    rw [List.foldl_cons, List.filter_cons, found, Option.any_some]
    cases holds : p info <;> simp only [holds, Bool.toNat_true, Bool.toNat_false, ↓reduceIte,
      Bool.false_eq_true, List.length_cons] at step ⊢ <;> omega

end Counts

end PeerDB

namespace PeerManager

theorem afterPruning_db (pm : PeerManager) (now : Instant) (peersToPrune : List PeerId) :
    (pm.afterPruning now peersToPrune).db =
      peersToPrune.foldl (fun db peerId => db.notifyDisconnecting peerId false now) pm.db := by
  unfold afterPruning
  dsimp only
  induction peersToPrune generalizing pm with
  | nil => rfl
  | cons peerId rest ih => rw [List.foldl_cons, ih, List.foldl_cons, disconnectPeer_db]

/-- Disconnecting distinct connected peers takes exactly them out of the
connected peers, and exactly the outbound-only ones among them out of the
outbound-only peers. -/
theorem afterPruning_counts (pm : PeerManager) (now : Instant) {peersToPrune : List PeerId}
    (distinct : peersToPrune.Nodup)
    (connected : ∀ peerId ∈ peersToPrune, ∃ info, (peerId, info) ∈ connectedPeers pm.db) :
    let after := (pm.afterPruning now peersToPrune).db
    (connectedPeers after).length + peersToPrune.length = (connectedPeers pm.db).length ∧
      connectedOutboundOnlyPeerCount after + (peersToPrune.filter (outboundOnlyIn pm.db)).length =
        connectedOutboundOnlyPeerCount pm.db := by
  have known : ∀ peerId ∈ peersToPrune, pm.db.peers.lookup peerId ≠ none := fun peerId member => by
    obtain ⟨info, present⟩ := connected peerId member
    rw [lookup_of_mem_connectedPeers present]
    exact Option.some_ne_none _
  have all := PeerDB.count_foldl_notifyDisconnecting PeerInfo.isConnected (fun info status => by
    unfold PeerInfo.isConnected
    rw [status]) now peersToPrune pm.db distinct known
  rw [List.filter_eq_self.mpr fun peerId member => by
    obtain ⟨info, present⟩ := connected peerId member
    rw [lookup_of_mem_connectedPeers present, Option.any_some, isConnected_of_mem_connectedPeers present]] at all
  have outbound := PeerDB.count_foldl_notifyDisconnecting PeerInfo.isOutboundOnly (fun info status => by
    unfold PeerInfo.isOutboundOnly
    rw [status]) now peersToPrune pm.db distinct known
  simp only [afterPruning_db, PeerDB.length_connectedPeers, PeerDB.connectedOutboundOnlyPeerCount_eq_count]
  exact ⟨all, outbound⟩

/-- The heartbeat's pruning leaves at least `target_peers` peers connected, and
at least `target_outbound_peers` outbound-only peers, or all of them where there
were fewer. -/
theorem afterPruning_keeps_targets {pm : PeerManager} {now : Instant} {peersToPrune : List PeerId}
    (outcome : PruneExcessPeers (pm.pruneConfig now) pm.db peersToPrune) :
    let after := (pm.afterPruning now peersToPrune).db
    min (connectedPeers pm.db).length pm.targetPeers ≤ (connectedPeers after).length ∧
      min (connectedOutboundOnlyPeerCount pm.db) pm.targetOutboundPeers ≤ connectedOutboundOnlyPeerCount after := by
  have valid := outcome.decisions
  have ⟨all, outbound⟩ := afterPruning_counts pm now valid.nodup valid.connected
  have bounded := valid.bounded
  have floor := valid.outbound
  simp only [pruneConfig] at bounded floor
  exact ⟨by omega, by omega⟩

/-- Towards one peer, the heartbeat prunes the duty peer of `dutyPeerDB` and
keeps the trusted one connected. -/
theorem afterPruning_keeps_targets_dutyPeerDB :
    let pm : PeerManager := ⟨dutyPeerDB, [], [], [], [], 1, 0, 2, 2⟩
    PruneExcessPeers (pm.pruneConfig 0) pm.db [2] ∧
      min (connectedPeers pm.db).length pm.targetPeers ≤ (connectedPeers (pm.afterPruning 0 [2]).db).length ∧
      min (connectedOutboundOnlyPeerCount pm.db) pm.targetOutboundPeers ≤
        connectedOutboundOnlyPeerCount (pm.afterPruning 0 [2]).db :=
  ⟨dutyPeerDB_outcome, afterPruning_keeps_targets dutyPeerDB_outcome⟩

end PeerManager

end Eth2Libp2p
