import Mathlib.Data.List.Sort
import Mathlib.Logic.Relation
import Eth2Libp2p.PeerDB.Basic

/-! # Pruning excess peers

`PeerManager::prune_excess_peers`: when more peers are connected than the
target, choose at most the excess to disconnect. Three passes share the set of
peers to prune and the count of outbound-only peers pruned. The first two are
the `prune_peers!` macro over the connected peers from the worst score up,
skipping peers with a duty and trusted peers: first the peers with a negative
score, then the peers with no long-lived subnet. The third pass groups the
remaining candidates by long-lived attestation subnet and prunes, from a subnet
with the most peers, a peer with the fewest long-lived subnets, keeping
outbound-only peers down to the outbound target and peers of a sync committee
with at most `MIN_SYNC_COMMITTEE_PEERS` candidates left.

Which subnet has the most peers among equals, and the order of equal peers,
depend on a hash map's order and on a shuffle: the third pass is a relation
(`PeerManager.Rebalance.Step`) whose steps make any of these choices, and
`PeerManager.PruneExcessPeers` holds of every set the function may prune. The
other hash maps of the function are lists here; none of their orders matters.
-/

namespace Eth2Libp2p

/-- `MIN_SYNC_COMMITTEE_PEERS`. -/
def MIN_SYNC_COMMITTEE_PEERS : Nat := 2

namespace PeerManager

/-- What `prune_excess_peers` reads from the peer manager besides the database:
the target peer count, the outbound-only target (computed from the former with
`f32` arithmetic, taken here as given), and the time duties are compared with. -/
structure PruneConfig where
  targetPeers : Nat
  targetOutboundPeers : Nat
  now : Instant

/-- `PeerDB::connected_peers`. -/
def connectedPeers (db : PeerDB) : List (PeerId × PeerInfo) :=
  (db.peers.entries.filter fun entry => entry.2.isConnected).map fun entry => (entry.1, entry.2)

/-- `PeerDB::worst_connected_peers`: the connected peers by increasing score, the
sort stable, so that equal scores keep the map's order. -/
def worstConnectedPeers (db : PeerDB) : List (PeerId × PeerInfo) :=
  (connectedPeers db).insertionSort fun a b => a.2.score.score ≤ b.2.score.score

/-- The number of connected outbound-only peers. -/
def connectedOutboundOnlyPeerCount (db : PeerDB) : Nat :=
  (db.peers.entries.filter fun entry => entry.2.isOutboundOnly).length

/-- The decisions shared by the passes: `peers_to_prune` and `outbound_peers_pruned`. -/
structure Pruning where
  peersToPrune : List PeerId
  outboundPeersPruned : Nat

section Passes

variable (cfg : PruneConfig) (excess connectedOutbound : Nat)

/-- The loop of `prune_peers!` over the peers that pass its filter: stop at the
excess, skip peers already chosen, and take outbound-only peers only above the
outbound target. -/
def prunePeersLoop : List (PeerId × PeerInfo) → Pruning → Pruning
  | [], st => st
  | (peerId, info) :: rest, st =>
    if excess ≤ st.peersToPrune.length then st
    else if peerId ∈ st.peersToPrune then prunePeersLoop rest st
    else if info.isOutboundOnly then
      if cfg.targetOutboundPeers + st.outboundPeersPruned < connectedOutbound then
        prunePeersLoop rest ⟨peerId :: st.peersToPrune, st.outboundPeersPruned + 1⟩
      else prunePeersLoop rest st
    else prunePeersLoop rest ⟨peerId :: st.peersToPrune, st.outboundPeersPruned⟩

/-- `prune_peers!(filter)`: over the worst connected peers without a future duty,
not trusted, and passing `filter`. -/
def prunePeers (filter : PeerInfo → Bool) (worst : List (PeerId × PeerInfo)) (st : Pruning) : Pruning :=
  prunePeersLoop cfg excess connectedOutbound
    (worst.filter fun entry => !entry.2.hasFutureDuty cfg.now && !entry.2.isTrusted && filter entry.2) st

end Passes

/-- The state of the subnet-rebalancing pass: the decisions so far, the
candidates by long-lived attestation subnet (`subnet_to_peer`), the number of
candidates of each sync committee and the sync committees of each candidate. -/
structure Rebalance where
  peersToPrune : List PeerId
  outboundPeersPruned : Nat
  subnetToPeer : List (Subnet × List (PeerId × PeerInfo))
  syncCommitteePeerCount : Nat → Nat
  peerToSyncCommittee : PeerId → List Nat

/-- `subnet_to_peer.entry(subnet).or_default().push(entry)`. -/
def pushPeer (subnet : Subnet) (entry : PeerId × PeerInfo) :
    List (Subnet × List (PeerId × PeerInfo)) → List (Subnet × List (PeerId × PeerInfo))
  | [] => [(subnet, [entry])]
  | (key, peers) :: rest =>
    if key = subnet then (key, peers ++ [entry]) :: rest else (key, peers) :: pushPeer subnet entry rest

namespace Rebalance

/-- Record one long-lived subnet of a candidate: attestation subnets group the
candidates, sync committees are counted, data-column subnets are ignored. -/
def addSubnet (peerId : PeerId) (info : PeerInfo) (st : Rebalance) : Subnet → Rebalance
  | .attestation id => { st with subnetToPeer := pushPeer (.attestation id) (peerId, info) st.subnetToPeer }
  | .syncCommittee id =>
    { st with
      syncCommitteePeerCount := Function.update st.syncCommitteePeerCount id (st.syncCommitteePeerCount id + 1)
      peerToSyncCommittee := Function.update st.peerToSyncCommittee peerId ((st.peerToSyncCommittee peerId).insert id) }
  | .dataColumn _ => st

/-- Record the long-lived subnets of one connected peer, unless it is trusted
or already chosen. -/
def addPeer (passes : Pruning) (st : Rebalance) (entry : PeerId × PeerInfo) : Rebalance :=
  if entry.2.isTrusted || entry.1 ∈ passes.peersToPrune then st
  else entry.2.longLivedSubnets.foldl (fun st subnet => st.addSubnet entry.1 entry.2 subnet) st

/-- The maps of the third pass, over the connected peers. -/
def start (db : PeerDB) (passes : Pruning) : Rebalance :=
  (connectedPeers db).foldl (addPeer passes)
    ⟨passes.peersToPrune, passes.outboundPeersPruned, [], fun _ => 0, fun _ => []⟩

section Step

variable (cfg : PruneConfig) (connectedOutbound : Nat)

/-- An outbound-only candidate whose removal would bring the outbound-only
peers to the target or below is kept. -/
def keepsOutbound (st : Rebalance) (info : PeerInfo) : Bool :=
  info.isOutboundOnly && decide (connectedOutbound - st.outboundPeersPruned ≤ cfg.targetOutboundPeers)

/-- A candidate of a sync committee with at most `MIN_SYNC_COMMITTEE_PEERS`
candidates is kept. -/
def keepsSyncCommittee (st : Rebalance) (peerId : PeerId) : Bool :=
  (st.peerToSyncCommittee peerId).any fun id => decide (st.syncCommitteePeerCount id ≤ MIN_SYNC_COMMITTEE_PEERS)

/-- A candidate the pass may prune. -/
def eligible (st : Rebalance) (entry : PeerId × PeerInfo) : Bool :=
  !st.keepsOutbound cfg connectedOutbound entry.2 && !st.keepsSyncCommittee entry.1

/-- Prune `candidate`, found on the subnet at `index` after the peers of
`before`: it leaves every subnet and every sync committee count. -/
def prune (st : Rebalance) (index : Nat) (subnet : Subnet) (before after : List (PeerId × PeerInfo))
    (candidate : PeerId × PeerInfo) : Rebalance where
  peersToPrune := candidate.1 :: st.peersToPrune
  outboundPeersPruned := if candidate.2.isOutboundOnly then st.outboundPeersPruned + 1 else st.outboundPeersPruned
  subnetToPeer := (st.subnetToPeer.set index (subnet, before ++ after)).map fun entry =>
    (entry.1, entry.2.filter fun peer => peer.1 ≠ candidate.1)
  syncCommitteePeerCount := fun id =>
    if id ∈ st.peerToSyncCommittee candidate.1 then st.syncCommitteePeerCount id - 1
    else st.syncCommitteePeerCount id
  peerToSyncCommittee := st.peerToSyncCommittee

section Prune

variable (st : Rebalance) (index : Nat) (subnet : Subnet) (before after : List (PeerId × PeerInfo))
  (candidate : PeerId × PeerInfo)

@[simp] theorem prune_peersToPrune :
    (st.prune index subnet before after candidate).peersToPrune = candidate.1 :: st.peersToPrune := rfl

@[simp] theorem prune_outboundPeersPruned :
    (st.prune index subnet before after candidate).outboundPeersPruned =
      if candidate.2.isOutboundOnly then st.outboundPeersPruned + 1 else st.outboundPeersPruned := rfl

@[simp] theorem prune_syncCommitteePeerCount (id : Nat) :
    (st.prune index subnet before after candidate).syncCommitteePeerCount id =
      if id ∈ st.peerToSyncCommittee candidate.1 then st.syncCommitteePeerCount id - 1
      else st.syncCommitteePeerCount id := rfl

@[simp] theorem prune_peerToSyncCommittee :
    (st.prune index subnet before after candidate).peerToSyncCommittee = st.peerToSyncCommittee := rfl

end Prune

/-- Give up the subnet at `index`: none of its peers may be pruned. -/
def clear (st : Rebalance) (index : Nat) (subnet : Subnet) : Rebalance :=
  { st with subnetToPeer := st.subnetToPeer.set index (subnet, []) }

/-- One iteration of the loop of the third pass while fewer than `excess` peers
are chosen, for every choice the source leaves open: any subnet with the most
peers, and any order of its peers by increasing long-lived subnet count. -/
inductive Step (excess : Nat) : Rebalance → Rebalance → Prop
  | prune (st : Rebalance) (index : Nat) (subnet : Subnet) (peers before after : List (PeerId × PeerInfo))
      (candidate : PeerId × PeerInfo)
      (below : st.peersToPrune.length < excess)
      (chosen : st.subnetToPeer[index]? = some (subnet, peers))
      (largest : ∀ entry ∈ st.subnetToPeer, entry.2.length ≤ peers.length)
      (shuffled : (before ++ candidate :: after).Perm peers)
      (sorted : (before ++ candidate :: after).Sorted fun a b =>
        a.2.longLivedSubnetCount ≤ b.2.longLivedSubnetCount)
      (skipped : ∀ entry ∈ before, st.eligible cfg connectedOutbound entry = false)
      (found : st.eligible cfg connectedOutbound candidate = true) :
      Step excess st (st.prune index subnet before after candidate)
  | clear (st : Rebalance) (index : Nat) (subnet : Subnet) (peers order : List (PeerId × PeerInfo))
      (below : st.peersToPrune.length < excess)
      (chosen : st.subnetToPeer[index]? = some (subnet, peers))
      (largest : ∀ entry ∈ st.subnetToPeer, entry.2.length ≤ peers.length)
      (nonempty : peers ≠ [])
      (shuffled : order.Perm peers)
      (sorted : order.Sorted fun a b => a.2.longLivedSubnetCount ≤ b.2.longLivedSubnetCount)
      (kept : ∀ entry ∈ order, st.eligible cfg connectedOutbound entry = false) :
      Step excess st (st.clear index subnet)

end Step

/-- The loop has stopped: the excess is reached, or every subnet is empty. -/
def Done (excess : Nat) (st : Rebalance) : Prop :=
  excess ≤ st.peersToPrune.length ∨ ∀ entry ∈ st.subnetToPeer, entry.2 = []

end Rebalance

/-- The first two passes: peers with a negative score, then, if more are needed,
peers with no long-lived subnet. -/
def scoreAndSubnetPasses (cfg : PruneConfig) (db : PeerDB) : Pruning :=
  let excess := (connectedPeers db).length - cfg.targetPeers
  let prune := prunePeers cfg excess (connectedOutboundOnlyPeerCount db)
  let afterScores := prune (fun info => decide (info.score.score < 0)) (worstConnectedPeers db) ⟨[], 0⟩
  if afterScores.peersToPrune.length < excess then
    prune (fun info => !info.hasLongLivedSubnet) (worstConnectedPeers db) afterScores
  else afterScores

/-- `prune_excess_peers`: `peersToPrune` is a set of peers the function may pass
to `disconnect_peer`, for some run of the third pass to its end. -/
def PruneExcessPeers (cfg : PruneConfig) (db : PeerDB) (peersToPrune : List PeerId) : Prop :=
  let excess := (connectedPeers db).length - cfg.targetPeers
  let passes := scoreAndSubnetPasses cfg db
  if (connectedPeers db).length ≤ cfg.targetPeers then peersToPrune = []
  else if passes.peersToPrune.length < excess then
    ∃ final, Relation.ReflTransGen (Rebalance.Step cfg (connectedOutboundOnlyPeerCount db) excess)
        (Rebalance.start db passes) final ∧
      final.Done excess ∧ peersToPrune = final.peersToPrune
  else peersToPrune = passes.peersToPrune

end PeerManager

end Eth2Libp2p
