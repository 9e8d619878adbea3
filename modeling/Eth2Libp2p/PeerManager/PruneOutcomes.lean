import Eth2Libp2p.PeerManager.Rebalance

/-! # What `prune_excess_peers` prunes

Every state has an outcome (`PeerManager.pruneExcessPeers_exists`), and every
outcome is the end of a run of the third pass from the decisions of the first
two (`PeerManager.PruneExcessPeers.final`), so the invariants of both passes
hold of it.

The set pruned is a set of distinct connected peers, at most the excess, with
no more outbound-only peers than the outbound target allows, and it leaves every
sync committee at least `MIN_SYNC_COMMITTEE_PEERS` of its candidates, or all of
them (`PeerManager.pruneExcessPeers_bounds`). It is the whole excess unless
each peer left is trusted, has a duty, is kept for the outbound target or for a
sync committee, or has long-lived subnets none of which is an attestation
subnet: those peers no pass looks at (`PeerManager.pruneExcessPeers_selects_excess`).
The third pass groups its candidates by attestation subnet only, so peers whose
long-lived subnets are all sync committee subnets are never pruned, however many
there are (`PeerManager.pruneExcessPeers_keeps_syncCommittee_peers`), although
the source's order of pruning ends by removing peers at random.

No pass prunes a trusted peer, but the third pass does not check duties: a peer
with a future duty on an attestation subnet can be pruned there
(`PeerManager.PruneExcessPeers.drawn`, `PeerManager.pruneExcessPeers_prunes_duty_peer`).
-/

namespace Eth2Libp2p

namespace PeerManager

open Rebalance

section Outcomes

variable {cfg : PruneConfig} {db : PeerDB} {peersToPrune : List PeerId}

/-- Some set is pruned from every state: every run of the third pass stops. -/
theorem pruneExcessPeers_exists (cfg : PruneConfig) (db : PeerDB) : ∃ peersToPrune, PruneExcessPeers cfg db peersToPrune := by
  dsimp only [PruneExcessPeers]
  split
  · exact ⟨[], rfl⟩
  split
  · obtain ⟨final, run, done⟩ := exists_done cfg (connectedOutboundOnlyPeerCount db)
      ((connectedPeers db).length - cfg.targetPeers) (start db (scoreAndSubnetPasses cfg db))
    exact ⟨_, final, run, done, rfl⟩
  · exact ⟨_, rfl⟩

theorem PruneExcessPeers.eq_nil_of_le (outcome : PruneExcessPeers cfg db peersToPrune)
    (under : (connectedPeers db).length ≤ cfg.targetPeers) : peersToPrune = [] := by
  dsimp only [PruneExcessPeers] at outcome
  rwa [if_pos under] at outcome

/-- Above the target, an outcome is the end of a run of the third pass from the
first two, which keeps the invariant of that pass. -/
theorem PruneExcessPeers.final (outcome : PruneExcessPeers cfg db peersToPrune)
    (over : cfg.targetPeers < (connectedPeers db).length) :
    ∃ final, RebalanceInv cfg db (scoreAndSubnetPasses cfg db) ((connectedPeers db).length - cfg.targetPeers) final ∧
      final.Done ((connectedPeers db).length - cfg.targetPeers) ∧ peersToPrune = final.peersToPrune := by
  obtain ⟨_, passes, -, -⟩ := scoreAndSubnetPasses_extends cfg db
  have start := rebalanceInv_start cfg db _ _ passes.decisions
  have built := built_start db (scoreAndSubnetPasses cfg db)
  dsimp only [PruneExcessPeers] at outcome
  rw [if_neg (Nat.not_le_of_lt over)] at outcome
  split at outcome
  · obtain ⟨final, run, done, rfl⟩ := outcome
    exact ⟨final, start.run run, done, rfl⟩
  · next reached =>
    refine ⟨_, start, .inl ?_, by rw [outcome, built.peersToPrune]⟩
    rw [built.peersToPrune]
    exact Nat.le_of_not_lt reached

/-- The decisions of every outcome are valid. -/
theorem PruneExcessPeers.decisions (outcome : PruneExcessPeers cfg db peersToPrune) :
    Decisions cfg db ((connectedPeers db).length - cfg.targetPeers) peersToPrune
      (peersToPrune.filter (outboundOnlyIn db)).length := by
  by_cases over : cfg.targetPeers < (connectedPeers db).length
  · obtain ⟨final, inv, -, rfl⟩ := outcome.final over
    exact inv.decisions.counted ▸ inv.decisions
  · rw [outcome.eq_nil_of_le (Nat.le_of_not_lt over)]
    exact decisions_nil cfg db _

/-- Every peer pruned is an untrusted connected peer, without a duty unless it
is on a long-lived attestation subnet: the first two passes skip duties, the
third does not. -/
theorem PruneExcessPeers.drawn (outcome : PruneExcessPeers cfg db peersToPrune) :
    ∀ peerId ∈ peersToPrune, ∃ info, (peerId, info) ∈ connectedPeers db ∧ info.isTrusted = false ∧
      (info.hasFutureDuty cfg.now = false ∨ HasAttestationSubnet info) := by
  intro peerId pruned
  by_cases over : cfg.targetPeers < (connectedPeers db).length
  · obtain ⟨final, inv, -, rfl⟩ := outcome.final over
    obtain ⟨peers, passes, filtered, -⟩ := scoreAndSubnetPasses_extends cfg db
    rcases inv.drawn peerId pruned with early | ⟨info, member, candidate, attestation⟩
    · rcases passes.drawn peerId early with absurd | ⟨info, member⟩
      · exact (List.not_mem_nil _ absurd).elim
      · obtain ⟨connected, idle, untrusted⟩ := filtered _ member
        exact ⟨info, connected, untrusted, .inl idle⟩
    · exact ⟨info, member, (isCandidate_eq_true.mp candidate).1, .inr attestation⟩
  · rw [outcome.eq_nil_of_le (Nat.le_of_not_lt over)] at pruned
    exact (List.not_mem_nil _ pruned).elim

/-- Every sync committee keeps `MIN_SYNC_COMMITTEE_PEERS` of its candidates, or all. -/
theorem PruneExcessPeers.syncFloor (outcome : PruneExcessPeers cfg db peersToPrune) (id : Nat) :
    min (syncCommitteeCandidates db (scoreAndSubnetPasses cfg db) id).length MIN_SYNC_COMMITTEE_PEERS ≤
      remainingCandidates db (scoreAndSubnetPasses cfg db) id peersToPrune := by
  by_cases over : cfg.targetPeers < (connectedPeers db).length
  · obtain ⟨final, inv, -, rfl⟩ := outcome.final over
    exact inv.syncCommitteePeerCount id ▸ inv.syncFloor id
  · rw [outcome.eq_nil_of_le (Nat.le_of_not_lt over), remainingCandidates]
    simp

/-- A peer the third pass may not prune is kept for the outbound target or for
a sync committee. -/
theorem RebalanceInv.excused {passes : Pruning} {excess : Nat} {st : Rebalance}
    (inv : RebalanceInv cfg db passes excess st) {entry : PeerId × PeerInfo} (member : entry ∈ connectedPeers db)
    (candidate : isCandidate passes entry = true)
    (kept : st.eligible cfg (connectedOutboundOnlyPeerCount db) entry = false) :
    (entry.2.isOutboundOnly = true ∧ connectedOutboundOnlyPeerCount db -
        (st.peersToPrune.filter (outboundOnlyIn db)).length ≤ cfg.targetOutboundPeers) ∨
      ∃ id, Subnet.syncCommittee id ∈ entry.2.longLivedSubnets ∧
        remainingCandidates db passes id st.peersToPrune ≤ MIN_SYNC_COMMITTEE_PEERS := by
  rw [← Bool.not_eq_true, eligible_eq_true] at kept
  by_cases floor : entry.2.isOutboundOnly = true →
      cfg.targetOutboundPeers + st.outboundPeersPruned < connectedOutboundOnlyPeerCount db
  · obtain ⟨id, present, few⟩ : ∃ id ∈ st.peerToSyncCommittee entry.1,
        st.syncCommitteePeerCount id ≤ MIN_SYNC_COMMITTEE_PEERS := by
      by_contra none
      push_neg at none
      exact kept ⟨floor, none⟩
    exact .inr ⟨id, (inv.peerToSyncCommittee entry member candidate id).mp present,
      inv.syncCommitteePeerCount id ▸ few⟩
  · push_neg at floor
    rw [← inv.decisions.counted]
    exact .inl ⟨floor.1, by omega⟩

/-- Unless the whole excess is pruned, every candidate of the third pass on an
attestation subnet is pruned or kept for the outbound target or a sync committee. -/
theorem PruneExcessPeers.attestation_covered (outcome : PruneExcessPeers cfg db peersToPrune)
    (over : cfg.targetPeers < (connectedPeers db).length) :
    peersToPrune.length = (connectedPeers db).length - cfg.targetPeers ∨
      ∀ entry ∈ connectedPeers db, isCandidate (scoreAndSubnetPasses cfg db) entry = true →
        HasAttestationSubnet entry.2 → entry.1 ∈ peersToPrune ∨
          (entry.2.isOutboundOnly = true ∧ connectedOutboundOnlyPeerCount db -
            (peersToPrune.filter (outboundOnlyIn db)).length ≤ cfg.targetOutboundPeers) ∨
          ∃ id, Subnet.syncCommittee id ∈ entry.2.longLivedSubnets ∧
            remainingCandidates db (scoreAndSubnetPasses cfg db) id peersToPrune ≤ MIN_SYNC_COMMITTEE_PEERS := by
  obtain ⟨final, inv, done, rfl⟩ := outcome.final over
  rcases done with reached | empty
  · exact .inl (Nat.le_antisymm inv.decisions.bounded reached)
  refine .inr fun entry member candidate attestation => ?_
  rcases inv.covered entry member candidate attestation with pruned | ⟨subnet, present, listed⟩ | kept
  · exact .inl pruned
  · rw [empty subnet present] at listed
    exact (List.not_mem_nil _ listed).elim
  · exact .inr (inv.excused member candidate kept)

end Outcomes

/-- Every set `prune_excess_peers` may prune consists of distinct connected
peers, no more than the excess over the target; it holds no more outbound-only
peers than there are above the outbound target; and it leaves each sync
committee at least `MIN_SYNC_COMMITTEE_PEERS` of the candidates the third pass
starts with, or all of them. -/
theorem pruneExcessPeers_bounds (cfg : PruneConfig) (db : PeerDB) (peersToPrune : List PeerId)
    (outcome : PruneExcessPeers cfg db peersToPrune) :
    peersToPrune.Nodup ∧ (∀ peerId ∈ peersToPrune, ∃ info, (peerId, info) ∈ connectedPeers db) ∧
      peersToPrune.length ≤ (connectedPeers db).length - cfg.targetPeers ∧
      (peersToPrune.filter (outboundOnlyIn db)).length ≤ connectedOutboundOnlyPeerCount db - cfg.targetOutboundPeers ∧
      ∀ id, min (syncCommitteeCandidates db (scoreAndSubnetPasses cfg db) id).length MIN_SYNC_COMMITTEE_PEERS ≤
        remainingCandidates db (scoreAndSubnetPasses cfg db) id peersToPrune :=
  have valid := outcome.decisions
  ⟨valid.nodup, valid.connected, valid.bounded, valid.outbound, outcome.syncFloor⟩

/-- The subnet-rebalancing loop of `prune_excess_peers` ends, on every layout
and in every iteration order. From the start of the pass, each iteration prunes
a peer not chosen before and takes it off every subnet list, or empties a
non-empty subnet list none of whose peers passes the outbound and sync-committee
guards; when neither can happen the loop has stopped. Each iteration lowers
`(C - T - |peers_to_prune|) + (the lengths of the subnet lists)`, so no run is
infinite. -/
theorem rebalance_terminates (cfg : PruneConfig) (db : PeerDB) :
    let excess := (connectedPeers db).length - cfg.targetPeers
    let step := Step cfg (connectedOutboundOnlyPeerCount db) excess
    WellFounded (flip step) ∧
      ∀ st, Relation.ReflTransGen step (start db (scoreAndSubnetPasses cfg db)) st →
        (st.Done excess ∨ ∃ st', step st st') ∧
        ∀ st', step st st' →
          ((∃ candidate : PeerId × PeerInfo, candidate.1 ∉ st.peersToPrune ∧
              st'.peersToPrune = candidate.1 :: st.peersToPrune ∧
              ∀ entry, Listed st'.subnetToPeer entry → entry.1 ≠ candidate.1) ∨
            ∃ index subnet peers, st.subnetToPeer[index]? = some (subnet, peers) ∧ peers ≠ [] ∧
              st' = st.clear index subnet) ∧
          excess - st'.peersToPrune.length + st'.pending < excess - st.peersToPrune.length + st.pending := by
  intro excess step
  refine ⟨Subrelation.wf (fun {st' st} moved => Step.measure_lt cfg _ excess moved)
    (measure fun st : Rebalance => excess - st.peersToPrune.length + st.pending).wf, fun st reached => ?_⟩
  obtain ⟨_, passes, -, -⟩ := scoreAndSubnetPasses_extends cfg db
  have inv := (rebalanceInv_start cfg db _ _ passes.decisions).run reached
  refine ⟨(em (st.Done excess)).imp id fun running => (exists_step cfg _ excess running).imp fun _ => And.left,
    fun st' moved => ⟨?_, Step.measure_lt cfg _ excess moved⟩⟩
  cases moved with
  | prune index subnet peers before after candidate below chosen _ shuffled =>
    exact .inl ⟨candidate, (inv.candidate chosen shuffled).2.2.2, rfl,
      fun entry listed => ((listed_prune chosen shuffled entry).mp listed).1⟩
  | clear index subnet peers order _ chosen _ nonempty =>
    exact .inr ⟨index, subnet, peers, chosen, nonempty, rfl⟩

/-- A peer connected inbound on attestation subnet 0. -/
def inboundOnAttestationSubnet (info : PeerInfo) : PeerInfo :=
  { info with connectionStatus := .connected 1 0, subnets := [.attestation 0] }

/-- Two peers connected inbound on attestation subnet 0: peer 1 trusted, peer 2
with a duty until time 10. -/
def dutyPeerDB : PeerDB :=
  { PeerDB.new [] false with
    peers := ((∅ : PeerMap).insert 1 (inboundOnAttestationSubnet PeerInfo.trustedPeerInfo)).insert 2
      (inboundOnAttestationSubnet { PeerInfo.default with minTtl := some 10 }) }

/-- With a target of one peer, the third pass prunes the duty peer. -/
theorem dutyPeerDB_outcome : PruneExcessPeers ⟨1, 0, 0⟩ dutyPeerDB [2] := by
  dsimp only [PruneExcessPeers]
  rw [if_neg (by decide), if_pos (by decide)]
  refine ⟨_, .single (.prune _ 0 (.attestation 0) _ [] [] (2, inboundOnAttestationSubnet
    { PeerInfo.default with minTtl := some 10 }) (by decide) (by decide) (by decide) (List.Perm.refl _)
    (List.sorted_singleton _) (fun _ absurd => (List.not_mem_nil _ absurd).elim) (by decide)), .inl (by decide),
    by decide⟩

theorem pruneExcessPeers_bounds_dutyPeerDB :
    PruneExcessPeers ⟨1, 0, 0⟩ dutyPeerDB [2] ∧
      ([2].Nodup ∧ (∀ peerId ∈ [2], ∃ info, (peerId, info) ∈ connectedPeers dutyPeerDB) ∧
        [2].length ≤ (connectedPeers dutyPeerDB).length - 1 ∧
        ([2].filter (outboundOnlyIn dutyPeerDB)).length ≤ connectedOutboundOnlyPeerCount dutyPeerDB - 0 ∧
        ∀ id, min (syncCommitteeCandidates dutyPeerDB (scoreAndSubnetPasses ⟨1, 0, 0⟩ dutyPeerDB) id).length
            MIN_SYNC_COMMITTEE_PEERS ≤
          remainingCandidates dutyPeerDB (scoreAndSubnetPasses ⟨1, 0, 0⟩ dutyPeerDB) id [2]) :=
  ⟨dutyPeerDB_outcome, pruneExcessPeers_bounds ⟨1, 0, 0⟩ dutyPeerDB [2] dutyPeerDB_outcome⟩

/-- From two connected peers on attestation subnet 0, one trusted and one with
a future duty, every run with a target of one peer prunes the duty peer. -/
theorem pruneExcessPeers_prunes_duty_peer :
    (inboundOnAttestationSubnet { PeerInfo.default with minTtl := some 10 }).hasFutureDuty 0 = true ∧
      (∃ peersToPrune, PruneExcessPeers ⟨1, 0, 0⟩ dutyPeerDB peersToPrune) ∧
      ∀ peersToPrune, PruneExcessPeers ⟨1, 0, 0⟩ dutyPeerDB peersToPrune → peersToPrune = [2] := by
  refine ⟨rfl, pruneExcessPeers_exists _ _, fun peersToPrune outcome => ?_⟩
  have connected : connectedPeers dutyPeerDB = [(2, inboundOnAttestationSubnet { PeerInfo.default with minTtl := some 10 }),
      (1, inboundOnAttestationSubnet PeerInfo.trustedPeerInfo)] := by decide
  have only : ∀ peerId ∈ peersToPrune, peerId = 2 := fun peerId pruned => by
    obtain ⟨info, member, untrusted, -⟩ := outcome.drawn peerId pruned
    rw [connected] at member
    rcases List.mem_pair.mp member with same | same <;> cases same
    · rfl
    · exact absurd untrusted (by decide)
  have short := outcome.decisions.bounded
  rw [connected] at short
  have chosen : 2 ∈ peersToPrune := by
    rcases outcome.attestation_covered (by rw [connected]; decide) with whole | covered
    · obtain ⟨peerId, rest, rfl⟩ := List.exists_cons_of_length_pos (by rw [whole, connected]; decide)
      exact only peerId (List.mem_cons_self _ _) ▸ List.mem_cons_self _ _
    · rcases covered _ (by rw [connected]; exact List.mem_cons_self _ _) (by decide) ⟨0, by decide⟩ with
        pruned | ⟨outbound, -⟩ | ⟨id, synced, -⟩
      · exact pruned
      · exact absurd outbound (by decide)
      · exact absurd synced (by simp [inboundOnAttestationSubnet, PeerInfo.longLivedSubnets])
  exact List.eq_replicate_iff.mpr ⟨Nat.le_antisymm short (List.length_pos_of_mem chosen), only⟩

/-- Unless `prune_excess_peers` prunes the whole excess over the target, every
connected peer it leaves is trusted, has a duty, is outbound-only with the
outbound target reached, is a candidate of a sync committee with at most
`MIN_SYNC_COMMITTEE_PEERS` candidates left, or has long-lived subnets but no
long-lived attestation subnet. -/
theorem pruneExcessPeers_selects_excess (cfg : PruneConfig) (db : PeerDB) (peersToPrune : List PeerId)
    (outcome : PruneExcessPeers cfg db peersToPrune) (over : cfg.targetPeers < (connectedPeers db).length) :
    peersToPrune.length = (connectedPeers db).length - cfg.targetPeers ∨
      ∀ entry ∈ connectedPeers db, entry.1 ∉ peersToPrune →
        entry.2.isTrusted = true ∨ entry.2.hasFutureDuty cfg.now = true ∨
        (entry.2.isOutboundOnly = true ∧ connectedOutboundOnlyPeerCount db -
          (peersToPrune.filter (outboundOnlyIn db)).length ≤ cfg.targetOutboundPeers) ∨
        (∃ id, Subnet.syncCommittee id ∈ entry.2.longLivedSubnets ∧
          remainingCandidates db (scoreAndSubnetPasses cfg db) id peersToPrune ≤ MIN_SYNC_COMMITTEE_PEERS) ∨
        (entry.2.hasLongLivedSubnet = true ∧ ¬HasAttestationSubnet entry.2) := by
  rcases outcome.attestation_covered over with whole | covered
  · exact .inl whole
  by_cases short : peersToPrune.length < (connectedPeers db).length - cfg.targetPeers
  swap
  · exact .inl (Nat.le_antisymm outcome.decisions.bounded (Nat.le_of_not_lt short))
  refine .inr fun entry member unselected => ?_
  obtain ⟨final, inv, -, rfl⟩ := outcome.final over
  obtain ⟨peers, passes, -, seen⟩ := scoreAndSubnetPasses_extends cfg db
  cases trusted : entry.2.isTrusted
  swap
  · exact .inl rfl
  cases duty : entry.2.hasFutureDuty cfg.now
  swap
  · exact .inr (.inl rfl)
  have fresh : entry.1 ∉ (scoreAndSubnetPasses cfg db).peersToPrune := fun early =>
    unselected (inv.suffix.subset early)
  by_cases attestation : HasAttestationSubnet entry.2
  · rcases covered entry member (isCandidate_eq_true.mpr ⟨trusted, fresh⟩) attestation with
      pruned | outbound | synced
    · exact absurd pruned unselected
    · exact .inr (.inr (.inl outbound))
    · exact .inr (.inr (.inr (.inl synced)))
  cases subnets : entry.2.hasLongLivedSubnet
  · have running := Nat.lt_of_le_of_lt inv.suffix.length_le short
    rcases passes.covered entry (seen running entry member duty trusted subnets) with pruned | reached | ⟨outbound, floor⟩
    · exact absurd pruned fresh
    · exact absurd reached (Nat.not_le_of_lt running)
    · have counted := inv.decisions.counted
      have grown := inv.monotone
      refine .inr (.inr (.inl ⟨outbound, ?_⟩))
      omega
  · exact .inr (.inr (.inr (.inr ⟨rfl, attestation⟩)))

/-- A peer connected inbound whose only long-lived subnet is data-column subnet 0. -/
def dataColumnPeer : PeerInfo :=
  { PeerInfo.default with connectionStatus := .connected 1 0, subnets := [.dataColumn 0] }

/-- Two such peers. -/
def dataColumnPeerDB : PeerDB :=
  { PeerDB.new [] false with peers := ((∅ : PeerMap).insert 1 dataColumnPeer).insert 2 dataColumnPeer }

/-- No pass looks at peers whose long-lived subnets are all data-column subnets:
with a target of one peer, nothing is pruned. -/
theorem dataColumnPeerDB_outcome : PruneExcessPeers ⟨1, 0, 0⟩ dataColumnPeerDB [] := by
  dsimp only [PruneExcessPeers]
  rw [if_neg (by decide), if_pos (by decide)]
  exact ⟨_, .refl, .inr (by decide), by decide⟩

theorem pruneExcessPeers_selects_excess_dataColumnPeerDB :
    PruneExcessPeers ⟨1, 0, 0⟩ dataColumnPeerDB [] ∧ 1 < (connectedPeers dataColumnPeerDB).length ∧
      (([] : List PeerId).length = (connectedPeers dataColumnPeerDB).length - 1 ∨
        ∀ entry ∈ connectedPeers dataColumnPeerDB, entry.1 ∉ ([] : List PeerId) →
          entry.2.isTrusted = true ∨ entry.2.hasFutureDuty 0 = true ∨
          (entry.2.isOutboundOnly = true ∧ connectedOutboundOnlyPeerCount dataColumnPeerDB -
            (([] : List PeerId).filter (outboundOnlyIn dataColumnPeerDB)).length ≤ 0) ∨
          (∃ id, Subnet.syncCommittee id ∈ entry.2.longLivedSubnets ∧
            remainingCandidates dataColumnPeerDB (scoreAndSubnetPasses ⟨1, 0, 0⟩ dataColumnPeerDB) id [] ≤
              MIN_SYNC_COMMITTEE_PEERS) ∨
          (entry.2.hasLongLivedSubnet = true ∧ ¬HasAttestationSubnet entry.2)) :=
  ⟨dataColumnPeerDB_outcome, by decide,
    pruneExcessPeers_selects_excess ⟨1, 0, 0⟩ dataColumnPeerDB [] dataColumnPeerDB_outcome (by decide)⟩

/-- A peer connected inbound whose only long-lived subnet is sync committee 0. -/
def syncCommitteePeer : PeerInfo :=
  { PeerInfo.default with connectionStatus := .connected 1 0, subnets := [.syncCommittee 0] }

/-- Three such peers. -/
def syncCommitteePeerDB : PeerDB :=
  { PeerDB.new [] false with
    peers := (((∅ : PeerMap).insert 1 syncCommitteePeer).insert 2 syncCommitteePeer).insert 3 syncCommitteePeer }

/-- From three connected peers on sync committee 0 alone, with a target of one
peer, every set `prune_excess_peers` may choose is empty, though no peer is
trusted, has a duty or is outbound-only, and the sync committee keeps more than
`MIN_SYNC_COMMITTEE_PEERS` candidates. -/
theorem pruneExcessPeers_keeps_syncCommittee_peers :
    (connectedPeers syncCommitteePeerDB).length = 3 ∧
      (∀ peersToPrune, PruneExcessPeers ⟨1, 0, 0⟩ syncCommitteePeerDB peersToPrune → peersToPrune = []) ∧
      ∀ entry ∈ connectedPeers syncCommitteePeerDB, entry.2.isTrusted = false ∧ entry.2.hasFutureDuty 0 = false ∧
        entry.2.isOutboundOnly = false ∧ ∀ id, Subnet.syncCommittee id ∈ entry.2.longLivedSubnets →
          MIN_SYNC_COMMITTEE_PEERS <
            remainingCandidates syncCommitteePeerDB (scoreAndSubnetPasses ⟨1, 0, 0⟩ syncCommitteePeerDB) id [] := by
  have listed : connectedPeers syncCommitteePeerDB =
      [(3, syncCommitteePeer), (2, syncCommitteePeer), (1, syncCommitteePeer)] := by
    decide
  refine ⟨by rw [listed]; rfl, fun peersToPrune outcome => ?_, fun entry member => ?_⟩
  · obtain ⟨final, inv, -, rfl⟩ := outcome.final (by decide)
    refine List.eq_nil_iff_forall_not_mem.mpr fun peerId pruned => ?_
    rcases inv.drawn peerId pruned with early | ⟨info, member, -, id, attestation⟩
    · have none : (scoreAndSubnetPasses ⟨1, 0, 0⟩ syncCommitteePeerDB).peersToPrune = [] := by decide
      rw [none] at early
      exact List.not_mem_nil _ early
    · rw [listed] at member
      simp only [List.mem_cons, Prod.mk.injEq, List.not_mem_nil, or_false] at member
      rcases member with ⟨-, rfl⟩ | ⟨-, rfl⟩ | ⟨-, rfl⟩ <;>
        simp [syncCommitteePeer, PeerInfo.longLivedSubnets] at attestation
  · rw [listed] at member
    simp only [List.mem_cons, List.not_mem_nil, or_false] at member
    rcases member with rfl | rfl | rfl <;> exact ⟨rfl, rfl, rfl, fun id synced => by
      obtain rfl : id = 0 := by simpa [syncCommitteePeer, PeerInfo.longLivedSubnets] using synced
      decide⟩

end PeerManager

end Eth2Libp2p
