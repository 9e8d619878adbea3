import Mathlib.Data.List.MinMax
import Eth2Libp2p.PeerManager.Passes

/-! # The subnet-rebalancing pass

The third pass of `prune_excess_peers` starts from the decisions of the first
two and from maps built over the connected peers (`PeerManager.built_start`):
every candidate, a connected peer neither trusted nor already chosen, sits on
the list of each of its long-lived attestation subnets, and each sync committee
counts its candidates.

`PeerManager.RebalanceInv` is what every step of the pass keeps
(`PeerManager.RebalanceInv.step`): the decisions stay valid; the lists hold
candidates not yet chosen; each sync committee counts exactly the candidates
left, never fewer than `MIN_SYNC_COMMITTEE_PEERS` or all of them; and each
candidate with an attestation subnet is chosen, still listed, or no longer
eligible, which no later step undoes. Every run of the pass ends
(`PeerManager.Rebalance.exists_done`): each step shortens the lists.
-/

namespace Eth2Libp2p

namespace PeerManager

/-- A peer stands on one of the subnet lists. -/
def Listed (subnetToPeer : List (Subnet × List (PeerId × PeerInfo))) (entry : PeerId × PeerInfo) : Prop :=
  ∃ subnet ∈ subnetToPeer, entry ∈ subnet.2

@[simp] theorem listed_nil (entry : PeerId × PeerInfo) : ¬Listed [] entry := by
  simp [Listed]

@[simp] theorem listed_cons (subnet : Subnet × List (PeerId × PeerInfo))
    (subnetToPeer : List (Subnet × List (PeerId × PeerInfo))) (entry : PeerId × PeerInfo) :
    Listed (subnet :: subnetToPeer) entry ↔ entry ∈ subnet.2 ∨ Listed subnetToPeer entry := by
  simp [Listed]

theorem listed_pushPeer (subnet : Subnet) (entry : PeerId × PeerInfo) :
    ∀ (subnetToPeer : List (Subnet × List (PeerId × PeerInfo))) (other : PeerId × PeerInfo),
      Listed (pushPeer subnet entry subnetToPeer) other ↔ other = entry ∨ Listed subnetToPeer other
  | [], other => by simp [pushPeer]
  | (key, peers) :: rest, other => by
    unfold pushPeer
    split
    · simp only [listed_cons, List.mem_append, List.mem_singleton]
      tauto
    · rw [listed_cons, listed_pushPeer subnet entry rest, listed_cons]
      tauto

/-- Removing a peer from every list. -/
theorem listed_filter (subnetToPeer : List (Subnet × List (PeerId × PeerInfo))) (peerId : PeerId)
    (entry : PeerId × PeerInfo) :
    Listed (subnetToPeer.map fun subnet => (subnet.1, subnet.2.filter fun peer => peer.1 ≠ peerId)) entry ↔
      entry.1 ≠ peerId ∧ Listed subnetToPeer entry := by
  constructor
  · rintro ⟨_, mapped, listed⟩
    obtain ⟨subnet, member, rfl⟩ := List.mem_map.mp mapped
    obtain ⟨present, other⟩ := List.mem_filter.mp listed
    exact ⟨of_decide_eq_true other, subnet, member, present⟩
  · rintro ⟨other, subnet, member, present⟩
    exact ⟨_, List.mem_map_of_mem _ member, List.mem_filter.mpr ⟨present, decide_eq_true other⟩⟩

section Set

variable {subnetToPeer : List (Subnet × List (PeerId × PeerInfo))} {index : Nat} {subnet : Subnet}
  {peers : List (PeerId × PeerInfo)}

/-- Replacing the list at `index`: a peer listed afterwards is on the new list
or was listed before. -/
theorem Listed.of_set {replacement : List (PeerId × PeerInfo)} {entry : PeerId × PeerInfo}
    (listed : Listed (subnetToPeer.set index (subnet, replacement)) entry) :
    entry ∈ replacement ∨ Listed subnetToPeer entry := by
  obtain ⟨other, member, present⟩ := listed
  rcases List.mem_or_eq_of_mem_set member with kept | rfl
  · exact .inr ⟨other, kept, present⟩
  · exact .inl present

/-- Replacing the list at `index`: a peer listed before was on the old list or
is still listed. -/
theorem Listed.set (chosen : subnetToPeer[index]? = some (subnet, peers))
    (replacement : List (PeerId × PeerInfo)) {entry : PeerId × PeerInfo} (listed : Listed subnetToPeer entry) :
    entry ∈ peers ∨ Listed (subnetToPeer.set index (subnet, replacement)) entry := by
  obtain ⟨other, member, present⟩ := listed
  obtain ⟨position, found⟩ := List.mem_iff_getElem?.mp member
  by_cases same : index = position
  · subst same
    rw [chosen] at found
    cases found
    exact .inl present
  · exact .inr ⟨other, List.getElem?_mem (by rw [List.getElem?_set_ne same]; exact found), present⟩

theorem listed_set_of_mem (chosen : subnetToPeer[index]? = some (subnet, peers))
    {replacement : List (PeerId × PeerInfo)} {entry : PeerId × PeerInfo} (member : entry ∈ replacement) :
    Listed (subnetToPeer.set index (subnet, replacement)) entry :=
  ⟨_, List.mem_set _ _ (List.getElem?_eq_some_iff.mp chosen).1 _, member⟩

end Set

/-- A long-lived attestation subnet. -/
def HasAttestationSubnet (info : PeerInfo) : Prop :=
  ∃ id, Subnet.attestation id ∈ info.longLivedSubnets

/-- A peer the third pass starts from: neither trusted nor chosen by the first two. -/
def isCandidate (passes : Pruning) (entry : PeerId × PeerInfo) : Bool :=
  !(entry.2.isTrusted || decide (entry.1 ∈ passes.peersToPrune))

theorem isCandidate_eq_true {passes : Pruning} {entry : PeerId × PeerInfo} :
    isCandidate passes entry = true ↔ entry.2.isTrusted = false ∧ entry.1 ∉ passes.peersToPrune := by
  simp [isCandidate]

/-- The candidates of the third pass in sync committee `id`. -/
def syncCommitteeCandidates (db : PeerDB) (passes : Pruning) (id : Nat) : List PeerId :=
  ((connectedPeers db).filter fun entry =>
    isCandidate passes entry && decide (Subnet.syncCommittee id ∈ entry.2.longLivedSubnets)).map Prod.fst

/-- How many of them `peersToPrune` leaves. -/
def remainingCandidates (db : PeerDB) (passes : Pruning) (id : Nat) (peersToPrune : List PeerId) : Nat :=
  ((syncCommitteeCandidates db passes id).filter fun peerId => peerId ∉ peersToPrune).length

theorem mem_syncCommitteeCandidates {db : PeerDB} {passes : Pruning} {id : Nat} {peerId : PeerId} :
    peerId ∈ syncCommitteeCandidates db passes id ↔ ∃ info, (peerId, info) ∈ connectedPeers db ∧
      isCandidate passes (peerId, info) = true ∧ Subnet.syncCommittee id ∈ info.longLivedSubnets := by
  simp [syncCommitteeCandidates]

theorem syncCommitteeCandidates_nodup (db : PeerDB) (passes : Pruning) (id : Nat) :
    (syncCommitteeCandidates db passes id).Nodup :=
  (connectedPeers_keys_nodup db).sublist ((List.filter_sublist _).map _)

/-- Before the third pass, every candidate remains. -/
theorem remainingCandidates_passes (db : PeerDB) (passes : Pruning) (id : Nat) :
    remainingCandidates db passes id passes.peersToPrune = (syncCommitteeCandidates db passes id).length := by
  rw [remainingCandidates, List.filter_eq_self.mpr]
  intro peerId member
  obtain ⟨info, -, candidate, -⟩ := mem_syncCommitteeCandidates.mp member
  simpa using (isCandidate_eq_true.mp candidate).2

/-- Choosing one more peer removes it from the remaining ones, if it is there. -/
theorem length_filter_not_mem_cons {peerId : PeerId} {chosen : List PeerId} (fresh : peerId ∉ chosen) :
    ∀ {peers : List PeerId}, peers.Nodup →
      (peers.filter fun other => other ∉ peerId :: chosen).length + (if peerId ∈ peers then 1 else 0) =
        (peers.filter fun other => other ∉ chosen).length
  | [], _ => rfl
  | other :: rest, nodup => by
    have later := length_filter_not_mem_cons fresh (List.nodup_cons.mp nodup).2
    by_cases same : other = peerId
    · subst same
      simp only [List.filter_cons, List.mem_cons_self, not_true_eq_false, decide_False, fresh,
        not_false_eq_true, decide_True, if_true, List.length_cons, (List.nodup_cons.mp nodup).1] at later ⊢
      simp only [List.mem_cons, true_or, if_true, Bool.false_eq_true, if_false] at later ⊢
      omega
    · by_cases kept : other ∈ chosen
      · simp only [List.filter_cons, List.mem_cons, same, kept, or_true, false_or, not_true_eq_false,
          decide_False, Bool.false_eq_true, if_false, Ne.symm same] at later ⊢
        exact later
      · simp only [List.filter_cons, List.mem_cons, same, kept, or_false, false_or, not_false_eq_true,
          decide_True, if_true, List.length_cons, Ne.symm same] at later ⊢
        omega

namespace Rebalance

/-! ## The maps at the start of the pass -/

@[simp] theorem addSubnet_peersToPrune (st : Rebalance) (peerId : PeerId) (info : PeerInfo) (subnet : Subnet) :
    (st.addSubnet peerId info subnet).peersToPrune = st.peersToPrune := by
  cases subnet <;> rfl

@[simp] theorem addSubnet_outboundPeersPruned (st : Rebalance) (peerId : PeerId) (info : PeerInfo)
    (subnet : Subnet) : (st.addSubnet peerId info subnet).outboundPeersPruned = st.outboundPeersPruned := by
  cases subnet <;> rfl

theorem listed_addSubnet (st : Rebalance) (peerId : PeerId) (info : PeerInfo) (subnet : Subnet)
    (other : PeerId × PeerInfo) :
    Listed (st.addSubnet peerId info subnet).subnetToPeer other ↔
      Listed st.subnetToPeer other ∨ (other = (peerId, info) ∧ ∃ id, Subnet.attestation id = subnet) := by
  cases subnet <;> simp [addSubnet, listed_pushPeer, or_comm]

theorem mem_addSubnet_peerToSyncCommittee (st : Rebalance) (peerId : PeerId) (info : PeerInfo)
    (subnet : Subnet) (other : PeerId) (id : Nat) :
    id ∈ (st.addSubnet peerId info subnet).peerToSyncCommittee other ↔
      id ∈ st.peerToSyncCommittee other ∨ (other = peerId ∧ Subnet.syncCommittee id = subnet) := by
  cases subnet with
  | syncCommittee committee =>
    by_cases same : other = peerId
    · subst same
      simp [addSubnet, List.mem_insert_iff, or_comm, eq_comm]
    · simp [addSubnet, Function.update_noteq same, same]
  | _ => simp [addSubnet]

theorem addSubnet_syncCommitteePeerCount (st : Rebalance) (peerId : PeerId) (info : PeerInfo)
    (subnet : Subnet) (id : Nat) :
    (st.addSubnet peerId info subnet).syncCommitteePeerCount id =
      st.syncCommitteePeerCount id + if Subnet.syncCommittee id = subnet then 1 else 0 := by
  cases subnet with
  | syncCommittee committee =>
    by_cases same : id = committee
    · subst same
      simp [addSubnet]
    · simp [addSubnet, Function.update_noteq same, same]
  | _ => simp [addSubnet]

/-- What recording the subnets `subnets` of one candidate adds to the maps. -/
structure Adds (peerId : PeerId) (info : PeerInfo) (subnets : List Subnet) (st st' : Rebalance) : Prop where
  peersToPrune : st'.peersToPrune = st.peersToPrune
  outboundPeersPruned : st'.outboundPeersPruned = st.outboundPeersPruned
  listed : ∀ other, Listed st'.subnetToPeer other ↔
    Listed st.subnetToPeer other ∨ (other = (peerId, info) ∧ ∃ id, Subnet.attestation id ∈ subnets)
  peerToSyncCommittee : ∀ other id, id ∈ st'.peerToSyncCommittee other ↔
    id ∈ st.peerToSyncCommittee other ∨ (other = peerId ∧ Subnet.syncCommittee id ∈ subnets)
  syncCommitteePeerCount : ∀ id, st'.syncCommitteePeerCount id =
    st.syncCommitteePeerCount id + if Subnet.syncCommittee id ∈ subnets then 1 else 0

theorem adds_foldl (peerId : PeerId) (info : PeerInfo) :
    ∀ (subnets : List Subnet) (st : Rebalance), subnets.Nodup →
      Adds peerId info subnets st (subnets.foldl (fun st subnet => st.addSubnet peerId info subnet) st)
  | [], st, _ => ⟨rfl, rfl, by simp, by simp, by simp⟩
  | subnet :: rest, st, nodup => by
    have later := adds_foldl peerId info rest (st.addSubnet peerId info subnet) (List.nodup_cons.mp nodup).2
    refine ⟨by rw [List.foldl_cons, later.peersToPrune, addSubnet_peersToPrune],
      by rw [List.foldl_cons, later.outboundPeersPruned, addSubnet_outboundPeersPruned],
      fun other => ?_, fun other id => ?_, fun id => ?_⟩
    · rw [List.foldl_cons, later.listed, listed_addSubnet]
      simp only [List.mem_cons, exists_or, and_or_left, or_assoc]
    · rw [List.foldl_cons, later.peerToSyncCommittee, mem_addSubnet_peerToSyncCommittee]
      simp only [List.mem_cons, and_or_left, or_assoc]
    · rw [List.foldl_cons, later.syncCommitteePeerCount, addSubnet_syncCommitteePeerCount]
      by_cases same : Subnet.syncCommittee id = subnet
      · subst same
        simp [(List.nodup_cons.mp nodup).1]
      · simp [same, Nat.add_assoc]

/-- The maps built over the connected peers `done`. -/
structure Built (passes : Pruning) (done : List (PeerId × PeerInfo)) (st : Rebalance) : Prop where
  peersToPrune : st.peersToPrune = passes.peersToPrune
  outboundPeersPruned : st.outboundPeersPruned = passes.outboundPeersPruned
  listed : ∀ entry, Listed st.subnetToPeer entry ↔
    entry ∈ done ∧ isCandidate passes entry = true ∧ HasAttestationSubnet entry.2
  peerToSyncCommittee : ∀ peerId id, id ∈ st.peerToSyncCommittee peerId ↔ ∃ info, (peerId, info) ∈ done ∧
    isCandidate passes (peerId, info) = true ∧ Subnet.syncCommittee id ∈ info.longLivedSubnets
  syncCommitteePeerCount : ∀ id, st.syncCommitteePeerCount id = (done.filter fun entry =>
    isCandidate passes entry && decide (Subnet.syncCommittee id ∈ entry.2.longLivedSubnets)).length

theorem built_nil (passes : Pruning) :
    Built passes [] ⟨passes.peersToPrune, passes.outboundPeersPruned, [], fun _ => 0, fun _ => []⟩ :=
  ⟨rfl, rfl, by simp, by simp, by simp⟩

theorem Built.addPeer {passes : Pruning} {done : List (PeerId × PeerInfo)} {st : Rebalance}
    (built : Built passes done st) (entry : PeerId × PeerInfo) :
    Built passes (done ++ [entry]) (Rebalance.addPeer passes st entry) := by
  obtain ⟨peerId, info⟩ := entry
  unfold Rebalance.addPeer
  by_cases skipped : (info.isTrusted || decide (peerId ∈ passes.peersToPrune)) = true
  · have other : isCandidate passes (peerId, info) = false := by simp only [isCandidate, skipped, Bool.not_true]
    rw [if_pos skipped]
    refine ⟨built.peersToPrune, built.outboundPeersPruned, fun entry => ?_, fun peerId' id => ?_, fun id => ?_⟩
    · rw [built.listed, List.mem_append, List.mem_singleton, or_and_right, iff_self_or]
      rintro ⟨rfl, candidate, -⟩
      exact absurd candidate (by simp [other])
    · simp only [built.peerToSyncCommittee, List.mem_append, List.mem_singleton, or_and_right, exists_or,
        iff_self_or]
      rintro ⟨info', same, candidate, -⟩
      rw [same] at candidate
      exact absurd candidate (by simp [other])
    · rw [built.syncCommitteePeerCount, List.filter_append]
      simp [other]
  · have candidate : isCandidate passes (peerId, info) = true := by
      rw [Bool.not_eq_true] at skipped
      simp only [isCandidate, skipped, Bool.not_false]
    rw [if_neg skipped]
    have adds := adds_foldl peerId info info.longLivedSubnets st (List.nodup_dedup _)
    refine ⟨adds.peersToPrune.trans built.peersToPrune, adds.outboundPeersPruned.trans built.outboundPeersPruned,
      fun entry => ?_, fun peerId' id => ?_, fun id => ?_⟩
    · rw [adds.listed, built.listed, List.mem_append, List.mem_singleton, or_and_right]
      refine or_congr_right ⟨?_, ?_⟩
      · rintro ⟨rfl, attestation⟩
        exact ⟨rfl, candidate, attestation⟩
      · rintro ⟨rfl, -, attestation⟩
        exact ⟨rfl, attestation⟩
    · simp only [adds.peerToSyncCommittee, built.peerToSyncCommittee, List.mem_append, List.mem_singleton,
        Prod.mk.injEq, or_and_right, exists_or]
      exact or_congr_right ⟨fun ⟨same, synced⟩ => ⟨info, ⟨same, rfl⟩, same ▸ candidate, synced⟩,
        fun ⟨_, ⟨same, rfl⟩, _, synced⟩ => ⟨same, synced⟩⟩
    · rw [adds.syncCommitteePeerCount, built.syncCommitteePeerCount, List.filter_append]
      by_cases synced : Subnet.syncCommittee id ∈ info.longLivedSubnets <;> simp [candidate, synced]

theorem built_foldl (passes : Pruning) :
    ∀ (peers done : List (PeerId × PeerInfo)) (st : Rebalance), Built passes done st →
      Built passes (done ++ peers) (peers.foldl (Rebalance.addPeer passes) st)
  | [], done, st, built => by simpa using built
  | entry :: rest, done, st, built => by
    simpa using built_foldl passes rest (done ++ [entry]) _ (built.addPeer entry)

/-- The maps at the start of the third pass describe all connected peers. -/
theorem built_start (db : PeerDB) (passes : Pruning) : Built passes (connectedPeers db) (start db passes) := by
  simpa using built_foldl passes (connectedPeers db) [] _ (built_nil passes)

/-! ## What every step keeps -/

section Step

variable {cfg : PruneConfig} {connectedOutbound : Nat}

theorem eligible_eq_true {st : Rebalance} {entry : PeerId × PeerInfo} :
    st.eligible cfg connectedOutbound entry = true ↔
      (entry.2.isOutboundOnly = true → cfg.targetOutboundPeers + st.outboundPeersPruned < connectedOutbound) ∧
      ∀ id ∈ st.peerToSyncCommittee entry.1, MIN_SYNC_COMMITTEE_PEERS < st.syncCommitteePeerCount id := by
  simp [eligible, keepsOutbound, keepsSyncCommittee, imp_iff_not_or]

/-- A peer that is not eligible stays so while the outbound-only count only
grows and the sync committee counts only fall. -/
theorem eligible_eq_false_of_le {st st' : Rebalance} {entry : PeerId × PeerInfo}
    (kept : st.eligible cfg connectedOutbound entry = false)
    (outbound : st.outboundPeersPruned ≤ st'.outboundPeersPruned)
    (committees : st'.peerToSyncCommittee = st.peerToSyncCommittee)
    (counts : ∀ id, st'.syncCommitteePeerCount id ≤ st.syncCommitteePeerCount id) :
    st'.eligible cfg connectedOutbound entry = false := by
  rw [← Bool.not_eq_true] at kept ⊢
  rw [eligible_eq_true] at kept ⊢
  rw [committees]
  exact fun ⟨floor, synced⟩ => kept ⟨fun outboundOnly => by have := floor outboundOnly; omega,
    fun id member => Nat.lt_of_lt_of_le (synced id member) (counts id)⟩

theorem listed_prune {st : Rebalance} {index : Nat} {subnet : Subnet} {peers before after : List (PeerId × PeerInfo)}
    {candidate : PeerId × PeerInfo} (chosen : st.subnetToPeer[index]? = some (subnet, peers))
    (shuffled : (before ++ candidate :: after).Perm peers) (entry : PeerId × PeerInfo) :
    Listed (st.prune index subnet before after candidate).subnetToPeer entry ↔
      entry.1 ≠ candidate.1 ∧ Listed st.subnetToPeer entry := by
  rw [prune, listed_filter]
  refine and_congr_right fun other => ⟨fun listed => ?_, fun listed => ?_⟩
  · rcases listed.of_set with member | listed
    · refine ⟨_, List.getElem?_mem chosen, shuffled.subset ?_⟩
      rcases List.mem_append.mp member with early | late
      · exact List.mem_append_left _ early
      · exact List.mem_append_right _ (List.mem_cons_of_mem _ late)
    · exact listed
  · rcases listed.set chosen (before ++ after) with member | listed
    · refine listed_set_of_mem chosen ?_
      rcases List.mem_append.mp (shuffled.symm.subset member) with early | late
      · exact List.mem_append_left _ early
      · rcases List.mem_cons.mp late with rfl | late
        · exact absurd rfl other
        · exact List.mem_append_right _ late
    · exact listed

end Step

end Rebalance

open Rebalance

section Invariant

variable (cfg : PruneConfig) (db : PeerDB) (passes : Pruning) (excess : Nat)

/-- What holds along the third pass, from the decisions `passes` of the first two. -/
structure RebalanceInv (st : Rebalance) : Prop where
  decisions : Decisions cfg db excess st.peersToPrune st.outboundPeersPruned
  suffix : passes.peersToPrune <:+ st.peersToPrune
  monotone : passes.outboundPeersPruned ≤ st.outboundPeersPruned
  listed : ∀ entry, Listed st.subnetToPeer entry → entry ∈ connectedPeers db ∧
    isCandidate passes entry = true ∧ HasAttestationSubnet entry.2 ∧ entry.1 ∉ st.peersToPrune
  drawn : ∀ peerId ∈ st.peersToPrune, peerId ∈ passes.peersToPrune ∨ ∃ info, (peerId, info) ∈ connectedPeers db ∧
    isCandidate passes (peerId, info) = true ∧ HasAttestationSubnet info
  peerToSyncCommittee : ∀ entry ∈ connectedPeers db, isCandidate passes entry = true →
    ∀ id, id ∈ st.peerToSyncCommittee entry.1 ↔ Subnet.syncCommittee id ∈ entry.2.longLivedSubnets
  syncCommitteePeerCount : ∀ id, st.syncCommitteePeerCount id = remainingCandidates db passes id st.peersToPrune
  syncFloor : ∀ id, min (syncCommitteeCandidates db passes id).length MIN_SYNC_COMMITTEE_PEERS ≤
    st.syncCommitteePeerCount id
  covered : ∀ entry ∈ connectedPeers db, isCandidate passes entry = true → HasAttestationSubnet entry.2 →
    entry.1 ∈ st.peersToPrune ∨ Listed st.subnetToPeer entry ∨
      st.eligible cfg (connectedOutboundOnlyPeerCount db) entry = false

/-- The maps of the third pass start the invariant from valid decisions. -/
theorem rebalanceInv_start (valid : Decisions cfg db excess passes.peersToPrune passes.outboundPeersPruned) :
    RebalanceInv cfg db passes excess (start db passes) := by
  have built := built_start db passes
  have counted : ∀ id, (start db passes).syncCommitteePeerCount id = (syncCommitteeCandidates db passes id).length :=
    fun id => by rw [built.syncCommitteePeerCount, syncCommitteeCandidates, List.length_map]
  refine ⟨by rw [built.peersToPrune, built.outboundPeersPruned]; exact valid,
    by rw [built.peersToPrune], by rw [built.outboundPeersPruned],
    fun entry listed => ?_, fun peerId member => .inl (built.peersToPrune ▸ member),
    fun entry member candidate id => ?_,
    fun id => by rw [counted, built.peersToPrune, remainingCandidates_passes],
    fun id => by rw [counted]; exact Nat.min_le_left _ _,
    fun entry member candidate attestation => .inr (.inl ((built.listed entry).mpr ⟨member, candidate, attestation⟩))⟩
  · obtain ⟨member, candidate, attestation⟩ := (built.listed entry).mp listed
    rw [built.peersToPrune]
    exact ⟨member, candidate, attestation, (isCandidate_eq_true.mp candidate).2⟩
  · rw [built.peerToSyncCommittee]
    constructor
    · rintro ⟨info, member', -, synced⟩
      rwa [← eq_of_mem_connectedPeers member member'] at synced
    · exact fun synced => ⟨entry.2, member, candidate, synced⟩

variable {cfg db passes excess}

/-- The candidate a step prunes is on a list, hence a fresh candidate with an
attestation subnet. -/
theorem RebalanceInv.candidate {st : Rebalance} (inv : RebalanceInv cfg db passes excess st) {index : Nat}
    {subnet : Subnet} {peers before after : List (PeerId × PeerInfo)} {candidate : PeerId × PeerInfo}
    (chosen : st.subnetToPeer[index]? = some (subnet, peers)) (shuffled : (before ++ candidate :: after).Perm peers) :
    candidate ∈ connectedPeers db ∧ isCandidate passes candidate = true ∧ HasAttestationSubnet candidate.2 ∧
      candidate.1 ∉ st.peersToPrune :=
  inv.listed candidate ⟨_, List.getElem?_mem chosen,
    shuffled.subset (List.mem_append_right _ (List.mem_cons_self _ _))⟩

/-- The sync committees of a candidate are those its count includes it in. -/
theorem RebalanceInv.mem_syncCommitteeCandidates {st : Rebalance} (inv : RebalanceInv cfg db passes excess st)
    {entry : PeerId × PeerInfo} (member : entry ∈ connectedPeers db) (candidate : isCandidate passes entry = true)
    (id : Nat) : entry.1 ∈ syncCommitteeCandidates db passes id ↔ id ∈ st.peerToSyncCommittee entry.1 := by
  rw [inv.peerToSyncCommittee entry member candidate, PeerManager.mem_syncCommitteeCandidates]
  constructor
  · rintro ⟨info, member', -, synced⟩
    rwa [← eq_of_mem_connectedPeers member member'] at synced
  · exact fun synced => ⟨entry.2, member, candidate, synced⟩

theorem le_prune_outboundPeersPruned (st : Rebalance) (index : Nat) (subnet : Subnet)
    (before after : List (PeerId × PeerInfo)) (candidate : PeerId × PeerInfo) :
    st.outboundPeersPruned ≤ (st.prune index subnet before after candidate).outboundPeersPruned := by
  rw [prune_outboundPeersPruned]
  split <;> omega

theorem RebalanceInv.prune {st : Rebalance} (inv : RebalanceInv cfg db passes excess st) {index : Nat}
    {subnet : Subnet} {peers before after : List (PeerId × PeerInfo)} {candidate : PeerId × PeerInfo}
    (chosen : st.subnetToPeer[index]? = some (subnet, peers)) (shuffled : (before ++ candidate :: after).Perm peers)
    (below : st.peersToPrune.length < excess)
    (found : st.eligible cfg (connectedOutboundOnlyPeerCount db) candidate = true) :
    RebalanceInv cfg db passes excess (st.prune index subnet before after candidate) := by
  obtain ⟨member, candidate', attestation, fresh⟩ := inv.candidate chosen shuffled
  obtain ⟨floor, synced⟩ := eligible_eq_true.mp found
  have grown := le_prune_outboundPeersPruned st index subnet before after candidate
  refine ⟨inv.decisions.insert member fresh below floor, inv.suffix.trans (List.suffix_cons _ _),
    Nat.le_trans inv.monotone grown, fun entry listed => ?_, fun peerId pruned => ?_, inv.peerToSyncCommittee,
    fun id => ?_, fun id => ?_, fun entry member' candidate'' attestation' => ?_⟩
  · obtain ⟨other, listed⟩ := (listed_prune chosen shuffled entry).mp listed
    obtain ⟨member', candidate'', attestation', fresh'⟩ := inv.listed entry listed
    exact ⟨member', candidate'', attestation', fun pruned => (List.mem_cons.mp pruned).elim other fresh'⟩
  · rcases List.mem_cons.mp pruned with rfl | earlier
    · exact .inr ⟨candidate.2, member, candidate', attestation⟩
    · exact inv.drawn peerId earlier
  · have remaining := length_filter_not_mem_cons fresh (syncCommitteeCandidates_nodup db passes id)
    simp only [inv.mem_syncCommitteeCandidates member candidate' id] at remaining
    have counted := inv.syncCommitteePeerCount id
    unfold remainingCandidates at counted ⊢
    rw [prune_syncCommitteePeerCount, prune_peersToPrune]
    split
    · next present => rw [if_pos present] at remaining; omega
    · next absent => rw [if_neg absent] at remaining; omega
  · have floor := inv.syncFloor id
    rw [prune_syncCommitteePeerCount]
    split
    · next present => have := synced id present; omega
    · exact floor
  · rcases inv.covered entry member' candidate'' attestation' with pruned | listed | kept
    · exact .inl (List.mem_cons_of_mem _ pruned)
    · by_cases same : entry.1 = candidate.1
      · exact .inl (same ▸ List.mem_cons_self _ _)
      · exact .inr (.inl ((listed_prune chosen shuffled entry).mpr ⟨same, listed⟩))
    · refine .inr (.inr (eligible_eq_false_of_le kept grown rfl fun id => ?_))
      rw [prune_syncCommitteePeerCount]
      split <;> omega

theorem RebalanceInv.clear {st : Rebalance} (inv : RebalanceInv cfg db passes excess st) {index : Nat}
    {subnet : Subnet} {peers order : List (PeerId × PeerInfo)}
    (chosen : st.subnetToPeer[index]? = some (subnet, peers)) (shuffled : order.Perm peers)
    (kept : ∀ entry ∈ order, st.eligible cfg (connectedOutboundOnlyPeerCount db) entry = false) :
    RebalanceInv cfg db passes excess (st.clear index subnet) := by
  refine ⟨inv.decisions, inv.suffix, inv.monotone, fun entry listed => ?_, inv.drawn, inv.peerToSyncCommittee,
    inv.syncCommitteePeerCount, inv.syncFloor, fun entry member candidate attestation => ?_⟩
  · rcases Listed.of_set listed with absurd | listed
    · exact (List.not_mem_nil _ absurd).elim
    · exact inv.listed entry listed
  · rcases inv.covered entry member candidate attestation with pruned | listed | ineligible
    · exact .inl pruned
    · rcases listed.set chosen [] with present | listed
      · exact .inr (.inr (kept entry (shuffled.symm.subset present)))
      · exact .inr (.inl listed)
    · exact .inr (.inr ineligible)

/-- Every step of the third pass keeps the invariant. -/
theorem RebalanceInv.step {st st' : Rebalance} (inv : RebalanceInv cfg db passes excess st)
    (step : Step cfg (connectedOutboundOnlyPeerCount db) excess st st') : RebalanceInv cfg db passes excess st' := by
  cases step with
  | prune index subnet peers before after candidate below chosen _ shuffled _ _ found =>
    exact inv.prune chosen shuffled below found
  | clear index subnet peers order _ chosen _ _ shuffled _ kept =>
    exact inv.clear chosen shuffled kept

/-- Every run of the third pass keeps the invariant. -/
theorem RebalanceInv.run {st st' : Rebalance} (inv : RebalanceInv cfg db passes excess st)
    (run : Relation.ReflTransGen (Step cfg (connectedOutboundOnlyPeerCount db) excess) st st') :
    RebalanceInv cfg db passes excess st' := by
  induction run with
  | refl => exact inv
  | tail _ step reached => exact reached.step step

end Invariant

/-! ## Every run ends -/

namespace Rebalance

/-- The peers left on the lists, counted once per list. -/
def pending (st : Rebalance) : Nat :=
  (st.subnetToPeer.map fun subnet => subnet.2.length).sum

theorem sum_map_set_lt {α : Type} (f : α → Nat) :
    ∀ (list : List α) (index : Nat) {old new : α}, list[index]? = some old → f new < f old →
      ((list.set index new).map f).sum < (list.map f).sum
  | [], _, _, _, found, _ => by simp at found
  | head :: tail, 0, _, _, found, smaller => by
    obtain rfl : head = _ := by simpa using found
    simp only [List.set_cons_zero, List.map_cons, List.sum_cons]
    omega
  | head :: tail, index + 1, _, _, found, smaller => by
    have later := sum_map_set_lt f tail index (by simpa using found) smaller
    simp only [List.set_cons_succ, List.map_cons, List.sum_cons]
    omega

theorem pending_filter_le (peerId : PeerId) :
    ∀ subnetToPeer : List (Subnet × List (PeerId × PeerInfo)),
      ((subnetToPeer.map fun subnet => (subnet.1, subnet.2.filter fun peer => peer.1 ≠ peerId)).map
          fun subnet => subnet.2.length).sum ≤ (subnetToPeer.map fun subnet => subnet.2.length).sum
  | [] => Nat.le_refl _
  | subnet :: rest => by
    have later := pending_filter_le peerId rest
    have shorter := List.length_filter_le (fun peer : PeerId × PeerInfo => decide (peer.1 ≠ peerId)) subnet.2
    simp only [List.map_cons, List.sum_cons]
    omega

theorem pending_prune_lt {st : Rebalance} {index : Nat} {subnet : Subnet}
    {peers before after : List (PeerId × PeerInfo)} {candidate : PeerId × PeerInfo}
    (chosen : st.subnetToPeer[index]? = some (subnet, peers)) (shuffled : (before ++ candidate :: after).Perm peers) :
    (st.prune index subnet before after candidate).pending < st.pending := by
  have smaller : (before ++ after).length < peers.length := by
    rw [← shuffled.length_eq]
    simp
  calc (st.prune index subnet before after candidate).pending
      ≤ ((st.subnetToPeer.set index (subnet, before ++ after)).map fun subnet => subnet.2.length).sum :=
        pending_filter_le candidate.1 _
    _ < st.pending := sum_map_set_lt (fun subnet => subnet.2.length) _ index chosen smaller

theorem pending_clear_lt {st : Rebalance} {index : Nat} {subnet : Subnet} {peers : List (PeerId × PeerInfo)}
    (chosen : st.subnetToPeer[index]? = some (subnet, peers)) (nonempty : peers ≠ []) :
    (st.clear index subnet).pending < st.pending :=
  @sum_map_set_lt _ (fun subnet : Subnet × List (PeerId × PeerInfo) => subnet.2.length) _ index _ (subnet, [])
    chosen (List.length_pos.mpr nonempty)

/-- A list splits at its first element satisfying `found`, or has none. -/
theorem exists_first {α : Type} (found : α → Bool) :
    ∀ list : List α, (∀ x ∈ list, found x = false) ∨
      ∃ before x after, list = before ++ x :: after ∧ (∀ y ∈ before, found y = false) ∧ found x = true
  | [] => .inl fun _ absurd => (List.not_mem_nil _ absurd).elim
  | x :: rest => by
    cases first : found x
    · rcases exists_first found rest with none | ⟨before, y, after, split, skipped, hit⟩
      · exact .inl fun y member => (List.mem_cons.mp member).elim (· ▸ first) (none y)
      · refine .inr ⟨x :: before, y, after, by rw [split]; rfl, fun z member => ?_, hit⟩
        exact (List.mem_cons.mp member).elim (· ▸ first) (skipped z)
    · exact .inr ⟨[], x, rest, rfl, fun _ absurd => (List.not_mem_nil _ absurd).elim, first⟩

variable (cfg : PruneConfig) (connectedOutbound excess : Nat)

/-- From a state that has not stopped, some step is possible, and every step
leaves fewer peers on the lists. -/
theorem exists_step {st : Rebalance} (running : ¬st.Done excess) :
    ∃ st', Step cfg connectedOutbound excess st st' ∧ st'.pending < st.pending := by
  obtain ⟨below, nonempty⟩ : st.peersToPrune.length < excess ∧ ∃ entry ∈ st.subnetToPeer, entry.2 ≠ [] := by
    simpa [Done, not_or] using running
  obtain ⟨entry, present, occupied⟩ := nonempty
  cases largest : st.subnetToPeer.argmax fun subnet => subnet.2.length with
  | none => exact absurd (List.argmax_eq_none.mp largest ▸ present) (List.not_mem_nil _)
  | some most =>
    obtain ⟨subnet, peers⟩ := most
    have most : ∀ other ∈ st.subnetToPeer, other.2.length ≤ peers.length := fun other member =>
      @List.le_of_mem_argmax _ _ _ (fun subnet : Subnet × List (PeerId × PeerInfo) => subnet.2.length) _ _ _
        member largest
    obtain ⟨index, chosen⟩ := List.mem_iff_getElem?.mp (List.argmax_mem largest)
    have occupied : peers ≠ [] := fun empty => by
      have := most entry present
      rw [empty, List.length_nil, Nat.le_zero, List.length_eq_zero] at this
      exact occupied this
    let bySubnets := fun a b : PeerId × PeerInfo => a.2.longLivedSubnetCount ≤ b.2.longLivedSubnetCount
    haveI : IsTotal (PeerId × PeerInfo) bySubnets := ⟨fun _ _ => Nat.le_total _ _⟩
    haveI : IsTrans (PeerId × PeerInfo) bySubnets := ⟨fun _ _ _ => Nat.le_trans⟩
    have shuffled := List.perm_insertionSort bySubnets peers
    have sorted := List.sorted_insertionSort bySubnets peers
    rcases exists_first (st.eligible cfg connectedOutbound) (peers.insertionSort bySubnets) with
      kept | ⟨before, candidate, after, split, skipped, found⟩
    · exact ⟨_, .clear st index subnet peers _ below chosen most occupied shuffled sorted kept,
        pending_clear_lt chosen occupied⟩
    · rw [split] at shuffled sorted
      exact ⟨_, .prune st index subnet peers before after candidate below chosen most shuffled sorted skipped found,
        pending_prune_lt chosen shuffled⟩

/-- Every step lowers the peers still to choose plus the peers left on the
lists: a pruning step chooses one more below the excess and takes at least one
peer off the lists, a clearing step empties a non-empty list. -/
theorem Step.measure_lt {st st' : Rebalance} (step : Step cfg connectedOutbound excess st st') :
    excess - st'.peersToPrune.length + st'.pending < excess - st.peersToPrune.length + st.pending := by
  cases step with
  | prune index subnet peers before after candidate below chosen _ shuffled =>
    have fewer := pending_prune_lt chosen shuffled
    rw [prune_peersToPrune, List.length_cons]
    omega
  | clear index subnet peers order _ chosen _ nonempty =>
    have fewer := pending_clear_lt chosen nonempty
    exact Nat.add_lt_add_left fewer _

/-- Every state of the third pass reaches a state where the loop stops. -/
theorem exists_done (st : Rebalance) :
    ∃ final, Relation.ReflTransGen (Step cfg connectedOutbound excess) st final ∧ final.Done excess := by
  induction' measure : st.pending using Nat.strong_induction_on with pending smaller generalizing st
  by_cases done : st.Done excess
  · exact ⟨st, .refl, done⟩
  · obtain ⟨st', step, fewer⟩ := exists_step cfg connectedOutbound excess done
    obtain ⟨final, run, stopped⟩ := smaller _ (measure ▸ fewer) st' rfl
    exact ⟨final, .head step run, stopped⟩

end Rebalance

end PeerManager

end Eth2Libp2p
