import Eth2Libp2p.PeerManager.Prune

/-! # The decisions of the first two passes

What the passes of `prune_excess_peers` keep true of the decisions they share
(`PeerManager.Decisions`): the peers to prune are distinct connected peers, no
more than the excess, and `outbound_peers_pruned` counts the outbound-only ones
among them, which stay within what the outbound target allows.

The loop of `prune_peers!` extends the decisions (`PeerManager.prunePeersLoop_extends`):
it keeps them valid, only adds peers of its list, and every peer of the list it
leaves is skipped for a reason: the excess is reached, or the peer is
outbound-only and the outbound target is reached. `PeerManager.scoreAndSubnetPasses_extends`
sums up the first two passes: they prune untrusted peers without a duty, and,
if the third pass runs, every such peer with no long-lived subnet has been
pruned or kept for the outbound target.
-/

namespace Eth2Libp2p

namespace PeerManager

/-- Whether the database records `peerId` as an outbound-only peer. -/
def outboundOnlyIn (db : PeerDB) (peerId : PeerId) : Bool :=
  (db.peers.lookup peerId).any PeerInfo.isOutboundOnly

theorem lookup_of_mem_connectedPeers {db : PeerDB} {peerId : PeerId} {info : PeerInfo}
    (mem : (peerId, info) ∈ connectedPeers db) : db.peers.lookup peerId = some info := by
  obtain ⟨entry, kept, same⟩ := List.mem_map.mp mem
  obtain ⟨rfl, rfl⟩ := Prod.mk.inj same
  exact AList.mem_lookup_iff.mpr (List.mem_filter.mp kept).1

theorem isConnected_of_mem_connectedPeers {db : PeerDB} {entry : PeerId × PeerInfo}
    (mem : entry ∈ connectedPeers db) : entry.2.isConnected = true := by
  obtain ⟨recorded, kept, rfl⟩ := List.mem_map.mp mem
  exact (List.mem_filter.mp kept).2

/-- A connected peer has one record. -/
theorem eq_of_mem_connectedPeers {db : PeerDB} {peerId : PeerId} {info other : PeerInfo}
    (mem : (peerId, info) ∈ connectedPeers db) (mem' : (peerId, other) ∈ connectedPeers db) :
    info = other :=
  Option.some.inj ((lookup_of_mem_connectedPeers mem).symm.trans (lookup_of_mem_connectedPeers mem'))

theorem connectedPeers_keys_nodup (db : PeerDB) : ((connectedPeers db).map Prod.fst).Nodup := by
  have keys : (db.peers.entries.map Sigma.fst).Nodup := db.peers.nodupKeys
  rw [connectedPeers, List.map_map]
  exact keys.sublist ((List.filter_sublist _).map _)

theorem outboundOnlyIn_of_mem {db : PeerDB} {peerId : PeerId} {info : PeerInfo}
    (mem : (peerId, info) ∈ connectedPeers db) : outboundOnlyIn db peerId = info.isOutboundOnly := by
  rw [outboundOnlyIn, lookup_of_mem_connectedPeers mem]
  rfl

theorem mem_worstConnectedPeers {db : PeerDB} {entry : PeerId × PeerInfo} :
    entry ∈ worstConnectedPeers db ↔ entry ∈ connectedPeers db :=
  (List.perm_insertionSort _ _).mem_iff

section Decisions

variable (cfg : PruneConfig) (db : PeerDB) (excess : Nat)

/-- The decisions every pass keeps valid: distinct connected peers, at most
`excess`, and `outboundPeersPruned` is the number of outbound-only ones, no more
than the outbound-only peers above the outbound target. -/
structure Decisions (peersToPrune : List PeerId) (outboundPeersPruned : Nat) : Prop where
  nodup : peersToPrune.Nodup
  connected : ∀ peerId ∈ peersToPrune, ∃ info, (peerId, info) ∈ connectedPeers db
  bounded : peersToPrune.length ≤ excess
  counted : outboundPeersPruned = (peersToPrune.filter (outboundOnlyIn db)).length
  outbound : outboundPeersPruned ≤ connectedOutboundOnlyPeerCount db - cfg.targetOutboundPeers

theorem decisions_nil : Decisions cfg db excess [] 0 :=
  ⟨List.nodup_nil, fun _ absurd => (List.not_mem_nil _ absurd).elim, Nat.zero_le _, rfl, Nat.zero_le _⟩

variable {cfg db excess}

/-- Adding a fresh connected peer below the excess, an outbound-only one only
above the outbound target, keeps the decisions valid. -/
theorem Decisions.insert {peersToPrune : List PeerId} {outboundPeersPruned : Nat}
    (valid : Decisions cfg db excess peersToPrune outboundPeersPruned) {peerId : PeerId} {info : PeerInfo}
    (mem : (peerId, info) ∈ connectedPeers db) (fresh : peerId ∉ peersToPrune)
    (room : peersToPrune.length < excess)
    (floor : info.isOutboundOnly = true →
      cfg.targetOutboundPeers + outboundPeersPruned < connectedOutboundOnlyPeerCount db) :
    Decisions cfg db excess (peerId :: peersToPrune)
      (if info.isOutboundOnly then outboundPeersPruned + 1 else outboundPeersPruned) := by
  refine ⟨List.nodup_cons.mpr ⟨fresh, valid.nodup⟩, ?_, room, ?_, ?_⟩
  · intro other member
    rcases List.mem_cons.mp member with rfl | earlier
    · exact ⟨info, mem⟩
    · exact valid.connected other earlier
  · rw [List.filter_cons, outboundOnlyIn_of_mem mem, valid.counted]
    cases info.isOutboundOnly <;> simp
  · have bound := valid.outbound
    cases outbound : info.isOutboundOnly
    · simpa using bound
    · have above := floor outbound
      simp only [if_true]
      omega

end Decisions

section Loop

variable {cfg : PruneConfig} {db : PeerDB} {excess : Nat}

/-- A run of `prune_peers!` over `peers` from `st` to `result`: the decisions stay
valid and only grow, with peers of the list; and each peer of the list ends up
pruned, or was skipped because the excess was reached or because it is
outbound-only and no outbound-only peer could go. -/
structure Extends (cfg : PruneConfig) (db : PeerDB) (excess : Nat) (peers : List (PeerId × PeerInfo))
    (st result : Pruning) : Prop where
  decisions : Decisions cfg db excess result.peersToPrune result.outboundPeersPruned
  suffix : st.peersToPrune <:+ result.peersToPrune
  monotone : st.outboundPeersPruned ≤ result.outboundPeersPruned
  drawn : ∀ peerId ∈ result.peersToPrune, peerId ∈ st.peersToPrune ∨ ∃ info, (peerId, info) ∈ peers
  covered : ∀ entry ∈ peers, entry.1 ∈ result.peersToPrune ∨ excess ≤ result.peersToPrune.length ∨
    (entry.2.isOutboundOnly = true ∧
      connectedOutboundOnlyPeerCount db ≤ cfg.targetOutboundPeers + result.outboundPeersPruned)

theorem Extends.refl {peers : List (PeerId × PeerInfo)} {st : Pruning}
    (valid : Decisions cfg db excess st.peersToPrune st.outboundPeersPruned)
    (reached : excess ≤ st.peersToPrune.length) : Extends cfg db excess peers st st :=
  ⟨valid, List.suffix_refl _, Nat.le_refl _, fun _ member => .inl member,
    fun _ _ => .inr (.inl reached)⟩

theorem Extends.nil {st : Pruning} (valid : Decisions cfg db excess st.peersToPrune st.outboundPeersPruned) :
    Extends cfg db excess [] st st :=
  ⟨valid, List.suffix_refl _, Nat.le_refl _, fun _ member => .inl member, fun _ absurd => (List.not_mem_nil _ absurd).elim⟩

/-- Two runs in a row make one run over both lists. -/
theorem Extends.trans {first second : List (PeerId × PeerInfo)} {st middle result : Pruning}
    (before : Extends cfg db excess first st middle) (after : Extends cfg db excess second middle result) :
    Extends cfg db excess (first ++ second) st result := by
  refine ⟨after.decisions, before.suffix.trans after.suffix, Nat.le_trans before.monotone after.monotone,
    fun peerId member => ?_, fun entry member => ?_⟩
  · rcases after.drawn peerId member with earlier | ⟨info, drawn⟩
    · exact (before.drawn peerId earlier).imp_right fun ⟨info, drawn⟩ => ⟨info, List.mem_append_left _ drawn⟩
    · exact .inr ⟨info, List.mem_append_right _ drawn⟩
  · rcases List.mem_append.mp member with early | late
    · rcases before.covered entry early with pruned | reached | ⟨outbound, floor⟩
      · exact .inl (after.suffix.subset pruned)
      · exact .inr (.inl (Nat.le_trans reached after.suffix.length_le))
      · exact .inr (.inr ⟨outbound, Nat.le_trans floor (Nat.add_le_add_left after.monotone _)⟩)
    · exact after.covered entry late

/-- A peer skipped without a change of the decisions. -/
theorem Extends.skip {entry : PeerId × PeerInfo} {rest : List (PeerId × PeerInfo)} {st result : Pruning}
    (later : Extends cfg db excess rest st result)
    (reason : entry.1 ∈ st.peersToPrune ∨ (entry.2.isOutboundOnly = true ∧
      connectedOutboundOnlyPeerCount db ≤ cfg.targetOutboundPeers + st.outboundPeersPruned)) :
    Extends cfg db excess (entry :: rest) st result := by
  refine ⟨later.decisions, later.suffix, later.monotone, fun peerId member => ?_, fun other member => ?_⟩
  · exact (later.drawn peerId member).imp_right fun ⟨info, drawn⟩ => ⟨info, List.mem_cons_of_mem _ drawn⟩
  · rcases List.mem_cons.mp member with rfl | later'
    · rcases reason with pruned | ⟨outbound, floor⟩
      · exact .inl (later.suffix.subset pruned)
      · exact .inr (.inr ⟨outbound, Nat.le_trans floor (Nat.add_le_add_left later.monotone _)⟩)
    · exact later.covered other later'

/-- A peer pruned, then the rest of the run. -/
theorem Extends.take {peerId : PeerId} {info : PeerInfo} {rest : List (PeerId × PeerInfo)}
    {st result : Pruning} {pruned : Nat} (monotone : st.outboundPeersPruned ≤ pruned)
    (later : Extends cfg db excess rest ⟨peerId :: st.peersToPrune, pruned⟩ result) :
    Extends cfg db excess ((peerId, info) :: rest) st result := by
  refine ⟨later.decisions, (List.suffix_cons _ _).trans later.suffix, Nat.le_trans monotone later.monotone,
    fun other member => ?_, fun entry member => ?_⟩
  · rcases later.drawn other member with earlier | ⟨info', drawn⟩
    · rcases List.mem_cons.mp earlier with rfl | earlier
      · exact .inr ⟨info, List.mem_cons_self _ _⟩
      · exact .inl earlier
    · exact .inr ⟨info', List.mem_cons_of_mem _ drawn⟩
  · rcases List.mem_cons.mp member with rfl | later'
    · exact .inl (later.suffix.subset (List.mem_cons_self _ _))
    · exact later.covered entry later'

/-- The loop of `prune_peers!` over connected peers extends valid decisions. -/
theorem prunePeersLoop_extends :
    ∀ (peers : List (PeerId × PeerInfo)) (st : Pruning), (∀ entry ∈ peers, entry ∈ connectedPeers db) →
      Decisions cfg db excess st.peersToPrune st.outboundPeersPruned →
      Extends cfg db excess peers st (prunePeersLoop cfg excess (connectedOutboundOnlyPeerCount db) peers st)
  | [], st, _, valid => Extends.nil valid
  | (peerId, info) :: rest, st, connected, valid => by
    have mem := connected _ (List.mem_cons_self _ _)
    have next := fun st' => prunePeersLoop_extends rest st' fun entry member =>
      connected entry (List.mem_cons_of_mem _ member)
    unfold prunePeersLoop
    by_cases reached : excess ≤ st.peersToPrune.length
    · rw [if_pos reached]
      exact Extends.refl valid reached
    rw [if_neg reached]
    by_cases pruned : peerId ∈ st.peersToPrune
    · rw [if_pos pruned]
      exact (next st valid).skip (.inl pruned)
    rw [if_neg pruned]
    have room := Nat.lt_of_not_le reached
    by_cases outbound : info.isOutboundOnly
    · rw [if_pos outbound]
      by_cases above : cfg.targetOutboundPeers + st.outboundPeersPruned < connectedOutboundOnlyPeerCount db
      · rw [if_pos above]
        have grown := valid.insert mem pruned room fun _ => above
        rw [if_pos outbound] at grown
        exact Extends.take (Nat.le_succ _) (next _ grown)
      · rw [if_neg above]
        exact (next st valid).skip (.inr ⟨outbound, Nat.le_of_not_lt above⟩)
    · rw [if_neg outbound]
      have grown := valid.insert mem pruned room fun taken => absurd taken outbound
      rw [if_neg outbound] at grown
      exact Extends.take (Nat.le_refl _) (next _ grown)

end Loop

/-- The peers `prune_peers!(filter)` looks at: connected, without a future duty,
untrusted, and passing the filter. -/
theorem mem_prunePeers_list {cfg : PruneConfig} {db : PeerDB} {filter : PeerInfo → Bool}
    {entry : PeerId × PeerInfo} :
    entry ∈ (worstConnectedPeers db).filter
        (fun entry => !entry.2.hasFutureDuty cfg.now && !entry.2.isTrusted && filter entry.2) ↔
      entry ∈ connectedPeers db ∧ entry.2.hasFutureDuty cfg.now = false ∧ entry.2.isTrusted = false ∧
        filter entry.2 = true := by
  simp only [List.mem_filter, mem_worstConnectedPeers, Bool.and_eq_true, Bool.not_eq_true', and_assoc]

/-- The first two passes, as one run of the loop from no decision over
untrusted connected peers without a duty; when the third pass follows, that
run has seen every such peer with no long-lived subnet. -/
theorem scoreAndSubnetPasses_extends (cfg : PruneConfig) (db : PeerDB) :
    let excess := (connectedPeers db).length - cfg.targetPeers
    let passes := scoreAndSubnetPasses cfg db
    ∃ peers, Extends cfg db excess peers ⟨[], 0⟩ passes ∧
      (∀ entry ∈ peers, entry ∈ connectedPeers db ∧ entry.2.hasFutureDuty cfg.now = false ∧
        entry.2.isTrusted = false) ∧
      (passes.peersToPrune.length < excess → ∀ entry ∈ connectedPeers db,
        entry.2.hasFutureDuty cfg.now = false → entry.2.isTrusted = false →
        entry.2.hasLongLivedSubnet = false → entry ∈ peers) := by
  intro excess passes
  have filtered := fun (filter : PeerInfo → Bool) (entry : PeerId × PeerInfo)
      (member : entry ∈ (worstConnectedPeers db).filter
        fun entry => !entry.2.hasFutureDuty cfg.now && !entry.2.isTrusted && filter entry.2) =>
    let ⟨connected, idle, untrusted, _⟩ := mem_prunePeers_list.mp member
    (⟨connected, idle, untrusted⟩ : entry ∈ connectedPeers db ∧ _ ∧ _)
  have extends_pass := fun (filter : PeerInfo → Bool) (st : Pruning)
      (valid : Decisions cfg db excess st.peersToPrune st.outboundPeersPruned) =>
    prunePeersLoop_extends _ st (fun entry member => (filtered filter entry member).1) valid
  have scores := extends_pass (fun info => decide (info.score.score < 0)) ⟨[], 0⟩ (decisions_nil cfg db excess)
  by_cases short : (prunePeers cfg excess (connectedOutboundOnlyPeerCount db)
      (fun info => decide (info.score.score < 0)) (worstConnectedPeers db) ⟨[], 0⟩).peersToPrune.length < excess
  · have subnets := extends_pass (fun info => !info.hasLongLivedSubnet) _ scores.decisions
    have same : passes = prunePeers cfg excess (connectedOutboundOnlyPeerCount db)
        (fun info => !info.hasLongLivedSubnet) (worstConnectedPeers db)
        (prunePeers cfg excess (connectedOutboundOnlyPeerCount db) (fun info => decide (info.score.score < 0))
          (worstConnectedPeers db) ⟨[], 0⟩) := if_pos short
    rw [same]
    refine ⟨_, scores.trans subnets, fun entry member => ?_, fun _ entry connected idle untrusted bare => ?_⟩
    · rcases List.mem_append.mp member with early | late
      · exact filtered (fun info => decide (info.score.score < 0)) entry early
      · exact filtered (fun info => !info.hasLongLivedSubnet) entry late
    · refine List.mem_append_right _
        ((@mem_prunePeers_list cfg db (fun info => !info.hasLongLivedSubnet) entry).mpr
          ⟨connected, idle, untrusted, ?_⟩)
      simp [bare]
  · have same : passes = prunePeers cfg excess (connectedOutboundOnlyPeerCount db)
        (fun info => decide (info.score.score < 0)) (worstConnectedPeers db) ⟨[], 0⟩ := if_neg short
    rw [same]
    exact ⟨_, scores, filtered (fun info => decide (info.score.score < 0)), fun running => absurd running short⟩

end PeerManager

end Eth2Libp2p
