import Eth2Libp2p.PeerDB.OpenPeers
import Eth2Libp2p.PeerManager.Heartbeat

/-! # Discovery queries and their answers

`maintain_peer_count` asks discovery for more peers: below `target_peers`
(counting the peers about to be dialed) for those missing up to `max_peers`, and
short of outbound-only peers for those missing up to
`max_outbound_dialing_peers`. It asks for exactly the peers that fill the limit
(`PeerManager.maintainPeerCount_fills`).

`peers_discovered` walks the records a query returned, in any order, and hands
each peer not already queued to `dial_peer` while the peers connected or dialing
and those queued so far stay below `max_peers`, or below `max_priority_peers`
for a peer a validator duty needs (`PeerManager.discoverPeer`). The walk keeps
`PeerManager.DiscoveryWalk`: everything but the database and the queue is
unchanged, the database changes only in duties, and the queue grows by distinct
new peers taken from the records that the database allows to dial. Hence the
peers queued stay within the limits (`PeerManager.peersDiscovered_queue`), and
the next query is asked for only after an empty answer or one that queued a
peer, for exactly the peers that fill the limit
(`PeerManager.peersDiscovered_requeries`). No peer connected or disconnecting
changes status (`PeerManager.keepsOpen_peersDiscovered`), so the invariants of
the swarm's moves hold over discovery answers too.
-/

namespace Eth2Libp2p

namespace PeerDB

/-- `update_min_ttl` writes the peer's record, or a new default one, with only
its duty changed. -/
theorem updateMinTtl_peers (db : PeerDB) (peerId : PeerId) (minTtl : Instant) :
    ∃ ttl, (db.updateMinTtl peerId minTtl).peers =
      db.peers.insert peerId { (db.peers.lookup peerId).getD PeerInfo.default with minTtl := ttl } := by
  unfold updateMinTtl
  dsimp only
  split
  · split
    · exact ⟨_, rfl⟩
    · exact ⟨_, rfl⟩
  · exact ⟨_, rfl⟩

@[simp] theorem updateMinTtl_bannedPeersCount (db : PeerDB) (peerId : PeerId) (minTtl : Instant) :
    (db.updateMinTtl peerId minTtl).bannedPeersCount = db.bannedPeersCount := rfl

/-- Recording a duty changes no dial decision. -/
theorem shouldDial_updateMinTtl (db : PeerDB) (peerId : PeerId) (minTtl : Instant) (other : PeerId) :
    (db.updateMinTtl peerId minTtl).shouldDial other = db.shouldDial other := by
  obtain ⟨ttl, written⟩ := updateMinTtl_peers db peerId minTtl
  unfold shouldDial connectionStatus peerInfo scoreStateBannedOrDisconnected ipIsBanned isIpBanned
  rw [written, updateMinTtl_bannedPeersCount]
  by_cases same : other = peerId
  · subst same
    rw [AList.lookup_insert]
    cases db.peers.lookup other <;> rfl
  · rw [AList.lookup_insert_ne same]

/-- Recording a duty changes no connection status, so not the number of peers
connected or dialing. -/
theorem connectedOrDialingPeerCount_updateMinTtl (db : PeerDB) (peerId : PeerId) (minTtl : Instant) :
    (db.updateMinTtl peerId minTtl).connectedOrDialingPeerCount = db.connectedOrDialingPeerCount := by
  obtain ⟨ttl, written⟩ := updateMinTtl_peers db peerId minTtl
  have inserted := weight_insert (fun info => info.isConnectedOrDialing.toNat) db.peers peerId
    { (db.peers.lookup peerId).getD PeerInfo.default with minTtl := ttl }
  have same : ({ (db.peers.lookup peerId).getD PeerInfo.default with minTtl := ttl } : PeerInfo).isConnectedOrDialing.toNat =
      entryWeight (fun info => info.isConnectedOrDialing.toNat) db.peers peerId := by
    unfold entryWeight
    cases db.peers.lookup peerId <;> rfl
  unfold connectedOrDialingPeerCount
  rw [length_filter_eq_count, length_filter_eq_count, written]
  unfold count
  omega

/-- Recording a duty keeps every peer connected or disconnecting. -/
theorem keepsOpen_updateMinTtl (db : PeerDB) (peerId : PeerId) (minTtl : Instant) :
    db.KeepsOpen (db.updateMinTtl peerId minTtl) := by
  obtain ⟨ttl, written⟩ := updateMinTtl_peers db peerId minTtl
  intro other opened
  rw [isConnectedOrDisconnecting_eq] at opened ⊢
  unfold connectionStatus peerInfo at opened ⊢
  rw [written]
  by_cases same : other = peerId
  · subst same
    rw [AList.lookup_insert]
    cases found : db.peers.lookup other with
    | none => rw [found] at opened; cases opened
    | some info => rw [found] at opened; exact opened
  · rw [AList.lookup_insert_ne same]
    exact opened

end PeerDB

namespace PeerManager

variable (limits : DiscoveryLimits)

section Query

variable (pm : PeerManager)

@[simp] theorem maintainPeerCount_peersToDial (dialingPeers : Nat) :
    (pm.maintainPeerCount limits dialingPeers).peersToDial = pm.peersToDial := by
  unfold maintainPeerCount
  split <;> rfl

@[simp] theorem maintainPeerCount_db (dialingPeers : Nat) :
    (pm.maintainPeerCount limits dialingPeers).db = pm.db := by
  unfold maintainPeerCount
  split <;> rfl

/-- A nonzero number of wanted peers fills, with the peers connected, dialing
and about to be dialed, `max_peers` or `max_outbound_dialing_peers`. -/
theorem wantedPeers_fills (dialingPeers : Nat) :
    pm.wantedPeers limits dialingPeers ≠ 0 →
      pm.db.connectedOrDialingPeerCount + dialingPeers + pm.wantedPeers limits dialingPeers = pm.maxPeers ∨
        pm.db.connectedOrDialingPeerCount + dialingPeers + pm.wantedPeers limits dialingPeers =
          pm.maxOutboundDialingPeers := by
  unfold wantedPeers
  dsimp only
  split
  · exact fun _ => .inl (by omega)
  · split
    · exact fun nonzero => .inr (by omega)
    · exact fun nonzero => absurd rfl nonzero

/-- A query asks for exactly the peers that, with those connected, dialing and
about to be dialed, fill `max_peers` or `max_outbound_dialing_peers`. -/
theorem maintainPeerCount_fills (dialingPeers : Nat) :
    (pm.maintainPeerCount limits dialingPeers).events = pm.events ∨
      ∃ wanted, (pm.maintainPeerCount limits dialingPeers).events = pm.events ++ [.discoverPeers wanted] ∧
        0 < wanted ∧
        (pm.db.connectedOrDialingPeerCount + dialingPeers + wanted = pm.maxPeers ∨
          pm.db.connectedOrDialingPeerCount + dialingPeers + wanted = pm.maxOutboundDialingPeers) := by
  unfold maintainPeerCount
  split
  · next asked =>
    exact .inr ⟨_, rfl, Nat.pos_of_ne_zero asked.2, wantedPeers_fills limits pm dialingPeers asked.2⟩
  · exact .inl rfl

end Query

section Walk

variable {limits} (pm : PeerManager) (bound : Nat)

/-- What the walk over the records keeps, after the records `walked`, of the
peer manager `pm` it started from: everything but the database and the queue;
the peers connected or dialing and the dial decisions of the database; and a
queue grown by as many peers as counted, distinct, new, taken from the records
and allowed to dial, within `bound` with the peers connected or dialing; and
every peer connected or disconnecting stays so. -/
structure DiscoveryWalk (walked : List (PeerId × Option Instant)) (state : PeerManager × Nat) : Prop where
  frame : { state.1 with db := pm.db, peersToDial := pm.peersToDial } = pm
  count : state.1.db.connectedOrDialingPeerCount = pm.db.connectedOrDialingPeerCount
  shouldDial : ∀ peerId, state.1.db.shouldDial peerId = pm.db.shouldDial peerId
  queue : ∃ queued, state.1.peersToDial = pm.peersToDial ++ queued ∧ queued.length = state.2 ∧ queued.Nodup ∧
    ∀ peerId ∈ queued, peerId ∉ pm.peersToDial ∧ pm.db.shouldDial peerId = true ∧ peerId ∈ walked.map Prod.fst
  within : state.2 = 0 ∨ pm.db.connectedOrDialingPeerCount + state.2 ≤ bound
  keepsOpen : pm.db.KeepsOpen state.1.db

theorem discoveryWalk_start : pm.DiscoveryWalk bound [] (pm, 0) :=
  ⟨rfl, rfl, fun _ => rfl, ⟨[], (List.append_nil _).symm, rfl, List.nodup_nil, nofun⟩, .inl rfl,
    PeerDB.KeepsOpen.refl _⟩

variable {pm bound}

/-- A record the walk skips keeps the walk. -/
theorem DiscoveryWalk.skip {walked : List (PeerId × Option Instant)} {state : PeerManager × Nat}
    (walk : pm.DiscoveryWalk bound walked state) (result : PeerId × Option Instant) :
    pm.DiscoveryWalk bound (walked ++ [result]) state := by
  obtain ⟨frame, count, shouldDial, ⟨queued, grown, counted, distinct, fresh⟩, within, kept⟩ := walk
  refine ⟨frame, count, shouldDial, ⟨queued, grown, counted, distinct, fun peerId member => ?_⟩, within, kept⟩
  obtain ⟨unqueued, allowed, found⟩ := fresh peerId member
  exact ⟨unqueued, allowed, by rw [List.map_append]; exact List.mem_append_left _ found⟩

/-- Handing a new peer to `dial_peer`, after a change of the database that
keeps its count and its dial decisions, keeps the walk when there is room under
`bound`. -/
theorem DiscoveryWalk.dialPeer {walked : List (PeerId × Option Instant)} {current : PeerManager}
    {toDialPeers : Nat} (walk : pm.DiscoveryWalk bound walked (current, toDialPeers)) (db : PeerDB)
    (sameCount : db.connectedOrDialingPeerCount = current.db.connectedOrDialingPeerCount)
    (sameDecisions : ∀ peerId, db.shouldDial peerId = current.db.shouldDial peerId)
    (stillOpen : current.db.KeepsOpen db) (peerId : PeerId) (minTtl : Option Instant) (unqueued : peerId ∉ current.peersToDial)
    (room : pm.db.connectedOrDialingPeerCount + toDialPeers < bound) :
    pm.DiscoveryWalk bound (walked ++ [(peerId, minTtl)])
      (({ current with db } : PeerManager).dialPeer peerId,
        if db.shouldDial peerId then toDialPeers + 1 else toDialPeers) := by
  obtain ⟨frame, counted, decided, ⟨queued, grown, length, distinct, fresh⟩, within, kept⟩ := walk
  have decisions := fun peerId => (sameDecisions peerId).trans (decided peerId)
  unfold PeerManager.dialPeer
  dsimp only
  cases allowed : db.shouldDial peerId
  · simp only [Bool.false_eq_true, ↓reduceIte]
    refine DiscoveryWalk.skip ?_ _
    exact ⟨frame, sameCount.trans counted, decisions, ⟨queued, grown, length, distinct, fresh⟩, within,
      kept.trans stillOpen⟩
  · simp only [↓reduceIte]
    have unlisted : peerId ∉ pm.peersToDial ++ queued := grown ▸ unqueued
    refine ⟨frame, sameCount.trans counted, decisions, ⟨queued ++ [peerId], ?_, ?_, ?_, ?_⟩, .inr (by omega),
      kept.trans stillOpen⟩
    · rw [grown, List.append_assoc]
    · rw [List.length_append, length, List.length_singleton]
    · exact List.nodup_append.mpr ⟨distinct, List.nodup_singleton _,
        List.disjoint_singleton.mpr fun member => unlisted (List.mem_append_right _ member)⟩
    · intro other member
      rw [List.map_append, List.mem_append]
      rcases List.mem_append.mp member with old | new
      · obtain ⟨unqueued, allowed, found⟩ := fresh other old
        exact ⟨unqueued, allowed, .inl found⟩
      · rw [List.mem_singleton.mp new]
        exact ⟨fun listed => unlisted (List.mem_append_left _ listed), (decisions peerId).symm.trans allowed,
          .inr (List.mem_singleton_self _)⟩

/-- Every record keeps the walk, when `bound` is at least `max_peers`, and at
least `max_priority_peers` if the record carries a duty. -/
theorem DiscoveryWalk.discoverPeer {walked : List (PeerId × Option Instant)} {state : PeerManager × Nat}
    (walk : pm.DiscoveryWalk bound walked state) (result : PeerId × Option Instant)
    (above : pm.maxPeers ≤ bound) (priority : result.2.isSome → limits.maxPriorityPeers ≤ bound) :
    pm.DiscoveryWalk bound (walked ++ [result])
      (PeerManager.discoverPeer limits pm.db.connectedOrDialingPeerCount state result) := by
  obtain ⟨current, toDialPeers⟩ := state
  obtain ⟨peerId, minTtl⟩ := result
  have limit : current.maxPeers = pm.maxPeers := (congrArg PeerManager.maxPeers walk.frame :)
  dsimp only [PeerManager.discoverPeer]
  split
  · next taken =>
    simp only [Bool.and_eq_true, Bool.not_eq_true', Bool.or_eq_true, decide_eq_true_eq] at taken
    obtain ⟨unqueued, room⟩ := taken
    have unqueued : peerId ∉ current.peersToDial := fun listed =>
      Bool.false_ne_true (unqueued.symm.trans (List.elem_iff.mpr listed))
    have fits : pm.db.connectedOrDialingPeerCount + toDialPeers < bound := by
      rcases room with ⟨duty, below⟩ | below
      · have := priority duty
        omega
      · omega
    cases minTtl with
    | none =>
      exact walk.dialPeer current.db rfl (fun _ => rfl) (PeerDB.KeepsOpen.refl _) peerId none unqueued fits
    | some minTtl =>
      exact walk.dialPeer _ (PeerDB.connectedOrDialingPeerCount_updateMinTtl ..)
        (PeerDB.shouldDial_updateMinTtl current.db peerId minTtl) (PeerDB.keepsOpen_updateMinTtl _ _ _) peerId _
        unqueued fits
  · exact walk.skip _

/-- The walk over all the records keeps `DiscoveryWalk`. -/
theorem DiscoveryWalk.foldl_discoverPeer (above : pm.maxPeers ≤ bound) :
    ∀ (results walked : List (PeerId × Option Instant)) (state : PeerManager × Nat),
      (∀ result ∈ results, result.2.isSome → limits.maxPriorityPeers ≤ bound) →
      pm.DiscoveryWalk bound walked state →
      pm.DiscoveryWalk bound (walked ++ results)
        (results.foldl (PeerManager.discoverPeer limits pm.db.connectedOrDialingPeerCount) state)
  | [], walked, _, _, walk => by rw [List.append_nil]; exact walk
  | result :: rest, walked, state, priority, walk => by
    rw [List.foldl_cons, ← List.singleton_append, ← List.append_assoc]
    exact foldl_discoverPeer above rest _ _ (fun other member => priority other (List.mem_cons_of_mem _ member))
      (walk.discoverPeer result above (priority result (List.mem_cons_self _ _)))

/-- `peers_discovered` asks for another query only after an empty answer or one
that queued a peer, and then for exactly the peers that, with those connected,
dialing and just queued, fill `max_peers` or `max_outbound_dialing_peers`. -/
theorem peersDiscovered_requeries (results : List (PeerId × Option Instant)) :
    let after := pm.peersDiscovered limits results
    after.events = pm.events ∨
      ∃ wanted, after.events = pm.events ++ [.discoverPeers wanted] ∧
        (results = [] ∨ pm.peersToDial.length < after.peersToDial.length) ∧ 0 < wanted ∧
        (pm.db.connectedOrDialingPeerCount + (after.peersToDial.length - pm.peersToDial.length) + wanted =
            pm.maxPeers ∨
          pm.db.connectedOrDialingPeerCount + (after.peersToDial.length - pm.peersToDial.length) + wanted =
            pm.maxOutboundDialingPeers) := by
  obtain ⟨frame, count, -, ⟨queued, grown, length, -, -⟩, -, -⟩ :=
    DiscoveryWalk.foldl_discoverPeer (Nat.le_max_left pm.maxPeers limits.maxPriorityPeers) results [] (pm, 0)
      (fun _ _ _ => Nat.le_max_right _ _) (discoveryWalk_start pm _)
  unfold peersDiscovered
  dsimp only
  generalize results.foldl (discoverPeer limits pm.db.connectedOrDialingPeerCount) (pm, 0) = walked
    at frame count grown length ⊢
  have events : walked.1.events = pm.events := (congrArg PeerManager.events frame :)
  have limit : walked.1.maxPeers = pm.maxPeers := (congrArg PeerManager.maxPeers frame :)
  have outboundLimit : walked.1.maxOutboundDialingPeers = pm.maxOutboundDialingPeers :=
    (congrArg PeerManager.maxOutboundDialingPeers frame :)
  have queuedCount : walked.1.peersToDial.length - pm.peersToDial.length = walked.2 := by
    rw [grown, List.length_append, ← length]
    omega
  split
  · exact .inl events
  · next asked =>
    rcases maintainPeerCount_fills limits walked.1 walked.2 with unchanged | ⟨wanted, queried, positive, fills⟩
    · exact .inl (unchanged.trans events)
    · refine .inr ⟨wanted, queried.trans (by rw [events]), ?_, positive, ?_⟩
      · rw [maintainPeerCount_peersToDial]
        rcases results with _ | ⟨result, rest⟩
        · exact .inl rfl
        · exact .inr (by simp only [List.length_cons, Nat.succ_pos, true_and] at asked; omega)
      · rw [maintainPeerCount_peersToDial, queuedCount, ← count, ← limit, ← outboundLimit]
        exact fills

/-- A discovery answer keeps every peer connected or disconnecting. -/
theorem keepsOpen_peersDiscovered (results : List (PeerId × Option Instant)) :
    pm.db.KeepsOpen (pm.peersDiscovered limits results).db := by
  have kept := (DiscoveryWalk.foldl_discoverPeer (Nat.le_max_left pm.maxPeers limits.maxPriorityPeers) results []
    (pm, 0) (fun _ _ _ => Nat.le_max_right _ _) (discoveryWalk_start pm _)).keepsOpen
  unfold peersDiscovered
  dsimp only
  split
  · exact kept
  · rw [maintainPeerCount_db]
    exact kept

end Walk

end PeerManager

end Eth2Libp2p
