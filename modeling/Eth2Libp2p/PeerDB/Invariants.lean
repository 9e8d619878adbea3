import Eth2Libp2p.PeerDB.Counters

/-! # Invariants over runs of the peer database

Every mutator of the peer database is built from three kinds of change: a
transition (`PeerDB.updateConnectionState`), a write of one record that keeps
its connection status and seen addresses (a score, trust or duty change), and
the same kind of change applied to every record (score decay, gossipsub
scores). `PeerDB.Kept` collects the three closure conditions; an invariant
satisfying them holds after every operation but `inject_disconnect`, whose
eviction loops are treated on their own (`PeerDB.shrinkToFit_bannedBounded`,
`PeerDB.shrinkToFit_disconnectedAgree`).

The counters' invariants only read a record's status and addresses, so they
satisfy these conditions (`PeerDB.kept_bannedBounded`,
`PeerDB.kept_disconnectedAgree`).
-/

namespace Eth2Libp2p

namespace PeerDB

/-- A record change that keeps the connection status and the seen addresses. -/
def SameFootprint (old new : PeerInfo) : Prop :=
  new.connectionStatus = old.connectionStatus ∧ new.seenIpAddresses = old.seenIpAddresses

/-- An invariant kept by every transition and by every change of records that
keeps their footprints and trusts no peer that was not trusted. -/
structure Kept (P : PeerDB → Prop) : Prop where
  transition : ∀ (db : PeerDB) peerId newState now, P db →
    P (db.updateConnectionState peerId newState now).1
  write : ∀ (db : PeerDB) peerId info, P db → SameFootprint (db.entry peerId) info →
    (info.isTrusted = true → (db.entry peerId).isTrusted = true) →
    P { db with peers := db.peers.insert peerId info }
  mapValues : ∀ (db : PeerDB) (f : PeerId → PeerInfo → PeerInfo), P db →
    (∀ peerId info, SameFootprint info (f peerId info) ∧ (f peerId info).isTrusted = info.isTrusted) →
    P { db with peers := db.peers.mapValues f }

/-- A new record has the footprint of the record `update_connection_state` would create. -/
theorem sameFootprint_entry_of_lookup_none {db : PeerDB} {peerId : PeerId}
    (absent : db.peers.lookup peerId = none) (info : PeerInfo) (unknown : info.connectionStatus = .unknown)
    (unseen : info.seenIpAddresses = []) : SameFootprint (db.entry peerId) info := by
  unfold SameFootprint entry
  rw [absent, Option.getD_none, unknown, unseen]
  split <;> exact ⟨rfl, rfl⟩

section Kept

variable {P : PeerDB → Prop} (kept : Kept P)
include kept

theorem Kept.applyScoreTransition {db : PeerDB} (peerId : PeerId) (now : Instant)
    (result : ScoreTransitionResult) (holds : P db) : P (db.applyScoreTransition peerId now result).1 := by
  cases result with
  | banned => exact kept.transition db peerId .banned now holds
  | disconnected => exact kept.transition db peerId (.disconnecting false) now holds
  | noAction => exact holds
  | unbanned => exact kept.transition db peerId .unbanned now holds

theorem Kept.foldl_applyScoreTransition (now : Instant) :
    ∀ (actions : List (PeerId × ScoreTransitionResult)) (db : PeerDB)
      (results : List (PeerId × ScoreUpdateResult)), P db →
      P (actions.foldl (fun (db, results) (peerId, action) =>
        let applied := db.applyScoreTransition peerId now action
        (applied.1, if applied.2 = .noAction then results else results ++ [(peerId, applied.2)]))
        (db, results)).1
  | [], _, _, holds => holds
  | (peerId, action) :: rest, _, _, holds =>
    Kept.foldl_applyScoreTransition now rest _ _ (kept.applyScoreTransition peerId now action holds)

theorem Kept.reportPeer {db : PeerDB} (peerId : PeerId) (action : PeerAction) (now : Instant)
    (holds : P db) : P (db.reportPeer peerId action now).1 := by
  unfold PeerDB.reportPeer
  split
  · exact holds
  · next info found =>
    have written := kept.write db peerId (info.applyPeerActionToScore action) holds (by
      simp only [SameFootprint, entry, found, Option.getD_some,
        PeerInfo.applyPeerActionToScore_connectionStatus, PeerInfo.applyPeerActionToScore_seenIpAddresses,
        and_self]) (by simp only [entry, found, Option.getD_some,
          PeerInfo.applyPeerActionToScore_isTrusted, imp_self])
    dsimp only
    split
    · exact written
    · exact kept.applyScoreTransition peerId now _ written

theorem Kept.updateScores {db : PeerDB} (elapsed : Nat) (now : Instant) (holds : P db) :
    P (db.updateScores elapsed now).1 := by
  have unbanAll : ∀ (peerIds : List PeerId) (db : PeerDB) (results : List (PeerId × ScoreUpdateResult)),
      P db → P (peerIds.foldl (fun (db, results) peerId =>
        let unbanned := db.applyScoreTransition peerId now .unbanned
        (unbanned.1, results ++ [(peerId, unbanned.2)])) (db, results)).1 := by
    intro peerIds
    induction peerIds with
    | nil => exact fun _ _ holds => holds
    | cons peerId rest ih =>
      exact fun db _ holds => ih _ _ (kept.applyScoreTransition peerId now .unbanned holds)
  exact unbanAll _ _ _ (kept.mapValues db _ holds fun _ _ => ⟨⟨rfl, rfl⟩, rfl⟩)

theorem Kept.updateGossipsubScores {db : PeerDB} (toIgnore : Nat) (scores : List (PeerId × Int))
    (now : Instant) (holds : P db) : P (db.updateGossipsubScores toIgnore scores now).1 := by
  refine kept.foldl_applyScoreTransition now _ _ _ (kept.mapValues db _ holds fun _ _ => ?_)
  split <;> exact ⟨⟨rfl, rfl⟩, rfl⟩

theorem Kept.cleanupDialingPeers {db : PeerDB} (now : Instant) (holds : P db) :
    P (db.cleanupDialingPeers now) := by
  unfold PeerDB.cleanupDialingPeers
  generalize db.peers.entries.filterMap _ = peerIds
  induction peerIds generalizing db with
  | nil => exact holds
  | cons peerId rest ih => exact ih (kept.transition db peerId .disconnected now holds)

theorem Kept.unsetTrustedPeer {db : PeerDB} (peerId : PeerId) (holds : P db) :
    P (db.unsetTrustedPeer peerId) := by
  unfold PeerDB.unsetTrustedPeer
  split
  · next info found => exact kept.write db peerId _ holds (by simp only [SameFootprint, entry, found,
      Option.getD_some, and_self]) (fun untrusted => by cases untrusted)
  · exact holds

theorem Kept.updateMinTtl {db : PeerDB} (peerId : PeerId) (minTtl : Instant) (holds : P db) :
    P (db.updateMinTtl peerId minTtl) := by
  unfold PeerDB.updateMinTtl
  cases found : db.peers.lookup peerId with
  | some info =>
    apply kept.write db peerId _ holds <;> simp only [SameFootprint, entry, found, Option.getD_some] <;>
      split <;> (try split) <;> first | exact ⟨rfl, rfl⟩ | exact id
  | none =>
    refine kept.write db peerId _ holds (sameFootprint_entry_of_lookup_none found _ rfl rfl) ?_
    exact fun trusted => absurd trusted Bool.false_ne_true

/-- An invariant closed under transitions and footprint-preserving changes is
kept by every operation, once `inject_disconnect` and `set_trusted_peer` are
shown to keep it. -/
theorem Kept.step {db : PeerDB} (now : Instant) (op : PeerDBOp)
    (inject : ∀ peerId, op = .injectDisconnect peerId → P (db.step now op))
    (trust : ∀ peerId, op = .setTrustedPeer peerId → P (db.step now op)) (holds : P db) :
    P (db.step now op) := by
  cases op with
  | connectIngoing peerId seenAddress => exact kept.transition _ _ _ _ holds
  | connectOutgoing peerId seenAddress => exact kept.transition _ _ _ _ holds
  | dialingPeer peerId => exact kept.transition _ _ _ _ holds
  | notifyDisconnecting peerId toBan => exact kept.transition _ _ _ _ holds
  | injectDisconnect peerId => exact inject peerId rfl
  | reportPeer peerId action => exact kept.reportPeer peerId action now holds
  | updateScores elapsed => exact kept.updateScores elapsed now holds
  | updateGossipsubScores toIgnore scores => exact kept.updateGossipsubScores toIgnore scores now holds
  | cleanupDialingPeers => exact kept.cleanupDialingPeers now holds
  | setTrustedPeer peerId => exact trust peerId rfl
  | unsetTrustedPeer peerId => exact kept.unsetTrustedPeer peerId holds
  | updateMinTtl peerId minTtl => exact kept.updateMinTtl peerId minTtl holds

end Kept

section Weights

/-- A weight read from a record's footprint is kept by a footprint-preserving write. -/
theorem weight_insert_sameFootprint {db : PeerDB} {peerId : PeerId} {info : PeerInfo}
    (f : PeerInfo → Nat) (onDefault : f PeerInfo.default = 0) (onTrusted : f PeerInfo.trustedPeerInfo = 0)
    (footprint : f info = f (db.entry peerId)) :
    weight f (db.peers.insert peerId info) = weight f db.peers := by
  have inserted := weight_insert f db.peers peerId info
  rw [entryWeight_entry db peerId f onDefault onTrusted, footprint] at inserted
  omega

theorem weight_mapValues (f : PeerInfo → Nat) (g : PeerId → PeerInfo → PeerInfo) (peers : PeerMap)
    (footprint : ∀ peerId info, f (g peerId info) = f info) :
    weight f (peers.mapValues g) = weight f peers := by
  simp only [weight, PeerMap.mapValues, List.map_map, Function.comp_def, footprint]

theorem SameFootprint.isDisconnected {old new : PeerInfo} (same : SameFootprint old new) :
    new.isDisconnected = old.isDisconnected := by
  unfold PeerInfo.isDisconnected
  rw [same.1]

theorem SameFootprint.isBanned {old new : PeerInfo} (same : SameFootprint old new) :
    new.isBanned = old.isBanned := by
  unfold PeerInfo.isBanned
  rw [same.1]

/-- Removing a record never raises a count. -/
theorem count_erase_le (p : PeerInfo → Bool) (peers : PeerMap) (peerId : PeerId) :
    count p (peers.erase peerId) ≤ count p peers := by
  have erased := weight_erase (fun info => (p info).toNat) peers peerId
  unfold count
  omega

/-- Removing a present record takes its share out of a count. -/
theorem count_erase_of_mem (p : PeerInfo → Bool) {peers : PeerMap} {peerId : PeerId}
    {info : PeerInfo} (present : (⟨peerId, info⟩ : Sigma fun _ : PeerId => PeerInfo) ∈ peers.entries) :
    count p (peers.erase peerId) + (p info).toNat = count p peers := by
  have erased := weight_erase (fun info => (p info).toNat) peers peerId
  have found : peers.lookup peerId = some info := AList.mem_lookup_iff.mpr present
  simp only [entryWeight, found, Option.map_some', Option.getD_some] at erased
  exact erased

end Weights

theorem BannedBounded.insert_sameFootprint {db : PeerDB} {peerId : PeerId} {info : PeerInfo}
    (bounded : db.BannedBounded) (same : SameFootprint (db.entry peerId) info) :
    BannedBounded { db with peers := db.peers.insert peerId info } := by
  unfold BannedBounded count at *
  rwa [weight_insert_sameFootprint _ rfl rfl (by rw [same.isBanned])]

theorem DisconnectedAgree.insert_sameFootprint {db : PeerDB} {peerId : PeerId} {info : PeerInfo}
    (agree : db.DisconnectedAgree) (same : SameFootprint (db.entry peerId) info) :
    DisconnectedAgree { db with peers := db.peers.insert peerId info } := by
  unfold DisconnectedAgree count at *
  rwa [weight_insert_sameFootprint _ rfl rfl (by rw [same.isDisconnected])]

theorem kept_bannedBounded : Kept BannedBounded where
  transition _ peerId newState now := updateConnectionState_bannedBounded peerId newState now
  write _ _ _ holds same _ := holds.insert_sameFootprint same
  mapValues db f holds same := by
    unfold BannedBounded count at *
    rwa [weight_mapValues _ _ _ fun peerId info => by rw [(same peerId info).1.isBanned]]

theorem kept_disconnectedAgree : Kept DisconnectedAgree where
  transition _ peerId newState now := updateConnectionState_disconnectedAgree peerId newState now
  write _ _ _ holds same _ := holds.insert_sameFootprint same
  mapValues db f holds same := by
    unfold DisconnectedAgree count at *
    rwa [weight_mapValues _ _ _ fun peerId info => by rw [(same peerId info).1.isDisconnected]]

section Eviction

/-- Disconnected records are never trusted. -/
def UntrustedDisconnected (db : PeerDB) : Prop :=
  ∀ entry ∈ db.peers.entries, entry.2.isDisconnected = true → entry.2.isTrusted = false

theorem of_mem_bannedSince {peers : PeerMap} {toDrop : PeerId} {info : PeerInfo} {since : Instant}
    (member : (toDrop, info, since) ∈ bannedSince peers) :
    (⟨toDrop, info⟩ : Sigma fun _ : PeerId => PeerInfo) ∈ peers.entries ∧ info.isBanned = true := by
  obtain ⟨⟨key, record⟩, present, found⟩ := List.mem_filterMap.mp member
  dsimp only at found
  split at found
  · next banned =>
    cases found
    exact ⟨present, by simp only [PeerInfo.isBanned, banned]⟩
  · cases found

theorem of_mem_untrustedDisconnectedSince {peers : PeerMap} {toDrop : PeerId} {since : Instant}
    (member : (toDrop, since) ∈ untrustedDisconnectedSince peers) :
    ∃ info, (⟨toDrop, info⟩ : Sigma fun _ : PeerId => PeerInfo) ∈ peers.entries ∧
      info.isDisconnected = true := by
  obtain ⟨⟨key, record⟩, present, found⟩ := List.mem_filterMap.mp member
  obtain ⟨present, kept⟩ := List.mem_filter.mp present
  dsimp only at found
  split at found
  · cases found
    simp only [Bool.and_eq_true] at kept
    exact ⟨record, present, kept.1⟩
  · cases found

/-- With no banned peer listed, no peer is banned. -/
theorem count_isBanned_of_bannedSince_nil {peers : PeerMap} (none : bannedSince peers = []) :
    count PeerInfo.isBanned peers = 0 := by
  unfold count weight
  refine List.sum_eq_zero fun n member => ?_
  obtain ⟨⟨key, record⟩, present, rfl⟩ := List.mem_map.mp member
  have unlisted := List.filterMap_eq_nil_iff.mp none _ present
  dsimp only at unlisted ⊢
  unfold PeerInfo.isBanned
  split
  · next banned => simp only [banned] at unlisted; cases unlisted
  · rfl

/-- With no non-trusted disconnected peer listed, every disconnected peer is trusted. -/
theorem isTrusted_of_untrustedDisconnectedSince_nil {peers : PeerMap}
    (none : untrustedDisconnectedSince peers = []) :
    ∀ entry ∈ peers.entries, entry.2.isDisconnected = true → entry.2.isTrusted = true := by
  intro ⟨key, record⟩ present disconnected
  by_contra untrusted
  have listed := List.filterMap_eq_nil_iff.mp none ⟨key, record⟩
    (List.mem_filter.mpr ⟨present, by
      simp only [Bool.not_eq_true] at disconnected untrusted
      simp only [disconnected, untrusted, Bool.not_false, Bool.and_self]⟩)
  dsimp only at listed disconnected
  unfold PeerInfo.isDisconnected at disconnected
  split at listed
  · cases listed
  · next other => split at disconnected <;> simp_all

theorem PeerInfo.isDisconnected_eq_false_of_isBanned {info : PeerInfo} (banned : info.isBanned = true) :
    info.isDisconnected = false := by
  unfold PeerInfo.isBanned at banned
  unfold PeerInfo.isDisconnected
  split at banned <;> simp_all

variable {db : PeerDB} (unbannedPeers : List (PeerId × List IpAddr))

theorem dropOldestBanned_disconnectedPeers :
    (db.dropOldestBanned unbannedPeers).1.disconnectedPeers = db.disconnectedPeers := by
  unfold dropOldestBanned
  split <;> rfl

/-- Dropping the oldest banned peer keeps the banned counter an upper bound. -/
theorem dropOldestBanned_bannedBounded (bounded : db.BannedBounded) :
    (db.dropOldestBanned unbannedPeers).1.BannedBounded := by
  unfold dropOldestBanned
  split
  · next found =>
    obtain ⟨present, banned⟩ := of_mem_bannedSince (List.argmin_mem found)
    have erased := count_erase_of_mem PeerInfo.isBanned present
    rw [banned, Bool.toNat_true] at erased
    unfold BannedBounded at *
    simp only [BannedPeersCount.removeBannedPeer_bannedPeers]
    omega
  · next none =>
    unfold BannedBounded
    rw [count_isBanned_of_bannedSince_nil (List.argmin_eq_none.mp none)]
    exact Nat.zero_le _

/-- Dropping the oldest banned peer keeps the disconnected counter exact. -/
theorem dropOldestBanned_disconnectedAgree (agree : db.DisconnectedAgree) :
    (db.dropOldestBanned unbannedPeers).1.DisconnectedAgree := by
  unfold dropOldestBanned
  split
  · next found =>
    obtain ⟨present, banned⟩ := of_mem_bannedSince (List.argmin_mem found)
    have erased := count_erase_of_mem PeerInfo.isDisconnected present
    rw [PeerInfo.isDisconnected_eq_false_of_isBanned banned, Bool.toNat_false] at erased
    unfold DisconnectedAgree at *
    dsimp only
    omega
  · exact agree

theorem dropOldestBanned_untrustedDisconnected (untrusted : db.UntrustedDisconnected) :
    (db.dropOldestBanned unbannedPeers).1.UntrustedDisconnected := by
  unfold dropOldestBanned
  split
  · exact fun entry member => untrusted entry ((List.kerase_sublist _ _).subset member)
  · exact untrusted

theorem dropOldestDisconnected_bannedPeersCount :
    db.dropOldestDisconnected.bannedPeersCount = db.bannedPeersCount := rfl

theorem dropOldestDisconnected_bannedBounded (bounded : db.BannedBounded) :
    db.dropOldestDisconnected.BannedBounded := by
  unfold dropOldestDisconnected BannedBounded at *
  split
  · exact (count_erase_le _ _ _).trans bounded
  · exact bounded

theorem dropOldestDisconnected_untrustedDisconnected (untrusted : db.UntrustedDisconnected) :
    db.dropOldestDisconnected.UntrustedDisconnected := by
  unfold dropOldestDisconnected
  split
  · exact fun entry member => untrusted entry ((List.kerase_sublist _ _).subset member)
  · exact untrusted

/-- Over its limit, the second loop keeps the disconnected counter exact as long
as no disconnected peer is trusted: there is always a peer to drop. -/
theorem dropOldestDisconnected_disconnectedAgree (agree : db.DisconnectedAgree)
    (untrusted : db.UntrustedDisconnected) (over : MAX_DC_PEERS < db.disconnectedPeers) :
    db.dropOldestDisconnected.DisconnectedAgree := by
  unfold dropOldestDisconnected DisconnectedAgree at *
  split
  · next found =>
    obtain ⟨info, present, disconnected⟩ := of_mem_untrustedDisconnectedSince (List.argmin_mem found)
    have erased := count_erase_of_mem PeerInfo.isDisconnected present
    rw [disconnected, Bool.toNat_true] at erased
    dsimp only
    omega
  · next none =>
    have allTrusted := isTrusted_of_untrustedDisconnectedSince_nil (List.argmin_eq_none.mp none)
    have noneDisconnected : count PeerInfo.isDisconnected db.peers = 0 := by
      unfold count weight
      refine List.sum_eq_zero fun n member => ?_
      obtain ⟨entry, present, rfl⟩ := List.mem_map.mp member
      cases disconnected : entry.2.isDisconnected
      · simp only [disconnected, Bool.toNat_false]
      · have := untrusted entry present disconnected
        rw [allTrusted entry present disconnected] at this
        cases this
    unfold MAX_DC_PEERS at over
    omega

end Eviction

end PeerDB

end Eth2Libp2p
