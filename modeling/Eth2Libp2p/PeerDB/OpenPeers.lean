import Eth2Libp2p.PeerDB.Eviction

/-! # Peers with an open connection

`Connected` and `Disconnecting` are the statuses of a peer whose connection is
still open; `is_connected_or_disconnecting` tests for them, and
`on_connection_closed` reads it to decide whether to report a disconnection.
This module says which mutators of the peer database take a peer out of these
statuses.

Only the transition to `Disconnected` does, and only for the peer it is made
for: any other transition keeps a connected or disconnecting peer so
(`PeerDB.keepsOpen_updateConnectionState`). The score changes keep every status
(`PeerDB.keepsOpen_reportPeer`, `PeerDB.keepsOpen_updateScores`,
`PeerDB.keepsOpen_updateGossipsubScores`), the dialing timeout disconnects only
dialing peers (`PeerDB.keepsOpen_cleanupDialingPeers`), and `shrink_to_fit`
drops only banned and disconnected peers, so it changes no peer's answer
(`PeerDB.isConnectedOrDisconnecting_shrinkToFit`). `inject_disconnect` therefore
closes its own peer and no other
(`PeerDB.isConnectedOrDisconnecting_injectDisconnect`).
-/

namespace Eth2Libp2p

/-- Connected or disconnecting: the statuses of a peer whose connection is open. -/
def PeerConnectionStatus.isOpen : PeerConnectionStatus → Bool
  | .connected .. | .disconnecting _ => true
  | _ => false

/-- The lookup of `mapValues` applies the function to the record found. -/
@[simp] theorem PeerMap.lookup_mapValues (f : PeerId → PeerInfo → PeerInfo) (peers : PeerMap)
    (peerId : PeerId) : (peers.mapValues f).lookup peerId = (peers.lookup peerId).map (f peerId) :=
  List.dlookup_map₂ peerId

namespace PeerDB

theorem isConnectedOrDisconnecting_eq (db : PeerDB) (peerId : PeerId) :
    db.isConnectedOrDisconnecting peerId = (db.connectionStatus peerId).any PeerConnectionStatus.isOpen := by
  unfold isConnectedOrDisconnecting
  rcases db.connectionStatus peerId with _ | ⟨_ | _ | _ | _ | _ | _⟩ <;> rfl

/-- Every peer connected or disconnecting in `db` still is in `db'`. -/
def KeepsOpen (db db' : PeerDB) : Prop :=
  ∀ peerId, db.isConnectedOrDisconnecting peerId = true → db'.isConnectedOrDisconnecting peerId = true

theorem KeepsOpen.refl (db : PeerDB) : db.KeepsOpen db := fun _ opened => opened

theorem KeepsOpen.trans {db db' db'' : PeerDB} (first : db.KeepsOpen db') (second : db'.KeepsOpen db'') :
    db.KeepsOpen db'' := fun peerId opened => second peerId (first peerId opened)

/-- A change that keeps every peer's status keeps the open ones. -/
theorem keepsOpen_of_connectionStatus {db db' : PeerDB}
    (same : ∀ peerId, db'.connectionStatus peerId = db.connectionStatus peerId) : db.KeepsOpen db' :=
  fun peerId opened => by rwa [isConnectedOrDisconnecting_eq, same, ← isConnectedOrDisconnecting_eq]

/-- A fold of steps that each keep the open peers keeps them. -/
theorem keepsOpen_foldl {σ α : Type} (db : σ → PeerDB) (f : σ → α → σ)
    (each : ∀ s a, (db s).KeepsOpen (db (f s a))) :
    ∀ (l : List α) (s : σ), (db s).KeepsOpen (db (l.foldl f s))
  | [], _ => KeepsOpen.refl _
  | a :: l, s => (each s a).trans (keepsOpen_foldl db f each l (f s a))

section Transition

theorem connectionStatus_updateConnectionState_ne {db : PeerDB} {peerId other : PeerId}
    (different : other ≠ peerId) (newState : NewConnectionState) (now : Instant) :
    (db.updateConnectionState peerId newState now).1.connectionStatus other = db.connectionStatus other := by
  simp only [connectionStatus, peerInfo, updateConnectionState_peers, AList.lookup_insert_ne different]

theorem connectionStatus_updateConnectionState_self (db : PeerDB) (peerId : PeerId)
    (newState : NewConnectionState) (now : Instant) :
    (db.updateConnectionState peerId newState now).1.connectionStatus peerId =
      some (transition (db.banAdjusted peerId newState) db.disconnectedPeers db.bannedPeersCount
        newState now).1.connectionStatus := by
  simp only [connectionStatus, peerInfo, updateConnectionState_peers, AList.lookup_insert, Option.map_some']

/-- The record a transition starts from has the peer's status. -/
theorem entry_isOpen {db : PeerDB} {peerId : PeerId} (opened : db.isConnectedOrDisconnecting peerId = true) :
    (db.entry peerId).connectionStatus.isOpen = true := by
  rw [isConnectedOrDisconnecting_eq, connectionStatus, peerInfo] at opened
  unfold entry
  cases found : db.peers.lookup peerId with
  | none => rw [found] at opened; cases opened
  | some info => rwa [found] at opened

/-- A transition to any state but `Disconnected` keeps a connected or
disconnecting peer so. -/
theorem transition_isOpen {info : PeerInfo} (opened : info.connectionStatus.isOpen = true) (dc : Nat)
    (counts : BannedPeersCount) {newState : NewConnectionState} (stays : newState ≠ .disconnected)
    (now : Instant) : (transition info dc counts newState now).1.connectionStatus.isOpen = true := by
  rcases info with ⟨status, score, seen, subnets, minTtl, trusted⟩
  cases status <;> cases opened <;> cases newState <;>
    first | exact absurd rfl stays | rfl | cases ‹ConnectionDirection› <;> rfl

/-- The transition to `Disconnected` leaves the peer banned or disconnected. -/
theorem transition_disconnected_isOpen (info : PeerInfo) (dc : Nat) (counts : BannedPeersCount)
    (now : Instant) : (transition info dc counts .disconnected now).1.connectionStatus.isOpen = false := by
  rcases info with ⟨status, score, seen, subnets, minTtl, trusted⟩
  cases status <;> try rfl
  next toBan => cases toBan <;> rfl

theorem keepsOpen_updateConnectionState (db : PeerDB) (peerId : PeerId) (newState : NewConnectionState)
    (stays : newState ≠ .disconnected) (now : Instant) :
    db.KeepsOpen (db.updateConnectionState peerId newState now).1 := by
  intro other opened
  by_cases same : other = peerId
  · subst same
    rw [isConnectedOrDisconnecting_eq, connectionStatus_updateConnectionState_self, Option.any_some]
    exact transition_isOpen (by rw [banAdjusted_connectionStatus]; exact entry_isOpen opened) _ _ stays now
  · rwa [isConnectedOrDisconnecting_eq, connectionStatus_updateConnectionState_ne same,
      ← isConnectedOrDisconnecting_eq]

/-- A new connection leaves the peer connected. -/
theorem isConnectedOrDisconnecting_connect (db : PeerDB) (peerId : PeerId) (seenAddress : Multiaddr)
    (direction : ConnectionDirection) (now : Instant) :
    (db.updateConnectionState peerId (.connected seenAddress direction) now).1.isConnectedOrDisconnecting
      peerId = true := by
  rw [isConnectedOrDisconnecting_eq, connectionStatus_updateConnectionState_self, Option.any_some]
  unfold transition PeerInfo.connect
  dsimp only
  split <;> rfl

/-- `set_dialing_peer` refuses a connected or disconnecting peer. -/
theorem transition_dialing_connectionStatus {info : PeerInfo} (opened : info.connectionStatus.isOpen = true)
    (dc : Nat) (counts : BannedPeersCount) (now : Instant) :
    (transition info dc counts .dialing now).1.connectionStatus = info.connectionStatus := by
  rcases info with ⟨_ | _ | _ | _ | _ | _, score, seen, subnets, minTtl, trusted⟩ <;> cases opened <;> rfl

/-- `dialing_peer` leaves a connected or disconnecting peer's status alone. -/
theorem connectionStatus_dialingPeer {db : PeerDB} {peerId : PeerId}
    (opened : db.isConnectedOrDisconnecting peerId = true) (now : Instant) :
    (db.dialingPeer peerId now).connectionStatus peerId = db.connectionStatus peerId := by
  have entryOpen := entry_isOpen opened
  rw [dialingPeer, connectionStatus_updateConnectionState_self, transition_dialing_connectionStatus
    (by rwa [banAdjusted_connectionStatus]), banAdjusted_connectionStatus]
  rw [isConnectedOrDisconnecting_eq, connectionStatus, peerInfo] at opened
  rw [connectionStatus, peerInfo, entry]
  cases found : db.peers.lookup peerId with
  | none => rw [found] at opened; cases opened
  | some info => rfl

end Transition

section Scores

theorem keepsOpen_applyScoreTransition (db : PeerDB) (peerId : PeerId) (now : Instant)
    (result : ScoreTransitionResult) : db.KeepsOpen (db.applyScoreTransition peerId now result).1 := by
  cases result with
  | banned => exact keepsOpen_updateConnectionState db peerId .banned nofun now
  | disconnected => exact keepsOpen_updateConnectionState db peerId (.disconnecting false) nofun now
  | noAction => exact .refl db
  | unbanned => exact keepsOpen_updateConnectionState db peerId .unbanned nofun now

theorem keepsOpen_reportPeer (db : PeerDB) (peerId : PeerId) (action : PeerAction) (now : Instant) :
    db.KeepsOpen (db.reportPeer peerId action now).1 := by
  unfold PeerDB.reportPeer
  split
  · exact .refl db
  · next info found =>
    have written : db.KeepsOpen { db with peers := db.peers.insert peerId (info.applyPeerActionToScore action) } :=
      keepsOpen_of_connectionStatus fun other => by
        by_cases same : other = peerId
        · subst same
          simp only [connectionStatus, peerInfo, AList.lookup_insert, found, Option.map_some',
            PeerInfo.applyPeerActionToScore_connectionStatus]
        · simp only [connectionStatus, peerInfo, AList.lookup_insert_ne same]
    dsimp only
    split
    · exact written
    · exact written.trans (keepsOpen_applyScoreTransition _ _ _ _)

theorem keepsOpen_mapValues (db : PeerDB) (f : PeerId → PeerInfo → PeerInfo)
    (same : ∀ peerId info, (f peerId info).connectionStatus = info.connectionStatus) :
    db.KeepsOpen { db with peers := db.peers.mapValues f } :=
  keepsOpen_of_connectionStatus fun peerId => by
    simp only [connectionStatus, peerInfo, PeerMap.lookup_mapValues, Option.map_map, Function.comp_def, same]

theorem keepsOpen_updateScores (db : PeerDB) (elapsed : Nat) (now : Instant) :
    db.KeepsOpen (db.updateScores elapsed now).1 := by
  unfold updateScores
  dsimp only
  refine KeepsOpen.trans ?_ (keepsOpen_foldl Prod.fst _ ?_ _ _)
  · exact keepsOpen_mapValues db _ fun _ _ => rfl
  · exact fun ⟨db, _⟩ peerId => keepsOpen_applyScoreTransition db peerId now .unbanned

theorem keepsOpen_updateGossipsubScores (db : PeerDB) (toIgnore : Nat) (scores : List (PeerId × Int))
    (now : Instant) : db.KeepsOpen (db.updateGossipsubScores toIgnore scores now).1 := by
  unfold updateGossipsubScores
  dsimp only
  refine KeepsOpen.trans ?_ (keepsOpen_foldl Prod.fst _ ?_ _ _)
  · exact keepsOpen_mapValues db _ fun _ _ => by split <;> rfl
  · exact fun ⟨db, _⟩ ⟨peerId, action⟩ => keepsOpen_applyScoreTransition db peerId now action

/-- The dialing timeout disconnects only peers that are dialing. -/
theorem keepsOpen_cleanupDialingPeers (db : PeerDB) (now : Instant) :
    db.KeepsOpen (db.cleanupDialingPeers now) := by
  intro peerId opened
  unfold cleanupDialingPeers
  dsimp only
  generalize listed : db.peers.entries.filterMap _ = peerIds
  have absent : peerId ∉ peerIds := by
    rw [← listed]
    intro member
    obtain ⟨⟨key, info⟩, present, chosen⟩ := List.mem_filterMap.mp member
    have found := AList.mem_lookup_iff.mpr present
    dsimp only at chosen
    split at chosen
    · next since dialing =>
      split at chosen
      · cases chosen
        rw [isConnectedOrDisconnecting_eq, connectionStatus, peerInfo, found, Option.map_some', dialing]
          at opened
        cases opened
      · cases chosen
    · cases chosen
  clear listed
  induction peerIds generalizing db with
  | nil => exact opened
  | cons other rest ih =>
    refine ih (db.updateConnectionState other .disconnected now).1 ?_ (List.not_mem_of_not_mem_cons absent)
    rwa [isConnectedOrDisconnecting_eq, connectionStatus_updateConnectionState_ne
      (List.ne_of_not_mem_cons absent), ← isConnectedOrDisconnecting_eq]

end Scores

section Eviction

/-- Dropping a banned or disconnected record changes no peer's answer. -/
theorem isConnectedOrDisconnecting_erase {db db' : PeerDB} {toDrop : PeerId} {info : PeerInfo}
    (erased : db'.peers = db.peers.erase toDrop) (present : ⟨toDrop, info⟩ ∈ db.peers.entries)
    (closed : info.connectionStatus.isOpen = false) (peerId : PeerId) :
    db'.isConnectedOrDisconnecting peerId = db.isConnectedOrDisconnecting peerId := by
  simp only [isConnectedOrDisconnecting_eq, connectionStatus, peerInfo, erased]
  by_cases same : peerId = toDrop
  · subst same
    rw [AList.lookup_erase, AList.mem_lookup_iff.mpr present]
    exact closed.symm
  · rw [AList.lookup_erase_ne same]

theorem isConnectedOrDisconnecting_dropOldestBanned (db : PeerDB)
    (unbannedPeers : List (PeerId × List IpAddr)) (peerId : PeerId) :
    (db.dropOldestBanned unbannedPeers).1.isConnectedOrDisconnecting peerId =
      db.isConnectedOrDisconnecting peerId := by
  unfold dropOldestBanned
  split
  · next toDrop info since chosen =>
    obtain ⟨present, banned⟩ := of_mem_bannedSince (List.argmin_mem chosen)
    refine isConnectedOrDisconnecting_erase rfl present ?_ peerId
    revert banned
    unfold PeerInfo.isBanned
    cases info.connectionStatus <;> first | exact fun _ => rfl | exact nofun
  · rfl

theorem isConnectedOrDisconnecting_dropOldestDisconnected (db : PeerDB) (peerId : PeerId) :
    db.dropOldestDisconnected.isConnectedOrDisconnecting peerId = db.isConnectedOrDisconnecting peerId := by
  unfold dropOldestDisconnected
  split
  · next toDrop since chosen =>
    obtain ⟨info, present, disconnected⟩ := of_mem_untrustedDisconnectedSince (List.argmin_mem chosen)
    refine isConnectedOrDisconnecting_erase rfl present ?_ peerId
    revert disconnected
    unfold PeerInfo.isDisconnected
    cases info.connectionStatus <;> first | exact fun _ => rfl | exact nofun
  · rfl

/-- `shrink_to_fit` drops only banned and disconnected peers. -/
theorem isConnectedOrDisconnecting_shrinkToFit (db : PeerDB) (peerId : PeerId) :
    db.shrinkToFit.1.isConnectedOrDisconnecting peerId = db.isConnectedOrDisconnecting peerId := by
  let same (db' : PeerDB) := db'.isConnectedOrDisconnecting peerId = db.isConnectedOrDisconnecting peerId
  refine removeExcessDisconnected_induction same (fun db' kept _ => ?_) _
    (removeExcessBanned_induction same (fun db' unbannedPeers kept _ => ?_) db [] rfl)
  · exact (isConnectedOrDisconnecting_dropOldestDisconnected db' peerId).trans kept
  · exact (isConnectedOrDisconnecting_dropOldestBanned db' unbannedPeers peerId).trans kept

/-- `inject_disconnect` closes its own peer and no other. -/
theorem isConnectedOrDisconnecting_injectDisconnect (db : PeerDB) (peerId other : PeerId) (now : Instant) :
    (db.injectDisconnect peerId now).1.isConnectedOrDisconnecting other =
      if other = peerId then false else db.isConnectedOrDisconnecting other := by
  rw [injectDisconnect, isConnectedOrDisconnecting_shrinkToFit]
  split
  · next same =>
    subst same
    rw [isConnectedOrDisconnecting_eq, connectionStatus_updateConnectionState_self, Option.any_some,
      transition_disconnected_isOpen]
  · next different =>
    rw [isConnectedOrDisconnecting_eq, connectionStatus_updateConnectionState_ne different,
      ← isConnectedOrDisconnecting_eq]

end Eviction

end PeerDB

end Eth2Libp2p
