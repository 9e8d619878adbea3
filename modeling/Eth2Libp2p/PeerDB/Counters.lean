import Eth2Libp2p.PeerDB.Operations

/-! # The counters of the peer database

The peer database keeps three counters beside its map: the number of
disconnected peers, the number of banned peers, and for each IP address the
number of banned peers seen on it. `PeerDB.CountersAgree` says that all three
agree with the map.

`PeerDB.transition_banned_accounting` and its siblings are the accounting of a
single transition: the counters move by exactly the change of the peer's record,
except when a banned peer is sent to `Disconnecting`, a branch that changes the
status and leaves the banned counters alone. `PeerDB.updateConnectionState_countersAgree`
lifts it to the database, and `PeerDB.notifyDisconnecting_keeps_ban_counters`
reaches the excepted branch from a new database.
-/

namespace Eth2Libp2p

namespace PeerInfo

/-- The occurrences of `ip` among a banned record's seen addresses. -/
def bannedIpWeight (ip : IpAddr) (info : PeerInfo) : Nat :=
  if info.isBanned then info.seenIpAddresses.count ip else 0

end PeerInfo

namespace PeerDB

/-- The three counters agree with the map. -/
structure CountersAgree (db : PeerDB) : Prop where
  disconnected : db.disconnectedPeers = count PeerInfo.isDisconnected db.peers
  banned : db.bannedPeersCount.bannedPeers = count PeerInfo.isBanned db.peers
  bannedPerIp : ∀ ip, db.bannedPeersCount.bannedPeersPerIp ip =
    weight (PeerInfo.bannedIpWeight ip) db.peers

section Transition

variable (info : PeerInfo) (dc : Nat) (counts : BannedPeersCount) (newState : NewConnectionState)
  (now : Instant)

/-- A transition moves the disconnected counter by the change of the record. -/
theorem transition_disconnected_accounting (dcEnough : info.isDisconnected.toNat ≤ dc) :
    (transition info dc counts newState now).2.1 + info.isDisconnected.toNat =
      dc + (transition info dc counts newState now).1.isDisconnected.toNat := by
  obtain ⟨status, score, seen, subnets, minTtl, trusted⟩ := info
  rcases newState with ⟨_, _ | _⟩ | ⟨_ | _⟩ | _ | _ | _ | _ <;>
    rcases status with _ | _ | _ | ⟨_ | _⟩ | _ | _ <;>
    simp only [transition, PeerInfo.connect, PeerInfo.setDialingPeer, PeerInfo.setConnectionStatus,
      PeerInfo.clearSubnets, PeerInfo.isDisconnected, Option.getD_some, Option.getD_none,
      Bool.toNat_true, Bool.toNat_false] at dcEnough ⊢ <;> omega

/-- A transition never lowers the banned counter by more than the change of the
record: the counter stays an upper bound of the banned peers. -/
theorem transition_banned_le (bannedEnough : info.isBanned.toNat ≤ counts.bannedPeers) :
    counts.bannedPeers + (transition info dc counts newState now).1.isBanned.toNat ≤
      (transition info dc counts newState now).2.2.1.bannedPeers + info.isBanned.toNat := by
  obtain ⟨status, score, seen, subnets, minTtl, trusted⟩ := info
  rcases newState with ⟨_, _ | _⟩ | ⟨_ | _⟩ | _ | _ | _ | _ <;>
    rcases status with _ | _ | _ | ⟨_ | _⟩ | _ | _ <;>
    simp only [transition, PeerInfo.connect, PeerInfo.setDialingPeer, PeerInfo.setConnectionStatus,
      PeerInfo.clearSubnets, PeerInfo.isBanned, Option.getD_some, Option.getD_none, Bool.toNat_true,
      Bool.toNat_false, BannedPeersCount.removeBannedPeer_bannedPeers,
      BannedPeersCount.addBannedPeer_bannedPeers] at bannedEnough ⊢ <;> omega

variable (notSlip : info.isBanned → ∀ toBan, newState ≠ .disconnecting toBan)
include notSlip

/-- A transition other than a banned peer's disconnection moves the banned counter
by the change of the record. -/
theorem transition_banned_accounting (bannedEnough : info.isBanned.toNat ≤ counts.bannedPeers) :
    (transition info dc counts newState now).2.2.1.bannedPeers + info.isBanned.toNat =
      counts.bannedPeers + (transition info dc counts newState now).1.isBanned.toNat := by
  obtain ⟨status, score, seen, subnets, minTtl, trusted⟩ := info
  rcases newState with ⟨_, _ | _⟩ | ⟨_ | _⟩ | _ | _ | _ | _ <;>
    rcases status with _ | _ | _ | ⟨_ | _⟩ | _ | _ <;>
    first
    | exact absurd rfl (notSlip rfl _)
    | (simp only [transition, PeerInfo.connect, PeerInfo.setDialingPeer, PeerInfo.setConnectionStatus,
        PeerInfo.clearSubnets, PeerInfo.isBanned, Option.getD_some, Option.getD_none, Bool.toNat_true,
        Bool.toNat_false, BannedPeersCount.removeBannedPeer_bannedPeers,
        BannedPeersCount.addBannedPeer_bannedPeers] at bannedEnough ⊢ <;> omega)

/-- A transition other than a banned peer's disconnection moves each address's
banned count by the change of the record. -/
theorem transition_bannedIp_accounting (ip : IpAddr)
    (perIpEnough : info.bannedIpWeight ip ≤ counts.bannedPeersPerIp ip) :
    (transition info dc counts newState now).2.2.1.bannedPeersPerIp ip + info.bannedIpWeight ip =
      counts.bannedPeersPerIp ip + (transition info dc counts newState now).1.bannedIpWeight ip := by
  obtain ⟨status, score, seen, subnets, minTtl, trusted⟩ := info
  rcases newState with ⟨_, _ | _⟩ | ⟨_ | _⟩ | _ | _ | _ | _ <;>
    rcases status with _ | _ | _ | ⟨_ | _⟩ | _ | _ <;>
    first
    | exact absurd rfl (notSlip rfl _)
    | (simp only [transition, PeerInfo.bannedIpWeight, PeerInfo.connect, PeerInfo.setDialingPeer,
        PeerInfo.setConnectionStatus, PeerInfo.clearSubnets, PeerInfo.isBanned, Option.getD_some,
        Option.getD_none, Bool.false_eq_true, ↓reduceIte,
        BannedPeersCount.removeBannedPeer_bannedPeersPerIp,
        BannedPeersCount.addBannedPeer_bannedPeersPerIp] at perIpEnough ⊢ <;> omega)

end Transition

/-- The banned counter bounds the number of banned peers. -/
def BannedBounded (db : PeerDB) : Prop :=
  count PeerInfo.isBanned db.peers ≤ db.bannedPeersCount.bannedPeers

/-- The disconnected counter is the number of disconnected peers. -/
def DisconnectedAgree (db : PeerDB) : Prop :=
  db.disconnectedPeers = count PeerInfo.isDisconnected db.peers

theorem CountersAgree.disconnectedAgree {db : PeerDB} (agree : db.CountersAgree) :
    db.DisconnectedAgree := agree.disconnected

theorem CountersAgree.bannedBounded {db : PeerDB} (agree : db.CountersAgree) :
    db.BannedBounded := agree.banned.ge

section Entry

variable (db : PeerDB) (peerId : PeerId) (newState : NewConnectionState) (now : Instant)

/-- A record's value is part of the sum. -/
theorem entryWeight_le (f : PeerInfo → Nat) (peers : PeerMap) :
    entryWeight f peers peerId ≤ weight f peers := by
  have erased := weight_erase f peers peerId
  omega

/-- For a weight that vanishes on new records, the absent peer weighs what its
new record does. -/
theorem entryWeight_entry (f : PeerInfo → Nat) (onDefault : f PeerInfo.default = 0)
    (onTrusted : f PeerInfo.trustedPeerInfo = 0) :
    entryWeight f db.peers peerId = f (db.entry peerId) := by
  unfold entryWeight entry
  cases db.peers.lookup peerId with
  | none => split <;> simp only [Option.map_none', Option.getD_none, onDefault, onTrusted]
  | some info => rfl

@[simp] theorem updateConnectionState_peers :
    (db.updateConnectionState peerId newState now).1.peers = db.peers.insert peerId
      (transition (db.banAdjusted peerId newState) db.disconnectedPeers db.bannedPeersCount
        newState now).1 := rfl

@[simp] theorem updateConnectionState_disconnectedPeers :
    (db.updateConnectionState peerId newState now).1.disconnectedPeers =
      (transition (db.banAdjusted peerId newState) db.disconnectedPeers db.bannedPeersCount
        newState now).2.1 := rfl

@[simp] theorem updateConnectionState_bannedPeersCount :
    (db.updateConnectionState peerId newState now).1.bannedPeersCount =
      (transition (db.banAdjusted peerId newState) db.disconnectedPeers db.bannedPeersCount
        newState now).2.2.1 := rfl

@[simp] theorem updateConnectionState_disablePeerScoring :
    (db.updateConnectionState peerId newState now).1.disablePeerScoring = db.disablePeerScoring :=
  rfl

theorem banAdjusted_isDisconnected :
    (db.banAdjusted peerId newState).isDisconnected = (db.entry peerId).isDisconnected := by
  unfold PeerInfo.isDisconnected
  rw [banAdjusted_connectionStatus]

theorem banAdjusted_isBanned :
    (db.banAdjusted peerId newState).isBanned = (db.entry peerId).isBanned := by
  unfold PeerInfo.isBanned
  rw [banAdjusted_connectionStatus]

theorem banAdjusted_bannedIpWeight (ip : IpAddr) :
    (db.banAdjusted peerId newState).bannedIpWeight ip = (db.entry peerId).bannedIpWeight ip := by
  unfold PeerInfo.bannedIpWeight
  rw [banAdjusted_isBanned, banAdjusted_seenIpAddresses]

/-- The peer's record weighs at most the whole map. -/
theorem entry_le_weight (f : PeerInfo → Nat) (onDefault : f PeerInfo.default = 0)
    (onTrusted : f PeerInfo.trustedPeerInfo = 0) : f (db.entry peerId) ≤ weight f db.peers :=
  entryWeight_entry db peerId f onDefault onTrusted ▸ entryWeight_le peerId f db.peers

/-- Over a transition, a weight changes by the change of the peer's record. -/
theorem updateConnectionState_weight (f : PeerInfo → Nat) (onDefault : f PeerInfo.default = 0)
    (onTrusted : f PeerInfo.trustedPeerInfo = 0) :
    weight f (db.updateConnectionState peerId newState now).1.peers + f (db.entry peerId) =
      weight f db.peers + f (transition (db.banAdjusted peerId newState) db.disconnectedPeers
        db.bannedPeersCount newState now).1 := by
  rw [updateConnectionState_peers, ← entryWeight_entry db peerId f onDefault onTrusted]
  exact weight_insert f db.peers peerId _

end Entry

section Preservation

variable {db : PeerDB} (peerId : PeerId) (newState : NewConnectionState) (now : Instant)

/-- Every transition keeps the disconnected counter exact. -/
theorem updateConnectionState_disconnectedAgree (agree : db.DisconnectedAgree) :
    (db.updateConnectionState peerId newState now).1.DisconnectedAgree := by
  have weights := updateConnectionState_weight db peerId newState now
    (fun info => info.isDisconnected.toNat) rfl rfl
  have enough := entry_le_weight db peerId (fun info => info.isDisconnected.toNat) rfl rfl
  have moved := transition_disconnected_accounting (db.banAdjusted peerId newState)
    db.disconnectedPeers db.bannedPeersCount newState now
    (by rw [banAdjusted_isDisconnected, agree]; exact enough)
  rw [banAdjusted_isDisconnected] at moved
  dsimp only at weights enough
  unfold DisconnectedAgree count at *
  rw [updateConnectionState_disconnectedPeers]
  omega

/-- Every transition keeps the banned counter an upper bound of the banned peers. -/
theorem updateConnectionState_bannedBounded (bounded : db.BannedBounded) :
    (db.updateConnectionState peerId newState now).1.BannedBounded := by
  have weights := updateConnectionState_weight db peerId newState now
    (fun info => info.isBanned.toNat) rfl rfl
  have enough := entry_le_weight db peerId (fun info => info.isBanned.toNat) rfl rfl
  have moved := transition_banned_le (db.banAdjusted peerId newState)
    db.disconnectedPeers db.bannedPeersCount newState now
    (by rw [banAdjusted_isBanned]; exact enough.trans bounded)
  rw [banAdjusted_isBanned] at moved
  dsimp only at weights enough
  unfold BannedBounded count at *
  rw [updateConnectionState_bannedPeersCount]
  omega

/-- A transition keeps all three counters exact, unless it sends a banned peer
to `Disconnecting`. -/
theorem updateConnectionState_countersAgree (agree : db.CountersAgree)
    (notSlip : (db.entry peerId).isBanned → ∀ toBan, newState ≠ .disconnecting toBan) :
    (db.updateConnectionState peerId newState now).1.CountersAgree := by
  have notSlip' : (db.banAdjusted peerId newState).isBanned → ∀ toBan, newState ≠ .disconnecting toBan :=
    banAdjusted_isBanned db peerId newState ▸ notSlip
  refine ⟨updateConnectionState_disconnectedAgree peerId newState now agree.disconnected, ?_, ?_⟩
  · have weights := updateConnectionState_weight db peerId newState now
      (fun info => info.isBanned.toNat) rfl rfl
    have enough := entry_le_weight db peerId (fun info => info.isBanned.toNat) rfl rfl
    have moved := transition_banned_accounting (db.banAdjusted peerId newState)
      db.disconnectedPeers db.bannedPeersCount newState now notSlip'
      (by rw [banAdjusted_isBanned, agree.banned]; exact enough)
    rw [banAdjusted_isBanned] at moved
    dsimp only at weights enough
    have counted := agree.banned
    unfold count at *
    rw [updateConnectionState_bannedPeersCount]
    omega
  · intro ip
    have weights := updateConnectionState_weight db peerId newState now
      (PeerInfo.bannedIpWeight ip) rfl rfl
    have enough := entry_le_weight db peerId (PeerInfo.bannedIpWeight ip) rfl rfl
    have moved := transition_bannedIp_accounting (db.banAdjusted peerId newState)
      db.disconnectedPeers db.bannedPeersCount newState now notSlip' ip
      (by rw [banAdjusted_bannedIpWeight, agree.bannedPerIp ip]; exact enough)
    rw [banAdjusted_bannedIpWeight] at moved
    have counted := agree.bannedPerIp ip
    rw [updateConnectionState_bannedPeersCount]
    omega

/-- The excepted branch is reachable: after a peer is banned, a
`notify_disconnecting` moves it to `Disconnecting` and the counters still count
it, with its address, as banned. -/
theorem notifyDisconnecting_keeps_ban_counters :
    let db : PeerDB := (new [] false).run [(0, .connectIngoing 1 (some 7)), (1, .reportPeer 1 .fatal),
      (2, .injectDisconnect 1), (3, .notifyDisconnecting 1 false)]
    db.connectionStatus 1 = some (.disconnecting false) ∧
      db.bannedPeersCount.bannedPeers = 1 ∧ count PeerInfo.isBanned db.peers = 0 ∧
      db.bannedPeersCount.bannedPeersPerIp 7 = 1 ∧ weight (PeerInfo.bannedIpWeight 7) db.peers = 0 := by
  decide

end Preservation

section BanRoundTrip

variable {db : PeerDB} {peerId : PeerId} {info : PeerInfo} (found : db.peers.lookup peerId = some info)
include found

theorem entry_of_lookup : db.entry peerId = info := by
  rw [entry, found, Option.getD_some]

/-- Banning a disconnected peer: it becomes `Banned` from now on, one
disconnected peer fewer and one banned peer more, on each of its addresses. -/
theorem updateConnectionState_banned_of_disconnected {since : Instant}
    (disconnected : info.connectionStatus = .disconnected since) (now : Instant) :
    (db.updateConnectionState peerId .banned now).1 =
      db.write peerId ((db.banAdjusted peerId .banned).setConnectionStatus (.banned now))
        (db.disconnectedPeers - 1) (db.bannedPeersCount.addBannedPeer info.seenIpAddresses) := by
  have status : (db.banAdjusted peerId .banned).connectionStatus = .disconnected since := by
    rw [banAdjusted_connectionStatus, entry_of_lookup found, disconnected]
  rw [updateConnectionState_fst]
  simp only [transition, status, banAdjusted_seenIpAddresses, entry_of_lookup found]

/-- Unbanning a banned peer: it becomes `Disconnected` since its ban, one
disconnected peer more and one banned peer fewer, on each of its addresses. -/
theorem updateConnectionState_unbanned_of_banned {since : Instant} (banned : info.connectionStatus = .banned since)
    (now : Instant) :
    (db.updateConnectionState peerId .unbanned now).1 =
      db.write peerId (info.setConnectionStatus (.disconnected since)) (db.disconnectedPeers + 1)
        (db.bannedPeersCount.removeBannedPeer info.seenIpAddresses) := by
  have same : db.banAdjusted peerId .unbanned = info := by
    unfold banAdjusted
    exact entry_of_lookup found
  rw [updateConnectionState_fst]
  simp only [transition, same, banned]

end BanRoundTrip

/-- Banning a disconnected peer and unbanning it again returns it to
`Disconnected` and restores all three counters, whatever the peer's addresses:
the unbanning removes exactly the addresses the ban added. No other record
changes. -/
theorem ban_unban_restores_counters {db : PeerDB} {peerId : PeerId} (agree : db.DisconnectedAgree)
    {since : Instant} (disconnected : db.connectionStatus peerId = some (.disconnected since))
    (bannedAt unbannedAt : Instant) :
    let after := ((db.updateConnectionState peerId .banned bannedAt).1.updateConnectionState peerId .unbanned
      unbannedAt).1
    after.connectionStatus peerId = some (.disconnected bannedAt) ∧ after.disconnectedPeers = db.disconnectedPeers ∧
      after.bannedPeersCount.bannedPeers = db.bannedPeersCount.bannedPeers ∧
      (∀ ip, after.bannedPeersCount.bannedPeersPerIp ip = db.bannedPeersCount.bannedPeersPerIp ip) ∧
      ∀ other, other ≠ peerId → after.peers.lookup other = db.peers.lookup other := by
  obtain ⟨info, found, status⟩ : ∃ info, db.peers.lookup peerId = some info ∧
      info.connectionStatus = .disconnected since := by
    simpa only [connectionStatus, peerInfo, Option.map_eq_some'] using disconnected
  have counted : 1 ≤ db.disconnectedPeers := by
    have present := entryWeight_le peerId (fun info => info.isDisconnected.toNat) db.peers
    have isDisconnected : info.isDisconnected = true := by rw [PeerInfo.isDisconnected, status]
    simp only [entryWeight, found, Option.map_some', Option.getD_some, isDisconnected, Bool.toNat_true] at present
    unfold DisconnectedAgree count at agree
    omega
  have bannedFound : (db.updateConnectionState peerId .banned bannedAt).1.peers.lookup peerId =
      some ((db.banAdjusted peerId .banned).setConnectionStatus (.banned bannedAt)) := by
    rw [updateConnectionState_banned_of_disconnected found status, write_peers, AList.lookup_insert]
  intro after
  have unbanned := updateConnectionState_unbanned_of_banned bannedFound rfl unbannedAt
  rw [updateConnectionState_banned_of_disconnected found status] at unbanned
  have reached : after = _ := (congrArg (fun banned : PeerDB => (banned.updateConnectionState peerId .unbanned
    unbannedAt).1) (updateConnectionState_banned_of_disconnected found status bannedAt)).trans unbanned
  rw [reached]
  simp only [write, PeerInfo.setConnectionStatus, banAdjusted_seenIpAddresses, entry_of_lookup found]
  refine ⟨by simp only [connectionStatus, peerInfo, AList.lookup_insert, Option.map_some'], by omega, by simp, by simp,
    fun other different => by rw [AList.lookup_insert_ne different, AList.lookup_insert_ne different]⟩

theorem ban_unban_restores_counters_reconnected :
    let db := (new [] false).run [(0, .connectIngoing 1 (some 7)), (1, .injectDisconnect 1),
      (2, .connectIngoing 1 (some 7)), (3, .injectDisconnect 1)]
    let after := ((db.updateConnectionState 1 .banned 4).1.updateConnectionState 1 .unbanned 5).1
    db.DisconnectedAgree ∧ db.connectionStatus 1 = some (.disconnected 3) ∧
      (after.connectionStatus 1 = some (.disconnected 4) ∧ after.disconnectedPeers = db.disconnectedPeers ∧
        after.bannedPeersCount.bannedPeers = db.bannedPeersCount.bannedPeers ∧
        (∀ ip, after.bannedPeersCount.bannedPeersPerIp ip = db.bannedPeersCount.bannedPeersPerIp ip) ∧
        ∀ other, other ≠ 1 → after.peers.lookup other = db.peers.lookup other) := by
  intro db _
  have agree : db.DisconnectedAgree := rfl
  have disconnected : db.connectionStatus 1 = some (.disconnected 3) := rfl
  exact ⟨agree, disconnected, ban_unban_restores_counters agree disconnected 4 5⟩

end PeerDB

end Eth2Libp2p
